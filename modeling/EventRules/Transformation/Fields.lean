import EventRules.Engine.Basic

/-!
# Field transformations

A transformation is a list of assignments of expressions to fields of an event. An expression sees the fields
assigned before it; a field whose last value is null is removed from the event.
-/

namespace EventRules

/-- Assignments of expressions to fields, in order. -/
structure Transformation where
  assignments : List (String × String) := []
  deriving DecidableEq, Repr, Inhabited

namespace Transformation

/-- An assignment as a member of an object: the field and the expression as a text. -/
def assignmentOfMember (member : String × Document) : Except Error (String × String) :=
  match member.2 with
  | .string expression => .ok (member.1, expression)
  | _ => .error (.invalidConfig (.assignmentNotText member.1))

/-- An assignment as a line `field := expression`. -/
def assignmentOfLine (line : Document) : Except Error (String × String) :=
  match line.string?.bind fun s => Text.splitOnce? s ":=" with
  | some (field, expression) => .ok (Text.trim field, Text.trim expression)
  | none => .error (.invalidConfig (.lineNotAssignment line.compact))

/-- The transformation that a document writes: an object of expressions by field, or an array of lines. -/
def ofDocument : Document → Except Error Transformation
  | .object members => return ⟨← members.mapM assignmentOfMember⟩
  | .array lines => return ⟨← lines.mapM assignmentOfLine⟩
  | d => .error (.invalidConfig (.transformationShape d.compact))

/-- Validates assignments in order. -/
def validateAssignments : List (String × String) → Run Engine Unit
  | [] => return
  | (field, expression) :: rest => do
    if field.isEmpty then throw (.invalidConfig (.emptyField expression))
    discard (Engine.validate expression)
    validateAssignments rest

/-- Every field needs a name and every expression has to be valid. -/
def validate (t : Transformation) : Run Engine Unit :=
  validateAssignments t.assignments

/-- Evaluates assignments in order, over the values computed so far. -/
def compute (base : Resolver) (computed : Entries) : List (String × String) → Evaluation Engine Entries
  | [] => return computed
  | (field, expression) :: rest => do
    let value ← Engine.evaluate expression (Resolver.layered computed base)
    compute base (Keyed.insert computed field value) rest

/-- The last value of every assigned field, in the order of first assignment. -/
def evaluate (t : Transformation) (base : Resolver) : Evaluation Engine (List (String × Value)) := do
  let computed ← compute base [] t.assignments
  let fields := (t.assignments.map (·.1)).eraseDups
  return fields.map fun field => (field, (Keyed.get? computed field).getD .null)

/-- Writes a field into an event; null removes it. -/
def writeField (event : Members) (output : String × Value) : Members :=
  if output.2.isNull then event.remove output.1 else event.insert output.1 output.2.toDocument

/-- Writes fields into an event, one after the other. -/
def write (event : Members) (outputs : List (String × Value)) : Members :=
  outputs.foldl writeField event

/-- The event with the assignments applied to it. -/
def apply (t : Transformation) (event : Members) : Evaluation Engine Members := do
  return write event (← t.evaluate (Resolver.ofEvent event))

end Transformation

end EventRules
