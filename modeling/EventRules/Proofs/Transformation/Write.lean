import EventRules.Proofs.Json.Members
import EventRules.Proofs.Value.RoundTrip
import EventRules.Transformation.Fields

/-!
# Writing outputs to an event

An event with outputs written to it has under every field that was assigned what is stored for the
value, nothing for null, and under all other keys what it had before. A resolver on it finds the values
again.
-/

namespace EventRules.Transformation

variable {event : Members}

/-- What an event has under a field with the value; nothing for null. -/
def stored (v : Value) : Option Document :=
  if v.isNull then none else some v.toDocument

/-- What is stored for a value is read as the value again. -/
lemma ofDocument_stored {v : Value} (h : v.WellFormed) (hfinite : v.Finite) :
    ((stored v).map Value.ofDocument).getD .null = v := by
  rw [stored]
  split
  case isTrue hnull =>
    cases v with
    | null => rfl
    | _ => cases hnull
  case isFalse => exact Value.ofDocument_toDocument h hfinite

/-- Writing a field leaves at most one member for each key. -/
lemma distinct_writeField (h : event.Distinct) (output : String × Value) : (writeField event output).Distinct := by
  unfold writeField
  split
  · exact h.remove output.1
  · exact h.insert output.1 _

/-- After writing a field an event has the new value there and its old members elsewhere. -/
lemma get?_writeField (h : event.Distinct) (output : String × Value) (key : String) :
    (writeField event output).get? key = if key = output.1 then stored output.2 else event.get? key := by
  rw [writeField, stored]
  split
  · exact Members.get?_remove h output.1 key
  · exact Members.get?_insert event output.1 _ key

/-- Writing several fields leaves at most one member for each key. -/
lemma distinct_write (h : event.Distinct) (outputs : List (String × Value)) : (write event outputs).Distinct := by
  induction outputs generalizing event with
  | nil => exact h
  | cons output outputs ih => exact ih (distinct_writeField h output)

/-- Of the values that are written to a field the last one counts. -/
theorem get?_write_last (h : event.Distinct) (outputs : List (String × Value)) (key : String) :
    (write event outputs).get? key = (outputs.reverse.lookup key).elim (event.get? key) stored := by
  induction outputs generalizing event with
  | nil => rfl
  | cons output outputs ih =>
    rw [List.reverse_cons, List.lookup_append]
    show (write (writeField event output) outputs).get? key = _
    rw [ih (distinct_writeField h output), get?_writeField h]
    cases outputs.reverse.lookup key with
    | some v => rfl
    | none =>
      rw [Option.none_or, List.lookup_cons]
      by_cases hkey : key = output.1
      · rw [if_pos hkey, beq_iff_eq.2 hkey]
        rfl
      · rw [if_neg hkey, beq_false_of_ne hkey]
        rfl

/-- The output for a field is its value, if it is one of the fields that are written. -/
lemma lookup_outputs (fields : List String) (value : String → Value) (key : String) :
    (fields.map fun field => (field, value field)).lookup key = if key ∈ fields then some (value key) else none := by
  induction fields with
  | nil => rfl
  | cons field fields ih =>
    rw [List.map_cons, List.lookup_cons, ih]
    by_cases hkey : key = field
    · subst hkey
      rw [if_pos List.mem_cons_self, beq_self_eq_true]
    · rw [beq_false_of_ne hkey]
      simp only [List.mem_cons, hkey, false_or]

/-- Under an assigned field is what is stored for its value, and nothing else has changed. -/
theorem get?_write (h : event.Distinct) (fields : List String) (value : String → Value) (key : String) :
    (write event (fields.map fun field => (field, value field))).get? key =
      if key ∈ fields then stored (value key) else event.get? key := by
  rw [get?_write_last h, ← List.map_reverse, lookup_outputs]
  simp only [List.mem_reverse]
  split <;> rfl

/-- The variables of an event with outputs written to it are the outputs, laid over those of the event. -/
theorem ofEvent_write (h : event.Distinct) (fields : List String) (value : String → Value)
    (hfields : ∀ field ∈ fields, (value field).WellFormed ∧ (value field).Finite) (key : String) :
    Resolver.ofEvent (write event (fields.map fun field => (field, value field))) key =
      if key ∈ fields then value key else Resolver.ofEvent event key := by
  rw [Resolver.ofEvent, get?_write h]
  split
  case isTrue hmem => exact ofDocument_stored (hfields key hmem).1 (hfields key hmem).2
  case isFalse => rfl

end EventRules.Transformation
