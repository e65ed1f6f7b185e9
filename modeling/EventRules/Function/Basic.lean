import EventRules.Enrichment.Store

/-!
# Functions

A function that expressions can call. A function with state is set up before its first use and closed at the
end. What a function answers may depend on all that has been done with it and with other functions before: that
history is passed to it, so a counter is a function like any other.
-/

namespace EventRules

/-- What functions reach beside their arguments. -/
structure Context where
  store : Option RecordSource := none
  deriving Inhabited

/-- What can be done with a function. -/
inductive Action where
  | setUp
  | apply (args : List Value)
  | close
  deriving Repr

/-- Something that was done with the function of the given number, and whether it succeeded. -/
structure Occurrence where
  owner : Nat
  action : Action
  succeeded : Bool
  deriving Repr

/-- All that has been done with functions, the latest first. -/
abbrev History := List Occurrence

/-- Where a function is called: its surroundings, its own number and the history. -/
structure Situation where
  context : Context
  self : Nat
  past : History

/-- A function. Setting it up and closing it may fail; only to apply it may break off. -/
structure Function where
  stateful : Bool := false
  setUp : Situation → Except Error Unit := fun _ => .ok ()
  apply : Situation → List Value → Except Halt Value
  close : Situation → Except Error Unit := fun _ => .ok ()

/-- A function without state whose answer depends on its arguments only. -/
def Function.ofArgs (f : List Value → Except Halt Value) : Function where
  apply _ args := f args

/-- The description of a function in the catalog. -/
structure FunctionInfo where
  name : String
  description : String := ""
  params : List String := []
  returns : String := ""
  deriving DecidableEq, Repr, Inhabited

end EventRules
