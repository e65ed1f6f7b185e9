import EventRules.Evaluation.Resolver
import EventRules.Proofs.Function.Catalog

/-!
# Values of variables

A name that is a path leads into the value of another name, so what holds of the values of all names
and survives evaluation holds of all that a variable can stand for.
-/

namespace EventRules

variable {V : Value → Prop} {v : Value} {r : Resolver} {overlay : Entries}

/-- A step into a value stays among values that are closed under steps. -/
lemma Segment.step_closed (hV : Value.Closed V) (hv : V v) (segment : Segment) : V (segment.step v) := by
  unfold Segment.step
  split
  case h_1 entries name => exact hV.getD fun w hw => hV.entry entries name w hv hw
  case h_2 entries position => exact hV.getD fun w hw => hV.entry entries (toString position) w hv hw
  case h_3 items position => exact hV.getD fun w hw => (hV.list items).1 hv w (List.mem_of_getElem? hw)
  case h_4 => exact hV.null

namespace Resolver

/-- The value of a variable has the property, be it that of its name or one at the end of a path. -/
lemma lookup_closed (hV : Value.Closed V) (h : ∀ name, V (r name)) (name : String) :
    Yields V (fun _ => True) (r.lookup name) := by
  have hpath (segments : List Segment) (v : Value) (hv : V v) : V (segments.foldl Segment.step v) := by
    induction segments generalizing v with
    | nil => exact hv
    | cons segment segments ih => exact ih _ (segment.step_closed hV hv)
  simp only [lookup]
  split
  · exact .ok (h name)
  · split
    · exact .ok (hpath _ _ (h _))
    · exact .ok hV.null
    · exact .error trivial

/-- A layered resolver gives values of the overlay or of the resolver below. -/
lemma layered_closed (hV : ∀ key v, Keyed.get? overlay key = some v → V v) (h : ∀ name, V (r name)) (name : String) :
    V (layered overlay r name) := by
  rw [layered]
  cases hget : Keyed.get? overlay name with
  | some v => exact hV name v hget
  | none => exact h name

end Resolver

end EventRules
