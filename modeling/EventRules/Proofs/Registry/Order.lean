import EventRules.Proofs.Evaluation.Orderly
import EventRules.Proofs.Registry.Operations

/-!
# Order of the applications of a registry

An evaluation on a registry is orderly, and the applications in its trace are those that the history
of the registry tells.
-/

namespace EventRules

/-- Whether a function is applied. -/
def Action.isApply : Action → Bool
  | .apply _ => true
  | _ => false

/-- What the history of a registry tells of an event, if a function is applied. -/
def Expr.Event.occurrence? : Expr.Event Registration → Option Occurrence
  | .applied _ e args result => some ⟨e.id, .apply args, result.isOk⟩
  | _ => none

namespace Registry

open EventRules.Expr

variable {r r' : Registry} {events : List (Event Registration)}

/-- To resolve a name applies nothing. -/
lemma resolve_past (name : String) (r : Registry) :
    ∃ new, (resolve name r).2.past = new ++ r.past ∧ ∀ o ∈ new, o.action.isApply = false := by
  have hres := resolution name r
  generalize (resolve name r).1 = result, (resolve name r).2 = next at hres
  cases hres with
  | first =>
    refine ⟨[_], rfl, fun o ho => ?_⟩
    rw [List.mem_singleton.1 ho]
    rfl
  | _ => exact ⟨[], rfl, nofun⟩

/-- The history tells the applications among the events that led from one registry to another. -/
lemma history_of_replays (h : Replays calls r events r') :
    ∃ new, r'.past = new ++ r.past ∧
      new.reverse.filter (·.action.isApply) = events.filterMap Event.occurrence? := by
  induction h with
  | nil r => exact ⟨[], rfl, rfl⟩
  | began _ ih => exact ih
  | ended _ ih => exact ih
  | @resolved r node name result next events last hres _ ih =>
    obtain ⟨new, hpast, hnew⟩ := resolve_past name r
    obtain ⟨new', hpast', hnew'⟩ := ih
    have hnext : next = (resolve name r).2 := (congrArg Prod.snd hres).symm
    refine ⟨new' ++ new, ?_, ?_⟩
    · rw [hpast', hnext, hpast, List.append_assoc]
    · have hnone : new.reverse.filter (·.action.isApply) = [] := by
        refine List.filter_eq_nil_iff.2 fun o ho => ?_
        rw [hnew o (List.mem_reverse.1 ho)]
        exact Bool.false_ne_true
      rw [List.reverse_append, List.filter_append, hnone, hnew']
      rfl
  | @applied r node e args result next events last happly _ ih =>
    obtain ⟨new, hpast, hnew⟩ := ih
    obtain ⟨hresult, rfl⟩ := Prod.mk.inj happly
    refine ⟨new ++ [⟨e.id, .apply args, result.isOk⟩], ?_, ?_⟩
    · rw [hpast, List.append_assoc, ← hresult]
      rfl
    · rw [List.reverse_append, List.filter_append, hnew]
      rfl

/-- The order of an evaluation. However the functions of a registry behave, the trace of an evaluation
ends with its result, does to the registry what the evaluation does, and is orderly. The applications
in it are those that the history of the registry tells. An expression in which nothing branches applies
all its calls, if it has a value. -/
theorem evaluate_orderly (e : Expr) (vars : Resolver) (r : Registry) :
    (e.trace calls vars [] r).getLast? = some (.ended [] (e.evaluate calls vars r).1) ∧
    Replays calls r (e.trace calls vars [] r) (e.evaluate calls vars r).2 ∧
    (∃ new, (e.evaluate calls vars r).2.past = new ++ r.past ∧
      new.reverse.filter (·.action.isApply) = (e.trace calls vars [] r).filterMap Event.occurrence?) ∧
    Orderly e (e.trace calls vars [] r) ∧
    (∀ node, node ∈ e.postOrder [] ↔ ∃ name args, e.at? node = some (.call name args)) ∧
    (e.postOrder []).Nodup ∧
    (e.Straight → (e.evaluate calls vars r).1.isOk = true →
      (e.trace calls vars [] r).filterMap Event.appliedAt? = e.postOrder []) := by
  have hreplays := replays_trace calls vars e [] r
  refine ⟨?_, hreplays, history_of_replays hreplays, orderly_trace e r, fun node => mem_postOrder,
    nodup_postOrder e [], fun h hok => applied_straight h hok []⟩
  rw [trace_eq, ← List.cons_append, List.getLast?_append]
  rfl

/-- A call within a call is applied first. -/
theorem evaluate_orderly_nested :
    let entry : Registration := { info := { name := "ID" }, id := 0, function := .ofArgs fun _ => .ok .null }
    let r : Registry := { table := [("ID", entry)], nextId := 1 }
    let e : Expr := .call "ID" [.call "ID" [], .literal .null]
    e.Straight ∧ (e.evaluate calls .empty r).1.isOk = true ∧
      (e.trace calls .empty [] r).filterMap Event.appliedAt? = [[0], []] := by
  intro entry r e
  have hstraight : e.Straight := by simp [e, Straight, nodes, nodesOfItems, isBranching]
  have hok : (e.evaluate calls .empty r).1.isOk = true := rfl
  have hinner (node : Address) : (Expr.call "ID" []).postOrder node = [node] := by
    rw [postOrder_eq]
    rfl
  have hliteral (node : Address) : (Expr.literal .null).postOrder node = [] := by
    rw [postOrder_eq]
    rfl
  have horder : e.postOrder [] = [[0], []] := by
    rw [postOrder_eq]
    simp [e, parts, isCall, hinner, hliteral]
  obtain ⟨-, -, -, -, -, -, hall⟩ := evaluate_orderly e .empty r
  exact ⟨hstraight, hok, (hall hstraight hok).trans horder⟩
end Registry

end EventRules
