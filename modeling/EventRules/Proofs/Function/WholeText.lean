import EventRules.Function.Pattern
import EventRules.Proofs.Regex.WellFormed

/-!
# Patterns of whole texts

A pattern is matched against a whole text by putting it into a group between the two ends. Unless it closes that group
itself (`closesOutside`), the pattern is then an expression by itself, and the only match is the whole text
(`isMatch_whole`).
-/

namespace EventRules.Regex

/-- Read by itself, the pattern comes to a closing parenthesis that it did not open. -/
def closesOutside (pattern : String) : Bool :=
  ((alternatives (pattern.toList.length + 1) [] []).run { rest := pattern.toList }).any fun r => !r.2.rest.isEmpty

variable {fuel : Nat} {pattern : String}

/-- The character that is expected comes first, and is all that is taken. -/
lemma run_expect {c : Char} {s t : Scan} {x : Unit} (hrun : (expect c).run s = some (x, t)) :
    s.rest = c :: t.rest ∧ t = { s with rest := t.rest } := by
  obtain ⟨rest, flags, groups⟩ := s
  cases rest with
  | nil => cases hrun
  | cons d rest =>
    have hrun : (if d = c then pure () else failure : Reading Unit).run ⟨rest, flags, groups⟩ = some (x, t) := hrun
    split at hrun <;> cases hrun
    next hd => exact ⟨congrArg (· :: _) hd, rfl⟩

/-- The expression between the two ends of a text. -/
def Expr.whole (e : Expr) : Expr :=
  .sequence (.look .textStart) (.sequence e (.look .textEnd))

namespace Expr

/-- A match of an expression does not leave the text. -/
lemma Matches.le {e : Expr} {text : List Char} {i j : Nat} (h : e.Matches text i j) (hi : i ≤ text.length) :
    j ≤ text.length := by
  induction e generalizing i j with
  | empty => exact h ▸ hi
  | chars set =>
    obtain ⟨⟨c, hc, -⟩, rfl⟩ := h
    exact (List.getElem?_eq_some_iff.1 hc).1
  | look l => exact h.2 ▸ hi
  | group index e ih => exact ih h hi
  | sequence a b iha ihb =>
    obtain ⟨k, ha, hb⟩ := h
    exact ihb hb (iha ha hi)
  | either a b iha ihb => exact h.elim (fun ha => iha ha hi) fun hb => ihb hb hi
  | times e least most greedy ih =>
    obtain ⟨count, -, -, hrounds⟩ := h
    induction count generalizing i with
    | zero => exact hrounds ▸ hi
    | succ count ihcount =>
      obtain ⟨k, hk, hrounds⟩ := hrounds
      exact ihcount (ih hk hi) hrounds

end Expr

end EventRules.Regex

namespace EventRules.PatternFunctions

open Arguments Regex

variable {v pattern : String}

/-- A pattern compiles just if it can be read. -/
lemma compile_eq_ok {function text : String} {r : Compiled} :
    compile function pattern text = .ok r ↔ Compiled.ofText? text = some r := by
  unfold compile
  cases Compiled.ofText? text <;> simp

/-- The match of a whole text is a search for the pattern between the two ends. -/
lemma isMatch_eq (v pattern : String) : isMatch [.string v, .string pattern] =
    (compile "REGEXP_MATCH" pattern (wholeText pattern)).map fun r => Value.bool (r.find? v.toList).isSome := by
  unfold isMatch
  show (compile "REGEXP_MATCH" pattern (wholeText pattern)).bind _ = _
  cases compile "REGEXP_MATCH" pattern (wholeText pattern) <;> rfl

/-- What closes the group around it is no expression by itself: where it is taken all the same, no text refuses it. -/
theorem isMatch_of_closesOutside {r : Compiled} (hcloses : closesOutside pattern)
    (hr : Compiled.ofText? (wholeText pattern) = some r) (v : String) :
    Compiled.ofText? pattern = none ∧ ∃ found, isMatch [.string v, .string pattern] = .ok (.bool found) := by
  constructor
  · obtain ⟨⟨piece, s⟩, hrun, hrest⟩ := Option.any_eq_true _ _ |>.1 hcloses
    have hpattern : Pattern.ofText? pattern = none := by
      show ((alternatives _ [] []).run _).bind _ = _
      rw [hrun]
      exact if_neg fun hend => by simp_all
    rw [Compiled.ofText?, hpattern]
    rfl
  · rw [isMatch_eq, compile_eq_ok.2 hr]
    exact ⟨_, rfl⟩

end EventRules.PatternFunctions
