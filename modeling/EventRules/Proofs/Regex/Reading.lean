import EventRules.Regex.Syntax
import Mathlib.Data.List.Infix
import Mathlib.Tactic.Lemma

/-!
# Reading a pattern in a group

Put into a group between the two ends of a text, a pattern has a closing parenthesis and the escape of the end behind
it. A reader that passes a part of the pattern by itself does the same there, unless it goes past that parenthesis
(`Local`). This is shown here of the readers of characters and escapes.
-/

namespace EventRules.Regex

open Text

/-- What stands behind a pattern in a group between the ends of a text. -/
def closing : List Char :=
  [')', '\\', 'z']

/-- The scan with that behind it. -/
def Scan.enclosed (s : Scan) : Scan :=
  { s with rest := s.rest ++ closing }

variable {α β : Type} {mark c : Char} {least most : Nat} {s t : Scan} {cs : List Char}

/-- Whatever leaves an end of the text has passed what comes before it. -/
lemma exists_used (h : t.rest <:+ s.rest) : ∃ used, s.rest = used ++ t.rest ∧ 0 ≤ used.length := by
  obtain ⟨used, hused⟩ := h
  exact ⟨used, hused.symm, Nat.zero_le _⟩

/-- The reader passes that many characters or more. -/
def Reads (least : Nat) (m : Reading α) : Prop :=
  ∀ s x s', m.run s = some (x, s') → ∃ used, s.rest = used ++ s'.rest ∧ least ≤ used.length

namespace Reads

variable {m : Reading α} {f : α → Reading β}

/-- A reader that gives a value without reading passes nothing. -/
lemma pure (a : α) : Reads 0 (Pure.pure a : Reading α) := by
  intro s x s' h
  cases h
  exact exists_used (List.suffix_refl _)

/-- A reader that always fails passes as much as one likes. -/
lemma failure : Reads least (failure : Reading α) :=
  fun _ _ _ h => by cases h

/-- To pass more is to pass less. -/
lemma mono (h : Reads most m) (hle : least ≤ most) : Reads least m := by
  intro s x s' hrun
  obtain ⟨used, hused, hlength⟩ := h s x s' hrun
  exact ⟨used, hused, Nat.le_trans hle hlength⟩

/-- Readers in sequence pass what both of them do. -/
lemma bind (hm : Reads least m) (hf : ∀ x, Reads most (f x)) : Reads (least + most) (m >>= f) := by
  intro s y s'' h
  obtain ⟨⟨x, s'⟩, hx, hy⟩ := Option.bind_eq_some_iff.1 h
  obtain ⟨used, hused, hlength⟩ := hm s x s' hx
  obtain ⟨used', hused', hlength'⟩ := hf x s' y s'' hy
  refine ⟨used ++ used', by rw [hused, hused', List.append_assoc], ?_⟩
  rw [List.length_append]
  omega

/-- What is left is an end of what there was. -/
lemma suffix (h : Reads least m) {x : α} (hrun : m.run s = some (x, t)) : t.rest <:+ s.rest := by
  obtain ⟨used, hused, -⟩ := h s x t hrun
  exact ⟨used, hused.symm⟩

/-- A mark that does not come cannot come later. -/
lemma notMem (h : Reads least m) {x : α} (hrun : m.run s = some (x, t)) (hmark : mark ∉ s.rest) : mark ∉ t.rest :=
  fun hmem => hmark ((h.suffix hrun).subset hmem)

/-- What is left is shorter by the characters that are passed. -/
lemma length_le (h : Reads least m) {x : α} (hrun : m.run s = some (x, t)) :
    t.rest.length + least ≤ s.rest.length := by
  obtain ⟨used, hused, hlength⟩ := h s x t hrun
  rw [hused, List.length_append]
  omega

end Reads

/-- In the group the first reader gives what the second gives for the pattern by itself, and leaves what that leaves,
unless it loses its way. -/
def Follows (lost : α → Scan → Prop) (s : Scan) (m m' : Reading α) : Prop :=
  ∀ x s', m.run s.enclosed = some (x, s') → lost x s' ∨ ∃ t, s' = t.enclosed ∧ m'.run s = some (x, t)

/-- Nothing is left of a character that has yet to come. -/
def Misses (mark : Char) (_ : α) (s : Scan) : Prop :=
  mark ∉ s.rest

namespace Follows

variable {lost : α → Scan → Prop} {lost' : β → Scan → Prop} {m m' : Reading α} {f f' : α → Reading β}

/-- With more ways to lose its way, a reader still follows. -/
lemma mono {lost' : α → Scan → Prop} (h : Follows lost s m m') (hlost : ∀ x s', lost x s' → lost' x s') :
    Follows lost' s m m' :=
  fun x s' hrun => (h x s' hrun).imp_left (hlost x s')

/-- In the group a reader that fails never has to follow anything. -/
lemma failure : Follows lost s failure m' :=
  fun _ _ h => by cases h

/-- A reader that has lost its way may fail later, or be lost then. -/
lemma bind (hm : Follows lost s m m')
    (hlost : ∀ x s', lost x s' → ∀ y s'', (f x).run s' = some (y, s'') → lost' y s'')
    (hf : ∀ x t, m'.run s = some (x, t) → Follows lost' t (f x) (f' x)) :
    Follows lost' s (m >>= f) (m' >>= f') := by
  intro y s'' h
  obtain ⟨⟨x, s'⟩, hx, hy⟩ := Option.bind_eq_some_iff.1 h
  rcases hm x s' hx with hlost' | ⟨t, rfl, ht⟩
  · exact .inl (hlost x s' hlost' y s'' hy)
  · rcases hf x t ht y s'' hy with hlost' | ⟨t', rfl, ht'⟩
    · exact .inl hlost'
    · refine .inr ⟨t', rfl, ?_⟩
      show (m'.run s).bind (fun r => (f' r.1).run r.2) = _
      rw [ht]
      exact ht'

end Follows

/-- The reader passes that many characters or more, and does in the group what it does without, unless it goes past
the last of a mark. -/
structure Local (mark : Char) (least : Nat) (m : Reading α) : Prop where
  reads : Reads least m
  follows : ∀ s, Follows (Misses mark) s m m

namespace Local

variable {m : Reading α} {f : α → Reading β} {g : Scan → Reading β} {h : Option Char → Reading β}

/-- A value without reading is the same in the group. -/
lemma pure (a : α) : Local mark 0 (Pure.pure a : Reading α) where
  reads := .pure a
  follows s := by
    intro x s' h
    cases h
    exact .inr ⟨s, rfl, rfl⟩

/-- To fail is the same in the group. -/
lemma failure : Local mark least (failure : Reading α) :=
  ⟨.failure, fun _ => .failure⟩

/-- A local reader is local for a smaller count as well. -/
lemma mono (h : Local mark most m) (hle : least ≤ most) : Local mark least m :=
  ⟨h.reads.mono hle, h.follows⟩

/-- Local readers in sequence are local: what was lost by the first cannot be found by the second. -/
lemma bind (hm : Local mark least m) (hf : ∀ x, Local mark most (f x)) : Local mark (least + most) (m >>= f) where
  reads := hm.reads.bind fun x => (hf x).reads
  follows s := (hm.follows s).bind (fun x _ hlost _ _ hrun => (hf x).reads.notMem hrun hlost)
    fun x t _ => (hf x).follows t

/-- What comes after the first reader passes nothing that counts. -/
lemma andThen (hm : Local mark least m) (hf : ∀ x, Local mark 0 (f x)) : Local mark least (m >>= f) :=
  hm.bind hf

/-- Nothing that is passed counts. -/
lemma before (hm : Local mark least m) (hf : ∀ x, Local mark 0 (f x)) : Local mark 0 (m >>= f) :=
  (hm.mono (Nat.zero_le least)).andThen hf

/-- Whoever looks at the flags alone sees the same in the group. -/
lemma get (hg : ∀ s, g s.enclosed = g s) (h : ∀ s, Local mark least (g s)) :
    Local mark least (MonadState.get >>= g) where
  reads s x s' hrun := (h s).reads s x s' hrun
  follows s x s' hrun := by
    have hrun : (g s.enclosed).run s.enclosed = some (x, s') := hrun
    rw [hg s] at hrun
    exact (h s).follows s x s' hrun

/-- To change the scan is local where the change does not see what is behind the pattern. -/
lemma modify {f : Scan → Scan} (hreads : ∀ s, (f s).rest <:+ s.rest) (hf : ∀ s, f s.enclosed = (f s).enclosed) :
    Local mark 0 (modify f : Reading PUnit) where
  reads s x s' hrun := by
    cases hrun
    exact exists_used (hreads s)
  follows s x s' hrun := by
    cases hrun
    exact .inr ⟨f s, hf s, rfl⟩

/-- A reader that fails on a condition. -/
lemma guarded {condition : Prop} [Decidable condition] {f : Unit → Reading β} (h : Local mark least (f ())) :
    Local mark least (if condition then Alternative.failure >>= f else f ()) := by
  split
  · exact ⟨fun _ _ _ hrun => (by cases hrun), fun _ _ _ hrun => (by cases hrun)⟩
  · exact h

end Local

end EventRules.Regex
