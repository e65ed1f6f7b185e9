import EventRules.Regex.Match
import Mathlib.Tactic.Lemma

/-!
# What a search finds

`Expr.Matches` says which parts of a text an expression matches, by its shape and without a program. A search finds
nothing else: the ends of the whole match that it notes are those of such a part (`Program.search_matches`).
`Leads` are the ways through a program. Wherever one enters the code of an expression, it matches the expression
before it goes on behind it (`Expr.build_enters`).
-/

namespace EventRules.Regex

open Text

/-- Related by so many steps. -/
def Rounds (R : Nat → Nat → Prop) : (count : Nat) → (i j : Nat) → Prop
  | 0, i, j => i = j
  | count + 1, i, j => ∃ k, R i k ∧ Rounds R count k j

/-- Rounds can be made one after the other. -/
lemma Rounds.add {R : Nat → Nat → Prop} {m n i j k : Nat} (hm : Rounds R m i k) (hn : Rounds R n k j) :
    Rounds R (m + n) i j := by
  induction m generalizing i with
  | zero =>
    cases hm
    rwa [Nat.zero_add]
  | succ m ih =>
    obtain ⟨l, hl, hm⟩ := hm
    rw [Nat.add_right_comm]
    exact ⟨l, hl, ih hm⟩

namespace Expr

/-- The expression matches the part of the text between two places. -/
def Matches (text : List Char) : Expr → (i j : Nat) → Prop
  | empty, i, j => i = j
  | chars set, i, j => (∃ c ∈ text[i]?, set.contains c) ∧ j = i + 1
  | look l, i, j => l.holds (text.take i).getLast? text[i]? ∧ i = j
  | group _ e, i, j => e.Matches text i j
  | sequence a b, i, j => ∃ k, a.Matches text i k ∧ b.Matches text k j
  | either a b, i, j => a.Matches text i j ∨ b.Matches text i j
  | times e least most _, i, j =>
    ∃ count, least ≤ count ∧ (∀ bound ∈ most, count ≤ bound) ∧ Rounds (e.Matches text) count i j

/-- Kept groups are numbered from 1 on, and no repetition asks for more rounds than it allows. -/
def WellFormed : Expr → Prop
  | empty | chars _ | look _ => True
  | group index e => 0 < index ∧ e.WellFormed
  | sequence a b | either a b => a.WellFormed ∧ b.WellFormed
  | times e least most _ => (∀ bound ∈ most, least ≤ bound) ∧ e.WellFormed

end Expr

/-! ## Ways through a program -/

/-- From the instruction, with what has been noted, a way leads on in so many steps from the place to acceptance. -/
inductive Leads (code : Array Instr) (text : List Char) :
    (steps : Nat) → (instr : Nat) → Notes → (index : Nat) → (final : Notes) → Prop
  | accept {s i : Nat} {notes : Notes} : code[s]? = some .accept → Leads code text 0 s notes i notes
  | pass {n s next i : Nat} {notes final : Notes} {set : CharSet} {c : Char} :
    code[s]? = some (.pass set next) → text[i]? = some c → set.contains c →
    Leads code text n next notes (i + 1) final → Leads code text (n + 1) s notes i final
  | check {n s next i : Nat} {notes final : Notes} {l : Look} :
    code[s]? = some (.check l next) → l.holds (text.take i).getLast? text[i]? →
    Leads code text n next notes i final → Leads code text (n + 1) s notes i final
  | note {n s next slot i : Nat} {notes final : Notes} :
    code[s]? = some (.note slot next) →
    Leads code text n next ((slot, i) :: notes) i final → Leads code text (n + 1) s notes i final
  | first {n s first second i : Nat} {notes final : Notes} :
    code[s]? = some (.fork first second) →
    Leads code text n first notes i final → Leads code text (n + 1) s notes i final
  | second {n s first second i : Nat} {notes final : Notes} :
    code[s]? = some (.fork first second) →
    Leads code text n second notes i final → Leads code text (n + 1) s notes i final

section

variable {code : Array Instr} {text : List Char} {R S : Nat → Nat → Prop} {next middle start s t n i slot : Nat}
  {set : CharSet} {l : Look} {greedy : Bool} {notes final : Notes}

namespace Leads

/-- A way on from a set of characters passes one of them. -/
lemma of_pass (h : Leads code text n start notes i final) (hcode : code[start]? = some (.pass set next)) :
    ∃ m, n = m + 1 ∧ (∃ c ∈ text[i]?, set.contains c) ∧ Leads code text m next notes (i + 1) final := by
  cases h with
  | pass h hc hset hleads =>
    cases h.symm.trans hcode
    exact ⟨_, rfl, ⟨_, hc, hset⟩, hleads⟩
  | accept h | check h | note h | first h | second h => cases h.symm.trans hcode

/-- A way on from a look has seen what it looks for. -/
lemma of_check (h : Leads code text n start notes i final) (hcode : code[start]? = some (.check l next)) :
    ∃ m, n = m + 1 ∧ l.holds (text.take i).getLast? text[i]? ∧ Leads code text m next notes i final := by
  cases h with
  | check h hl hleads =>
    cases h.symm.trans hcode
    exact ⟨_, rfl, hl, hleads⟩
  | accept h | pass h | note h | first h | second h => cases h.symm.trans hcode

/-- A way on from a note has the place noted. -/
lemma of_note (h : Leads code text n start notes i final) (hcode : code[start]? = some (.note slot next)) :
    ∃ m, n = m + 1 ∧ Leads code text m next ((slot, i) :: notes) i final := by
  cases h with
  | note h hleads =>
    cases h.symm.trans hcode
    exact ⟨_, rfl, hleads⟩
  | accept h | pass h | check h | first h | second h => cases h.symm.trans hcode

/-- A way on from a fork goes one of two ways, in whatever order they are preferred. -/
lemma of_fork (h : Leads code text n start notes i final) (hcode : code[start]? = some (forkOf greedy s t)) :
    ∃ m, n = m + 1 ∧ (Leads code text m s notes i final ∨ Leads code text m t notes i final) := by
  cases greedy with
  | true =>
    cases h with
    | first h hleads =>
      cases h.symm.trans hcode
      exact ⟨_, rfl, .inl hleads⟩
    | second h hleads =>
      cases h.symm.trans hcode
      exact ⟨_, rfl, .inr hleads⟩
    | accept h | pass h | check h | note h => cases h.symm.trans hcode
  | false =>
    cases h with
    | first h hleads =>
      cases h.symm.trans hcode
      exact ⟨_, rfl, .inr hleads⟩
    | second h hleads =>
      cases h.symm.trans hcode
      exact ⟨_, rfl, .inl hleads⟩
    | accept h | pass h | check h | note h => cases h.symm.trans hcode

end Leads

/-- The way goes on at `next` in no more steps, at a place that is related to the first. In between it notes no end of
the whole match. -/
def GoesOn (code : Array Instr) (text : List Char) (R : Nat → Nat → Prop) (next n : Nat) (notes : Notes) (i : Nat)
    (final : Notes) : Prop :=
  ∃ m added j, m ≤ n ∧ (∀ x ∈ added, 2 ≤ x.1) ∧ R i j ∧ Leads code text m next (added ++ notes) j final

/-- Every way that enters the code at `start` goes on at `next`. -/
def Enters (code : Array Instr) (text : List Char) (R : Nat → Nat → Prop) (next start : Nat) : Prop :=
  ∀ n notes i final, Leads code text n start notes i final → GoesOn code text R next n notes i final

/-- A relation that holds of more places, or a longer way before, asks for less. -/
lemma GoesOn.mono (h : GoesOn code text R next n notes i final) (hRS : ∀ j, R i j → S i j) {m : Nat} (hm : n ≤ m) :
    GoesOn code text S next m notes i final := by
  obtain ⟨l, added, j, hl, hadded, hR, hnext⟩ := h
  exact ⟨l, added, j, Nat.le_trans hl hm, hadded, hRS j hR, hnext⟩

/-- What goes on at `middle` goes on from there. -/
lemma GoesOn.trans {T : Nat → Nat → Prop} (h : GoesOn code text R middle n notes i final)
    (hnext : ∀ m ≤ n, ∀ notes k, R i k → Leads code text m middle notes k final → GoesOn code text S next m notes k final)
    (hT : ∀ k j, R i k → S k j → T i j) : GoesOn code text T next n notes i final := by
  obtain ⟨m, added, k, hm, hadded, hR, hmiddle⟩ := h
  obtain ⟨l, added', j, hl, hadded', hS, hnext⟩ := hnext m hm _ k hR hmiddle
  rw [← List.append_assoc] at hnext
  refine ⟨l, added' ++ added, j, Nat.le_trans hl hm, fun x hx => ?_, hT k j hR hS, hnext⟩
  exact (List.mem_append.1 hx).elim (hadded' x) (hadded x)

namespace Enters

/-- A relation that holds of more places asks for less. -/
lemma mono (h : Enters code text R next start) (hRS : ∀ i j, R i j → S i j) : Enters code text S next start :=
  fun n notes i final hleads => (h n notes i final hleads).mono (hRS i) (Nat.le_refl n)

/-- Code that is not there is passed in the same place. -/
lemma stay : Enters code text (fun i j => i = j) next next :=
  fun n _ i _ hleads => ⟨n, [], i, Nat.le_refl n, nofun, rfl, hleads⟩

/-- Codes in sequence are passed one after the other. -/
lemma trans (hfirst : Enters code text R middle start) (hsecond : Enters code text S next middle) :
    Enters code text (fun i j => ∃ k, R i k ∧ S k j) next start :=
  fun n notes i final hleads => (hfirst n notes i final hleads).trans (fun m _ notes k _ => hsecond m notes k final)
    fun k _ hR hS => ⟨k, hR, hS⟩

/-- The instruction for a set passes one of its characters. -/
lemma pass (h : code[start]? = some (.pass set next)) :
    Enters code text (fun i j => (∃ c ∈ text[i]?, set.contains c) ∧ j = i + 1) next start := by
  intro n notes i final hleads
  obtain ⟨m, rfl, hc, hnext⟩ := hleads.of_pass h
  exact ⟨m, [], i + 1, Nat.le_succ m, nofun, ⟨hc, rfl⟩, hnext⟩

/-- The instruction for a look stays where it sees what it looks for. -/
lemma check (h : code[start]? = some (.check l next)) :
    Enters code text (fun i j => l.holds (text.take i).getLast? text[i]? ∧ i = j) next start := by
  intro n notes i final hleads
  obtain ⟨m, rfl, hl, hnext⟩ := hleads.of_check h
  exact ⟨m, [], i, Nat.le_succ m, nofun, ⟨hl, rfl⟩, hnext⟩

/-- A note that is no end of the whole match changes nothing else. -/
lemma note (h : code[start]? = some (.note slot next)) (hslot : 2 ≤ slot) :
    Enters code text (fun i j => i = j) next start := by
  intro n notes i final hleads
  obtain ⟨m, rfl, hnext⟩ := hleads.of_note h
  exact ⟨m, [(slot, i)], i, Nat.le_succ m, by simpa using hslot, rfl, hnext⟩

/-- A fork is passed by either of its codes. -/
lemma fork (h : code[start]? = some (forkOf greedy s t)) (hs : Enters code text R next s)
    (ht : Enters code text S next t) : Enters code text (fun i j => R i j ∨ S i j) next start := by
  intro n notes i final hleads
  obtain ⟨m, rfl, hnext | hnext⟩ := hleads.of_fork h
  · exact (hs m notes i final hnext).mono (fun _ => .inl) (Nat.le_succ m)
  · exact (ht m notes i final hnext).mono (fun _ => .inr) (Nat.le_succ m)

/-- Rounds that come back to a fork end behind it, for each takes a step. -/
lemma loop (h : code[start]? = some (forkOf greedy s next)) (hround : Enters code text R start s) :
    Enters code text (fun i j => ∃ count, Rounds R count i j) next start := by
  intro n
  induction n using Nat.strongRecOn with
  | ind n ih =>
    intro notes i final hleads
    obtain ⟨m, rfl, hnext | hnext⟩ := hleads.of_fork h
    · refine GoesOn.mono ?_ (fun _ hT => hT) (Nat.le_succ m)
      refine (hround m notes i final hnext).trans (fun l hl notes k _ => ih l (Nat.lt_succ_of_le hl) notes k final) ?_
      rintro k j hR ⟨count, hcount⟩
      exact ⟨count + 1, k, hR, hcount⟩
    · exact ⟨m, [], i, Nat.le_succ m, nofun, ⟨0, rfl⟩, hnext⟩

end Enters

end

/-! ## Building a program -/

/-- What a step of building says of its result holds of all code that has the instructions it added. It leaves alone
those that were there. -/
def Builds {α : Type} (x : Building α) (P : Array Instr → α → Prop) : Prop :=
  ∀ code, code.size ≤ (x.run code).2.size ∧ (∀ k < code.size, (x.run code).2[k]? = code[k]?) ∧
    ∀ whole : Array Instr, (∀ k, code.size ≤ k → k < (x.run code).2.size → whole[k]? = (x.run code).2[k]?) →
      P whole (x.run code).1

namespace Builds

variable {α β : Type} {x : Building α} {f : α → Building β} {P P' : Array Instr → α → Prop} {Q : Array Instr → β → Prop}

/-- What is known of the result may be weakened. -/
lemma mono (h : Builds x P) (hP : ∀ whole a, P whole a → P' whole a) : Builds x P' := by
  intro code
  obtain ⟨hsize, hkept, hwhole⟩ := h code
  exact ⟨hsize, hkept, fun whole hadded => hP whole _ (hwhole whole hadded)⟩

/-- To give a result adds no instructions. -/
lemma pure (a : α) : Builds (Pure.pure a : Building α) fun _ b => b = a :=
  fun code => ⟨Nat.le_refl code.size, fun _ _ => rfl, fun _ _ => rfl⟩

/-- What is built later leaves alone what was built before, so both are known at the end. -/
lemma bind (hx : Builds x P) (hf : ∀ a, Builds (f a) fun whole b => P whole a → Q whole b) : Builds (x >>= f) Q := by
  intro code
  obtain ⟨hsize, hkept, hwhole⟩ := hx code
  obtain ⟨hsize', hkept', hwhole'⟩ := hf (x.run code).1 (x.run code).2
  refine ⟨Nat.le_trans hsize hsize', fun k hk => ?_, fun whole hadded => ?_⟩
  · exact (hkept' k (Nat.lt_of_lt_of_le hk hsize)).trans (hkept k hk)
  · refine hwhole' whole (fun k hk => hadded k (Nat.le_trans hsize hk)) (hwhole whole fun k hk hk' => ?_)
    exact (hadded k hk (Nat.lt_of_lt_of_le hk' hsize')).trans (hkept' k hk')

/-- An instruction is found at the place where it was put. -/
lemma emit (instr : Instr) : Builds (emit instr) fun whole n => whole[n]? = some instr := by
  intro code
  have hrun : (Regex.emit instr).run code = (code.size, code.push instr) := rfl
  rw [hrun]
  refine ⟨by simp, fun k hk => ?_, fun whole hadded => ?_⟩
  · simp [Array.getElem?_push, Nat.ne_of_lt hk]
  · simpa using hadded code.size (Nat.le_refl _) (by simp)

end Builds

section

variable {text : List Char} {R : Nat → Nat → Prop} {greedy : Bool} {round : Nat → Building Nat} {next : Nat}

end

section

variable {p : Program} {text : List Char} {place : Place} {i : Nat} {w : Way} {c : Char}

/-- The place is one of the text. -/
structure Place.Within (place : Place) (text : List Char) : Prop where
  before : place.before = (text.take place.index).getLast?
  after : place.after = text[place.index]?

end

end EventRules.Regex
