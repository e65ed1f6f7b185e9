import EventRules.Proofs.Regex.Bracket

/-!
# Reading a pattern in a group, as a whole

Alternatives are read in the group as by themselves up to the parenthesis behind them, unless the pattern has one of
its own that it did not open: then what follows the pattern is not read as such (`follows_alternatives`).
-/

namespace EventRules.Regex

open Text

variable {α β : Type} {least : Nat} {s t : Scan} {cs : List Char}

/-! ## Repetition -/

/-- The first reader does in the group what the second does by itself with fewer characters left than that. -/
structure Within (fuel : Nat) (m m' : Reading α) : Prop where
  reads : Reads 0 m
  reads' : Reads 0 m'
  follows : ∀ s, s.rest.length < fuel → Follows (Misses ')') s m m'

namespace Within

variable {fuel : Nat} {m m' : Reading α} {f f' : α → Reading β} {g g' : Scan → Reading β}

/-- To fail is the same within any bound. -/
lemma failure : Within fuel (failure : Reading α) Alternative.failure :=
  ⟨.failure, .failure, fun _ _ => .failure⟩

/-- Readers in sequence go on within the same bound, as they leave no more than there was. -/
lemma bind (hm : Within fuel m m') (hf : ∀ x, Within fuel (f x) (f' x)) : Within fuel (m >>= f) (m' >>= f') where
  reads := hm.reads.bind fun x => (hf x).reads
  reads' := hm.reads'.bind fun x => (hf x).reads'
  follows s hs := by
    refine (hm.follows s hs).bind (fun x t hlost _ _ hrun => (hf x).reads.notMem hrun hlost) fun x t ht => ?_
    have hlength := hm.reads'.length_le ht
    exact (hf x).follows t (by omega)

/-- A look at the scan is allowed if it does not tell what is behind the pattern. -/
lemma get (hg : ∀ s, g s.enclosed = g s) (h : ∀ s, Within fuel (g s) (g' s)) :
    Within fuel (MonadState.get >>= g) (MonadState.get >>= g') where
  reads s x s' hrun := (h s).reads s x s' hrun
  reads' s x s' hrun := (h s).reads' s x s' hrun
  follows s hs x s' hrun := by
    have hrun : (g s.enclosed).run s.enclosed = some (x, s') := hrun
    rw [hg s] at hrun
    exact (h s).follows s hs x s' hrun

end Within

end EventRules.Regex
