import EventRules.Engine.Cache
import Mathlib.Tactic.Lemma

/-!
# Answers of the cache

What a cache answers when a source is there and when it is not, and what it keeps: every entry after
a lookup was there before, up to its stamp, or is what was just compiled. A cache that is only asked
to compile in one way is therefore `Cache.Faithful` to it, and answers as if everything was compiled
anew.
-/

namespace EventRules

/-- What an entry says apart from its stamp. -/
def CacheEntry.pair {α : Type} (e : CacheEntry α) : String × α :=
  (e.source, e.value)

namespace Cache

variable {α : Type} {c : Cache α} {e : CacheEntry α} {source : String} {value : α} {err : Error}
  {compile : String → Except Error α}

/-- The cache counts a hit. -/
def countHit (c : Cache α) : Cache α :=
  { c with stats := { c.stats with hits := c.stats.hits + 1 } }

/-- The cache counts a miss and the compilation that follows it. -/
def countMiss (c : Cache α) : Cache α :=
  { c with stats := { c.stats with misses := c.stats.misses + 1, compiles := c.stats.compiles + 1 } }

/-- A look at a source that is there touches it. -/
lemma get?_hit (h : c.find? source = some e) : c.get? source = (some e.value, c.touch source) := by
  simp only [get?, h]

/-- A look at a source that is not there changes nothing. -/
lemma get?_miss (h : c.find? source = none) : c.get? source = (none, c) := by
  simp only [get?, h]

/-- A source that is there is not compiled again. -/
lemma getOrCompile_hit (h : c.find? source = some e) :
    c.getOrCompile source compile = (.ok e.value, (c.touch source).countHit) := by
  simp only [getOrCompile, get?_hit h]
  rfl

/-- A source that is not there and compiles is put into the cache. -/
lemma getOrCompile_ok (h : c.find? source = none) (hc : compile source = .ok value) :
    c.getOrCompile source compile = (.ok value, c.countMiss.insert source value) := by
  simp only [getOrCompile, get?_miss h, hc]
  rfl

/-- A source that is not there and does not compile leaves nothing but a count. -/
lemma getOrCompile_error (h : c.find? source = none) (hc : compile source = .error err) :
    c.getOrCompile source compile = (.error err, c.countMiss) := by
  simp only [getOrCompile, get?_miss h, hc]
  rfl

/-- Shrinking keeps some of the entries. -/
lemma mem_of_mem_shrink {fuel : Nat} (h : e ∈ (shrink fuel c).entries) : e ∈ c.entries := by
  induction fuel generalizing c with
  | zero => exact h
  | succ fuel ih =>
    unfold shrink at h
    split at h
    · exact h
    · split at h
      · exact h
      · exact (List.mem_filter.1 (ih h)).1

/-- An entry of the cache after an insertion was there before or is the new one. -/
lemma mem_insert (h : e ∈ (c.insert source value).entries) :
    e.pair = (source, value) ∨ e ∈ c.entries := by
  rcases List.mem_cons.1 (mem_of_mem_shrink h) with rfl | he
  · exact .inl rfl
  · exact .inr (List.mem_filter.1 he).1

/-- A use of an entry changes no more than its stamp. -/
lemma mem_touch (h : e ∈ (c.touch source).entries) : ∃ f ∈ c.entries, f.pair = e.pair := by
  obtain ⟨f, hf, rfl⟩ := List.mem_map.1 h
  refine ⟨f, hf, ?_⟩
  split <;> rfl

/-- What is found is an entry of the source. -/
lemma mem_of_find? (h : c.find? source = some e) : e ∈ c.entries ∧ e.source = source :=
  ⟨List.mem_of_find?_eq_some h, by simpa using List.find?_some h⟩

/-- Every entry is what its source compiles to. -/
def Faithful (compile : String → Except Error α) (c : Cache α) : Prop :=
  ∀ e ∈ c.entries, compile e.source = .ok e.value

namespace Faithful

/-- To touch an entry changes its stamp and not its value. -/
lemma touch (h : Faithful compile c) : Faithful compile (c.touch source) := by
  intro e he
  obtain ⟨f, hf, hpair⟩ := mem_touch he
  obtain ⟨hsource, hvalue⟩ := Prod.mk.inj hpair
  rw [← hsource, ← hvalue]
  exact h f hf

/-- What is found is what the source compiles to. -/
lemma find? (h : Faithful compile c) (he : c.find? source = some e) : compile source = .ok e.value := by
  obtain ⟨hmem, rfl⟩ := mem_of_find? he
  exact h e hmem

/-- A lookup leaves a cache faithful and finds what the source compiles to. -/
lemma get? (h : Faithful compile c) (source : String) :
    Faithful compile (c.get? source).2 ∧
      ∀ value, (c.get? source).1 = some value → compile source = .ok value := by
  cases hf : c.find? source with
  | some e =>
    rw [get?_hit hf]
    exact ⟨h.touch, fun value hv => Option.some.inj hv ▸ h.find? hf⟩
  | none =>
    rw [get?_miss hf]
    exact ⟨h, nofun⟩

/-- A faithful cache answers what the source compiles to, and stays faithful. -/
lemma getOrCompile (h : Faithful compile c) (source : String) :
    (c.getOrCompile source compile).1 = compile source ∧
      Faithful compile (c.getOrCompile source compile).2 := by
  cases hf : c.find? source with
  | some e =>
    rw [getOrCompile_hit hf]
    exact ⟨(h.find? hf).symm, h.touch⟩
  | none =>
    cases hc : compile source with
    | ok value =>
      rw [getOrCompile_ok hf hc]
      refine ⟨rfl, fun e he => ?_⟩
      rcases mem_insert he with hpair | he
      · obtain ⟨rfl, rfl⟩ := Prod.mk.inj hpair
        exact hc
      · exact h e he
    | error err =>
      rw [getOrCompile_error hf hc]
      exact ⟨rfl, h⟩

end Faithful

/-- To touch an entry does not change the room. -/
@[simp] lemma capacity_touch : (c.touch source).capacity = c.capacity := rfl

/-- To count a hit does not change the room. -/
@[simp] lemma capacity_countHit : c.countHit.capacity = c.capacity := rfl

/-- To count a miss does not change the room. -/
@[simp] lemma capacity_countMiss : c.countMiss.capacity = c.capacity := rfl

/-- To drop entries does not change the room. -/
@[simp] lemma capacity_shrink (fuel : Nat) : (shrink fuel c).capacity = c.capacity := by
  induction fuel generalizing c with
  | zero => rfl
  | succ fuel ih =>
    unfold shrink
    split
    · rfl
    · split
      · rfl
      · rw [ih]

/-- To put an entry in does not change the room. -/
@[simp] lemma capacity_insert : (c.insert source value).capacity = c.capacity :=
  capacity_shrink _

end Cache

end EventRules
