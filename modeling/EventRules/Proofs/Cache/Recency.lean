import EventRules.Proofs.Cache.Answers
import Mathlib.Data.List.Perm.Basic

/-!
# Recency of the cache

The cache keeps no order: its entries have stamps, and the entry with the oldest stamp is looked for
when one has to go. A list of sources that is kept in the order of their last use does the same.
`Cache.recency` is that list after some requests, and `Cache.Sorted` the invariant that ties the
cache to it: in the order of the list the stamps of the entries decrease, and all of them are behind
the clock.
-/

namespace EventRules

namespace Cache

variable {α : Type} {c : Cache α} {es : List (CacheEntry α)} {e f : CacheEntry α} {source : String}
  {value : α} {capacity : Nat}

/-- What may be asked of a cache. A compiler may answer differently every time it is asked. -/
inductive Request (α : Type) where
  | getOrCompile (source : String) (compile : String → Except Error α)
  | get (source : String)
  | clear

/-- The cache after a request. -/
def serve (c : Cache α) : Request α → Cache α
  | .getOrCompile source compile => (c.getOrCompile source compile).2
  | .get source => (c.get? source).2
  | .clear => c.clear

/-- The cache after some requests. -/
def serveAll (c : Cache α) (requests : List (Request α)) : Cache α :=
  requests.foldl serve c

/-- Moves a source to the front of a list of sources and their values, or puts it there. -/
def toFront (source : String) (value : α) (l : List (String × α)) : List (String × α) :=
  (source, value) :: l.filter (·.1 ≠ source)

/-- What a request makes of a list of at most `capacity` sources and their values, the most recently
used first. -/
def recencyStep (capacity : Nat) (l : List (String × α)) : Request α → List (String × α)
  | .getOrCompile source compile =>
    match l.lookup source with
    | some value => toFront source value l
    | none =>
      match compile source with
      | .ok value =>
        if capacity < l.length + 1 then ((source, value) :: l).dropLast else (source, value) :: l
      | .error _ => l
  | .get source =>
    match l.lookup source with
    | some value => toFront source value l
    | none => l
  | .clear => []

/-- The sources that were asked for and not dropped since, the most recently used first, with their
values. -/
def recency (capacity : Nat) (requests : List (Request α)) : List (String × α) :=
  requests.foldl (recencyStep capacity) []

/-- The entries of a cache in the order of their last use: their stamps decrease and are behind the
clock, and no two entries have the same source. -/
structure Sorted (c : Cache α) (es : List (CacheEntry α)) : Prop where
  perm : es.Perm c.entries
  latest_first : es.Pairwise fun e f => f.lastUse < e.lastUse
  behind : ∀ e ∈ es, e.lastUse < c.clock
  distinct : es.Pairwise fun e f => e.source ≠ f.source

/-- Among entries with different sources, the one that is found for a source is the one that has it. -/
lemma find?_eq_some_iff (h : es.Pairwise fun e f => e.source ≠ f.source) :
    es.find? (·.source = source) = some e ↔ e ∈ es ∧ e.source = source := by
  induction es with
  | nil => simp
  | cons f es ih =>
    obtain ⟨hf, hes⟩ := List.pairwise_cons.1 h
    by_cases hsource : f.source = source
    · subst hsource
      simp only [List.find?_cons, decide_true, List.mem_cons, Option.some.injEq]
      constructor
      · rintro rfl
        exact ⟨.inl rfl, rfl⟩
      · rintro ⟨rfl | he, hs⟩
        · rfl
        · exact absurd hs.symm (hf e he)
    · rw [List.find?_cons_of_neg (by simpa using hsource), ih hes, List.mem_cons]
      constructor
      · rintro ⟨he, hs⟩
        exact ⟨.inr he, hs⟩
      · rintro ⟨rfl | he, hs⟩
        · exact absurd hs hsource
        · exact ⟨he, hs⟩

/-- An entry and the entries with other sources are all the entries. -/
lemma perm_cons_filter (h : es.Pairwise fun e f => e.source ≠ f.source) (he : e ∈ es) :
    es.Perm (e :: es.filter (·.source ≠ e.source)) := by
  induction es with
  | nil => cases he
  | cons f es ih =>
    obtain ⟨hf, hes⟩ := List.pairwise_cons.1 h
    cases he with
    | head =>
      have hrest : es.filter (·.source ≠ e.source) = es :=
        List.filter_eq_self.2 fun f hmem => by simpa using (hf f hmem).symm
      rw [List.filter_cons_of_neg (by simp), hrest]
    | tail _ he =>
      rw [List.filter_cons_of_pos (by simpa using hf e he)]
      exact ((ih hes he).cons f).trans (.swap e f _)

/-- Where there are entries, one of them is the oldest. -/
lemma oldest?_of_mem (he : e ∈ es) :
    ∃ f ∈ es, oldest? es = some f ∧ ∀ g ∈ es, f.lastUse ≤ g.lastUse := by
  induction es generalizing e with
  | nil => cases he
  | cons f es ih =>
    cases es with
    | nil => exact ⟨f, List.mem_cons_self, rfl, by simp⟩
    | cons g es =>
      obtain ⟨o, ho, hold, hmin⟩ := ih List.mem_cons_self
      rw [oldest?, hold]
      by_cases hle : f.lastUse ≤ o.lastUse
      · refine ⟨f, List.mem_cons_self, by simp [hle], fun x hx => ?_⟩
        rcases List.mem_cons.1 hx with rfl | hx
        · exact Nat.le_refl _
        · exact Nat.le_trans hle (hmin x hx)
      · refine ⟨o, List.mem_cons_of_mem _ ho, by simp [hle], fun x hx => ?_⟩
        rcases List.mem_cons.1 hx with rfl | hx
        · exact Nat.le_of_not_le hle
        · exact hmin x hx

namespace Sorted

/-- A source is found in a cache where it stands in the order of last use. -/
lemma find? (h : Sorted c es) (source : String) : c.find? source = es.find? (·.source = source) := by
  have hd : c.entries.Pairwise fun e f => e.source ≠ f.source :=
    h.perm.pairwise h.distinct fun he => he.symm
  ext e
  rw [Cache.find?, find?_eq_some_iff hd, find?_eq_some_iff h.distinct,
    h.perm.mem_iff]

/-- What is found in the cache is what is found in its sorted entries. -/
lemma lookup (h : Sorted c es) (source : String) :
    (c.find? source).map (·.value) = (es.map CacheEntry.pair).lookup source := by
  rw [h.find? source]
  clear h
  induction es with
  | nil => rfl
  | cons e es ih =>
    by_cases hs : e.source = source
    · simp [CacheEntry.pair, hs]
    · have hs' : (source == e.source) = false := beq_false_of_ne (Ne.symm hs)
      simp [CacheEntry.pair, List.lookup_cons, hs, hs', ih]

/-- An entry with the present stamp goes to the front, in place of one with the same source. -/
lemma stamp {entries : List (CacheEntry α)} (h : Sorted c es)
    (hperm : (⟨source, value, c.clock⟩ :: es.filter (·.source ≠ source)).Perm entries) :
    Sorted { c with entries, clock := c.clock + 1 }
      (⟨source, value, c.clock⟩ :: es.filter (·.source ≠ source)) where
  perm := hperm
  latest_first := List.pairwise_cons.2
    ⟨fun e he => h.behind e (List.mem_of_mem_filter he), h.latest_first.filter _⟩
  behind := by
    intro e he
    rcases List.mem_cons.1 he with rfl | he
    · exact Nat.lt_succ_self _
    · exact Nat.lt_succ_of_lt (h.behind e (List.mem_of_mem_filter he))
  distinct := by
    refine List.pairwise_cons.2 ⟨fun e he => ?_, h.distinct.filter _⟩
    have hne := List.of_mem_filter he
    exact fun hs => absurd hs.symm (by simpa using hne)

/-- A use of an entry moves it to the front. -/
lemma touch (h : Sorted c es) (he : e ∈ es) :
    Sorted (c.touch e.source) (⟨e.source, e.value, c.clock⟩ :: es.filter (·.source ≠ e.source)) := by
  have hperm := (perm_cons_filter h.distinct he).map
    fun f => if f.source = e.source then { f with lastUse := c.clock } else f
  have hrest : (es.filter (·.source ≠ e.source)).map
      (fun f => if f.source = e.source then { f with lastUse := c.clock } else f) =
        es.filter (·.source ≠ e.source) := by
    refine (List.map_congr_left fun f hf => ?_).trans (List.map_id _)
    exact if_neg (by simpa using List.of_mem_filter hf)
  -- The code stamps the entry where it stands; up to order that is the same as moving it.
  rw [List.map_cons, if_pos rfl, hrest] at hperm
  exact h.stamp (hperm.symm.trans (h.perm.map _))

/-- The oldest entry is the last in the order of last use. -/
lemma oldest? (h : Sorted c (es ++ [e])) : Cache.oldest? c.entries = some e := by
  have hmem : e ∈ c.entries := h.perm.subset (List.mem_append_right _ List.mem_cons_self)
  obtain ⟨f, hf, hold, hmin⟩ := oldest?_of_mem hmem
  rw [hold]
  rcases List.mem_append.1 (h.perm.symm.subset hf) with hf | hf
  · have hlt := (List.pairwise_append.1 h.latest_first).2.2 f hf e List.mem_cons_self
    exact absurd (hmin e hmem) (Nat.not_le.2 hlt)
  · rw [List.mem_singleton.1 hf]

/-- Dropping the oldest entry drops the last in the order of last use. -/
lemma drop (h : Sorted c (es ++ [e])) (stats : CacheStats) :
    Sorted { c with entries := c.entries.filter (·.source ≠ e.source), stats } es := by
  obtain ⟨hlatest, -, -⟩ := List.pairwise_append.1 h.latest_first
  obtain ⟨hdistinct, -, hne⟩ := List.pairwise_append.1 h.distinct
  have hrest : (es ++ [e]).filter (·.source ≠ e.source) = es := by
    rw [List.filter_append, List.filter_eq_self.2 fun f hf => by simpa using hne f hf e List.mem_cons_self]
    simp
  exact ⟨hrest ▸ h.perm.filter _, hlatest, fun f hf => h.behind f (List.mem_append_left _ hf), hdistinct⟩

/-- Shrinking keeps as many of the latest entries as the cache has room for. -/
lemma shrink (h : Sorted c es) {fuel : Nat} (hfuel : es.length ≤ c.capacity + fuel) :
    Sorted (Cache.shrink fuel c) (es.take c.capacity) := by
  induction fuel generalizing c es with
  | zero =>
    rw [List.take_of_length_le (show es.length ≤ c.capacity from hfuel)]
    exact h
  | succ fuel ih =>
    unfold Cache.shrink
    rw [← h.perm.length_eq]
    split
    case isTrue hfits =>
      rw [List.take_of_length_le hfits]
      exact h
    case isFalse hfits =>
      -- Each round drops the end of `es`, which is what `take` leaves out.
      have hne : es ≠ [] := by
        rintro rfl
        exact hfits (Nat.zero_le _)
      obtain ⟨es, e, rfl⟩ := List.eq_nil_or_concat' es |>.resolve_left hne
      rw [List.length_append, List.length_singleton] at hfits hfuel
      rw [h.oldest?, List.take_append_of_le_length (by omega)]
      exact ih (h.drop _) (by simp only; omega)

/-- The counters do not matter to the order. -/
lemma count (h : Sorted c es) (stats : CacheStats) : Sorted { c with stats } es :=
  ⟨h.perm, h.latest_first, h.behind, h.distinct⟩

/-- What is found is one of the sorted entries, under its source. -/
lemma mem_of_find? (h : Sorted c es) (he : c.find? source = some e) : e ∈ es ∧ e.source = source := by
  rw [h.find? source] at he
  exact (find?_eq_some_iff h.distinct).1 he

/-- A new source goes to the front, whether or not there is room for it. -/
lemma enter (h : Sorted c es) (hmiss : c.find? source = none) (value : α) :
    Sorted { c with entries := ⟨source, value, c.clock⟩ :: c.entries.filter (·.source ≠ source), clock := c.clock + 1 }
      (⟨source, value, c.clock⟩ :: es) := by
  have hnone : es.filter (·.source ≠ source) = es := by
    rw [h.find? source, List.find?_eq_none] at hmiss
    exact List.filter_eq_self.2 fun e he => by simpa using hmiss e he
  have hstamp := h.stamp (((h.perm.filter (·.source ≠ source)).cons ⟨source, value, c.clock⟩))
  rwa [hnone] at hstamp

/-- A new source goes to the front, and the last entry is dropped if there is no room for it. -/
lemma insert (h : Sorted c es) (hmiss : c.find? source = none) (value : α) :
    Sorted (c.insert source value) ((⟨source, value, c.clock⟩ :: es).take c.capacity) := by
  have henter := h.enter hmiss value
  refine henter.shrink ?_
  rw [henter.perm.length_eq]
  exact Nat.le_add_left _ _

end Sorted

/-- The cache holds the sources of a list with their values, as many as there is room for, and the
list has them in the order of their last use. -/
def Follows (c : Cache α) (l : List (String × α)) : Prop :=
  ∃ es, Sorted c es ∧ es.map CacheEntry.pair = l ∧ l.length ≤ c.capacity

/-- No request changes the room. -/
lemma capacity_serve (r : Request α) : (c.serve r).capacity = c.capacity := by
  cases r with
  | getOrCompile source compile =>
    rw [serve]
    cases hf : c.find? source with
    | some e => rw [getOrCompile_hit hf, capacity_countHit, capacity_touch]
    | none =>
      cases hc : compile source with
      | ok value => rw [getOrCompile_ok hf hc, capacity_insert, capacity_countMiss]
      | error err => rw [getOrCompile_error hf hc, capacity_countMiss]
  | get source =>
    rw [serve]
    cases hf : c.find? source with
    | some e => rw [get?_hit hf, capacity_touch]
    | none => rw [get?_miss hf]
  | clear => rfl

/-- A run of requests does not change the room. -/
lemma capacity_serveAll (requests : List (Request α)) : (c.serveAll requests).capacity = c.capacity := by
  induction requests generalizing c with
  | nil => rfl
  | cons r requests ih => exact ih.trans (capacity_serve r)

/-- The pairs of the entries change as the list does when a source moves to its front. -/
lemma pairs_toFront (es : List (CacheEntry α)) (source : String) (value : α) (tick : Nat) :
    (⟨source, value, tick⟩ :: es.filter (·.source ≠ source)).map CacheEntry.pair =
      toFront source value (es.map CacheEntry.pair) := by
  rw [List.map_cons, toFront, List.filter_map]
  rfl

namespace Follows

variable {l : List (String × α)}

/-- What is found in the cache is what is found in the list. -/
lemma lookup (h : Follows c l) (source : String) : (c.find? source).map (·.value) = l.lookup source := by
  obtain ⟨es, hes, rfl, -⟩ := h
  exact hes.lookup source

/-- A use of an entry moves its source to the front of the list. -/
lemma touch (h : Follows c l) (he : c.find? source = some e) :
    Follows (c.touch source) (toFront source e.value l) := by
  obtain ⟨es, hes, rfl, hfits⟩ := h
  obtain ⟨hmem, rfl⟩ := hes.mem_of_find? he
  refine ⟨_, hes.touch hmem, pairs_toFront _ _ _ _, ?_⟩
  have hlen := (perm_cons_filter hes.distinct hmem).length_eq
  rw [← pairs_toFront es e.source e.value 0]
  simp only [List.length_map, List.length_cons] at hfits hlen ⊢
  rw [capacity_touch]
  omega

/-- A new source goes to the front of the list, and the last one is dropped if there are too many. -/
lemma insert (h : Follows c l) (hmiss : c.find? source = none) (value : α) :
    Follows (c.insert source value)
      (if c.capacity < l.length + 1 then ((source, value) :: l).dropLast else (source, value) :: l) := by
  obtain ⟨es, hes, rfl, hfits⟩ := h
  refine ⟨_, hes.insert hmiss value, ?_, ?_⟩
  · rw [List.map_take, List.map_cons]
    split
    case isTrue hfull =>
      -- The list was full, so it has one source too many, and `dropLast` is `take`.
      rw [List.dropLast_eq_take, List.length_cons]
      congr 1
      omega
    case isFalse hroom => exact List.take_of_length_le (Nat.not_lt.1 hroom)
  · rw [capacity_insert]
    split
    case isTrue => simpa using hfits
    case isFalse hroom => exact Nat.not_lt.1 hroom

/-- The counters do not matter to the list. -/
lemma count (h : Follows c l) (stats : CacheStats) : Follows { c with stats } l := by
  obtain ⟨es, hes, hl, hfits⟩ := h
  exact ⟨es, hes.count stats, hl, hfits⟩

/-- An empty cache follows the empty list. -/
lemma empty (hc : c.entries = []) : Follows c ([] : List (String × α)) :=
  have hbehind : ∀ e ∈ ([] : List (CacheEntry α)), e.lastUse < c.clock := fun _ he => absurd he List.not_mem_nil
  ⟨[], ⟨hc ▸ .nil, .nil, hbehind, .nil⟩, rfl, Nat.zero_le _⟩

/-- A request changes the cache as it changes the list. -/
lemma serve (h : Follows c l) (r : Request α) : Follows (c.serve r) (recencyStep c.capacity l r) := by
  cases r with
  -- A hit only moves what is known. A miss puts a value in front if there is one, and drops the last if it
  -- has to.
  | getOrCompile source compile =>
    rw [Cache.serve, recencyStep, ← h.lookup source]
    cases hf : c.find? source with
    | some e =>
      rw [getOrCompile_hit hf]
      exact (h.touch hf).count _
    | none =>
      cases hc : compile source with
      | ok value =>
        rw [getOrCompile_ok hf hc]
        have hcount : Follows c.countMiss l := h.count _
        exact hcount.insert hf value
      | error err =>
        rw [getOrCompile_error hf hc]
        exact h.count _
  | get source =>
    rw [Cache.serve, recencyStep, ← h.lookup source]
    cases hf : c.find? source with
    | some e =>
      rw [get?_hit hf]
      exact h.touch hf
    | none =>
      rw [get?_miss hf]
      exact h
  | clear => exact .empty rfl

/-- By induction on the requests the cache follows the list. -/
lemma serveAll (h : Follows c l) (requests : List (Request α)) :
    Follows (c.serveAll requests) (requests.foldl (recencyStep c.capacity) l) := by
  induction requests generalizing c l with
  | nil => exact h
  | cons r requests ih =>
    have hnext := ih (h.serve r)
    rwa [capacity_serve] at hnext

/-- The entries are those of the list in some order. -/
lemma perm (h : Follows c l) : (c.entries.map CacheEntry.pair).Perm l := by
  obtain ⟨es, hes, rfl, -⟩ := h
  exact (hes.perm.map _).symm

/-- No source comes twice in the list. -/
lemma nodup (h : Follows c l) : (l.map Prod.fst).Nodup := by
  obtain ⟨es, hes, rfl, -⟩ := h
  rw [List.map_map]
  exact List.pairwise_map.2 hes.distinct

/-- There are no more entries than there is room for. -/
lemma size_le (h : Follows c l) : c.size ≤ c.capacity := by
  have hlen := h.perm.length_eq
  obtain ⟨-, -, -, hfits⟩ := h
  rwa [← hlen, List.length_map] at hfits

/-- What is inserted is there afterwards. -/
lemma find?_insert (h : Follows c l) (hmiss : c.find? source = none) (value : α) :
    (c.insert source value).find? source = some ⟨source, value, c.clock⟩ := by
  obtain ⟨es, hes, -, -⟩ := h
  have hkept := hes.insert hmiss value
  obtain ⟨room, hroom⟩ := Nat.exists_eq_succ_of_ne_zero (Nat.ne_of_gt c.capacity_pos)
  rw [hroom, List.take_succ_cons] at hkept
  rw [hkept.find? source, List.find?_cons_of_pos (by simp)]

/-- An entry that an insertion drops is the last of the list, and every other entry was used after
it. -/
lemma dropped (h : Follows c l) (hmiss : c.find? source = none) (he : e ∈ c.entries)
    (hgone : (c.insert source value).find? e.source = none) :
    l.getLast? = some e.pair ∧ ∀ f ∈ (c.insert source value).entries, e.lastUse < f.lastUse := by
  obtain ⟨es, hes, rfl, hfits⟩ := h
  have hkept := hes.insert hmiss value
  rw [hkept.find? e.source, List.find?_eq_none] at hgone
  replace he : e ∈ es := hes.perm.mem_iff.2 he
  obtain ⟨init, last, rfl⟩ := (List.eq_nil_or_concat' es).resolve_left (List.ne_nil_of_mem he)
  rw [List.length_map, List.length_append, List.length_singleton] at hfits
  -- With room to spare nothing would be dropped, so the last entry is all that had to go.
  have hfull : init.length + 1 = c.capacity := by
    by_contra hne
    rw [List.take_of_length_le (by simp; omega)] at hgone
    exact hgone e (List.mem_cons_of_mem _ he) (by simp)
  have htake : (⟨source, value, c.clock⟩ :: (init ++ [last])).take c.capacity =
      ⟨source, value, c.clock⟩ :: init := by
    rw [← hfull, List.take_succ_cons, List.take_left]
  rw [htake] at hgone hkept
  have hlast : e = last := by
    rcases List.mem_append.1 he with he | he
    · exact absurd (by simp) (hgone e (List.mem_cons_of_mem _ he))
    · exact List.mem_singleton.1 he
  subst hlast
  refine ⟨by simp, fun f hf => ?_⟩
  rcases List.mem_cons.1 (hkept.perm.mem_iff.2 hf) with rfl | hf
  · exact hes.behind e he
  · exact (List.pairwise_append.1 hes.latest_first).2.2 f hf e List.mem_cons_self

end Follows

/-- A cache that was just made is empty, as the list is. -/
lemma follows_create (h : create capacity = .ok c) : c.capacity = capacity ∧ Follows c [] := by
  by_cases hc : capacity = 0
  · rw [create, dif_pos hc] at h; cases h
  · rw [create, dif_neg hc] at h; cases h
    exact ⟨rfl, .empty rfl⟩

/-- The cache drops the least recently used source and no other. After any requests it holds the
sources of the recency list with their values and nothing else, at most as many as its capacity.
What a further request compiles is there afterwards, and an entry that has to go for it is the last
of the list and was used before all that stay. -/
theorem serveAll_recency {capacity : Nat} (hpos : 0 < capacity) (requests : List (Request α)) :
    ∃ c₀ : Cache α, create capacity = .ok c₀ ∧
      let c := c₀.serveAll requests
      let l := recency capacity requests
      (∀ source, (c.find? source).map (·.value) = l.lookup source) ∧
      (c.entries.map CacheEntry.pair).Perm l ∧ (l.map Prod.fst).Nodup ∧ c.size ≤ capacity ∧
      ∀ source compile value, l.lookup source = none → compile source = .ok value →
        let next := c.serve (.getOrCompile source compile)
        (next.find? source).map (·.value) = some value ∧
        ∀ e ∈ c.entries, next.find? e.source = none →
          l.getLast? = some e.pair ∧ ∀ f ∈ next.entries, e.lastUse < f.lastUse := by
  obtain ⟨c₀, hc₀⟩ : ∃ c₀ : Cache α, create capacity = .ok c₀ :=
    ⟨_, dif_neg (Nat.ne_of_gt hpos)⟩
  obtain ⟨hcap, hnil⟩ := follows_create hc₀
  have hrun : Follows (c₀.serveAll requests) (recency capacity requests) := by
    rw [recency, ← hcap]
    exact hnil.serveAll requests
  have hsize := hrun.size_le
  rw [capacity_serveAll, hcap] at hsize
  refine ⟨c₀, hc₀, hrun.lookup, hrun.perm, hrun.nodup, hsize, ?_⟩
  intro source compile value hnone hcompile
  have hmiss : (c₀.serveAll requests).find? source = none := by
    rw [← hrun.lookup source] at hnone
    exact Option.map_eq_none_iff.1 hnone
  have hcount : Follows (c₀.serveAll requests).countMiss (recency capacity requests) := hrun.count _
  simp only [serve, getOrCompile_ok hmiss hcompile]
  refine ⟨by rw [hcount.find?_insert hmiss value]; rfl, fun e he hgone => ?_⟩
  exact hcount.dropped hmiss he hgone

/-- With room for two sources, a use of the first makes the second the one that goes for a third. -/
theorem serveAll_recency_two :
    let ask (source : String) : Request Nat := .getOrCompile source fun s => .ok s.length
    ∃ c₀ : Cache Nat, create 2 = .ok c₀ ∧
      let c := c₀.serveAll [ask "a", ask "bb", ask "a", ask "ccc"]
      (c.find? "a").map (·.value) = some 1 ∧ (c.find? "bb").map (·.value) = none ∧
        (c.find? "ccc").map (·.value) = some 3 ∧ c.size ≤ 2 := by
  intro ask
  obtain ⟨c₀, hc₀, hlookup, -, -, hsize, -⟩ :=
    serveAll_recency (by decide : 0 < 2) [ask "a", ask "bb", ask "a", ask "ccc"]
  refine ⟨c₀, hc₀, (hlookup "a").trans ?_, (hlookup "bb").trans ?_, (hlookup "ccc").trans ?_, hsize⟩
  · rfl
  · rfl
  · rfl

end Cache

end EventRules
