import EventRules.Proofs.Cache.Recency

/-!
# Caches with less and with more room

Two caches that are asked the same drift apart when the larger one still has what the smaller one has
dropped: the one answers, the other compiles anew. Yet the smaller one never holds a source that the
larger one does not. What carries this is `Nested`, on the sources in the order of their last use:
those of the smaller cache come in the same order among those of the larger one, and there is no
difference until the smaller cache is full.
-/

namespace EventRules.Cache

variable {α : Type} {c d : Cache α} {es : List (CacheEntry α)} {e f : CacheEntry α} {l m : List (String × α)}
  {source : String} {value : α}

/-! ## Counters -/

/-- Shrinking counts every entry that it drops. -/
lemma Sorted.stats_shrink (h : Sorted c es) {fuel : Nat} (hfuel : es.length ≤ c.capacity + fuel) :
    (Cache.shrink fuel c).stats =
      { c.stats with evictions := c.stats.evictions + (es.length - c.capacity) } := by
  induction fuel generalizing c es with
  | zero =>
    rw [Nat.sub_eq_zero_of_le (show es.length ≤ c.capacity from hfuel)]
    rfl
  | succ fuel ih =>
    unfold Cache.shrink
    rw [← h.perm.length_eq]
    split
    case isTrue hfits =>
      rw [Nat.sub_eq_zero_of_le hfits]
      rfl
    case isFalse hfits =>
      have hne : es ≠ [] := by
        rintro rfl
        exact hfits (Nat.zero_le _)
      obtain ⟨es, e, rfl⟩ := List.eq_nil_or_concat' es |>.resolve_left hne
      rw [List.length_append, List.length_singleton] at hfits hfuel
      have hnext : es.length ≤ c.capacity + fuel := by omega
      have hcount : c.stats.evictions + 1 + (es.length - c.capacity) =
          c.stats.evictions + (es.length + 1 - c.capacity) := by omega
      simp only [h.oldest?, List.length_append, List.length_singleton, ← hcount]
      exact ih (h.drop _) hnext

/-! ## Sources in the order of their last use -/

/-- Moves a source to the front. -/
def front (source : String) (sources : List String) : List String :=
  source :: sources.filter (· ≠ source)

/-- The sources of a cache with so much room come in the same order among those of a larger cache, and
they are the same unless the smaller cache is full. -/
structure Nested (room : Nat) (small large : List String) : Prop where
  sublist : small.Sublist large
  full : small.length = room ∨ small = large

namespace Nested

variable {room room' : Nat} {small large : List String}

/-- Without the source there is nothing to leave out. -/
lemma filter_eq_self (h : source ∉ small) : small.filter (· ≠ source) = small :=
  List.filter_eq_self.2 fun _ hother => decide_eq_true fun heq => h (heq ▸ hother)

/-- To come to the front makes the sources no more. -/
lemma length_front (hnodup : small.Nodup) (h : source ∈ small) : (front source small).length = small.length := by
  have herase : small.filter (· ≠ source) = small.erase source := by
    rw [hnodup.erase_eq_filter]
    exact List.filter_congr fun other _ => by by_cases hother : other = source <;> simp [hother]
  rw [front, herase, List.length_cons, List.length_erase_of_mem h]
  exact Nat.sub_add_cancel (List.length_pos_of_mem h)

/-- Both caches had the source. -/
lemma touch (h : Nested room small large) (hnodup : small.Nodup) (hsource : source ∈ small) :
    Nested room (front source small) (front source large) where
  sublist := (h.sublist.filter _).cons_cons source
  full := h.full.imp ((length_front hnodup hsource).trans ·) (congrArg _)

/-- Where the larger cache has a source that the smaller one lacks, the smaller one is full. -/
lemma length_eq (h : Nested room small large) (hsmall : source ∉ small) (hlarge : source ∈ large) :
    small.length = room := by
  refine h.full.resolve_right ?_
  rintro rfl
  exact hsmall hlarge

/-- Only the larger cache had the source, and only it has used it. -/
lemma pass (h : Nested room small large) (hsmall : source ∉ small) (hlarge : source ∈ large) :
    Nested room small (front source large) where
  sublist := by
    have hrest := h.sublist.filter (· ≠ source)
    rw [filter_eq_self hsmall] at hrest
    exact hrest.cons source
  full := .inl (h.length_eq hsmall hlarge)

/-- Only the larger cache had the source, and the smaller one has taken it in again. -/
lemma reload (h : Nested room small large) (hroom : 0 < room) (hsmall : source ∉ small) (hlarge : source ∈ large) :
    Nested room ((source :: small).take room) (front source large) where
  sublist := by
    obtain ⟨n, rfl⟩ := Nat.exists_eq_succ_of_ne_zero (Nat.ne_of_gt hroom)
    have hrest := h.sublist.filter (· ≠ source)
    rw [filter_eq_self hsmall] at hrest
    exact ((List.take_sublist n small).trans hrest).cons_cons source
  full := by
    rw [List.length_take, List.length_cons, h.length_eq hsmall hlarge]
    exact .inl (Nat.min_eq_left (Nat.le_succ room))

/-- Neither cache had the source, and both have taken it in. -/
lemma push (h : Nested room small large) (hroom : 0 < room) (hle : room ≤ room') (hsmall : small.length ≤ room)
    (hlarge : large.length ≤ room') (source : String) :
    Nested room ((source :: small).take room) ((source :: large).take room') := by
  obtain ⟨n, rfl⟩ := Nat.exists_eq_succ_of_ne_zero (Nat.ne_of_gt hroom)
  obtain ⟨k, rfl⟩ := Nat.exists_eq_succ_of_ne_zero (Nat.ne_of_gt (Nat.lt_of_lt_of_le hroom hle))
  rw [List.take_succ_cons, List.take_succ_cons]
  rcases h.full with hfull | rfl
  · -- Either cache drops its last source at most, and that of the larger one comes last in both.
    have hlast : small.dropLast.Sublist large.dropLast := by
      rw [← List.reverse_reverse small, ← List.reverse_reverse large, List.dropLast_reverse, List.dropLast_reverse]
      exact h.sublist.reverse.tail.reverse
    rw [List.dropLast_eq_take, List.dropLast_eq_take, hfull] at hlast
    refine ⟨(hlast.trans (List.take_sublist_take_left (by omega))).cons_cons source, .inl ?_⟩
    rw [List.length_cons, List.length_take, hfull, Nat.min_eq_left (Nat.le_succ n)]
  · refine ⟨(List.take_sublist_take_left (Nat.le_of_succ_le_succ hle)).cons_cons source, ?_⟩
    by_cases hspare : small.length ≤ n
    · rw [List.take_of_length_le hspare, List.take_of_length_le (by omega)]
      exact .inr rfl
    · rw [List.length_cons, List.length_take, Nat.min_eq_left (by omega)]
      exact .inl rfl

end Nested

/-- The sources of a cache in the order of their last use. -/
def Holds (c : Cache α) (sources : List String) : Prop :=
  ∃ l, Follows c l ∧ l.map Prod.fst = sources

/-- The sources of what is put to the front are those of before, with one at the front. -/
lemma sources_toFront (source : String) (value : α) (l : List (String × α)) :
    (toFront source value l).map Prod.fst = front source (l.map Prod.fst) := by
  rw [toFront, front, List.map_cons, List.filter_map]
  rfl

namespace Holds

variable {sources : List String}

/-- A cache without entries holds no sources. -/
lemma empty (hc : c.entries = []) : Holds c [] :=
  ⟨[], .empty hc, rfl⟩

/-- What a cache holds can be found in it. -/
lemma mem_iff (h : Holds c sources) : source ∈ sources ↔ (c.find? source).isSome = true := by
  obtain ⟨l, hl, rfl⟩ := h
  rw [← (hl.perm.map Prod.fst).mem_iff, List.map_map, find?, List.find?_isSome, List.mem_map]
  simp [CacheEntry.pair]

/-- What is found in a cache is held. -/
lemma mem (h : Holds c sources) (he : c.find? source = some e) : source ∈ sources :=
  h.mem_iff.2 (by rw [he]; rfl)

/-- What is not found in a cache is not held. -/
lemma not_mem (h : Holds c sources) (hmiss : c.find? source = none) : source ∉ sources := by
  rw [h.mem_iff, hmiss]
  simp

/-- No source is held twice. -/
lemma nodup (h : Holds c sources) : sources.Nodup := by
  obtain ⟨l, hl, rfl⟩ := h
  exact hl.nodup

/-- A cache holds no more than it has room for. -/
lemma length_le (h : Holds c sources) : sources.length ≤ c.capacity := by
  obtain ⟨l, ⟨-, -, -, hfits⟩, rfl⟩ := h
  rwa [List.length_map]

/-- To count changes nothing that is held. -/
lemma count (h : Holds c sources) (stats : CacheStats) : Holds { c with stats } sources := by
  obtain ⟨l, hl, hsources⟩ := h
  exact ⟨l, hl.count stats, hsources⟩

/-- A source that is touched comes to the front. -/
lemma touch (h : Holds c sources) (he : c.find? source = some e) : Holds (c.touch source) (front source sources) := by
  obtain ⟨l, hl, rfl⟩ := h
  exact ⟨_, hl.touch he, sources_toFront source e.value l⟩

/-- A cache keeps as many sources as it has room for when one is added. -/
lemma insert (h : Holds c sources) (hmiss : c.find? source = none) (value : α) :
    Holds (c.insert source value) ((source :: sources).take c.capacity) := by
  have hfits := h.length_le
  obtain ⟨l, hl, rfl⟩ := h
  refine ⟨_, hl.insert hmiss value, ?_⟩
  rw [List.length_map] at hfits
  rw [← List.map_cons (f := Prod.fst) (a := (source, value)), ← List.map_take]
  split
  case isTrue hfull =>
    rw [List.dropLast_eq_take, List.length_cons, Nat.le_antisymm hfits (Nat.le_of_lt_succ hfull), Nat.add_sub_cancel]
  case isFalse hroom => rw [List.take_of_length_le (Nat.not_lt.1 hroom)]

/-- An insertion counts an eviction where there was no room left, and changes no other counter. -/
lemma stats_insert (h : Holds c sources) (hmiss : c.find? source = none) (value : α) :
    (c.insert source value).stats =
      { c.stats with evictions := c.stats.evictions + (sources.length + 1 - c.capacity) } := by
  obtain ⟨l, ⟨es, hes, rfl, -⟩, rfl⟩ := h
  have henter := hes.enter hmiss value
  rw [List.length_map, List.length_map]
  refine henter.stats_shrink ?_
  rw [henter.perm.length_eq]
  exact Nat.le_add_left _ _

end Holds

/-! ## Two caches -/

/-- A cache beside one with as much room or more that was asked the same. -/
structure Within (c d : Cache α) : Prop where
  room : c.capacity ≤ d.capacity
  nested : ∃ small large, Holds c small ∧ Holds d large ∧ Nested c.capacity small large
  hits : c.stats.hits ≤ d.stats.hits
  evictions : d.stats.evictions ≤ c.stats.evictions

namespace Within

/-- What the smaller cache holds, the larger one does. -/
lemma find? (h : Within c d) (hsource : (c.find? source).isSome = true) : (d.find? source).isSome = true := by
  obtain ⟨small, large, hsmall, hlarge, hnested⟩ := h.nested
  exact hlarge.mem_iff.1 (hnested.sublist.subset (hsmall.mem_iff.2 hsource))

/-- What the larger cache does not have the smaller one does not have either. -/
lemma find?_eq_none (h : Within c d) (hmiss : d.find? source = none) : c.find? source = none := by
  by_contra hne
  have hsome := h.find? (Option.isSome_iff_ne_none.2 hne)
  rw [hmiss] at hsome
  cases hsome

/-- Counting alone changes nothing but the counters. -/
lemma count (h : Within c d) {stats stats' : CacheStats} (hhits : stats.hits ≤ stats'.hits)
    (hevictions : stats'.evictions ≤ stats.evictions) : Within { c with stats } { d with stats := stats' } := by
  obtain ⟨small, large, hsmall, hlarge, hnested⟩ := h.nested
  exact ⟨h.room, ⟨small, large, hsmall.count _, hlarge.count _, hnested⟩, hhits, hevictions⟩

/-- Both caches use an entry. -/
lemma touch (h : Within c d) (he : c.find? source = some e) (hf : d.find? source = some f) :
    Within (c.touch source) (d.touch source) := by
  obtain ⟨small, large, hsmall, hlarge, hnested⟩ := h.nested
  exact ⟨h.room, ⟨_, _, hsmall.touch he, hlarge.touch hf, hnested.touch hsmall.nodup (hsmall.mem he)⟩, h.hits,
    h.evictions⟩

/-- Only the larger cache has the source, and uses it. -/
lemma pass (h : Within c d) (hmiss : c.find? source = none) (hf : d.find? source = some f) :
    Within c (d.touch source) := by
  obtain ⟨small, large, hsmall, hlarge, hnested⟩ := h.nested
  exact ⟨h.room, ⟨_, _, hsmall, hlarge.touch hf, hnested.pass (hsmall.not_mem hmiss) (hlarge.mem hf)⟩, h.hits,
    h.evictions⟩

/-- Only the larger cache has the source, and uses it; the smaller one takes it in. -/
lemma reload (h : Within c d) (hmiss : c.find? source = none) (hf : d.find? source = some f) (value : α) :
    Within (c.insert source value) (d.touch source) := by
  obtain ⟨small, large, hsmall, hlarge, hnested⟩ := h.nested
  have hnext := hnested.reload c.capacity_pos (hsmall.not_mem hmiss) (hlarge.mem hf)
  have hstats := hsmall.stats_insert hmiss value
  refine ⟨?_, ⟨_, _, hsmall.insert hmiss value, hlarge.touch hf, ?_⟩, ?_, ?_⟩
  · rw [capacity_insert]
    exact h.room
  · rwa [capacity_insert]
  · rw [hstats]
    exact h.hits
  · rw [hstats]
    exact Nat.le_add_right_of_le h.evictions

/-- Neither cache has the source, and both take it in. -/
lemma push (h : Within c d) (hmiss : c.find? source = none) (hmiss' : d.find? source = none) (value : α) :
    Within (c.insert source value) (d.insert source value) := by
  obtain ⟨small, large, hsmall, hlarge, hnested⟩ := h.nested
  have hnext := hnested.push c.capacity_pos h.room hsmall.length_le hlarge.length_le source
  have hstats := hsmall.stats_insert hmiss value
  have hstats' := hlarge.stats_insert hmiss' value
  refine ⟨?_, ⟨_, _, hsmall.insert hmiss value, hlarge.insert hmiss' value, ?_⟩, ?_, ?_⟩
  · rw [capacity_insert, capacity_insert]
    exact h.room
  · rwa [capacity_insert]
  · rw [hstats, hstats']
    exact h.hits
  · -- Where the larger cache has no room left, neither has the smaller one.
    have hfull : large.length + 1 - d.capacity ≤ small.length + 1 - c.capacity := by
      have hroom := h.room
      have hfits := hlarge.length_le
      rcases hnested.full with hlength | rfl
      · omega
      · omega
    rw [hstats, hstats']
    exact Nat.add_le_add h.evictions hfull

/-- A request keeps the smaller cache within the larger one. -/
lemma serve (h : Within c d) (r : Request α) : Within (c.serve r) (d.serve r) := by
  cases r with
  -- The larger cache knows a source or not, and if it does, the smaller one may have dropped it.
  | getOrCompile source compile =>
    rw [Cache.serve, Cache.serve]
    cases hd : d.find? source with
    | none =>
      have hc := h.find?_eq_none hd
      have hcount : Within c.countMiss d.countMiss := h.count h.hits h.evictions
      cases hcompile : compile source with
      | ok value =>
        rw [getOrCompile_ok hc hcompile, getOrCompile_ok hd hcompile]
        exact hcount.push hc hd value
      | error err =>
        rw [getOrCompile_error hc hcompile, getOrCompile_error hd hcompile]
        exact hcount
    | some f =>
      rw [getOrCompile_hit hd]
      cases hc : c.find? source with
      | some e =>
        rw [getOrCompile_hit hc]
        exact (h.touch hc hd).count (Nat.succ_le_succ h.hits) h.evictions
      | none =>
        have hcount : Within c.countMiss d.countHit := h.count (Nat.le_succ_of_le h.hits) h.evictions
        cases hcompile : compile source with
        | ok value =>
          rw [getOrCompile_ok hc hcompile]
          exact hcount.reload hc hd value
        | error err =>
          rw [getOrCompile_error hc hcompile]
          exact hcount.pass hc hd
  | get source =>
    rw [Cache.serve, Cache.serve]
    cases hd : d.find? source with
    | none =>
      rw [get?_miss hd, get?_miss (h.find?_eq_none hd)]
      exact h
    | some f =>
      rw [get?_hit hd]
      cases hc : c.find? source with
      | some e =>
        rw [get?_hit hc]
        exact h.touch hc hd
      | none =>
        rw [get?_miss hc]
        exact h.pass hc hd
  | clear =>
    exact ⟨h.room, ⟨[], [], .empty rfl, .empty rfl, .slnil, .inr rfl⟩, Nat.le_refl _, Nat.le_refl _⟩

/-- By induction on the requests the smaller cache stays within the larger one. -/
lemma serveAll (h : Within c d) (requests : List (Request α)) : Within (c.serveAll requests) (d.serveAll requests) := by
  induction requests generalizing c d with
  | nil => exact h
  | cons r requests ih => exact ih (h.serve r)

/-- Caches that were just made hold nothing and have counted nothing. -/
lemma create {small large : Nat} (hpos : 0 < small) (hle : small ≤ large) :
    ∃ c d : Cache α, Cache.create small = .ok c ∧ Cache.create large = .ok d ∧ Within c d := by
  have hlarge : 0 < large := Nat.lt_of_lt_of_le hpos hle
  refine ⟨{ capacity := small, capacity_pos := hpos }, { capacity := large, capacity_pos := hlarge },
    dif_neg (Nat.ne_of_gt hpos), dif_neg (Nat.ne_of_gt hlarge), hle,
    ⟨[], [], .empty rfl, .empty rfl, .slnil, .inr rfl⟩, Nat.le_refl _, Nat.le_refl _⟩

end Within

/-- More room never loses a hit. Of two caches that are asked the same, the one with as much room or more holds every
source that the other one holds, has answered at least as often, and has dropped no more. -/
theorem serveAll_within {small large : Nat} (hpos : 0 < small) (hle : small ≤ large) (requests : List (Request α)) :
    ∃ c₀ d₀ : Cache α, create small = .ok c₀ ∧ create large = .ok d₀ ∧
      let c := c₀.serveAll requests
      let d := d₀.serveAll requests
      (∀ source, (c.find? source).isSome → (d.find? source).isSome) ∧ c.stats.hits ≤ d.stats.hits ∧
        d.stats.evictions ≤ c.stats.evictions := by
  obtain ⟨c₀, d₀, hc₀, hd₀, hwithin⟩ := Within.create hpos hle
  have hrun := hwithin.serveAll requests
  exact ⟨c₀, d₀, hc₀, hd₀, fun _ => hrun.find?, hrun.hits, hrun.evictions⟩

/-- The larger cache answers from what the smaller one compiles anew, also where that fails; then the orders of their
sources differ. -/
theorem serveAll_within_drift :
    let ask (source : String) : Request Nat := .getOrCompile source fun s => .ok s.length
    let failing (source : String) : Request Nat := .getOrCompile source fun _ => .error (.unknownFunction "F")
    let requests := [ask "a", ask "b", ask "a", failing "b", .get "a", ask "c"]
    0 < 1 ∧ 1 ≤ 2 ∧ ∃ c₀ d₀ : Cache Nat, create 1 = .ok c₀ ∧ create 2 = .ok d₀ ∧
      let c := c₀.serveAll requests
      let d := d₀.serveAll requests
      (∀ source, (c.find? source).isSome → (d.find? source).isSome) ∧ (d.find? "a").isSome ∧
        (c.find? "a").isNone ∧ c.stats.hits < d.stats.hits ∧ d.stats.evictions < c.stats.evictions := by
  intro ask failing requests
  have hpos : 0 < 1 := by decide
  have hle : 1 ≤ 2 := by decide
  obtain ⟨c₀, d₀, hc₀, hd₀, hfind, -, -⟩ := serveAll_within hpos hle requests
  refine ⟨hpos, hle, c₀, d₀, hc₀, hd₀, hfind, ?_⟩
  obtain rfl := Except.ok.inj (hc₀.symm.trans (dif_neg (by decide)))
  obtain rfl := Except.ok.inj (hd₀.symm.trans (dif_neg (by decide)))
  decide

end EventRules.Cache
