import EventRules.Proofs.Cache.Inclusion

/-!
# Counters in balance

What the counters of a cache say about its past. A compiler with effects shows when it runs:
`Cache.getOrCompileWith` is the lookup with such a compiler, and gives what `getOrCompile` gives. A
`Tally` has the calls, the runs of the compiler and those that succeeded. The counters are
`Balanced` against it, which every operation keeps: a call is a hit or a miss, a miss is a run, and
what was compiled is there or was evicted.
-/

namespace EventRules.Cache

variable {α κ : Type} {c : Cache α} {e : CacheEntry α} {source : String}

/-! ## Compilers with effects -/

/-- What was compiled from a source, where the compiler acts on a state. -/
def getOrCompileWith (c : Cache α) (source : String) (compile : String → StateM κ (Except Error α)) :
    StateM κ (Except Error α × Cache α) :=
  match c.get? source with
  | (some value, c) => return (.ok value, c.countHit)
  | (none, c) => do
    match ← compile source with
    | .ok value => return (.ok value, c.countMiss.insert source value)
    | .error err => return (.error err, c.countMiss)

variable {compile : String → StateM κ (Except Error α)}

/-- On a hit the compiler does not run. -/
lemma getOrCompileWith_hit (h : c.find? source = some e) (k : κ) :
    c.getOrCompileWith source compile k = (c.getOrCompile source fun s => (compile s k).1, k) := by
  simp only [getOrCompileWith, get?_hit h, getOrCompile_hit h]
  rfl

/-- On a miss it runs once, on the source that was asked for. -/
lemma getOrCompileWith_miss (h : c.find? source = none) (k : κ) :
    c.getOrCompileWith source compile k =
      (c.getOrCompile source fun s => (compile s k).1, (compile source k).2) := by
  simp only [getOrCompileWith, get?_miss h]
  cases hcompile : compile source k with
  | mk result k' =>
    have hresult : (compile source k).1 = result := by rw [hcompile]
    cases result with
    | ok value =>
      rw [getOrCompile_ok h hresult]
      simp only [bind, StateT.bind, hcompile]
      rfl
    | error err =>
      rw [getOrCompile_error h hresult]
      simp only [bind, StateT.bind, hcompile]
      rfl

/-! ## Operations -/

/-- What was done with a cache since it was made or cleared: how often something was to be compiled,
how often the compiler ran and how often it succeeded. -/
structure Tally where
  calls : Nat := 0
  runs : Nat := 0
  successes : Nat := 0

/-- The compiler, with its runs and its successes counted. -/
def counted (compile : String → Except Error α) (source : String) : StateM Tally (Except Error α) :=
  fun t => (compile source,
    { t with runs := t.runs + 1, successes := t.successes + (compile source).isOk.toNat })

/-- What can be done with a cache. -/
inductive Operation (α : Type) where
  | request (r : Request α)
  | size
  | isEmpty

/-- What an operation answers. -/
inductive Answer (α : Type) where
  | compiled (result : Except Error α)
  | found (value : Option α)
  | cleared
  | size (n : Nat)
  | isEmpty (b : Bool)

/-- The request, if the operation is one. -/
def Operation.request? : Operation α → Option (Request α)
  | request r => some r
  | _ => none

/-- Whether the operation only looks into the cache. -/
def Operation.looks : Operation α → Bool
  | request (.get _) | size | isEmpty => true
  | _ => false

/-- The answer of an operation and the cache after it, with the tally kept. -/
def perform (c : Cache α) : Operation α → StateM Tally (Answer α × Cache α)
  | .request (.getOrCompile source compile) => do
    modify fun t => { t with calls := t.calls + 1 }
    let (result, c) ← c.getOrCompileWith source (counted compile)
    return (.compiled result, c)
  | .request (.get source) => return (.found (c.get? source).1, (c.get? source).2)
  | .request .clear => do
    set ({} : Tally)
    return (.cleared, c.clear)
  | .size => return (.size c.size, c)
  | .isEmpty => return (.isEmpty c.isEmpty, c)

/-- The cache after some operations. -/
def performAll (c : Cache α) : List (Operation α) → StateM Tally (Cache α)
  | [] => return c
  | op :: operations => do
    let (_, c) ← c.perform op
    c.performAll operations

section

variable {compile : String → Except Error α} {value : α} {err : Error} {t : Tally}

/-- A call answers and leaves the cache as `getOrCompile` does; the tally counts it, and the run of
the compiler if the source is not there. -/
lemma perform_getOrCompile :
    c.perform (.request (.getOrCompile source compile)) t =
      ((.compiled (c.getOrCompile source compile).1, (c.getOrCompile source compile).2),
        match c.find? source with
        | some _ => { t with calls := t.calls + 1 }
        | none => ⟨t.calls + 1, t.runs + 1, t.successes + (compile source).isOk.toNat⟩) := by
  have hperform : c.perform (.request (.getOrCompile source compile)) t =
      (fun p => ((.compiled p.1.1, p.1.2), p.2))
        (c.getOrCompileWith source (counted compile) { t with calls := t.calls + 1 }) := rfl
  cases h : c.find? source with
  | some e =>
    rw [hperform, getOrCompileWith_hit h]
    rfl
  | none =>
    rw [hperform, getOrCompileWith_miss h]
    rfl

/-- The cache after an operation is that of the request, if it is one. -/
lemma cache_perform (c : Cache α) (op : Operation α) (t : Tally) :
    (c.perform op t).1.2 = c.serveAll op.request?.toList := by
  cases op with
  | request r =>
    cases r with
    | getOrCompile source compile => rw [perform_getOrCompile]; rfl
    | get source => rfl
    | clear => rfl
  | size => rfl
  | isEmpty => rfl

/-- A sequence of operations is the first one and then the others. -/
lemma performAll_cons (c : Cache α) (op : Operation α) (operations : List (Operation α)) (t : Tally) :
    c.performAll (op :: operations) t = (c.perform op t).1.2.performAll operations (c.perform op t).2 := rfl

/-- To run operations is to serve the requests among them. -/
lemma cache_performAll (c : Cache α) (operations : List (Operation α)) (t : Tally) :
    (c.performAll operations t).1 = c.serveAll (operations.filterMap Operation.request?) := by
  induction operations generalizing c t with
  | nil => rfl
  | cons op operations ih =>
    rw [performAll_cons, ih, cache_perform]
    cases op <;> rfl

end

/-! ## Balance -/

/-- The counters of a cache against what was done with it. -/
structure Balanced (c : Cache α) (t : Tally) : Prop where
  /-- No source is there twice, and no more of them than there is room for. -/
  holds : ∃ sources, Holds c sources
  /-- Every call was a hit or a miss. -/
  calls : c.stats.hits + c.stats.misses = t.calls
  compiles : c.stats.compiles = c.stats.misses
  /-- On every miss the compiler ran. -/
  runs : c.stats.misses = t.runs
  /-- What was compiled is there or was evicted. -/
  successes : c.size + c.stats.evictions = t.successes

/-- A cache is as large as the number of its sources. -/
lemma Holds.size {sources : List String} (h : Holds c sources) : c.size = sources.length := by
  obtain ⟨l, hl, rfl⟩ := h
  rw [List.length_map, ← hl.perm.length_eq, List.length_map]
  rfl

namespace Balanced

variable {t : Tally} {value : α}

/-- A cache without entries that has counted nothing, and nothing done with it. -/
lemma empty (hentries : c.entries = []) (hstats : c.stats = {}) : Balanced c {} where
  holds := ⟨[], .empty hentries⟩
  calls := by rw [hstats]; rfl
  compiles := by rw [hstats]
  runs := by rw [hstats]
  successes := by rw [hstats, size, hentries]; rfl

/-- A hit moves an entry to the front; no counter changes by that. -/
lemma touch (h : Balanced c t) (he : c.find? source = some e) : Balanced (c.touch source) t where
  holds := by
    obtain ⟨sources, hsources⟩ := h.holds
    exact ⟨_, hsources.touch he⟩
  calls := h.calls
  compiles := h.compiles
  runs := h.runs
  successes := by
    rw [← h.successes, size, Cache.touch, List.length_map]
    rfl

/-- A hit is a call without a run of the compiler. -/
lemma countHit (h : Balanced c t) : Balanced c.countHit { t with calls := t.calls + 1 } where
  holds := by
    obtain ⟨sources, hsources⟩ := h.holds
    exact ⟨_, hsources.count _⟩
  calls := by
    have hcalls := h.calls
    show c.stats.hits + 1 + c.stats.misses = t.calls + 1
    omega
  compiles := h.compiles
  runs := h.runs
  successes := h.successes

/-- A miss is a call and a run of the compiler, which has not succeeded yet. -/
lemma countMiss (h : Balanced c t) : Balanced c.countMiss ⟨t.calls + 1, t.runs + 1, t.successes⟩ where
  holds := by
    obtain ⟨sources, hsources⟩ := h.holds
    exact ⟨_, hsources.count _⟩
  calls := congrArg (· + 1) h.calls
  compiles := congrArg (· + 1) h.compiles
  runs := congrArg (· + 1) h.runs
  successes := h.successes

/-- What is taken in beyond the room that there is drives out as much. -/
lemma insert (h : Balanced c t) (hmiss : c.find? source = none) (value : α) :
    Balanced (c.insert source value) { t with successes := t.successes + 1 } := by
  obtain ⟨sources, hsources⟩ := h.holds
  have hinsert := hsources.insert hmiss value
  have hstats := hsources.stats_insert hmiss value
  refine ⟨⟨_, hinsert⟩, ?_, ?_, ?_, ?_⟩
  · rw [hstats]
    exact h.calls
  · rw [hstats]
    exact h.compiles
  · rw [hstats]
    exact h.runs
  · have hsuccesses := h.successes
    rw [hsources.size] at hsuccesses
    rw [hinsert.size, hstats, List.length_take, List.length_cons]
    show min c.capacity (sources.length + 1) + (c.stats.evictions + (sources.length + 1 - c.capacity)) = t.successes + 1
    omega

/-- Every operation keeps the balance. -/
lemma perform (h : Balanced c t) (op : Operation α) : Balanced (c.perform op t).1.2 (c.perform op t).2 := by
  cases op with
  | request r =>
    cases r with
    | getOrCompile source compile =>
      rw [perform_getOrCompile]
      cases hfind : c.find? source with
      | some e =>
        rw [getOrCompile_hit hfind]
        exact (h.touch hfind).countHit
      | none =>
        cases hcompile : compile source with
        | ok value =>
          rw [getOrCompile_ok hfind hcompile]
          exact h.countMiss.insert hfind value
        | error err =>
          rw [getOrCompile_error hfind hcompile]
          exact h.countMiss
    | get source =>
      show Balanced (c.get? source).2 t
      cases hfind : c.find? source with
      | some e =>
        rw [get?_hit hfind]
        exact h.touch hfind
      | none =>
        rw [get?_miss hfind]
        exact h
    | clear => exact .empty rfl rfl
  | size => exact h
  | isEmpty => exact h

/-- Counters stay balanced over a sequence of operations. -/
lemma performAll (h : Balanced c t) (operations : List (Operation α)) :
    Balanced (c.performAll operations t).1 (c.performAll operations t).2 := by
  induction operations generalizing c t with
  | nil => exact h
  | cons op operations ih => exact ih (h.perform op)

end Balanced

/-- To look into a cache changes no counter. -/
lemma stats_perform {op : Operation α} (h : op.looks = true) (c : Cache α) (t : Tally) :
    (c.perform op t).1.2.stats = c.stats := by
  cases op with
  | request r =>
    cases r with
    | get source =>
      show (c.get? source).2.stats = c.stats
      cases hfind : c.find? source with
      | some e =>
        rw [get?_hit hfind]
        rfl
      | none => rw [get?_miss hfind]
    | _ => cases h
  | size => rfl
  | isEmpty => rfl

/-- A compilation that failed has changed no entry. -/
lemma entries_perform {op : Operation α} {err : Error} {t : Tally}
    (h : (c.perform op t).1.1 = .compiled (.error err)) : (c.perform op t).1.2.entries = c.entries := by
  cases op with
  | request r =>
    cases r with
    | getOrCompile source compile =>
      rw [perform_getOrCompile] at h ⊢
      cases hfind : c.find? source with
      | some e =>
        rw [getOrCompile_hit hfind] at h
        cases h
      | none =>
        cases hcompile : compile source with
        | ok value =>
          rw [getOrCompile_ok hfind hcompile] at h
          cases h
        | error err =>
          rw [getOrCompile_error hfind hcompile]
          rfl
    | get source => cases h
    | clear => cases h
  | size => cases h
  | isEmpty => cases h

/-- Whatever is done with a cache, its counters balance since it was made or cleared: the calls are
its hits and misses, the runs of the compiler its misses, and what was compiled with success is there
or evicted. To look into the cache changes no counter, and a compilation that fails no entry. -/
theorem counters_balance {capacity : Nat} (hpos : 0 < capacity) (operations : List (Operation α)) :
    ∃ c₀ : Cache α, create capacity = .ok c₀ ∧
      let c := (c₀.performAll operations {}).1
      let tally := (c₀.performAll operations {}).2
      c = c₀.serveAll (operations.filterMap Operation.request?) ∧
      c.stats.hits + c.stats.misses = tally.calls ∧
      c.stats.compiles = c.stats.misses ∧ c.stats.misses = tally.runs ∧
      c.size + c.stats.evictions = tally.successes ∧
      (∀ op, op.looks = true → (c.perform op tally).1.2.stats = c.stats) ∧
      ∀ op err, (c.perform op tally).1.1 = .compiled (.error err) → (c.perform op tally).1.2.entries = c.entries := by
  refine ⟨{ capacity, capacity_pos := hpos }, dif_neg (Nat.ne_of_gt hpos), ?_⟩
  have hbalanced : Balanced (α := α) { capacity, capacity_pos := hpos } {} := .empty rfl rfl
  obtain ⟨-, hcalls, hcompiles, hruns, hsuccesses⟩ := hbalanced.performAll operations
  exact ⟨cache_performAll _ operations {}, hcalls, hcompiles, hruns, hsuccesses,
    fun op hop => stats_perform hop _ _, fun op err herr => entries_perform herr⟩

/-- After a clear, with room for one source: a hit, a source that drives out the other, and one that
does not compile. -/
theorem counters_balance_room :
    let compile (s : String) : Except Error Nat := if s = "" then .error (.unknownFunction s) else .ok s.length
    let ask (source : String) : Operation Nat := .request (.getOrCompile source compile)
    ∃ c₀ : Cache Nat, create 1 = .ok c₀ ∧
      let c := (c₀.performAll [ask "c", ask "", .request .clear, ask "a", .size, ask "a", ask "b", ask ""] {}).1
      c.stats.hits + c.stats.misses = 4 ∧ c.stats.compiles = 3 ∧ c.size + c.stats.evictions = 2 := by
  intro compile ask
  obtain ⟨c₀, hc₀, -, hcalls, hcompiles, hruns, hsuccesses, -⟩ := counters_balance (by decide : 0 < 1)
    [ask "c", ask "", .request .clear, ask "a", .size, ask "a", ask "b", ask ""]
  refine ⟨c₀, hc₀, ?_⟩
  cases hc₀
  exact ⟨hcalls.trans rfl, hcompiles.trans (hruns.trans rfl), hsuccesses.trans rfl⟩

end EventRules.Cache
