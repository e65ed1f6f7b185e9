import EventRules.Error

/-!
# Bounded cache

A cache keeps what was compiled from a source, up to a number of sources. Every use of an entry stamps it with the
next tick of a clock; when the cache grows too large, the entry with the oldest stamp goes. Failed compilations are
not kept. Requests come one after the other. The clock and the counters are natural numbers: they stand for counters
of 64 bits that are never used long enough to start over.
-/

namespace EventRules

/-- How often the cache answered, missed, compiled and dropped something since it was made or cleared. -/
structure CacheStats where
  hits : Nat := 0
  misses : Nat := 0
  compiles : Nat := 0
  evictions : Nat := 0
  deriving DecidableEq, Repr, Inhabited

/-- What was compiled from a source, with the tick of its last use. -/
structure CacheEntry (α : Type) where
  source : String
  value : α
  lastUse : Nat

/-- A cache of at most `capacity` entries. -/
structure Cache (α : Type) where
  capacity : Nat
  entries : List (CacheEntry α) := []
  clock : Nat := 0
  stats : CacheStats := {}
  capacity_pos : 0 < capacity := by omega

namespace Cache

variable {α : Type}

/-- An empty cache with room for one entry at least. -/
def create (capacity : Nat) : Except Error (Cache α) :=
  if h : capacity = 0 then .error (.invalidConfig .zeroExpressionCapacity)
  else .ok { capacity, capacity_pos := Nat.pos_of_ne_zero h }

/-- How many entries there are. -/
def size (c : Cache α) : Nat :=
  c.entries.length

/-- Whether there are none. -/
def isEmpty (c : Cache α) : Bool :=
  c.entries.isEmpty

/-- The entry of a source. -/
def find? (c : Cache α) (source : String) : Option (CacheEntry α) :=
  c.entries.find? (·.source = source)

/-- Stamps the entry of a source with the present tick. -/
def touch (c : Cache α) (source : String) : Cache α :=
  { c with
    entries := c.entries.map fun e => if e.source = source then { e with lastUse := c.clock } else e
    clock := c.clock + 1 }

/-- What was compiled from a source, if it is there; that counts as a use. -/
def get? (c : Cache α) (source : String) : Option α × Cache α :=
  match c.find? source with
  | some e => (some e.value, c.touch source)
  | none => (none, c)

/-- The entry that was not used for the longest time. -/
def oldest? : List (CacheEntry α) → Option (CacheEntry α)
  | [] => none
  | e :: rest =>
    match oldest? rest with
    | some f => some (if e.lastUse ≤ f.lastUse then e else f)
    | none => some e

/-- Drops the oldest entries until the cache fits its capacity, at most `fuel` of them. -/
def shrink : (fuel : Nat) → Cache α → Cache α
  | 0, c => c
  | fuel + 1, c =>
    if c.entries.length ≤ c.capacity then c
    else match oldest? c.entries with
      | none => c
      | some e =>
        shrink fuel
          { c with
            entries := c.entries.filter (·.source ≠ e.source)
            stats := { c.stats with evictions := c.stats.evictions + 1 } }

/-- Adds an entry in place of one with the same source, and drops what is then too much. -/
def insert (c : Cache α) (source : String) (value : α) : Cache α :=
  let entries := ⟨source, value, c.clock⟩ :: c.entries.filter (·.source ≠ source)
  shrink entries.length { c with entries, clock := c.clock + 1 }

/-- What was compiled from a source; on a miss it is compiled, and kept if that succeeds. While a source is being
compiled, others that ask for it wait for the result in a slot, which is given up at the end of the request, whatever
came of it. Between requests there is no slot: a request that misses finds none to wait in, nor anything that was kept
since it missed, so that it compiles. Slots are therefore no part of the state, and every miss counts as a compilation. -/
def getOrCompile (c : Cache α) (source : String) (compile : String → Except Error α) :
    Except Error α × Cache α :=
  match c.get? source with
  | (some value, c) => (.ok value, { c with stats := { c.stats with hits := c.stats.hits + 1 } })
  | (none, c) =>
    let stats := { c.stats with misses := c.stats.misses + 1, compiles := c.stats.compiles + 1 }
    let c := { c with stats }
    match compile source with
    | .ok value => (.ok value, c.insert source value)
    | .error e => (.error e, c)

/-- Drops all entries and starts counting anew; the clock goes on. -/
def clear (c : Cache α) : Cache α :=
  { c with entries := [], stats := {} }

end Cache

end EventRules
