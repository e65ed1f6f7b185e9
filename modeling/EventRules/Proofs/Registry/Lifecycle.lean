import EventRules.Function.Registry
import EventRules.Proofs.Keyed

/-!
# The life of a function

What may be done with a function of a registry, and when. The history of a registry is lawful: a
function without state is only applied; one with state is set up once and before all else, applied
only while it is open, and closed once while it is open. `Registry.Consistent` ties the table to the
history, entry by entry; every operation of a registry preserves it.
-/

namespace EventRules

/-- In a history a function was set up well and has not been closed. -/
def History.Open (past : History) (id : Nat) : Prop :=
  (∃ o ∈ past, o.owner = id ∧ o.action = .setUp ∧ o.succeeded = true) ∧
    ∀ o ∈ past, o.owner = id → o.action ≠ .close

/-- What was done with the function `f` was lawful after an earlier history, and was the work of
`f`. -/
def Occurrence.Lawful (context : Context) (f : Function) (o : Occurrence) (older : History) : Prop :=
  match o.action with
  | .setUp => f.stateful = true ∧ (∀ p ∈ older, p.owner ≠ o.owner) ∧
      o.succeeded = (f.setUp ⟨context, o.owner, older⟩).isOk
  | .apply args => (f.stateful = true → older.Open o.owner) ∧
      o.succeeded = (f.apply ⟨context, o.owner, older⟩ args).isOk
  | .close => f.stateful = true ∧ older.Open o.owner ∧
      o.succeeded = (f.close ⟨context, o.owner, older⟩).isOk

/-- Every occurrence in the history was lawful; `fs` are the functions by their numbers. -/
def History.Lawful (context : Context) (fs : List Function) : History → Prop
  | [] => True
  | o :: older => (∃ f, fs[o.owner]? = some f ∧ o.Lawful context f older) ∧ History.Lawful context fs older

namespace History

variable {context : Context} {fs : List Function} {past newer older : History} {o : Occurrence} {id : Nat}

/-- Every occurrence in a lawful history was lawful after those before it. -/
lemma Lawful.occurrence (h : Lawful context fs (newer ++ o :: older)) :
    ∃ f, fs[o.owner]? = some f ∧ o.Lawful context f older := by
  induction newer with
  | nil => exact h.1
  | cons p newer ih => exact ih h.2

/-- A further function makes no history unlawful. -/
lemma Lawful.append (h : Lawful context fs past) (f : Function) : Lawful context (fs ++ [f]) past := by
  induction past with
  | nil => trivial
  | cons o older ih =>
    obtain ⟨⟨g, hg, hlawful⟩, holder⟩ := h
    have hlt := (List.getElem?_eq_some_iff.1 hg).1
    exact ⟨⟨g, (List.getElem?_append_left hlt).trans hg, hlawful⟩, ih holder⟩

/-- Only functions that were handed over occur in a lawful past. -/
lemma Lawful.owner_lt (h : Lawful context fs past) : ∀ o ∈ past, o.owner < fs.length := by
  induction past with
  | nil => nofun
  | cons o older ih =>
    obtain ⟨⟨f, hf, -⟩, holder⟩ := h
    intro p hp
    rcases List.mem_cons.1 hp with rfl | hp
    · exact (List.getElem?_eq_some_iff.1 hf).1
    · exact ih holder p hp

/-- A function is set up once: what was done before it was set up is determined. -/
lemma Lawful.setUp_unique {newer' older' : History} {succeeded succeeded' : Bool} (h : Lawful context fs past)
    (hpast : past = newer ++ ⟨id, .setUp, succeeded⟩ :: older)
    (hpast' : past = newer' ++ ⟨id, .setUp, succeeded'⟩ :: older') : older = older' := by
  -- Whichever of the two came later came before nothing of the same function.
  have first {ns os ns' os' : History} {b b' : Bool} (hl : Lawful context fs (ns ++ ⟨id, .setUp, b⟩ :: os))
      (hs : (⟨id, .setUp, b⟩ : Occurrence) :: os = ns' ++ ⟨id, .setUp, b'⟩ :: os') : os = os' := by
    cases ns' with
    | nil => exact (List.cons.inj hs).2
    | cons p ns' =>
      obtain ⟨rfl, rfl⟩ := List.cons.inj hs
      obtain ⟨f, -, -, hnone, -⟩ := hl.occurrence
      exact absurd rfl (hnone ⟨id, .setUp, b'⟩ (List.mem_append_right _ List.mem_cons_self))
  rcases List.append_eq_append_iff.1 (hpast.symm.trans hpast') with ⟨as, -, hs⟩ | ⟨as, -, hs⟩
  · exact first (hpast ▸ h) hs
  · exact (first (hpast' ▸ h) hs).symm

/-- A function stays open while nothing is closed. -/
lemma Open.append (h : Open past id) (hnew : ∀ o ∈ newer, o.action ≠ .close) : Open (newer ++ past) id := by
  obtain ⟨⟨o, ho, hset⟩, hclose⟩ := h
  refine ⟨⟨o, List.mem_append_right _ ho, hset⟩, fun p hp howner => ?_⟩
  rcases List.mem_append.1 hp with hp | hp
  · exact hnew p hp
  · exact hclose p hp howner

end History

namespace Registry

variable {fs : List Function} {r : Registry} {name : String} {e : Registration} {o : Occurrence}

/-- What the entry under a name says of its function is what the history says. -/
structure Tracks (fs : List Function) (r : Registry) (name : String) (e : Registration) : Prop where
  name_eq : e.info.name = name
  function_eq : fs[e.id]? = some e.function
  untouched : e.function.stateful = true → e.outcome = none → ∀ o ∈ r.past, o.owner ≠ e.id
  set_up : ∀ outcome, e.outcome = some outcome → e.function.stateful = true ∧
    ∃ newer older, r.past = newer ++ ⟨e.id, .setUp, outcome.isOk⟩ :: older ∧
      outcome = e.function.setUp ⟨r.context, e.id, older⟩
  unclosed : e.closed = false → ∀ o ∈ r.past, o.owner = e.id → o.action ≠ .close

/-- No function stands in a table under two names. -/
def Distinct (table : Keyed Registration) : Prop :=
  ∀ name e other e', Keyed.get? table name = some e → Keyed.get? table other = some e' → e.id = e'.id →
    name = other

/-- The history is lawful, and the table agrees with it; no function stands in the table twice. -/
structure Consistent (fs : List Function) (r : Registry) : Prop where
  handed : fs.length = r.nextId
  lawful : r.past.Lawful r.context fs
  tracks : ∀ name e, Keyed.get? r.table name = some e → Tracks fs r name e
  distinct : Distinct r.table

/-- An entry may take a place in a table if its function has no other place there. -/
lemma Distinct.insert {table : Keyed Registration} (h : Distinct table)
    (hplace : ∀ other e', Keyed.get? table other = some e' → e'.id = e.id → other = name) :
    Distinct (Keyed.insert table name e) := by
  intro other e' third e'' he' he'' hid
  simp only [Keyed.get?_insert] at he' he''
  split at he'
  case isTrue ho =>
    cases he'
    split at he''
    case isTrue ht => rw [ho, ht]
    case isFalse => rw [ho, hplace third e'' he'' hid.symm]
  case isFalse =>
    split at he''
    case isTrue ht =>
      cases he''
      rw [ht, hplace other e' he' hid]
    case isFalse => exact h other e' third e'' he' he'' hid

/-- An entry that was set up well and is not closed is open. -/
lemma Tracks.isOpen (h : Tracks fs r name e) (hc : e.closed = false) (ho : e.outcome = some (.ok ())) :
    r.past.Open e.id := by
  obtain ⟨-, newer, older, hpast, -⟩ := h.set_up _ ho
  refine ⟨⟨⟨e.id, .setUp, true⟩, ?_, rfl, rfl, rfl⟩, h.unclosed hc⟩
  rw [hpast]
  exact List.mem_append_right _ List.mem_cons_self

/-- An entry agrees with a history that goes on, if what was done could be done with the function of
the entry. -/
lemma Tracks.note (h : Tracks fs r name e) (action : Action) (succeeded : Bool) (owner : Nat)
    (htouch : owner = e.id → e.function.stateful = true → e.outcome ≠ none)
    (hclose : owner = e.id → action = .close → e.closed = true) :
    Tracks fs (r.note owner action succeeded) name e where
  name_eq := h.name_eq
  function_eq := h.function_eq
  untouched := by
    intro hs hn o ho howner
    rcases List.mem_cons.1 ho with rfl | ho
    · exact htouch howner hs hn
    · exact h.untouched hs hn o ho howner
  set_up := by
    intro outcome hout
    obtain ⟨hs, newer, older, hpast, hset⟩ := h.set_up outcome hout
    exact ⟨hs, _ :: newer, older, congrArg _ hpast, hset⟩
  unclosed := by
    intro hc o ho howner hact
    rcases List.mem_cons.1 ho with rfl | ho
    · rw [hclose howner hact] at hc
      cases hc
    · exact h.unclosed hc o ho howner hact

/-- What was done with a function does not depend on the table. -/
lemma Tracks.table (h : Tracks fs r name e) (table : Keyed Registration) :
    Tracks fs { r with table } name e :=
  ⟨h.name_eq, h.function_eq, h.untouched, h.set_up, h.unclosed⟩

namespace Consistent

/-- A registry stays consistent when something lawful is noted that could be done with every entry
it was done with. -/
lemma note (h : Consistent fs r) {f : Function} {owner : Nat} {action : Action} {succeeded : Bool}
    (hf : fs[owner]? = some f) (hlawful : Occurrence.Lawful r.context f ⟨owner, action, succeeded⟩ r.past)
    (htouch : ∀ name e, Keyed.get? r.table name = some e → owner = e.id → e.function.stateful = true →
      e.outcome ≠ none)
    (hclose : ∀ name e, Keyed.get? r.table name = some e → owner = e.id → action = .close → e.closed = true) :
    Consistent fs (r.note owner action succeeded) where
  handed := h.handed
  lawful := ⟨⟨f, hf, hlawful⟩, h.lawful⟩
  tracks name e he := (h.tracks name e he).note action succeeded owner (htouch name e he) (hclose name e he)
  distinct := h.distinct

/-- A registry stays consistent when an entry that agrees with the history takes a place in the
table that no other entry of the same function has. -/
lemma insert (h : Consistent fs r) (ht : Tracks fs r name e)
    (hplace : ∀ other e', Keyed.get? r.table other = some e' → e'.id = e.id → other = name) :
    Consistent fs { r with table := Keyed.insert r.table name e } where
  handed := h.handed
  lawful := h.lawful
  tracks := by
    intro other e' he'
    simp only [Keyed.get?_insert] at he'
    split at he'
    case isTrue ho =>
      cases he'
      subst ho
      exact ht.table _
    case isFalse => exact (h.tracks other e' he').table _
  distinct := h.distinct.insert hplace

end Consistent

end Registry

end EventRules
