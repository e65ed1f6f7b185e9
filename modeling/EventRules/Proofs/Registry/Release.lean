import EventRules.Proofs.Registry.Operations

/-!
# Release of functions

A function that was set up well is released by closing it. A registry `Holds` every function that
is open: it stands in the table, not marked as closed. Whatever takes an entry out of the table or
marks it as closed closes its function at the same time, so after all functions were closed none is
open. In a lawful history a function is closed once at most, and only after it was set up well.
-/

namespace EventRules

/-- Whether a function was closed, well or not. -/
def Action.isClose : Action → Bool
  | .close => true
  | _ => false

/-- The action that closes is the one that is called so. -/
@[simp] lemma Action.isClose_iff {action : Action} : action.isClose = true ↔ action = .close := by
  cases action <;> simp [isClose]

namespace History

variable {context : Context} {fs : List Function} {past older : History} {o : Occurrence} {id : Nat}
  {f : Function}

/-- How often the function of the given number was closed. -/
def closings (past : History) (id : Nat) : Nat :=
  past.countP fun o => o.owner == id && o.action.isClose

/-- The function `f` of the given number was set up, and that succeeded. -/
def SetUpWell (context : Context) (f : Function) (past : History) (id : Nat) : Prop :=
  ∃ newer older, past = newer ++ ⟨id, .setUp, true⟩ :: older ∧ f.setUp ⟨context, id, older⟩ = .ok ()

/-- There are no closings just if no operation closed the function. -/
lemma closings_eq_zero : closings past id = 0 ↔ ∀ o ∈ past, o.owner = id → o.action ≠ .close := by
  simp [closings, List.countP_eq_zero]

/-- A count of closings comes from an operation that closed the function. -/
lemma exists_close (h : closings past id ≠ 0) : ∃ o ∈ past, o.owner = id ∧ o.action = .close := by
  obtain ⟨o, ho, hclose⟩ := List.countP_pos_iff.1 (Nat.pos_of_ne_zero h)
  rw [Bool.and_eq_true, beq_iff_eq, Action.isClose_iff] at hclose
  exact ⟨o, ho, hclose⟩

/-- Only a function that is open is closed, so it is closed once. -/
lemma Lawful.closings_le_one (h : Lawful context fs past) (id : Nat) : closings past id ≤ 1 := by
  induction past with
  | nil => exact Nat.zero_le 1
  | cons o older ih =>
    obtain ⟨⟨f, -, hlawful⟩, holder⟩ := h
    rw [closings, List.countP_cons]
    split
    case isTrue hclose =>
      rw [Bool.and_eq_true, beq_iff_eq, Action.isClose_iff] at hclose
      obtain ⟨rfl, hact⟩ := hclose
      simp only [Occurrence.Lawful, hact] at hlawful
      obtain ⟨-, ⟨-, hnone⟩, -⟩ := hlawful
      have hzero : closings older o.owner = 0 := closings_eq_zero.2 hnone
      exact Nat.le_of_eq (congrArg (· + 1) hzero)
    case isFalse => exact ih holder

/-- A function that was closed was set up well before. -/
lemma Lawful.setUpWell_of_close (h : Lawful context fs past) (hf : fs[id]? = some f)
    (hclose : closings past id ≠ 0) : SetUpWell context f past id := by
  obtain ⟨o, ho, howner, hact⟩ := exists_close hclose
  obtain ⟨newer, older, rfl⟩ := List.append_of_mem ho
  obtain ⟨g, -, hlawful⟩ := h.occurrence
  simp only [Occurrence.Lawful, hact, howner] at hlawful
  obtain ⟨-, ⟨⟨p, hp, hpowner, hpact, hpok⟩, -⟩, -⟩ := hlawful
  obtain ⟨between, oldest, rfl⟩ := List.append_of_mem hp
  have hsplit : newer ++ o :: (between ++ p :: oldest) = (newer ++ o :: between) ++ p :: oldest := by simp
  rw [hsplit] at h
  obtain ⟨f', hf', hset⟩ := h.occurrence
  obtain ⟨owner, action, succeeded⟩ := p
  cases hpowner
  cases hpact
  cases hpok
  cases hf.symm.trans hf'
  refine ⟨newer ++ o :: between, oldest, hsplit, ?_⟩
  obtain ⟨-, -, hok⟩ := hset
  cases hresult : f.setUp ⟨context, owner, oldest⟩ with
  | ok u => rfl
  | error err =>
    rw [hresult] at hok
    cases hok

/-- A function that was set up well and is not open was closed. -/
lemma SetUpWell.closings_ne_zero (h : SetUpWell context f past id) (hopen : ¬ Open past id) :
    closings past id ≠ 0 := by
  obtain ⟨newer, older, rfl, -⟩ := h
  intro hzero
  refine hopen ⟨⟨⟨id, .setUp, true⟩, ?_, rfl, rfl, rfl⟩, closings_eq_zero.1 hzero⟩
  exact List.mem_append_right _ List.mem_cons_self

/-- What is open after something was done was open before, or was just set up. -/
lemma Open.of_cons (h : Open (o :: older) id) :
    Open older id ∧ (o.owner = id → o.action ≠ .close) ∨ o.owner = id ∧ o.action = .setUp ∧ o.succeeded = true := by
  obtain ⟨⟨p, hp, hset⟩, hnone⟩ := h
  rcases List.mem_cons.1 hp with rfl | hp
  · exact .inr hset
  · refine .inl ⟨⟨⟨p, hp, hset⟩, fun q hq => hnone q (List.mem_cons_of_mem _ hq)⟩, hnone o List.mem_cons_self⟩

end History

namespace Registry

variable {fs : List Function} {r r' : Registry} {name : String} {e old : Registration} {id : Nat}

/-- The function of the given number is open, according to an entry of the table. -/
def HasOpen (r : Registry) (id : Nat) : Prop :=
  ∃ name e, Keyed.get? r.table name = some e ∧ e.id = id ∧ e.closed = false ∧ e.outcome = some (.ok ())

/-- Every open function stands in the table as open. -/
def Holds (r : Registry) : Prop :=
  ∀ id, r.past.Open id → r.HasOpen id

/-- A function that is set up is open, and stands in the table. -/
lemma holds_setUp (h : Holds r) (hname : e.info.name = name) (he : Keyed.get? r.table name = some e)
    (hc : e.closed = false) (ho : e.outcome = none) : Holds (setUp e r) := by
  subst hname
  intro id hopen
  rcases hopen.of_cons with ⟨hopen, -⟩ | ⟨hid, -, hok⟩
  · obtain ⟨other, e', he', hid, hc', ho'⟩ := h id hopen
    -- An open function has an outcome, and the entry that is set up had none.
    have hother : other ≠ e.info.name := by
      rintro rfl
      cases he.symm.trans he'
      rw [ho] at ho'
      cases ho'
    refine ⟨other, e', ?_, hid, hc', ho'⟩
    simp only [setUp, note, Keyed.get?_insert, if_neg hother]
    exact he'
  · cases hresult : e.function.setUp (r.situation e.id) with
    | ok u =>
      refine ⟨e.info.name, { e with outcome := some (.ok ()) }, ?_, hid, hc, rfl⟩
      simp only [setUp, note, Keyed.get?_insert, if_pos, hresult]
    | error err =>
      simp only [hresult] at hok
      cases hok

/-- To resolve a name keeps all open functions held. -/
lemma holds_resolve (h : Holds r) (hcons : Consistent fs r) (name : String) : Holds (resolve name r).2 := by
  have hres := resolution name r
  generalize (resolve name r).1 = result, (resolve name r).2 = next at hres
  cases hres with
  | first he hs hc ho => exact holds_setUp h (hcons.tracks name _ he).name_eq he hc ho
  | _ => exact h

/-- To apply a function keeps all open functions held. -/
lemma holds_applyEntry (h : Holds r) (e : Registration) (args : List Value) : Holds (applyEntry e args r).2 := by
  intro id hopen
  rcases hopen.of_cons with ⟨hopen, -⟩ | ⟨-, hact, -⟩
  · exact h id hopen
  · cases hact

/-- An entry that gives up its place has its function closed, so no open function is lost. -/
lemma holds_closeEntry (h : Holds r) (hold : Keyed.get? r.table name = some old)
    (htable : r'.table = Keyed.insert r.table name e) (hpast : r'.past = r.past) :
    Holds (closeEntry old r').2 := by
  -- An open function stays in the table unless it is the one that gives up its place.
  have kept {id : Nat} (hopen : r.past.Open id) (hnot : ¬ (old.id = id ∧ old.closed = false ∧
      old.outcome = some (.ok ()))) : r'.HasOpen id := by
    obtain ⟨other, e', he', hid, hc, ho⟩ := h id hopen
    have hother : other ≠ name := by
      rintro rfl
      cases hold.symm.trans he'
      exact hnot ⟨hid, hc, ho⟩
    refine ⟨other, e', ?_, hid, hc, ho⟩
    rw [htable, Keyed.get?_insert, if_neg hother]
    exact he'
  by_cases hboth : old.closed = false ∧ old.outcome = some (.ok ())
  · rw [closeEntry_open hboth.1 hboth.2]
    intro id hopen
    rcases hopen.of_cons with ⟨hopen, hclose⟩ | ⟨-, hact, -⟩
    · rw [hpast] at hopen
      exact kept hopen fun hold => hclose hold.1 rfl
    · cases hact
  · rw [closeEntry_idle fun hc ho => hboth ⟨hc, ho⟩]
    intro id hopen
    rw [hpast] at hopen
    exact kept hopen fun hold => hboth hold.2

/-- A function that is put over another takes its place, and the other is closed. -/
lemma holds_insert (h : Holds r) (info : FunctionInfo) (f : Function) (replace : Bool) :
    Holds (insert info f replace r).2 := by
  rcases insert_cases info f replace r with hrun | ⟨named, ⟨hnone, hrun⟩ | ⟨old, hold, hrun⟩⟩
  · rw [hrun]
    exact h
  · rw [hrun]
    intro id hopen
    obtain ⟨other, e, he, hentry⟩ := h id hopen
    have hother : other ≠ named.name := by
      rintro rfl
      rw [hnone] at he
      cases he
    refine ⟨other, e, ?_, hentry⟩
    simp only [Keyed.get?_insert, if_neg hother]
    exact he
  · rw [hrun]
    exact holds_closeEntry h hold rfl rfl

/-! ## Closing all functions -/

/-- Closing a function leaves one more close in the history, which tells how it went, or nothing. -/
lemma closeEntry_past (e : Registration) (r : Registry) :
    ∃ new, (closeEntry e r).2.past = new ++ r.past ∧ (∀ o ∈ new, o.action = .close) ∧
      (closeEntry e r).1.isOk = new.all (·.succeeded) := by
  by_cases hboth : e.closed = false ∧ e.outcome = some (.ok ())
  · rw [closeEntry_open hboth.1 hboth.2]
    refine ⟨[⟨e.id, .close, _⟩], rfl, ?_, (Bool.and_true _).symm⟩
    intro o ho
    rw [List.mem_singleton.1 ho]
  · rw [closeEntry_idle fun hc ho => hboth ⟨hc, ho⟩]
    exact ⟨[], rfl, nofun, rfl⟩

/-- A name that is not there has nothing to be closed. -/
lemma closeNames_none (he : Keyed.get? r.table name = none) (names : List String) :
    closeNames (name :: names) r = closeNames names r := by
  simp only [closeNames, he]

/-- A name that is there is marked before its function is closed, and the others come after that. -/
lemma closeNames_some (he : Keyed.get? r.table name = some e) (names : List String) :
    closeNames (name :: names) r =
      let next := closeEntry e (r.markClosed name e)
      let rest := closeNames names next.2
      ((match next.1 with
        | .ok () => rest.1
        | .error err => .error err), rest.2) := by
  simp only [closeNames, he]
  rfl

/-- Closing functions goes on after one could not be closed, and fails if one could not be. -/
lemma closeNames_past (names : List String) (r : Registry) :
    ∃ new, (closeNames names r).2.past = new ++ r.past ∧ (∀ o ∈ new, o.action = .close) ∧
      (closeNames names r).1.isOk = new.all (·.succeeded) := by
  induction names generalizing r with
  | nil => exact ⟨[], rfl, nofun, rfl⟩
  | cons name names ih =>
    cases he : Keyed.get? r.table name with
    | none =>
      rw [closeNames_none he]
      exact ih r
    | some e =>
      rw [closeNames_some he]
      obtain ⟨first, hfirst, hclose, hok⟩ := closeEntry_past e (r.markClosed name e)
      obtain ⟨others, hothers, hclose', hok'⟩ := ih (closeEntry e (r.markClosed name e)).2
      refine ⟨others ++ first, ?_, ?_, ?_⟩
      · show (closeNames names _).2.past = _
        rw [hothers, hfirst, List.append_assoc]
        rfl
      · intro o ho
        rcases List.mem_append.1 ho with ho | ho
        · exact hclose' o ho
        · exact hclose o ho
      · -- The first error is the result, but the others are closed all the same.
        rw [List.all_append, ← hok, ← hok']
        dsimp only
        cases (closeEntry e (r.markClosed name e)).1 with
        | ok u => exact (Bool.and_true _).symm
        | error err => exact (Bool.and_false _).symm

/-- To close names keeps all functions held that stay open. -/
lemma holds_closeNames (h : Holds r) (names : List String) : Holds (closeNames names r).2 := by
  induction names generalizing r with
  | nil => exact h
  | cons name names ih =>
    cases he : Keyed.get? r.table name with
    | none =>
      rw [closeNames_none he]
      exact ih h
    | some e =>
      rw [closeNames_some he]
      exact ih (holds_closeEntry h he rfl rfl)

/-- After all functions were closed none is open. -/
lemma not_open_closeAll (h : Holds r) (hcons : Consistent fs r) (id : Nat) : ¬ (closeAll r).2.past.Open id := by
  intro hopen
  obtain ⟨name, e, he, -, hc, -⟩ := holds_closeNames h _ id hopen
  -- The entry that holds the function is marked as closed, as all are.
  obtain ⟨-, -, htable⟩ := closeAll_spec hcons
  have hmarked := (htable name).symm.trans he
  obtain ⟨e₀, -, rfl⟩ := Option.map_eq_some_iff.1 hmarked
  cases hc

/-- Where all entries are marked as closed, closing does nothing and succeeds. -/
lemma closeNames_closed (h : ∀ name e, Keyed.get? r.table name = some e → e.closed = true)
    (names : List String) : (closeNames names r).1 = .ok () ∧ (closeNames names r).2.past = r.past := by
  induction names generalizing r with
  | nil => exact ⟨rfl, rfl⟩
  | cons name names ih =>
    cases he : Keyed.get? r.table name with
    | none =>
      rw [closeNames_none he]
      exact ih h
    | some e =>
      have hidle : closeEntry e (r.markClosed name e) = (.ok (), r.markClosed name e) :=
        closeEntry_idle fun hc => by
          rw [h name e he] at hc
          cases hc
      have hmarked (other : String) (e' : Registration)
          (he' : Keyed.get? (r.markClosed name e).table other = some e') : e'.closed = true := by
        simp only [markClosed, Keyed.get?_insert] at he'
        split at he'
        case isTrue =>
          cases he'
          rfl
        case isFalse => exact h other e' he'
      rw [closeNames_some he, hidle]
      exact ih hmarked

/-- After everything was closed there is nothing left to be closed. -/
lemma closeAll_closeAll (hcons : Consistent fs r) :
    (closeAll (closeAll r).2).1 = .ok () ∧ (closeAll (closeAll r).2).2.past = (closeAll r).2.past := by
  obtain ⟨-, -, htable⟩ := closeAll_spec hcons
  refine closeNames_closed (fun name e he => ?_) _
  obtain ⟨e₀, -, rfl⟩ := Option.map_eq_some_iff.1 ((htable name).symm.trans he)
  rfl

end Registry

end EventRules
