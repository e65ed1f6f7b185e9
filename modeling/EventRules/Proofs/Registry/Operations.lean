import EventRules.Function.Catalog
import EventRules.Proofs.Evaluation.Calls
import EventRules.Proofs.Registry.Lifecycle

/-!
# Operations of a registry

Every operation of a registry leaves it consistent. While functions are only resolved and applied,
nothing is closed, no entry comes or goes, and only functions whose names are resolved are set up:
`Registry.Grows` says so of two states. `Registry.Progress` is what remains true when functions are
registered, replaced and closed as well.
-/

namespace EventRules.Registry

variable {fs : List Function} {names names' : String → Prop} {r r' r'' : Registry} {name : String}
  {e : Registration}

/-- The later registry came from the earlier one by resolving functions with certain names and
applying functions. -/
structure Grows (names : String → Prop) (r r' : Registry) : Prop where
  context_eq : r'.context = r.context
  past : ∃ new, r'.past = new ++ r.past ∧ ∀ o ∈ new, o.action ≠ .close ∧
    (o.action = .setUp → ∃ name e, names name ∧ Keyed.get? r.table name = some e ∧ e.id = o.owner)
  table : ∀ name, (Keyed.get? r'.table name).map (fun e => (e.id, e.closed)) =
    (Keyed.get? r.table name).map fun e => (e.id, e.closed)

namespace Grows

/-- A registry has grown from itself. -/
lemma refl (r : Registry) : Grows names r r :=
  ⟨rfl, ⟨[], rfl, nofun⟩, fun _ => rfl⟩

/-- An entry of the later registry was there before, perhaps with another outcome. -/
lemma entry (h : Grows names r r') (he : Keyed.get? r'.table name = some e) :
    ∃ e₀, Keyed.get? r.table name = some e₀ ∧ e₀.id = e.id ∧ e₀.closed = e.closed := by
  have ht := h.table name
  rw [he, Option.map_some] at ht
  obtain ⟨e₀, he₀, heq⟩ := Option.map_eq_some_iff.1 ht.symm
  obtain ⟨hid, hclosed⟩ := Prod.mk.inj heq
  exact ⟨e₀, he₀, hid, hclosed⟩

/-- An entry of the earlier registry is still there, perhaps with another outcome. -/
lemma kept (h : Grows names r r') (he : Keyed.get? r.table name = some e) :
    ∃ e', Keyed.get? r'.table name = some e' ∧ e'.id = e.id ∧ e'.closed = e.closed := by
  have ht := h.table name
  rw [he, Option.map_some] at ht
  obtain ⟨e', he', heq⟩ := Option.map_eq_some_iff.1 ht
  obtain ⟨hid, hclosed⟩ := Prod.mk.inj heq
  exact ⟨e', he', hid, hclosed⟩

/-- Growth goes on from where it came. -/
lemma trans (h : Grows names r r') (h' : Grows names r' r'') : Grows names r r'' := by
  obtain ⟨new, hpast, hnew⟩ := h.past
  obtain ⟨new', hpast', hnew'⟩ := h'.past
  refine ⟨h'.context_eq.trans h.context_eq, ⟨new' ++ new, ?_, fun o ho => ?_⟩, fun name => ?_⟩
  · rw [hpast', hpast, List.append_assoc]
  · rcases List.mem_append.1 ho with ho | ho
    · obtain ⟨hclose, hset⟩ := hnew' o ho
      refine ⟨hclose, fun hact => ?_⟩
      obtain ⟨name, e, hname, he, hid⟩ := hset hact
      obtain ⟨e₀, he₀, hid₀, -⟩ := h.entry he
      exact ⟨name, e₀, hname, he₀, hid₀.trans hid⟩
    · exact hnew o ho
  · exact (h'.table name).trans (h.table name)

/-- More names leave more that may have grown. -/
lemma mono (h : Grows names r r') (hnames : ∀ name, names name → names' name) : Grows names' r r' := by
  obtain ⟨new, hpast, hnew⟩ := h.past
  refine ⟨h.context_eq, ⟨new, hpast, fun o ho => ⟨(hnew o ho).1, fun hact => ?_⟩⟩, h.table⟩
  obtain ⟨name, e, hname, he, hid⟩ := (hnew o ho).2 hact
  exact ⟨name, e, hnames name hname, he, hid⟩

end Grows

/-- Consistency, and what resolving and applying functions does. -/
def guard (fs : List Function) (names : String → Prop) : Run.Guard Registry where
  inv := Consistent fs
  rel := Grows names
  refl := Grows.refl
  trans := Grows.trans

/-- The function of an entry may be applied. -/
structure Ready (fs : List Function) (r : Registry) (e : Registration) : Prop where
  function_eq : fs[e.id]? = some e.function
  isOpen : e.function.stateful = true → r.past.Open e.id

/-- A function that may be applied may be applied after others have been resolved and applied. -/
lemma Ready.grows (h : Ready fs r e) (hg : Grows names r r') : Ready fs r' e := by
  obtain ⟨new, hpast, hnew⟩ := hg.past
  refine ⟨h.function_eq, fun hs => ?_⟩
  rw [hpast]
  exact (h.isOpen hs).append fun o ho => (hnew o ho).1

/-! ## Resolving -/

/-- A function without a state is ready at once. -/
lemma ensureReady_stateless (hs : e.function.stateful = false) : ensureReady e r = (.ok (), r) := by
  simp [ensureReady, hs]

/-- A function that was closed does not get ready again. -/
lemma ensureReady_closed (hs : e.function.stateful = true) (hc : e.closed = true) :
    ensureReady e r = (.error (.initialization e.info.name .closed), r) := by
  simp [ensureReady, hs, hc]

/-- A function that was set up has the outcome of that. -/
lemma ensureReady_again {outcome : Except Error Unit} (hs : e.function.stateful = true)
    (hc : e.closed = false) (ho : e.outcome = some outcome) : ensureReady e r = (outcome, r) := by
  simp [ensureReady, hs, hc, ho]

/-- The registry after the function of an entry was set up. -/
def setUp (e : Registration) (r : Registry) : Registry :=
  let outcome := e.function.setUp (r.situation e.id)
  note { r with table := Keyed.insert r.table e.info.name { e with outcome := some outcome } } e.id .setUp
    outcome.isOk

/-- A function that was not set up before is set up now. -/
lemma ensureReady_first (hs : e.function.stateful = true) (hc : e.closed = false) (ho : e.outcome = none) :
    ensureReady e r = (e.function.setUp (r.situation e.id), setUp e r) := by
  simp [ensureReady, hs, hc, ho, setUp]

/-- To set a function up leaves the registry consistent, since it was not set up before. -/
lemma Consistent.setUp (h : Consistent fs r) (he : Keyed.get? r.table name = some e)
    (hs : e.function.stateful = true) (ho : e.outcome = none) : Consistent fs (setUp e r) := by
  have ht := h.tracks name e he
  have huntouched := ht.untouched hs ho
  obtain rfl := ht.name_eq
  refine ⟨h.handed, ⟨⟨e.function, ht.function_eq, hs, huntouched, rfl⟩, h.lawful⟩, ?_, ?_⟩
  · -- The entry itself gets its outcome; any other has another function, with which nothing was done.
    intro other e' he'
    simp only [Registry.setUp, Registry.note, Keyed.get?_insert] at he'
    split at he'
    case isTrue hother =>
      cases he'
      subst hother
      refine ⟨rfl, ht.function_eq, nofun, fun outcome hout => ?_, fun _ o ho howner => ?_⟩
      · cases hout
        exact ⟨hs, [], r.past, rfl, rfl⟩
      · rcases List.mem_cons.1 ho with rfl | ho
        · nofun
        · exact absurd howner (huntouched o ho)
    case isFalse hother =>
      have hne : e.id ≠ e'.id := fun hid => hother (h.distinct _ _ _ _ he he' hid).symm
      exact ((h.tracks other e' he').table _).note .setUp _ e.id (fun hid => absurd hid hne)
        fun hid => absurd hid hne
  · exact h.distinct.insert fun other e' he' hid => h.distinct other e' _ e he' he hid

/-- Setting up a function is part of resolving its name. -/
lemma grows_setUp (h : Consistent fs r) (he : Keyed.get? r.table name = some e) :
    Grows (· = name) r (setUp e r) := by
  obtain rfl := (h.tracks name e he).name_eq
  refine ⟨rfl, ⟨[_], rfl, fun o ho => ?_⟩, fun other => ?_⟩
  · obtain rfl := List.mem_singleton.1 ho
    exact ⟨nofun, fun _ => ⟨_, e, rfl, he, rfl⟩⟩
  · simp only [setUp, note, Keyed.get?_insert]
    split
    case isTrue hother => rw [hother, he]; rfl
    case isFalse => rfl

/-- Making the function of an entry ready is part of resolving its name, and makes it ready if it
succeeds. -/
lemma ensureReady_spec (h : Consistent fs r) (he : Keyed.get? r.table name = some e) :
    Consistent fs (ensureReady e r).2 ∧ Grows (· = name) r (ensureReady e r).2 ∧
      ((ensureReady e r).1 = .ok () → Ready fs (ensureReady e r).2 e) := by
  -- The cases are those of the readiness: without a state, closed, set up before, or set up now.
  have ht := h.tracks name e he
  by_cases hs : e.function.stateful = true
  · cases hc : e.closed with
    | true =>
      rw [ensureReady_closed hs hc]
      exact ⟨h, .refl r, nofun⟩
    | false =>
      cases ho : e.outcome with
      | some outcome =>
        rw [ensureReady_again hs hc ho]
        refine ⟨h, .refl r, fun hok => ⟨ht.function_eq, fun _ => ht.isOpen hc ?_⟩⟩
        rw [ho]
        exact congrArg some hok
      | none =>
        rw [ensureReady_first hs hc ho]
        refine ⟨h.setUp he hs ho, grows_setUp h he, fun hok => ⟨ht.function_eq, fun _ => ⟨?_, ?_⟩⟩⟩
        · refine ⟨_, List.mem_cons_self, rfl, rfl, ?_⟩
          show (e.function.setUp (r.situation e.id)).isOk = true
          rw [show e.function.setUp (r.situation e.id) = .ok () from hok]
          rfl
        · intro o hmem howner
          rcases List.mem_cons.1 hmem with rfl | hmem
          · nofun
          · exact absurd howner (ht.untouched hs ho o hmem)
  · rw [Bool.not_eq_true] at hs
    rw [ensureReady_stateless hs]
    refine ⟨h, .refl r, fun _ => ⟨ht.function_eq, fun hs' => ?_⟩⟩
    rw [hs] at hs'
    cases hs'

/-- A name that is not in the table has no function. -/
lemma resolve_none (he : Keyed.get? r.table name = none) :
    resolve name r = (.error (.unknownFunction name), r) := by
  simp only [resolve, he]

/-- A name in the table has the function of its entry, if that gets ready. -/
lemma resolve_some (he : Keyed.get? r.table name = some e) :
    resolve name r = ((ensureReady e r).1.map fun _ => e, (ensureReady e r).2) := by
  simp only [resolve, he]
  rcases ensureReady e r with ⟨_ | _, _⟩ <;> rfl

/-- A call applies the function of the entry that was resolved. -/
lemma call_ok (h : resolve name r = (.ok e, r')) (args : List Value) : call name args r = applyEntry e args r' :=
  Run.bind_ok (Run.lift_ok h)

/-- A call fails as the resolving did. -/
lemma call_error {err : Error} (h : resolve name r = (.error err, r')) (args : List Value) :
    call name args r = (.error (.failure err), r') :=
  Run.bind_error (Run.lift_error h)

/-- What may come of resolving a name: the result and the registry afterwards. -/
inductive Resolution (name : String) (r : Registry) : Except Error Registration → Registry → Prop
  | unknown : Keyed.get? r.table name = none → Resolution name r (.error (.unknownFunction name)) r
  | stateless {e : Registration} :
    Keyed.get? r.table name = some e →
    e.function.stateful = false →
    Resolution name r (.ok e) r
  | closed {e : Registration} :
    Keyed.get? r.table name = some e →
    e.function.stateful = true →
    e.closed = true →
    Resolution name r (.error (.initialization e.info.name .closed)) r
  | again {e : Registration} {outcome : Except Error Unit} :
    Keyed.get? r.table name = some e →
    e.function.stateful = true →
    e.closed = false →
    e.outcome = some outcome →
    Resolution name r (outcome.map fun _ => e) r
  | first {e : Registration} :
    Keyed.get? r.table name = some e →
    e.function.stateful = true →
    e.closed = false →
    e.outcome = none →
    Resolution name r ((e.function.setUp (r.situation e.id)).map fun _ => e) (setUp e r)

/-- Every resolution is one of the four kinds. -/
lemma resolution (name : String) (r : Registry) : Resolution name r (resolve name r).1 (resolve name r).2 := by
  cases he : Keyed.get? r.table name with
  | none =>
    rw [resolve_none he]
    exact .unknown he
  | some e =>
    rw [resolve_some he]
    by_cases hs : e.function.stateful = true
    · cases hc : e.closed with
      | true =>
        rw [ensureReady_closed hs hc]
        exact .closed he hs hc
      | false =>
        cases ho : e.outcome with
        | some outcome =>
          rw [ensureReady_again hs hc ho]
          exact .again he hs hc ho
        | none =>
          rw [ensureReady_first hs hc ho]
          exact .first he hs hc ho
    · rw [Bool.not_eq_true] at hs
      rw [ensureReady_stateless hs]
      exact .stateless he hs

/-- A resolution keeps the registry, and lets nothing grow but under its own name. -/
lemma resolve_keeps (name : String) : Run.Keeps (guard fs (· = name)) (resolve name) := by
  intro r h
  cases he : Keyed.get? r.table name with
  | none =>
    rw [resolve_none he]
    exact ⟨h, .refl r⟩
  | some e =>
    rw [resolve_some he]
    obtain ⟨hinv, hgrows, -⟩ := ensureReady_spec h he
    exact ⟨hinv, hgrows⟩

/-- A function that was resolved may be applied. -/
lemma ready_of_resolve (h : Consistent fs r) (hres : resolve name r = (.ok e, r')) : Ready fs r' e := by
  cases he : Keyed.get? r.table name with
  | none =>
    rw [resolve_none he] at hres
    cases hres
  | some e₀ =>
    rw [resolve_some he] at hres
    obtain ⟨hresult, rfl⟩ := Prod.mk.inj hres
    cases hready : (ensureReady e₀ r).1 with
    | ok u =>
      rw [hready] at hresult
      cases hresult
      exact (ensureReady_spec h he).2.2 hready
    | error err =>
      rw [hready] at hresult
      cases hresult

/-- Applying a function that is ready leaves a registry consistent. -/
lemma applyEntry_spec (h : Consistent fs r) (hr : Ready fs r e) (args : List Value) :
    Consistent fs (applyEntry e args r).2 ∧ Grows names r (applyEntry e args r).2 := by
  constructor
  · refine h.note hr.function_eq ⟨hr.isOpen, rfl⟩ (fun name e' he' hid hs ho => ?_) fun _ _ _ _ => nofun
    have ht := h.tracks name e' he'
    have hfun : e.function = e'.function := by
      have hf := ht.function_eq
      rw [← hid, hr.function_eq] at hf
      exact Option.some.inj hf
    obtain ⟨⟨o, hmem, howner, -⟩, -⟩ := hr.isOpen (hfun ▸ hs)
    exact ht.untouched hs ho o hmem (howner.trans hid)
  · refine ⟨rfl, ⟨[_], rfl, fun o ho => ?_⟩, fun _ => rfl⟩
    obtain rfl := List.mem_singleton.1 ho
    exact ⟨nofun, nofun⟩

/-- The calls of a registry leave it consistent. -/
lemma calls_respects (fs : List Function) (names : String → Prop) :
    calls.Respects (guard fs names) names (Ready fs) where
  resolve name hname := by
    intro r h
    obtain ⟨hinv, hgrows⟩ := resolve_keeps name r h
    exact ⟨hinv, hgrows.mono fun other hother => hother ▸ hname⟩
  ready name _ r e r' h hres := ready_of_resolve h (Run.of_lift_ok hres)
  apply r e args h hr := applyEntry_spec h hr args
  stable r r' e hg hr := hr.grows hg

/-- A call keeps the registry, and lets nothing grow but under its own name. -/
lemma call_keeps (name : String) (args : List Value) : Run.Keeps (guard fs (· = name)) (call name args) := by
  intro r h
  obtain ⟨hinv, hgrows⟩ := resolve_keeps name r h
  cases hres : resolve name r with
  | mk result r' =>
    rw [hres] at hinv hgrows
    cases result with
    | error err =>
      rw [call_error hres]
      exact ⟨hinv, hgrows⟩
    | ok e =>
      rw [call_ok hres]
      obtain ⟨hinv', hgrows'⟩ := applyEntry_spec hinv (ready_of_resolve h hres) args
      exact ⟨hinv', hgrows.trans hgrows'⟩

/-- A function that was closed is refused, and the registry stays as it is. -/
lemma resolve_closed (h : Consistent fs r) (he : Keyed.get? r.table name = some e)
    (hs : e.function.stateful = true) (hc : e.closed = true) :
    resolve name r = (.error (.initialization name .closed), r) := by
  rw [resolve_some he, ensureReady_closed hs hc, (h.tracks name e he).name_eq]
  rfl

/-- A function that could not be set up is refused with the same error. -/
lemma resolve_failed {newer older : History} {succeeded : Bool} {err : Error} (h : Consistent fs r)
    (he : Keyed.get? r.table name = some e) (hc : e.closed = false)
    (hpast : r.past = newer ++ ⟨e.id, .setUp, succeeded⟩ :: older)
    (herr : e.function.setUp ⟨r.context, e.id, older⟩ = .error err) : resolve name r = (.error err, r) := by
  have ht := h.tracks name e he
  have hmem : (⟨e.id, .setUp, succeeded⟩ : Occurrence) ∈ r.past := by
    rw [hpast]
    exact List.mem_append_right _ List.mem_cons_self
  have hlawful := h.lawful
  rw [hpast] at hlawful
  obtain ⟨f, hf, hs, -⟩ := hlawful.occurrence
  rw [ht.function_eq] at hf
  cases hf
  cases ho : e.outcome with
  | none => exact absurd rfl (ht.untouched hs ho _ hmem)
  | some outcome =>
    obtain ⟨-, newer', older', hpast', hset⟩ := ht.set_up outcome ho
    obtain rfl := h.lawful.setUp_unique hpast hpast'
    rw [resolve_some he, ensureReady_again hs hc ho, hset, herr]
    rfl

/-- The calls of a registry that refuses a name with an error. -/
def refusing (name : String) (err : Error) : Calls Registry Registration where
  resolve other := liftM (if other = name then fun r => (.error err, r) else resolve other)
  apply := applyEntry

/-- The registry refuses a name with an error, and nothing is done with the function under it: by
itself, in a call, and wherever the name is resolved while an expression is evaluated. -/
structure Refuses (name : String) (err : Error) (r : Registry) : Prop where
  resolve : resolve name r = (.error err, r)
  call : ∀ args, call name args r = (.error (.failure err), r)
  evaluate : ∀ (x : Expr) (vars : Resolver), x.evaluate calls vars r = x.evaluate (refusing name err) vars r

/-- A name is refused if it is not resolved now, nor after names were resolved and functions
applied. -/
lemma refuses_of_resolve {err : Error} (h : Consistent fs r)
    (hres : ∀ r', Consistent fs r' → Grows (fun _ => True) r r' → resolve name r' = (.error err, r')) :
    Refuses name err r := by
  have hnow := hres r h (.refl r)
  refine ⟨hnow, call_error hnow, fun x vars => ?_⟩
  -- While the expression is evaluated the registry only grows from `r`, so the name stays refused.
  let g : Run.Guard Registry :=
    { inv := fun r' => Consistent fs r' ∧ Grows (fun _ => True) r r', rel := Grows fun _ => True,
      refl := Grows.refl, trans := Grows.trans }
  have hcalls := calls_respects fs fun _ => True
  have hrespects : calls.Respects g (fun _ => True) (Ready fs) := by
    refine ⟨fun other _ r' hr' => ?_, fun other _ r' e next hr' => ?_, fun r' e args hr' hready => ?_,
      hcalls.stable⟩
    · obtain ⟨hinv, hgrows⟩ := hcalls.resolve other trivial r' hr'.1
      exact ⟨⟨hinv, hr'.2.trans hgrows⟩, hgrows⟩
    · exact hcalls.ready other trivial r' e next hr'.1
    · obtain ⟨hinv, hgrows⟩ := hcalls.apply r' e args hr'.1 hready
      exact ⟨⟨hinv, hr'.2.trans hgrows⟩, hgrows⟩
  have hsame : calls.SameWhere g (refusing name err) fun _ => True := by
    refine ⟨fun other _ r' hr' => ?_, rfl⟩
    have heq : Registry.resolve other r' =
        (if other = name then fun r => (.error err, r) else Registry.resolve other : Run Registry Registration) r' := by
      split
      case isTrue hother => exact hother ▸ hres r' hr'.1 hr'.2
      case isFalse => rfl
    exact congrArg (fun p : Except Error Registration × Registry => (p.1.mapError Halt.failure, p.2)) heq
  exact (Expr.evaluate_agrees hrespects hsame (fun _ _ _ => trivial) r ⟨h, .refl r⟩).1

/-- Two entries with one number have one function. -/
lemma function_kept {e' : Registration} {other : String} (h : Consistent fs r) (h' : Consistent fs r')
    (he : Keyed.get? r.table name = some e) (he' : Keyed.get? r'.table other = some e') (hid : e'.id = e.id) :
    e'.function = e.function := by
  have hf := (h.tracks name e he).function_eq
  have hf' := (h'.tracks other e' he').function_eq
  rw [hid, hf] at hf'
  exact (Option.some.inj hf').symm

/-- A name whose function was closed is refused. -/
lemma Consistent.refuses_closed (h : Consistent fs r) (he : Keyed.get? r.table name = some e)
    (hs : e.function.stateful = true) (hc : e.closed = true) :
    Refuses name (.initialization name .closed) r := by
  refine refuses_of_resolve h fun r' h' hgrows => ?_
  obtain ⟨e', he', hid, hclosed⟩ := hgrows.kept he
  rw [← function_kept h h' he he' hid] at hs
  exact resolve_closed h' he' hs (hclosed.trans hc)

/-- A name whose function could not be set up is refused with the same error, as long as it is not
closed. -/
lemma Consistent.refuses_failed {newer older : History} {succeeded : Bool} {err : Error} (h : Consistent fs r)
    (he : Keyed.get? r.table name = some e) (hc : e.closed = false)
    (hpast : r.past = newer ++ ⟨e.id, .setUp, succeeded⟩ :: older)
    (herr : e.function.setUp ⟨r.context, e.id, older⟩ = .error err) : Refuses name err r := by
  refine refuses_of_resolve h fun r' h' hgrows => ?_
  obtain ⟨e', he', hid, hclosed⟩ := hgrows.kept he
  obtain ⟨new, hpast', -⟩ := hgrows.past
  rw [← function_kept h h' he he' hid, ← hid, ← hgrows.context_eq] at herr
  have hlonger : r'.past = (new ++ newer) ++ ⟨e'.id, .setUp, succeeded⟩ :: older := by
    rw [hpast', hpast, hid, List.append_assoc]
  exact resolve_failed h' he' (hclosed.trans hc) hlonger herr

/-! ## Closing -/

/-- The function of an entry is closed if it was set up well. -/
lemma closeEntry_open (hc : e.closed = false) (ho : e.outcome = some (.ok ())) :
    closeEntry e r = (e.function.close (r.situation e.id),
      r.note e.id .close (e.function.close (r.situation e.id)).isOk) := by
  simp only [closeEntry, hc, ho]

/-- Any other function is left alone. -/
lemma closeEntry_idle (h : e.closed = false → e.outcome ≠ some (.ok ())) : closeEntry e r = (.ok (), r) := by
  unfold closeEntry
  split
  case h_1 hc ho => exact absurd ho (h hc)
  case h_2 => rfl

/-- Closing the function of an entry leaves a registry consistent that has the entry no more, or has
it as closed. -/
lemma Consistent.closeEntry (h : Consistent fs r) (hfun : fs[e.id]? = some e.function)
    (hopen : e.closed = false → e.outcome = some (.ok ()) → e.function.stateful = true ∧ r.past.Open e.id)
    (hgone : ∀ name e', Keyed.get? r.table name = some e' → e.id = e'.id → e'.closed = true) :
    Consistent fs (closeEntry e r).2 := by
  by_cases hboth : e.closed = false ∧ e.outcome = some (.ok ())
  · obtain ⟨hc, ho⟩ := hboth
    obtain ⟨hs, hisOpen⟩ := hopen hc ho
    rw [closeEntry_open hc ho]
    refine h.note hfun ⟨hs, hisOpen, rfl⟩ (fun name e' he' hid hs' hn => ?_) fun name e' he' hid _ =>
      hgone name e' he' hid
    obtain ⟨⟨o, hmem, howner, -⟩, -⟩ := hisOpen
    exact (h.tracks name e' he').untouched hs' hn o hmem (howner.trans hid)
  · rw [closeEntry_idle fun hc ho => hboth ⟨hc, ho⟩]
    exact h

/-- The later registry came from the earlier one by closing functions. -/
structure Closes (r r' : Registry) : Prop where
  context_eq : r'.context = r.context
  past : ∃ new, r'.past = new ++ r.past ∧ ∀ o ∈ new, o.action = .close

/-- A registry is closed no further by doing nothing. -/
lemma Closes.refl (r : Registry) : Closes r r :=
  ⟨rfl, [], rfl, nofun⟩

/-- To close more is to close. -/
lemma Closes.trans (h : Closes r r') (h' : Closes r' r'') : Closes r r'' := by
  obtain ⟨new, hpast, hnew⟩ := h.past
  obtain ⟨new', hpast', hnew'⟩ := h'.past
  refine ⟨h'.context_eq.trans h.context_eq, new' ++ new, ?_, fun o ho => ?_⟩
  · rw [hpast', hpast, List.append_assoc]
  · rcases List.mem_append.1 ho with ho | ho
    · exact hnew' o ho
    · exact hnew o ho

/-- Closing the function of an entry does no more than that. -/
lemma closes_closeEntry (e : Registration) (r : Registry) :
    Closes r (closeEntry e r).2 ∧ (closeEntry e r).2.table = r.table := by
  by_cases hboth : e.closed = false ∧ e.outcome = some (.ok ())
  · rw [closeEntry_open hboth.1 hboth.2]
    exact ⟨⟨rfl, [_], rfl, fun o ho => by rw [List.mem_singleton.1 ho]⟩, rfl⟩
  · rw [closeEntry_idle fun hc ho => hboth ⟨hc, ho⟩]
    exact ⟨.refl r, rfl⟩

/-- The registry with the entry under a name marked as closed. -/
def markClosed (r : Registry) (name : String) (e : Registration) : Registry :=
  { r with table := Keyed.insert r.table name { e with closed := true } }

/-- An entry may be marked as closed. -/
lemma Consistent.markClosed (h : Consistent fs r) (he : Keyed.get? r.table name = some e) :
    Consistent fs (r.markClosed name e) := by
  have ht := h.tracks name e he
  have hclosed : Tracks fs r name { e with closed := true } :=
    ⟨ht.name_eq, ht.function_eq, ht.untouched, ht.set_up, nofun⟩
  exact h.insert hclosed fun other e' he' hid => h.distinct other e' name e he' he hid

/-- Closing the function under a name leaves a registry consistent. -/
lemma Consistent.closeMarked (h : Consistent fs r) (he : Keyed.get? r.table name = some e) :
    Consistent fs (Registry.closeEntry e (r.markClosed name e)).2 := by
  have ht := h.tracks name e he
  refine (h.markClosed he).closeEntry ht.function_eq (fun hc ho => ⟨(ht.set_up _ ho).1, ht.isOpen hc ho⟩) ?_
  intro other e' he' hid
  simp only [Registry.markClosed, Keyed.get?_insert] at he'
  split at he'
  case isTrue =>
    cases he'
    rfl
  case isFalse hother => exact absurd (h.distinct other e' name e he' he hid.symm) hother

/-- Closing the functions under some names leaves a registry consistent, and their entries are
marked as closed. -/
lemma closeNames_spec (h : Consistent fs r) (closing : List String) :
    Consistent fs (closeNames closing r).2 ∧ Closes r (closeNames closing r).2 ∧
      ∀ name, Keyed.get? (closeNames closing r).2.table name =
        (Keyed.get? r.table name).map fun e => if name ∈ closing then { e with closed := true } else e := by
  induction closing generalizing r with
  | nil => exact ⟨h, .refl r, fun name => by simp [closeNames]⟩
  | cons first closing ih =>
    cases he : Keyed.get? r.table first with
    | none =>
      -- A name that is not in the table, perhaps because it came before, changes nothing.
      have hrun : closeNames (first :: closing) r = closeNames closing r := by simp only [closeNames, he]
      rw [hrun]
      obtain ⟨hinv, hcloses, htable⟩ := ih h
      refine ⟨hinv, hcloses, fun name => ?_⟩
      rw [htable name]
      by_cases hname : name = first
      · rw [hname, he]
        rfl
      · simp [hname]
    | some e =>
      have hrun : (closeNames (first :: closing) r).2 =
          (closeNames closing (closeEntry e (r.markClosed first e)).2).2 := by
        simp only [closeNames, he, markClosed]
        rfl
      rw [hrun]
      obtain ⟨hinv, hcloses, htable⟩ := ih (h.closeMarked he)
      obtain ⟨hfirst, hsame⟩ := closes_closeEntry e (r.markClosed first e)
      have hmark : Closes r (r.markClosed first e) := ⟨rfl, [], rfl, nofun⟩
      refine ⟨hinv, (hmark.trans hfirst).trans hcloses, fun name => ?_⟩
      rw [htable name, hsame]
      simp only [markClosed, Keyed.get?_insert]
      by_cases hname : name = first
      · rw [hname, he]
        simp
      · simp [hname]

/-- Closing all functions leaves a registry consistent, and all entries are marked as closed. -/
lemma closeAll_spec (h : Consistent fs r) :
    Consistent fs (closeAll r).2 ∧ Closes r (closeAll r).2 ∧
      ∀ name, Keyed.get? (closeAll r).2.table name =
        (Keyed.get? r.table name).map fun e => { e with closed := true } := by
  obtain ⟨hinv, hcloses, htable⟩ := closeNames_spec h (Keyed.keys r.table)
  refine ⟨hinv, hcloses, fun name => (htable name).trans ?_⟩
  cases he : Keyed.get? r.table name with
  | none => rfl
  | some e => simp [Keyed.mem_keys he]

/-! ## Registering -/

/-- The registry after a number was given to a further function. -/
def hand (r : Registry) : Registry :=
  { r with nextId := r.nextId + 1 }

/-- Giving a number to a further function leaves a registry consistent. -/
lemma Consistent.hand (h : Consistent fs r) (f : Function) : Consistent (fs ++ [f]) r.hand where
  handed := by simp [Registry.hand, h.handed]
  lawful := h.lawful.append f
  tracks name e he := by
    have ht := h.tracks name e he
    have hlt := (List.getElem?_eq_some_iff.1 ht.function_eq).1
    exact ⟨ht.name_eq, (List.getElem?_append_left hlt).trans ht.function_eq, ht.untouched, ht.set_up,
      ht.unclosed⟩
  distinct := h.distinct

/-- A function that was just given its number may take a place in the table. -/
lemma Consistent.enter (h : Consistent fs r) (f : Function) (info : FunctionInfo) :
    Consistent (fs ++ [f])
      { r.hand with table := Keyed.insert r.table info.name { info, id := r.nextId, function := f } } := by
  have hunused : ∀ o ∈ r.past, o.owner ≠ r.nextId := fun o ho =>
    Nat.ne_of_lt (h.handed ▸ h.lawful.owner_lt o ho)
  have ht : Tracks (fs ++ [f]) r.hand info.name { info, id := r.nextId, function := f } := by
    refine ⟨rfl, ?_, fun _ _ => hunused, nofun, fun _ o ho howner => absurd howner (hunused o ho)⟩
    simp [← h.handed]
  refine (h.hand f).insert ht fun other e' he' hid => ?_
  have hlt := (List.getElem?_eq_some_iff.1 (h.tracks other e' he').function_eq).1
  rw [h.handed, show e'.id = r.nextId from hid] at hlt
  exact absurd hlt (Nat.lt_irrefl _)

/-- How registering a function ends: it is refused, or it takes its place and the one that was there
is closed. -/
lemma insert_cases (info : FunctionInfo) (f : Function) (replace : Bool) (r : Registry) :
    (insert info f replace r).2 = r.hand ∨
      ∃ named : FunctionInfo, let next : Registry :=
          { r.hand with
            table := Keyed.insert r.table named.name { info := named, id := r.nextId, function := f } }
        (Keyed.get? r.table named.name = none ∧ (insert info f replace r).2 = next) ∨
        ∃ old, Keyed.get? r.table named.name = some old ∧
          (insert info f replace r).2 = (closeEntry old next).2 := by
  by_cases hempty : (canonicalName info.name).isEmpty
  · left
    simp [insert, hempty, hand]
  · cases hold : Keyed.get? r.table (canonicalName info.name) with
    | none =>
      right
      refine ⟨{ info with name := canonicalName info.name }, .inl ⟨hold, ?_⟩⟩
      simp [insert, hempty, hold, hand]
    | some old =>
      cases replace with
      | false =>
        left
        simp [insert, hempty, hold, hand]
      | true =>
        right
        refine ⟨{ info with name := canonicalName info.name }, .inr ⟨old, hold, ?_⟩⟩
        simp [insert, hempty, hold, hand]

/-- Registering a function, as a new one or in place of another, leaves a registry consistent. The
table has the new function or what it had before. -/
lemma insert_spec (h : Consistent fs r) (info : FunctionInfo) (f : Function) (replace : Bool) :
    Consistent (fs ++ [f]) (insert info f replace r).2 ∧ Closes r (insert info f replace r).2 ∧
      ∀ name e, Keyed.get? (insert info f replace r).2.table name = some e →
        Keyed.get? r.table name = some e ∨ r.nextId ≤ e.id ∧ e.closed = false := by
  -- Whatever is in the table afterwards was there before, or is the new entry.
  have htable (named : FunctionInfo) (name : String) (e : Registration)
      (he : Keyed.get? (Keyed.insert r.table named.name { info := named, id := r.nextId, function := f })
        name = some e) : Keyed.get? r.table name = some e ∨ r.nextId ≤ e.id ∧ e.closed = false := by
    rw [Keyed.get?_insert] at he
    split at he
    case isTrue =>
      cases he
      exact .inr ⟨Nat.le_refl _, rfl⟩
    case isFalse => exact .inl he
  rcases insert_cases info f replace r with hrun | ⟨named, ⟨hnone, hrun⟩ | ⟨old, hold, hrun⟩⟩
  · rw [hrun]
    exact ⟨h.hand f, ⟨rfl, [], rfl, nofun⟩, fun name e he => .inl he⟩
  · rw [hrun]
    exact ⟨h.enter f named, ⟨rfl, [], rfl, nofun⟩, htable named⟩
  · rw [hrun]
    have ht := h.tracks named.name old hold
    have hlt := (List.getElem?_eq_some_iff.1 ht.function_eq).1
    obtain ⟨hcloses, hsame⟩ := closes_closeEntry old
      { r.hand with
        table := Keyed.insert r.table named.name { info := named, id := r.nextId, function := f } }
    refine ⟨?_, ⟨hcloses.context_eq, hcloses.past⟩, fun name e he =>
      htable named name e ((congrArg (Keyed.get? · name) hsame).symm.trans he)⟩
    -- The entry that was closed is out of the table, and its function is not the new one.
    refine (h.enter f named).closeEntry ((List.getElem?_append_left hlt).trans ht.function_eq)
      (fun hc ho => ⟨(ht.set_up _ ho).1, ht.isOpen hc ho⟩) fun name e' he' hid => ?_
    simp only [Keyed.get?_insert] at he'
    split at he'
    case isTrue =>
      cases he'
      rw [h.handed, show old.id = r.nextId from hid] at hlt
      exact absurd hlt (Nat.lt_irrefl _)
    case isFalse hname => exact absurd (h.distinct name e' named.name old he' hold hid.symm) hname

/-- A registry without entries is consistent. -/
lemma consistent_empty (context : Context) : Consistent [] { context } where
  handed := rfl
  lawful := trivial
  tracks name e he := by cases he
  distinct name e other e' he := by cases he

/-- Functions of a catalog are registered as they are. -/
lemma Consistent.addBuiltins (h : Consistent fs r)
    (hopen : ∀ name e, Keyed.get? r.table name = some e → e.closed = false) (builtins : List Builtin) :
    Consistent (fs ++ builtins.map (·.function)) (builtins.foldl addBuiltin r) ∧
      (builtins.foldl addBuiltin r).context = r.context ∧ (builtins.foldl addBuiltin r).past = r.past ∧
      ∀ name e, Keyed.get? (builtins.foldl addBuiltin r).table name = some e → e.closed = false := by
  induction builtins generalizing fs r with
  | nil =>
    rw [List.map_nil, List.append_nil]
    exact ⟨h, rfl, rfl, hopen⟩
  | cons b builtins ih =>
    have hopen' (name : String) (e : Registration)
        (he : Keyed.get? (addBuiltin r b).table name = some e) : e.closed = false := by
      simp only [addBuiltin, Keyed.get?_insert] at he
      split at he
      case isTrue =>
        cases he
        rfl
      case isFalse => exact hopen name e he
    have hadd : Consistent (fs ++ [b.function]) (addBuiltin r b) := h.enter b.function b.info
    rw [List.map_cons, List.append_cons]
    exact ih hadd hopen'

end EventRules.Registry
