import EventRules.Proofs.Function.Catalog
import EventRules.Proofs.Registry.Entries
import EventRules.Proofs.Value.RoundTrip

/-!
# Registries of pure functions

Where functions depend on nothing but their arguments and the surroundings, a registry answers a name
with the same function at all times, until functions are registered or closed: `Registry.answer` says
which. The value of an expression is then one that needs no registry, `Expr.meaning`, and evaluating it
leaves all answers as they were.
-/

namespace EventRules

/-- In certain surroundings the function depends on its arguments alone, and keeps the maps in values in
order. -/
structure Function.Pure (context : Context) (f : Function) : Prop where
  setUp : ∀ s, s.context = context → f.setUp s = f.setUp ⟨context, 0, []⟩
  apply : ∀ s args, s.context = context → f.apply s args = f.apply ⟨context, 0, []⟩ args
  wellFormed : ∀ args, (∀ v ∈ args, v.WellFormed) →
    Yields Value.WellFormed (fun _ => True) (f.apply ⟨context, 0, []⟩ args)

/-- The function that gives its first argument back. -/
lemma Function.pure_head (context : Context) : Pure context (.ofArgs fun args => .ok (args.headD .null)) := by
  refine ⟨fun _ _ => rfl, fun _ _ _ => rfl, fun args hargs => .ok ?_⟩
  cases args with
  | nil => exact .scalar rfl
  | cons v args => exact hargs v List.mem_cons_self

/-- Functions of the catalog reach nothing beside their arguments and the enrichment store. -/
theorem catalog_pure {context : Context} (hcontext : context.Holds Value.WellFormed) :
    ∀ b ∈ catalog, b.function.Pure context := by
  have hset (s : Situation) (hs : s.context = context) :
      ∀ b ∈ catalog, b.function.setUp s = b.function.setUp ⟨context, 0, []⟩ := by
    subst hs
    exact List.map_inj_left.1 rfl
  have happly (s : Situation) (hs : s.context = context) :
      ∀ b ∈ catalog, b.function.apply s = b.function.apply ⟨context, 0, []⟩ := by
    subst hs
    exact List.map_inj_left.1 rfl
  intro b hb
  refine ⟨fun s hs => hset s hs b hb, fun s args hs => congrFun (happly s hs b hb) args, fun args hargs => ?_⟩
  have hregular := catalog_regular Value.closed_wellFormed (s := ⟨context, 0, []⟩) hcontext b hb
  exact (hregular.apply args hargs).mono (fun _ hv => hv) fun _ _ => trivial

/-- A property of values that survives evaluation with functions that are pure in certain surroundings. -/
structure Value.PureClosed (context : Context) (V : Value → Prop) : Prop where
  closed : Closed V
  apply : ∀ f : Function, f.Pure context → ∀ args, (∀ v ∈ args, V v) →
    Yields V (fun _ => True) (f.apply ⟨context, 0, []⟩ args)

/-- Well-formed values are made of well-formed values by pure functions. -/
lemma Value.pureClosed_wellFormed (context : Context) : PureClosed context WellFormed :=
  ⟨closed_wellFormed, fun _ hf => hf.wellFormed⟩

/-- Any values are made of any values by pure functions. -/
lemma Value.pureClosed_true (context : Context) : PureClosed context fun _ => True :=
  ⟨closed_true, fun _ _ _ _ => .trivial _⟩

/-- What names stand for: a function of values, which may fail or break off, or an error. -/
abbrev Meanings := String → Except Error (List Value → Except Halt Value)

/-- The calls of functions without effects. -/
def Meanings.calls (A : Meanings) : Calls Unit (List Value → Except Halt Value) where
  resolve name := liftM (A name)
  apply f args := liftM (f args)

/-- The value of an expression over functions without effects. -/
def Expr.meaning (A : Meanings) (vars : Resolver) (e : Expr) : Except Halt Value :=
  (e.evaluate A.calls vars ()).1

namespace Registry

variable {context : Context} {A : Meanings} {r : Registry} {name : String} {e : Registration}

/-- The function of an entry as it answers in certain surroundings. -/
def meaningOf (context : Context) (e : Registration) : Except Error (List Value → Except Halt Value) :=
  let apply := e.function.apply ⟨context, 0, []⟩
  if !e.function.stateful then .ok apply
  else if e.closed then .error (.initialization e.info.name .closed)
  else (e.function.setUp ⟨context, 0, []⟩).map fun _ => apply

/-- What a registry answers to a name. -/
def answer (r : Registry) : Meanings := fun name =>
  match Keyed.get? r.table name with
  | none => .error (.unknownFunction name)
  | some e => meaningOf r.context e

/-- The entry under a name is one of a pure function, and remembers what it is set up to. -/
structure PureEntry (context : Context) (name : String) (e : Registration) : Prop where
  name_eq : e.info.name = name
  function : e.function.Pure context
  outcome : ∀ outcome, e.outcome = some outcome → outcome = e.function.setUp ⟨context, 0, []⟩

/-- Pure functions stay so through everything that is done to a registry. -/
lemma lasting_pure (context : Context) : Lasting context (PureEntry context) (Function.Pure context) where
  fresh _ _ _ hf := ⟨rfl, hf, fun _ ho => nomatch ho⟩
  setUp _ e s hs he := by
    refine ⟨rfl, he.function, ?_⟩
    rintro _ ⟨⟩
    exact he.function.setUp s hs
  close _ _ he := ⟨he.name_eq, he.function, he.outcome⟩

/-- All functions are pure, and names are answered as told. -/
structure Answers (context : Context) (A : Meanings) (r : Registry) : Prop where
  populated : Populated context (PureEntry context) [] r
  answer_eq : r.answer = A

/-- To set a pure function up does not change what names answer. -/
lemma answer_setUp (h : Populated context (PureEntry context) [] r) (he : Keyed.get? r.table name = some e) :
    (setUp e r).answer = r.answer := by
  obtain rfl := (h.entry name e he).name_eq
  funext other
  by_cases ho : other = e.info.name
  · simp only [answer, setUp, note, Keyed.get?_insert, ho, he]
    rfl
  · simp only [answer, setUp, note, Keyed.get?_insert, if_neg ho]

/-- What comes of resolving a name is what the registry answers, in all but the entry that is found. -/
lemma resolve_answer (h : Populated context (PureEntry context) [] r) (name : String) :
    Outcomes (fun e f => (∃ name, PureEntry context name e) ∧ f = e.function.apply ⟨context, 0, []⟩) (fun _ => True)
        (resolve name r).1 (r.answer name) ∧
      (resolve name r).2.answer = r.answer := by
  have hres := resolution name r
  generalize (resolve name r).1 = result, (resolve name r).2 = next at hres
  cases hres with
  | unknown hnone =>
    rw [answer, hnone]
    exact ⟨.error trivial, rfl⟩
  | @stateless e he hs =>
    simp only [answer, he, meaningOf, hs, h.context_eq]
    exact ⟨.ok ⟨⟨name, h.entry name e he⟩, rfl⟩, trivial⟩
  | @closed e he hs hc =>
    simp only [answer, he, meaningOf, hs, hc]
    exact ⟨.error trivial, trivial⟩
  | @again e outcome he hs hc ho =>
    -- What is remembered is what comes of setting the function up here.
    obtain rfl := (h.entry name e he).outcome outcome ho
    simp only [answer, he, meaningOf, hs, hc, h.context_eq]
    refine ⟨?_, trivial⟩
    cases e.function.setUp ⟨context, 0, []⟩ with
    | ok u => exact .ok ⟨⟨name, h.entry name e he⟩, rfl⟩
    | error err => exact .error trivial
  | @first e he hs hc ho =>
    refine ⟨?_, answer_setUp h he⟩
    have hset := (h.entry name e he).function.setUp (r.situation e.id) h.context_eq
    simp only [answer, he, meaningOf, hs, hc, h.context_eq, hset]
    cases e.function.setUp ⟨context, 0, []⟩ with
    | ok u => exact .ok ⟨⟨name, h.entry name e he⟩, rfl⟩
    | error err => exact .error trivial

namespace Answers

/-- To resolve a name leaves the answers. -/
lemma resolve (h : Answers context A r) (name : String) : Answers context A (Registry.resolve name r).2 :=
  ⟨h.populated.resolve (lasting_pure context) name, (resolve_answer h.populated name).2.trans h.answer_eq⟩

/-- To apply a function leaves the answers. -/
lemma applyEntry (h : Answers context A r) (e : Registration) (args : List Value) :
    Answers context A (Registry.applyEntry e args r).2 :=
  ⟨h.populated.applyEntry e args, h.answer_eq⟩

/-- The registry beside a system without state that answers the same. -/
def guard (context : Context) (A : Meanings) : Run.Guard (Registry × Unit) where
  inv p := Answers context A p.1
  rel _ _ := True
  refl _ := trivial
  trans _ _ := trivial

/-- The calls of a registry correspond to the meanings of its names, on values with the property. -/
lemma corresponds {V : Value → Prop} (hV : Value.PureClosed context V) (A : Meanings) :
    calls.Corresponds (guard context A) A.calls (fun _ => True)
      (fun _ e f => (∃ name, PureEntry context name e) ∧ f = e.function.apply ⟨context, 0, []⟩) V
      fun _ => True where
  resolve name _ := by
    rintro ⟨r, ⟨⟩⟩ h
    obtain ⟨houtcomes, -⟩ := resolve_answer (show Answers context A r from h).populated name
    rw [show r.answer = A from h.answer_eq] at houtcomes
    exact ⟨Answers.resolve h name, trivial, houtcomes.failure⟩
  apply := by
    rintro ⟨r, ⟨⟩⟩ e _ args h ⟨⟨name, he⟩, rfl⟩ hargs
    refine ⟨Answers.applyEntry h e args, trivial, ?_⟩
    show Outcomes _ _ (e.function.apply (r.situation e.id) args) (e.function.apply ⟨context, 0, []⟩ args)
    rw [he.function.apply (r.situation e.id) args h.populated.context_eq]
    exact .of_yields (hV.apply e.function he.function args hargs) (fun v hv => ⟨rfl, hv⟩) fun _ herr => herr
  stable _ _ _ _ _ h := h

/-- The value of an expression is its meaning, and its evaluation changes no answer. -/
theorem evaluate {V : Value → Prop} (h : Answers context A r) (hV : Value.PureClosed context V) {x : Expr}
    {vars : Resolver} (hx : x.Respects V (fun _ => True) vars) :
    Outcomes (fun v w => v = w ∧ V v) (fun _ => True) (x.evaluate calls vars r).1 (x.meaning A vars) ∧
      Answers context A (x.evaluate calls vars r).2 := by
  obtain ⟨hinv, -, houtcomes⟩ :=
    Expr.evaluate_relates (p := (r, ())) (corresponds hV A) hx (fun _ _ _ => trivial) h
  exact ⟨houtcomes, hinv⟩

end Answers

/-- The answers survive all that neither hands over nor closes functions. -/
lemma survives_answers (context : Context) (A : Meanings) : Survives (Answers context A) :=
  .of_steps (fun name _ h => h.resolve name) fun e args _ h => h.applyEntry e args

end Registry

end EventRules
