import EventRules.Proofs.Engine.Transparency
import EventRules.Proofs.Registry.Operations
import Mathlib.Data.List.Basic
import Mathlib.Data.List.Induction

/-!
# The life of a function in an engine

A run of operations on an engine leaves its registry consistent, so all that is done with functions
is lawful. Only operations that resolve the name of a function set it up. An entry is marked as
closed exactly when all functions were closed while it was in the table; from then on its name is
not resolved, and a function that could not be set up is refused with the same error until then.
-/

namespace EventRules

/-- The function that an operation hands to the registry. -/
def Operation.function? : Operation → Option Function
  | .register _ function | .replace _ function => some function
  | .registerFn _ apply => some { apply }
  | _ => none

/-- Whether an operation closes all functions. -/
def Operation.closes : Operation → Bool
  | .closeAll => true
  | _ => false

/-- The name is called in one of the sources. -/
def CalledIn (sources : List String) (depth : Nat) (name : String) : Prop :=
  ∃ source ∈ sources, ∃ x, Expression.parse source depth = .ok x ∧ name ∈ x.root.functionNames

/-- An operation resolves a name: it asks for that, or the name is called in a source that it
evaluates. -/
def Operation.Resolves (depth : Nat) (op : Operation) (name : String) : Prop :=
  match op with
  | .resolve other | .call other _ => other = name
  | op => CalledIn op.sources depth name

namespace Registry

variable {fs : List Function} {names : String → Prop} {r r' : Registry}

/-- The later registry came from the earlier one by an operation that resolves certain names and
perhaps closes all functions. -/
structure Progress (names : String → Prop) (closing : Bool) (r r' : Registry) : Prop where
  context_eq : r'.context = r.context
  past : ∃ new, r'.past = new ++ r.past ∧ ∀ o ∈ new, o.action = .setUp →
    ∃ name e, names name ∧ Keyed.get? r.table name = some e ∧ e.id = o.owner
  entry : ∀ name e', Keyed.get? r'.table name = some e' →
    (∃ e, Keyed.get? r.table name = some e ∧ e.id = e'.id ∧ e'.closed = (e.closed || closing)) ∨
      closing = false ∧ r.nextId ≤ e'.id ∧ e'.closed = false

/-- A registry that only grows makes progress, and closes no function. -/
lemma Grows.progress (h : Grows names r r') : Progress names false r r' := by
  obtain ⟨new, hpast, hnew⟩ := h.past
  refine ⟨h.context_eq, ⟨new, hpast, fun o ho => (hnew o ho).2⟩, fun name e' he' => .inl ?_⟩
  obtain ⟨e, he, hid, hclosed⟩ := h.entry he'
  exact ⟨e, he, hid, by rw [Bool.or_false, hclosed]⟩

/-- Closing functions sets none up. -/
lemma Closes.past_setUp (h : Closes r r') :
    ∃ new, r'.past = new ++ r.past ∧ ∀ o ∈ new, o.action = .setUp →
      ∃ name e, names name ∧ Keyed.get? r.table name = some e ∧ e.id = o.owner := by
  obtain ⟨new, hpast, hnew⟩ := h.past
  refine ⟨new, hpast, fun o ho hact => ?_⟩
  rw [hnew o ho] at hact
  cases hact

/-- Handing over a function is progress: the new entry has a number of its own. -/
lemma progress_insert (h : Consistent fs r) (info : FunctionInfo) (f : Function) (replace : Bool) :
    Progress names false r (insert info f replace r).2 := by
  obtain ⟨-, hcloses, htable⟩ := insert_spec h info f replace
  refine ⟨hcloses.context_eq, hcloses.past_setUp, fun name e' he' => ?_⟩
  rcases htable name e' he' with he | hnew
  · exact .inl ⟨e', he, rfl, (Bool.or_false _).symm⟩
  · exact .inr ⟨rfl, hnew⟩

/-- Closing all functions is progress that marks every entry as closed. -/
lemma progress_closeAll (h : Consistent fs r) : Progress names true r (closeAll r).2 := by
  obtain ⟨-, hcloses, htable⟩ := closeAll_spec h
  refine ⟨hcloses.context_eq, hcloses.past_setUp, fun name e' he' => .inl ?_⟩
  rw [htable name] at he'
  obtain ⟨e, he, rfl⟩ := Option.map_eq_some_iff.1 he'
  exact ⟨e, he, rfl, (Bool.or_true _).symm⟩

end Registry

namespace Engine

variable {fs : List Function} {names : String → Prop} {depth : Nat} {e : Engine} {source : String}
  {vars : Resolver}

/-- A sound engine with a consistent registry. -/
structure Well (fs : List Function) (depth : Nat) (e : Engine) : Prop where
  depth_eq : e.config.maxDepth = depth
  sound : e.Sound
  consistent : e.registry.Consistent fs

/-- A computation that leaves engines well and makes their registries grow. -/
def Grows (fs : List Function) (names : String → Prop) (depth : Nat) {α : Type} (x : StateM Engine α) : Prop :=
  ∀ e, Well fs depth e → Well fs depth (x e).2 ∧ e.registry.Grows names (x e).2.registry

/-- Steps that let registries grow make a computation that does. -/
lemma sequential_grows : Sequential (@Grows fs names depth) where
  pure a := fun e h => ⟨h, .refl _⟩
  bind := by
    intro α β x f hx hf e h
    obtain ⟨hwell, hgrows⟩ := hx e h
    obtain ⟨hwell', hgrows'⟩ := hf (x e).1 (x e).2 hwell
    exact ⟨hwell', hgrows.trans hgrows'⟩

/-- Evaluating an expression lets the registry grow. -/
lemma Well.evaluateExpression (h : Well fs depth e) (x : Expression) (vars : Resolver)
    (hnames : ∀ name ∈ x.root.functionNames, names name) :
    Well fs depth (evaluateExpression x vars e).2 ∧
      e.registry.Grows names (evaluateExpression x vars e).2.registry := by
  have hcalls : x.root.CallsOnly names := fun name args hn =>
    hnames name (x.root.callsOnly_functionNames name args hn)
  have hkeeps : Run.Keeps (Registry.guard fs names) (x.root.evaluate Registry.calls vars) :=
    Expr.evaluate_keeps (Registry.calls_respects fs names) hcalls
  obtain ⟨hinv, hgrows⟩ := hkeeps e.registry h.consistent
  exact ⟨⟨h.depth_eq, h.sound, hinv⟩, hgrows⟩

/-- Parsing leaves the registry as it is and the cache sound. -/
lemma Well.parse (h : Well fs depth e) (source : String) : Well fs depth (Engine.parse source e).2 := by
  obtain ⟨-, halike⟩ := transparent_parse source e.config.maxDepth e e h.sound.alike
  exact ⟨h.depth_eq, halike.sound_left, h.consistent⟩

/-- Evaluating a source lets the registry grow, and resolves no names but those that are called in
it. -/
lemma grows_evaluate {sources : List String} (hmem : source ∈ sources) :
    Grows fs (CalledIn sources depth) depth (Engine.evaluate source vars).run := by
  intro e h
  have hparse := h.sound.parse source
  have hwell := h.parse source
  show Well fs depth (Engine.evaluate source vars e).2 ∧
    e.registry.Grows (CalledIn sources depth) (Engine.evaluate source vars e).2.registry
  have hregistry : (Engine.parse source e).2.registry = e.registry := rfl
  cases hp : Engine.parse source e with
  | mk result next =>
    rw [hp] at hparse hwell hregistry
    simp only at hparse hwell hregistry
    cases result with
    | error err =>
      rw [evaluate_error hp]
      exact ⟨hwell, hregistry ▸ .refl _⟩
    | ok x =>
      rw [evaluate_ok hp, ← hregistry]
      refine hwell.evaluateExpression x vars fun name hname => ⟨source, hmem, x, ?_, hname⟩
      rw [← h.depth_eq]
      exact hparse.symm

/-- An operation makes progress, and leaves the registry consistent with one more function if it
hands one over. -/
lemma Well.perform_registry (h : Well fs depth e) (op : Operation) :
    (e.perform op).registry.Consistent (fs ++ op.function?.toList) ∧
      e.registry.Progress (op.Resolves depth) op.closes (e.perform op).registry := by
  -- An operation leaves the registry as it is, lets it grow, or takes a function in.
  have same {next : Engine} {names : String → Prop} (hnext : next.registry = e.registry) :
      next.registry.Consistent (fs ++ []) ∧ e.registry.Progress names false next.registry := by
    rw [List.append_nil, hnext]
    exact ⟨h.consistent, (Registry.Grows.refl _).progress⟩
  have grown {next : Engine} {names : String → Prop}
      (hnext : Well fs depth next ∧ e.registry.Grows names next.registry) :
      next.registry.Consistent (fs ++ []) ∧ e.registry.Progress names false next.registry := by
    rw [List.append_nil]
    exact ⟨hnext.1.consistent, hnext.2.progress⟩
  have inserted (info : FunctionInfo) (f : Function) (replace : Bool) {names : String → Prop} :
      (onRegistry (Registry.insert info f replace) e).2.registry.Consistent (fs ++ [f]) ∧
        e.registry.Progress names false (onRegistry (Registry.insert info f replace) e).2.registry := by
    rw [registry_onRegistry]
    exact ⟨(Registry.insert_spec h.consistent info f replace).1,
      Registry.progress_insert h.consistent info f replace⟩
  cases op with
  | parse source => exact same rfl
  | validate source => exact same (registry_validate source e)
  | evaluate source vars => exact grown (grows_evaluate List.mem_cons_self e h)
  | runPredicate source vars =>
    have hp : Grows fs (CalledIn [source] depth) depth (Engine.runPredicate source vars).run :=
      sequential_grows.runPredicate (grows_evaluate List.mem_cons_self)
    exact grown (hp e h)
  | score config vars =>
    have hs : Grows fs (CalledIn (config.rules.map (·.1)) depth) depth (config.score vars) :=
      sequential_grows.score fun rule hrule => grows_evaluate (List.mem_map_of_mem hrule)
    exact grown (hs e h)
  | transform t event =>
    have ht : Grows fs (CalledIn (t.assignments.map (·.2)) depth) depth (t.apply event).run :=
      sequential_grows.transform fun a ha vars => grows_evaluate (List.mem_map_of_mem ha)
    exact grown (ht e h)
  | enrich c event =>
    have hc : Grows fs (CalledIn (Operation.enrich c event).sources depth) depth (c.apply event).run :=
      sequential_grows.enrich fun g hg a ha vars =>
        grows_evaluate (List.mem_flatMap.2 ⟨g, hg, List.mem_map_of_mem ha⟩)
    exact grown (hc e h)
  | cached source => exact same rfl
  | clearCache => exact same rfl
  | register info f =>
    rw [perform_register]
    exact inserted info f false
  | registerFn info apply =>
    rw [perform_registerFn]
    exact inserted info { apply } false
  | replace info f =>
    rw [perform_replace]
    exact inserted info f true
  | contains _ => exact same rfl
  | info _ => exact same rfl
  | functions => exact same rfl
  | resolve name =>
    obtain ⟨hinv, hgrows⟩ := Registry.resolve_keeps name e.registry h.consistent
    exact grown ⟨⟨h.depth_eq, h.sound, hinv⟩, hgrows.mono fun _ => Eq.symm⟩
  | call name args =>
    obtain ⟨hinv, hgrows⟩ := Registry.call_keeps name args e.registry h.consistent
    exact grown ⟨⟨h.depth_eq, h.sound, hinv⟩, hgrows.mono fun _ => Eq.symm⟩
  | closeAll =>
    obtain ⟨hinv, -⟩ := Registry.closeAll_spec h.consistent
    exact ⟨(List.append_nil fs).symm ▸ hinv, Registry.progress_closeAll h.consistent⟩

/-- Every operation keeps an engine well, with the function it hands over added. -/
lemma Well.perform (h : Well fs depth e) (op : Operation) :
    Well (fs ++ op.function?.toList) depth (e.perform op) := by
  have halike := h.sound.alike.perform op
  exact ⟨halike.depth_left.trans h.depth_eq, halike.sound_left, (h.perform_registry op).1⟩

/-- All functions were closed while the function of the given number was in the table. -/
def Seen (e₀ : Engine) (ops : List Operation) (id : Nat) : Prop :=
  ∃ before after name entry, ops = before ++ .closeAll :: after ∧
    Keyed.get? (e₀.performAll before).registry.table name = some entry ∧ entry.id = id

/-- All functions are closed in the last operation, or were closed before. -/
lemma seen_concat {e₀ : Engine} {ops : List Operation} {op : Operation} {id : Nat} :
    Seen e₀ (ops ++ [op]) id ↔ Seen e₀ ops id ∨ op.closes = true ∧
      ∃ name entry, Keyed.get? (e₀.performAll ops).registry.table name = some entry ∧ entry.id = id := by
  constructor
  · rintro ⟨before, after, name, entry, hops, hentry, hid⟩
    rcases List.eq_nil_or_concat' after with rfl | ⟨after, last, rfl⟩
    · obtain ⟨rfl, hop⟩ := List.append_inj' hops rfl
      cases hop
      exact .inr ⟨rfl, name, entry, hentry, hid⟩
    · rw [← List.cons_append, ← List.append_assoc] at hops
      obtain ⟨rfl, -⟩ := List.append_inj' hops rfl
      exact .inl ⟨before, after, name, entry, rfl, hentry, hid⟩
  · rintro (⟨before, after, name, entry, rfl, hentry, hid⟩ | ⟨hop, name, entry, hentry, hid⟩)
    · exact ⟨before, after ++ [op], name, entry, by simp, hentry, hid⟩
    · obtain rfl : op = .closeAll := by cases op <;> first | rfl | cases hop
      exact ⟨ops, [], name, entry, rfl, hentry, hid⟩

/-- What holds of an engine after a run: it is well with all functions that were handed to it, and
the marks of its table say which functions were seen when all were closed. -/
structure Lived (e₀ : Engine) (fs : List Function) (depth : Nat) (context : Context) (ops : List Operation) :
    Prop where
  well : Well (fs ++ ops.filterMap (·.function?)) depth (e₀.performAll ops)
  context_eq : (e₀.performAll ops).registry.context = context
  seen_lt : ∀ id, Seen e₀ ops id → id < (e₀.performAll ops).registry.nextId
  closed_iff : ∀ name entry, Keyed.get? (e₀.performAll ops).registry.table name = some entry →
    (entry.closed = true ↔ Seen e₀ ops entry.id)

/-- A further operation keeps to what holds after a run. -/
lemma Lived.concat {e₀ : Engine} {context : Context} {ops : List Operation}
    (h : Lived e₀ fs depth context ops) (op : Operation) : Lived e₀ fs depth context (ops ++ [op]) := by
  have hwell := h.well.perform op
  obtain ⟨-, hprogress⟩ := h.well.perform_registry op
  have hlt (name : String) (entry : Registration)
      (he : Keyed.get? (e₀.performAll ops).registry.table name = some entry) :
      entry.id < (e₀.performAll ops).registry.nextId := by
    rw [← h.well.consistent.handed]
    exact (List.getElem?_eq_some_iff.1 (h.well.consistent.tracks name entry he).function_eq).1
  have hnext : (e₀.performAll ops).registry.nextId ≤ ((e₀.performAll ops).perform op).registry.nextId := by
    rw [← h.well.consistent.handed, ← hwell.consistent.handed]
    exact (List.sublist_append_left _ _).length_le
  -- Whatever was closed so far has a number that was given before this operation.
  have hseen (id : Nat) (hs : Seen e₀ (ops ++ [op]) id) : id < (e₀.performAll ops).registry.nextId := by
    rcases seen_concat.1 hs with hs | ⟨-, name, entry, he, rfl⟩
    · exact h.seen_lt id hs
    · exact hlt name entry he
  refine ⟨?_, ?_, fun id hs => ?_, fun name entry he => ?_⟩
  · have hfs : fs ++ (ops ++ [op]).filterMap (·.function?) =
        fs ++ ops.filterMap (·.function?) ++ op.function?.toList := by
      rw [List.filterMap_append, List.append_assoc]
      cases hf : op.function? <;> simp [hf]
    rw [performAll_concat, hfs]
    exact hwell
  · rw [performAll_concat, hprogress.context_eq]
    exact h.context_eq
  · rw [performAll_concat]
    exact Nat.lt_of_lt_of_le (hseen id hs) hnext
  · rw [performAll_concat] at he
    rcases hprogress.entry name entry he with ⟨old, hold, hid, hclosed⟩ | ⟨-, hnew, hclosed⟩
    · rw [seen_concat, ← hid, ← h.closed_iff name old hold, hclosed, Bool.or_eq_true]
      exact or_congr_right ⟨fun hop => ⟨hop, name, old, hold, rfl⟩, And.left⟩
    · -- A new function has a number that no function had that was seen.
      rw [hclosed]
      refine ⟨nofun, fun hs => ?_⟩
      exact absurd (hseen _ hs) (Nat.not_lt.2 hnew)

/-- A run from an engine over functions of a catalog. -/
lemma lived_performAll {e₀ : Engine} (builtins : List Builtin) (context : Context)
    (hregistry : e₀.registry = builtins.foldl Registry.addBuiltin { context }) (hsound : e₀.Sound)
    (ops : List Operation) :
    Lived e₀ (builtins.map (·.function)) e₀.config.maxDepth context ops := by
  induction ops using List.reverseRecOn with
  | nil =>
    have hempty (name : String) (entry : Registration) (he : Keyed.get? [] name = some entry) :
        entry.closed = false := by cases he
    obtain ⟨hinv, hcontext, -, hopen⟩ := (Registry.consistent_empty context).addBuiltins hempty builtins
    rw [← hregistry] at hinv hcontext hopen
    have hunseen (id : Nat) : ¬ Seen e₀ [] id := by
      rintro ⟨before, after, name, entry, hops, -⟩
      exact absurd hops (by simp)
    refine ⟨⟨rfl, hsound, by simpa using hinv⟩, hcontext, fun id hs => absurd hs (hunseen id), ?_⟩
    intro name entry he
    rw [hopen name entry he]
    exact ⟨nofun, fun hs => absurd hs (hunseen _)⟩
  | append_singleton ops op ih => exact ih.concat op

/-- The life of every function in every run. Let `r` be the registry after some operations on an engine
over a catalog of functions, the empty one included, and let `fs` be the functions by their numbers.

* What was done with a function was lawful, given what was done before.
* A further operation sets up no function but those whose names it resolves.
* An entry belongs to the function with its number. If that has state, its name is refused once all
  functions were closed while it was in the table; until then, a function that could not be set up is
  refused with the same error. -/
theorem performAll_lifecycle {config : EngineConfig} (hcapacity : 1 ≤ config.cacheCapacity)
    (hdepth : 1 ≤ config.maxDepth) (builtins : List Builtin) (context : Context) (ops : List Operation) :
    ∃ e₀, create config (builtins.foldl Registry.addBuiltin { context }) = .ok e₀ ∧
      let r := (e₀.performAll ops).registry
      let fs := builtins.map (·.function) ++ ops.filterMap (·.function?)
      (∀ newer o older, r.past = newer ++ o :: older →
        ∃ f, fs[o.owner]? = some f ∧ o.Lawful context f older) ∧
      (∀ op new, ((e₀.performAll ops).perform op).registry.past = new ++ r.past →
        ∀ o ∈ new, o.action = .setUp → ∃ name entry, op.Resolves config.maxDepth name ∧
          Keyed.get? r.table name = some entry ∧ entry.id = o.owner) ∧
      ∀ name entry, Keyed.get? r.table name = some entry → fs[entry.id]? = some entry.function ∧
        (entry.function.stateful = true → Seen e₀ ops entry.id →
          r.Refuses name (.initialization name .closed)) ∧
        (¬ Seen e₀ ops entry.id → ∀ newer succeeded older err,
          r.past = newer ++ ⟨entry.id, .setUp, succeeded⟩ :: older →
          entry.function.setUp ⟨context, entry.id, older⟩ = .error err → r.Refuses name err) := by
  obtain ⟨e₀, he₀, rfl, hregistry, hsound⟩ :=
    create_ok hcapacity hdepth (builtins.foldl Registry.addBuiltin { context })
  have hlived := lived_performAll builtins context hregistry hsound ops
  have hinv := hlived.well.consistent
  refine ⟨e₀, he₀, fun newer o older hpast => ?_, fun op new hnew o ho hact => ?_, fun name entry he => ?_⟩
  · have hlawful := hinv.lawful
    rw [hlived.context_eq, hpast] at hlawful
    exact hlawful.occurrence
  · obtain ⟨-, hprogress⟩ := hlived.well.perform_registry op
    obtain ⟨new', hpast, hset⟩ := hprogress.past
    obtain rfl : new = new' := List.append_cancel_right (hnew.symm.trans hpast)
    exact hset o ho hact
  · have hiff := hlived.closed_iff name entry he
    have ht := hinv.tracks name entry he
    refine ⟨ht.function_eq, fun hs hseen => ?_, fun hseen newer succeeded older err hpast herr => ?_⟩
    · exact hinv.refuses_closed he hs (hiff.2 hseen)
    · have hopen : entry.closed = false := by
        rw [Bool.eq_false_iff]
        exact fun hc => hseen (hiff.1 hc)
      rw [← hlived.context_eq] at herr
      exact hinv.refuses_failed he hopen hpast herr

/-- A function that could not be set up is refused with the error of its only attempt. -/
theorem performAll_lifecycle_failed :
    let config : EngineConfig := {}
    let f : Function :=
      { stateful := true, setUp := fun _ => .error (.unknownFunction "STORE")
        apply := fun _ _ => .ok .null }
    1 ≤ config.cacheCapacity ∧ 1 ≤ config.maxDepth ∧ ∃ e₀, create config {} = .ok e₀ ∧
      (e₀.performAll [.register { name := "F" } f, .resolve "F"]).registry.Refuses "F"
        (.unknownFunction "STORE") := by
  intro config f
  have hcapacity : 1 ≤ config.cacheCapacity := by decide
  have hdepth : 1 ≤ config.maxDepth := by decide
  obtain ⟨e₀, he₀, -, -, hentry⟩ :=
    performAll_lifecycle hcapacity hdepth [] {} [.register { name := "F" } f, .resolve "F"]
  refine ⟨hcapacity, hdepth, e₀, he₀, ?_⟩
  cases he₀
  have hname : Registry.canonicalName "F" = "F" := by decide
  have hinsert : (Registry.insert { name := "F" } f false {}).2 =
      { table := [("F", { info := { name := "F" }, id := 0, function := f })], nextId := 1 } := by
    simp only [Registry.insert, hname]
    rfl
  have hrun : ∀ e : Engine, e.registry = {} →
      (e.performAll [.register { name := "F" } f, .resolve "F"]).registry =
        { table := [("F", ⟨{ name := "F" }, 0, f, some (.error (.unknownFunction "STORE")), false⟩)]
          past := [⟨0, .setUp, false⟩], nextId := 1 } := by
    intro e he
    show (Registry.resolve "F" (Registry.insert { name := "F" } f false e.registry).2).2 = _
    rw [he, hinsert]
    simp [Registry.resolve, Registry.ensureReady, Registry.note, Keyed.get?, Keyed.insert, Except.isOk,
      Except.toBool, f]
  rw [hrun _ rfl] at hentry ⊢
  obtain ⟨-, -, hfailed⟩ := hentry "F" _ rfl
  refine hfailed ?_ [] false [] _ rfl rfl
  rintro ⟨before, after, name, entry, hops, -⟩
  have hmem : Operation.closeAll ∈ [.register { name := "F" } f, .resolve "F"] := hops ▸ by simp
  simp at hmem

end Engine

end EventRules
