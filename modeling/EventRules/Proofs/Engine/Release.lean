import EventRules.Proofs.Engine.Invariant
import EventRules.Proofs.Registry.Release

/-!
# Release of functions in an engine

A run of operations on an engine keeps every open function in the table, so when all functions are
closed at its end none is leaked: each function that was set up well has been closed once, by that
last operation or before, and no other function ever was.
-/

namespace EventRules

namespace Registry

/-- A registry is consistent with some functions and holds every open one. -/
def Accounts (r : Registry) : Prop :=
  ∃ fs, Consistent fs r ∧ Holds r

/-- Evaluation loses no open function. -/
lemma Accounts.evaluate {r : Registry} (h : Accounts r) (x : Expr) (vars : Resolver) :
    Accounts (x.evaluate calls vars r).2 := by
  obtain ⟨fs, hcons, hholds⟩ := h
  -- Consistency is kept along, since a registry may lose an open function without it.
  let g : Run.Guard Registry :=
    { inv := fun r => Consistent fs r ∧ Holds r, rel := Grows fun _ => True,
      refl := Grows.refl, trans := Grows.trans }
  have hcalls := calls_respects fs fun _ => True
  have hrespects : calls.Respects g (fun _ => True) (Ready fs) := by
    refine ⟨fun name _ r hr => ?_, fun name _ r e next hr => ?_, fun r e args hr hready => ?_, hcalls.stable⟩
    · obtain ⟨hinv, hgrows⟩ := hcalls.resolve name trivial r hr.1
      exact ⟨⟨hinv, holds_resolve hr.2 hr.1 name⟩, hgrows⟩
    · exact hcalls.ready name trivial r e next hr.1
    · obtain ⟨hinv, hgrows⟩ := hcalls.apply r e args hr.1 hready
      exact ⟨⟨hinv, holds_applyEntry hr.2 e args⟩, hgrows⟩
  have hkeeps : Run.Keeps g (x.evaluate calls vars) := Expr.evaluate_keeps hrespects fun _ _ _ => trivial
  obtain ⟨hinv, -⟩ := hkeeps r ⟨hcons, hholds⟩
  exact ⟨fs, hinv⟩

/-- A call loses no open function. -/
lemma Accounts.call {r : Registry} (h : Accounts r) (name : String) (args : List Value) :
    Accounts (call name args r).2 := by
  obtain ⟨fs, hcons, hholds⟩ := h
  obtain ⟨hinv, -⟩ := call_keeps name args r hcons
  refine ⟨fs, hinv, ?_⟩
  have hresolved := holds_resolve hholds hcons name
  cases hres : resolve name r with
  | mk result next =>
    rw [hres] at hresolved
    cases result with
    | error err =>
      rw [call_error hres]
      exact hresolved
    | ok e =>
      rw [call_ok hres]
      exact holds_applyEntry hresolved e args

/-- Nothing that is done to a registry loses an open function. -/
lemma invariant_accounts : Invariant Accounts fun _ => True where
  evaluate x vars r h := h.evaluate x vars
  resolve name r h := by
    obtain ⟨fs, hcons, hholds⟩ := h
    exact ⟨fs, (resolve_keeps name r hcons).1, holds_resolve hholds hcons name⟩
  call name args r h := h.call name args
  insert info f replace r _ h := by
    obtain ⟨fs, hcons, hholds⟩ := h
    exact ⟨fs ++ [f], (insert_spec hcons info f replace).1, holds_insert hholds info f replace⟩
  closeAll r h := by
    obtain ⟨fs, hcons, hholds⟩ := h
    exact ⟨fs, (closeAll_spec hcons).1, holds_closeNames hholds _⟩

end Registry

namespace Engine

/-- After every sequence of operations all open functions are in the table. -/
lemma holds_performAll {e₀ : Engine} (builtins : List Builtin) (context : Context)
    (hregistry : e₀.registry = builtins.foldl Registry.addBuiltin { context }) (ops : List Operation) :
    (e₀.performAll ops).registry.Holds := by
  have hempty (name : String) (entry : Registration) (he : Keyed.get? [] name = some entry) :
      entry.closed = false := by cases he
  obtain ⟨hcons, -, hpast, -⟩ := (Registry.consistent_empty context).addBuiltins hempty builtins
  rw [← hregistry] at hcons hpast
  have hholds : e₀.registry.Holds := by
    rintro id ⟨⟨o, ho, -⟩, -⟩
    rw [hpast] at ho
    cases ho
  obtain ⟨-, -, hafter⟩ : (e₀.performAll ops).registry.Accounts :=
    preserves_performAll Registry.invariant_accounts (fun _ _ _ _ => trivial) ⟨_, hcons, hholds⟩
  exact hafter

/-- No function is leaked and none is closed twice. Let a run of operations on an engine over a catalog
of functions, the empty one included, end in closing all functions, and let `fs` be the functions by
their numbers, those that were replaced or refused by the registry among them.

* A function was closed exactly once if it was set up well, and never otherwise.
* The last operation did nothing but close functions, and failed exactly if one of these could not be
  closed.
* To close all functions once more does nothing and succeeds. -/
theorem performAll_release {config : EngineConfig} (hcapacity : 1 ≤ config.cacheCapacity)
    (hdepth : 1 ≤ config.maxDepth) (builtins : List Builtin) (context : Context) (ops : List Operation) :
    ∃ e₀, create config (builtins.foldl Registry.addBuiltin { context }) = .ok e₀ ∧
      let before := (e₀.performAll ops).registry
      let after := (e₀.performAll (ops ++ [.closeAll])).registry
      let fs := builtins.map (·.function) ++ ops.filterMap (·.function?)
      (∀ id f, fs[id]? = some f →
        (after.past.SetUpWell context f id → after.past.closings id = 1) ∧
        (¬ after.past.SetUpWell context f id → after.past.closings id = 0)) ∧
      (∃ new, after.past = new ++ before.past ∧ (∀ o ∈ new, o.action = .close) ∧
        ((Registry.closeAll before).1.isOk = false ↔ ∃ o ∈ new, o.succeeded = false)) ∧
      (Registry.closeAll after).1 = .ok () ∧ (Registry.closeAll after).2.past = after.past := by
  obtain ⟨e₀, he₀, rfl, hregistry, hsound⟩ :=
    create_ok hcapacity hdepth (builtins.foldl Registry.addBuiltin { context })
  have hlived := lived_performAll builtins context hregistry hsound ops
  have hcons := hlived.well.consistent
  have hholds := holds_performAll builtins context hregistry ops
  have hlast : (e₀.performAll (ops ++ [.closeAll])).registry =
      (Registry.closeAll (e₀.performAll ops).registry).2 := by
    rw [performAll_concat]
    rfl
  obtain ⟨hclosed, hcloses, -⟩ := Registry.closeAll_spec hcons
  have hlawful := hclosed.lawful
  rw [hcloses.context_eq, hlived.context_eq] at hlawful
  refine ⟨e₀, he₀, ?_, ?_, ?_⟩
  · rw [hlast]
    intro id f hf
    constructor
    · -- A function that was set up well and is not open any more was closed, and only once.
      intro hset
      have hsome := hset.closings_ne_zero (Registry.not_open_closeAll hholds hcons id)
      have hone := hlawful.closings_le_one id
      omega
    · intro hnot
      by_cases hzero : (Registry.closeAll (e₀.performAll ops).registry).2.past.closings id = 0
      · exact hzero
      · exact absurd (hlawful.setUpWell_of_close hf hzero) hnot
  · rw [hlast]
    obtain ⟨new, hpast, hclose, hok⟩ := Registry.closeNames_past (Keyed.keys _) (e₀.performAll ops).registry
    refine ⟨new, hpast, hclose, ?_⟩
    show (Registry.closeNames _ _).1.isOk = false ↔ _
    simp [hok]
  · rw [hlast]
    exact Registry.closeAll_closeAll hcons

/-- A function that cannot be closed well is closed once when it is replaced, and the one in its place
is closed once at the end. -/
theorem performAll_release_replaced :
    let config : EngineConfig := {}
    let f : Function :=
      { stateful := true, apply := fun _ _ => .ok .null
        close := fun _ => .error (.unknownFunction "STORE") }
    let ops : List Operation :=
      [.register { name := "F" } f, .resolve "F", .replace { name := "F" } f, .resolve "F"]
    1 ≤ config.cacheCapacity ∧ 1 ≤ config.maxDepth ∧ ∃ e₀, create config {} = .ok e₀ ∧
      let after := (e₀.performAll (ops ++ [.closeAll])).registry
      after.past.closings 0 = 1 ∧ after.past.closings 1 = 1 ∧ (Registry.closeAll after).1 = .ok () := by
  intro config f ops
  have hcapacity : 1 ≤ config.cacheCapacity := by decide
  have hdepth : 1 ≤ config.maxDepth := by decide
  obtain ⟨e₀, he₀, hcount, -, hagain, -⟩ := performAll_release hcapacity hdepth [] {} ops
  have hname : Registry.canonicalName "F" = "F" := by decide
  have hpast : ∀ e : Engine, e.registry = {} → (e.performAll (ops ++ [.closeAll])).registry.past =
      [⟨1, .close, false⟩, ⟨1, .setUp, true⟩, ⟨0, .close, false⟩, ⟨0, .setUp, true⟩] := by
    intro e he
    simp only [performAll, ops, List.cons_append, List.nil_append, List.foldl_cons, List.foldl_nil, perform, close,
      registry_onRegistry, he]
    simp [Registry.register, Registry.replace, Registry.insert, hname, Registry.resolve, Registry.ensureReady,
      Registry.note, Registry.closeEntry, Registry.closeAll, Registry.closeNames, Keyed.keys, Keyed.get?,
      Keyed.insert, Except.isOk, Except.toBool, f]
  refine ⟨hcapacity, hdepth, e₀, he₀, ?_, ?_, hagain⟩
  · refine (hcount 0 f rfl).1 ?_
    cases he₀
    rw [hpast _ rfl]
    exact ⟨[⟨1, .close, false⟩, ⟨1, .setUp, true⟩, ⟨0, .close, false⟩], [], rfl, rfl⟩
  · refine (hcount 1 f rfl).1 ?_
    cases he₀
    rw [hpast _ rfl]
    exact ⟨[⟨1, .close, false⟩], [⟨0, .close, false⟩, ⟨0, .setUp, true⟩], rfl, rfl⟩

end Engine

end EventRules
