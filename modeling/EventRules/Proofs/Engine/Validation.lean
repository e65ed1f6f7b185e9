import EventRules.Proofs.Engine.Transparency
import EventRules.Proofs.Evaluation.Path
import EventRules.Proofs.Function.Catalog
import EventRules.Proofs.Registry.Entries

/-!
# Soundness of validation

A source that an engine found valid parses and calls nothing but functions that exist. Both remain true
whatever the engine does afterwards, so that later evaluations of the source fail, if at all, in the
functions and operators that they reach. The same holds of every source that the validation of a
configuration went through.

Validation does not look at what variables are called, nor at arguments. So it cannot foresee that a
variable is a path with a broken key, or that a date is to be written in a format for reading alone, and
on these the evaluation breaks off (`Expr.Ends`).
-/

namespace EventRules

/-- Whether it is a failure with an error of functions. -/
def Halt.isRuntime : Halt → Bool
  | .failure err => err.isRuntime
  | .panic _ => false

/-- Wherever it is set up or applied, the function fails with errors of functions only, and never breaks off. -/
def Function.Tame (f : Function) : Prop :=
  ∀ s, f.Regular (fun _ => True) (·.isRuntime = true) s

/-- Errors of functions are allowed under every name. -/
lemma Function.ends_of_isRuntime {context : Context} {name : String} {halt : Halt} (h : halt.isRuntime = true) :
    Ends context name halt := by
  cases halt with
  | failure err => exact .runtime h
  | panic p => cases h

/-- How the evaluation of an expression over functions of the catalog and tame ones may end without a value: an
operator fails, or a function that is called ends without one, or a variable is looked up that has no value of its own
and is a path with a broken key. -/
inductive Expr.Ends (context : Context) (vars : Resolver) (x : Expr) : Halt → Prop
  | fault {err : Error} : err.isFault = true → Ends context vars x (.failure err)
  | call {name : String} {halt : Halt} : name ∈ x.functionNames → Function.Ends context name halt →
      Ends context vars x halt
  | variable {name inner : String} : name ∈ x.variableNames → vars name = .null → Path.Breaks name inner →
      Ends context vars x (.panic (.brokenKey inner))

/-- Where records can be asked for without fail, no date is written and no variable has a broken key, only errors of
functions are left. -/
lemma Expr.Ends.isRuntime {context : Context} {vars : Resolver} {x : Expr} {halt : Halt} (h : x.Ends context vars halt)
    (hstore : ∀ store, context.store = some store → ∀ type indicator err, store.get type indicator ≠ .error err)
    (hdates : "DATE_FORMAT" ∉ x.functionNames)
    (hkeys : ∀ name ∈ x.variableNames, vars name = .null → ∀ inner, ¬ Path.Breaks name inner) :
    halt.isRuntime = true := by
  cases h with
  | fault hfault => exact Error.isRuntime_of_isFault _ hfault
  | call hname hends =>
    cases hends with
    | runtime herr => exact herr
    | source _ hget herr => exact absurd herr (hstore _ hget _ _ _)
    | format hdate _ _ => exact absurd (hdate ▸ hname) hdates
  | «variable» hname hnull hbreaks => exact absurd hbreaks (hkeys _ hname hnull _)

namespace Registry

variable {context : Context} {names : List String} {r : Registry} {name : String}

/-- The function of the entry ends as one with its name may, and the error of a setting up that failed is one of
functions. -/
structure TameEntry (context : Context) (name : String) (e : Registration) : Prop where
  name_eq : e.info.name = name
  function : ∀ s, s.context = context → e.function.Regular (fun _ => True) (Function.Ends context name) s
  outcome : ∀ err, e.outcome = some (.error err) → err.isRuntime = true

/-- Tame functions stay so through everything that is done to a registry. -/
lemma lasting_tame (context : Context) : Lasting context (TameEntry context) Function.Tame where
  fresh _ _ _ hf :=
    ⟨rfl, fun s _ => ⟨(hf s).setUp, fun args hargs => ((hf s).apply args hargs).mono (fun _ hv => hv) fun _ =>
      Function.ends_of_isRuntime⟩, fun _ herr => nomatch herr⟩
  setUp name e s hs he := by
    obtain rfl := he.name_eq
    refine ⟨rfl, he.function, fun err herr => ?_⟩
    have hset := (he.function s hs).setUp
    rw [Option.some.inj herr] at hset
    exact hset.of_error
  close _ _ he := ⟨he.name_eq, he.function, he.outcome⟩

/-- A registry of the catalog has the entries of the catalog, which are tame. -/
lemma populated_ofCatalog (context : Context) : (ofCatalog context).Populated context (TameEntry context) [] := by
  refine (Populated.empty context _).addBuiltins fun b hb id => ⟨rfl, ?_, fun _ herr => nomatch herr⟩
  rintro s rfl
  exact catalog_regular Value.closed_true (fun _ _ _ _ _ _ => trivial) b hb

/-- A name that is taken is resolved, or fails with an error of its function. -/
lemma resolve_yields (h : Populated context (TameEntry context) names r) (hname : name ∈ names) :
    Yields (fun _ => True) (·.isRuntime = true) (resolve name r).1 := by
  have hres := resolution name r
  generalize (resolve name r).1 = result, (resolve name r).2 = next at hres
  cases hres with
  | unknown hnone =>
    have htaken := h.taken name hname
    rw [contains, Keyed.has, hnone] at htaken
    cases htaken
  | stateless _ _ => exact .ok trivial
  | closed _ _ _ => exact .error rfl
  | @again e outcome he _ _ ho =>
    cases outcome with
    | ok u => exact .ok trivial
    | error err => exact .error ((h.entry name e he).outcome err ho)
  | @first e he _ _ _ => exact ((h.entry name e he).function _ h.context_eq).setUp.map fun _ _ => trivial

/-- An expression that calls functions with taken names has a value, or ends without one in one of the known ways. -/
lemma evaluate_yields {x : Expr} (h : Populated context (TameEntry context) x.functionNames r) (vars : Resolver) :
    Yields (fun _ => True) (x.Ends context vars) (x.evaluate calls vars r).1 := by
  refine Expr.evaluate_yields (g := Populated.guard context (TameEntry context) x.functionNames)
    (Populated.calls_respects (lasting_tame context) (· ∈ x.functionNames)) (fun name hname r h => ?_) ?_ ?_
    x.callsOnly_functionNames h
  · exact ((resolve_yields h hname).mono (fun _ ha => ha) fun err herr => .call hname (.runtime herr)).failure
  · rintro r e args hr ⟨name, hname, he⟩ _
    have hregular := he.function (r.situation e.id) hr.context_eq
    exact (hregular.apply args fun _ _ => trivial).mono (fun _ hv => hv) fun _ => .call hname
  · refine ⟨Value.closed_true, fun _ => .fault, fun name hname => ?_, fun _ _ => trivial⟩
    cases hlookup : vars.lookup name with
    | ok v => exact .ok trivial
    | error p =>
      obtain ⟨hnull, inner, hbreaks, rfl⟩ := Resolver.lookup_eq_error.1 hlookup
      exact .error (.variable (Expr.mem_variableNames.2 hname) hnull hbreaks)

end Registry

namespace Engine

variable {α β : Type} {e e' : Engine} {source : String} {known known' : List String}

/-- The engine parses the source, and has the functions that it calls. -/
def Knows (e : Engine) (source : String) : Prop :=
  ∃ x, Expression.parse source e.config.maxDepth = .ok x ∧
    ∀ name ∈ x.root.functionNames, e.registry.contains name = true

/-- A sound engine came from another without any change but to its cache. -/
structure Reread (e e' : Engine) : Prop where
  config : e'.config = e.config
  registry : e'.registry = e.registry
  sound : e'.Sound

/-- What is known after sources were read again was known before. -/
lemma Reread.knows (h : Reread e e') (hknows : e'.Knows source) : e.Knows source := by
  obtain ⟨x, hx, hnames⟩ := hknows
  rw [h.config] at hx
  rw [h.registry] at hnames
  exact ⟨x, hx, hnames⟩

/-- A computation that changes nothing but the cache, and succeeds only if the engine knows some
sources. -/
def Vouches (x : Run Engine α) (sources : List String) : Prop :=
  ∀ e, e.Sound → Reread e (x e).2 ∧ ((x e).1.isOk = true → ∀ source ∈ sources, e.Knows source)

namespace Vouches

/-- A result that is just handed on knows nothing. -/
lemma lift (result : Except Error α) : Vouches (liftM result : Run Engine α) [] :=
  fun _ h => ⟨⟨rfl, rfl, h⟩, fun _ => nofun⟩

/-- A sequence knows what its steps do, since what the first one knows remains known. -/
lemma bind {x : Run Engine α} {f : α → Run Engine β} (hx : Vouches x known) (hf : ∀ a, Vouches (f a) known') :
    Vouches (x >>= f) (known ++ known') := by
  intro e h
  obtain ⟨hnext, hknown⟩ := hx e h
  cases hrun : x e with
  | mk result next =>
    rw [hrun] at hnext hknown
    cases result with
    | error err =>
      rw [Run.bind_error hrun]
      exact ⟨hnext, nofun⟩
    | ok a =>
      rw [Run.bind_ok hrun]
      obtain ⟨hlast, hknown'⟩ := hf a next hnext.sound
      refine ⟨⟨hlast.config.trans hnext.config, hlast.registry.trans hnext.registry, hlast.sound⟩, fun hok => ?_⟩
      refine List.forall_mem_append.2 ⟨hknown rfl, fun source hmem => ?_⟩
      exact hnext.knows (hknown' hok source hmem)

end Vouches

/-- A source that is valid is known. -/
lemma vouches_validate (source : String) : Vouches (validate source) [source] := by
  intro e h
  have hparse := h.parse source
  have hsound : (parse source e).2.Sound := (transparent_parse source _ e e h.alike).2.sound_left
  have hnext : Reread e (parse source e).2 := ⟨rfl, rfl, hsound⟩
  cases hp : parse source e with
  | mk result next =>
    rw [hp] at hparse hnext
    cases result with
    | error err =>
      rw [validate_error hp]
      exact ⟨hnext, nofun⟩
    | ok x =>
      rw [validate_ok hp]
      refine ⟨hnext, fun hok => ?_⟩
      intro s hs
      rw [List.mem_singleton.1 hs]
      refine ⟨x, hparse.symm, fun name hname => ?_⟩
      cases hfind : x.root.functionNames.find? fun name => !next.registry.contains name with
      | some missing =>
        simp only [hfind] at hok
        cases hok
      | none =>
        have hknown := List.find?_eq_none.1 hfind name hname
        rw [hnext.registry] at hknown
        simpa using hknown

/-- A source that is validated after a check, which may fail, is known beside what is known from then on. -/
lemma vouches_next {x : Run Engine Unit} (check : Except Error Unit) (source : String) (hx : Vouches x known) :
    Vouches (do liftM check; discard (validate source); x) (source :: known) := by
  have hvalid : Vouches (discard (validate source)) [source] := (vouches_validate source).bind fun _ => .lift (.ok ())
  exact (Vouches.lift check).bind fun _ => hvalid.bind fun _ => hx

/-- Valid rules are all known. -/
lemma vouches_rules (rules : List (String × Float)) :
    Vouches (TriageConfig.validateRules rules) (rules.map (·.1)) := by
  induction rules with
  | nil => exact .lift (.ok ())
  | cons rule rules ih =>
    rw [TriageConfig.validateRules]
    split
    · exact vouches_next (.error _) rule.1 ih
    · exact vouches_next (.ok ()) rule.1 ih

/-- Valid assignments are all known. -/
lemma vouches_assignments (assignments : List (String × String)) :
    Vouches (Transformation.validateAssignments assignments) (assignments.map (·.2)) := by
  induction assignments with
  | nil => exact .lift (.ok ())
  | cons assignment assignments ih =>
    rw [Transformation.validateAssignments]
    split
    · exact vouches_next (.error _) assignment.2 ih
    · exact vouches_next (.ok ()) assignment.2 ih

/-- Valid groups have nothing but known sources. -/
lemma vouches_groups (groups : List (Option String × Transformation)) :
    Vouches (EnrichmentConfig.validateGroups groups) (groups.flatMap fun g => g.2.assignments.map (·.2)) := by
  induction groups with
  | nil => exact .lift (.ok ())
  | cons group groups ih => exact (vouches_assignments group.2.assignments).bind fun _ => ih

/-- What an engine validates: a source, or a configuration that holds sources. -/
inductive Subject where
  | source (source : String)
  | triage (config : TriageConfig)
  | transformation (t : Transformation)
  | enrichment (config : EnrichmentConfig)

/-- Asks the engine whether a source, or everything in a configuration, is valid. -/
def Subject.validate : Subject → Run Engine Unit
  | .source source => discard (Engine.validate source)
  | .triage config => config.validate
  | .transformation t => t.validate
  | .enrichment config => config.validate

/-- The sources that are evaluated for it. -/
def Subject.sources : Subject → List String
  | .source source => [source]
  | .triage config => config.rules.map (·.1)
  | .transformation t => t.assignments.map (·.2)
  | .enrichment config => config.groups.flatMap fun g => g.2.assignments.map (·.2)

/-- A subject that is valid has nothing but known sources. -/
lemma Subject.vouches (subject : Subject) : Vouches subject.validate subject.sources := by
  cases subject with
  | source source => exact (vouches_validate source).bind fun _ => .lift (.ok ())
  | triage config => exact vouches_rules config.rules
  | transformation t => exact vouches_assignments t.assignments
  | enrichment config => exact vouches_groups config.groups

/-! ## Evaluating what was validated -/

/-- A sound engine over tame functions evaluates a source that it knows, or ends without a value in one of the known
ways. -/
lemma evaluate_yields {context : Context} {x : Expression} (h : e.Sound)
    (hregistry : e.registry.Populated context (Registry.TameEntry context) x.root.functionNames)
    (hx : Expression.parse source e.config.maxDepth = .ok x) (vars : Resolver) :
    Yields (fun _ => True) (x.root.Ends context vars) (evaluate source vars e).1 := by
  have hparse : parse source e = (.ok x, (parse source e).2) := Prod.ext ((h.parse source).trans hx) rfl
  rw [evaluate_ok hparse]
  exact Registry.evaluate_yields hregistry vars

/-- A value is read as a boolean, or the error says that it is none. -/
lemma predicate_yields (v : Value) :
    Yields (fun _ => True) (fun err => ∃ found, err = .notBoolean found) v.predicate := by
  cases v with
  | null => exact .ok trivial
  | bool b => exact .ok trivial
  | _ => exact .error ⟨_, rfl⟩

/-- A predicate ends as its source does, or fails because its value is no boolean. -/
lemma runPredicate_yields {E : Halt → Prop} {vars : Resolver}
    (h : Yields (fun _ => True) E (evaluate source vars e).1) :
    Yields (fun _ => True) (fun halt => E halt ∨ ∃ found, halt = .failure (.notBoolean found))
      (runPredicate source vars e).1 := by
  cases hrun : evaluate source vars e with
  | mk result next =>
    rw [hrun] at h
    rw [runPredicate]
    cases result with
    | error err =>
      rw [Run.bind_error hrun]
      exact .error (.inl h.of_error)
    | ok v =>
      rw [Run.bind_ok hrun]
      refine ((predicate_yields v).mono (fun _ hb => hb) ?_).failure
      rintro _ ⟨found, rfl⟩
      exact .inr ⟨found, rfl⟩

/-- Validation is sound but for what it does not look at. Take an engine over the functions of the catalog that was
given nothing but tame functions since. If it finds a source or a configuration valid then, whatever else it does and
whatever tame functions it is given, a source of it has a value or ends without one as `Expr.Ends` tells: it fails with
an error of the functions and operators that it reaches or of the source of records, or breaks off at a broken key or
at a format that no date can be written in. As a predicate it can also fail because its value is no boolean. -/
theorem validate_sound {config : EngineConfig} (hcapacity : 1 ≤ config.cacheCapacity) (hdepth : 1 ≤ config.maxDepth)
    (context : Context) {ops : List Operation} (hops : ∀ op ∈ ops, op.Hands Function.Tame) (subject : Subject) :
    ∃ e₀, create config (Registry.ofCatalog context) = .ok e₀ ∧
      let e := e₀.performAll ops
      ((subject.validate e).1 = .ok () → ∀ source ∈ subject.sources,
        ∃ x, Expression.parse source config.maxDepth = .ok x ∧ ∀ later : List Operation,
          (∀ op ∈ later, op.Hands Function.Tame) → ∀ vars,
            let e' := (subject.validate e).2.performAll later
            Yields (fun _ => True) (x.root.Ends context vars) (evaluate source vars e').1 ∧
            Yields (fun _ => True) (fun halt => x.root.Ends context vars halt ∨
              ∃ found, halt = .failure (.notBoolean found)) (runPredicate source vars e').1) := by
  obtain ⟨e₀, he₀, rfl, hregistry, hsound⟩ := create_ok hcapacity hdepth (Registry.ofCatalog context)
  refine ⟨e₀, he₀, fun hvalid source hmem => ?_⟩
  have hlasting := Registry.lasting_tame context
  have hstart : e₀.registry.Populated context (Registry.TameEntry context) [] := by
    rw [hregistry]
    exact Registry.populated_ofCatalog context
  have htame := preserves_performAll (Registry.invariant_populated hlasting []) hops hstart
  have hrun := hsound.alike.performAll ops
  obtain ⟨hreread, hknows⟩ := subject.vouches (e₀.performAll ops) hrun.sound_left
  obtain ⟨x, hx, hnames⟩ := hknows (by rw [hvalid]; rfl) source hmem
  rw [hrun.depth_left] at hx
  refine ⟨x, hx, fun later hlater vars => ?_⟩
  -- From here on the names that the source calls are taken.
  have htaken : (subject.validate (e₀.performAll ops)).2.registry.Populated context (Registry.TameEntry context)
      x.root.functionNames := by
    rw [hreread.registry]
    exact ⟨htame.context_eq, htame.entry, hnames⟩
  have hlast := preserves_performAll (Registry.invariant_populated hlasting x.root.functionNames) hlater htaken
  have halike := hreread.sound.alike.performAll later
  rw [← hrun.depth_left, ← hreread.config, ← halike.depth_left] at hx
  have hyields := evaluate_yields halike.sound_left hlast hx vars
  exact ⟨hyields, runPredicate_yields hyields⟩

/-- A predicate that calls a function of its own, on an engine that closed all functions since. It writes no date and
has no path in it, so that only errors of functions are left. -/
theorem validate_sound_closed :
    let config : EngineConfig := { cacheCapacity := 5, maxDepth := 5 }
    let ops : List Operation := [.register { name := "KNOWN" } (.ofArgs fun _ => .ok (.bool true))]
    let subject := Subject.source "KNOWN(a) && IS_EMPTY(b)"
    1 ≤ config.cacheCapacity ∧ 1 ≤ config.maxDepth ∧ (∀ op ∈ ops, op.Hands Function.Tame) ∧
      ∃ e₀, create config (Registry.ofCatalog {}) = .ok e₀ ∧ (subject.validate (e₀.performAll ops)).1 = .ok () ∧
        Yields (fun _ => True) (fun halt => halt.isRuntime = true ∨ ∃ found, halt = .failure (.notBoolean found))
          (runPredicate "KNOWN(a) && IS_EMPTY(b)" Resolver.empty
            ((subject.validate (e₀.performAll ops)).2.performAll [.closeAll])).1 := by
  intro config ops subject
  have hcapacity : 1 ≤ config.cacheCapacity := by decide
  have hdepth : 1 ≤ config.maxDepth := by decide
  have hops : ∀ op ∈ ops, op.Hands Function.Tame := by
    intro op hop f hf
    rw [List.mem_singleton.1 hop] at hf
    cases hf
    exact fun s => ⟨.ok trivial, fun _ _ => .ok trivial⟩
  have hlater : ∀ op ∈ [Operation.closeAll], op.Hands Function.Tame := by
    intro op hop f hf
    rw [List.mem_singleton.1 hop] at hf
    cases hf
  obtain ⟨e₀, he₀, hsound⟩ := validate_sound hcapacity hdepth {} hops subject
  have hcreate : create config (Registry.ofCatalog {}) =
      .ok ⟨config, Registry.ofCatalog {}, ⟨5, [], 0, {}, by decide⟩⟩ := rfl
  have hvalid : (subject.validate (e₀.performAll ops)).1 = .ok () := by
    obtain rfl := Except.ok.inj (he₀.symm.trans hcreate)
    decide +kernel
  obtain ⟨x, hx, hyields⟩ := hsound hvalid _ List.mem_cons_self
  have hnames : (Expression.parse "KNOWN(a) && IS_EMPTY(b)" 5).toOption.map
      (fun x => (x.root.functionNames, x.root.variableNames)) = some (["KNOWN", "IS_EMPTY"], ["a", "b"]) := by
    decide +kernel
  rw [hx] at hnames
  obtain ⟨hfunctions, hvariables⟩ := Prod.mk.inj (Option.some.inj hnames)
  have hkeys (name : String) (hname : name ∈ x.root.variableNames) (inner : String) : ¬ Path.Breaks name inner := by
    intro hbreaks
    have hmark := hbreaks.mark
    rw [hvariables, List.mem_cons, List.mem_singleton] at hname
    obtain rfl | rfl := hname <;> revert hmark <;> decide
  refine ⟨hcapacity, hdepth, hops, e₀, he₀, hvalid, ?_⟩
  refine (hyields [.closeAll] hlater Resolver.empty).2.mono (fun _ hb => hb) fun halt hends => ?_
  exact hends.imp_left fun h => h.isRuntime (fun _ => nofun) (by rw [hfunctions]; decide)
    fun name hname _ => hkeys name hname

/-- Both sources are found valid, and to evaluate them breaks off. -/
theorem validate_sound_panics :
    ∃ e₀, create {} (Registry.ofCatalog {}) = .ok e₀ ∧
      (validate "DATE_FORMAT('%#z', 0)" e₀).1.isOk = true ∧
      (evaluate "DATE_FORMAT('%#z', 0)" .empty (validate "DATE_FORMAT('%#z', 0)" e₀).2).1 =
        .error (.panic (.unwritableFormat "%#z")) ∧
      (validate "m['é]x']" e₀).1.isOk = true ∧
      (evaluate "m['é]x']" .empty (validate "m['é]x']" e₀).2).1 = .error (.panic (.brokenKey "'é")) := by
  let e₀ : Engine := ⟨{}, Registry.ofCatalog {}, ⟨1000, [], 0, {}, by decide⟩⟩
  -- Values cannot be compared by computing, but that there is none can be seen.
  have hformat : ((evaluate "DATE_FORMAT('%#z', 0)" .empty (validate "DATE_FORMAT('%#z', 0)" e₀).2).1.map fun _ => ()) =
      .error (.panic (.unwritableFormat "%#z")) := by decide +kernel
  have hkey : ((evaluate "m['é]x']" .empty (validate "m['é]x']" e₀).2).1.map fun _ => ()) =
      .error (.panic (.brokenKey "'é")) := by decide +kernel
  exact ⟨e₀, rfl, by decide +kernel, map_eq_error.1 hformat, by decide +kernel, map_eq_error.1 hkey⟩

end Engine

end EventRules
