import EventRules.Proofs.Cache.Answers
import EventRules.Proofs.Engine.Operation

/-!
# Transparency of the cache

An engine answers as if it had no cache. `Engine.Sound` says of an engine that its cache holds
nothing but what its sources parse to. `Engine.Transparent` says of a computation that two sound
engines with the same functions and the same limit of nesting, whatever their caches hold, give the
same result and stay alike. Parsing is transparent, and so is everything that is built from it.
-/

namespace EventRules.Engine

variable {α β : Type} {depth : Nat} {e e' : Engine} {source : String} {vars : Resolver}

/-- The cache is faithful to parsing. -/
def Sound (e : Engine) : Prop :=
  e.cache.Faithful fun source => Expression.parse source e.config.maxDepth

/-- Two sound engines with the same limit of nesting that differ in nothing but their caches and the
room in them. -/
structure Alike (depth : Nat) (e e' : Engine) : Prop where
  depth_left : e.config.maxDepth = depth
  depth_right : e'.config.maxDepth = depth
  registry : e.registry = e'.registry
  sound_left : e.Sound
  sound_right : e'.Sound

/-- A sound engine is like itself. -/
lemma Sound.alike (h : e.Sound) : Alike e.config.maxDepth e e :=
  ⟨rfl, rfl, rfl, h, h⟩

/-- A computation that gives the same result on engines that are alike, and keeps them alike. -/
def Transparent (x : StateM Engine α) : Prop :=
  ∀ depth e e', Alike depth e e' → (x e).1 = (x e').1 ∧ Alike depth (x e).2 (x e').2

/-- Steps that are transparent make a transparent computation. -/
lemma sequential_transparent : Sequential @Transparent where
  pure a := fun _ _ _ h => ⟨rfl, h⟩
  bind := by
    intro α β x f hx hf depth e e' h
    obtain ⟨hresult, hnext⟩ := hx depth e e' h
    have hstep := hf (x e).1 depth _ _ hnext
    show (f (x e).1 (x e).2).1 = (f (x e').1 (x e').2).1 ∧
      Alike depth (f (x e).1 (x e).2).2 (f (x e').1 (x e').2).2
    rwa [← hresult]

/-- A sound engine parses a source as if there were no cache. -/
lemma Sound.parse (h : e.Sound) (source : String) :
    (Engine.parse source e).1 = Expression.parse source e.config.maxDepth :=
  (h.getOrCompile source).1

/-- A source is parsed as if there were no cache. -/
lemma transparent_parse (source : String) : Transparent (Engine.parse source).run := by
  intro depth e e' h
  refine ⟨?_, h.depth_left, h.depth_right, h.registry, (h.sound_left.getOrCompile source).2,
    (h.sound_right.getOrCompile source).2⟩
  show (Engine.parse source e).1 = (Engine.parse source e').1
  rw [h.sound_left.parse, h.sound_right.parse, h.depth_left, h.depth_right]

/-- What is done to the registry alone is transparent. -/
lemma transparent_onRegistry {ε : Type} (run : ExceptT ε (StateM Registry) α) : Transparent (onRegistry run).run := by
  intro depth e e' h
  refine ⟨?_, h.depth_left, h.depth_right, ?_, h.sound_left, h.sound_right⟩
  · show (run e.registry).1 = (run e'.registry).1
    rw [h.registry]
  · show (run e.registry).2 = (run e'.registry).2
    rw [h.registry]

/-- Acting on the registry alone keeps engines alike. -/
lemma Alike.onRegistry {ε : Type} (h : Alike depth e e') (run : ExceptT ε (StateM Registry) α) :
    Alike depth (Engine.onRegistry run e).2 (Engine.onRegistry run e').2 :=
  (transparent_onRegistry run depth e e' h).2

/-- A source is evaluated as if there were no cache. -/
lemma transparent_evaluate (source : String) (vars : Resolver) :
    Transparent (Engine.evaluate source vars).run :=
  sequential_transparent.run_bind (sequential_transparent.run_lift (transparent_parse source)) fun _ =>
    transparent_onRegistry _

/-- A source is validated as if there were no cache. -/
lemma transparent_validate (source : String) : Transparent (Engine.validate source).run := by
  intro depth e e' h
  obtain ⟨hresult, hnext⟩ := transparent_parse source depth e e' h
  show (Engine.validate source e).1 = (Engine.validate source e').1 ∧
    Alike depth (Engine.validate source e).2 (Engine.validate source e').2
  cases hp : Engine.parse source e with
  | mk result next =>
    -- The names are looked up after the parse, in registries that are still the same.
    cases hp' : Engine.parse source e' with
    | mk result' next' =>
      simp only [ExceptT.run, hp, hp'] at hresult hnext
      subst hresult
      cases result with
      | ok x =>
        rw [validate_ok hp, validate_ok hp', hnext.registry]
        exact ⟨rfl, hnext⟩
      | error err =>
        rw [validate_error hp, validate_error hp']
        exact ⟨rfl, hnext⟩

/-- What the cache holds for a source does not matter to what comes after. -/
lemma Alike.cached? (h : Alike depth e e') (source : String) :
    Alike depth (Engine.cached? source e).2 (Engine.cached? source e').2 :=
  ⟨h.depth_left, h.depth_right, h.registry, (h.sound_left.get? source).1, (h.sound_right.get? source).1⟩

/-- Without entries both engines are alike. -/
lemma Alike.clearCache (h : Alike depth e e') :
    Alike depth (Engine.clearCache e).2 (Engine.clearCache e').2 :=
  ⟨h.depth_left, h.depth_right, h.registry, nofun, nofun⟩

/-- Engines that are alike stay so through every operation. -/
lemma Alike.perform (h : Alike depth e e') (op : Operation) :
    Alike depth (e.perform op) (e'.perform op) := by
  cases op with
  | parse source => exact (transparent_parse source depth e e' h).2
  | validate source => exact (transparent_validate source depth e e' h).2
  | evaluate source vars => exact (transparent_evaluate source vars depth e e' h).2
  | runPredicate source vars =>
    have hp : Transparent (Engine.runPredicate source vars).run :=
      sequential_transparent.runPredicate (transparent_evaluate source vars)
    exact (hp depth e e' h).2
  | score config vars =>
    have hs : Transparent (config.score vars).run :=
      sequential_transparent.score fun rule _ => transparent_evaluate rule.1 vars
    exact (hs depth e e' h).2
  | transform t event =>
    have ht : Transparent (t.apply event).run :=
      sequential_transparent.transform fun a _ vars => transparent_evaluate a.2 vars
    exact (ht depth e e' h).2
  | enrich c event =>
    have hc : Transparent (c.apply event).run :=
      sequential_transparent.enrich fun _ _ a _ vars => transparent_evaluate a.2 vars
    exact (hc depth e e' h).2
  | cached source => exact h.cached? source
  | clearCache => exact h.clearCache
  | register info function => exact h.onRegistry (Registry.register info function)
  | registerFn info apply => exact h.onRegistry (Registry.register info { apply })
  | replace info function => exact h.onRegistry (Registry.replace info function)
  | contains _ => exact h
  | info _ => exact h
  | functions => exact h
  | resolve name => exact h.onRegistry (Registry.resolve name)
  | call name args => exact h.onRegistry (Registry.call name args)
  | closeAll => exact h.onRegistry Registry.closeAll

/-- Engines that are alike stay alike over every sequence of operations. -/
lemma Alike.performAll (h : Alike depth e e') (ops : List Operation) :
    Alike depth (e.performAll ops) (e'.performAll ops) := by
  induction ops generalizing e e' with
  | nil => exact h
  | cons op ops ih => exact ih (h.perform op)

/-- The engine after an operation that finds the cache empty. -/
def performAfresh (e : Engine) (op : Operation) : Engine :=
  perform { e with cache := e.cache.clear } op

/-- The engine after some operations, each of which finds the cache empty. -/
def performAllAfresh (e : Engine) (ops : List Operation) : Engine :=
  ops.foldl performAfresh e

/-- The value of a source that is parsed without the cache. -/
def evaluateAfresh (source : String) (vars : Resolver) : Evaluation Engine Value := fun e =>
  match Expression.parse source e.config.maxDepth with
  | .ok x => evaluateExpression x vars e
  | .error err => (.error (.failure err), e)

/-- Operations that find the cache empty keep engines alike that may have one. -/
lemma Alike.performAllAfresh (h : Alike depth e e') (ops : List Operation) :
    Alike depth (e.performAll ops) (e'.performAllAfresh ops) := by
  induction ops generalizing e e' with
  | nil => exact h
  | cons op ops ih =>
    have hclear : Alike depth e { e' with cache := e'.cache.clear } :=
      ⟨h.depth_left, h.depth_right, h.registry, h.sound_left, nofun⟩
    exact ih (hclear.perform op)

/-- An engine evaluates a source as one that is alike does when it parses the source anew. -/
lemma Alike.evaluate (h : Alike depth e e') (source : String) (vars : Resolver) :
    (Engine.evaluate source vars e).1 = (evaluateAfresh source vars e').1 := by
  have hparse := h.sound_left.parse source
  have hregistry : (Engine.parse source e).2.registry = e'.registry := h.registry
  rw [h.depth_left, ← h.depth_right] at hparse
  cases hp : Engine.parse source e with
  | mk result next =>
    rw [hp] at hparse hregistry
    simp only at hparse hregistry
    subst hparse
    cases hx : Expression.parse source e'.config.maxDepth with
    | ok x =>
      rw [hx] at hp
      rw [evaluate_ok hp, evaluateAfresh, hx]
      show (x.root.evaluate Registry.calls vars next.registry).1 =
        (x.root.evaluate Registry.calls vars e'.registry).1
      rw [hregistry]
    | error err =>
      rw [hx] at hp
      rw [evaluate_error hp, evaluateAfresh, hx]

/-- A valid configuration makes a sound engine. -/
lemma create_ok {config : EngineConfig} (hcapacity : 1 ≤ config.cacheCapacity) (hdepth : 1 ≤ config.maxDepth)
    (registry : Registry) :
    ∃ e, create config registry = .ok e ∧ e.config = config ∧ e.registry = registry ∧ e.Sound := by
  have hc : config.cacheCapacity ≠ 0 := Nat.ne_of_gt hcapacity
  have hd : config.maxDepth ≠ 0 := Nat.ne_of_gt hdepth
  have hvalid : config.validate = .ok () := by rw [EngineConfig.validate, if_neg hc, if_neg hd]
  have hcache : (Cache.create config.cacheCapacity : Except Error (Cache Expression)) =
      .ok { capacity := config.cacheCapacity, capacity_pos := hcapacity } := dif_neg hc
  refine ⟨⟨config, registry, ⟨config.cacheCapacity, [], 0, {}, hcapacity⟩⟩, ?_, rfl, rfl, nofun⟩
  rw [create, hvalid, hcache]
  rfl

/-- The cache does not show. After any operations an engine parses every source as it is parsed
without a cache, holds nothing in the cache but what its source parses to, and evaluates every
source as if every operation had found the cache empty and the source was parsed anew. -/
theorem parse_performAll {config : EngineConfig} (hcapacity : 1 ≤ config.cacheCapacity)
    (hdepth : 1 ≤ config.maxDepth) (registry : Registry) (ops : List Operation) :
    ∃ e₀, create config registry = .ok e₀ ∧
      let e := e₀.performAll ops
      (∀ source, (parse source e).1 = Expression.parse source config.maxDepth) ∧
      (∀ source x, (cached? source e).1 = some x → Expression.parse source config.maxDepth = .ok x) ∧
      ∀ source vars, (Engine.evaluate source vars e).1 =
        (evaluateAfresh source vars (e₀.performAllAfresh ops)).1 := by
  obtain ⟨e₀, he₀, rfl, -, hsound⟩ := create_ok hcapacity hdepth registry
  have hrun := hsound.alike.performAll ops
  refine ⟨e₀, he₀, fun source => ?_, fun source x hx => ?_, fun source vars => ?_⟩
  · rw [hrun.sound_left.parse, hrun.depth_left]
  · rw [← hrun.depth_left]
    exact (hrun.sound_left.get? source).2 x hx
  · exact (hsound.alike.performAllAfresh ops).evaluate source vars

/-- With room for one expression, an expression that was dropped for another parses as it did
before. -/
theorem parse_performAll_dropped :
    let config : EngineConfig := { cacheCapacity := 1, maxDepth := 5 }
    1 ≤ config.cacheCapacity ∧ 1 ≤ config.maxDepth ∧
      ∃ e₀, create config {} = .ok e₀ ∧
        (parse "a" (e₀.performAll
          [.parse "a", .parse "b +", .runPredicate "b" Resolver.empty, .clearCache])).1 =
          .ok ⟨"a", .variable "a"⟩ := by
  intro config
  have hcapacity : 1 ≤ config.cacheCapacity := by decide
  have hdepth : 1 ≤ config.maxDepth := by decide
  obtain ⟨e₀, he₀, hparse, -⟩ := parse_performAll hcapacity hdepth {}
    [.parse "a", .parse "b +", .runPredicate "b" Resolver.empty, .clearCache]
  refine ⟨hcapacity, hdepth, e₀, he₀, (hparse "a").trans ?_⟩
  rfl

end EventRules.Engine
