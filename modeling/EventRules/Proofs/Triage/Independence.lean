import EventRules.Proofs.Engine.Meaning
import EventRules.Proofs.Text.ByteOrder

/-!
# Rules of a triage

All rules are evaluated on one engine, whose cache is filled and emptied while they are. On an engine over
pure functions this does not show: a rule matches just if its source, parsed anew, has the value true, so
that no rule has a say in whether another one matches. Rules are kept in order, as they are in every
configuration that was read (`sorted_ofText`), and so are those that match.

A rule that fails is no match, but one whose evaluation breaks off ends the scoring: there is a score just
if no rule does that (`score_independent`).
-/

namespace EventRules.TriageConfig

variable {context : Context} {A : Meanings} {depth : Nat} {e : Engine} {vars : Resolver}

/-! ## The order of rules -/

/-- The rules read from a document are in the order of their sources. -/
lemma sorted_rulesOf? {d : Document} {rules : Keyed Float} (h : rulesOf? d = some rules) : Keyed.Sorted rules := by
  cases d with
  | object members =>
    obtain ⟨pairs, -, hrules⟩ := Option.bind_eq_some_iff.1 h
    obtain rfl := Option.some.inj hrules
    exact Keyed.sorted_ofPairs pairs
  | _ => cases h

/-- The rules of a configuration read from the fields of a document are in order. -/
lemma sorted_ofFields? {values : Json.FieldValues} {triage : TriageConfig} (h : ofFields? values = some triage) :
    Keyed.Sorted triage.rules := by
  unfold ofFields? at h
  split at h
  case h_2 => cases h
  case h_1 rules aggregator =>
    obtain ⟨read, hread, hrest⟩ := Option.bind_eq_some_iff.1 h
    obtain ⟨_, -, hmade⟩ := Option.bind_eq_some_iff.1 hrest
    obtain rfl := Option.some.inj hmade
    cases rules with
    | none =>
      obtain rfl := Option.some.inj hread
      exact .nil
    | some d => exact sorted_rulesOf? hread

/-- The rules of a configuration that was read are in order. -/
theorem sorted_ofText {text : String} {triage : TriageConfig} (h : ofText text = .ok triage) :
    Keyed.Sorted triage.rules := by
  rw [ofText] at h
  split at h
  case h_2 => cases h
  case h_1 config hconfig =>
    obtain rfl := Except.ok.inj h
    obtain ⟨values, -, hvalues⟩ := Option.bind_eq_some_iff.1 hconfig
    exact sorted_ofFields? hvalues

/-! ## The rules that match -/

/-- Whether a result is the value true; another value and an error are not. -/
def isTrue : Except Halt Value → Bool
  | .ok (.bool b) => b
  | _ => false

/-- The panic that a result is, if it is one. -/
def panic? : Except Halt Value → Option Panic
  | .error (.panic p) => some p
  | _ => none

/-- A rule matches just if its value is true; a number or a text is no match. -/
lemma isTrue_iff (result : Except Halt Value) : isTrue result = true ↔ result = .ok (.bool true) := by
  unfold isTrue
  split
  case h_1 b => cases b <;> simp
  case h_2 h =>
    refine ⟨nofun, ?_⟩
    rintro rfl
    exact absurd rfl (h true)

/-- Scoring breaks off at a rule just if the evaluation of that rule does. -/
lemma panic?_eq_some {result : Except Halt Value} {p : Panic} : panic? result = some p ↔ result = .error (.panic p) := by
  unfold panic?
  split
  case h_1 q => simp
  case h_2 h =>
    refine ⟨nofun, ?_⟩
    rintro rfl
    exact absurd rfl (h p)

/-- A rule lets scoring go on just if its evaluation ends in a value or an error. -/
lemma panic?_eq_none {result : Except Halt Value} : panic? result = none ↔ ∀ p, result ≠ .error (.panic p) := by
  rw [Option.eq_none_iff_forall_ne_some]
  exact forall_congr' fun p => not_congr panic?_eq_some

/-- A rule holds just if its value is true. Null is false, and all else no match; only a panic is handed on. -/
lemma holds_eq (rule : String) (vars : Resolver) (e : Engine) :
    holds rule vars e =
      ((panic? (Engine.evaluate rule vars e).1).elim (.ok (isTrue (Engine.evaluate rule vars e).1)) .error,
        (Engine.runPredicate rule vars e).2) := by
  have hresult : (Engine.runPredicate rule vars e).1 =
      (Engine.evaluate rule vars e).1 >>= fun v => liftM v.predicate := Run.bind_result _ _ e
  generalize (Engine.evaluate rule vars e).1 = value at hresult
  cases hp : Engine.runPredicate rule vars e with
  | mk result next =>
    rw [hp] at hresult
    obtain rfl : result = _ := hresult
    have hrun : (ExceptT.lift (Engine.runPredicate rule vars).run : ExceptT Panic (StateM Engine) _) e =
        (.ok (value >>= fun v => liftM v.predicate), next) :=
      congrArg (fun q : Except Halt Bool × Engine => ((.ok q.1 : Except Panic (Except Halt Bool)), q.2)) hp
    rw [holds]
    refine (Run.bind_ok hrun).trans ?_
    cases value with
    | error halt => cases halt <;> rfl
    | ok v => cases v <;> rfl

/-- After a rule the others are found on the engine that its evaluation leaves, unless that broke off. -/
lemma matching_cons (rule : String × Float) (rules : List (String × Float)) (e : Engine) :
    (matching vars (rule :: rules) e).1 =
      (panic? (Engine.evaluate rule.1 vars e).1).elim
        ((matching vars rules (Engine.runPredicate rule.1 vars e).2).1.map fun others =>
          if isTrue (Engine.evaluate rule.1 vars e).1 = true then rule :: others else others) .error := by
  have hholds := holds_eq rule.1 vars e
  cases hpanic : panic? (Engine.evaluate rule.1 vars e).1 with
  | some p =>
    rw [hpanic] at hholds
    rw [matching, Run.bind_error hholds]
    rfl
  | none =>
    rw [hpanic] at hholds
    rw [matching, Run.bind_ok hholds]
    cases isTrue (Engine.evaluate rule.1 vars e).1 with
    | true => exact Run.bind_result _ _ _
    | false =>
      show (matching vars rules (Engine.runPredicate rule.1 vars e).2).1 =
        (matching vars rules (Engine.runPredicate rule.1 vars e).2).1.map fun others => others
      cases (matching vars rules (Engine.runPredicate rule.1 vars e).2).1 <;> rfl

/-- The rules that match are those whose meaning is true, unless that of a rule is to break off: then the first such
rule does. -/
lemma matching_result (h : Engine.Means context A depth e) (rules : List (String × Float)) :
    (matching vars rules e).1 =
      (rules.findSome? fun rule => panic? (Engine.meaning A depth rule.1 vars)).elim
        (.ok (rules.filter fun rule => isTrue (Engine.meaning A depth rule.1 vars))) .error := by
  induction rules generalizing e with
  | nil => rfl
  | cons rule rules ih =>
    -- Whatever became of the rule, sources mean on the engine that it leaves what they meant before.
    have hquiet : (Operation.runPredicate rule.1 vars).Quiet := ⟨rfl, rfl⟩
    have hnext : Engine.Means context A depth (Engine.runPredicate rule.1 vars e).2 :=
      h.performAll (List.forall_mem_singleton.2 hquiet)
    rw [matching_cons, List.findSome?_cons, List.filter_cons, h.evaluate_result, ih hnext]
    cases panic? (Engine.meaning A depth rule.1 vars) with
    | some p => rfl
    | none =>
      cases rules.findSome? fun rule => panic? (Engine.meaning A depth rule.1 vars) with
      | some p => rfl
      | none => rfl

/-- The score of an event for which certain rules match. -/
def scored (triage : TriageConfig) (matched : List (String × Float)) : ThreatScore :=
  ⟨triage.aggregator.aggregate (matched.map (·.2)), triage.aggregator, matched⟩

/-- The rules of the score are those that are true. -/
lemma mem_scored {triage : TriageConfig} {rule : String × Float} :
    rule ∈ (triage.scored (triage.rules.filter fun rule => isTrue (Engine.meaning A depth rule.1 vars))).matched ↔
      rule ∈ triage.rules ∧ isTrue (Engine.meaning A depth rule.1 vars) = true :=
  List.mem_filter

/-- The score is made of the rules that match. -/
lemma score_result (triage : TriageConfig) (vars : Resolver) (e : Engine) :
    (triage.score vars e).1 = (matching vars triage.rules e).1.map triage.scored :=
  Run.bind_result _ _ e

/-- There is a score just if no rule breaks off, and then the rules that match are those whose meaning is true. -/
lemma score_eq_ok (h : Engine.Means context A depth e) (triage : TriageConfig) (found : ThreatScore) :
    (triage.score vars e).1 = .ok found ↔
      (∀ rule ∈ triage.rules, ∀ p, Engine.meaning A depth rule.1 vars ≠ .error (.panic p)) ∧
      found = triage.scored (triage.rules.filter fun rule => isTrue (Engine.meaning A depth rule.1 vars)) := by
  have hnone : (triage.rules.findSome? fun rule => panic? (Engine.meaning A depth rule.1 vars)) = none ↔
      ∀ rule ∈ triage.rules, ∀ p, Engine.meaning A depth rule.1 vars ≠ .error (.panic p) := by
    rw [List.findSome?_eq_none_iff]
    exact forall₂_congr fun rule _ => panic?_eq_none
  rw [score_result, map_eq_ok, matching_result h, ← hnone]
  cases triage.rules.findSome? fun rule => panic? (Engine.meaning A depth rule.1 vars) with
  | some p => exact ⟨nofun, nofun⟩
  | none =>
    constructor
    · rintro ⟨_, ⟨⟩, rfl⟩
      exact ⟨rfl, rfl⟩
    · rintro ⟨-, rfl⟩
      exact ⟨_, rfl, rfl⟩

/-- Scoring breaks off just if the evaluation of some rule does, and at the first such rule. -/
lemma score_eq_error (h : Engine.Means context A depth e) (triage : TriageConfig) (p : Panic) :
    (triage.score vars e).1 = .error p ↔
      ∃ before rule after, triage.rules = before ++ rule :: after ∧
        Engine.meaning A depth rule.1 vars = .error (.panic p) ∧
        ∀ earlier ∈ before, ∀ q, Engine.meaning A depth earlier.1 vars ≠ .error (.panic q) := by
  have hfirst : (triage.rules.findSome? fun rule => panic? (Engine.meaning A depth rule.1 vars)) = some p ↔
      ∃ before rule after, triage.rules = before ++ rule :: after ∧
        Engine.meaning A depth rule.1 vars = .error (.panic p) ∧
        ∀ earlier ∈ before, ∀ q, Engine.meaning A depth earlier.1 vars ≠ .error (.panic q) := by
    rw [List.findSome?_eq_some_iff]
    simp only [panic?_eq_some, panic?_eq_none]
  rw [score_result, map_eq_error, matching_result h, ← hfirst]
  cases triage.rules.findSome? fun rule => panic? (Engine.meaning A depth rule.1 vars) with
  | some q => exact ⟨fun h => congrArg some (Except.error.inj h), fun h => congrArg Except.error (Option.some.inj h)⟩
  | none => exact ⟨nofun, nofun⟩

/-- Rules do not depend on each other. Take an engine over pure functions that was used in any way and given
other pure functions. There is a score unless the evaluation of some rule, parsed anew, breaks off there; the
first that does breaks the scoring off. A rule matches just if its source, parsed anew, has the value true,
whatever goes wrong with it otherwise. The rules that match come in the order of their bytes with their own
scores, which the aggregator combines in that order. In another configuration that has a score, too, a rule
matches just if it does in this one, whatever the other rules are and even if the engine was used for more
evaluations before. -/
theorem score_independent {config : EngineConfig} (hcapacity : 1 ≤ config.cacheCapacity)
    (hdepth : 1 ≤ config.maxDepth) (context : Context) {builtins : List Builtin}
    (hbuiltins : ∀ b ∈ builtins, b.function.Pure context) {ops : List Operation}
    (hops : ∀ op ∈ ops, op.Hands (Function.Pure context)) (vars : Resolver) {triage : TriageConfig}
    (hrules : Keyed.Sorted triage.rules) :
    ∃ e₀, Engine.create config (builtins.foldl Registry.addBuiltin { context }) = .ok e₀ ∧
      let e := e₀.performAll ops
      let breaksOff (rule : String) (p : Panic) : Prop := (Engine.evaluateAfresh rule vars e).1 = .error (.panic p)
      let result := (triage.score vars e).1
      ((∃ found, result = .ok found) ↔ ∀ rule score, (rule, score) ∈ triage.rules → ∀ p, ¬ breaksOff rule p) ∧
      (∀ p, result = .error p ↔ ∃ before rule score after, triage.rules = before ++ (rule, score) :: after ∧
        breaksOff rule p ∧ ∀ earlier ∈ before, ∀ q, ¬ breaksOff earlier.1 q) ∧
      ∀ found, result = .ok found →
        (∀ rule score, (rule, score) ∈ found.matched ↔
          (rule, score) ∈ triage.rules ∧ (Engine.evaluateAfresh rule vars e).1 = .ok (.bool true)) ∧
        found.matched.Pairwise (fun p q => Text.bytes p.1 < Text.bytes q.1) ∧
        found.score = triage.aggregator.aggregate (found.matched.map (·.2)) ∧
        found.aggregator = triage.aggregator ∧
        ∀ (other : TriageConfig) (between : List Operation), (∀ op ∈ between, op.Quiet) →
          ∀ found', (other.score vars (e.performAll between)).1 = .ok found' →
            ∀ rule score score', (rule, score) ∈ triage.rules → (rule, score') ∈ other.rules →
              ((rule, score) ∈ found.matched ↔ (rule, score') ∈ found'.matched) := by
  obtain ⟨e₀, he₀, A, hmeans⟩ := Engine.means_performAll hcapacity hdepth context hbuiltins hops
  refine ⟨e₀, he₀, ?_⟩
  generalize e₀.performAll ops = e at hmeans ⊢
  simp only [hmeans.evaluateAfresh_result]
  refine ⟨⟨?_, fun hnone => ?_⟩, fun p => ?_, fun found hfound => ?_⟩
  · rintro ⟨found, hfound⟩ rule score hmem
    exact ((score_eq_ok hmeans triage found).1 hfound).1 (rule, score) hmem
  · exact ⟨_, (score_eq_ok hmeans triage _).2 ⟨fun rule hmem => hnone rule.1 rule.2 hmem, rfl⟩⟩
  · simp only [score_eq_error hmeans, Prod.exists]
  · obtain rfl := ((score_eq_ok hmeans triage found).1 hfound).2
    refine ⟨fun rule score => ?_, ?_, rfl, rfl,
      fun other between hbetween found' hfound' rule score score' hrule hother => ?_⟩
    · rw [mem_scored, isTrue_iff]
    · exact (List.Pairwise.imp Text.bytes_lt hrules).filter _
    · obtain rfl := ((score_eq_ok (hmeans.performAll hbetween) other found').1 hfound').2
      rw [mem_scored, mem_scored]
      exact ⟨fun h => ⟨hother, h.2⟩, fun h => ⟨hrule, h.2⟩⟩

/-- With room for one expression, rules that do not lex, do not parse, call an unknown function or are no
predicates do not keep another from matching, nor does a rule that fails instead of one of them. -/
theorem score_independent_failing :
    let config : EngineConfig := { cacheCapacity := 1, maxDepth := 5 }
    let ops : List Operation := [
      .register { name := "FIRST" } (.ofArgs fun args => .ok (args.headD .null)), .parse "FIRST(b)",
      .validate "a +"]
    let vars := Resolver.ofEntries [("a", .int 2), ("b", .bool true)]
    let triage : TriageConfig := {
      rules := [("'", 7.0), ("FIRST(b)", 20.0), ("NO_SUCH(a)", 3.0), ("a +", 1.0), ("a + 1", 5.0)], aggregator := .sum }
    let other : TriageConfig := { rules := [("FIRST('b)", 4.0), ("FIRST(b)", 10.0), ("a + 'x'", 1.0)] }
    1 ≤ config.cacheCapacity ∧ 1 ≤ config.maxDepth ∧ (∀ b ∈ catalog, b.function.Pure {}) ∧
      (∀ op ∈ ops, op.Hands (Function.Pure {})) ∧ Keyed.Sorted triage.rules ∧
      ∃ e₀, Engine.create config (Registry.ofCatalog {}) = .ok e₀ ∧
        let e := e₀.performAll ops
        ∃ found found', (triage.score vars e).1 = .ok found ∧
          (other.score vars (e.performAll [.score triage vars])).1 = .ok found' ∧
          ("FIRST(b)", 20.0) ∈ found.matched ∧ ("a + 1", 5.0) ∉ found.matched ∧ ("FIRST(b)", 10.0) ∈ found'.matched := by
  intro config ops vars triage other
  have hcapacity : 1 ≤ config.cacheCapacity := by decide
  have hdepth : 1 ≤ config.maxDepth := by decide
  have hcatalog : ∀ b ∈ catalog, b.function.Pure {} := catalog_pure nofun
  have hops : ∀ op ∈ ops, op.Hands (Function.Pure {}) := by
    refine List.forall_mem_cons.2 ⟨?_, List.forall_mem_cons.2 ⟨nofun, List.forall_mem_singleton.2 nofun⟩⟩
    rintro _ ⟨⟩
    exact Function.pure_head _
  have hsorted : Keyed.Sorted triage.rules := by
    show List.Pairwise _ _
    decide +kernel
  obtain ⟨e₀, he₀, -, -, hscored⟩ := score_independent hcapacity hdepth {} hcatalog hops vars hsorted
  have hcreate : Engine.create config (Registry.ofCatalog {}) =
      .ok ⟨config, Registry.ofCatalog {}, ⟨1, [], 0, {}, by decide⟩⟩ := rfl
  have hfirst : isTrue (Engine.evaluateAfresh "FIRST(b)" vars (e₀.performAll ops)).1 = true := by
    obtain rfl := Except.ok.inj (he₀.symm.trans hcreate)
    decide +kernel
  have hsum : isTrue (Engine.evaluateAfresh "a + 1" vars (e₀.performAll ops)).1 = false := by
    obtain rfl := Except.ok.inj (he₀.symm.trans hcreate)
    decide +kernel
  -- What the scores are is not computed here, but that there are some.
  have hsome : ((triage.score vars (e₀.performAll ops)).1.map fun _ => ()) = .ok () := by
    obtain rfl := Except.ok.inj (he₀.symm.trans hcreate)
    decide +kernel
  have hsome' : ((other.score vars ((e₀.performAll ops).performAll [.score triage vars])).1.map fun _ => ()) = .ok () := by
    obtain rfl := Except.ok.inj (he₀.symm.trans hcreate)
    decide +kernel
  obtain ⟨found, hfound, -⟩ := map_eq_ok.1 hsome
  obtain ⟨found', hfound', -⟩ := map_eq_ok.1 hsome'
  obtain ⟨hmatched, -, -, -, hother⟩ := hscored found hfound
  have hrule : ("FIRST(b)", 20.0) ∈ triage.rules := List.mem_cons_of_mem _ List.mem_cons_self
  have hin : ("FIRST(b)", 20.0) ∈ found.matched := (hmatched _ _).2 ⟨hrule, (isTrue_iff _).1 hfirst⟩
  refine ⟨hcapacity, hdepth, hcatalog, hops, hsorted, e₀, he₀, found, found', hfound, hfound', hin, fun hmem => ?_, ?_⟩
  · rw [(isTrue_iff _).2 ((hmatched _ _).1 hmem).2] at hsum
    cases hsum
  · have hquiet : (Operation.score triage vars).Quiet := ⟨rfl, rfl⟩
    refine (hother other _ (List.forall_mem_singleton.2 hquiet) found' hfound' _ _ _ hrule ?_).1 hin
    exact List.mem_cons_of_mem _ List.mem_cons_self

/-- The second rule is true on every event, but the first breaks the scoring off. -/
theorem score_independent_broken :
    let triage : TriageConfig := { rules := [("m['é]x']", 1.0), ("true", 2.0)] }
    ∃ e₀, Engine.create {} (Registry.ofCatalog {}) = .ok e₀ ∧
      (Engine.evaluateAfresh "true" .empty e₀).1 = .ok (.bool true) ∧
      (triage.score .empty e₀).1 = .error (.brokenKey "'é") := by
  intro triage
  let e₀ : Engine := ⟨{}, Registry.ofCatalog {}, ⟨1000, [], 0, {}, by decide⟩⟩
  have htrue : isTrue (Engine.evaluateAfresh "true" .empty e₀).1 = true := by decide +kernel
  have hscore : ((triage.score .empty e₀).1.map fun _ => ()) = .error (.brokenKey "'é") := by decide +kernel
  exact ⟨e₀, rfl, (isTrue_iff _).1 htrue, map_eq_error.1 hscore⟩

end EventRules.TriageConfig
