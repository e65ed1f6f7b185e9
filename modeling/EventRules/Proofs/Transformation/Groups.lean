import EventRules.Proofs.Transformation.Append

/-!
# Groups of an enrichment

On an engine over pure functions the groups of an enrichment have no say in each other's outputs: each is
evaluated as if it stood alone, on the event as it came. What the event is afterwards follows from the
outputs of the groups, of which the last one to assign a field counts. So the order of groups that share no
field does not matter, and a group that fails leaves the event as it was.
-/

namespace EventRules

namespace Transformation

variable {context : Context} {A : Meanings} {depth : Nat} {base : Resolver} {e e' : Engine}

/-- The fields that are assigned. -/
def fields (t : Transformation) : List String :=
  t.assignments.map (·.1)

/-- Engines with the same answers compute the same values. -/
lemma compute_same (h : Engine.Means context A depth e) (h' : Engine.Means context A depth e') (computed : Entries)
    (assignments : List (String × String)) :
    (compute base computed assignments e).1 = (compute base computed assignments e').1 := by
  induction assignments generalizing computed e e' with
  | nil => rfl
  | cons assignment assignments ih =>
    obtain ⟨field, source⟩ := assignment
    -- Both engines have the meaning of the source as its value, and go on as such engines.
    rw [compute, Run.bind_result, Run.bind_result, h.evaluate_result, h'.evaluate_result]
    cases Engine.meaning A depth source (Resolver.layered computed base) with
    | error err => rfl
    | ok v => exact ih (h.evaluate_next source _) (h'.evaluate_next source _) _

/-- On engines with one meaning the outputs of a transformation are the same. -/
lemma evaluate_same (h : Engine.Means context A depth e) (h' : Engine.Means context A depth e') (t : Transformation) :
    (t.evaluate base e).1 = (t.evaluate base e').1 := by
  obtain ⟨assignments⟩ := t
  rw [evaluate_result, evaluate_result, compute_same h h']

/-- The evaluation of a transformation leaves the meaning of sources. -/
lemma evaluate_next (h : Engine.Means context A depth e) (t : Transformation) (base : Resolver) :
    Engine.Means context A depth (t.evaluate base e).2 :=
  (Engine.Means.sequential context A depth).transformation
    (fun a _ vars _ he => he.evaluate_next a.2 vars) e h

/-- There is one output for every assigned field. -/
lemma outputs_of_evaluate {t : Transformation} {outputs : List (String × Value)}
    (h : (t.evaluate base e).1 = .ok outputs) :
    ∃ value : String → Value, outputs = t.fields.eraseDups.map fun field => (field, value field) := by
  obtain ⟨assignments⟩ := t
  rw [evaluate_result, bind_eq_ok] at h
  obtain ⟨computed, -, houtputs⟩ := h
  exact ⟨_, (Except.ok.inj houtputs).symm⟩

/-- An output is found under a field just if the field is assigned. -/
lemma lookup_eq_none {t : Transformation} {outputs : List (String × Value)} (h : (t.evaluate base e).1 = .ok outputs)
    (key : String) : outputs.lookup key = none ↔ key ∉ t.fields := by
  obtain ⟨value, rfl⟩ := outputs_of_evaluate h
  simp [lookup_outputs]

/-- No field has two outputs, so it does not matter from which end one is looked for. -/
lemma lookup_reverse {t : Transformation} {outputs : List (String × Value)} (h : (t.evaluate base e).1 = .ok outputs)
    (key : String) : outputs.reverse.lookup key = outputs.lookup key := by
  obtain ⟨value, rfl⟩ := outputs_of_evaluate h
  rw [← List.map_reverse, lookup_outputs, lookup_outputs]
  simp only [List.mem_reverse]

end Transformation

namespace EnrichmentConfig

variable {context : Context} {A : Meanings} {depth : Nat} {base : Resolver} {e e' : Engine} {event after : Members}
  {key : String} {groups front back : List (Option String × Transformation)} {c : EnrichmentConfig}

/-- The outputs of a group that is evaluated alone, none if it fails. -/
def alone (base : Resolver) (e : Engine) (group : Option String × Transformation) : List (String × Value) :=
  match (group.2.evaluate base e).1 with
  | .ok outputs => outputs
  | .error _ => []

/-- What a group has alone are its outputs, if it has any. -/
lemma alone_eq {group : Option String × Transformation} {all : List (String × Value)}
    (h : (group.2.evaluate base e).1 = .ok all) : alone base e group = all := by
  rw [alone, h]

/-- All groups succeed just if every group does alone, and then they have the outputs that each has alone. -/
lemma outputs_iff (h : Engine.Means context A depth e) (h' : Engine.Means context A depth e')
    (groups : List (Option String × Transformation)) (all : List (String × Value)) :
    (outputs base groups e').1 = .ok all ↔
      (∀ g ∈ groups, (g.2.evaluate base e).1 = .ok (alone base e g)) ∧ groups.flatMap (alone base e) = all := by
  induction groups generalizing e' all with
  | nil => exact ⟨fun hall => ⟨nofun, Except.ok.inj hall⟩, fun hall => congrArg Except.ok hall.2⟩
  | cons group groups ih =>
    -- The others run on the engine that the first group leaves, where they have the outputs of their own as well.
    have hnext := Transformation.evaluate_next h' group.2 base
    rw [outputs, Run.bind_result, bind_eq_ok, Transformation.evaluate_same h' h, List.forall_mem_cons,
      List.flatMap_cons]
    constructor
    · rintro ⟨first, hfirst, hrest⟩
      rw [Run.bind_result, bind_eq_ok] at hrest
      obtain ⟨others, hothers, ⟨⟩⟩ := hrest
      obtain ⟨hall, rfl⟩ := (ih hnext others).1 hothers
      obtain rfl := alone_eq hfirst
      exact ⟨⟨hfirst, hall⟩, rfl⟩
    · rintro ⟨⟨hfirst, hall⟩, rfl⟩
      refine ⟨_, hfirst, ?_⟩
      rw [Run.bind_result, bind_eq_ok]
      exact ⟨_, (ih hnext _).2 ⟨hall, rfl⟩, rfl⟩

/-- The event with the outputs of all groups, if every group succeeds. -/
lemma apply_iff (h : Engine.Means context A depth e) :
    (c.apply event e).1 = .ok after ↔
      (∀ g ∈ c.groups, (g.2.evaluate (Resolver.ofEvent event) e).1 = .ok (alone (Resolver.ofEvent event) e g)) ∧
        Transformation.write event (c.groups.flatMap (alone (Resolver.ofEvent event) e)) = after := by
  rw [apply, Run.bind_result, bind_eq_ok]
  constructor
  · rintro ⟨all, hall, ⟨⟩⟩
    obtain ⟨hgroups, rfl⟩ := (outputs_iff h h c.groups all).1 hall
    exact ⟨hgroups, rfl⟩
  · rintro ⟨hgroups, rfl⟩
    exact ⟨_, (outputs_iff h h c.groups _).2 ⟨hgroups, rfl⟩, rfl⟩

/-- Of groups that do not assign a field there is no output under it. -/
lemma lookup_flatMap_eq_none (hall : ∀ g ∈ groups, (g.2.evaluate base e).1 = .ok (alone base e g))
    (hkey : ∀ g ∈ groups, key ∉ g.2.fields) : (groups.flatMap (alone base e)).reverse.lookup key = none := by
  induction groups with
  | nil => rfl
  | cons group groups ih =>
    rw [List.forall_mem_cons] at hall hkey
    rw [List.flatMap_cons, List.reverse_append, List.lookup_append, ih hall.2 hkey.2, Option.none_or,
      Transformation.lookup_reverse hall.1, (Transformation.lookup_eq_none hall.1 key).2 hkey.1]

/-- Of groups that assign a field the last one's output is found under it. -/
lemma lookup_flatMap_last {group : Option String × Transformation} {v : Value}
    (hgroup : (group.2.evaluate base e).1 = .ok (alone base e group)) (hv : (alone base e group).lookup key = some v)
    (hall : ∀ g ∈ back, (g.2.evaluate base e).1 = .ok (alone base e g)) (hback : ∀ g ∈ back, key ∉ g.2.fields) :
    ((front ++ group :: back).flatMap (alone base e)).reverse.lookup key = some v := by
  rw [List.flatMap_append, List.flatMap_cons, List.reverse_append, List.reverse_append, List.append_assoc,
    List.lookup_append, lookup_flatMap_eq_none hall hback, Option.none_or, List.lookup_append,
    Transformation.lookup_reverse hgroup, hv, Option.some_or]

/-- A field that no group assigns is as it was. -/
lemma get?_unassigned (hevent : event.Distinct) (h : Engine.Means context A depth e)
    (hafter : (c.apply event e).1 = .ok after) (hkey : ∀ g ∈ c.groups, key ∉ g.2.fields) :
    after.get? key = event.get? key := by
  obtain ⟨hall, rfl⟩ := (apply_iff h).1 hafter
  rw [Transformation.get?_write_last hevent, lookup_flatMap_eq_none hall hkey]
  rfl

/-- Under a field is what the last group to assign it has for it. -/
lemma get?_assigned (hevent : event.Distinct) (h : Engine.Means context A depth e)
    (hafter : (c.apply event e).1 = .ok after) {group : Option String × Transformation}
    (hsplit : c.groups = front ++ group :: back) (hkey : key ∈ group.2.fields)
    (hback : ∀ g ∈ back, key ∉ g.2.fields) :
    ∃ outputs v, (group.2.evaluate (Resolver.ofEvent event) e).1 = .ok outputs ∧ outputs.lookup key = some v ∧
      after.get? key = Transformation.stored v := by
  obtain ⟨hall, rfl⟩ := (apply_iff h).1 hafter
  rw [hsplit, List.forall_mem_append, List.forall_mem_cons] at hall
  obtain ⟨-, hgroup, hall⟩ := hall
  obtain ⟨v, hv⟩ := Option.ne_none_iff_exists'.1 fun hnone => (Transformation.lookup_eq_none hgroup key).1 hnone hkey
  refine ⟨_, v, hgroup, hv, ?_⟩
  rw [Transformation.get?_write_last hevent, hsplit, lookup_flatMap_last hgroup hv hall hback]
  rfl

/-- An enrichment makes no key come twice. -/
lemma distinct_apply (hevent : event.Distinct) (h : Engine.Means context A depth e)
    (hafter : (c.apply event e).1 = .ok after) : after.Distinct := by
  obtain ⟨-, rfl⟩ := (apply_iff h).1 hafter
  exact Transformation.distinct_write hevent _

/-! ## The order of groups -/

/-- Two groups that assign no field both. -/
def Apart (g g' : Option String × Transformation) : Prop :=
  ∀ field ∈ g.2.fields, field ∉ g'.2.fields

/-- To stand apart is mutual. -/
lemma Apart.symm {g g' : Option String × Transformation} (h : Apart g g') : Apart g' g :=
  fun field hfield' hfield => h field hfield hfield'

/-- Of groups that share no field the one that assigns a field is the last to do so. -/
lemma exists_last (h : groups.Pairwise Apart) {group : Option String × Transformation} (hgroup : group ∈ groups)
    (hkey : key ∈ group.2.fields) :
    ∃ front back, groups = front ++ group :: back ∧ ∀ g ∈ back, key ∉ g.2.fields := by
  obtain ⟨front, back, rfl⟩ := List.append_of_mem hgroup
  have hback := (List.pairwise_cons.1 (List.pairwise_append.1 h).2.1).1
  exact ⟨front, back, rfl, fun g hg => hback g hg key hkey⟩

/-- Groups that share no field give the same event in any order. -/
lemma apply_perm (hevent : event.Distinct) (h : Engine.Means context A depth e) (hapart : c.groups.Pairwise Apart)
    (hperm : c.groups.Perm groups) {after' : Members} (hafter : (c.apply event e).1 = .ok after)
    (hafter' : ((mk groups).apply event e).1 = .ok after') : after.Perm after' := by
  refine Members.perm_of_get? (distinct_apply hevent h hafter) (distinct_apply hevent h hafter') fun key => ?_
  have hapart' : groups.Pairwise Apart := (hperm.pairwise_iff Apart.symm).1 hapart
  by_cases hassigned : ∃ g ∈ c.groups, key ∈ g.2.fields
  · -- The same group assigns the field in either order, and has the same output for it.
    obtain ⟨group, hgroup, hkey⟩ := hassigned
    obtain ⟨front, back, hsplit, hback⟩ := exists_last hapart hgroup hkey
    obtain ⟨front', back', hsplit', hback'⟩ := exists_last hapart' (hperm.mem_iff.1 hgroup) hkey
    obtain ⟨outputs, v, heval, hv, hget⟩ := get?_assigned hevent h hafter hsplit hkey hback
    obtain ⟨outputs', v', heval', hv', hget'⟩ := get?_assigned hevent h hafter' hsplit' hkey hback'
    obtain rfl := Except.ok.inj (heval.symm.trans heval')
    obtain rfl := Option.some.inj (hv.symm.trans hv')
    rw [hget, hget']
  · push Not at hassigned
    rw [get?_unassigned hevent h hafter hassigned,
      get?_unassigned hevent h hafter' fun g hg => hassigned g (hperm.mem_iff.2 hg)]

/-- All groups succeed just if each one does alone. -/
lemma apply_succeeds (h : Engine.Means context A depth e) :
    (∃ after, (c.apply event e).1 = .ok after) ↔
      ∀ g ∈ c.groups, ∃ outputs, (g.2.evaluate (Resolver.ofEvent event) e).1 = .ok outputs := by
  constructor
  · rintro ⟨after, hafter⟩ g hg
    exact ⟨_, ((apply_iff h).1 hafter).1 g hg⟩
  · intro hall
    refine ⟨_, (apply_iff h).2 ⟨fun g hg => ?_, rfl⟩⟩
    obtain ⟨outputs, houtputs⟩ := hall g hg
    rw [alone_eq houtputs, houtputs]

/-! ## Enrichment in place -/

/-- Does to the engine what a computation does, and leaves the event. -/
def onEngine {α : Type} (run : Evaluation Engine α) : Evaluation (Engine × Members) α := fun (e, event) =>
  let (result, e) := run e
  (result, (e, event))

/-- Writes outputs to the event, one after the other. -/
def writeBack : List (String × Value) → Evaluation (Engine × Members) Unit
  | [] => return
  | output :: rest => do
    modify fun (e, event) => (e, Transformation.writeField event output)
    writeBack rest

/-- Changes the event: all groups are evaluated on it, and then the outputs are written back. -/
def applyInPlace (c : EnrichmentConfig) : Evaluation (Engine × Members) Unit := do
  let event := (← get).2
  writeBack (← onEngine (outputs (Resolver.ofEvent event) c.groups))

/-- To write the outputs back changes the event as writing them to a copy does, and leaves the engine. -/
lemma writeBack_eq (outputs : List (String × Value)) (e : Engine) (event : Members) :
    writeBack outputs (e, event) = (.ok (), (e, Transformation.write event outputs)) := by
  induction outputs generalizing event with
  | nil => rfl
  | cons output outputs ih => exact ih (Transformation.writeField event output)

/-- In place the event becomes the one that is made otherwise, and stays as it is if a group fails. -/
theorem applyInPlace_eq (c : EnrichmentConfig) (e : Engine) (event : Members) :
    c.applyInPlace (e, event) =
      match c.apply event e with
      | (.ok after, e) => (.ok (), (e, after))
      | (.error err, e) => (.error err, (e, event)) := by
  have hget : (get : Evaluation (Engine × Members) (Engine × Members)) (e, event) = (.ok (e, event), (e, event)) := rfl
  rw [applyInPlace, Run.bind_ok hget, apply]
  cases ho : outputs (Resolver.ofEvent event) c.groups e with
  | mk result next =>
    have hon : onEngine (outputs (Resolver.ofEvent event) c.groups) (e, event) = (result, (next, event)) := by
      rw [onEngine, ho]
    cases result with
    | ok all =>
      rw [Run.bind_ok ho, Run.bind_ok hon, writeBack_eq]
      rfl
    | error err => rw [Run.bind_error ho, Run.bind_error hon]

/-! ## Independence -/

/-- On an engine the groups of an enrichment of an event do not depend on each other. -/
structure Independent (e : Engine) (c : EnrichmentConfig) (event : Members) : Prop where
  /-- A group has the same outputs or the same error after any evaluations. -/
  evaluate_same : ∀ between : List Operation, (∀ op ∈ between, op.Quiet) → ∀ g ∈ c.groups,
    (g.2.evaluate (Resolver.ofEvent event) (e.performAll between)).1 = (g.2.evaluate (Resolver.ofEvent event) e).1
  /-- The enrichment succeeds just if every group does that is evaluated alone on the event. -/
  succeeds : (∃ after, (c.apply event e).1 = .ok after) ↔
    ∀ g ∈ c.groups, ∃ outputs, (g.2.evaluate (Resolver.ofEvent event) e).1 = .ok outputs
  /-- What each group has alone is written to the event in the order of the groups, and no key comes twice. -/
  written : ∀ after, (c.apply event e).1 = .ok after →
    after = Transformation.write event (c.groups.flatMap (alone (Resolver.ofEvent event) e)) ∧ after.Distinct
  /-- A field that no group assigns is as it was. -/
  unassigned : ∀ after, (c.apply event e).1 = .ok after → ∀ key, (∀ g ∈ c.groups, key ∉ g.2.fields) →
    after.get? key = event.get? key
  /-- Under a field is what the last group to assign it has for it alone, and nothing if that is null. -/
  assigned : ∀ after, (c.apply event e).1 = .ok after → ∀ front group back, c.groups = front ++ group :: back →
    ∀ key ∈ group.2.fields, (∀ g ∈ back, key ∉ g.2.fields) →
      ∃ outputs v, (group.2.evaluate (Resolver.ofEvent event) e).1 = .ok outputs ∧ outputs.lookup key = some v ∧
        after.get? key = Transformation.stored v
  /-- If no two groups assign the same field, their order matters neither to success nor to the members. -/
  reordered : c.groups.Pairwise Apart → ∀ groups, c.groups.Perm groups →
    ((∃ after, (c.apply event e).1 = .ok after) ↔ ∃ after, ((mk groups).apply event e).1 = .ok after) ∧
      ∀ after after', (c.apply event e).1 = .ok after → ((mk groups).apply event e).1 = .ok after' →
        after.Perm after'
  /-- In place the event becomes the one that is made. -/
  inPlace_ok : ∀ after, (c.apply event e).1 = .ok after →
    (c.applyInPlace (e, event)).1 = .ok () ∧ (c.applyInPlace (e, event)).2.2 = after
  /-- An enrichment that fails leaves the event as it was, the order of its members included. -/
  inPlace_error : ∀ err, (c.apply event e).1 = .error err →
    (c.applyInPlace (e, event)).1 = .error err ∧ (c.applyInPlace (e, event)).2.2 = event

/-- Groups are independent on every engine whose sources have a fixed meaning. -/
lemma independent_of_means (hevent : event.Distinct) (h : Engine.Means context A depth e) (c : EnrichmentConfig) :
    c.Independent e event where
  evaluate_same _ hquiet g _ := Transformation.evaluate_same (h.performAll hquiet) h g.2
  succeeds := apply_succeeds h
  written _ hafter := ⟨((apply_iff h).1 hafter).2.symm, distinct_apply hevent h hafter⟩
  unassigned _ hafter _ hkey := get?_unassigned hevent h hafter hkey
  assigned _ hafter _ _ _ hsplit _ hkey hback := get?_assigned hevent h hafter hsplit hkey hback
  reordered hapart groups hperm := by
    refine ⟨?_, fun after after' hafter hafter' => apply_perm hevent h hapart hperm hafter hafter'⟩
    simp only [apply_succeeds h, hperm.mem_iff]
  inPlace_ok after hafter := by
    rw [applyInPlace_eq]
    generalize c.apply event e = done at hafter
    obtain ⟨result, next⟩ := done
    obtain rfl : result = .ok after := hafter
    exact ⟨rfl, rfl⟩
  inPlace_error err hfailed := by
    rw [applyInPlace_eq]
    generalize c.apply event e = done at hfailed
    obtain ⟨result, next⟩ := done
    obtain rfl : result = .error err := hfailed
    exact ⟨rfl, rfl⟩

/-- Groups do not depend on each other. Take an engine over pure functions that was used in any way and given
other pure functions: there the groups of every enrichment are independent for every event. -/
theorem apply_independent {config : EngineConfig} (hcapacity : 1 ≤ config.cacheCapacity)
    (hdepth : 1 ≤ config.maxDepth) (context : Context) {builtins : List Builtin}
    (hbuiltins : ∀ b ∈ builtins, b.function.Pure context) {ops : List Operation}
    (hops : ∀ op ∈ ops, op.Hands (Function.Pure context)) (c : EnrichmentConfig) {event : Members}
    (hevent : event.Distinct) :
    ∃ e₀, Engine.create config (builtins.foldl Registry.addBuiltin { context }) = .ok e₀ ∧
      c.Independent (e₀.performAll ops) event := by
  obtain ⟨e₀, he₀, A, hmeans⟩ := Engine.means_performAll hcapacity hdepth context hbuiltins hops
  exact ⟨e₀, he₀, independent_of_means hevent hmeans c⟩

/-- Two groups assign a field. The second sees the event as it came, from which the first removes a member,
and has the last word on the field. -/
theorem apply_independent_shared :
    let config : EngineConfig := { cacheCapacity := 1, maxDepth := 5 }
    let ops : List Operation := [
      .register { name := "FIRST" } (.ofArgs fun args => .ok (args.headD .null)), .parse "FIRST(b)"]
    let first : Transformation := ⟨[("a", "null"), ("b", "a"), ("c", "FIRST(b)")]⟩
    let second : Transformation := ⟨[("b", "FIRST(exists(a))"), ("d", "b")]⟩
    let event : Members := [("a", .integer 1), ("b", .integer 2), ("e", .string "f")]
    1 ≤ config.cacheCapacity ∧ 1 ≤ config.maxDepth ∧ (∀ b ∈ catalog, b.function.Pure {}) ∧
      (∀ op ∈ ops, op.Hands (Function.Pure {})) ∧ event.Distinct ∧
      ∃ e₀, Engine.create config (Registry.ofCatalog {}) = .ok e₀ ∧
        ∃ after, ((mk [(some "first", first), (some "second", second)]).apply event (e₀.performAll ops)).1 = .ok after ∧
          after.get? "e" = some (.string "f") ∧
          ∃ outputs v, (second.evaluate (Resolver.ofEvent event) (e₀.performAll ops)).1 = .ok outputs ∧
            outputs.lookup "b" = some v ∧ after.get? "b" = Transformation.stored v := by
  intro config ops first second event
  have hcapacity : 1 ≤ config.cacheCapacity := by decide
  have hdepth : 1 ≤ config.maxDepth := by decide
  have hcatalog : ∀ b ∈ catalog, b.function.Pure {} := catalog_pure nofun
  have hops : ∀ op ∈ ops, op.Hands (Function.Pure {}) := by
    refine List.forall_mem_cons.2 ⟨?_, List.forall_mem_singleton.2 nofun⟩
    rintro _ ⟨⟩
    exact Function.pure_head _
  have hevent : event.Distinct := by decide
  obtain ⟨e₀, he₀, hindependent⟩ := apply_independent hcapacity hdepth {} hcatalog hops
    (mk [(some "first", first), (some "second", second)]) hevent
  have hcreate : Engine.create config (Registry.ofCatalog {}) =
      .ok ⟨config, Registry.ofCatalog {}, ⟨1, [], 0, {}, by decide⟩⟩ := rfl
  have hok : ∀ t ∈ [first, second], (t.evaluate (Resolver.ofEvent event) (e₀.performAll ops)).1.isOk = true := by
    obtain rfl := Except.ok.inj (he₀.symm.trans hcreate)
    decide +kernel
  -- Both groups succeed alone, so that the enrichment does.
  obtain ⟨after, hafter⟩ := hindependent.succeeds.2 fun g hg => by
    have hg : (g.2.evaluate (Resolver.ofEvent event) (e₀.performAll ops)).1.isOk = true :=
      hok g.2 (List.mem_map_of_mem hg)
    generalize (g.2.evaluate (Resolver.ofEvent event) (e₀.performAll ops)).1 = result at hg
    cases result with
    | ok outputs => exact ⟨outputs, rfl⟩
    | error err => cases hg
  refine ⟨hcapacity, hdepth, hcatalog, hops, hevent, e₀, he₀, after, hafter, ?_, ?_⟩
  · exact hindependent.unassigned after hafter "e" (by decide)
  · exact hindependent.assigned after hafter [(some "first", first)] _ [] rfl "b" (by decide) nofun

end EnrichmentConfig

end EventRules
