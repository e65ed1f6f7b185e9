import EventRules.Proofs.Engine.Meaning
import EventRules.Proofs.Transformation.Write

/-!
# Transformations in two parts

On an engine over pure functions a transformation may be split anywhere. The second part does not see
whether the values of the first are laid over the event or were written to it: a null that is laid over
a field hides it as removing the field does, and any other value is read from an event as it was
written, unless it has a float in it that is infinite or NaN.
-/

namespace EventRules.Transformation

variable {context : Context} {A : Meanings} {depth : Nat} {event : Members} {base : Resolver}
  {below whole upper : Entries} {fields : List String} {first second : List (String × String)}
  {p : Engine × Engine}

/-- The outputs of assignments, given what was computed. -/
def outputs (computed : Entries) (fields : List String) : List (String × Value) :=
  fields.eraseDups.map fun field => (field, (Keyed.get? computed field).getD .null)

/-! ## Values laid over others -/

/-- Of values computed in two parts, `below` and then `upper`, the later ones count. The fields are those
of the second part, and all values have their maps in order. -/
structure Overlay (below : Entries) (fields : List String) (whole upper : Entries) : Prop where
  get?_eq : ∀ key, Keyed.get? whole key = (Keyed.get? upper key).or (Keyed.get? below key)
  isSome_iff : ∀ key, (Keyed.get? upper key).isSome = true ↔ key ∈ fields
  wellFormed : ∀ key v, Keyed.get? whole key = some v → v.WellFormed

namespace Overlay

/-- At first nothing has been computed. -/
lemma start : Overlay [] [] [] [] :=
  ⟨fun _ => rfl, fun _ => ⟨nofun, nofun⟩, nofun⟩

/-- What was computed goes below the values of a further part. -/
lemma next (h : Overlay [] fields whole upper) : Overlay upper [] whole [] where
  get?_eq key := (h.get?_eq key).trans Option.or_none
  isSome_iff _ := ⟨nofun, nofun⟩
  wellFormed := h.wellFormed

/-- Values that are laid over others hide them, so the two layers are one. -/
lemma layered_eq (h : Overlay below fields whole upper) (base : Resolver) :
    Resolver.layered upper (Resolver.layered below base) = Resolver.layered whole base := by
  funext name
  simp only [Resolver.layered, h.get?_eq]
  cases Keyed.get? upper name <;> rfl

/-- Another value is laid over both layers at once. -/
lemma insert (h : Overlay below fields whole upper) (field : String) {v : Value} (hv : v.WellFormed) :
    Overlay below (fields ++ [field]) (Keyed.insert whole field v) (Keyed.insert upper field v) where
  get?_eq key := by
    rw [Keyed.get?_insert, Keyed.get?_insert, h.get?_eq]
    split <;> rfl
  isSome_iff key := by
    rw [Keyed.get?_insert, List.mem_append, List.mem_singleton, ← h.isSome_iff]
    split
    case isTrue hkey => simp [hkey]
    case isFalse hkey => simp [hkey]
  wellFormed key w hget := by
    rw [Keyed.get?_insert] at hget
    split at hget
    · cases hget
      exact hv
    · exact h.wellFormed key w hget

end Overlay

/-- The second part of a computation does the same on the values of the first and on a resolver that has
them. -/
lemma compute_relates (hp : (Engine.Means.guard context A depth).inv p) (hbase : ∀ name, (base name).WellFormed)
    (h : Overlay below fields whole upper) (assignments : List (String × String)) :
    Run.Relates (Engine.Means.guard context A depth)
      (fun _ => Overlay below (fields ++ assignments.map (·.1))) (fun _ => True)
      (compute base whole assignments) (compute (Resolver.layered below base) upper assignments) p := by
  induction assignments generalizing fields whole upper p with
  | nil =>
    rw [List.map_nil, List.append_nil]
    exact .pure hp h
  | cons assignment assignments ih =>
    obtain ⟨field, source⟩ := assignment
    -- Both evaluate the source on the same variables.
    rw [compute, compute, h.layered_eq]
    refine (Engine.Means.evaluate_relates hp source (Resolver.layered_closed h.wellFormed hbase)).bind ?_
    rintro q v _ hq - ⟨rfl, hv⟩
    rw [List.map_cons, List.append_cons]
    exact ih hq (h.insert field hv)

/-- What is computed in two parts is computed as a whole, with the values of the first part at hand. -/
lemma compute_append (base : Resolver) (computed : Entries) (first second : List (String × String)) :
    compute base computed (first ++ second) = compute base computed first >>= fun c => compute base c second := by
  induction first generalizing computed with
  | nil => rfl
  | cons assignment first ih =>
    obtain ⟨field, source⟩ := assignment
    rw [List.cons_append, compute, compute, bind_assoc]
    exact congrArg _ (funext fun v => ih _)

/-! ## Outputs written to an event -/

/-- Under an assigned field is what is stored for its value, and under all others what was there. -/
lemma get?_write_outputs (h : event.Distinct) (computed : Entries) (fields : List String) (key : String) :
    (write event (outputs computed fields)).get? key =
      if key ∈ fields then stored ((Keyed.get? computed key).getD .null) else event.get? key := by
  rw [outputs, get?_write h fields.eraseDups fun field => (Keyed.get? computed field).getD .null]
  simp only [List.mem_eraseDups]

/-- An event with values written to it has the variables of the event with the values laid over it. -/
lemma ofEvent_write_outputs (hevent : event.Distinct) (h : Overlay [] fields whole upper)
    (hfinite : ∀ output ∈ outputs upper fields, output.2.Finite) :
    Resolver.ofEvent (write event (outputs upper fields)) = Resolver.layered upper (Resolver.ofEvent event) := by
  have hfields (field : String) (hmem : field ∈ fields.eraseDups) :
      ((Keyed.get? upper field).getD .null).WellFormed ∧ ((Keyed.get? upper field).getD .null).Finite := by
    refine ⟨?_, hfinite (field, _) (List.mem_map_of_mem hmem)⟩
    cases hget : Keyed.get? upper field with
    | none => exact .scalar rfl
    | some v => exact h.wellFormed field v (by rw [h.get?_eq, hget]; rfl)
  funext key
  rw [outputs, ofEvent_write hevent fields.eraseDups (fun field => (Keyed.get? upper field).getD .null) hfields,
    Resolver.layered]
  simp only [List.mem_eraseDups, ← h.isSome_iff]
  cases Keyed.get? upper key <;> rfl

/-- Written in two parts, one after the other, or in one, values give the same event. -/
lemma write_perm (hevent : event.Distinct) {fields' : List String} (h : Overlay below fields' whole upper) :
    (write event (outputs whole (fields ++ fields'))).Perm
      (write (write event (outputs below fields)) (outputs upper fields')) := by
  refine Members.perm_of_get? (distinct_write hevent _) (distinct_write (distinct_write hevent _) _) fun key => ?_
  rw [get?_write_outputs hevent, get?_write_outputs (distinct_write hevent _), get?_write_outputs hevent, h.get?_eq]
  by_cases hlater : key ∈ fields'
  · -- A field of the second part was computed in it, and this value counts.
    rw [if_pos (List.mem_append_right _ hlater), if_pos hlater]
    obtain ⟨v, hv⟩ := Option.isSome_iff_exists.1 ((h.isSome_iff key).2 hlater)
    rw [hv, Option.some_or]
  · rw [if_neg hlater]
    have hnone : Keyed.get? upper key = none :=
      Option.not_isSome_iff_eq_none.1 fun hsome => hlater ((h.isSome_iff key).1 hsome)
    rw [hnone, Option.none_or]
    simp only [List.mem_append, hlater, or_false]

/-! ## Applying transformations -/

/-- The outputs come from what is computed, and the engine has no part in them. -/
lemma evaluate_result (assignments : List (String × String)) (base : Resolver) (e : Engine) :
    ((Transformation.mk assignments).evaluate base e).1 = do
      let computed ← (compute base [] assignments e).1
      return outputs computed (assignments.map (·.1)) :=
  Run.bind_result _ _ e

/-- The event that is made comes from what is computed. -/
lemma apply_result (assignments : List (String × String)) (event : Members) (e : Engine) :
    ((Transformation.mk assignments).apply event e).1 = do
      let computed ← (compute (Resolver.ofEvent event) [] assignments e).1
      return write event (outputs computed (assignments.map (·.1))) := by
  rw [apply, Run.bind_result, evaluate_result, bind_assoc]
  rfl

/-- Engines with the same answers make the same event, in one application or in two. -/
lemma apply_append_outcomes {e₁ e₂ e₃ : Engine} (h₁ : Engine.Means context A depth e₁)
    (h₂ : Engine.Means context A depth e₂) (h₃ : Engine.Means context A depth e₃) (hevent : event.Distinct)
    (hfinite : ∀ outputs, ((Transformation.mk first).evaluate (Resolver.ofEvent event) e₂).1 = .ok outputs →
      ∀ output ∈ outputs, output.2.Finite) :
    Outcomes (fun a b : Members => a.Perm b) (fun _ => True) ((Transformation.mk (first ++ second)).apply event e₁).1
      (do
        let between ← ((Transformation.mk first).apply event e₂).1
        ((Transformation.mk second).apply between e₃).1) := by
  have hbase (name : String) : (Resolver.ofEvent event name).WellFormed :=
    Value.closed_wellFormed.map_getD Value.wellFormed_ofDocument
  have hfirst : Run.Relates (Engine.Means.guard context A depth) (fun _ => Overlay [] (first.map (·.1)))
      (fun _ => True) (compute (Resolver.ofEvent event) [] first) (compute (Resolver.ofEvent event) [] first)
      (e₁, e₂) :=
    compute_relates ⟨h₁, h₂⟩ hbase .start first
  rw [apply_result, apply_result, compute_append, Run.bind_result, bind_assoc, bind_assoc]
  refine hfirst.outcomes.bind fun whole below hbelow hoverlay => ?_
  have hevaluated : ((Transformation.mk first).evaluate (Resolver.ofEvent event) e₂).1 =
      .ok (outputs below (first.map (·.1))) := by
    rw [evaluate_result, show (compute (Resolver.ofEvent event) [] first e₂).1 = .ok below from hbelow]
    rfl
  -- The event between has the variables on which all assignments at once go on.
  have hbetween := ofEvent_write_outputs hevent hoverlay (hfinite _ hevaluated)
  rw [pure_bind, apply_result, hbetween]
  have hsecond := compute_relates (p := (_, e₃)) ⟨hfirst.inv.1, h₃⟩ hbase hoverlay.next second
  refine hsecond.outcomes.bind fun whole' upper _ hoverlay' => .ok ?_
  rw [List.map_append]
  exact write_perm hevent hoverlay'

/-- A transformation may be split anywhere. Take an engine over pure functions that was used in any way and
given other pure functions, and let no output of the first part have a float in it that is infinite or NaN.
Then all assignments at once succeed just if the first part does and the second does on the event that the
first made, both ways give the same event but for the order of its members, and they fail with the same
error. Each application may come after other evaluations, such as the one before it. -/
theorem apply_append {config : EngineConfig} (hcapacity : 1 ≤ config.cacheCapacity) (hdepth : 1 ≤ config.maxDepth)
    (context : Context) {builtins : List Builtin} (hbuiltins : ∀ b ∈ builtins, b.function.Pure context)
    {ops : List Operation} (hops : ∀ op ∈ ops, op.Hands (Function.Pure context))
    (first second : List (String × String)) {event : Members} (hevent : event.Distinct) :
    ∃ e₀, Engine.create config (builtins.foldl Registry.addBuiltin { context }) = .ok e₀ ∧
      let e := e₀.performAll ops
      ∀ ops₁ ops₂ ops₃ : List Operation, (∀ op ∈ ops₁ ++ ops₂ ++ ops₃, op.Quiet) →
        (∀ outputs, ((mk first).evaluate (Resolver.ofEvent event) (e.performAll ops₂)).1 = .ok outputs →
          ∀ output ∈ outputs, output.2.Finite) →
        Outcomes (fun a b : Members => a.Perm b) (fun _ => True)
          ((mk (first ++ second)).apply event (e.performAll ops₁)).1
          (do
            let between ← ((mk first).apply event (e.performAll ops₂)).1
            ((mk second).apply between (e.performAll ops₃)).1) := by
  obtain ⟨e₀, he₀, A, hmeans⟩ := Engine.means_performAll hcapacity hdepth context hbuiltins hops
  refine ⟨e₀, he₀, fun ops₁ ops₂ ops₃ hquiet hfinite => ?_⟩
  rw [List.forall_mem_append, List.forall_mem_append] at hquiet
  obtain ⟨⟨hquiet₁, hquiet₂⟩, hquiet₃⟩ := hquiet
  exact apply_append_outcomes (hmeans.performAll hquiet₁) (hmeans.performAll hquiet₂) (hmeans.performAll hquiet₃)
    hevent hfinite

/-- A field is removed and another gets a name that is a path; the second part reads both, and what was
taken for the path before. -/
theorem apply_append_removed :
    let config : EngineConfig := { cacheCapacity := 2, maxDepth := 5 }
    let ops : List Operation := [.register { name := "FIRST" } (.ofArgs fun args => .ok (args.headD .null))]
    let first := [("a", "null"), ("c.d", "FIRST(b['k'])")]
    let second := [("e", "c.d"), ("f", "exists(a)"), ("c.d", "null"), ("e", "c.d + e")]
    let event : Members := [("a", .integer 1), ("b", .object [("k", .integer 2)]), ("c", .object [("d", .integer 3)])]
    1 ≤ config.cacheCapacity ∧ 1 ≤ config.maxDepth ∧ (∀ b ∈ catalog, b.function.Pure {}) ∧
      (∀ op ∈ ops, op.Hands (Function.Pure {})) ∧ event.Distinct ∧
      ∃ e₀, Engine.create config (Registry.ofCatalog {}) = .ok e₀ ∧
        (∀ outputs, ((mk first).evaluate (Resolver.ofEvent event) (e₀.performAll ops)).1 = .ok outputs →
          ∀ output ∈ outputs, output.2.Finite) ∧
        Outcomes (fun a b : Members => a.Perm b) (fun _ => True)
          ((mk (first ++ second)).apply event (e₀.performAll ops)).1
          (do
            let between ← ((mk first).apply event (e₀.performAll ops)).1
            ((mk second).apply between (e₀.performAll ops)).1) := by
  intro config ops first second event
  have hcapacity : 1 ≤ config.cacheCapacity := by decide
  have hdepth : 1 ≤ config.maxDepth := by decide
  have hcatalog : ∀ b ∈ catalog, b.function.Pure {} := catalog_pure nofun
  have hops : ∀ op ∈ ops, op.Hands (Function.Pure {}) := by
    refine List.forall_mem_singleton.2 ?_
    rintro _ ⟨⟩
    exact Function.pure_head _
  have hevent : event.Distinct := by decide
  obtain ⟨e₀, he₀, happend⟩ := apply_append hcapacity hdepth {} hcatalog hops first second hevent
  -- Here the first part removes a member that the second one asks for.
  have hcreate : Engine.create config (Registry.ofCatalog {}) =
      .ok ⟨config, Registry.ofCatalog {}, ⟨2, [], 0, {}, by decide⟩⟩ := rfl
  have hints : ((mk first).evaluate (Resolver.ofEvent event) (e₀.performAll ops)).1.map
      (fun outputs => outputs.all fun output => output.2.isNull || output.2.int?.isSome) = .ok true := by
    obtain rfl := Except.ok.inj (he₀.symm.trans hcreate)
    decide +kernel
  have hfinite : ∀ outputs, ((mk first).evaluate (Resolver.ofEvent event) (e₀.performAll ops)).1 = .ok outputs →
      ∀ output ∈ outputs, output.2.Finite := by
    intro outputs houtputs output hmem
    rw [houtputs] at hints
    have hint := List.all_eq_true.1 (Except.ok.inj hints) output hmem
    cases hv : output.2 with
    | null => exact .null
    | int n => exact .int n
    | _ =>
      rw [hv] at hint
      cases hint
  exact ⟨hcapacity, hdepth, hcatalog, hops, hevent, e₀, he₀, hfinite, happend [] [] [] nofun hfinite⟩

end EventRules.Transformation
