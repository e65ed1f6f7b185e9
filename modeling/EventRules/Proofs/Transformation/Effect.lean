import EventRules.Proofs.Expr.Occurrence
import EventRules.Proofs.Transformation.Groups

/-!
# The effect of a transformation

On any engine, whatever its functions do, a transformation carries out its assignments one after the
other (`Transformation.Assigns`). Each expression sees the values of the assignments before it, the last
one of each field, and below them the variables that were there. What is listed at the end is a summary of
the assignments (`Transformation.Summary`), and the event that comes of it has the listed values and is
else as it was (`Transformation.Written`). The first assignment that fails ends all of it, and leaves the
event alone.
-/

namespace EventRules

namespace Transformation

variable {t : Transformation} {base : Resolver} {e e' : Engine} {event after : Members} {computed : Entries}
  {done done' outputs : List (String × Value)} {assignments : List (String × String)}
  {result : Except Halt (List (String × Value))} {field : String} {v : Value}

/-! ## Assignments in sequence -/

/-- The value of the last assignment to a field. -/
def latest? (done : List (String × Value)) (field : String) : Option Value :=
  done.reverse.lookup field

/-- The variables after some assignments: an assigned field has the value of its last assignment, null
included. -/
def overridden (base : Resolver) (done : List (String × Value)) : Resolver :=
  fun name => (latest? done name).getD (base name)

/-- Assignments are carried out after those of `done`. Either all have a value, or one fails and no other
follows. -/
inductive Assigns (base : Resolver) : (done : List (String × Value)) → List (String × String) → Engine →
    Except Halt (List (String × Value)) → Engine → Prop
  | nil {done : List (String × Value)} {e : Engine} : Assigns base done [] e (.ok done) e
  | assign {done : List (String × Value)} {field source : String} {v : Value} {rest : List (String × String)}
    {e e' e'' : Engine} {result : Except Halt (List (String × Value))} :
    Engine.evaluate source (overridden base done) e = (.ok v, e') →
    Assigns base (done ++ [(field, v)]) rest e' result e'' →
    Assigns base done ((field, source) :: rest) e result e''
  | fail {done : List (String × Value)} {field source : String} {err : Halt} {rest : List (String × String)}
    {e e' : Engine} :
    Engine.evaluate source (overridden base done) e = (.error err, e') →
    Assigns base done ((field, source) :: rest) e (.error err) e'

/-- After another assignment its value is the latest of its field. -/
lemma latest?_append (done : List (String × Value)) (field : String) (v : Value) (name : String) :
    latest? (done ++ [(field, v)]) name = if name = field then some v else latest? done name := by
  rw [latest?, List.reverse_append, List.reverse_singleton, List.singleton_append, List.lookup_cons]
  by_cases hname : name = field
  · rw [if_pos hname, beq_iff_eq.2 hname]
  · rw [if_neg hname, beq_false_of_ne hname]
    rfl

/-- When no assignment fails, there is a value for the field of each, in their order. -/
lemma Assigns.fields (h : Assigns base done assignments e result e') (hresult : result = .ok done') :
    done'.map (·.1) = done.map (·.1) ++ assignments.map (·.1) := by
  induction h with
  | nil =>
    cases hresult
    rw [List.map_nil, List.append_nil]
  | assign _ _ ih =>
    rw [ih hresult]
    simp
  | fail => cases hresult

/-- However the assignments end, they are carried out in one way. -/
lemma exists_assigns (base : Resolver) (done : List (String × Value)) (assignments : List (String × String))
    (e : Engine) : ∃ result e', Assigns base done assignments e result e' := by
  induction assignments generalizing done e with
  | nil => exact ⟨_, e, .nil⟩
  | cons assignment rest ih =>
    obtain ⟨field, source⟩ := assignment
    cases hvalue : Engine.evaluate source (overridden base done) e with
    | mk value next =>
      cases value with
      | ok v =>
        obtain ⟨result, e', hrest⟩ := ih (done ++ [(field, v)]) next
        exact ⟨result, e', .assign hvalue hrest⟩
      | error err => exact ⟨_, next, .fail hvalue⟩

/-- What was computed holds the last value of every field. -/
def Holds (computed : Entries) (done : List (String × Value)) : Prop :=
  ∀ name, Keyed.get? computed name = latest? done name

/-- Another value is held under its field, over the one before. -/
lemma Holds.insert (h : Holds computed done) (field : String) (v : Value) :
    Holds (Keyed.insert computed field v) (done ++ [(field, v)]) := by
  intro name
  rw [Keyed.get?_insert, latest?_append, h name]

/-- What was computed hides the variables below, just as the assignments do. -/
lemma Holds.layered (h : Holds computed done) (base : Resolver) :
    Resolver.layered computed base = overridden base done := by
  funext name
  rw [Resolver.layered, overridden, h name]

/-- A computation carries out its assignments: it ends on the same engine, with the last value of every
field or the same error. -/
lemma compute_of_assigns (h : Assigns base done assignments e result e') (hcomputed : Holds computed done) :
    Outcomes (fun done' computed' => Holds computed' done') (fun _ => True) result
        (compute base computed assignments e).1 ∧
      (compute base computed assignments e).2 = e' := by
  induction h generalizing computed with
  | nil => exact ⟨.ok hcomputed, rfl⟩
  | @assign done field source v rest e e' e'' result hvalue _ ih =>
    rw [← hcomputed.layered] at hvalue
    rw [compute, Run.bind_ok hvalue]
    exact ih (hcomputed.insert field v)
  | fail hvalue =>
    rw [← hcomputed.layered] at hvalue
    rw [compute, Run.bind_error hvalue]
    exact ⟨.error trivial, rfl⟩

/-! ## What is listed -/

/-- The outputs sum up assignments to `fields` with the values in `done`. -/
structure Summary (fields : List String) (done outputs : List (String × Value)) : Prop where
  /-- The values are those of the assignments, in their order. -/
  assigned : done.map (·.1) = fields
  /-- Every assigned field is listed, and nothing else. -/
  mem : ∀ field, field ∈ outputs.map (·.1) ↔ field ∈ fields
  /-- No field is listed twice. -/
  nodup : (outputs.map (·.1)).Nodup
  /-- The fields are listed in the order of their first assignments. -/
  ordered : (outputs.map (·.1)).Pairwise fun f g => fields.idxOf f < fields.idxOf g
  /-- Every field is listed with the value of its last assignment. -/
  last : ∀ field v, (field, v) ∈ outputs → latest? done field = some v

/-- Without its repetitions a list has its items in the order in which they first come. -/
lemma pairwise_idxOf_eraseDups (l : List String) :
    l.eraseDups.Pairwise fun x y => l.idxOf x < l.idxOf y := by
  have hpositions : l.zipIdx.Pairwise fun p q => p.2 < q.2 := by
    rw [← List.pairwise_map (f := Prod.snd) (R := (· < ·)), List.zipIdx_map_snd]
    exact List.pairwise_lt_range'
  have hfirst := Expr.pairwise_eraseDups hpositions fun p => some p.1
  rw [List.filterMap_eq_map', List.zipIdx_map_fst] at hfirst
  refine hfirst.imp_of_mem ?_
  rintro x y - hy ⟨⟨x', i⟩, hmem, hx', hbefore⟩
  obtain rfl : x' = x := Option.some.inj hx'
  have hx : l[i]? = some x' := List.mem_zipIdx_iff_getElem?.1 hmem
  have hylast : (y, l.idxOf y) ∈ l.zipIdx :=
    List.mem_zipIdx_iff_getElem?.2 (List.getElem?_idxOf (List.mem_eraseDups.1 hy))
  have hidx : l.idxOf x' ≤ i := by
    have hmem : x' ∈ l := List.mem_of_getElem? hx
    have htake : x' ∈ l.take (i + 1) := by
      refine List.mem_of_getElem? (i := i) ?_
      rw [List.getElem?_take_of_lt (Nat.lt_succ_self i), hx]
    exact Nat.le_of_lt_succ ((List.mem_take_iff_idxOf_lt hmem).1 htake)
  exact Nat.lt_of_le_of_lt hidx (hbefore _ hylast rfl)

/-- The last value is that of some assignment to the field. -/
lemma exists_latest? (h : field ∈ done.map (·.1)) : ∃ v, latest? done field = some v := by
  refine Option.ne_none_iff_exists'.1 fun hnone => ?_
  obtain ⟨p, hp, rfl⟩ := List.mem_map.1 h
  have hne := List.lookup_eq_none_iff.1 hnone p (List.mem_reverse.2 hp)
  simp at hne

/-- What is listed for the fields sums up their assignments. -/
lemma summary_outputs (hcomputed : Holds computed done) :
    Summary (done.map (·.1)) done (Transformation.outputs computed (done.map (·.1))) := by
  have hfields : (Transformation.outputs computed (done.map (·.1))).map (·.1) = (done.map (·.1)).eraseDups := by
    simp [Transformation.outputs, Function.comp_def]
  have hordered := pairwise_idxOf_eraseDups (done.map (·.1))
  refine ⟨rfl, fun field => ?_, ?_, ?_, fun field v hmem => ?_⟩
  · rw [hfields, List.mem_eraseDups]
  · rw [hfields]
    refine List.Pairwise.imp ?_ hordered
    rintro f _ hlt rfl
    exact Nat.lt_irrefl _ hlt
  · rw [hfields]
    exact hordered
  · obtain ⟨name, hname, hpair⟩ := List.mem_map.1 hmem
    obtain ⟨rfl, rfl⟩ : name = field ∧ (Keyed.get? computed name).getD .null = v := Prod.mk.inj hpair
    obtain ⟨w, hw⟩ := exists_latest? (List.mem_eraseDups.1 hname)
    rw [hcomputed name, hw, Option.getD_some]

/-- The evaluation carries out the assignments and lists a summary of them. -/
lemma evaluate_of_assigns (h : Assigns base [] t.assignments e result e') :
    Outcomes (Summary t.fields) (fun _ => True) result (t.evaluate base e).1 ∧ (t.evaluate base e).2 = e' := by
  have hnone : Holds [] [] := fun _ => rfl
  obtain ⟨houtcomes, hnext⟩ := compute_of_assigns h hnone
  rw [evaluate]
  cases hcompute : compute base [] t.assignments e with
  | mk value next =>
    rw [hcompute] at houtcomes hnext
    obtain rfl : next = e' := hnext
    cases houtcomes with
    | @ok done computed hcomputed =>
      have hfields : done.map (·.1) = t.fields := h.fields rfl
      rw [Run.bind_ok hcompute]
      refine ⟨.ok ?_, rfl⟩
      rw [← hfields]
      have hsummary := summary_outputs hcomputed
      rw [hfields] at hsummary ⊢
      exact hsummary
    | error herr =>
      rw [Run.bind_error hcompute]
      exact ⟨.error trivial, rfl⟩

/-! ## What becomes of the event -/

/-- An event with outputs written to it. -/
structure Written (event : Members) (outputs : List (String × Value)) (after : Members) : Prop where
  /-- No key comes twice. -/
  distinct : after.Distinct
  /-- Under a listed field is what is stored for its value, nothing for null. -/
  listed : ∀ field v, (field, v) ∈ outputs → after.get? field = stored v
  /-- What is not listed is as it was. -/
  others : ∀ key, key ∉ outputs.map (·.1) → after.get? key = event.get? key

/-- To write a list without repetitions leaves its values, but for null, which removes. -/
lemma written_write (hevent : event.Distinct) (hnodup : (outputs.map (·.1)).Nodup) :
    Written event outputs (write event outputs) := by
  have hlast (key : String) := get?_write_last hevent outputs key
  refine ⟨distinct_write hevent outputs, fun field v hmem => ?_, fun key hkey => ?_⟩
  · have hlookup : outputs.reverse.lookup field = some v := by
      obtain ⟨front, back, rfl⟩ := List.append_of_mem hmem
      rw [List.map_append, List.map_cons, List.nodup_append] at hnodup
      have hback : field ∉ back.map (·.1) := (List.nodup_cons.1 hnodup.2.1).1
      refine List.lookup_eq_some_iff.2 ⟨back.reverse, front.reverse, by simp, fun p hp => bne_iff_ne.2 ?_⟩
      rintro rfl
      exact hback (List.mem_map_of_mem (List.mem_reverse.1 hp))
    rw [hlast, hlookup]
    rfl
  · have hlookup : outputs.reverse.lookup key = none := by
      refine List.lookup_eq_none_iff.2 fun p hp => ?_
      refine bne_iff_ne.2 fun heq => hkey ?_
      rw [heq]
      exact List.mem_map_of_mem (List.mem_reverse.1 hp)
    rw [hlast, hlookup]
    rfl

/-- Changes the event: the assignments are evaluated on it, and then the outputs are written back. -/
def applyInPlace (t : Transformation) : Evaluation (Engine × Members) Unit := do
  let event := (← get).2
  EnrichmentConfig.writeBack (← EnrichmentConfig.onEngine (t.evaluate (Resolver.ofEvent event)))

/-- An evaluation that succeeds is written to the event, be it to a copy or in place. -/
lemma apply_ok (h : t.evaluate (Resolver.ofEvent event) e = (.ok outputs, e')) :
    t.apply event e = (.ok (write event outputs), e') ∧
      t.applyInPlace (e, event) = (.ok (), (e', write event outputs)) := by
  have hget : (get : Evaluation (Engine × Members) (Engine × Members)) (e, event) = (.ok (e, event), (e, event)) := rfl
  have hengine : EnrichmentConfig.onEngine (t.evaluate (Resolver.ofEvent event)) (e, event) =
      (.ok outputs, (e', event)) := by
    rw [EnrichmentConfig.onEngine, h]
  constructor
  · rw [apply, Run.bind_ok h]
    rfl
  · rw [applyInPlace, Run.bind_ok hget, Run.bind_ok hengine, EnrichmentConfig.writeBack_eq]

/-- An evaluation that fails fails the application, and nothing is written. -/
lemma apply_error {err : Halt} (h : t.evaluate (Resolver.ofEvent event) e = (.error err, e')) :
    t.apply event e = (.error err, e') ∧ t.applyInPlace (e, event) = (.error err, (e', event)) := by
  have hget : (get : Evaluation (Engine × Members) (Engine × Members)) (e, event) = (.ok (e, event), (e, event)) := rfl
  have hengine : EnrichmentConfig.onEngine (t.evaluate (Resolver.ofEvent event)) (e, event) =
      (.error err, (e', event)) := by
    rw [EnrichmentConfig.onEngine, h]
  constructor
  · rw [apply, Run.bind_error h]
  -- The outputs come from the engine before anything is written, so a failure leaves the event alone.
  · rw [applyInPlace, Run.bind_ok hget, Run.bind_error hengine]

/-- What the application of a transformation to an event comes to on an engine. -/
structure Effect (t : Transformation) (e : Engine) (event : Members) : Prop where
  /-- The application fails just if the evaluation does, with the same error. -/
  fails : ∀ err e', t.apply event e = (.error err, e') ↔ t.evaluate (Resolver.ofEvent event) e = (.error err, e')
  /-- If it fails in place, the event stays as it was, the order of its members included. -/
  untouched : ∀ err e' after, t.applyInPlace (e, event) = (.error err, (e', after)) ↔
    t.apply event e = (.error err, e') ∧ after = event
  /-- In place the event becomes the one that is made. -/
  inPlace : ∀ e' after, t.applyInPlace (e, event) = (.ok (), (e', after)) ↔ t.apply event e = (.ok after, e')
  /-- The event that is made has the listed values, and is else as it was. -/
  written : ∀ outputs e', t.evaluate (Resolver.ofEvent event) e = (.ok outputs, e') →
    ∃ after, t.apply event e = (.ok after, e') ∧ Written event outputs after

/-- If the evaluation fails, the effect is that there is none. -/
lemma effect_of_error {err : Halt} (h : t.evaluate (Resolver.ofEvent event) e = (.error err, e')) :
    t.Effect e event := by
  obtain ⟨happly, hplace⟩ := apply_error h
  constructor
  · intro err e'
    rw [happly, h]
    constructor
    · rintro ⟨⟩
      rfl
    · rintro ⟨⟩
      rfl
  · intro err e' after
    rw [happly, hplace]
    constructor
    · rintro ⟨⟩
      exact ⟨rfl, rfl⟩
    · rintro ⟨⟨⟩, rfl⟩
      rfl
  · intro e' after
    rw [happly, hplace]
    exact ⟨nofun, nofun⟩
  · intro outputs e' heq
    cases heq.symm.trans h

/-- If the evaluation succeeds, the effect is that of writing its outputs. -/
lemma effect_of_ok (hevent : event.Distinct) (h : t.evaluate (Resolver.ofEvent event) e = (.ok outputs, e'))
    (hnodup : (outputs.map (·.1)).Nodup) : t.Effect e event := by
  obtain ⟨happly, hplace⟩ := apply_ok h
  constructor
  · intro err e'
    rw [happly, h]
    exact ⟨nofun, nofun⟩
  · intro err e' after
    rw [happly, hplace]
    exact ⟨nofun, fun hfailed => nomatch hfailed.1⟩
  · intro e' after
    rw [happly, hplace]
    constructor
    · rintro ⟨⟩
      rfl
    · rintro ⟨⟩
      rfl
  · intro outputs' e'' heq
    cases heq.symm.trans h
    exact ⟨_, happly, written_write hevent hnodup⟩

/-- The effect of a transformation on any engine. Its assignments are carried out in sequence; what is
listed sums them up, or the first that fails gives its error. An event in which no key comes twice stays
as it was in the second case. In the first it has the listed values afterwards, and is else as it was. -/
theorem apply_effect (t : Transformation) (e : Engine) :
    (∀ base, ∃ result e', Assigns base [] t.assignments e result e' ∧
      Outcomes (Summary t.fields) (fun _ => True) result (t.evaluate base e).1 ∧ (t.evaluate base e).2 = e') ∧
    ∀ event : Members, event.Distinct → t.Effect e event := by
  have hassigns (base : Resolver) : ∃ result e', Assigns base [] t.assignments e result e' ∧
      Outcomes (Summary t.fields) (fun _ => True) result (t.evaluate base e).1 ∧ (t.evaluate base e).2 = e' := by
    obtain ⟨result, e', hassigns⟩ := exists_assigns base [] t.assignments e
    exact ⟨result, e', hassigns, evaluate_of_assigns hassigns⟩
  refine ⟨hassigns, fun event hevent => ?_⟩
  cases hevaluate : t.evaluate (Resolver.ofEvent event) e with
  | mk value next =>
    cases value with
    | error err => exact effect_of_error hevaluate
    | ok outputs =>
      obtain ⟨_, _, -, houtcomes, -⟩ := hassigns (Resolver.ofEvent event)
      rw [hevaluate] at houtcomes
      cases houtcomes with
      | ok hsummary => exact effect_of_ok hevent hevaluate hsummary.nodup

/-- A field is assigned twice, with its first value in the second assignment. Another is removed, and is
hidden from the assignments after that. -/
theorem apply_effect_reassigned :
    let config : EngineConfig := { cacheCapacity := 1, maxDepth := 5 }
    let t : Transformation := ⟨[("b", "a + 1"), ("a", "null"), ("c", "exists(a)"), ("b", "b + b")]⟩
    let event : Members := [("a", .integer 1), ("d", .integer 2), ("b", .integer 3)]
    event.Distinct ∧ ∃ e e' outputs after, Engine.create config (Registry.ofCatalog {}) = .ok e ∧
      t.evaluate (Resolver.ofEvent event) e = (.ok outputs, e') ∧
      outputs.map (fun output => (output.1, output.2.int?)) = [("b", some 4), ("a", none), ("c", none)] ∧
      t.applyInPlace (e, event) = (.ok (), (e', after)) ∧ Written event outputs after ∧
      after.get? "d" = some (.integer 2) := by
  intro config t event
  have hevent : event.Distinct := by decide
  obtain ⟨e, hcreate, hlisted⟩ : ∃ e, Engine.create config (Registry.ofCatalog {}) = .ok e ∧
      (t.evaluate (Resolver.ofEvent event) e).1.map
        (fun outputs => outputs.map fun output => (output.1, output.2.int?)) =
          .ok [("b", some 4), ("a", none), ("c", none)] :=
    ⟨⟨config, Registry.ofCatalog {}, ⟨1, [], 0, {}, by decide⟩⟩, rfl, by decide +kernel⟩
  obtain ⟨-, heffect⟩ := apply_effect t e
  have heffect := heffect event hevent
  cases hevaluate : t.evaluate (Resolver.ofEvent event) e with
  | mk value e' =>
    rw [hevaluate] at hlisted
    cases value with
    | error err => cases hlisted
    | ok outputs =>
      have hlisted := Except.ok.inj hlisted
      obtain ⟨after, hafter, hwritten⟩ := heffect.written outputs e' hevaluate
      -- The field that no assignment mentions is not listed, so it is as it was.
      have hothers : "d" ∉ outputs.map (·.1) := by
        have hfields : outputs.map (·.1) = ["b", "a", "c"] := by
          simpa [Function.comp_def] using congrArg (List.map Prod.fst) hlisted
        rw [hfields]
        decide
      exact ⟨hevent, e, e', outputs, after, hcreate, hevaluate, hlisted, (heffect.inPlace e' after).2 hafter,
        hwritten, hwritten.others "d" hothers⟩

end Transformation

end EventRules
