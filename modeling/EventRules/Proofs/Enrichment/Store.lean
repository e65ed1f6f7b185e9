import EventRules.Enrichment.Store
import EventRules.Proofs.Json.Members
import Mathlib.Data.Set.Card

/-!
# What an enrichment store holds

A store is a map from pairs of an enrichment type and an indicator: an insertion changes what is found for its own
pair and for no other (`EnrichmentStore.get?_insert`). The store of a document comes of inserting its records one
after the other (`EnrichmentStore.ofDocument_eq`), and there is one if the document is made of objects on three levels
(`EnrichmentStore.ofDocument_isOk`).
-/

namespace EventRules

/-- Where no key comes twice, what is found under a key is what stands there. -/
lemma lookup_eq_some {α β : Type} [BEq α] [LawfulBEq α] {pairs : List (α × β)} (h : (pairs.map (·.1)).Nodup)
    {key : α} {value : β} : pairs.lookup key = some value ↔ (key, value) ∈ pairs := by
  rw [List.lookup_eq_some_iff]
  constructor
  · rintro ⟨before, after, rfl, -⟩
    simp
  · intro hmem
    obtain ⟨before, after, rfl⟩ := List.append_of_mem hmem
    refine ⟨before, after, rfl, fun pair hpair => ?_⟩
    rw [List.map_append, List.nodup_append] at h
    have hne := h.2.2 pair.1 (List.mem_map_of_mem hpair) key (by simp)
    simpa using Ne.symm hne

namespace EnrichmentStore

/-- A record with the pair of an enrichment type and an indicator that it is for. -/
abbrev Insertion := (String × String) × Entries

variable {store : EnrichmentStore} {type indicator : String} {record : Entries} {p : String × String}
  {types indicators : Members} {inserted : List Insertion} {d : Document}

/-! ## Insertions -/

/-- The store after some insertions. -/
def insertAll (store : EnrichmentStore) (inserted : List Insertion) : EnrichmentStore :=
  inserted.foldl (fun store record => store.insert record.1.1 record.1.2 record.2) store

/-- There is one record at most for each pair. -/
def Single (store : EnrichmentStore) : Prop :=
  (store.records.map (·.1)).Nodup

/-- An insertion changes what is found for its pair, and for no other. -/
lemma get?_insert (store : EnrichmentStore) (type indicator : String) (record : Entries) (p : String × String) :
    (store.insert type indicator record).get? p.1 p.2 =
      if p = (type, indicator) then some record else store.get? p.1 p.2 := by
  have hlookup (records : List Insertion) (hp : p ≠ (type, indicator)) :
      (records.filter fun r => r.1 ≠ (type, indicator)).lookup p = records.lookup p := by
    induction records with
    | nil => rfl
    | cons r records ih =>
      rw [List.filter_cons, List.lookup_cons]
      split
      case isTrue => rw [List.lookup_cons, ih]
      case isFalse hr =>
        have hkey : r.1 = (type, indicator) := by simpa using hr
        rw [ih, beq_false_of_ne (hkey ▸ hp)]
  rw [get?, insert, List.lookup_cons]
  by_cases hp : p = (type, indicator)
  · simp [hp]
  · rw [if_neg hp, beq_false_of_ne hp, get?]
    exact hlookup store.records hp

/-- An insertion leaves one record for a pair. -/
lemma Single.insert (h : store.Single) (type indicator : String) (record : Entries) :
    (store.insert type indicator record).Single := by
  refine List.nodup_cons.2 ⟨fun hmem => ?_, (List.filter_sublist.map _).nodup h⟩
  obtain ⟨r, hr, hkey⟩ := List.mem_map.1 hmem
  simpa [hkey] using (List.mem_filter.1 hr).2

/-- Any number of insertions leave one record for a pair. -/
lemma Single.insertAll (h : store.Single) (inserted : List Insertion) : (store.insertAll inserted).Single := by
  induction inserted generalizing store with
  | nil => exact h
  | cons record inserted ih => exact ih (h.insert _ _ _)

/-- After some insertions the last one for a pair counts. -/
lemma get?_insertAll (store : EnrichmentStore) (inserted : List Insertion) (p : String × String) :
    (store.insertAll inserted).get? p.1 p.2 = (inserted.reverse.lookup p).or (store.get? p.1 p.2) := by
  induction inserted generalizing store with
  | nil => rfl
  | cons record inserted ih =>
    rw [insertAll, List.foldl_cons, ← insertAll, ih, get?_insert, List.reverse_cons, List.lookup_append,
      Option.or_assoc]
    congr 1
    rw [List.lookup_cons]
    by_cases hp : p = record.1
    · simp [hp]
    · simp [hp, beq_false_of_ne hp]

/-- There are as many records as pairs for which one is found. -/
lemma encard_eq_size (h : store.Single) :
    {p : String × String | (store.get? p.1 p.2).isSome}.encard = store.size := by
  have hkeys : {p : String × String | (store.get? p.1 p.2).isSome} = (store.records.map (·.1)).toFinset := by
    ext p
    simp only [Set.mem_ofPred_eq, get?, List.coe_toFinset, Option.isSome_iff_exists, lookup_eq_some h, List.mem_map]
    constructor
    · rintro ⟨record, hmem⟩
      exact ⟨(p, record), hmem, rfl⟩
    · rintro ⟨⟨_, record⟩, hmem, rfl⟩
      exact ⟨record, hmem⟩
  rw [hkeys, Set.encard_coe_eq_coe_finsetCard, List.toFinset_card_of_nodup h, List.length_map, size]

/-! ## Documents -/

/-- The document is an object. -/
def IsObject (d : Document) : Prop :=
  ∃ members, d = .object members

/-- The document is an object of objects. -/
def HoldsRecords (d : Document) : Prop :=
  ∃ indicators, d = .object indicators ∧ ∀ p ∈ indicators, IsObject p.2

/-- The document is an object of objects of objects. -/
def HoldsTypes (d : Document) : Prop :=
  ∃ types, d = .object types ∧ ∀ p ∈ types, HoldsRecords p.2

/-- The entries that an object stands for. -/
def entriesOf (d : Document) : Entries :=
  match Value.ofDocument d with
  | .map entries => entries
  | _ => []

/-- The records of a type, in order. -/
def recordsOfType (type : String) (indicators : Members) : List Insertion :=
  indicators.map fun p => ((type, p.1), entriesOf p.2)

/-- The records of a document, in order. -/
def recordsOf (types : Members) : List Insertion :=
  types.flatMap fun p => recordsOfType p.1 (p.2.members?.getD [])

/-- The result is the store if the document has the shape asked for, and else an error of its configuration. -/
def Loads (Shaped : Prop) (store : EnrichmentStore) (result : Except Error EnrichmentStore) : Prop :=
  Shaped ∧ result = .ok store ∨ ¬Shaped ∧ ∃ fault, result = .error (.invalidConfig fault)

/-- Two conditions that are the same decide alike whether a document loads. -/
lemma Loads.congr {Shaped Shaped' : Prop} {result : Except Error EnrichmentStore} (h : Loads Shaped store result)
    (hshape : Shaped ↔ Shaped') : Loads Shaped' store result :=
  propext hshape ▸ h

/-- The records of a type are added if all of them are objects. -/
lemma loads_addIndicators (type : String) (store : EnrichmentStore) (indicators : Members) :
    Loads (∀ p ∈ indicators, IsObject p.2) (store.insertAll (recordsOfType type indicators))
      (addIndicators type store indicators) := by
  induction indicators generalizing store with
  | nil => exact .inl ⟨nofun, rfl⟩
  | cons p rest ih =>
    obtain ⟨indicator, record⟩ := p
    refine Loads.congr ?_ List.forall_mem_cons.symm
    by_cases hrecord : IsObject record
    · obtain ⟨members, rfl⟩ := hrecord
      have hstep : recordsOfType type ((indicator, .object members) :: rest) =
          ((type, indicator), Value.ofMembers [] members) :: recordsOfType type rest := by
        rw [recordsOfType, List.map_cons, entriesOf, Value.ofDocument, recordsOfType]
      have hfirst : IsObject (.object members) := ⟨members, rfl⟩
      rw [addIndicators, hstep]
      exact (ih (store.insert type indicator (Value.ofMembers [] members))).congr (and_iff_right hfirst).symm
    · refine .inr ⟨fun hall => hrecord hall.1, .recordNotObject type indicator, ?_⟩
      rw [addIndicators]
      exact fun members heq => hrecord ⟨members, heq⟩

/-- The records of several types are added if each type is an object of objects. -/
lemma loads_addTypes (store : EnrichmentStore) (types : Members) :
    Loads (∀ p ∈ types, HoldsRecords p.2) (store.insertAll (recordsOf types)) (addTypes store types) := by
  induction types generalizing store with
  | nil => exact .inl ⟨nofun, rfl⟩
  | cons p rest ih =>
    obtain ⟨type, d⟩ := p
    refine Loads.congr ?_ List.forall_mem_cons.symm
    by_cases hobject : IsObject d
    · obtain ⟨indicators, rfl⟩ := hobject
      have hstep : store.insertAll (recordsOf ((type, .object indicators) :: rest)) =
          (store.insertAll (recordsOfType type indicators)).insertAll (recordsOf rest) :=
        List.foldl_append ..
      rw [addTypes, hstep]
      obtain ⟨hrecords, hload⟩ | ⟨hrecords, fault, hload⟩ := loads_addIndicators type store indicators
      · have hfirst : HoldsRecords (.object indicators) := ⟨indicators, rfl, hrecords⟩
        rw [hload]
        exact (ih (store.insertAll (recordsOfType type indicators))).congr (and_iff_right hfirst).symm
      · refine .inr ⟨?_, fault, by rw [hload]; rfl⟩
        rintro ⟨⟨_, ⟨⟩, hall⟩, -⟩
        exact hrecords hall
    · refine .inr ⟨fun hall => ?_, .indicatorsNotObject type, ?_⟩
      · obtain ⟨⟨indicators, heq, -⟩, -⟩ := hall
        exact hobject ⟨indicators, heq⟩
      · rw [addTypes]
        exact fun indicators heq => hobject ⟨indicators, heq⟩

/-- There is a store of a document if it is made of objects on three levels. -/
lemma loads_ofDocument (d : Document) :
    Loads (HoldsTypes d) (insertAll {} (recordsOf (d.members?.getD []))) (ofDocument d) := by
  by_cases hobject : IsObject d
  · obtain ⟨types, rfl⟩ := hobject
    obtain ⟨htypes, hload⟩ | ⟨htypes, fault, hload⟩ := loads_addTypes {} types
    · exact .inl ⟨⟨types, rfl, htypes⟩, hload⟩
    · refine .inr ⟨?_, fault, hload⟩
      rintro ⟨_, ⟨⟩, hall⟩
      exact htypes hall
  · refine .inr ⟨?_, .typesNotObject, ?_⟩
    · rintro ⟨types, rfl, -⟩
      exact hobject ⟨types, rfl⟩
    · rw [ofDocument]
      exact fun types heq => hobject ⟨types, heq⟩

/-- No key comes twice, neither among the types nor among the indicators of a type. -/
def Unrepeated (d : Document) : Prop :=
  ∀ types : Members, d = .object types → types.Distinct ∧
    ∀ p ∈ types, ∀ indicators : Members, p.2 = .object indicators → indicators.Distinct

/-- The entries of the object that stands in a document under a type and an indicator. -/
def recordAt? (d : Document) (type indicator : String) : Option Entries := do
  let types ← d.members?
  let indicators ← (← Members.get? types type).members?
  return entriesOf (← Members.get? indicators indicator)

/-- The records of a document are those of its types, under the names of both. -/
lemma mem_recordsOf : (p, record) ∈ recordsOf types ↔
    ∃ d e, (p.1, d) ∈ types ∧ (p.2, e) ∈ d.members?.getD [] ∧ entriesOf e = record := by
  obtain ⟨type, indicator⟩ := p
  simp only [recordsOf, recordsOfType, List.mem_flatMap, List.mem_map, Prod.mk.injEq, Prod.exists]
  constructor
  · rintro ⟨_, d, hd, _, e, he, ⟨rfl, rfl⟩, rfl⟩
    exact ⟨d, e, hd, he, rfl⟩
  · rintro ⟨d, e, hd, he, rfl⟩
    exact ⟨type, d, hd, indicator, e, he, ⟨rfl, rfl⟩, rfl⟩

/-- The records of a document are for different pairs. -/
lemma nodup_recordsOf (h : Unrepeated (.object types)) : ((recordsOf types).map (·.1)).Nodup := by
  obtain ⟨hdistinct, hindicators⟩ := h types rfl
  rw [recordsOf, List.map_flatMap, List.nodup_flatMap]
  constructor
  · rintro ⟨type, d⟩ hmem
    have hkeys : (recordsOfType type (d.members?.getD [])).map (·.1) =
        ((d.members?.getD []).map (·.1)).map fun indicator => (type, indicator) := by
      rw [recordsOfType, List.map_map, List.map_map]
      rfl
    rw [hkeys]
    refine List.Nodup.map (fun _ _ heq => (Prod.mk.inj heq).2) ?_
    cases d with
    | object indicators => exact hindicators _ hmem indicators rfl
    | _ => exact List.nodup_nil
  · have htypes : types.Pairwise fun p q => p.1 ≠ q.1 := List.pairwise_map.1 hdistinct
    have htype {type : String} {indicators : Members} {pair : String × String}
        (hpair : pair ∈ (recordsOfType type indicators).map (·.1)) : pair.1 = type := by
      obtain ⟨_, hmem, rfl⟩ := List.mem_map.1 hpair
      obtain ⟨_, -, rfl⟩ := List.mem_map.1 hmem
      rfl
    exact htypes.imp fun hne pair hp hq => hne ((htype hp).symm.trans (htype hq))

/-- In a document without repetitions a record is found by its two names just if it is there. -/
lemma recordAt?_eq_some (h : Unrepeated (.object types)) :
    recordAt? (.object types) p.1 p.2 = some record ↔ (p, record) ∈ recordsOf types := by
  obtain ⟨hdistinct, hindicators⟩ := h types rfl
  simp only [recordAt?, Document.members?, Option.bind_eq_bind, Option.bind_some, Option.bind_eq_some_iff,
    Option.some.injEq, Members.get?_eq_some hdistinct, mem_recordsOf, pure]
  constructor
  · rintro ⟨d, hd, indicators, hmembers, e, he, rfl⟩
    cases d with
    | object members =>
      cases hmembers
      exact ⟨_, e, hd, (Members.get?_eq_some (hindicators _ hd _ rfl)).1 he, rfl⟩
    | _ => cases hmembers
  · rintro ⟨d, e, hd, he, rfl⟩
    cases d with
    | object members => exact ⟨_, hd, members, rfl, e, (Members.get?_eq_some (hindicators _ hd _ rfl)).2 he, rfl⟩
    | _ => cases he

/-- The store of a document finds the records of the document. -/
lemma get?_recordsOf (h : Unrepeated (.object types)) (p : String × String) :
    (insertAll {} (recordsOf types)).get? p.1 p.2 = recordAt? (.object types) p.1 p.2 := by
  have hnodup : ((recordsOf types).reverse.map (·.1)).Nodup := by
    rw [List.map_reverse, List.nodup_reverse]
    exact nodup_recordsOf h
  have hnone : ({} : EnrichmentStore).get? p.1 p.2 = none := rfl
  rw [get?_insertAll, hnone, Option.or_none]
  refine Option.ext fun record => ?_
  rw [lookup_eq_some hnodup, List.mem_reverse, recordAt?_eq_some h]

/-- The empty store has no record twice. -/
lemma single_empty : Single {} :=
  List.nodup_nil

end EnrichmentStore

end EventRules
