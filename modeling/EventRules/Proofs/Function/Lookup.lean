import EventRules.Proofs.Engine.Invariant
import EventRules.Proofs.Enrichment.Store
import EventRules.Proofs.Registry.Builtins

/-!
# Look-ups in an enrichment store

A store finds the records that were inserted last and otherwise those of its document, and the functions of the
catalog that ask it answer alike (`EnrichmentStore.store_answers`). `Registry.Serving` lists what may happen to a
registry of the catalog meanwhile: expressions are evaluated, functions of other names are offered, and records are
inserted into the store. Whatever happens, the look-ups stay what they are and are set up without an error
(`Registry.Serves`).
-/

namespace EventRules

namespace Registry

variable {store : EnrichmentStore} {r : Registry} {b : Builtin} {function : String} {absent v w : Value}
  {found : Option Entries → Value} {args : List Value}

/-- A registry of the catalog at work, whose surroundings hold a store. -/
inductive Serving : EnrichmentStore → Registry → Prop
  | start (store : EnrichmentStore) : Serving store (ofCatalog { store := some store.source })
  | evaluate {store : EnrichmentStore} {r : Registry} (x : Expr) (vars : Resolver) :
    Serving store r → Serving store (x.evaluate calls vars r).2
  /-- A function is registered or replaces another, under a name that is no look-up's. -/
  | offer {store : EnrichmentStore} {r : Registry} (info : FunctionInfo) (f : Function) (replace : Bool) :
    canonicalName info.name ∉ LookupFunctions.catalog.map (·.info.name) → Serving store r →
    Serving store (insert info f replace r).2
  /-- A record is inserted into the store that the surroundings hold. -/
  | record {store : EnrichmentStore} {r : Registry} (type indicator : String) (entries : Entries) :
    Serving store r →
    Serving (store.insert type indicator entries)
      { r with context := { r.context with store := some (store.insert type indicator entries).source } }

/-- The look-up stands under its name, is not closed and was set up well if at all. -/
def Stands (r : Registry) (b : Builtin) : Prop :=
  ∃ e, Keyed.get? r.table b.info.name = some e ∧ e.function = b.function ∧ e.closed = false ∧
    ∀ outcome, e.outcome = some outcome → outcome = .ok ()

/-- The surroundings of the registry hold the store, and the look-ups stand under their names. -/
structure Serves (store : EnrichmentStore) (r : Registry) : Prop where
  context : r.context.store = some store.source
  named : ∀ name e, Keyed.get? r.table name = some e → e.info.name = name
  stands : ∀ b ∈ LookupFunctions.catalog, Stands r b

/-- What the look-up of a record makes of it. -/
def recordValue (record : Option Entries) : Value :=
  (record.map .map).getD .null

/-- What the look-up of its existence makes of a record. -/
def recordFound (record : Option Entries) : Value :=
  .bool record.isSome

/-- The catalog has two look-ups. -/
lemma mem_lookups : b ∈ LookupFunctions.catalog ↔
    b = LookupFunctions.catalog[0] ∨ b = LookupFunctions.catalog[1] := by
  simp only [LookupFunctions.catalog, List.mem_cons, List.not_mem_nil, or_false]
  rfl

/-- The two functions of the catalog are look-ups that differ in what they make of a record. -/
lemma function_lookups : LookupFunctions.catalog[0].function = LookupFunctions.lookup "ENRICHMENT_GET" .null recordValue ∧
    LookupFunctions.catalog[1].function = LookupFunctions.lookup "ENRICHMENT_EXISTS" (.bool false) recordFound :=
  ⟨rfl, rfl⟩

/-- Where there is a store, a look-up is set up well. -/
lemma setUp_lookup (hb : b ∈ LookupFunctions.catalog) {s : Situation} (hs : s.context.store = some store.source) :
    b.function.stateful = true ∧ b.function.setUp s = .ok () := by
  have hlookup (function : String) (absent : Value) (found : Option Entries → Value) :
      (LookupFunctions.lookup function absent found).stateful = true ∧
        (LookupFunctions.lookup function absent found).setUp s = .ok () := by
    simp only [LookupFunctions.lookup, LookupFunctions.store, hs]
    exact ⟨trivial, rfl⟩
  rcases mem_lookups.1 hb with rfl | rfl
  · exact hlookup _ _ _
  · exact hlookup _ _ _

/-- An entry under another name leaves the look-up where it is. -/
lemma Stands.insert {r' : Registry} {name : String} {e : Registration} (h : Stands r b) (hname : name ≠ b.info.name)
    (htable : r'.table = Keyed.insert r.table name e) : Stands r' b := by
  obtain ⟨e', he', hrest⟩ := h
  refine ⟨e', ?_, hrest⟩
  rw [htable, Keyed.get?_insert, if_neg (Ne.symm hname), he']

/-- To resolve a name leaves the look-ups in place. -/
lemma Serves.resolve (h : Serves store r) (name : String) : Serves store (Registry.resolve name r).2 := by
  have hres := resolution name r
  generalize (Registry.resolve name r).1 = result, (Registry.resolve name r).2 = next at hres
  cases hres with
  | @first e he hs hc ho =>
    obtain rfl := h.named name e he
    refine ⟨h.context, fun other e' he' => ?_, fun b hb => ?_⟩
    · simp only [setUp, note, Keyed.get?_insert] at he'
      split at he'
      case isTrue hother =>
        cases he'
        exact hother.symm
      case isFalse => exact h.named other e' he'
    · by_cases hname : e.info.name = b.info.name
      · obtain ⟨e', he', hf, -, -⟩ := h.stands b hb
        rw [← hname, he] at he'
        cases he'
        refine ⟨{ e with outcome := some (e.function.setUp (r.situation e.id)) }, ?_, hf, hc, ?_⟩
        · simp only [setUp, note, Keyed.get?_insert, hname, if_true]
        · rintro _ ⟨⟩
          rw [hf]
          exact (setUp_lookup hb h.context).2
      · exact (h.stands b hb).insert hname rfl
  | _ => exact h

/-- The look-ups stay in place through all that hands over nothing. -/
lemma serves_survives (store : EnrichmentStore) : Survives (Serves store) :=
  .of_steps (fun name _ h => h.resolve name) fun _ _ _ h => ⟨h.context, h.named, h.stands⟩

/-- A function of another name does not come in the way of the look-ups. -/
lemma Serves.insert (h : Serves store r) {info : FunctionInfo} {f : Function} {replace : Bool}
    (hname : canonicalName info.name ∉ LookupFunctions.catalog.map (·.info.name)) :
    Serves store (Registry.insert info f replace r).2 := by
  have hhand : Serves store r.hand := ⟨h.context, h.named, h.stands⟩
  have htable : (r.enter info f).table = Keyed.insert r.table (canonicalName info.name)
      { info := { info with name := canonicalName info.name }, id := r.nextId, function := f } := rfl
  have henter : Serves store (r.enter info f) := by
    refine ⟨h.context, fun other e he => ?_, fun b hb => ?_⟩
    · rw [htable, Keyed.get?_insert] at he
      split at he
      case isTrue hother =>
        obtain rfl := Option.some.inj he
        exact hother.symm
      case isFalse => exact h.named other e he
    · refine (h.stands b hb).insert (fun heq => hname ?_) htable
      rw [heq]
      exact List.mem_map_of_mem hb
  by_cases hempty : canonicalName info.name = ""
  · rw [insert_empty hempty]
    exact hhand
  · cases he : Keyed.get? r.table (canonicalName info.name) with
    | none =>
      rw [insert_free hempty he]
      exact henter
    | some old =>
      cases replace with
      | false =>
        rw [insert_taken hempty he]
        exact hhand
      | true =>
        obtain ⟨hcloses, htable⟩ := closes_closeEntry old (r.enter info f)
        rw [insert_over hempty he]
        refine ⟨hcloses.context_eq ▸ henter.context, htable ▸ henter.named, fun b hb => ?_⟩
        rw [Stands, htable]
        exact henter.stands b hb

/-- The catalog serves the store in its surroundings. -/
lemma serves_ofCatalog (store : EnrichmentStore) : Serves store (ofCatalog { store := some store.source }) := by
  obtain ⟨hconsistent, hcontext, hpast, hopen⟩ :=
    (consistent_empty { store := some store.source }).addBuiltins (fun _ _ he => nomatch he) catalog
  refine ⟨congrArg Context.store hcontext, fun name e he => (hconsistent.tracks name e he).name_eq, fun b hb => ?_⟩
  have hb : b ∈ catalog := by
    simp only [catalog, List.mem_append]
    exact .inl (.inl (.inl (.inr hb)))
  obtain ⟨e, he, hf⟩ := get?_ofCatalog hb { store := some store.source }
  refine ⟨e, he, hf, hopen _ e he, fun outcome ho => ?_⟩
  -- Nothing has been set up yet.
  obtain ⟨-, newer, older, hset, -⟩ := (hconsistent.tracks _ e he).set_up outcome ho
  rw [hpast] at hset
  exact absurd hset.symm (by simp)

/-- A registry that came from the catalog without other functions of these names serves. -/
lemma Serving.serves (h : Serving store r) : Serves store r := by
  induction h with
  | start store => exact serves_ofCatalog store
  | evaluate x vars _ ih => exact (serves_survives _).evaluate x vars _ ih
  | offer info f replace hname _ ih => exact ih.insert hname
  | record type indicator entries _ ih => exact ⟨rfl, ih.named, ih.stands⟩

/-- The value is a text or null. -/
def TextOrNull (v : Value) : Prop :=
  v = .null ∨ ∃ text, v = .string text

/-- A look-up gives what it makes of the record of two texts, and nothing else where one of them is null. -/
def lookedUp (store : EnrichmentStore) (absent : Value) (found : Option Entries → Value) : Value → Value → Value
  | .string type, .string indicator => found (store.get? type indicator)
  | _, _ => absent

/-- Applied to texts, a look-up answers with what the store has. -/
lemma apply_lookup {s : Situation} (hs : s.context.store = some store.source) (hv : TextOrNull v) (hw : TextOrNull w) :
    (LookupFunctions.lookup function absent found).apply s [v, w] = .ok (lookedUp store absent found v w) := by
  have harity : Arguments.checkArity function [v, w] 2 (some 2) = .ok () := rfl
  simp only [LookupFunctions.lookup, LookupFunctions.answer, harity, LookupFunctions.store, hs]
  rcases hv with rfl | ⟨type, rfl⟩
  · rcases hw with rfl | ⟨indicator, rfl⟩ <;> rfl
  · rcases hw with rfl | ⟨indicator, rfl⟩ <;> rfl

/-- The result of a call is that of the function, which is ready. -/
lemma Serves.call (h : Serves store r) (hb : b ∈ LookupFunctions.catalog)
    (hf : b.function = LookupFunctions.lookup function absent found) (hv : TextOrNull v) (hw : TextOrNull w) :
    (Registry.call b.info.name [v, w] r).1 = .ok (lookedUp store absent found v w) := by
  obtain ⟨e, he, hfunction, hclosed, houtcome⟩ := h.stands b hb
  have hsituation : (r.situation e.id).context.store = some store.source := h.context
  obtain ⟨hstateful, hsetUp⟩ := setUp_lookup hb hsituation
  rw [← hfunction] at hstateful hsetUp
  have hready : (ensureReady e r).1 = .ok () := by
    cases ho : e.outcome with
    | none => rw [ensureReady_first hstateful hclosed ho, hsetUp]
    | some outcome => rw [ensureReady_again hstateful hclosed ho, houtcome outcome ho]
  have hres : Registry.resolve b.info.name r = (.ok e, (Registry.resolve b.info.name r).2) := by
    refine Prod.ext ?_ rfl
    rw [resolve_some he, hready]
    rfl
  have hnext := h.resolve b.info.name
  rw [call_ok hres]
  show e.function.apply (Registry.situation (Registry.resolve b.info.name r).2 e.id) [v, w] = _
  rw [hfunction, hf]
  exact apply_lookup hnext.context hv hw

/-- The two look-ups answer with the record of a pair and with whether there is one. -/
lemma Serves.answers (h : Serves store r) (hv : TextOrNull v) (hw : TextOrNull w) :
    (Registry.call "ENRICHMENT_GET" [v, w] r).1 = .ok (lookedUp store .null recordValue v w) ∧
      (Registry.call "ENRICHMENT_EXISTS" [v, w] r).1 = .ok (lookedUp store (.bool false) recordFound v w) :=
  ⟨h.call (mem_lookups.2 (.inl rfl)) function_lookups.1 hv hw,
    h.call (mem_lookups.2 (.inr rfl)) function_lookups.2 hv hw⟩

/-- A record is found if its value is not null. -/
lemma lookedUp_found (store : EnrichmentStore) (hv : TextOrNull v) (hw : TextOrNull w) :
    ∃ exists?, lookedUp store (.bool false) recordFound v w = .bool exists? ∧
      (exists? = true ↔ lookedUp store .null recordValue v w ≠ .null) := by
  rcases hv with rfl | ⟨type, rfl⟩
  · exact ⟨false, rfl, nofun, fun h => absurd rfl h⟩
  · rcases hw with rfl | ⟨indicator, rfl⟩
    · exact ⟨false, rfl, nofun, fun h => absurd rfl h⟩
    · refine ⟨(store.get? type indicator).isSome, rfl, ?_⟩
      simp only [lookedUp, recordValue]
      cases store.get? type indicator with
      | none => exact ⟨nofun, fun h => absurd rfl h⟩
      | some record => exact ⟨nofun, fun _ => rfl⟩

end Registry

namespace EnrichmentStore

open Registry

/-- There is a store of a document if it is an object of objects of objects, and else an error of its configuration.
After any insertions the store finds for a pair the record that was inserted last, or else the object that stands in
the document under the two names, and its size is the number of pairs for which it finds one. In a registry of the
catalog that holds the store, whatever has been done with the registry, the look-up of a record gives it for two texts
and otherwise null, and the look-up of its existence is true if that is not null. -/
theorem store_answers (d : Document) (hd : Unrepeated d) :
    ((∃ store, ofDocument d = .ok store) ↔ HoldsTypes d) ∧
    (¬HoldsTypes d → ∃ fault, ofDocument d = .error (.invalidConfig fault)) ∧
    ∀ loaded, ofDocument d = .ok loaded → ∀ inserted : List Insertion,
      let store := loaded.insertAll inserted
      (∀ type indicator, store.get? type indicator =
        (inserted.reverse.lookup (type, indicator)).or (recordAt? d type indicator)) ∧
      {p : String × String | (store.get? p.1 p.2).isSome}.encard = store.size ∧
      ∀ r, Serving store r → ∀ v w, TextOrNull v → TextOrNull w → ∃ value exists?,
        (Registry.call "ENRICHMENT_GET" [v, w] r).1 = .ok value ∧
        (Registry.call "ENRICHMENT_EXISTS" [v, w] r).1 = .ok (.bool exists?) ∧
        (exists? = true ↔ value ≠ .null) ∧
        ∀ type indicator, v = .string type → w = .string indicator →
          value = ((store.get? type indicator).map .map).getD .null := by
  have hload := loads_ofDocument d
  refine ⟨?_, ?_, fun loaded hloaded inserted => ?_⟩
  · rcases hload with ⟨hshape, hok⟩ | ⟨hshape, fault, herror⟩
    · exact ⟨fun _ => hshape, fun _ => ⟨_, hok⟩⟩
    · exact ⟨fun ⟨_, hok⟩ => (nomatch herror.symm.trans hok), fun h => absurd h hshape⟩
  · rcases hload with ⟨hshape, -⟩ | ⟨-, herror⟩
    · exact fun h => absurd hshape h
    · exact fun _ => herror
  · intro store
    -- Only a document of the right shape loads, and its records come before those that were inserted.
    obtain ⟨⟨types, rfl, -⟩, hok⟩ | ⟨-, fault, herror⟩ := hload
    · cases hloaded.symm.trans hok
      have hsingle : Single store := (single_empty.insertAll _).insertAll inserted
      refine ⟨fun type indicator => ?_, encard_eq_size hsingle, fun r hr v w hv hw => ?_⟩
      · rw [get?_insertAll _ inserted (type, indicator)]
        congr 1
        exact get?_recordsOf hd (type, indicator)
      · obtain ⟨hget, hexists⟩ := hr.serves.answers hv hw
        obtain ⟨found, hfound, hiff⟩ := lookedUp_found store hv hw
        refine ⟨_, found, hget, hfound ▸ hexists, hiff, ?_⟩
        rintro type indicator rfl rfl
        rfl
    · cases herror.symm.trans hloaded

/-- A record without entries stands under an empty name, until another is inserted in its place while the registry is
at work. The type and the indicator are not exchanged. -/
theorem store_answers_replaced :
    let d := Document.object [("whois", .object [("", .object [])])]
    let inserted : List Insertion := [(("whois", ""), [("owner", .string "a")])]
    ∃ loaded r, Unrepeated d ∧ ofDocument d = .ok loaded ∧ Serving (loaded.insertAll inserted) r ∧
      TextOrNull (.string "whois") ∧ TextOrNull (.string "") ∧ loaded.get? "whois" "" = some [] ∧
      (Registry.call "ENRICHMENT_GET" [.string "whois", .string ""] r).1 = .ok (.map [("owner", .string "a")]) ∧
      (Registry.call "ENRICHMENT_EXISTS" [.string "", .string "whois"] r).1 = .ok (.bool false) := by
  intro d inserted
  let loaded : EnrichmentStore := ⟨[(("whois", ""), [])]⟩
  have hd : Unrepeated (.object [("whois", .object [("", .object [])])]) := by
    rintro _ ⟨⟩
    refine ⟨by decide, List.forall_mem_singleton.2 ?_⟩
    rintro _ ⟨⟩
    decide
  have hloaded : ofDocument d = .ok loaded := rfl
  have hstart : Serving loaded (ofCatalog { store := some loaded.source }) := .start loaded
  have hserving := (hstart.evaluate (.call "ENRICHMENT_GET" []) (.ofEntries [])).record "whois" "" [("owner", .string "a")]
  have hwhois : TextOrNull (.string "whois") := .inr ⟨_, rfl⟩
  have hempty : TextOrNull (.string "") := .inr ⟨_, rfl⟩
  -- The store of a document with one empty record gets another one under the same pair.
  obtain ⟨-, -, hanswers⟩ := store_answers d hd
  obtain ⟨-, -, hcalls⟩ := hanswers loaded hloaded inserted
  obtain ⟨value, -, hget, -, -, hvalue⟩ := hcalls _ hserving _ _ hwhois hempty
  obtain ⟨other, exists?, -, hexists, hiff, hother⟩ := hcalls _ hserving _ _ hempty hwhois
  rw [hvalue _ _ rfl rfl] at hget
  have hnone : other = .null := hother _ _ rfl rfl
  have hfalse : exists? = false := Bool.eq_false_iff.2 fun h => hiff.1 h hnone
  rw [hfalse] at hexists
  exact ⟨loaded, _, hd, hloaded, hserving, hwhois, hempty, rfl, hget, hexists⟩

end EnrichmentStore

end EventRules
