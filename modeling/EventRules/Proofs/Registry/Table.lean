import EventRules.Function.Catalog
import EventRules.Proofs.Registry.Ledger
import EventRules.Proofs.Text.ByteOrder

/-!
# The table of functions

What a registry answers to a name is what its ledger has under that name, spelled exactly so, and the names
in the table are canonical. `Registry.Tabulates` collects the answers, `Registry.Registers` and
`Registry.Replaces` what comes of offering a further function. All of it holds of every registry that
follows its ledger, and so after every run.
-/

namespace EventRules

namespace Registry

variable {ledger : Ledger} {r : Registry}

/-- The table of a registry is a map from canonical names, in which stands for each name the last function
that was put there under it. -/
structure Tabulates (ledger : Ledger) (r : Registry) : Prop where
  contains : ∀ name, r.contains name = (ledger.last? name).isSome
  info : ∀ name, r.info? name = (ledger.last? name).map (·.1)
  unknown : ∀ name, ledger.last? name = none →
    resolve name r = (.error (.unknownFunction name), r) ∧
      ∀ args, call name args r = (.error (.failure (.unknownFunction name)), r)
  /-- The function that a name is resolved to is made ready first, which may fail. -/
  known : ∀ name info f, ledger.last? name = some (info, f) → ∃ e : Registration, e.info = info ∧ e.function = f ∧
    resolve name r = ((ensureReady e r).1.map fun _ => e, (ensureReady e r).2)
  key : ∀ name e, (name, e) ∈ r.table → Canonical name ∧ e.info.name = name
  increasing : r.functions.Pairwise fun a b => Text.bytes a.name < Text.bytes b.name
  size : r.functions.length = r.size

/-- What comes of registering a function. A refusal leaves the table as it is, and nothing is closed. -/
structure Registers (info : FunctionInfo) (f : Function) (r : Registry) : Prop where
  duplicate : ∀ name, (register info f r).1 = .error (.duplicateFunction name) ↔
    name = canonicalName info.name ∧ r.contains name = true
  empty : ∀ fault, (register info f r).1 = .error (.invalidConfig fault) ↔
    fault = .emptyFunctionName ∧ canonicalName info.name = ""
  done : (register info f r).1 = .ok () ↔ canonicalName info.name ≠ "" ∧ r.contains (canonicalName info.name) = false
  refused : (register info f r).1 ≠ .ok () → (register info f r).2.table = r.table
  past : (register info f r).2.past = r.past

/-- What comes of replacing a function. The new one is in its place whatever the result, which is that of
closing the one before. -/
structure Replaces (info : FunctionInfo) (f : Function) (r : Registry) : Prop where
  refused : canonicalName info.name = "" → (replace info f r).1 = .error (.invalidConfig .emptyFunctionName) ∧
    (replace info f r).2.table = r.table
  installed : canonicalName info.name ≠ "" → Keyed.get? (replace info f r).2.table (canonicalName info.name) =
    some { info := { info with name := canonicalName info.name }, id := r.nextId, function := f }
  closing : canonicalName info.name ≠ "" → ∀ err, (replace info f r).1 = .error err →
    ∃ old, Keyed.get? r.table (canonicalName info.name) = some old ∧ old.outcome = some (.ok ()) ∧ old.closed = false ∧
      old.function.close (r.situation old.id) = .error err

/-- A registry that follows a ledger looks up what the ledger has. -/
lemma Follows.tabulates (h : Follows ledger r) (hledger : ledger.Canonical) : Tabulates ledger r where
  contains := h.contains_eq
  info name := by
    rw [← h.found, Option.map_map]
    rfl
  unknown name hname := by
    have hnone : Keyed.get? r.table name = none := by
      rw [← h.found, Option.map_eq_none_iff] at hname
      exact hname
    have hres := resolve_none hnone
    exact ⟨hres, call_error hres⟩
  known name info f hname := by
    rw [← h.found, Option.map_eq_some_iff] at hname
    obtain ⟨e, he, heq⟩ := hname
    cases heq
    exact ⟨e, rfl, rfl, resolve_some he⟩
  key name e hmem := by
    have he := h.sorted.get?_of_mem hmem
    exact ⟨hledger.of_last? (h.last? he), h.name_eq he⟩
  increasing := by
    rw [functions, List.pairwise_map]
    refine List.Pairwise.imp_of_mem ?_ h.sorted
    rintro ⟨name, e⟩ ⟨other, e'⟩ hmem hmem' hlt
    have hname : e.info.name = name := h.name_eq (h.sorted.get?_of_mem hmem)
    have hother : e'.info.name = other := h.name_eq (h.sorted.get?_of_mem hmem')
    rw [hname, hother]
    exact Text.bytes_lt hlt
  size := List.length_map _

/-- No function stands under the empty name. -/
lemma Tabulates.contains_empty (h : Tabulates ledger r) (hledger : ledger.Canonical) : r.contains "" = false := by
  rw [h.contains]
  cases hlast : ledger.last? "" with
  | none => rfl
  | some entry => exact absurd rfl (hledger.of_last? hlast).nonempty

/-- Registering refuses an empty name and a taken one, and otherwise adds an entry. -/
lemma registers (r : Registry) (info : FunctionInfo) (f : Function) (hempty : r.contains "" = false) :
    Registers info f r := by
  have htaken : r.contains (canonicalName info.name) = (Keyed.get? r.table (canonicalName info.name)).isSome := rfl
  -- Which of the outcomes it is depends on the name alone: it is empty, free or taken.
  by_cases hname : canonicalName info.name = ""
  · have hrun : register info f r = (.error (.invalidConfig .emptyFunctionName), r.hand) :=
      insert_empty hname f false r
    rw [← hname] at hempty
    constructor <;> rw [hrun]
    case duplicate =>
      refine fun name => ⟨nofun, ?_⟩
      rintro ⟨rfl, h⟩
      cases hempty.symm.trans h
    case empty => simp [hname, eq_comm]
    case done => simp [hname]
    case refused => exact fun _ => rfl
    case past => rfl
  · cases he : Keyed.get? r.table (canonicalName info.name) with
    | none =>
      have hrun : register info f r = (.ok (), r.enter info f) := insert_free hname he f false
      rw [he, Option.isSome_none] at htaken
      constructor <;> rw [hrun]
      case duplicate =>
        refine fun name => ⟨nofun, ?_⟩
        rintro ⟨rfl, h⟩
        cases htaken.symm.trans h
      case empty => simp [hname]
      case done => simp [hname, htaken]
      case refused => exact fun h => absurd rfl h
      case past => rfl
    | some e =>
      have hrun : register info f r = (.error (.duplicateFunction (canonicalName info.name)), r.hand) :=
        insert_taken hname he f
      rw [he, Option.isSome_some] at htaken
      constructor <;> rw [hrun]
      case duplicate =>
        intro name
        rw [Except.error.injEq, Error.duplicateFunction.injEq]
        refine ⟨?_, fun h => h.1.symm⟩
        rintro rfl
        exact ⟨rfl, htaken⟩
      case empty => simp [hname]
      case done => simp [htaken]
      case refused => exact fun _ => rfl
      case past => rfl

/-- Replacing refuses an empty name; otherwise the new entry is there, and an error is that of closing the one
before. -/
lemma replaces (r : Registry) (info : FunctionInfo) (f : Function) : Replaces info f r := by
  have hentered : Keyed.get? (r.enter info f).table (canonicalName info.name) =
      some { info := { info with name := canonicalName info.name }, id := r.nextId, function := f } := by
    rw [enter, Keyed.get?_insert, if_pos rfl]
  by_cases hname : canonicalName info.name = ""
  · have hrun : replace info f r = (.error (.invalidConfig .emptyFunctionName), r.hand) :=
      insert_empty hname f true r
    refine ⟨fun _ => ?_, fun h => absurd hname h, fun h => absurd hname h⟩
    rw [hrun]
    exact ⟨rfl, rfl⟩
  · cases he : Keyed.get? r.table (canonicalName info.name) with
    | none =>
      have hrun : replace info f r = (.ok (), r.enter info f) := insert_free hname he f true
      refine ⟨fun h => absurd h hname, fun _ => ?_, fun _ err herr => ?_⟩
      · rw [hrun]
        exact hentered
      · rw [hrun] at herr
        cases herr
    | some old =>
      have hrun : replace info f r = closeEntry old (r.enter info f) := insert_over hname he f
      refine ⟨fun h => absurd h hname, fun _ => ?_, fun _ err herr => ⟨old, he, ?_⟩⟩
      · rw [hrun, (closes_closeEntry old _).2]
        exact hentered
      · rw [hrun] at herr
        by_cases hboth : old.closed = false ∧ old.outcome = some (.ok ())
        · rw [closeEntry_open hboth.1 hboth.2] at herr
          exact ⟨hboth.2, hboth.1, herr⟩
        · rw [closeEntry_idle fun hc ho => hboth ⟨hc, ho⟩] at herr
          cases herr

end Registry

/-- The names of the functions of the catalog are canonical. -/
lemma Ledger.canonical_catalog : (Ledger.ofBuiltins catalog).Canonical := by
  have hnames : ∀ b ∈ catalog, b.info.name ≠ "" ∧ Text.trim b.info.name = b.info.name ∧
      Text.toUpperAscii b.info.name = b.info.name := by decide +kernel
  intro entry hentry
  rw [ofBuiltins, List.mem_reverse, List.mem_map] at hentry
  obtain ⟨b, hb, rfl⟩ := hentry
  obtain ⟨hnonempty, htrimmed, hcapitals⟩ := hnames b hb
  exact ⟨hnonempty, htrimmed, hcapitals⟩

namespace Engine

/-- The table of functions is a map from canonical names, in every run from an engine over an empty
registry or over one of the functions of the catalog. For each name the registry answers with the function
that was put under it last, by a registration that was not refused or in place of another, and any other
name is unknown. A registration is refused for a name that is taken or empty, without any other effect; a
function that replaces another is in its place even where closing that one fails. -/
theorem performAll_table {e₀ : Engine} {builtins : List Builtin} {context : Context}
    (hbuiltins : builtins = [] ∨ builtins = catalog)
    (hregistry : e₀.registry = builtins.foldl Registry.addBuiltin { context }) (ops : List Operation) :
    let r := (e₀.performAll ops).registry
    r.Tabulates ((Ledger.ofBuiltins builtins).performAll ops) ∧
      ∀ info f, r.Registers info f ∧ r.Replaces info f := by
  intro r
  have hstart : Registry.Follows (Ledger.ofBuiltins builtins) e₀.registry := by
    rw [hregistry, ← List.append_nil (Ledger.ofBuiltins builtins)]
    exact (Registry.Follows.empty context).addBuiltins builtins
  have hcanonical : (Ledger.ofBuiltins builtins).Canonical := by
    rcases hbuiltins with rfl | rfl
    · exact nofun
    · exact Ledger.canonical_catalog
  have htabulates : r.Tabulates ((Ledger.ofBuiltins builtins).performAll ops) :=
    (hstart.performAll ops).tabulates (hcanonical.performAll ops)
  have hempty : r.contains "" = false := htabulates.contains_empty (hcanonical.performAll ops)
  exact ⟨htabulates, fun info f => ⟨r.registers info f hempty, r.replaces info f⟩⟩

/-- A function that is offered with blanks around its name and in small letters is known by the name in
capitals only, and the one that replaces it stands there although the first one cannot be closed well. -/
theorem performAll_table_replaced :
    let f : Function :=
      { stateful := true, apply := fun _ _ => .ok .null
        close := fun _ => .error (.unknownFunction "STORE") }
    let second : FunctionInfo := { name := "f ", description := "the second" }
    let ops : List Operation := [.register { name := " f" } f, .resolve "F", .replace second f]
    ∃ e₀, create {} {} = .ok e₀ ∧ ([] = ([] : List Builtin) ∨ [] = catalog) ∧ e₀.registry = {} ∧
      let r := (e₀.performAll ops).registry
      r.info? "F" = some { name := "F", description := "the second" } ∧ r.contains "f" = false ∧
      (Registry.resolve "f" r).1 = .error (.unknownFunction "f") := by
  intro f second ops
  have hcapacity : 1 ≤ ({} : EngineConfig).cacheCapacity := by decide
  have hdepth : 1 ≤ ({} : EngineConfig).maxDepth := by decide
  obtain ⟨e₀, he₀, -, hregistry, -⟩ := create_ok hcapacity hdepth {}
  obtain ⟨htabulates, -⟩ := performAll_table (.inl rfl) hregistry ops
  have hfirst : Registry.canonicalName " f" = "F" := by decide
  have hsecond : Registry.canonicalName "f " = "F" := by decide
  have hledger : (Ledger.ofBuiltins []).performAll ops =
      [({ name := "F", description := "the second" }, f), ({ name := "F" }, f)] := by
    simp [ops, second, Ledger.ofBuiltins, Ledger.performAll, Ledger.perform, Ledger.offer, Ledger.last?, hfirst, hsecond]
  rw [hledger] at htabulates
  refine ⟨e₀, he₀, .inl rfl, hregistry, ?_, ?_, ?_⟩
  · rw [htabulates.info]
    rfl
  · rw [htabulates.contains]
    rfl
  · rw [(htabulates.unknown "f" rfl).1]

end Engine

end EventRules
