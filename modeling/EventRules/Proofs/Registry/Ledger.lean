import EventRules.Proofs.Engine.Invariant
import EventRules.Proofs.Registry.Release
import EventRules.Proofs.Text.Canonical

/-!
# The functions of a registry as a ledger

A ledger is the list of the functions that were put into a registry, the last one first, and the function
of a name is the last one that was put there under that name. Nothing but offering a function changes the
ledger; setting functions up, applying and closing them changes entries of the table in other ways only.
`Registry.Follows` ties the table to the ledger, and is kept step by step.
-/

namespace EventRules

open Registry

/-- The functions that were put into a registry, each with its description, the last one first. -/
abbrev Ledger := List (FunctionInfo × Function)

namespace Ledger

variable {ledger : Ledger} {name : String} {info : FunctionInfo} {f : Function}

/-- The last function under a name. -/
def last? (ledger : Ledger) (name : String) : Option (FunctionInfo × Function) :=
  ledger.find? (·.1.name = name)

/-- The ledger after a function was offered. It is put under its canonical name, unless that is empty,
or is taken and the function is not to replace another. -/
def offer (ledger : Ledger) (info : FunctionInfo) (f : Function) (replace : Bool) : Ledger :=
  let name := canonicalName info.name
  if name = "" ∨ replace = false ∧ (ledger.last? name).isSome then ledger
  else ({ info with name }, f) :: ledger

/-- The ledger after an operation. -/
def perform (ledger : Ledger) : Operation → Ledger
  | .register info f => ledger.offer info f false
  | .registerFn info apply => ledger.offer info { apply } false
  | .replace info f => ledger.offer info f true
  | _ => ledger

/-- The ledger after some operations. -/
def performAll (ledger : Ledger) (ops : List Operation) : Ledger :=
  ops.foldl perform ledger

/-- The ledger of functions that a registry starts with. -/
def ofBuiltins (builtins : List Builtin) : Ledger :=
  (builtins.map fun b => (b.info, b.function)).reverse

/-- The last entry hides all earlier ones of its name. -/
lemma last?_cons (entry : FunctionInfo × Function) (ledger : Ledger) (name : String) :
    last? (entry :: ledger) name = if name = entry.1.name then some entry else ledger.last? name := by
  rw [last?, List.find?_cons]
  by_cases h : name = entry.1.name
  · simp [h]
  · simp [h, Ne.symm h, last?]

/-- What is found under a name has that name. -/
lemma name_of_last? (h : ledger.last? name = some (info, f)) : info.name = name := by
  simpa using List.find?_some h

/-- Every name in the ledger is canonical. -/
def Canonical (ledger : Ledger) : Prop :=
  ∀ entry ∈ ledger, Registry.Canonical entry.1.name

/-- An offer puts an entry under a name in capital letters, or none. -/
lemma Canonical.offer (h : ledger.Canonical) (info : FunctionInfo) (f : Function) (replace : Bool) :
    (ledger.offer info f replace).Canonical := by
  simp only [Ledger.offer]
  split
  case isTrue => exact h
  case isFalse hoffer => exact List.forall_mem_cons.2 ⟨canonical_canonicalName (not_or.1 hoffer).1, h⟩

/-- Names stay in capital letters through any operations. -/
lemma Canonical.performAll (h : ledger.Canonical) (ops : List Operation) : (ledger.performAll ops).Canonical := by
  induction ops generalizing ledger with
  | nil => exact h
  | cons op ops ih =>
    refine ih ?_
    cases op with
    | register info f => exact h.offer info f false
    | registerFn info apply => exact h.offer info { apply } false
    | replace info f => exact h.offer info f true
    | _ => exact h

/-- A name that is found is written in capital letters and not empty. -/
lemma Canonical.of_last? (h : ledger.Canonical) (hlast : ledger.last? name = some (info, f)) :
    Registry.Canonical name := by
  have hname := h (info, f) (List.mem_of_find?_eq_some hlast)
  rwa [name_of_last? hlast] at hname

end Ledger

namespace Registry

variable {ledger : Ledger} {r r' : Registry} {name : String} {info : FunctionInfo} {f : Function} {e e' : Registration}

/-! ## Offering a function -/

/-- The registry after a further function took its place in the table. -/
def enter (r : Registry) (info : FunctionInfo) (f : Function) : Registry :=
  let name := canonicalName info.name
  { r.hand with table := Keyed.insert r.table name { info := { info with name }, id := r.nextId, function := f } }

/-- A function without a name is refused, but it was handed over. -/
lemma insert_empty (h : canonicalName info.name = "") (f : Function) (replace : Bool) (r : Registry) :
    insert info f replace r = (.error (.invalidConfig .emptyFunctionName), r.hand) := by
  simp [insert, h, hand]

/-- A function under a name that is taken is refused without leave to replace. -/
lemma insert_taken (hname : canonicalName info.name ≠ "") (h : Keyed.get? r.table (canonicalName info.name) = some e)
    (f : Function) : insert info f false r = (.error (.duplicateFunction (canonicalName info.name)), r.hand) := by
  simp [insert, hname, h, hand]

/-- A function under a free name enters the table. -/
lemma insert_free (hname : canonicalName info.name ≠ "") (h : Keyed.get? r.table (canonicalName info.name) = none)
    (f : Function) (replace : Bool) : insert info f replace r = (.ok (), r.enter info f) := by
  simp [insert, hname, h, hand, enter]

/-- A function that may replace another enters the table, and the other one is closed. -/
lemma insert_over (hname : canonicalName info.name ≠ "") (h : Keyed.get? r.table (canonicalName info.name) = some e)
    (f : Function) : insert info f true r = closeEntry e (r.enter info f) := by
  simp [insert, hname, h, hand, enter]

/-! ## The table and the ledger -/

/-- The table is in order, and has under each name the last function in the ledger. -/
structure Follows (ledger : Ledger) (r : Registry) : Prop where
  sorted : Keyed.Sorted r.table
  found : ∀ name, (Keyed.get? r.table name).map (fun e => (e.info, e.function)) = ledger.last? name

namespace Follows

/-- What is in the table is the last entry of its name. -/
lemma last? (h : Follows ledger r) (he : Keyed.get? r.table name = some e) :
    ledger.last? name = some (e.info, e.function) := by
  rw [← h.found, he]
  rfl

/-- An entry in the table bears the name under which it stands. -/
lemma name_eq (h : Follows ledger r) (he : Keyed.get? r.table name = some e) : e.info.name = name :=
  Ledger.name_of_last? (h.last? he)

/-- Only the table matters. -/
lemma of_table (h : Follows ledger r) (htable : r'.table = r.table) : Follows ledger r' :=
  ⟨htable ▸ h.sorted, htable ▸ h.found⟩

/-- What is known of the state of a function may change. -/
lemma update (h : Follows ledger r) (he : Keyed.get? r.table name = some e) (hinfo : e'.info = e.info)
    (hfunction : e'.function = e.function) : Follows ledger { r with table := Keyed.insert r.table name e' } where
  sorted := h.sorted.insert name e'
  found other := by
    rw [Keyed.get?_insert]
    split
    case isTrue hother => rw [hother, h.last? he, Option.map_some, hinfo, hfunction]
    case isFalse => exact h.found other

/-- An entry that is put into the table and on the ledger is the last of its name in both. -/
lemma cons (h : Follows ledger r) (info : FunctionInfo) (id : Nat) (f : Function) :
    Follows ((info, f) :: ledger) { r with table := Keyed.insert r.table info.name { info, id, function := f } } where
  sorted := h.sorted.insert _ _
  found name := by
    rw [Keyed.get?_insert, Ledger.last?_cons]
    split
    · rfl
    · exact h.found name

/-- To set a function up changes no entry's name and function. -/
lemma resolve (h : Follows ledger r) (name : String) : Follows ledger (Registry.resolve name r).2 := by
  have hres := resolution name r
  generalize (Registry.resolve name r).1 = result, (Registry.resolve name r).2 = next at hres
  cases hres with
  | @first e he hs hc ho =>
    obtain rfl : e.info.name = name := h.name_eq he
    let e' : Registration := { e with outcome := some (e.function.setUp (r.situation e.id)) }
    have hset : Follows ledger { r with table := Keyed.insert r.table e.info.name e' } := h.update he rfl rfl
    exact hset.of_table rfl
  | _ => exact h

/-- To close functions changes no entry's name and function. -/
lemma closeNames (h : Follows ledger r) (names : List String) : Follows ledger (Registry.closeNames names r).2 := by
  induction names generalizing r with
  | nil => exact h
  | cons name names ih =>
    cases he : Keyed.get? r.table name with
    | none =>
      rw [closeNames_none he]
      exact ih h
    | some e =>
      have hmarked : Follows ledger (r.markClosed name e) := h.update he rfl rfl
      rw [closeNames_some he]
      exact ih (hmarked.of_table (closes_closeEntry e _).2)

/-- A name is in the table just if it is on the ledger. -/
lemma contains_eq (h : Follows ledger r) (name : String) : r.contains name = (ledger.last? name).isSome := by
  rw [← h.found, Option.isSome_map]
  rfl

/-- A registry follows its ledger when a function is offered. -/
lemma insert (h : Follows ledger r) (info : FunctionInfo) (f : Function) (replace : Bool) :
    Follows (ledger.offer info f replace) (Registry.insert info f replace r).2 := by
  have henter : Follows (({ info with name := canonicalName info.name }, f) :: ledger) (r.enter info f) :=
    (h.cons { info with name := canonicalName info.name } r.nextId f).of_table rfl
  by_cases hname : canonicalName info.name = ""
  · rw [insert_empty hname, Ledger.offer, if_pos (.inl hname)]
    exact h.of_table rfl
  · cases he : Keyed.get? r.table (canonicalName info.name) with
    | none =>
      have hlast : ledger.last? (canonicalName info.name) = none := by
        rw [← h.found, he]
        rfl
      rw [insert_free hname he, Ledger.offer, if_neg (by simp [hname, hlast])]
      exact henter
    | some e =>
      cases replace with
      | false =>
        rw [insert_taken hname he, Ledger.offer, if_pos (.inr ⟨rfl, by simp [h.last? he]⟩)]
        exact h.of_table rfl
      | true =>
        rw [insert_over hname he, Ledger.offer, if_neg (by simp [hname])]
        exact henter.of_table (closes_closeEntry e _).2

/-- Everything that is done with functions leaves the table and the ledger in step. -/
lemma survives (ledger : Ledger) : Survives (Follows ledger) :=
  .of_steps (fun name _ h => h.resolve name) fun _ _ _ h => h.of_table rfl

/-- A registry follows its ledger through every operation. -/
lemma perform {engine : Engine} (h : Follows ledger engine.registry) (op : Operation) :
    Follows (ledger.perform op) (engine.perform op).registry := by
  cases op with
  | register info f =>
    rw [Engine.perform_register, Engine.registry_onRegistry]
    exact h.insert info f false
  | registerFn info apply =>
    rw [Engine.perform_registerFn, Engine.registry_onRegistry]
    exact h.insert info { apply } false
  | replace info f =>
    rw [Engine.perform_replace, Engine.registry_onRegistry]
    exact h.insert info f true
  | closeAll => exact h.closeNames _
  | _ => exact Engine.preserves_quiet (survives ledger) ⟨rfl, rfl⟩ h

/-- The ledger stays in step with the registry of an engine through any operations. -/
lemma performAll {engine : Engine} (h : Follows ledger engine.registry) (ops : List Operation) :
    Follows (ledger.performAll ops) (engine.performAll ops).registry := by
  induction ops generalizing ledger engine with
  | nil => exact h
  | cons op ops ih => exact ih (h.perform op)

/-- A registry without entries follows the empty ledger. -/
lemma empty (context : Context) : Follows [] { context } where
  sorted := .nil
  found _ := rfl

/-- Functions that are added to a registry are on its ledger. -/
lemma addBuiltins (h : Follows ledger r) (builtins : List Builtin) :
    Follows (Ledger.ofBuiltins builtins ++ ledger) (builtins.foldl addBuiltin r) := by
  induction builtins generalizing ledger r with
  | nil => exact h
  | cons b builtins ih =>
    have hadd : Follows ((b.info, b.function) :: ledger) (addBuiltin r b) := (h.cons b.info r.nextId b.function).of_table rfl
    have hledger : Ledger.ofBuiltins (b :: builtins) ++ ledger =
        Ledger.ofBuiltins builtins ++ (b.info, b.function) :: ledger := by
      simp [Ledger.ofBuiltins]
    rw [hledger]
    exact ih hadd

end Follows

end Registry

end EventRules
