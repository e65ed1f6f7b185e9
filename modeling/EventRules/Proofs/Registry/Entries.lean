import EventRules.Proofs.Engine.Invariant
import EventRules.Proofs.Registry.Release

/-!
# What holds of every entry

A registry changes its table in three ways: an entry for a further function comes, and an entry that is
there learns the outcome of its setting up or is marked as closed. What these three leave true of
entries holds of every entry in every run, and a name that is taken stays taken.
-/

namespace EventRules.Registry

variable {P : String → Registration → Prop} {Allowed : Function → Prop} {context : Context} {names : List String}
  {r : Registry} {e : Registration} {name : String}

/-- A property of names and their entries that everything keeps which a registry does to an entry. -/
structure Lasting (context : Context) (P : String → Registration → Prop) (Allowed : Function → Prop) : Prop where
  fresh : ∀ info id f, Allowed f → P info.name { info, id, function := f }
  setUp : ∀ name e s, s.context = context → P name e →
    P e.info.name { e with outcome := some (e.function.setUp s) }
  close : ∀ name e, P name e → P name { e with closed := true }

/-- The registry has certain surroundings, its entries have a property, and certain names are taken. -/
structure Populated (context : Context) (P : String → Registration → Prop) (names : List String) (r : Registry) :
    Prop where
  context_eq : r.context = context
  entry : ∀ name e, Keyed.get? r.table name = some e → P name e
  taken : ∀ name ∈ names, r.contains name = true

namespace Populated

/-- An entry with the property may be put into the table. -/
lemma insert (h : Populated context P names r) (he : P name e) :
    Populated context P names { r with table := Keyed.insert r.table name e } where
  context_eq := h.context_eq
  entry other e' he' := by
    simp only [Keyed.get?_insert] at he'
    split at he'
    case isTrue hother =>
      cases he'
      exact hother ▸ he
    case isFalse => exact h.entry other e' he'
  taken other hother := by
    have htaken := h.taken other hother
    simp only [contains, Keyed.has, Keyed.get?_insert] at htaken ⊢
    split
    · rfl
    · exact htaken

/-- Only the surroundings and the table matter. -/
lemma of_eq {r' : Registry} (h : Populated context P names r) (hcontext : r'.context = r.context)
    (htable : r'.table = r.table) : Populated context P names r' := by
  refine ⟨hcontext.trans h.context_eq, fun name e he => h.entry name e (htable ▸ he), fun name hname => ?_⟩
  have htaken := h.taken name hname
  rwa [contains, ← htable] at htaken

/-- To resolve a name leaves the property of all entries. -/
lemma resolve (hP : Lasting context P Allowed) (h : Populated context P names r) (name : String) :
    Populated context P names (Registry.resolve name r).2 := by
  have hres := resolution name r
  generalize (Registry.resolve name r).1 = result, (Registry.resolve name r).2 = next at hres
  cases hres with
  | @first e he hs hc ho =>
    have hset := hP.setUp name e (r.situation e.id) h.context_eq (h.entry name e he)
    exact (h.insert hset).of_eq rfl rfl
  | _ => exact h

/-- To apply a function leaves the table. -/
lemma applyEntry (h : Populated context P names r) (e : Registration) (args : List Value) :
    Populated context P names (Registry.applyEntry e args r).2 :=
  h.of_eq rfl rfl

/-- To close a function leaves the table. -/
lemma closeEntry (h : Populated context P names r) (e : Registration) :
    Populated context P names (Registry.closeEntry e r).2 := by
  obtain ⟨hcloses, htable⟩ := closes_closeEntry e r
  exact h.of_eq hcloses.context_eq htable

/-- To close names marks their entries and leaves them there. -/
lemma closeNames (hP : Lasting context P Allowed) (h : Populated context P names r) (closing : List String) :
    Populated context P names (Registry.closeNames closing r).2 := by
  induction closing generalizing r with
  | nil => exact h
  | cons name closing ih =>
    cases he : Keyed.get? r.table name with
    | none =>
      rw [closeNames_none he]
      exact ih h
    | some e =>
      have hmarked : Populated context P names (r.markClosed name e) :=
        h.insert (hP.close name e (h.entry name e he))
      rw [closeNames_some he]
      exact ih (hmarked.closeEntry e)

/-- A function that is allowed may be put into the registry. -/
lemma put (hP : Lasting context P Allowed) (h : Populated context P names r) {f : Function} (hf : Allowed f)
    (info : FunctionInfo) (replace : Bool) : Populated context P names (Registry.insert info f replace r).2 := by
  have hhand : Populated context P names r.hand := h.of_eq rfl rfl
  rcases insert_cases info f replace r with hrun | ⟨named, ⟨-, hrun⟩ | ⟨old, -, hrun⟩⟩
  · rw [hrun]
    exact hhand
  · rw [hrun]
    exact hhand.insert (hP.fresh named r.nextId f hf)
  · rw [hrun]
    exact (hhand.insert (hP.fresh named r.nextId f hf)).closeEntry old

/-- Functions of a catalog come with entries that have the property under the names in the catalog. -/
lemma addBuiltins (h : Populated context P names r) {builtins : List Builtin}
    (hfresh : ∀ b ∈ builtins, ∀ id, P b.info.name { info := b.info, id, function := b.function }) :
    Populated context P names (builtins.foldl addBuiltin r) := by
  induction builtins generalizing r with
  | nil => exact h
  | cons b builtins ih =>
    have hb := hfresh b List.mem_cons_self r.nextId
    have hnext : Populated context P names (addBuiltin r b) := (h.insert hb).of_eq rfl rfl
    exact ih hnext fun b' hb' => hfresh b' (List.mem_cons_of_mem _ hb')

/-- A new registry has no entries. -/
lemma empty (context : Context) (P : String → Registration → Prop) : Populated context P [] { context } :=
  ⟨rfl, fun _ _ he => (nomatch he), fun _ hname => absurd hname List.not_mem_nil⟩

/-- The property as something to be kept, with nothing asked of earlier and later registries. -/
def guard (context : Context) (P : String → Registration → Prop) (names : List String) : Run.Guard Registry where
  inv := Populated context P names
  rel _ _ := True
  refl _ := trivial
  trans _ _ := trivial

/-- A function that was resolved is one of an entry with the property. -/
lemma of_resolve (h : Populated context P names r) {r' : Registry} (hres : Registry.resolve name r = (.ok e, r')) :
    P name e := by
  have hresolution := resolution name r
  rw [hres] at hresolution
  generalize hresult : (Except.ok e, r').1 = result at hresolution
  cases hresolution with
  | unknown _ => cases hresult
  | stateless he _ =>
    cases hresult
    exact h.entry name _ he
  | closed he _ _ => cases hresult
  | @again e' outcome he _ _ _ =>
    cases outcome with
    | ok u =>
      cases hresult
      exact h.entry name _ he
    | error err => cases hresult
  | @first e' he _ _ _ =>
    cases hset : e'.function.setUp (r.situation e'.id) with
    | ok u =>
      rw [hset] at hresult
      cases hresult
      exact h.entry name _ he
    | error err =>
      rw [hset] at hresult
      cases hresult

/-- The calls of a registry keep the property, and apply functions of entries with it under the names that are called. -/
lemma calls_respects (hP : Lasting context P Allowed) (called : String → Prop) :
    calls.Respects (guard context P names) called fun _ e => ∃ name, called name ∧ P name e where
  resolve name _ _ h := ⟨h.resolve hP name, trivial⟩
  ready name hname _ _ _ h hres := ⟨name, hname, h.of_resolve (Run.of_lift_ok hres)⟩
  apply _ e args h _ := ⟨h.applyEntry e args, trivial⟩
  stable _ _ _ _ he := he

end Populated

/-- What lasts in entries holds of every entry in every run. -/
lemma invariant_populated (hP : Lasting context P Allowed) (names : List String) :
    Invariant (Populated context P names) Allowed where
  toSurvives := .of_steps (fun name _ h => h.resolve hP name) fun e args _ h => h.applyEntry e args
  insert info _ replace _ hf h := h.put hP hf info replace
  closeAll _ h := h.closeNames hP _

end EventRules.Registry
