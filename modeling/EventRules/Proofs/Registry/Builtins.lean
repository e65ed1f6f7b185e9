import EventRules.Proofs.Registry.Table

/-!
# Functions of the catalog in a registry

A function without state whose answer depends on its arguments only is called by evaluating the
arguments and applying it: the registry has no part in the value. `Registry.Offers` says that such a
function stands under a name, and a registry of the catalog offers each of its functions.
-/

namespace EventRules

/-- Where no name comes twice, each function is the last one under its name. -/
lemma Ledger.last?_of_mem {ledger : Ledger} {info : FunctionInfo} {f : Function}
    (h : ledger.Pairwise fun p q => p.1.name ≠ q.1.name) (hmem : (info, f) ∈ ledger) :
    ledger.last? info.name = some (info, f) := by
  induction ledger with
  | nil => cases hmem
  | cons entry ledger ih =>
    obtain ⟨hfirst, hrest⟩ := List.pairwise_cons.1 h
    rw [last?_cons]
    cases hmem with
    | head => rw [if_pos rfl]
    | tail _ hmem => rw [if_neg (hfirst _ hmem).symm, ih hrest hmem]

/-- The functions of the catalog have different names. -/
lemma distinct_catalog : (Ledger.ofBuiltins catalog).Pairwise fun p q => p.1.name ≠ q.1.name := by
  have hnames : catalog.Pairwise fun b b' => b'.info.name ≠ b.info.name := by decide +kernel
  rw [Ledger.ofBuiltins, List.pairwise_reverse, List.pairwise_map]
  exact hnames

namespace Registry

variable {r s : Registry} {name : String} {f : List Value → Except Error Value} {args : List Value}

/-- A function of its arguments stands under the name. -/
def Offers (r : Registry) (name : String) (f : List Value → Except Error Value) : Prop :=
  ∃ e, Keyed.get? r.table name = some e ∧ e.function = .ofArgs fun args => liftM (f args)

/-- A built-in function is resolved at once: it has nothing to set up. -/
lemma Offers.resolve (h : r.Offers name f) :
    ∃ e : Registration, Registry.resolve name r = (.ok e, r) ∧ e.function = .ofArgs fun args => liftM (f args) := by
  obtain ⟨e, he, hf⟩ := h
  have hstateless : e.function.stateful = false := by
    rw [hf]
    rfl
  refine ⟨e, ?_, hf⟩
  rw [resolve_some he, ensureReady_stateless hstateless]
  rfl

/-- The value of a call is what the function makes of the values of the arguments. -/
lemma Offers.evaluate_call {vars : Resolver} {items : List Expr} (h : r.Offers name f)
    (hitems : Expr.evaluateItems calls vars items r = (.ok args, s)) :
    ((Expr.call name items).evaluate calls vars r).1 = liftM (f args) := by
  obtain ⟨e, hres, hf⟩ := h.resolve
  have hcall : calls.resolve name r = (.ok e, r) := Run.lift_ok hres
  rw [Expr.evaluate_call, Run.bind_ok hcall, Run.bind_ok hitems]
  show e.function.apply _ args = liftM (f args)
  rw [hf]
  rfl

/-- In a registry of the catalog each function of the catalog stands under its name. -/
lemma get?_ofCatalog {b : Builtin} (hb : b ∈ catalog) (context : Context) :
    ∃ e, Keyed.get? (ofCatalog context).table b.info.name = some e ∧ e.function = b.function := by
  have hmem : (b.info, b.function) ∈ Ledger.ofBuiltins catalog :=
    List.mem_reverse.2 (List.mem_map.2 ⟨b, hb, rfl⟩)
  have hfollows := (Follows.empty context).addBuiltins catalog
  have hfound := hfollows.found b.info.name
  rw [List.append_nil, Ledger.last?_of_mem distinct_catalog hmem, Option.map_eq_some_iff] at hfound
  obtain ⟨e, he, heq⟩ := hfound
  exact ⟨e, he, (Prod.mk.inj heq).2⟩

/-- A registry of the catalog offers the functions of the catalog. -/
lemma offers_ofCatalog {b : Builtin} (hb : b ∈ catalog) (hf : b.function = .ofArgs fun args => liftM (f args))
    (context : Context) :
    (ofCatalog context).Offers b.info.name f := by
  obtain ⟨e, he, hfunction⟩ := get?_ofCatalog hb context
  exact ⟨e, he, hfunction.trans hf⟩

end Registry

end EventRules
