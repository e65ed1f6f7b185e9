import EventRules.Function.Numeric
import EventRules.Proofs.Value.Order

/-!
# Extreme values

The greatest and the least of some values are found by comparing each value with the best one before it only. Away from
floats this is enough (`extreme_picks`): what can be compared with one of the values can be compared with all, so that
values of different types are noticed wherever they stand, and none of the values is beyond the one that is left.
-/

namespace EventRules

namespace Value

variable {a b c : Value} {beyond : Ordering}

/-- What can be compared with one value can be compared with what that can be compared with. -/
lemma Comparable.chain (hab : Comparable a b) (hbc : Comparable b c) : Comparable a c := by
  cases hab with
  | int m _ => cases hbc with | int _ k => exact .int m k
  | string s _ => cases hbc with | string _ u => exact .string s u
  | bool p _ => cases hbc with | bool _ r => exact .bool p r

/-- A value that can be compared has no floats in it. -/
lemma Comparable.floatFree (h : Comparable a b) : FloatFree a := by
  cases h with
  | int m _ => exact .int m
  | string s _ => exact .string s
  | bool p _ => exact .bool p

/-- No value is beyond itself. -/
lemma compare?_self (ha : FloatFree a) (hbeyond : beyond ≠ .eq) : a.compare? a ≠ some beyond := by
  intro hself
  obtain ⟨o, ho, -, heq⟩ := (comparable_of_compare? ha ha hself).compare?
  rw [heq.2 rfl, hself] at ho
  exact hbeyond (Option.some.inj ho)

/-- What is beyond the last of three values is beyond one of the others before. -/
lemma Comparable.not_beyond (hab : Comparable a b) (hbc : Comparable b c) (hbeyond : beyond ≠ .eq)
    (ha : a.compare? b ≠ some beyond) (hb : b.compare? c ≠ some beyond) : a.compare? c ≠ some beyond := by
  obtain ⟨o, ho, hoswap, -⟩ := hab.compare?
  obtain ⟨o', ho', hoswap', -⟩ := hbc.compare?
  obtain ⟨o'', ho'', hoswap'', -⟩ := (hab.chain hbc).compare?
  rw [ho, ne_eq, Option.some.injEq] at ha
  rw [ho', ne_eq, Option.some.injEq] at hb
  rw [ho'', ne_eq, Option.some.injEq]
  cases beyond with
  | eq => exact absurd rfl hbeyond
  | gt =>
    obtain ⟨p, hp, hle, -⟩ := hab.trans hbc ho ho'
    cases ho''.symm.trans hp
    rw [← Ordering.isLE_iff_ne_gt] at ha hb ⊢
    exact hle ha hb
  | lt =>
    -- From the other side it is the order of `gt`.
    obtain ⟨p, hp, hle, -⟩ := hbc.symm.trans hab.symm hoswap' hoswap
    cases hoswap''.symm.trans hp
    rw [← Ordering.isGE_iff_ne_lt, ← Ordering.isLE_swap] at ha hb ⊢
    exact hle hb ha

end Value

namespace NumericFunctions

open Value

variable {function : String} {beyond : Ordering} {args values values' rest : List Value}
  {first value best : Value}

/-! ## One comparison -/

/-- Of two values that can be compared one is taken, and neither is beyond it. -/
lemma better_ok (function : String) (hbeyond : beyond ≠ .eq) (h : Comparable best value) :
    ∃ m ∈ [best, value], better function beyond best value = .ok m ∧
      ∀ v ∈ [best, value], v.compare? m ≠ some beyond := by
  obtain ⟨o, ho, hswap, -⟩ := h.symm.compare?
  have hbetter : better function beyond best value = .ok (if o = beyond then value else best) := by
    rw [better, ho]
  by_cases heq : o = beyond
  · subst heq
    refine ⟨value, by simp, by rw [hbetter, if_pos rfl], List.forall_mem_cons.2 ⟨?_, ?_⟩⟩
    · rw [hswap]
      cases o <;> simp_all
    · exact List.forall_mem_singleton.2 (compare?_self h.symm.floatFree hbeyond)
  · refine ⟨best, by simp, by rw [hbetter, if_neg heq], List.forall_mem_cons.2 ⟨?_, ?_⟩⟩
    · exact compare?_self h.floatFree hbeyond
    · rw [List.forall_mem_singleton, ho]
      exact fun hbest => heq (Option.some.inj hbest)

/-- Away from floats values that cannot be compared are an error of types. -/
lemma better_error (hbest : FloatFree best) (hvalue : FloatFree value) (h : ¬Comparable best value) :
    better function beyond best value = .error (.type (.incomparable function value.typeName best.typeName)) := by
  rw [better, compare?_eq_none hvalue hbest (mt Comparable.symm h)]

/-! ## A run over the values -/

/-- Where all values can be compared with each other, none is beyond the one that is left. -/
lemma foldlM_better_ok (function : String) (hbeyond : beyond ≠ .eq)
    (h : ∀ v ∈ first :: rest, ∀ w ∈ first :: rest, Comparable v w) :
    ∃ m ∈ first :: rest, rest.foldlM (better function beyond) first = .ok m ∧
      ∀ v ∈ first :: rest, v.compare? m ≠ some beyond := by
  induction rest generalizing first with
  | nil =>
    have hself := h first List.mem_cons_self first List.mem_cons_self
    exact ⟨first, List.mem_cons_self, rfl, List.forall_mem_singleton.2 (compare?_self hself.floatFree hbeyond)⟩
  | cons value rest ih =>
    obtain ⟨best, hfrom, hbest, hnot⟩ := better_ok function hbeyond (h first (by simp) value (by simp))
    have hamong : ∀ v ∈ best :: rest, v ∈ first :: value :: rest := by
      refine List.forall_mem_cons.2 ⟨?_, fun v hv => by simp [hv]⟩
      exact List.mem_append_left rest hfrom
    obtain ⟨m, hmem, hm, hleft⟩ := ih fun v hv w hw => h v (hamong v hv) w (hamong w hw)
    refine ⟨m, hamong m hmem, by rw [List.foldlM_cons, hbest]; exact hm, fun v hv => ?_⟩
    rcases List.mem_append.1 (show v ∈ [first, value] ++ rest from hv) with hfirst | hrest
    · -- The best of the first two stands between them and the value that is left.
      have hstep := h v hv best (hamong best List.mem_cons_self)
      have hgap := h best (hamong best List.mem_cons_self) m (hamong m hmem)
      exact hstep.not_beyond hgap hbeyond (hnot v hfirst) (hleft best List.mem_cons_self)
    · exact hleft v (List.mem_cons_of_mem _ hrest)

/-- A value that cannot be compared with the first is noticed, whatever the best value is when it comes. -/
lemma foldlM_better_error (hfirst : FloatFree first) (hrest : ∀ v ∈ rest, FloatFree v) (hbeyond : beyond ≠ .eq)
    (h : ∃ v ∈ rest, ¬Comparable first v) :
    ∃ fault, rest.foldlM (better function beyond) first = .error (.type fault) := by
  induction rest generalizing first with
  | nil =>
    obtain ⟨v, hv, -⟩ := h
    cases hv
  | cons value rest ih =>
    obtain ⟨hvalue, hothers⟩ := List.forall_mem_cons.1 hrest
    rw [List.foldlM_cons]
    by_cases hcomp : Comparable first value
    · obtain ⟨best, hfrom, hbest, -⟩ := better_ok function hbeyond hcomp
      obtain ⟨v, hv, hnot⟩ := h
      have hother : v ∈ rest := (List.mem_cons.1 hv).resolve_left fun heq => hnot (heq ▸ hcomp)
      have hfrom : best = first ∨ best = value := by simpa using hfrom
      rw [hbest]
      rcases hfrom with rfl | rfl
      · exact ih hfirst hothers ⟨v, hother, hnot⟩
      · exact ih hvalue hothers ⟨v, hother, fun hbv => hnot (hcomp.chain hbv)⟩
    · rw [better_error hfirst hvalue hcomp]
      exact ⟨_, rfl⟩

/-! ## Values of one type -/

/-- All are integers, all are texts or all are booleans. -/
def Uniform (values : List Value) : Prop :=
  (∀ v ∈ values, ∃ n, v = .int n) ∨ (∀ v ∈ values, ∃ s, v = .string s) ∨ ∀ v ∈ values, ∃ b, v = .bool b

/-- Any two values of one kind can be compared. -/
lemma Uniform.comparable {a b : Value} (h : Uniform values) (ha : a ∈ values) (hb : b ∈ values) :
    Comparable a b := by
  rcases h with h | h | h
  · obtain ⟨⟨m, rfl⟩, n, rfl⟩ := And.intro (h a ha) (h b hb)
    exact .int m n
  · obtain ⟨⟨s, rfl⟩, t, rfl⟩ := And.intro (h a ha) (h b hb)
    exact .string s t
  · obtain ⟨⟨p, rfl⟩, q, rfl⟩ := And.intro (h a ha) (h b hb)
    exact .bool p q

/-- All values are of one kind if the first can be compared with each of the others. -/
lemma uniform_of_comparable (hne : rest ≠ []) (h : ∀ v ∈ rest, Comparable first v) : Uniform (first :: rest) := by
  obtain ⟨second, tail, rfl⟩ := List.exists_cons_of_ne_nil hne
  have hall : ∀ v ∈ first :: second :: tail, Comparable first v :=
    List.forall_mem_cons.2 ⟨(h second List.mem_cons_self).chain (h second List.mem_cons_self).symm, h⟩
  cases h second List.mem_cons_self with
  | int m n =>
    refine .inl fun v hv => ?_
    cases hall v hv with
    | int _ k => exact ⟨k, rfl⟩
  | string s t =>
    refine .inr (.inl fun v hv => ?_)
    cases hall v hv with
    | string _ u => exact ⟨u, rfl⟩
  | bool p q =>
    refine .inr (.inr fun v hv => ?_)
    cases hall v hv with
    | bool _ r => exact ⟨r, rfl⟩

/-- It does not matter in which order the values come, or how often. -/
lemma Uniform.congr (h : ∀ v, v ∈ values ↔ v ∈ values') :
    Uniform values ↔ Uniform values' := by
  simp only [Uniform, h]

/-! ## The function -/

/-- The candidates that are not null. -/
def present (args : List Value) : List Value :=
  (candidates args).filter (!·.isNull)

/-- What is left of some values: null if there are none. -/
def pick (function : String) (beyond : Ordering) : List Value → Except Error Value
  | [] => .ok .null
  | first :: rest => rest.foldlM (better function beyond) first

/-- The extreme is picked among the candidates that are not null. -/
lemma extreme_eq (hne : args ≠ []) : extreme function beyond args = pick function beyond (present args) := by
  have harity : Arguments.checkArity function args 1 none = .ok () :=
    if_pos ⟨List.length_pos_iff.2 hne, rfl⟩
  rw [extreme, harity]
  show (match present args with | [] => _ | first :: rest => _) = _
  cases present args <;> rfl

/-- Without floats among the arguments there are none among the candidates. -/
lemma floatFree_present (h : ∀ v ∈ args, FloatFree v) : ∀ v ∈ present args, FloatFree v := by
  intro v hv
  have hv : v ∈ candidates args := (List.mem_filter.1 hv).1
  unfold candidates at hv
  split at hv
  case h_1 items =>
    cases h _ List.mem_cons_self with
    | list hitems => exact hitems v hv
  case h_2 => exact h v hv

/-- Two arguments or more, or one that is no list, are the candidates themselves. -/
lemma candidates_of_not_list (h : ∀ items, args ≠ [.list items]) : candidates args = args := by
  unfold candidates
  split
  case h_1 items => exact absurd rfl (h items)
  case h_2 => rfl

/-- The same value, or a fault of types on both sides. -/
inductive SameChoice : Except Error Value → Except Error Value → Prop
  | value (v : Value) : SameChoice (.ok v) (.ok v)
  | fault (f g : TypeFault) : SameChoice (.error (.type f)) (.error (.type g))

/-- Among values of one kind one is picked, and no other is beyond it. -/
lemma pick_ok (function : String) (hfree : ∀ v ∈ values, FloatFree v) (hbeyond : beyond ≠ .eq) (hne : values ≠ [])
    (h : values.length ≤ 1 ∨ Uniform values) :
    ∃ m, pick function beyond values = .ok m ∧ m ∈ values ∧ ∀ v ∈ values, v.compare? m ≠ some beyond := by
  obtain ⟨first, rest, rfl⟩ := List.exists_cons_of_ne_nil hne
  rcases h with hlength | huniform
  · obtain rfl : rest = [] := List.length_eq_zero_iff.1 (Nat.le_zero.1 (Nat.le_of_succ_le_succ hlength))
    have hself := compare?_self (hfree first List.mem_cons_self) hbeyond
    exact ⟨first, rfl, List.mem_cons_self, List.forall_mem_singleton.2 hself⟩
  · obtain ⟨m, hmem, hm, hnot⟩ := foldlM_better_ok function hbeyond fun v hv w hw => huniform.comparable hv hw
    exact ⟨m, hm, hmem, hnot⟩

/-- Among values of different kinds two come together that cannot be compared. -/
lemma pick_error (function : String) (hfree : ∀ v ∈ values, FloatFree v) (hbeyond : beyond ≠ .eq)
    (h : ¬(values.length ≤ 1 ∨ Uniform values)) : ∃ fault, pick function beyond values = .error (.type fault) := by
  cases values with
  | nil => exact absurd (.inl (Nat.zero_le 1)) h
  | cons first rest =>
    obtain ⟨hfirst, hrest⟩ := List.forall_mem_cons.1 hfree
    apply foldlM_better_error hfirst hrest hbeyond
    have hne : rest ≠ [] := fun hnil => h (.inl (by rw [hnil]; exact Nat.le_refl 1))
    refine Classical.byContradiction fun hall => ?_
    refine h (.inr (uniform_of_comparable hne fun v hv => ?_))
    exact Classical.byContradiction fun hnot => hall ⟨v, hv, hnot⟩

/-- There is an extreme just if there is at most one value or all are of one kind. -/
lemma exists_pick_ok (hfree : ∀ v ∈ values, FloatFree v) (hbeyond : beyond ≠ .eq) :
    (∃ v, pick function beyond values = .ok v) ↔ values.length ≤ 1 ∨ Uniform values := by
  constructor
  · rintro ⟨v, hv⟩
    refine Classical.byContradiction fun h => ?_
    obtain ⟨fault, hfault⟩ := pick_error function hfree hbeyond h
    cases hfault.symm.trans hv
  · intro h
    by_cases hempty : values = []
    · exact ⟨.null, by rw [hempty]; rfl⟩
    · obtain ⟨m, hm, -, -⟩ := pick_ok function hfree hbeyond hempty h
      exact ⟨m, hm⟩

/-- The order of the values does not matter. -/
lemma pick_perm (hfree : ∀ v ∈ values, FloatFree v) (hbeyond : beyond ≠ .eq)
    (hperm : values.Perm values') : SameChoice (pick function beyond values) (pick function beyond values') := by
  have hfree' : ∀ v ∈ values', FloatFree v := fun v hv => hfree v (hperm.mem_iff.2 hv)
  have hkind : values'.length ≤ 1 ∨ Uniform values' ↔ values.length ≤ 1 ∨ Uniform values := by
    rw [hperm.length_eq, Uniform.congr fun v => hperm.mem_iff]
  by_cases hempty : values = []
  · subst hempty
    rw [List.nil_perm.1 hperm]
    exact .value .null
  have hempty' : values' ≠ [] := fun hnil => hempty (hnil ▸ hperm).eq_nil
  by_cases h : values.length ≤ 1 ∨ Uniform values
  · obtain ⟨m, hm, hmem, hnot⟩ := pick_ok function hfree hbeyond hempty h
    obtain ⟨m', hm', hmem', hnot'⟩ := pick_ok function hfree' hbeyond hempty' (hkind.2 h)
    have hsame : m = m' := by
      rcases h with hlength | huniform
      · obtain ⟨v, rfl⟩ := List.length_eq_one_iff.1 (Nat.le_antisymm hlength (List.length_pos_iff.2 hempty))
        rw [List.mem_singleton.1 hmem, List.mem_singleton.1 (hperm.mem_iff.2 hmem')]
      · -- Neither is beyond the other.
        obtain ⟨o, ho, hswap, heq⟩ := (huniform.comparable hmem (hperm.mem_iff.2 hmem')).compare?
        have hno := hnot' m (hperm.mem_iff.1 hmem)
        have hno' := hnot m' (hperm.mem_iff.2 hmem')
        rw [ho] at hno
        rw [hswap] at hno'
        refine heq.1 ?_
        cases o <;> cases beyond <;> simp_all
    rw [hm, hm', hsame]
    exact .value m'
  · obtain ⟨fault, hfault⟩ := pick_error function hfree hbeyond h
    obtain ⟨fault', hfault'⟩ := pick_error function hfree' hbeyond (mt hkind.1 h)
    rw [hfault, hfault']
    exact .fault fault fault'

/-- What the function makes of its arguments, with `beyond` as the order of a value that is preferred. -/
structure Picks (function : String) (beyond : Ordering) (args : List Value) : Prop where
  /-- There is a value if there is at most one candidate or all are of one type with an order. -/
  succeeds : (∃ v, extreme function beyond args = .ok v) ↔ (present args).length ≤ 1 ∨ Uniform (present args)
  fails : ¬((present args).length ≤ 1 ∨ Uniform (present args)) →
    ∃ fault, extreme function beyond args = .error (.type fault)
  null : present args = [] → extreme function beyond args = .ok .null
  extremal : present args ≠ [] → ∀ m, extreme function beyond args = .ok m →
    m ∈ present args ∧ ∀ v ∈ present args, v.compare? m ≠ some beyond
  /-- The order of the candidates does not matter. -/
  order : ∀ args', args' ≠ [] → (candidates args).Perm (candidates args') →
    SameChoice (extreme function beyond args) (extreme function beyond args')
  list : (∀ items, args ≠ [.list items]) → extreme function beyond [.list args] = extreme function beyond args

/-- Whatever the arguments, the extreme is picked in this way. -/
lemma picks (hne : args ≠ []) (hfree : ∀ v ∈ args, FloatFree v) (hbeyond : beyond ≠ .eq) :
    Picks function beyond args where
  succeeds := by
    rw [extreme_eq hne]
    exact exists_pick_ok (floatFree_present hfree) hbeyond
  fails := by
    rw [extreme_eq hne]
    exact pick_error function (floatFree_present hfree) hbeyond
  null hempty := by
    rw [extreme_eq hne, hempty]
    rfl
  extremal hempty m hm := by
    rw [extreme_eq hne] at hm
    have hkind := (exists_pick_ok (floatFree_present hfree) hbeyond).1 ⟨m, hm⟩
    obtain ⟨m', hm', hmem, hnot⟩ := pick_ok function (floatFree_present hfree) hbeyond hempty hkind
    cases hm.symm.trans hm'
    exact ⟨hmem, hnot⟩
  order args' hne' hperm := by
    rw [extreme_eq hne, extreme_eq hne']
    exact pick_perm (floatFree_present hfree) hbeyond (hperm.filter _)
  list hlist := by
    rw [extreme_eq hne, extreme_eq (List.cons_ne_nil _ _), present, present, candidates_of_not_list hlist]
    rfl

/-- Away from floats the greatest and the least value are found, whatever the order of the values, and values of
different types are refused. -/
theorem extreme_picks (hne : args ≠ []) (hfree : ∀ v ∈ args, FloatFree v) :
    Picks "MAX" .gt args ∧ Picks "MIN" .lt args :=
  ⟨picks hne hfree (by decide), picks hne hfree (by decide)⟩

/-- The least item of a list is found behind a null, and a text behind integers is refused. -/
theorem extreme_picks_list :
    ([Value.list [.null, .int 3, .int (-2)]] ≠ [] ∧ (∀ v ∈ [Value.list [.null, .int 3, .int (-2)]], FloatFree v) ∧
      extreme "MIN" .lt [.list [.null, .int 3, .int (-2)]] = .ok (.int (-2)) ∧
      SameChoice (.ok (.int (-2))) (extreme "MIN" .lt [.int (-2), .int 3, .null])) ∧
    (∀ v ∈ [Value.int 3, .int 4, .string "5"], FloatFree v) ∧
      ∃ fault, extreme "MAX" .gt [.int 3, .int 4, .string "5"] = .error (.type fault) := by
  have hitems : ∀ v ∈ [Value.list [.null, .int 3, .int (-2)]], FloatFree v := by
    intro v hv
    rw [List.mem_singleton.1 hv]
    refine .list (List.forall_mem_cons.2 ⟨.null, List.forall_mem_cons.2 ⟨.int 3, ?_⟩⟩)
    exact List.forall_mem_singleton.2 (.int (-2))
  have hmixed : ∀ v ∈ [Value.int 3, .int 4, .string "5"], FloatFree v :=
    List.forall_mem_cons.2 ⟨.int 3, List.forall_mem_cons.2 ⟨.int 4, List.forall_mem_singleton.2 (.string "5")⟩⟩
  have hnot : ¬((present [.int 3, .int 4, .string "5"]).length ≤ 1 ∨
      Uniform (present [.int 3, .int 4, .string "5"])) := by
    rintro (hlength | huniform)
    · exact absurd hlength (by decide)
    · have hlast : .string "5" ∈ present [.int 3, .int 4, .string "5"] :=
        List.mem_cons_of_mem _ (List.mem_cons_of_mem _ List.mem_cons_self)
      cases huniform.comparable (a := .int 3) List.mem_cons_self hlast
  have hleast : extreme "MIN" .lt [.list [.null, .int 3, .int (-2)]] = .ok (.int (-2)) := rfl
  have hperm : [Value.null, .int 3, .int (-2)].Perm [.int (-2), .int 3, .null] := (List.reverse_perm _).symm
  have horder := (extreme_picks (List.cons_ne_nil _ _) hitems).2.order [.int (-2), .int 3, .null]
    (List.cons_ne_nil _ _) hperm
  exact ⟨⟨List.cons_ne_nil _ _, hitems, hleast, hleast ▸ horder⟩, hmixed,
    (extreme_picks (List.cons_ne_nil _ _) hmixed).1.fails hnot⟩

end NumericFunctions

end EventRules
