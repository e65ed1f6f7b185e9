import EventRules.Function.Numeric
import EventRules.Proofs.Decimal.Integer
import EventRules.Proofs.Evaluation.Shape
import EventRules.Proofs.Registry.Builtins

/-!
# Arithmetic on integers

Integers are computed with exactly or not at all. `Exact` says of a result that it is a certain number,
or an error because that number is no 64-bit integer; `Divides` says the same of a quotient and its
remainder. What the operators make of integers they make of the values of any two expressions.
-/

namespace EventRules

/-- The number is a 64-bit integer. -/
def Decimal.InRange (n : Int) : Prop :=
  Int64.minValue.toInt ≤ n ∧ n ≤ Int64.maxValue.toInt

/-- The result is the number, or an error because the number is no 64-bit integer. -/
inductive Exact (n : Int) : Except Halt Value → Prop
  | value {m : Int64} : m.toInt = n → Exact n (.ok (.int m))
  | overflow {fault : EvaluationFault} : ¬Decimal.InRange n → Exact n (.error (.failure (.evaluation fault)))

/-- No 64-bit integer is the quotient of the two. -/
def Indivisible (a b : Int64) : Prop :=
  b = 0 ∨ a = Int64.minValue ∧ b = -1

/-- The results are the quotient rounded toward zero and the remainder, or errors because there is no
quotient. -/
inductive Divides (a b : Int64) : Except Halt Value → Except Halt Value → Prop
  | parts {q r : Int64} :
    ¬Indivisible a b →
    a.toInt = q.toInt * b.toInt + r.toInt →
    r.toInt.natAbs < b.toInt.natAbs →
    r.toInt = 0 ∨ r.toInt.sign = a.toInt.sign →
    Divides a b (.ok (.int q)) (.ok (.int r))
  | failed {fault fault' : EvaluationFault} :
    Indivisible a b →
    Divides a b (.error (.failure (.evaluation fault))) (.error (.failure (.evaluation fault')))

namespace Decimal

/-- A number in the range of 64 bits is one of its integers. -/
lemma int64Of?_of_inRange {n : Int} (h : InRange n) : ∃ m : Int64, int64Of? n = some m ∧ m.toInt = n := by
  refine ⟨Int64.ofInt n, if_pos h, Int64.toInt_ofInt_of_le h.1 ?_⟩
  exact Int.lt_of_le_of_lt h.2 (by decide)

/-- A number out of the range is none of the 64-bit integers. -/
lemma int64Of?_eq_none {n : Int} (h : ¬InRange n) : int64Of? n = none :=
  if_neg h

/-- Every integer of 64 bits is in that range. -/
lemma inRange_toInt (n : Int64) : InRange n.toInt :=
  ⟨n.minValue_le_toInt, n.toInt_le⟩

/-- Only the least integer has no opposite. -/
lemma inRange_neg_iff {a : Int64} : InRange (-a.toInt) ↔ a ≠ Int64.minValue := by
  have hmin : Int64.minValue.toInt = -9223372036854775808 := rfl
  have hmax : Int64.maxValue.toInt = 9223372036854775807 := rfl
  obtain ⟨hlow, hhigh⟩ := inRange_toInt a
  rw [InRange, Ne, ← Int64.toInt_inj]
  omega

/-- The magnitude of an integer is in the range but for the least one. -/
lemma inRange_natAbs_iff {a : Int64} : InRange a.toInt.natAbs ↔ a ≠ Int64.minValue := by
  have hmin : Int64.minValue.toInt = -9223372036854775808 := rfl
  have hmax : Int64.maxValue.toInt = 9223372036854775807 := rfl
  obtain ⟨hlow, hhigh⟩ := inRange_toInt a
  rw [InRange, Ne, ← Int64.toInt_inj]
  omega

/-- A quotient is in the range but for the least integer divided by -1. -/
lemma inRange_tdiv_iff {a b : Int64} (hb : b ≠ 0) :
    InRange (a.toInt.tdiv b.toInt) ↔ ¬(a = Int64.minValue ∧ b = -1) := by
  have hmin : Int64.minValue.toInt = -9223372036854775808 := rfl
  have hmax : Int64.maxValue.toInt = 9223372036854775807 := rfl
  have hone : (-1 : Int64).toInt = -1 := rfl
  obtain ⟨hlow, hhigh⟩ := inRange_toInt a
  constructor
  · rintro h ⟨rfl, rfl⟩
    exact absurd h.2 (by decide)
  · intro h
    rw [← Int64.toInt_inj, ← Int64.toInt_inj, hone] at h
    rw [Ne, ← Int64.toInt_inj, Int64.toInt_zero] at hb
    have habs := Int.natAbs_tdiv a.toInt b.toInt
    rw [InRange]
    by_cases hsmall : b.toInt.natAbs = 1
    · rcases Int.natAbs_eq b.toInt with hb' | hb'
      · rw [hb', hsmall, Int.ofNat_one, Int.tdiv_one]
        exact ⟨hlow, hhigh⟩
      · rw [hb', hsmall, Int.ofNat_one, Int.tdiv_neg, Int.tdiv_one]
        omega
    · have hhalf : a.toInt.natAbs / b.toInt.natAbs ≤ a.toInt.natAbs / 2 :=
        Nat.div_le_div_left (by omega) (by decide)
      have habs' : (a.toInt.tdiv b.toInt).natAbs = a.toInt.natAbs / b.toInt.natAbs := habs
      omega

/-- A remainder is always in the range. -/
lemma inRange_tmod {a b : Int64} (hb : b ≠ 0) : InRange (a.toInt.tmod b.toInt) := by
  have hmin : Int64.minValue.toInt = -9223372036854775808 := rfl
  have hmax : Int64.maxValue.toInt = 9223372036854775807 := rfl
  obtain ⟨hlow, hhigh⟩ := inRange_toInt b
  rw [Ne, ← Int64.toInt_inj, Int64.toInt_zero] at hb
  have habs := Int.natAbs_tmod a.toInt b.toInt
  have hlt : a.toInt.natAbs % b.toInt.natAbs < b.toInt.natAbs := Nat.mod_lt _ (Int.natAbs_pos.2 hb)
  rw [InRange]
  omega

end Decimal

/-- A number is computed exactly or is an error. -/
lemma exact_exactInt (n : Int) (fault : EvaluationFault) : Exact n (liftM (exactInt n fault)) := by
  unfold exactInt
  by_cases h : Decimal.InRange n
  · obtain ⟨m, hm, rfl⟩ := Decimal.int64Of?_of_inRange h
    rw [hm]
    exact .value rfl
  · rw [Decimal.int64Of?_eq_none h]
    exact .overflow h

/-- There is a result just if the number is in the range. -/
lemma Exact.isOk_iff {n : Int} {result : Except Halt Value} (h : Exact n result) :
    result.isOk = true ↔ Decimal.InRange n := by
  cases h with
  | value hm => exact ⟨fun _ => hm ▸ Decimal.inRange_toInt _, fun _ => rfl⟩
  | overflow hn => exact ⟨nofun, fun h => absurd h hn⟩

/-- By zero, and of the least integer by -1, neither the quotient nor the remainder is computed. -/
lemma Divides.of_indivisible {a b : Int64} {quotient remainder : Except Halt Value}
    (h : Divides a b quotient remainder) (hab : Indivisible a b) :
    (∃ fault, quotient = .error (.failure (.evaluation fault))) ∧
      ∃ fault, remainder = .error (.failure (.evaluation fault)) := by
  cases h with
  | parts hdivisible => exact absurd hab hdivisible
  | failed _ => exact ⟨⟨_, rfl⟩, ⟨_, rfl⟩⟩

namespace Value

/-- Quotient and remainder come from one division, so that both fail or none. -/
lemma divides_intArithmetic (a b : Int64) :
    Divides a b (liftM (intArithmetic .divide a.toInt b.toInt)) (liftM (intArithmetic .modulo a.toInt b.toInt)) := by
  by_cases hb : b = 0
  · subst hb
    exact .failed (.inl rfl)
  · have hzero : b.toInt ≠ 0 := fun h => hb (Int64.toInt_inj.1 h)
    rw [intArithmetic, intArithmetic, if_neg hzero, if_neg hzero, exactInt, exactInt]
    by_cases hquotient : Decimal.InRange (a.toInt.tdiv b.toInt)
    · have hdivisible : ¬Indivisible a b := not_or.2 ⟨hb, (Decimal.inRange_tdiv_iff hb).1 hquotient⟩
      obtain ⟨q, hq, hq'⟩ := Decimal.int64Of?_of_inRange hquotient
      obtain ⟨r, hr, hr'⟩ := Decimal.int64Of?_of_inRange (Decimal.inRange_tmod (a := a) hb)
      rw [hq, hr]
      refine .parts hdivisible ?_ ?_ ?_
      · rw [hq', hr', Int.tdiv_mul_add_tmod]
      · rw [hr', Int.natAbs_tmod]
        exact Nat.mod_lt _ (Int.natAbs_pos.2 hzero)
      · rw [hr', Int.sign_tmod]
        by_cases hdvd : b.toInt ∣ a.toInt
        · exact .inl (Int.tmod_eq_zero_of_dvd hdvd)
        · exact .inr (if_neg hdvd)
    · have hleast : a = Int64.minValue ∧ b = -1 :=
        Decidable.not_not.1 fun h => hquotient ((Decimal.inRange_tdiv_iff hb).2 h)
      rw [Decimal.int64Of?_eq_none hquotient]
      exact .failed (.inr hleast)

end Value

/-- The function for magnitudes is in the catalog. -/
lemma Registry.offers_abs (context : Context) : (ofCatalog context).Offers "ABS" NumericFunctions.abs := by
  have hmem : NumericFunctions.catalog.head nofun ∈ catalog := by
    simp only [catalog, List.mem_append]
    exact .inl (.inl (.inl (.inl (.inr (List.head_mem _)))))
  exact offers_ofCatalog hmem rfl context

/-- The operators on the values of two expressions. -/
lemma Expr.evaluate_operands {σ φ : Type} {calls : Calls σ φ} {vars : Resolver} {x y : Expr} {v w : Value} {s t u : σ}
    (hx : x.evaluate calls vars s = (.ok v, t)) (hy : y.evaluate calls vars t = (.ok w, u)) {op : BinaryOp}
    (hand : op ≠ .and) (hor : op ≠ .or) :
    (Expr.binary op x y).evaluate calls vars s = (liftM (op.eval v w), u) := by
  rw [evaluate_binary hand hor, Run.bind_ok hx, Run.bind_ok hy]
  rfl

/-- Integers are computed with exactly or not at all. Sums, differences, products, opposites and
magnitudes of integers are the exact numbers, and fail where these are no 64-bit integers: an opposite or
a magnitude for the least integer only. Quotient and remainder fail together, for a divisor of zero and
for the least integer divided by minus one. -/
theorem Expr.evaluate_integers {vars : Resolver} {x y : Expr} {a b : Int64} {r s t : Registry}
    (hx : x.evaluate Registry.calls vars r = (.ok (.int a), s))
    (hy : y.evaluate Registry.calls vars s = (.ok (.int b), t)) (habs : r.Offers "ABS" NumericFunctions.abs) :
    let result (e : Expr) : Except Halt Value := (e.evaluate Registry.calls vars r).1
    Exact (a.toInt + b.toInt) (result (.binary .add x y)) ∧
    Exact (a.toInt - b.toInt) (result (.binary .subtract x y)) ∧
    Exact (a.toInt * b.toInt) (result (.binary .multiply x y)) ∧
    Divides a b (result (.binary .divide x y)) (result (.binary .modulo x y)) ∧
    Exact (-a.toInt) (result (.unary .negate x)) ∧
    ((result (.unary .negate x)).isOk = true ↔ a ≠ Int64.minValue) ∧
    Exact a.toInt.natAbs (result (.call "ABS" [x])) ∧
    ((result (.call "ABS" [x])).isOk = true ↔ a ≠ Int64.minValue) := by
  intro result
  have hbinary (op : BinaryOp) (hand : op ≠ .and) (hor : op ≠ .or) :
      result (.binary op x y) = liftM (op.eval (.int a) (.int b)) :=
    congrArg Prod.fst (evaluate_operands hx hy hand hor)
  have hnegate : result (.unary .negate x) = liftM (exactInt (-a.toInt) (.negationOverflow a.toInt)) := by
    show ((Expr.unary .negate x).evaluate Registry.calls vars r).1 = _
    rw [evaluate, Run.bind_ok hx]
    rfl
  -- A call finds the function in the registry that the evaluation of its argument leaves.
  have hcall : result (.call "ABS" [x]) = liftM (exactInt a.toInt.natAbs (.absOverflow a.toInt)) := by
    have hitems : evaluateItems Registry.calls vars [x] r = (.ok [.int a], s) := by
      rw [evaluateItems, Run.bind_ok hx]
      rfl
    exact habs.evaluate_call hitems
  rw [hbinary .add (by decide) (by decide), hbinary .subtract (by decide) (by decide),
    hbinary .multiply (by decide) (by decide), hbinary .divide (by decide) (by decide),
    hbinary .modulo (by decide) (by decide), hnegate, hcall]
  have hopposite := exact_exactInt (-a.toInt) (.negationOverflow a.toInt)
  have hmagnitude := exact_exactInt a.toInt.natAbs (.absOverflow a.toInt)
  refine ⟨exact_exactInt _ _, exact_exactInt _ _, exact_exactInt _ _, Value.divides_intArithmetic a b, ?_⟩
  exact ⟨hopposite, hopposite.isOk_iff.trans Decimal.inRange_neg_iff, hmagnitude,
    hmagnitude.isOk_iff.trans Decimal.inRange_natAbs_iff⟩

/-- The remainder of the least integer divided by minus one would be zero; there is none, since there is no
quotient. -/
theorem Expr.evaluate_integers_least :
    let r := Registry.ofCatalog {}
    let vars := Resolver.ofEntries []
    let x := Expr.literal (.int Int64.minValue)
    let y := Expr.literal (.int (-1))
    x.evaluate Registry.calls vars r = (.ok (.int Int64.minValue), r) ∧
    y.evaluate Registry.calls vars r = (.ok (.int (-1)), r) ∧ r.Offers "ABS" NumericFunctions.abs ∧
      Int64.minValue.toInt.tmod (-1) = 0 ∧
      (∃ fault, ((Expr.binary .modulo x y).evaluate Registry.calls vars r).1 =
        .error (.failure (.evaluation fault))) ∧
      ((Expr.call "ABS" [x]).evaluate Registry.calls vars r).1.isOk = false := by
  intro r vars x y
  have hx : x.evaluate Registry.calls vars r = (.ok (.int Int64.minValue), r) := rfl
  have hy : y.evaluate Registry.calls vars r = (.ok (.int (-1)), r) := rfl
  have habs : r.Offers "ABS" NumericFunctions.abs := Registry.offers_abs {}
  obtain ⟨-, -, -, hdivides, -, -, -, hmagnitude⟩ := Expr.evaluate_integers hx hy habs
  refine ⟨hx, hy, habs, rfl, (hdivides.of_indivisible (.inr ⟨rfl, rfl⟩)).2, ?_⟩
  exact Bool.eq_false_iff.2 fun hok => hmagnitude.1 hok rfl

end EventRules
