import BehaviorContract.Eval.Evaluate
import BehaviorContract.Proofs.Decimal.Whole

/-! Arithmetic on whole numbers. Every result is the exact one, or the
evaluation says that it does not fit. There is one exception: the least number
divided by minus one has a whole quotient that does not fit, and becomes a
double. -/

namespace BehaviorContract

def Fits (number : Int) : Prop :=
  -9223372036854775808 ≤ number ∧ number ≤ 9223372036854775807

/-- Says that an evaluation gives a number exactly if it fits, and otherwise
tells that it does not. -/
structure Exactly (operator : String) (number : Int)
    (evaluated : Evaluated Value) : Prop where
  fits : Fits number → ∃ whole : Int64, whole.toInt = number ∧
    evaluated = .ok (.integer whole)
  overflows : ¬ Fits number → evaluated = .error (.overflow operator)

theorem fits_toInt (whole : Int64) : Fits whole.toInt := by
  have least := whole.le_toInt
  have greatest := whole.toInt_lt
  unfold Fits
  omega

theorem toInt_ofInt_of_fits {number : Int} (fits : Fits number) :
    (Int64.ofInt number).toInt = number := by
  unfold Fits at fits
  exact Int64.toInt_ofInt_of_le (by omega) (by omega)

theorem Exactly.overflow_iff {operator : String} {number : Int}
    {evaluated : Evaluated Value} (exactly : Exactly operator number evaluated) :
    evaluated = .error (.overflow operator) ↔ ¬ Fits number := by
  refine ⟨?_, exactly.overflows⟩
  intro overflow fits
  obtain ⟨whole, -, isWhole⟩ := exactly.fits fits
  cases overflow.symm.trans isWhole

namespace Value

theorem exactly_checked (operator : String) (number : Int) :
    Exactly operator number (checked operator number) := by
  constructor
  · intro fits
    exact ⟨Int64.ofInt number, toInt_ofInt_of_fits fits, if_pos fits⟩
  · intro outside
    exact if_neg outside

theorem exactly_arithmetic (operator : BinaryOp) (whole : Int → Int → Int)
    (double : Float → Float → Float) (left right : Int64) :
    Exactly operator.symbol (whole left.toInt right.toInt)
      (arithmetic operator whole double (.integer left) (.integer right)) :=
  exactly_checked operator.symbol _

/-- Says that a number is left of the dividend after the divisor has been taken
away as often as possible: it is nearer to zero than the divisor, and on the
side of the dividend. -/
structure IsRemainder (dividend divisor result : Int) : Prop where
  divides : divisor ∣ dividend - result
  smaller : result.natAbs < divisor.natAbs
  nonneg : 0 ≤ dividend → 0 ≤ result
  nonpos : dividend ≤ 0 → result ≤ 0

theorem isRemainder_tmod (dividend : Int) {divisor : Int} (nonzero : divisor ≠ 0) :
    IsRemainder dividend divisor (dividend.tmod divisor) := by
  constructor
  case divides =>
    exact ⟨dividend.tdiv divisor, by rw [Int.tmod_def]; omega⟩
  case smaller =>
    rw [Int.natAbs_tmod]
    exact Nat.mod_lt _ (by omega)
  case nonneg => exact Int.tmod_nonneg divisor
  case nonpos =>
    intro nonpos
    have opposite := Int.tmod_nonneg divisor (Int.neg_nonneg_of_nonpos nonpos)
    rw [Int.neg_tmod] at opposite
    omega

def Unfitting (dividend divisor : Int64) : Prop :=
  dividend = Int64.minValue ∧ divisor = -1

theorem remainder?_of_unfitting {dividend divisor : Int64}
    (unfitting : Unfitting dividend divisor) :
    remainder? dividend divisor = none :=
  if_pos unfitting

theorem remainder?_of_not_unfitting {dividend divisor : Int64} (nonzero : divisor ≠ 0)
    (fitting : ¬ Unfitting dividend divisor) :
    ∃ result, remainder? dividend divisor = some result ∧
      result.toInt = dividend.toInt.tmod divisor.toInt := by
  have smaller :=
    (isRemainder_tmod dividend.toInt (Decimal.toInt_ne_zero nonzero)).smaller
  have divisorFits := fits_toInt divisor
  refine ⟨_, if_neg fitting, toInt_ofInt_of_fits ?_⟩
  unfold Fits at divisorFits ⊢
  omega

theorem remainder_cases (dividend divisor : Int64) :
    (divisor = 0 ∧ remainder (.integer dividend) (.integer divisor) =
      .error .divisionByZero) ∨
    (divisor ≠ 0 ∧ Unfitting dividend divisor ∧
      remainder (.integer dividend) (.integer divisor) =
        .error (.overflow BinaryOp.remainder.symbol)) ∨
    (divisor ≠ 0 ∧ ¬ Unfitting dividend divisor ∧
      ∃ result : Int64, IsRemainder dividend.toInt divisor.toInt result.toInt ∧
        remainder (.integer dividend) (.integer divisor) = .ok (.integer result)) := by
  rw [remainder]
  by_cases zero : divisor = 0
  · exact .inl ⟨zero, if_pos zero⟩
  rw [if_neg zero]
  by_cases unfitting : Unfitting dividend divisor
  · rw [remainder?_of_unfitting unfitting]
    exact .inr (.inl ⟨zero, unfitting, rfl⟩)
  · obtain ⟨result, found, isTmod⟩ := remainder?_of_not_unfitting zero unfitting
    have isRemainder := isRemainder_tmod dividend.toInt (Decimal.toInt_ne_zero zero)
    rw [← isTmod] at isRemainder
    rw [found]
    exact .inr (.inr ⟨zero, unfitting, result, isRemainder, rfl⟩)

theorem remainder_eq_divisionByZero_iff (dividend divisor : Int64) :
    remainder (.integer dividend) (.integer divisor) = .error .divisionByZero ↔
      divisor = 0 := by
  obtain ⟨zero, failed⟩ | ⟨nonzero, -, failed⟩ | ⟨nonzero, -, result, -, found⟩ :=
    remainder_cases dividend divisor
  · exact iff_of_true failed zero
  · simp [failed, nonzero]
  · simp [found, nonzero]

theorem remainder_eq_overflow_iff (dividend divisor : Int64) :
    remainder (.integer dividend) (.integer divisor) =
      .error (.overflow BinaryOp.remainder.symbol) ↔
      Unfitting dividend divisor := by
  obtain ⟨zero, failed⟩ | ⟨-, unfitting, failed⟩ | ⟨-, fitting, result, -, found⟩ :=
    remainder_cases dividend divisor
  · have fitting : ¬ Unfitting dividend divisor :=
      fun unfitting => absurd (zero.symm.trans unfitting.2) (by decide)
    simp [failed, fitting]
  · exact iff_of_true failed unfitting
  · simp [found, fitting]

theorem floatQuotient_integers (operator : BinaryOp) (double : Float → Float → Float)
    (dividend : Int64) {divisor : Int64} (nonzero : divisor ≠ 0) :
    floatQuotient operator double (.integer dividend) (.integer divisor) =
      .ok (.float (double (Decimal.ofWhole dividend) (Decimal.ofWhole divisor))) := by
  simp only [floatQuotient, float?, Decimal.ofWhole_beq_zero nonzero]
  rfl

theorem remainder?_eq_zero_iff {dividend divisor : Int64} (nonzero : divisor ≠ 0)
    (fitting : ¬ Unfitting dividend divisor) :
    remainder? dividend divisor = some 0 ↔ divisor.toInt ∣ dividend.toInt := by
  obtain ⟨result, found, isTmod⟩ := remainder?_of_not_unfitting nonzero fitting
  rw [found, Option.some_inj, ← Int64.toInt_inj, isTmod, Int.dvd_iff_tmod_eq_zero]
  rfl

theorem fits_of_mul_eq {dividend divisor : Int64} {quotient : Int} (nonzero : divisor ≠ 0)
    (fitting : ¬ Unfitting dividend divisor)
    (isQuotient : dividend.toInt = divisor.toInt * quotient) : Fits quotient := by
  have notZero := Decimal.toInt_ne_zero nonzero
  have dividendFits := fits_toInt dividend
  unfold Fits at dividendFits ⊢
  have smaller : quotient.natAbs ≤ dividend.toInt.natAbs := by
    rw [isQuotient, Int.natAbs_mul]
    exact Nat.le_mul_of_pos_left _ (by omega)
  -- Only the opposite of the least number is out of reach, and only minus one
  -- leads there.
  have reached : quotient ≠ 9223372036854775808 := by
    intro beyond
    rw [beyond] at isQuotient
    apply fitting
    constructor
    · rw [← Int64.toInt_inj, Int64.toInt_minValue]
      omega
    · rw [← Int64.toInt_inj]
      show divisor.toInt = -1
      omega
  omega

theorem divide_cases (dividend divisor : Int64) :
    (divisor = 0 ∧ divide (.integer dividend) (.integer divisor) =
      .error .divisionByZero) ∨
    (divisor ≠ 0 ∧ ¬ Unfitting dividend divisor ∧
      ∃ whole : Int64, dividend.toInt = divisor.toInt * whole.toInt ∧
        divide (.integer dividend) (.integer divisor) = .ok (.integer whole)) ∨
    (divisor ≠ 0 ∧ (Unfitting dividend divisor ∨ ¬ divisor.toInt ∣ dividend.toInt) ∧
      divide (.integer dividend) (.integer divisor) =
        .ok (.float (Decimal.ofWhole dividend / Decimal.ofWhole divisor))) := by
  rw [divide]
  by_cases zero : divisor = 0
  · exact .inl ⟨zero, if_pos zero⟩
  rw [if_neg zero, floatQuotient_integers .divide _ dividend zero]
  by_cases unfitting : Unfitting dividend divisor
  · rw [remainder?_of_unfitting unfitting]
    exact .inr (.inr ⟨zero, .inl unfitting, rfl⟩)
  by_cases divides : divisor.toInt ∣ dividend.toInt
  · rw [if_pos ((remainder?_eq_zero_iff zero unfitting).2 divides)]
    have isQuotient := (Int.mul_tdiv_cancel' divides).symm
    have fits := fits_of_mul_eq zero unfitting isQuotient
    obtain ⟨whole, isExact, isWhole⟩ :=
      (exactly_checked BinaryOp.divide.symbol _).fits fits
    exact .inr (.inl ⟨zero, unfitting, whole, isExact ▸ isQuotient, isWhole⟩)
  · rw [if_neg fun whole => divides ((remainder?_eq_zero_iff zero unfitting).1 whole)]
    exact .inr (.inr ⟨zero, .inr divides, rfl⟩)

end Value

section Unary

variable {context : Context} {operand : Expr} {value : Value}

theorem Expr.evaluate_unary (op : UnaryOp)
    (evaluated : operand.evaluate context = .ok value) :
    (Expr.unary op operand).evaluate context = op.apply value := by
  rw [evaluate, evaluated]
  rfl

theorem Expr.evaluate_abs (evaluated : operand.evaluate context = .ok value) :
    (Expr.call (.identifier "abs") [operand]).evaluate context = value.absolute := by
  have named : Builtin.ofName? "abs" = some .abs := by decide
  rw [evaluate, named]
  · simp only [evaluateList, evaluated]
    rfl
  all_goals simp

end Unary

theorem not_fits_neg_iff (whole : Int64) :
    ¬ Fits (-whole.toInt) ↔ whole = Int64.minValue := by
  have fits := fits_toInt whole
  rw [← Int64.toInt_inj, Int64.toInt_minValue]
  unfold Fits at fits ⊢
  omega

theorem not_fits_natAbs_iff (whole : Int64) :
    ¬ Fits whole.toInt.natAbs ↔ whole = Int64.minValue := by
  have fits := fits_toInt whole
  rw [← Int64.toInt_inj, Int64.toInt_minValue]
  unfold Fits at fits ⊢
  omega

/-- Says that whole numbers are computed with as they are in mathematics, as far
as the results fit. -/
structure ComputesExactly (left right : Int64) : Prop where
  add : Exactly "+" (left.toInt + right.toInt)
    (BinaryOp.add.apply (.integer left) (.integer right))
  subtract : Exactly "-" (left.toInt - right.toInt)
    (BinaryOp.subtract.apply (.integer left) (.integer right))
  multiply : Exactly "*" (left.toInt * right.toInt)
    (BinaryOp.multiply.apply (.integer left) (.integer right))
  remainder_zero : BinaryOp.remainder.apply (.integer left) (.integer right) =
    .error .divisionByZero ↔ right = 0
  remainder_overflow : BinaryOp.remainder.apply (.integer left) (.integer right) =
    .error (.overflow "%") ↔
    left = Int64.minValue ∧ right = -1
  remainder : right ≠ 0 → ¬ (left = Int64.minValue ∧ right = -1) →
    ∃ result : Int64, Value.IsRemainder left.toInt right.toInt result.toInt ∧
      BinaryOp.remainder.apply (.integer left) (.integer right) = .ok (.integer result)
  negate : ∀ context (operand : Expr), operand.evaluate context = .ok (.integer left) →
    Exactly "-" (-left.toInt) ((Expr.unary .negate operand).evaluate context) ∧
      ((Expr.unary .negate operand).evaluate context = .error (.overflow "-") ↔
        left = Int64.minValue)
  abs : ∀ context (operand : Expr), operand.evaluate context = .ok (.integer left) →
    Exactly "abs" left.toInt.natAbs
      ((Expr.call (.identifier "abs") [operand]).evaluate context) ∧
      ((Expr.call (.identifier "abs") [operand]).evaluate context =
        .error (.overflow "abs") ↔ left = Int64.minValue)

theorem whole_arithmetic_exact (left right : Int64) : ComputesExactly left right := by
  constructor
  case add => exact Value.exactly_arithmetic .add (· + ·) (· + ·) left right
  case subtract => exact Value.exactly_arithmetic .subtract (· - ·) (· - ·) left right
  case multiply => exact Value.exactly_arithmetic .multiply (· * ·) (· * ·) left right
  case remainder_zero => exact Value.remainder_eq_divisionByZero_iff left right
  case remainder_overflow => exact Value.remainder_eq_overflow_iff left right
  case remainder =>
    intro nonzero fitting
    obtain ⟨zero, -⟩ | ⟨-, unfitting, -⟩ | ⟨-, -, found⟩ :=
      Value.remainder_cases left right
    · exact absurd zero nonzero
    · exact absurd unfitting fitting
    · exact found
  case negate =>
    intro context operand evaluated
    have exactly := Value.exactly_checked "-" (-left.toInt)
    rw [Expr.evaluate_unary .negate evaluated, ← not_fits_neg_iff]
    exact ⟨exactly, exactly.overflow_iff⟩
  case abs =>
    intro context operand evaluated
    have exactly := Value.exactly_checked "abs" left.toInt.natAbs
    rw [Expr.evaluate_abs evaluated, ← not_fits_natAbs_iff]
    exact ⟨exactly, exactly.overflow_iff⟩

/-- Says that a whole quotient is whole, or is told not to fit, and that only
other quotients are doubles. -/
structure DividesExactly (dividend divisor : Int64) : Prop where
  zero : BinaryOp.divide.apply (.integer dividend) (.integer divisor) =
    .error .divisionByZero ↔ divisor = 0
  whole : divisor ≠ 0 → ∀ quotient : Int, dividend.toInt = divisor.toInt * quotient →
    Exactly "/" quotient (BinaryOp.divide.apply (.integer dividend) (.integer divisor))
  double : divisor ≠ 0 → ¬ divisor.toInt ∣ dividend.toInt →
    BinaryOp.divide.apply (.integer dividend) (.integer divisor) =
      .ok (.float (Decimal.ofWhole dividend / Decimal.ofWhole divisor))
  only_double : ∀ number,
    BinaryOp.divide.apply (.integer dividend) (.integer divisor) = .ok (.float number) →
    ¬ divisor.toInt ∣ dividend.toInt

section Quotient

variable {dividend divisor : Int64}

theorem not_dividesExactly_of_unfitting (unfitting : Value.Unfitting dividend divisor) :
    ¬ DividesExactly dividend divisor := by
  obtain ⟨rfl, rfl⟩ := unfitting
  intro exactly
  exact exactly.only_double _ rfl ⟨9223372036854775808, rfl⟩

theorem dividesExactly_of_zero (zero : divisor = 0)
    (failed : BinaryOp.divide.apply (.integer dividend) (.integer divisor) =
      .error .divisionByZero) :
    DividesExactly dividend divisor := by
  constructor
  case zero => exact iff_of_true failed zero
  case whole => exact fun nonzero => absurd zero nonzero
  case double => exact fun nonzero => absurd zero nonzero
  case only_double =>
    intro number found
    cases failed.symm.trans found

theorem dividesExactly_of_whole (nonzero : divisor ≠ 0) {whole : Int64}
    (isQuotient : dividend.toInt = divisor.toInt * whole.toInt)
    (found : BinaryOp.divide.apply (.integer dividend) (.integer divisor) =
      .ok (.integer whole)) :
    DividesExactly dividend divisor := by
  constructor
  case zero => simp [found, nonzero]
  case whole =>
    intro _ quotient isOther
    have same := Int.eq_of_mul_eq_mul_left (Decimal.toInt_ne_zero nonzero)
      (isQuotient.symm.trans isOther)
    subst same
    exact ⟨fun _ => ⟨whole, rfl, found⟩, fun outside => absurd (fits_toInt whole) outside⟩
  case double => exact fun _ undivided => absurd ⟨whole.toInt, isQuotient⟩ undivided
  case only_double =>
    intro number double
    cases found.symm.trans double

theorem dividesExactly_of_double (nonzero : divisor ≠ 0)
    (undivided : ¬ divisor.toInt ∣ dividend.toInt)
    (found : BinaryOp.divide.apply (.integer dividend) (.integer divisor) =
      .ok (.float (Decimal.ofWhole dividend / Decimal.ofWhole divisor))) :
    DividesExactly dividend divisor := by
  constructor
  case zero => simp [found, nonzero]
  case whole => exact fun _ quotient isQuotient => absurd ⟨quotient, isQuotient⟩ undivided
  case double => exact fun _ _ => found
  case only_double => exact fun _ _ => undivided

end Quotient

theorem divide_exact_iff (dividend divisor : Int64) :
    DividesExactly dividend divisor ↔ ¬ (dividend = Int64.minValue ∧ divisor = -1) := by
  refine ⟨fun exactly unfitting => not_dividesExactly_of_unfitting unfitting exactly, ?_⟩
  intro fitting
  obtain ⟨zero, failed⟩ | ⟨nonzero, -, whole, isQuotient,
      found⟩ | ⟨nonzero, why, found⟩ :=
    Value.divide_cases dividend divisor
  · exact dividesExactly_of_zero zero failed
  · exact dividesExactly_of_whole nonzero isQuotient found
  · exact dividesExactly_of_double nonzero (why.resolve_left fitting) found

/-- The quotient is 2 to the power of 63, which does not fit. -/
theorem divide_least_by_minus_one :
    BinaryOp.divide.apply (.integer Int64.minValue) (.integer (-1)) =
        .ok (.float (Float.ofBits 0x43E0000000000000)) ∧
      ¬ Fits 9223372036854775808 ∧ ¬ DividesExactly Int64.minValue (-1) := by
  refine ⟨rfl, ?_, not_dividesExactly_of_unfitting ⟨rfl, rfl⟩⟩
  unfold Fits
  omega

end BehaviorContract
