import BehaviorContract.Decimal.Binary

namespace BehaviorContract.Decimal

open Float.Model Float.Model.UnpackedFloat

theorem log2_shiftRight (number places : Nat) :
    (number >>> places).log2 = number.log2 - places := by
  induction places with
  | zero => rfl
  | succ places induction =>
      have halved := Nat.log2_def (number >>> places)
      rw [Nat.shiftRight_succ]
      split at halved
      · omega
      · rename_i small
        rw [Nat.div_eq_of_lt (Nat.lt_of_not_le small), Nat.log2_zero]
        omega

theorem shiftRight_ne_zero {number places : Nat} (nonzero : number ≠ 0)
    (few : places ≤ number.log2) :
    number >>> places ≠ 0 := by
  rw [Nat.shiftRight_eq_div_pow]
  exact Nat.pos_iff_ne_zero.1
    (Nat.div_pos ((Nat.le_log2 nonzero).1 few) (Nat.two_pow_pos places))

theorem mantissa_shiftRight (extended : ExtendedMantissa) (places : Nat) :
    (extended >>> places).mantissa = extended.mantissa >>> places := by
  induction places with
  | zero => rfl
  | succ places induction =>
      rw [Nat.shiftRight_succ, ← induction]
      rfl

theorem mantissa_le_roundedMantissa (extended : ExtendedMantissa) :
    extended.mantissa ≤ extended.roundedMantissa := by
  obtain ⟨mantissa, roundBit, stickyBit⟩ := extended
  cases roundBit <;> cases stickyBit
  all_goals
    simp only [ExtendedMantissa.roundedMantissa, ExtendedMantissa.accuracy,
      Accuracy.roundToNearestEven]
    omega

/-- Says that the mantissa has a first digit and not too many of them, and that
the exponent is not too small. -/
structure InFormat (mantissa : Nat) (exponent : Int) : Prop where
  nonzero : mantissa ≠ 0
  digits : mantissa.log2 < Format.binary64.mantissaBits
  exponent : Format.binary64.minExponent ≤ exponent

theorem inFormat_shiftToTargetExponent (mantissa : Nat) {exponent : Int}
    (nonzero : mantissa ≠ 0) (inRange : Format.binary64.minExponent ≤ exponent) :
    InFormat (shiftToTargetExponent .binary64 mantissa exponent .exact).1.mantissa
      (shiftToTargetExponent .binary64 mantissa exponent .exact).2 := by
  have digits : Format.binary64.mantissaBits = 53 := rfl
  have places : (Format.binary64.targetExponent (totalExponent mantissa exponent) -
    exponent).toNat =
      mantissa.log2 - 52 := by
    unfold Format.targetExponent totalExponent
    omega
  simp only [shiftToTargetExponent, shiftToExponent, places, mantissa_shiftRight,
    ExtendedMantissa.ofMantissaAndAccuracy]
  constructor
  · exact shiftRight_ne_zero nonzero (Nat.sub_le ..)
  · rw [log2_shiftRight]
    omega
  · omega

theorem roundWithAccuracy_inFormat (sign : Sign) {mantissa : Nat} {exponent : Int}
    (nonzero : mantissa ≠ 0) (inRange : Format.binary64.minExponent ≤ exponent) :
    ∃ rounded scaled positive, InFormat rounded scaled ∧
      roundWithAccuracy .binary64 sign mantissa exponent .exact =
        .finite sign rounded scaled positive := by
  have first := inFormat_shiftToTargetExponent mantissa nonzero inRange
  have grown := mantissa_le_roundedMantissa
    (shiftToTargetExponent .binary64 mantissa exponent .exact).1
  have stillNonzero :=
    Nat.pos_iff_ne_zero.1 (Nat.lt_of_lt_of_le (Nat.pos_of_ne_zero first.nonzero) grown)
  -- Rounding up can carry into one more digit, which is shifted out again.
  have second := inFormat_shiftToTargetExponent _ stillNonzero first.exponent
  refine ⟨_, _, Nat.pos_of_ne_zero second.nonzero, second, ?_⟩
  unfold roundWithAccuracy
  exact dif_neg second.nonzero

theorem round_inFormat (sign : Sign) {magnitude : Nat} (nonzero : magnitude ≠ 0) :
    ∃ rounded scaled positive, InFormat rounded scaled ∧
      UnpackedFloat.round .binary64 sign magnitude 0 =
        .finite sign rounded scaled positive := by
  unfold UnpackedFloat.round decreaseExponent
  apply roundWithAccuracy_inFormat
  · rw [Ne, Nat.shiftLeft_eq_zero_iff]
    exact nonzero
  · have least : Format.binary64.minExponent = -1074 := rfl
    unfold Format.targetExponent
    omega

def isZero : UnpackedFloat → Bool
  | .zero _ => true
  | _ => false

theorem isZero_unpack {bits : BitVec Format.binary64.numBits}
    (zero : isZero (UnpackedFloat.unpack .binary64 bits) = true) :
    unpackExponent bits = 0#_ ∧ unpackMantissa bits = 0#_ := by
  unfold UnpackedFloat.unpack at zero
  dsimp only at zero
  by_cases noNumber : unpackExponent bits = -1#_
  · rw [if_pos noNumber] at zero
    by_cases noMantissa : unpackMantissa bits = 0#_
    · rw [if_pos noMantissa] at zero
      cases zero
    · rw [if_neg noMantissa] at zero
      cases zero
  · rw [if_neg noNumber] at zero
    by_cases noExponent : unpackExponent bits = 0#_
    · rw [if_pos noExponent] at zero
      by_cases noMantissa : unpackMantissa bits = 0#_
      · exact ⟨noExponent, noMantissa⟩
      · rw [dif_neg noMantissa] at zero
        cases zero
    · rw [if_neg noExponent] at zero
      cases zero

theorem not_isZero_pack (sign : Sign) {mantissa : Nat} {exponent : Int}
    (inFormat : InFormat mantissa exponent) (positive : 0 < mantissa) :
    isZero (UnpackedFloat.unpack .binary64
      (UnpackedFloat.pack .binary64 (.finite sign mantissa exponent positive))) =
      false := by
  have least : Format.binary64.minExponent = -1074 := rfl
  have bias : Format.binary64.exponentBias = 1023 := rfl
  have digits : Format.binary64.mantissaBits = 53 := rfl
  have exponents : 2 ^ Format.binary64.exponentBits = 2048 := rfl
  obtain ⟨nonzero, short, inRange⟩ := inFormat
  apply Bool.eq_false_iff.2
  intro zero
  obtain ⟨noExponent, noMantissa⟩ := isZero_unpack zero
  unfold UnpackedFloat.pack at noExponent noMantissa
  dsimp only at noExponent noMantissa
  split at noExponent
  · rw [packedInfinity, unpackExponent_packComponents] at noExponent
    cases noExponent
  · rename_i finite
    split at noExponent
    · have biased := congrArg BitVec.toNat noExponent
      rw [unpackExponent_packComponents, BitVec.toNat_ofNat,
        Nat.mod_eq_of_lt (by omega)] at biased
      simp only [BitVec.toNat_ofNat, Nat.zero_mod] at biased
      omega
    · rename_i subnormal
      rw [if_neg finite, if_neg subnormal] at noMantissa
      have held := congrArg BitVec.toNat noMantissa
      have fits : mantissa < 2 ^ Format.binary64.mantissaBitsWithoutImplicit :=
        (Nat.log2_lt nonzero).1 (show mantissa.log2 < 52 by omega)
      rw [unpackMantissa_packComponents, BitVec.toNat_ofNat,
        Nat.mod_eq_of_lt fits] at held
      simp only [BitVec.toNat_ofNat, Nat.zero_mod] at held
      exact nonzero held

theorem isZero_of_beq {number : UnpackedFloat} (sign : Sign)
    (equal : number.beq (.zero sign) = true) :
    isZero number = true := by
  cases number with
  | zero sign => rfl
  | notANumber => cases equal
  | infinity sign => cases sign <;> cases equal
  | finite sign => cases sign <;> cases equal

theorem ofInt_inFormat {whole : Int} (nonzero : whole ≠ 0) :
    ∃ sign rounded scaled positive, InFormat rounded scaled ∧
      UnpackedFloat.ofInt .binary64 whole = .finite sign rounded scaled positive := by
  unfold UnpackedFloat.ofInt UnpackedFloat.normalize
  cases order : compare whole 0 with
  | lt =>
      have below := Int.compare_eq_lt.1 order
      exact ⟨.negative, round_inFormat .negative (by omega)⟩
  | eq => exact absurd (Int.compare_eq_eq.1 order) nonzero
  | gt =>
      have above := Int.compare_eq_gt.1 order
      exact ⟨.positive, round_inFormat .positive (by omega)⟩

theorem toInt_ne_zero {whole : Int64} (nonzero : whole ≠ 0) : whole.toInt ≠ 0 :=
  fun same => nonzero (Int64.toInt_inj.1 same)

theorem ofWhole_beq_zero {whole : Int64} (nonzero : whole ≠ 0) :
    (ofWhole whole == 0) = false := by
  obtain ⟨sign, rounded, scaled, positive, inFormat, isFinite⟩ :=
    ofInt_inFormat (toInt_ne_zero nonzero)
  apply Bool.eq_false_iff.2
  intro equal
  have zero := isZero_of_beq .positive equal
  have packed := not_isZero_pack sign inFormat positive
  rw [← isFinite] at packed
  exact absurd zero (Bool.eq_false_iff.1 packed)

end BehaviorContract.Decimal
