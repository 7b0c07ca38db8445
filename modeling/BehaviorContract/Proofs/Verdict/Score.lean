import BehaviorContract.Verdict.Basic

namespace BehaviorContract

/-- Says that each word in the computation of a score is the number that it stands for. -/
structure ScoreFits (passed total : Nat) : Prop where
  passedWord : (UInt64.ofNat passed).toNat = passed
  totalWord : (UInt64.ofNat total).toNat = total
  scaled : (200 * UInt64.ofNat passed).toNat = 200 * passed
  numerator : (200 * UInt64.ofNat passed + UInt64.ofNat total).toNat =
    200 * passed + total
  denominator : (2 * UInt64.ofNat total).toNat = 2 * total
  quotient : ((200 * UInt64.ofNat passed + UInt64.ofNat total) /
    (2 * UInt64.ofNat total)).toNat < UInt8.size
  rounded : score passed total =
    ((200 * UInt64.ofNat passed + UInt64.ofNat total) / (2 * UInt64.ofNat total)).toUInt8

theorem scoreFits {passed total : Nat} (part : passed ≤ total) (positive : 0 < total)
    (fits : 201 * total < UInt64.size) : ScoreFits passed total := by
  have size : UInt64.size = 2 ^ 64 := rfl
  have passedWord : (UInt64.ofNat passed).toNat = passed :=
    UInt64.toNat_ofNat_of_lt' (by omega)
  have totalWord : (UInt64.ofNat total).toNat = total :=
    UInt64.toNat_ofNat_of_lt' (by omega)
  have scaled : (200 * UInt64.ofNat passed).toNat = 200 * passed := by
    rw [UInt64.toNat_mul, passedWord]
    exact Nat.mod_eq_of_lt (by change 200 * passed < _; omega)
  have numerator : (200 * UInt64.ofNat passed + UInt64.ofNat total).toNat =
      200 * passed + total := by
    rw [UInt64.toNat_add, scaled, totalWord]
    exact Nat.mod_eq_of_lt (by omega)
  have denominator : (2 * UInt64.ofNat total).toNat = 2 * total := by
    rw [UInt64.toNat_mul, totalWord]
    exact Nat.mod_eq_of_lt (by change 2 * total < _; omega)
  refine ⟨passedWord, totalWord, scaled, numerator, denominator, ?_, ?_⟩
  · rw [UInt64.toNat_div, numerator, denominator]
    exact Nat.div_lt_of_lt_mul (by change _ < 2 * total * 256; omega)
  · unfold score
    rw [if_neg (Nat.ne_of_gt positive), Nat.min_eq_left part]

theorem toNat_score {passed total : Nat} (positive : 0 < total)
    (fits : 201 * total < UInt64.size) :
    (score passed total).toNat = (200 * min passed total + total) / (2 * total) := by
  have words := scoreFits (Nat.min_le_right passed total) positive fits
  have clamped : score passed total = score (min passed total) total := by
    unfold score
    rw [Nat.min_assoc, Nat.min_self]
  rw [clamped, words.rounded, UInt64.toNat_toUInt8, Nat.mod_eq_of_lt words.quotient,
    UInt64.toNat_div, words.numerator, words.denominator]

theorem toNat_score_le_hundred (passed : Nat) {total : Nat}
    (fits : 201 * total < UInt64.size) :
    (score passed total).toNat ≤ 100 := by
  by_cases none : total = 0
  · simp [none, score]
  · rw [toNat_score (Nat.pos_of_ne_zero none) fits]
    have part : min passed total ≤ total := Nat.min_le_right ..
    exact Nat.le_of_lt_succ (Nat.div_lt_of_lt_mul (by omega))

theorem score_eq_hundred_iff {passed total : Nat} (fits : 201 * total < UInt64.size) :
    score passed total = 100 ↔ 200 * (total - passed) ≤ total := by
  have asNat : score passed total = 100 ↔ 100 ≤ (score passed total).toNat := by
    have atMost := toNat_score_le_hundred passed fits
    rw [← UInt8.toNat_inj]
    have hundred : UInt8.toNat 100 = 100 := rfl
    omega
  by_cases none : total = 0
  · subst none
    simp [score]
  · have positive : 0 < 2 * total := by omega
    rw [asNat, toNat_score (Nat.pos_of_ne_zero none) fits, Nat.le_div_iff_mul_le positive]
    omega

/-- The score is the only number within half a percent of the share that passed,
where a half is rounded up. -/
theorem toNat_score_eq_iff {passed total : Nat} (part : passed ≤ total)
    (positive : 0 < total) (fits : 201 * total < UInt64.size) (number : Int) :
    ((score passed total).toNat : Int) = number ↔
      2 * total * number ≤ 200 * passed + total ∧
        (200 * passed + total : Int) < 2 * total * (number + 1) := by
  have twice : (0 : Int) < 2 * total := by omega
  have quotient : ((score passed total).toNat : Int) =
      (200 * passed + total) / (2 * total) := by
    rw [toNat_score positive fits, Nat.min_eq_left part, Int.natCast_ediv]
    rfl
  rw [quotient, Int.ediv_eq_iff_of_pos twice, Int.mul_comm number,
    Int.mul_add, Int.mul_one]

theorem score_le_score {fewer more total : Nat} (less : fewer ≤ more)
    (fits : 201 * total < UInt64.size) :
    score fewer total ≤ score more total := by
  by_cases none : total = 0
  · subst none
    exact UInt8.le_refl _
  · have positive := Nat.pos_of_ne_zero none
    rw [UInt8.le_iff_toNat_le, toNat_score positive fits, toNat_score positive fits]
    refine Nat.div_le_div_right (Nat.add_le_add_right (Nat.mul_le_mul_left 200 ?_) total)
    omega

end BehaviorContract
