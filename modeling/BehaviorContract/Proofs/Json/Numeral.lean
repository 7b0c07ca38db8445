import BehaviorContract.Json.Printer
import BehaviorContract.Json.Token
import Mathlib.Data.List.TakeDrop
import Mathlib.Data.List.TakeWhile

namespace BehaviorContract

/-- Says that the text of a number is a numeral that stands for the number. -/
def Number.ReadsBack (number : Number) : Prop :=
  (Numeral.ofChars? number.write.toList).bind Numeral.toNumber? = some number

namespace Json

section Numerals

theorem isDigit_of_natOfChars? {chars : List Char} {value : Nat}
    (isNat : Text.natOfChars? chars = some value) :
    ∀ c ∈ chars, c.isDigit = true := by
  unfold Text.natOfChars? at isNat
  split at isNat
  · rename_i digits
    exact List.all_eq_true.1 (Bool.and_eq_true_iff.1 digits).2
  · cases isNat

theorem continuesNumeral_of_isDigit {c : Char} (digit : c.isDigit = true) :
    continuesNumeral c = true := by
  simp [continuesNumeral, digit]

theorem continuesNumeral_of_signedExponent {chars : List Char}
    (signed : (Numeral.signedExponent chars).isSome = true) :
    ∀ c ∈ chars, continuesNumeral c = true := by
  have ofDigits : ∀ {digits : List Char},
    (Text.natOfChars? digits >>= fun value => pure (value : Int)).isSome = true →
      ∀ c ∈ digits, continuesNumeral c = true := by
    intro digits isNat c member
    cases found : Text.natOfChars? digits with
    | none =>
        rw [found] at isNat
        cases isNat
    | some value =>
        exact continuesNumeral_of_isDigit (isDigit_of_natOfChars? found c member)
  unfold Numeral.signedExponent at signed
  rw [Option.isSome_map] at signed
  split at signed
  · exact List.forall_mem_cons.2 ⟨by decide, ofDigits signed⟩
  · exact List.forall_mem_cons.2 ⟨by decide, ofDigits signed⟩
  · exact ofDigits signed

theorem continuesNumeral_of_endingExponent {chars : List Char} {exponent : Option Int}
    (ending : Numeral.endingExponent chars = some exponent) :
    ∀ c ∈ chars, continuesNumeral c = true := by
  cases chars with
  | nil => nofun
  | cons mark rest =>
      rw [Numeral.endingExponent] at ending
      split at ending
      · rename_i isMark
        have ofMark : continuesNumeral mark = true := by
          rcases isMark with rfl | rfl <;> decide
        have signed : (Numeral.signedExponent rest).isSome = true := by
          rw [← Option.isSome_map, ending]
          rfl
        exact List.forall_mem_cons.2 ⟨ofMark, continuesNumeral_of_signedExponent signed⟩
      · cases ending

theorem continuesNumeral_of_dropWhile {chars : List Char}
    (ofRest : ∀ c ∈ chars.dropWhile Char.isDigit, continuesNumeral c = true) :
    ∀ c ∈ chars, continuesNumeral c = true := by
  rw [← List.takeWhile_append_dropWhile (p := Char.isDigit) (l := chars)]
  intro c member
  cases List.mem_append.1 member with
  | inl digit => exact continuesNumeral_of_isDigit (List.mem_takeWhile_imp digit)
  | inr later => exact ofRest c later

theorem continuesNumeral_of_splitFraction {chars rest : List Char}
    {fraction : Option (List Char)}
    (splits : Numeral.splitFraction chars = some (fraction, rest))
    (ofRest : ∀ c ∈ rest, continuesNumeral c = true) :
    ∀ c ∈ chars, continuesNumeral c = true := by
  unfold Numeral.splitFraction at splits
  split at splits
  · simp only [List.span_eq_takeWhile_dropWhile] at splits
    split at splits
    · cases splits
    · cases splits
      exact List.forall_mem_cons.2 ⟨by decide, continuesNumeral_of_dropWhile ofRest⟩
  · cases splits
    exact ofRest

/-- A numeral starts with a digit or a minus, and every character continues it. -/
theorem continuesNumeral_of_ofChars? {chars : List Char} {numeral : Numeral}
    (isNumeral : Numeral.ofChars? chars = some numeral) :
    (∀ c ∈ chars, continuesNumeral c = true) ∧
      ∃ first more, chars = first :: more ∧ (first.isDigit || first == '-') = true := by
  unfold Numeral.ofChars? at isNumeral
  split at isNumeral
  rename_i negative unsigned sign
  simp only [List.span_eq_takeWhile_dropWhile] at isNumeral
  split at isNumeral
  · rename_i isWhole
    obtain ⟨⟨fraction, rest⟩, splits, isNumeral⟩ := Option.bind_eq_some_iff.1 isNumeral
    obtain ⟨exponent, ending, -⟩ := Option.bind_eq_some_iff.1 isNumeral
    have continues : ∀ c ∈ unsigned, continuesNumeral c = true :=
      continuesNumeral_of_dropWhile
        (continuesNumeral_of_splitFraction splits
          (continuesNumeral_of_endingExponent ending))
    split at sign
    · cases sign
      exact ⟨List.forall_mem_cons.2 ⟨by decide, continues⟩, _, _, rfl, by decide⟩
    · cases sign
      refine ⟨continues, ?_⟩
      cases chars with
      | nil => cases isWhole
      | cons first more =>
          refine ⟨first, more, rfl, ?_⟩
          cases digit : first.isDigit with
          | true => rfl
          | false =>
              rw [List.takeWhile_cons_of_neg (by simp [digit])] at isWhole
              cases isWhole
  · cases isNumeral

theorem ofChars?_digits {digits : List Char} (allDigits : ∀ c ∈ digits, c.isDigit = true)
    (whole : Numeral.isWhole digits = true) :
    Numeral.ofChars? digits = some ⟨false, digits, none, none⟩ ∧
      Numeral.ofChars? ('-' :: digits) = some ⟨true, digits, none, none⟩ := by
  have taken : digits.takeWhile Char.isDigit = digits :=
    List.takeWhile_eq_self_iff.2 allDigits
  have dropped : digits.dropWhile Char.isDigit = [] :=
    List.dropWhile_eq_nil_iff.2 allDigits
  constructor
  · unfold Numeral.ofChars?
    split
    rename_i negative unsigned sign
    split at sign
    · have isDigit := allDigits '-' (by simp)
      cases isDigit
    · cases sign
      simp only [List.span_eq_takeWhile_dropWhile, taken, dropped, whole, if_true]
      rfl
  · simp only [Numeral.ofChars?, List.span_eq_takeWhile_dropWhile, taken, dropped,
      whole, if_true]
    rfl

theorem head?_toDigits_ne {number : Nat} (positive : 0 < number) :
    (Nat.toDigits 10 number).head? ≠ some '0' := by
  have single : ∀ digit < 10,
    0 < digit → [Nat.digitChar digit].head? ≠ some '0' := by decide
  induction number using Nat.strongRecOn with
  | ind number induction =>
      by_cases small : number < 10
      · rw [Nat.toDigits_of_lt_base small]
        exact single number small positive
      · rw [Nat.toDigits_of_base_le (by decide) (by omega), List.head?_append]
        have earlier := induction (number / 10) (by omega) (by omega)
        cases head : (Nat.toDigits 10 (number / 10)).head? with
        | none => exact absurd (List.head?_eq_none_iff.1 head) Nat.toDigits_ne_nil
        | some first =>
            rw [head] at earlier
            exact earlier

theorem isWhole_toDigits (number : Nat) :
    Numeral.isWhole (Nat.toDigits 10 number) = true := by
  cases number with
  | zero => rfl
  | succ previous =>
      have notZero := head?_toDigits_ne (Nat.succ_pos previous)
      have notEmpty : Nat.toDigits 10 (previous + 1) ≠ [] := Nat.toDigits_ne_nil
      simp [Numeral.isWhole, notZero, notEmpty]

end Numerals

end Json

open Json in
theorem Number.readsBack_integer {value : Int} (least : -9223372036854775808 ≤ value)
    (greatest : value ≤ 18446744073709551615) : (Number.integer value).ReadsBack := by
  have digits : ∀ number, ∀ c ∈ Nat.toDigits 10 number, c.isDigit = true :=
    fun number c member =>
    Nat.isDigit_of_mem_toDigits (by decide) (by decide) member
  have value? : ∀ number, Text.natOfDigits (Nat.toDigits 10 number) = number :=
    fun number =>
    Nat.ofDigitChars_ten_toDigits
  cases value with
  | ofNat number =>
      have written : (Number.integer (.ofNat number)).write.toList =
          Nat.toDigits 10 number := by
        rw [write, Int.toString_eq_repr, Int.repr, Nat.toList_repr]
      rw [ReadsBack, written,
        (ofChars?_digits (digits number) (isWhole_toDigits number)).1]
      have fits : number ≤ 18446744073709551615 := Int.ofNat_le.1 greatest
      simp [Numeral.toNumber?, value?, fits]
  | negSucc previous =>
      have written : (Number.integer (.negSucc previous)).write.toList =
          '-' :: Nat.toDigits 10 (previous + 1) := by
        rw [write, Int.toString_eq_repr, Int.repr, String.toList_append, Nat.toList_repr]
        rfl
      rw [ReadsBack, written, (ofChars?_digits (digits _) (isWhole_toDigits _)).2]
      have fits : previous + 1 ≤ 9223372036854775808 := by omega
      simp [Numeral.toNumber?, value?, fits, Int.negSucc_eq]

end BehaviorContract
