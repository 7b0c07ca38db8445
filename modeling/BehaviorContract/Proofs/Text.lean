import BehaviorContract.Text.Basic
import Mathlib.Data.List.TakeWhile
import Mathlib.Data.Nat.Digits.Defs

namespace BehaviorContract.Text

/-- Says that white space was taken away from both ends of a text until none was
left there. -/
structure Trims (text core : String) : Prop where
  around : ∃ before after, text.toList = before ++ core.toList ++ after ∧
    (∀ c ∈ before, isBlank c = true) ∧ ∀ c ∈ after, isBlank c = true
  starts : ∀ c, core.toList.head? = some c → isBlank c = false
  ends : ∀ c, core.toList.getLast? = some c → isBlank c = false

theorem dropWhile_blank_append {before rest : List Char}
    (blank : ∀ c ∈ before, isBlank c = true)
    (starts : ∀ c, rest.head? = some c → isBlank c = false) :
    (before ++ rest).dropWhile isBlank = rest := by
  rw [List.dropWhile_append_of_pos blank]
  cases rest with
  | nil => rfl
  | cons c rest => rw [List.dropWhile_cons_of_neg (by simp [starts c rfl])]

theorem not_isBlank_of_head?_dropWhile {chars : List Char} {c : Char}
    (first : (chars.dropWhile isBlank).head? = some c) : isBlank c = false := by
  have notBlank := List.head?_dropWhile_not isBlank chars
  rw [first] at notBlank
  exact notBlank

theorem Trims.trim_eq {text core : String} (trims : Trims text core) :
    trim text = core := by
  obtain ⟨⟨before, after, split, blankBefore, blankAfter⟩, starts, ends⟩ := trims
  have trimmed : trimChars text.toList = core.toList := by
    rw [trimChars, split]
    cases isCore : core.toList with
    | nil =>
        have blank : ∀ c ∈ before ++ after, isBlank c = true :=
          List.forall_mem_append.2 ⟨blankBefore, blankAfter⟩
        have nothing : (before ++ after ++ []).dropWhile isBlank = [] :=
          dropWhile_blank_append blank (by simp)
        rw [List.append_nil] at nothing
        rw [List.append_nil, nothing]
        rfl
    | cons first rest =>
        have blank : ∀ c ∈ after.reverse, isBlank c = true :=
          fun c member => blankAfter c (List.mem_reverse.1 member)
        rw [← isCore, List.append_assoc, dropWhile_blank_append blankBefore,
          List.reverse_append, dropWhile_blank_append blank, List.reverse_reverse]
        · rw [List.head?_reverse]
          exact ends
        · rw [isCore] at starts ⊢
          exact starts
  rw [trim, trimmed, String.ofList_toList]

theorem trims_trim (text : String) : Trims text (trim text) := by
  have isCore : (trim text).toList = trimChars text.toList := by
    rw [trim, String.toList_ofList]
  let middle := text.toList.dropWhile isBlank
  have wholeMiddle : middle =
      trimChars text.toList ++ (middle.reverse.takeWhile isBlank).reverse := by
    rw [trimChars, ← List.reverse_append, List.takeWhile_append_dropWhile,
      List.reverse_reverse]
  refine ⟨⟨text.toList.takeWhile isBlank, (middle.reverse.takeWhile isBlank).reverse, ?_,
    ?_, ?_⟩, ?_, ?_⟩
  · rw [isCore, List.append_assoc, ← wholeMiddle, List.takeWhile_append_dropWhile]
  · intro c member
    exact List.mem_takeWhile_imp member
  · intro c member
    exact List.mem_takeWhile_imp (List.mem_reverse.1 member)
  · intro c first
    rw [isCore] at first
    have ofMiddle : middle.head? = some c := by
      rw [wholeMiddle, List.head?_append, first]
      rfl
    exact not_isBlank_of_head?_dropWhile ofMiddle
  · intro c last
    rw [isCore, trimChars, List.getLast?_reverse] at last
    exact not_isBlank_of_head?_dropWhile last

theorem trims_iff {text core : String} : Trims text core ↔ trim text = core := by
  constructor
  · exact Trims.trim_eq
  · rintro rfl
    exact trims_trim text

/-- Says that a text writes a number: at least one decimal digit, with or
without a plus before them. -/
def Writes (text : String) (number : Nat) : Prop :=
  ∃ digits : List Char,
    (text.toList = digits ∨ text.toList = '+' :: digits) ∧ digits ≠ [] ∧
    (∀ c ∈ digits, c.isDigit = true) ∧
      Nat.ofDigits 10 (digits.reverse.map fun c => c.toNat - '0'.toNat) = number

theorem natOfDigits_eq_ofDigits (digits : List Char) :
    natOfDigits digits = Nat.ofDigits 10
      (digits.reverse.map fun c => c.toNat - '0'.toNat) := by
  rw [natOfDigits, List.foldl_eq_foldr_reverse, Nat.ofDigits_eq_foldr, List.foldr_map]
  congr 1
  funext c value
  exact Nat.add_comm ..

theorem natOfChars?_eq_some_iff {chars : List Char} {number : Nat} :
    natOfChars? chars = some number ↔
      chars ≠ [] ∧ (∀ c ∈ chars, c.isDigit = true) ∧ natOfDigits chars = number := by
  simp [natOfChars?, and_assoc]

theorem natBelow?_eq_some_iff {bound number : Nat} {text : String} :
    natBelow? bound text = some number ↔ Writes text number ∧ number < bound := by
  unfold natBelow? Writes
  simp only [Option.filter_eq_some_iff, decide_eq_true_eq, natOfChars?_eq_some_iff,
    natOfDigits_eq_ofDigits]
  apply and_congr_left'
  split
  · rename_i rest withPlus
    constructor
    · intro writes
      exact ⟨rest, .inr withPlus, writes⟩
    · rintro ⟨digits, same | same, notEmpty, allDigits, value⟩
      · have digit := allDigits '+' (by rw [← same, withPlus]; simp)
        cases digit
      · cases withPlus.symm.trans same
        exact ⟨notEmpty, allDigits, value⟩
  · rename_i noPlus
    constructor
    · intro writes
      exact ⟨text.toList, .inl rfl, writes⟩
    · rintro ⟨digits, rfl | same, notEmpty, allDigits, value⟩
      · exact ⟨notEmpty, allDigits, value⟩
      · exact (noPlus digits same).elim

end BehaviorContract.Text
