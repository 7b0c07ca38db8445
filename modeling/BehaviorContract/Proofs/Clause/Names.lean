import BehaviorContract.Clause.Contract
import BehaviorContract.Proofs.Clause.Truth

/-! Names of checks. A name is a label with a number, and the label and the
number can be read off it again. Names that were numbered apart end differently
from all of these, so renaming never runs into another kind of clauses. -/

namespace BehaviorContract

def clauseName (label : String) (number : Nat) : String :=
  label ++ "_" ++ toString number

theorem toList_toString (number : Nat) :
    (toString number).toList = Nat.toDigits 10 number := by
  rw [Nat.toString_eq_repr, Nat.toList_repr]

theorem not_mem_toDigits {c : Char} (notDigit : c.isDigit = false) (number : Nat) :
    c ∉ Nat.toDigits 10 number := by
  intro member
  have digit := Nat.isDigit_of_mem_toDigits (by decide) (by decide) member
  rw [notDigit] at digit
  cases digit

private theorem toDigits_inj {first second : Nat}
    (same : Nat.toDigits 10 first = Nat.toDigits 10 second) :
    first = second := by
  rw [← Nat.ofDigitChars_ten_toDigits (n := first), same, Nat.ofDigitChars_ten_toDigits]

theorem toString_nat_inj {first second : Nat} (same : toString first = toString second) :
    first = second := by
  have digits := congrArg String.toList same
  rw [toList_toString, toList_toString] at digits
  exact toDigits_inj digits

/-- Two lists split at the last occurrence of an item are equal only part by part. -/
theorem append_cons_inj_of_not_mem {α : Type} {item : α}
    {first second firstRest secondRest : List α} (firstLast : item ∉ firstRest)
    (secondLast : item ∉ secondRest)
    (same : first ++ item :: firstRest = second ++ item :: secondRest) :
    first = second ∧ firstRest = secondRest := by
  rcases List.append_eq_append_iff.1 same with
    ⟨between, split, tail⟩ | ⟨between, split, tail⟩
  · cases between with
    | nil => exact ⟨by simpa using split.symm, (List.cons.inj tail).2⟩
    | cons head between =>
        exact absurd (by rw [(List.cons.inj tail).2]; simp) firstLast
  · cases between with
    | nil => exact ⟨by simpa using split, (List.cons.inj tail).2.symm⟩
    | cons head between =>
        exact absurd (by rw [(List.cons.inj tail).2]; simp) secondLast

private theorem toList_clauseName (label : String) (number : Nat) :
    (clauseName label number).toList = label.toList ++ '_' :: Nat.toDigits 10 number := by
  simp [clauseName]

private theorem toList_numberedName (name : String) (number : Int) :
    (numberedName name number).toList =
      name.toList ++ '#' :: (toString number).toList := by
  simp [numberedName]

theorem not_mem_toString_int {c : Char} (notDigit : c.isDigit = false)
    (notMinus : c ≠ '-') (number : Int) : c ∉ (toString number).toList := by
  rw [Int.toString_eq_repr, Int.repr_eq_if]
  split
  · rw [Nat.toList_repr]
    exact not_mem_toDigits notDigit _
  · rw [String.toList_append, Nat.toList_repr]
    simp [notMinus, not_mem_toDigits notDigit]

private theorem toString_int_inj {first second : Int}
    (same : toString first = toString second) : first = second := by
  have digits := congrArg String.toList same
  rw [Int.toString_eq_repr, Int.toString_eq_repr, Int.repr_eq_if,
    Int.repr_eq_if] at digits
  have noMinus (number : Nat) : '-' ∉ Nat.toDigits 10 number :=
    not_mem_toDigits (by decide) number
  split at digits <;> split at digits <;>
    simp only [String.toList_append, Nat.toList_repr] at digits
  · have numbers := toDigits_inj digits
    omega
  · exact absurd (by simp [digits]) (noMinus first.toNat)
  · exact absurd (by simp [← digits]) (noMinus second.toNat)
  · have numbers := toDigits_inj (List.append_cancel_left digits)
    omega

theorem clauseName_inj {first second : String} {number other : Nat}
    (same : clauseName first number = clauseName second other) :
    first = second ∧ number = other := by
  have lists := congrArg String.toList same
  rw [toList_clauseName, toList_clauseName] at lists
  obtain ⟨labels, digits⟩ :=
    append_cons_inj_of_not_mem (not_mem_toDigits (by decide) _)
      (not_mem_toDigits (by decide) _) lists
  exact ⟨String.toList_injective labels, toDigits_inj digits⟩

/-- A name that was numbered apart has a mark after its last underscore, which
no other name has. -/
theorem numberedName_ne_clauseName (first second : String) (number : Nat) (copy : Int)
    (other : Nat) :
    numberedName (clauseName first number) copy ≠ clauseName second other := by
  intro same
  have lists := congrArg String.toList same
  rw [toList_numberedName, toList_clauseName, toList_clauseName, List.append_assoc,
    List.cons_append] at lists
  have noUnderscore : '_' ∉ Nat.toDigits 10 number ++ '#' :: (toString copy).toList := by
    have noSign := not_mem_toString_int (c := '_') (by decide) (by decide) copy
    simp only [List.mem_append, List.mem_cons, noSign, or_false]
    simp [not_mem_toDigits]
  obtain ⟨-, digits⟩ :=
    append_cons_inj_of_not_mem noUnderscore (not_mem_toDigits (by decide) _) lists
  exact not_mem_toDigits (c := '#') (by decide) other (by rw [← digits]; simp)

theorem numberedName_inj {first second : String} {number other : Int}
    (same : numberedName first number = numberedName second other) :
    first = second ∧ number = other := by
  have lists := congrArg String.toList same
  rw [toList_numberedName, toList_numberedName] at lists
  obtain ⟨names, digits⟩ := append_cons_inj_of_not_mem
    (not_mem_toString_int (by decide) (by decide) _)
    (not_mem_toString_int (by decide) (by decide) _) lists
  exact ⟨String.toList_injective names, toString_int_inj (String.toList_injective digits)⟩

theorem name_ne_numberedName (name : String) (number : Int) :
    name ≠ numberedName name number := by
  intro same
  have lengths := congrArg (List.length ∘ String.toList) same
  simp [toList_numberedName] at lengths

section Search

variable {taken : List String} {name : String}

/-- The number at a position of the search. -/
def triedNumber (position : Nat) : Int :=
  (Int32.ofNat (2 + position)).toInt

theorem triedNumber_of_lt {position : Nat} (fits : position < 2147483646) :
    triedNumber position = (2 + position : Nat) :=
  Int32.toInt_ofNat_of_lt (by omega)

theorem triedNumber_wraps : triedNumber 2147483646 = -2147483648 :=
  rfl

theorem freshNumber?_of_held {tries first steps : Nat}
    (held : ∀ step < steps,
      numberedName name (Int32.ofNat (first + step)).toInt ∈ taken) :
    freshNumber? taken name (steps + tries) (Int32.ofNat first) =
      freshNumber? taken name tries (Int32.ofNat (first + steps)) := by
  induction steps generalizing first with
  | zero => rw [Nat.zero_add, Nat.add_zero]
  | succ steps induction =>
      have next : ∀ step < steps,
          numberedName name (Int32.ofNat (first + 1 + step)).toInt ∈ taken := by
        intro step before
        rw [Nat.add_assoc, Nat.add_comm 1]
        exact held (step + 1) (Nat.succ_lt_succ before)
      have counted : Int32.ofNat first + 1 = Int32.ofNat (first + 1) :=
        (Int32.ofNat_add first 1).symm
      have here : numberedName name (Int32.ofNat first).toInt ∈ taken :=
        held 0 (Nat.succ_pos steps)
      rw [Nat.add_right_comm, freshNumber?, if_pos here, counted, induction next,
        Nat.add_assoc, Nat.add_comm 1]

theorem freshNumber?_eq {steps : Nat} (enough : steps ≤ taken.length)
    (held : ∀ step < steps, numberedName name (triedNumber step) ∈ taken)
    (free : numberedName name (triedNumber steps) ∉ taken) :
    freshNumber? taken name (taken.length + 1) 2 = some (Int32.ofNat (2 + steps)) := by
  have split : taken.length + 1 = steps + (taken.length - steps + 1) := by omega
  have passed : freshNumber? taken name (steps + (taken.length - steps + 1)) 2 =
      freshNumber? taken name (taken.length - steps + 1) (Int32.ofNat (2 + steps)) :=
    freshNumber?_of_held held
  rw [split, passed, freshNumber?]
  exact if_neg free

theorem freshName_eq {steps : Nat} (enough : steps ≤ taken.length)
    (held : ∀ step < steps, numberedName name (triedNumber step) ∈ taken)
    (free : numberedName name (triedNumber steps) ∉ taken) :
    freshName taken name = numberedName name (triedNumber steps) := by
  rw [freshName, freshNumber?_eq enough held free]
  rfl

theorem freshNumber?_free {tries : Nat} {first last : Int32}
    (found : freshNumber? taken name tries first = some last) :
    numberedName name last.toInt ∉ taken := by
  induction tries generalizing first with
  | zero => cases found
  | succ tries induction =>
      rw [freshNumber?] at found
      split at found
      · exact induction found
      · rename_i free
        cases found
        exact free

private theorem length_le_length_join {text : String} {texts : List String}
    (member : text ∈ texts) : text.length ≤ (String.join texts).length := by
  induction texts with
  | nil => cases member
  | cons first texts induction =>
      rw [String.join_cons, String.length_append]
      rcases List.mem_cons.1 member with rfl | later
      · exact Nat.le_add_right ..
      · exact Nat.le_trans (induction later) (Nat.le_add_left ..)

private theorem lt_length_toDigits_pow (places : Nat) :
    places < (Nat.toDigits 10 (Nat.pow 10 places)).length := by
  cases places with
  | zero => exact Nat.length_toDigits_pos
  | succ places =>
      refine Nat.lt_of_not_le fun few => ?_
      have less := (Nat.length_toDigits_le_iff (by decide) (Nat.succ_pos places)).1 few
      exact Nat.lt_irrefl _ less

private theorem numberedName_pow_not_mem :
    numberedName name (Nat.pow 10 (String.join taken).length : Nat) ∉ taken := by
  intro member
  have within := length_le_length_join member
  have digits := lt_length_toDigits_pow (String.join taken).length
  have written : (toString ((Nat.pow 10 (String.join taken).length : Nat) : Int)).toList =
      Nat.toDigits 10 (Nat.pow 10 (String.join taken).length) :=
    toList_toString _
  rw [← String.length_toList, toList_numberedName, List.length_append, List.length_cons,
    written] at within
  omega

theorem freshName_spec (taken : List String) (name : String) :
    ∃ number, freshName taken name = numberedName name number ∧
      numberedName name number ∉ taken := by
  refine ⟨_, rfl, ?_⟩
  cases found : freshNumber? taken name (taken.length + 1) 2 with
  | some last => exact freshNumber?_free found
  | none => exact numberedName_pow_not_mem

theorem nodup_numberedNames (name : String) {count : Nat} (fits : count ≤ 2147483646) :
    ((List.range count).map fun step => numberedName name (triedNumber step)).Nodup := by
  refine List.pairwise_map.2 (List.nodup_range.imp_of_mem ?_)
  intro first second firstInside secondInside different same
  have numbers := (numberedName_inj same).2
  have firstBound := List.mem_range.1 firstInside
  have secondBound := List.mem_range.1 secondInside
  rw [triedNumber_of_lt (by omega), triedNumber_of_lt (by omega)] at numbers
  omega

/-- The name itself and the names that were tried are all taken, and they differ
from each other. -/
theorem steps_lt_length {steps : Nat} (seen : name ∈ taken) (fits : steps ≤ 2147483646)
    (held : ∀ step < steps, numberedName name (triedNumber step) ∈ taken) :
    steps < taken.length := by
  let tried := (List.range steps).map fun step => numberedName name (triedNumber step)
  have distinct : (name :: tried).Nodup := by
    refine List.nodup_cons.2 ⟨?_, nodup_numberedNames name fits⟩
    intro member
    obtain ⟨step, -, same⟩ := List.mem_map.1 member
    exact name_ne_numberedName name _ same.symm
  have allTaken : name :: tried ⊆ taken := by
    refine List.cons_subset.2 ⟨seen, ?_⟩
    intro candidate member
    obtain ⟨step, inside, rfl⟩ := List.mem_map.1 member
    exact held step (List.mem_range.1 inside)
  have fewer := distinct.length_le_of_subset allTaken
  rwa [List.length_cons, List.length_map, List.length_range] at fewer

private theorem held_or_exists_steps (taken : List String) (name : String) (count : Nat) :
    (∀ step < count, numberedName name (triedNumber step) ∈ taken) ∨
      ∃ steps < count, (∀ step < steps, numberedName name (triedNumber step) ∈ taken) ∧
        numberedName name (triedNumber steps) ∉ taken := by
  induction count with
  | zero => exact .inl fun step before => absurd before (Nat.not_lt_zero step)
  | succ count induction =>
      rcases induction with held | ⟨steps, before, found⟩
      · by_cases last : numberedName name (triedNumber count) ∈ taken
        · refine .inl fun step before => ?_
          rcases Nat.lt_succ_iff_lt_or_eq.1 before with earlier | rfl
          · exact held step earlier
          · exact last
        · exact .inr ⟨count, Nat.lt_succ_self count, held, last⟩
      · exact .inr ⟨steps, Nat.lt_succ_of_lt before, found⟩

theorem exists_steps (seen : name ∈ taken) (fits : taken.length ≤ 2147483646) :
    ∃ steps < taken.length,
      (∀ step < steps, numberedName name (triedNumber step) ∈ taken) ∧
        numberedName name (triedNumber steps) ∉ taken := by
  rcases held_or_exists_steps taken name taken.length with held | found
  · exact absurd (steps_lt_length seen fits held) (Nat.lt_irrefl _)
  · exact found

end Search

namespace Check

def names (checks : List Check) : List String :=
  checks.map (·.name)

theorem names_cons (check : Check) (rest : List Check) :
    names (check :: rest) = check.name :: names rest :=
  rfl

theorem append_names_cons (earlier : List String) (check : Check) (rest : List Check) :
    earlier ++ names (check :: rest) = (earlier ++ [check.name]) ++ names rest := by
  rw [names_cons, List.append_assoc, List.singleton_append]

theorem nodup_names_nameApart (taken : List String) (checks : List Check) :
    (names (nameApart taken checks)).Nodup ∧
      ∀ name ∈ names (nameApart taken checks), name ∉ taken := by
  induction checks generalizing taken with
  | nil => simp [names, nameApart]
  | cons check rest induction =>
      rw [nameApart]
      generalize chosen :
        (if check.name ∈ taken then freshName taken check.name else check.name) = name
      obtain ⟨restDistinct, restFree⟩ := induction (name :: taken)
      have free : name ∉ taken := by
        subst chosen
        split
        · obtain ⟨number, same, notTaken⟩ := freshName_spec taken check.name
          rw [same]
          exact notTaken
        · assumption
      refine ⟨List.nodup_cons.2 ⟨fun member => restFree name member (by simp),
        restDistinct⟩, ?_⟩
      intro other member
      rcases List.mem_cons.1 member with rfl | later
      · exact free
      · exact fun inTaken => restFree other later (by simp [inTaken])

theorem mem_names_nameApart {taken : List String} {checks : List Check} {name : String}
    (member : name ∈ names (nameApart taken checks)) :
    name ∈ names checks ∨
      ∃ old ∈ names checks, ∃ number, name = numberedName old number := by
  induction checks generalizing taken with
  | nil => simp [names, nameApart] at member
  | cons check rest induction =>
      rw [nameApart] at member
      rcases List.mem_cons.1 member with rfl | later
      · dsimp only
        split
        · obtain ⟨number, same, -⟩ := freshName_spec taken check.name
          exact .inr ⟨check.name, by simp [names], number, same⟩
        · exact .inl (by simp [names])
      · rcases induction later with kept | ⟨old, oldMember, numbered⟩
        · exact .inl (List.mem_cons_of_mem _ kept)
        · exact .inr ⟨old, List.mem_cons_of_mem _ oldMember, numbered⟩

theorem mem_names_nameApart_of_mem (taken : List String) {checks : List Check}
    {name : String} (member : name ∈ names checks) :
    name ∈ taken ∨ name ∈ names (nameApart taken checks) := by
  induction checks generalizing taken with
  | nil => simp [names] at member
  | cons check rest induction =>
      rw [nameApart]
      generalize chosen : (if check.name ∈
        taken then freshName taken check.name else check.name) = given
      rcases List.mem_cons.1 member with rfl | later
      · by_cases known : check.name ∈ taken
        · exact .inl known
        · rw [if_neg known] at chosen
          exact .inr (by simp [names, chosen])
      · rcases induction (given :: taken) later with known | still
        · rcases List.mem_cons.1 known with rfl | known
          · exact .inr (by simp [names])
          · exact .inl known
        · exact .inr (List.mem_cons_of_mem _ still)

theorem nameApart_append (taken : List String) (front rest : List Check) :
    nameApart taken (front ++ rest) =
      nameApart taken front ++
        nameApart ((names (nameApart taken front)).reverse ++ taken) rest := by
  induction front generalizing taken with
  | nil => rfl
  | cons check front induction =>
      rw [List.cons_append, nameApart, nameApart, induction, names_cons,
        List.reverse_cons, List.append_assoc, List.singleton_append, List.cons_append]

theorem prefix_nameApart {taken : List String} {front : List Check}
    (distinct : (names front).Nodup) (free : ∀ name ∈ names front, name ∉ taken)
    (rest : List Check) :
    front <+: nameApart taken (front ++ rest) := by
  induction front generalizing taken with
  | nil => exact List.nil_prefix
  | cons check front induction =>
      obtain ⟨once, restDistinct⟩ := List.nodup_cons.1 distinct
      have unseen : check.name ∉ taken := free _ List.mem_cons_self
      rw [List.cons_append, nameApart, if_neg unseen]
      refine (List.prefix_cons_inj check).2 (induction restDistinct ?_)
      intro name member seen
      rcases List.mem_cons.1 seen with rfl | seen
      · exact once member
      · exact free name (List.mem_cons_of_mem _ member) seen

end Check

end BehaviorContract
