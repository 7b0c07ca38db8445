import BehaviorContract.Proofs.Clause.Renaming

/-! Naming apart as a run. For each check whose name was given before, numbers
are tried from two on without any bound. Such a search ends, since the names
that it tries differ from each other and only finitely many are taken. -/

namespace BehaviorContract

/-- Says that trying the numbers of a name from one on ends at another. -/
inductive SearchEnds (taken : List String) (name : String) : Int32 → Int32 → Prop
  | free {number : Int32} (free : numberedName name number.toInt ∉ taken) :
      SearchEnds taken name number number
  | next {number last : Int32} (held : numberedName name number.toInt ∈ taken)
      (later : SearchEnds taken name (number + 1) last) :
      SearchEnds taken name number last

namespace SearchEnds

variable {taken : List String} {name : String}

theorem of_freshNumber? {tries : Nat} {first last : Int32}
    (found : freshNumber? taken name tries first = some last) :
    SearchEnds taken name first last := by
  induction tries generalizing first with
  | zero => cases found
  | succ tries induction =>
      rw [freshNumber?] at found
      split at found
      · rename_i held
        exact .next held (induction found)
      · rename_i free
        cases found
        exact .free free

theorem unique {first last other : Int32} (search : SearchEnds taken name first last)
    (again : SearchEnds taken name first other) : last = other := by
  induction search with
  | free free =>
      cases again with
      | free => rfl
      | next held later => exact absurd held free
  | next held later induction =>
      cases again with
      | free free => exact absurd held free
      | next _ later => exact induction later

end SearchEnds

theorem searchEnds_freshName {taken : List String} {name : String} (seen : name ∈ taken)
    (fits : taken.length ≤ 2147483646) :
    ∃ number : Int32, SearchEnds taken name 2 number ∧ 2 ≤ number.toInt ∧
      number.toInt ≤ taken.length + 1 ∧
      freshName taken name = numberedName name number.toInt := by
  obtain ⟨steps, before, held, free⟩ := exists_steps seen fits
  have number : triedNumber steps = (2 + steps : Nat) := triedNumber_of_lt (by omega)
  refine ⟨Int32.ofNat (2 + steps),
    .of_freshNumber? (freshNumber?_eq (Nat.le_of_lt before) held free), ?_, ?_,
    freshName_eq (Nat.le_of_lt before) held free⟩
  · change 2 ≤ triedNumber steps
    omega
  · change triedNumber steps ≤ _
    omega

namespace Check

/-- Says that a pass over checks ends with renamed checks. The pass keeps the
names that are taken. -/
inductive PassEnds : List String → List Check → List Check → Prop
  | done {taken : List String} : PassEnds taken [] []
  | keep {taken : List String} {check : Check} {rest renamed : List Check}
      (unseen : check.name ∉ taken)
      (later : PassEnds (check.name :: taken) rest renamed) :
      PassEnds taken (check :: rest) (check :: renamed)
  | rename {taken : List String} {check : Check} {rest renamed : List Check}
      {number : Int32}
      (seen : check.name ∈ taken) (search : SearchEnds taken check.name 2 number)
      (later : PassEnds (numberedName check.name number.toInt :: taken) rest renamed) :
      PassEnds taken (check :: rest)
        ({ check with name := numberedName check.name number.toInt } :: renamed)

namespace PassEnds

variable {taken : List String} {checks renamed again : List Check}

theorem nameApart (fits : taken.length + checks.length < 2147483648) :
    PassEnds taken checks (Check.nameApart taken checks) := by
  induction checks generalizing taken with
  | nil => exact .done
  | cons check rest induction =>
      rw [List.length_cons] at fits
      have later (name : String) :
          PassEnds (name :: taken) rest (Check.nameApart (name :: taken) rest) :=
        induction (by rw [List.length_cons]; omega)
      rw [Check.nameApart]
      by_cases seen : check.name ∈ taken
      · obtain ⟨number, search, -, -, same⟩ := searchEnds_freshName seen (by omega)
        rw [if_pos seen, same]
        exact .rename seen search (later _)
      · rw [if_neg seen]
        exact .keep seen (later _)

theorem unique (pass : PassEnds taken checks renamed)
    (other : PassEnds taken checks again) : renamed = again := by
  induction pass generalizing again with
  | done =>
      cases other with
      | done => rfl
  | keep unseen later induction =>
      cases other with
      | keep _ later => rw [induction later]
      | rename seen => exact absurd seen unseen
  | rename seen search later induction =>
      cases other with
      | keep unseen => exact absurd seen unseen
      | rename _ searchAgain later =>
          obtain rfl := search.unique searchAgain
          rw [induction later]

theorem iff_eq_nameApart (fits : taken.length + checks.length < 2147483648) :
    PassEnds taken checks renamed ↔ renamed = Check.nameApart taken checks := by
  constructor
  · intro pass
    exact pass.unique (nameApart fits)
  · rintro rfl
    exact nameApart fits

end PassEnds

theorem getElem?_nameApart {taken : List String} {checks : List Check}
    (fits : taken.length + checks.length < 2147483648) {position : Nat} {check : Check}
    (found : checks[position]? = some check) :
    ∃ given, (nameApart taken checks)[position]? = some { check with name := given } ∧
      (given = check.name ∨
        ∃ number : Nat, 2 ≤ number ∧ number ≤ taken.length + position + 1 ∧
          given = numberedName check.name number) := by
  induction checks generalizing taken position with
  | nil => simp at found
  | cons first rest induction =>
      rw [List.length_cons] at fits
      rw [nameApart]
      cases position with
      | succ position =>
          generalize
            (if first.name ∈ taken then freshName taken first.name else first.name) = name
          have fewer : (name :: taken).length + rest.length < 2147483648 := by
            rw [List.length_cons]
            omega
          have later := induction fewer found
          rw [List.length_cons, Nat.add_right_comm _ 1 position] at later
          exact later
      | zero =>
          cases found
          refine ⟨_, rfl, ?_⟩
          by_cases seen : check.name ∈ taken
          · obtain ⟨number, -, least, most, same⟩ := searchEnds_freshName seen (by omega)
            refine .inr ⟨number.toInt.toNat, by omega, by omega, ?_⟩
            rw [if_pos seen, same, Int.toNat_of_nonneg (by omega)]
          · exact .inl (if_neg seen)

theorem withUniqueNames_of_nodup {checks : List Check} (distinct : (names checks).Nodup) :
    withUniqueNames checks = checks := by
  have front : checks <+: nameApart [] (checks ++ []) :=
    prefix_nameApart distinct (by simp) []
  rw [List.append_nil] at front
  exact (front.eq_of_length (length_nameApart [] checks).symm).symm

theorem withUniqueNames_separates {checks : List Check}
    (fits : checks.length < 2147483648) :
    (∀ renamed, PassEnds [] checks renamed ↔ renamed = withUniqueNames checks) ∧
      (withUniqueNames checks).length = checks.length ∧
      (∀ position check, checks[position]? = some check →
        ∃ given, (withUniqueNames checks)[position]? = some { check with name := given } ∧
          (given = check.name ∨
            ∃ number : Nat, 2 ≤ number ∧ number ≤ position + 1 ∧
              given = numberedName check.name number)) ∧
      (names (withUniqueNames checks)).Nodup ∧
      withUniqueNames (withUniqueNames checks) = withUniqueNames checks := by
  have distinct : (names (withUniqueNames checks)).Nodup :=
    (nodup_names_nameApart [] checks).1
  have fits : ([] : List String).length + checks.length < 2147483648 := by
    rwa [List.length_nil, Nat.zero_add]
  refine ⟨fun renamed => PassEnds.iff_eq_nameApart fits, length_nameApart [] checks, ?_,
    distinct, withUniqueNames_of_nodup distinct⟩
  intro position check found
  have placed := getElem?_nameApart fits found
  rwa [List.length_nil, Nat.zero_add] at placed

def named (name : String) : Check :=
  { kind := .invariant, name, expression := "true", passed := true }

/-- A name that looks numbered already is numbered once more when it is taken. -/
theorem withUniqueNames_separates_numbered :
    (["a", "a", "a#2"].map named).length < 2147483648 ∧
      names (withUniqueNames (["a", "a", "a#2"].map named)) = ["a", "a#2", "a#2#2"] ∧
      withUniqueNames (withUniqueNames (["a", "a", "a#2"].map named)) =
        withUniqueNames (["a", "a", "a#2"].map named) := by
  have fits : (["a", "a", "a#2"].map named).length < 2147483648 := by decide
  obtain ⟨-, -, -, -, again⟩ := withUniqueNames_separates fits
  exact ⟨fits, by decide, again⟩

/-- Where a name stands once too often for its number to fit, the number is negative. -/
theorem withUniqueNames_crowded :
    (withUniqueNames (List.replicate 2147483648
      (named (clauseName "a" 1))))[2147483647]? =
        some (named "a_1#-2147483648") ∧
      "a_1#-2147483648" ≠ clauseName "a" 1 ∧
      ∀ number : Nat, "a_1#-2147483648" ≠ numberedName (clauseName "a" 1) number := by
  have isName : IsClauseName (named (clauseName "a" 1)).name := ⟨"a", 1, rfl⟩
  refine ⟨withUniqueNames_replicate_wraps isName rfl, by decide, ?_⟩
  intro number same
  have wrapped : numberedName (clauseName "a" 1) (-2147483648) = "a_1#-2147483648" := by
    decide
  have numbers := (numberedName_inj (wrapped.trans same)).2
  omega

end Check

end BehaviorContract
