import BehaviorContract.Proofs.Clause.Count
import BehaviorContract.Proofs.Clause.Labels

namespace BehaviorContract

/-- The name that an occurrence of a name gets, where occurrences are counted
from one on. -/
def occurrenceName (name : String) (occurrence : Nat) : String :=
  if occurrence ≤ 1 then name else numberedName name occurrence

theorem occurrenceName_one (name : String) : occurrenceName name 1 = name :=
  if_pos (Nat.le_refl 1)

/-- Says that a name is a label with a number. -/
def IsClauseName (name : String) : Prop :=
  ∃ label number, name = clauseName label number

theorem IsClauseName.ne_numberedName {first second : String}
    (ofFirst : IsClauseName first) (ofSecond : IsClauseName second) (number : Int) :
    first ≠ numberedName second number := by
  obtain ⟨label, number, rfl⟩ := ofFirst
  obtain ⟨otherLabel, otherNumber, rfl⟩ := ofSecond
  exact (numberedName_ne_clauseName _ _ _ _ _).symm

theorem occurrenceName_inj {first second : String} {occurrence other : Nat}
    (ofFirst : IsClauseName first) (ofSecond : IsClauseName second)
    (occurs : 0 < occurrence) (otherOccurs : 0 < other)
    (same : occurrenceName first occurrence = occurrenceName second other) :
    first = second ∧ occurrence = other := by
  unfold occurrenceName at same
  split at same
  · split at same
    · exact ⟨same, by omega⟩
    · exact (ofFirst.ne_numberedName ofSecond _ same).elim
  · split at same
    · exact (ofSecond.ne_numberedName ofFirst _ same.symm).elim
    · obtain ⟨names, numbers⟩ := numberedName_inj same
      exact ⟨names, Int.ofNat_inj.1 numbers⟩

/-- Says that the taken names are exactly those that the earlier names got, each
for its own occurrence. -/
def GivenTo (earlier taken : List String) : Prop :=
  ∀ name, name ∈ taken ↔
    ∃ old occurrence, 0 < occurrence ∧ occurrence ≤ earlier.count old ∧
      name = occurrenceName old occurrence

namespace GivenTo

variable {earlier taken : List String}

theorem nil : GivenTo [] [] := by
  intro name
  constructor
  · intro impossible
    cases impossible
  · rintro ⟨old, occurrence, occurs, bound, -⟩
    rw [List.count_nil] at bound
    omega

theorem mem_iff (given : GivenTo earlier taken)
    (ofEarlier : ∀ old ∈ earlier, IsClauseName old) {name : String}
    (ofName : IsClauseName name) {occurrence : Nat} (occurs : 0 < occurrence) :
    occurrenceName name occurrence ∈ taken ↔ occurrence ≤ earlier.count name := by
  rw [given]
  constructor
  · rintro ⟨old, other, otherOccurs, bound, same⟩
    have oldMember : old ∈ earlier := List.count_pos_iff.1 (by omega)
    obtain ⟨rfl, rfl⟩ :=
      occurrenceName_inj ofName (ofEarlier old oldMember) occurs otherOccurs same
    exact bound
  · intro bound
    exact ⟨name, occurrence, occurs, bound, rfl⟩

theorem numberedName_mem_iff (given : GivenTo earlier taken)
    (ofEarlier : ∀ old ∈ earlier, IsClauseName old) {name : String}
    (ofName : IsClauseName name) {step : Nat} (fits : step < 2147483646) :
    numberedName name (triedNumber step) ∈ taken ↔ 2 + step ≤ earlier.count name := by
  have named : occurrenceName name (2 + step) = numberedName name (triedNumber step) := by
    rw [triedNumber_of_lt fits, occurrenceName, if_neg (by omega)]
  rw [← named, given.mem_iff ofEarlier ofName (by omega)]

theorem mem_iff_occurred (given : GivenTo earlier taken)
    (ofEarlier : ∀ old ∈ earlier, IsClauseName old) {name : String}
    (ofName : IsClauseName name) : name ∈ taken ↔ 1 ≤ earlier.count name := by
  rw [← given.mem_iff ofEarlier ofName Nat.one_pos, occurrenceName_one]

theorem chosen_eq (given : GivenTo earlier taken)
    (ofEarlier : ∀ old ∈ earlier, IsClauseName old) {name : String}
    (ofName : IsClauseName name) (fits : earlier.count name < 2147483647) :
    (if name ∈ taken then freshName taken name else name) =
      occurrenceName name (earlier.count name + 1) := by
  have first := given.mem_iff_occurred ofEarlier ofName
  have later {step : Nat} (fits : step < 2147483646) :
      numberedName name (triedNumber step) ∈ taken ↔ 2 + step ≤ earlier.count name :=
    given.numberedName_mem_iff ofEarlier ofName fits
  by_cases repeated : name ∈ taken
  · -- The numbers up to the count are taken, and the next one is free.
    obtain ⟨steps, counted⟩ := Nat.exists_eq_add_of_le (first.1 repeated)
    have held : ∀ step < steps, numberedName name (triedNumber step) ∈ taken :=
      fun step before => (later (by omega)).2 (by omega)
    have free : numberedName name (triedNumber steps) ∉ taken :=
      fun member => by have := (later (by omega)).1 member; omega
    have enough := steps_lt_length repeated (by omega) held
    rw [if_pos repeated, freshName_eq (Nat.le_of_lt enough) held free,
      triedNumber_of_lt (by omega), counted, occurrenceName, if_neg (by omega),
      Nat.add_right_comm]
  · have unseen : earlier.count name = 0 := by
      have := mt first.2 repeated
      omega
    rw [if_neg repeated, unseen, occurrenceName_one]

theorem freshName_wraps (given : GivenTo earlier taken)
    (ofEarlier : ∀ old ∈ earlier, IsClauseName old) {name : String}
    (ofName : IsClauseName name) (full : earlier.count name = 2147483647) :
    name ∈ taken ∧ freshName taken name = numberedName name (-2147483648) := by
  have repeated : name ∈ taken := (given.mem_iff_occurred ofEarlier ofName).2 (by omega)
  have held : ∀ step < 2147483646, numberedName name (triedNumber step) ∈ taken :=
    fun step before => (given.numberedName_mem_iff ofEarlier ofName before).2 (by omega)
  have free : numberedName name (triedNumber 2147483646) ∉ taken := by
    rw [triedNumber_wraps, given]
    rintro ⟨old, occurrence, occurs, bound, same⟩
    have ofOld : IsClauseName old := ofEarlier old (List.count_pos_iff.1 (by omega))
    unfold occurrenceName at same
    split at same
    · exact ofOld.ne_numberedName ofName _ same.symm
    · have numbers := (numberedName_inj same).2
      omega
  have enough := steps_lt_length repeated (Nat.le_refl _) held
  exact ⟨repeated, (freshName_eq (Nat.le_of_lt enough) held free).trans
    (by rw [triedNumber_wraps])⟩

theorem snoc (given : GivenTo earlier taken) (name : String) :
    GivenTo (earlier ++ [name])
      (occurrenceName name (earlier.count name + 1) :: taken) := by
  intro other
  rw [List.mem_cons, given]
  constructor
  · rintro (rfl | ⟨old, occurrence, occurs, bound, rfl⟩)
    · exact ⟨name, _, Nat.succ_pos _, by simp, rfl⟩
    · refine ⟨old, occurrence, occurs, ?_, rfl⟩
      rw [List.count_append]
      omega
  · rintro ⟨old, occurrence, occurs, bound, rfl⟩
    by_cases same : name = old
    · subst same
      rw [List.count_append, List.count_singleton_self] at bound
      rcases Nat.lt_or_eq_of_le bound with before | last
      · exact .inr ⟨name, occurrence, occurs, Nat.le_of_lt_succ before, rfl⟩
      · exact .inl (by rw [last])
    · rw [List.count_append, List.count_singleton, if_neg (by simpa using same)] at bound
      exact .inr ⟨old, occurrence, occurs, bound, rfl⟩

theorem step (given : GivenTo earlier taken)
    (ofEarlier : ∀ old ∈ earlier, IsClauseName old) {check : Check} {rest : List Check}
    (ofChecks : ∀ name ∈ Check.names (check :: rest), IsClauseName name)
    (fits : ∀ name, (earlier ++ Check.names (check :: rest)).count name < 2147483648) :
    (if check.name ∈ taken then freshName taken check.name else check.name) =
        occurrenceName check.name (earlier.count check.name + 1) ∧
      GivenTo (earlier ++ [check.name])
        (occurrenceName check.name (earlier.count check.name + 1) :: taken) ∧
      ∀ old ∈ earlier ++ [check.name], IsClauseName old := by
  have ofName : IsClauseName check.name := ofChecks _ List.mem_cons_self
  have bound : earlier.count check.name < 2147483647 := by
    have := fits check.name
    rw [Check.names_cons, List.count_append, List.count_cons_self] at this
    omega
  refine ⟨given.chosen_eq ofEarlier ofName bound, given.snoc check.name, ?_⟩
  intro old member
  rcases List.mem_append.1 member with before | here
  · exact ofEarlier old before
  · rw [List.mem_singleton.1 here]
    exact ofName

end GivenTo

namespace Check

/-- The check at a position of a list, named by the occurrence of its name. -/
def numberedAt (names : List String) (position : Nat) (check : Check) : Check :=
  { check with
    name := occurrenceName check.name ((names.take (position + 1)).count check.name) }

section Run

variable {earlier taken : List String} {checks : List Check}
  (given : GivenTo earlier taken)
  (ofEarlier : ∀ old ∈ earlier, IsClauseName old)
  (ofChecks : ∀ name ∈ names checks, IsClauseName name)
  (fits : ∀ name, (earlier ++ names checks).count name < 2147483648)

include given ofEarlier ofChecks fits

theorem nameApart_eq_mapIdx :
    nameApart taken checks =
      checks.mapIdx fun position check =>
        numberedAt (earlier ++ names checks) (earlier.length + position) check := by
  -- The names before the list grow by the head, whether or not it is renamed.
  induction checks generalizing earlier taken with
  | nil => rfl
  | cons check rest induction =>
      have split := append_names_cons earlier check rest
      have here : ((earlier ++ names (check :: rest)).take (earlier.length + 0 + 1)).count
          check.name = earlier.count check.name + 1 := by
        rw [split, Nat.add_zero, List.take_left' (by simp), List.count_append,
          List.count_singleton_self]
      obtain ⟨chosen, givenNext, ofNext⟩ := given.step ofEarlier ofChecks fits
      rw [split] at fits
      have tail := induction givenNext ofNext
        (fun name member => ofChecks name (List.mem_cons_of_mem _ member)) fits
      rw [nameApart, chosen, tail, List.mapIdx_cons, numberedAt, here]
      refine congrArg _ (List.mapIdx_eq_mapIdx_iff.2 ?_)
      intro position inside
      rw [split, List.length_append, List.length_singleton, Nat.add_assoc, Nat.add_comm 1]

theorem givenTo_nameApart :
    GivenTo (earlier ++ names checks)
      ((names (nameApart taken checks)).reverse ++ taken) := by
  induction checks generalizing earlier taken with
  | nil => simpa [names, nameApart] using given
  | cons check rest induction =>
      have split := append_names_cons earlier check rest
      obtain ⟨chosen, givenNext, ofNext⟩ := given.step ofEarlier ofChecks fits
      rw [split] at fits
      have tail := induction givenNext ofNext
        (fun name member => ofChecks name (List.mem_cons_of_mem _ member)) fits
      rw [split, nameApart, chosen]
      simpa only [names_cons, List.reverse_cons, List.append_assoc, List.singleton_append]
        using tail

end Run

theorem getElem?_numberedAt_replicate (check : Check) (count : Nat) :
    ((List.replicate (count + 1) check).mapIdx
        (numberedAt (names (List.replicate (count + 1) check))))[count]? =
      some { check with name := occurrenceName check.name (count + 1) } := by
  have onlyName : names (List.replicate (count + 1) check) =
      List.replicate (count + 1) check.name :=
    List.map_replicate
  rw [List.getElem?_mapIdx, List.getElem?_replicate, if_pos (Nat.lt_succ_self count),
    onlyName, Option.map_some, numberedAt, List.take_replicate, Nat.min_self,
    List.count_replicate_self]

/-- Of so many checks with one name, the last gets a negative number. -/
theorem withUniqueNames_replicate_wraps {check : Check} (ofName : IsClauseName check.name)
    {count : Nat} (full : count = 2147483647) :
    (withUniqueNames (List.replicate (count + 1) check))[count]? =
      some { check with name := numberedName check.name (-2147483648) } := by
  have onlyName : names (List.replicate count check) = List.replicate count check.name :=
    List.map_replicate
  have ofFront : ∀ name ∈ names (List.replicate count check), IsClauseName name := by
    intro name member
    rw [onlyName] at member
    rw [List.eq_of_mem_replicate member]
    exact ofName
  have fits : ∀ name,
      ([] ++ names (List.replicate count check)).count name < 2147483648 := by
    intro name
    have bound :=
      List.count_le_length (a := name) (l := names (List.replicate count check))
    rw [names, List.length_map, List.length_replicate] at bound
    rw [List.nil_append]
    exact Nat.lt_of_le_of_lt bound (by omega)
  have given := givenTo_nameApart .nil (by simp) ofFront fits
  obtain ⟨seen, wraps⟩ := given.freshName_wraps (by simpa using ofFront) ofName
    (by rw [List.nil_append, onlyName, List.count_replicate_self, full])
  have front : (nameApart [] (List.replicate count check)).length = count := by
    rw [length_nameApart, List.length_replicate]
  rw [withUniqueNames, List.replicate_succ', nameApart_append,
    List.getElem?_append_right (Nat.le_of_eq front), front, Nat.sub_self, nameApart,
    if_pos seen, wraps]
  rfl

end Check

namespace Behavior

theorem isClauseName_of_mem_invariantChecks {behavior : Behavior} {context : Context}
    {name : String} (member : name ∈ Check.names (behavior.invariantChecks context)) :
    IsClauseName name := by
  obtain ⟨label, number, -, same⟩ := mem_names_invariantChecks.1 member
  exact ⟨label, number, same⟩

theorem checkAllInvariants_numbers_occurrences (behavior : Behavior) (context : Context)
    (fits : ∀ name,
      (Check.names (behavior.invariantChecks context)).count name < 2147483648) :
    behavior.checkAllInvariants context =
        (behavior.invariantChecks context).mapIdx
          (Check.numberedAt (Check.names (behavior.invariantChecks context))) ∧
      (Check.names (behavior.checkAllInvariants context)).Nodup := by
  have unfolded : behavior.checkAllInvariants context =
    Check.nameApart [] (behavior.invariantChecks context) := rfl
  have ofChecks : ∀ name ∈ Check.names (behavior.invariantChecks context),
      IsClauseName name :=
    fun name member => isClauseName_of_mem_invariantChecks member
  have numbered := Check.nameApart_eq_mapIdx GivenTo.nil (by simp) ofChecks
    (by rwa [List.nil_append])
  simp only [List.nil_append, List.length_nil, Nat.zero_add] at numbered
  exact ⟨unfolded.trans numbered, behavior.nodup_names_checkAllInvariants context⟩

def posting : Behavior :=
  { name := "Post" }

def ledgerOf (blocks : Nat) : Context where
  domain := {
    name := "Ledger"
    invariants := List.replicate blocks
      { name := "balanced", predicates := [.literal (.bool true)] } }
  instances := ∅
  input := .null
  now := ⟨0, 0⟩

theorem checkAllInvariants_numbers_occurrences_twice :
    (∀ name,
      (Check.names (posting.invariantChecks (ledgerOf 2))).count name < 2147483648) ∧
      Check.names (posting.checkAllInvariants (ledgerOf 2)) =
        ["balanced_1", "balanced_1#2"] := by
  have fits : ∀ name,
      (Check.names (posting.invariantChecks (ledgerOf 2))).count name < 2147483648 := by
    intro name
    exact Nat.lt_of_le_of_lt List.count_le_length (by decide)
  rw [(posting.checkAllInvariants_numbers_occurrences (ledgerOf 2) fits).1]
  exact ⟨fits, by decide⟩

theorem invariantChecks_ledgerOf (blocks : Nat) :
    posting.invariantChecks (ledgerOf blocks) =
      List.replicate blocks (Check.ofClause .invariant (clauseName "balanced" 1)
        (ledgerOf blocks) (.literal (.bool true))) := by
  have ofBehavior : posting.checkInvariants (ledgerOf blocks) = [] := rfl
  have ofEntities : (ledgerOf blocks).domain.checkEntities (ledgerOf blocks) = [] := rfl
  have ofDomain : (ledgerOf blocks).domain.checkInvariants (ledgerOf blocks) =
      List.replicate blocks (Check.ofClause .invariant (clauseName "balanced" 1)
        (ledgerOf blocks) (.literal (.bool true))) :=
    List.flatMap_replicate.trans List.flatten_replicate_singleton
  rw [invariantChecks, ofBehavior, ofEntities, ofDomain, List.nil_append, List.append_nil]

theorem checkAllInvariants_crowded :
    ∃ last, (posting.checkAllInvariants (ledgerOf 2147483648))[2147483647]? = some last ∧
      last.name = "balanced_1#-2147483648" ∧
      posting.checkAllInvariants (ledgerOf 2147483648) ≠
        (posting.invariantChecks (ledgerOf 2147483648)).mapIdx
          (Check.numberedAt (Check.names
            (posting.invariantChecks (ledgerOf 2147483648)))) := by
  have isName : IsClauseName (Check.ofClause .invariant (clauseName "balanced" 1)
      (ledgerOf 2147483648) (.literal (.bool true))).name :=
    ⟨"balanced", 1, Check.name_ofClause ..⟩
  have last := Check.withUniqueNames_replicate_wraps isName rfl
  have unfolded : posting.checkAllInvariants (ledgerOf 2147483648) =
      Check.withUniqueNames (posting.invariantChecks (ledgerOf 2147483648)) := rfl
  rw [unfolded, invariantChecks_ledgerOf]
  refine ⟨_, last, by rw [Check.name_ofClause]; decide, ?_⟩
  intro same
  have here := last.symm.trans ((congrArg (·[2147483647]?) same).trans
    (Check.getElem?_numberedAt_replicate _ 2147483647))
  have names : numberedName _ (-2147483648) = occurrenceName _ (2147483647 + 1) :=
    congrArg Check.name (Option.some.inj here)
  rw [occurrenceName, if_neg (by omega)] at names
  have numbers := (numberedName_inj names).2
  omega

end Behavior

end BehaviorContract
