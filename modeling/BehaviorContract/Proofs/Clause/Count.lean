import BehaviorContract.Proofs.Clause.Contract

namespace BehaviorContract

section Sum

variable {α : Type}

theorem length_flatMap_eq_sumOver {β : Type} (items : List α) (parts : α → List β) :
    (items.flatMap parts).length = sumOver (fun item => (parts item).length) items := by
  induction items with
  | nil => rfl
  | cons item rest induction =>
      rw [List.flatMap_cons, List.length_append, induction]
      rfl

theorem getElem?_flatMap_eq_some_iff {β : Type} {items : List α} {parts : α → List β}
    {position : Nat} {part : β} :
    (items.flatMap parts)[position]? = some part ↔
      ∃ earlier item later index,
        items = earlier ++ item :: later ∧ (parts item)[index]? = some part ∧
        position = sumOver (fun item => (parts item).length) earlier + index := by
  constructor
  · intro found
    induction items generalizing position with
    | nil => simp at found
    | cons item rest induction =>
        rw [List.flatMap_cons, List.getElem?_append] at found
        split at found
        · exact ⟨[], item, rest, position, rfl, found, (Nat.zero_add position).symm⟩
        · rename_i outside
          obtain ⟨earlier, other, later, index, rfl, inside, place⟩ := induction found
          refine ⟨item :: earlier, other, later, index, rfl, inside, ?_⟩
          have step : sumOver (fun item => (parts item).length) (item :: earlier) =
              (parts item).length + sumOver (fun item => (parts item).length) earlier :=
                rfl
          omega
  · rintro ⟨earlier, item, later, index, rfl, inside, rfl⟩
    have bound := (List.getElem?_eq_some_iff.1 inside).1
    rw [← length_flatMap_eq_sumOver, List.flatMap_append,
      List.getElem?_append_right (Nat.le_add_right ..), Nat.add_sub_cancel_left,
      List.flatMap_cons, List.getElem?_append_left bound]
    exact inside

theorem sumOver_const (count : Nat) (items : List α) :
    sumOver (fun _ => count) items = count * items.length := by
  induction items with
  | nil => rfl
  | cons item rest induction =>
      have step : sumOver (fun _ => count) (item :: rest) =
        count + sumOver (fun _ => count) rest := rfl
      rw [step, induction, List.length_cons, Nat.mul_succ, Nat.add_comm]

theorem sumOver_filter_le (count : α → Nat) (keep : α → Bool) (items : List α) :
    sumOver count (items.filter keep) ≤ sumOver count items := by
  induction items with
  | nil => exact Nat.le_refl _
  | cons item rest induction =>
      cases kept : keep item with
      | true =>
          rw [List.filter_cons_of_pos kept]
          exact Nat.add_le_add_left induction (count item)
      | false =>
          rw [List.filter_cons_of_neg (by simp [kept])]
          exact Nat.le_trans induction (Nat.le_add_left _ (count item))

end Sum

namespace Check

theorem length_ofClauses (kind : ClauseKind) (label : String) (context : Context)
    (clauses : List Expr) :
    (ofClauses kind label context clauses).length = clauses.length :=
  List.length_mapIdx

theorem length_nameApart (taken : List String) (checks : List Check) :
    (nameApart taken checks).length = checks.length := by
  induction checks generalizing taken with
  | nil => rfl
  | cons check rest induction =>
      rw [nameApart, List.length_cons, List.length_cons, induction]

end Check

namespace Behavior

theorem length_checkPreconditions (behavior : Behavior) (context : Context) :
    (behavior.checkPreconditions context).length = behavior.preconditions.length :=
  Check.length_ofClauses ..

theorem length_checkPostconditions (behavior : Behavior) (context : Context)
    (outcome : Outcome) :
    (behavior.checkPostconditions context outcome).length =
      behavior.activePredicateCount outcome := by
  rw [checkPostconditions_eq]
  unfold numberedChecks activePredicateCount activePredicates
  rw [List.length_mapIdx, length_flatMap_eq_sumOver]
  simp only [List.length_map]

theorem activePredicateCount_le (behavior : Behavior) (outcome : Outcome) :
    behavior.activePredicateCount outcome ≤ behavior.postconditionCount :=
  sumOver_filter_le ..

end Behavior

namespace Domain

theorem length_checkInvariants (domain : Domain) (context : Context) :
    (domain.checkInvariants context).length =
      sumOver (·.predicates.length) domain.invariants := by
  unfold checkInvariants
  rw [length_flatMap_eq_sumOver]
  simp only [Check.length_ofClauses]

theorem length_checkEntities (domain : Domain) (context : Context) :
    (domain.checkEntities context).length =
      sumOver (fun entity => entity.invariants.length *
        (context.instances.all entity.name).length) domain.entities := by
  rw [checkEntities_eq, length_flatMap_eq_sumOver]
  simp only [length_flatMap_eq_sumOver, Check.length_ofClauses, sumOver_const]

end Domain

theorem Behavior.length_checkAllInvariants (behavior : Behavior) (context : Context) :
    (behavior.checkAllInvariants context).length = behavior.invariantCount context := by
  have ofBehavior : (behavior.checkInvariants context).length =
      behavior.invariants.length :=
    Check.length_ofClauses ..
  rw [checkAllInvariants, Check.withUniqueNames, Check.length_nameApart,
    List.length_append, List.length_append, ofBehavior, Domain.length_checkInvariants,
    Domain.length_checkEntities, invariantCount]

end BehaviorContract
