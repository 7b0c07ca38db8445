import BehaviorContract.Proofs.Clause.Count
import BehaviorContract.Proofs.Clause.Labels

namespace BehaviorContract

namespace PostconditionBlock

def clauses (block : PostconditionBlock) : List (Condition × Expr) :=
  block.predicates.map (block.condition, ·)

def clausesOf (keep : Condition → Bool) (blocks : List PostconditionBlock) :
    List (Condition × Expr) :=
  blocks.flatMap fun block => if keep block.condition then block.clauses else []

def countOf (keep : Condition → Bool) (blocks : List PostconditionBlock) : Nat :=
  sumOver (·.predicates.length) (blocks.filter (keep ·.condition))

theorem clausesOf_cons (keep : Condition → Bool) (block : PostconditionBlock)
    (rest : List PostconditionBlock) :
    clausesOf keep (block :: rest) =
      (if keep block.condition then block.clauses else []) ++ clausesOf keep rest :=
  List.flatMap_cons

theorem countOf_cons (keep : Condition → Bool) (block : PostconditionBlock)
    (rest : List PostconditionBlock) :
    countOf keep (block :: rest) =
      (if keep block.condition then block.predicates.length else 0) +
      countOf keep rest := by
  unfold countOf
  by_cases kept : keep block.condition = true
  · rw [List.filter_cons, if_pos kept, if_pos kept]
    rfl
  · rw [List.filter_cons, if_neg kept, if_neg kept, Nat.zero_add]

theorem countP_clauses (test : Condition → Bool) (block : PostconditionBlock) :
    block.clauses.countP (test ·.1) =
      if test block.condition then block.predicates.length else 0 := by
  unfold clauses
  by_cases passes : test block.condition = true
  · simp [List.countP_map, Function.comp_def, passes]
  · simp [List.countP_map, Function.comp_def, passes]

theorem countP_clausesOf (keep test : Condition → Bool)
    (blocks : List PostconditionBlock) :
    (clausesOf keep blocks).countP (test ·.1) =
      countOf (fun condition => keep condition && test condition) blocks := by
  induction blocks with
  | nil => rfl
  | cons block rest induction =>
      rw [clausesOf_cons, List.countP_append, induction, countOf_cons]
      by_cases kept : keep block.condition = true
      · rw [if_pos kept, countP_clauses, kept, Bool.true_and]
      · rw [if_neg kept, eq_false_of_ne_true kept, Bool.false_and]
        rfl

theorem length_clausesOf (keep : Condition → Bool) (blocks : List PostconditionBlock) :
    (clausesOf keep blocks).length = countOf keep blocks := by
  have all := countP_clausesOf keep (fun _ => true) blocks
  simpa only [List.countP_true, Bool.and_true] using all

theorem getElem?_clausesOf_eq_some_iff {keep : Condition → Bool}
    {blocks : List PostconditionBlock} {position : Nat} {condition : Condition}
    {clause : Expr} :
    (clausesOf keep blocks)[position]? = some (condition, clause) ↔
      ∃ earlier block later index,
        blocks = earlier ++ block :: later ∧ keep block.condition = true ∧
        block.predicates[index]? = some clause ∧ block.condition = condition ∧
        position = countOf keep earlier + index := by
  have places (earlier : List PostconditionBlock) :
      sumOver (fun block => (if keep block.condition then block.clauses else []).length)
        earlier = countOf keep earlier := by
    rw [← length_flatMap_eq_sumOver]
    exact length_clausesOf keep earlier
  rw [clausesOf, getElem?_flatMap_eq_some_iff]
  simp only [places]
  constructor
  · rintro ⟨earlier, block, later, index, rfl, found, place⟩
    split at found
    · rename_i kept
      rw [clauses, List.getElem?_map, Option.map_eq_some_iff] at found
      obtain ⟨predicate, inside, same⟩ := found
      obtain ⟨rfl, rfl⟩ := Prod.mk.inj same
      exact ⟨earlier, block, later, index, rfl, kept, inside, rfl, place⟩
    · simp at found
  · rintro ⟨earlier, block, later, index, rfl, kept, inside, rfl, place⟩
    refine ⟨earlier, block, later, index, rfl, ?_, place⟩
    rw [if_pos kept, clauses, List.getElem?_map, inside]
    rfl

theorem take_clausesOf (keep : Condition → Bool) (earlier : List PostconditionBlock)
    {block : PostconditionBlock} (kept : keep block.condition = true)
    (later : List PostconditionBlock) {index : Nat}
    (inside : index < block.predicates.length) :
    (clausesOf keep (earlier ++ block :: later)).take (countOf keep earlier + index) =
      clausesOf keep earlier ++ block.clauses.take index := by
  have bound : index ≤ block.clauses.length := by
    rw [clauses, List.length_map]
    exact Nat.le_of_lt inside
  rw [← length_clausesOf]
  unfold clausesOf
  rw [List.flatMap_append, List.take_length_add_append, List.flatMap_cons, if_pos kept,
    List.take_append_of_le_length bound]

theorem postconditionNumber_clausesOf (keep : Condition → Bool)
    (earlier : List PostconditionBlock) {block : PostconditionBlock}
    (kept : keep block.condition = true) (later : List PostconditionBlock) {index : Nat}
    (inside : index < block.predicates.length) :
    Behavior.postconditionNumber (clausesOf keep (earlier ++ block :: later))
      block.condition.text
        (countOf keep earlier + index) =
      countOf (fun condition => keep condition && condition.text == block.condition.text)
        earlier + index + 1 := by
  have own : (block.clauses.take index).countP
      (·.1.text == block.condition.text) = index := by
    rw [clauses, ← List.map_take]
    refine (countP_clauses (·.text == block.condition.text) ⟨block.condition,
      block.predicates.take index⟩).trans ?_
    rw [beq_self_eq_true, if_pos rfl, List.length_take_of_le (Nat.le_of_lt inside)]
  unfold Behavior.postconditionNumber
  rw [take_clausesOf keep earlier kept later inside, List.countP_append, own]
  exact congrArg (· + index + 1)
    (countP_clausesOf keep (·.text == block.condition.text) earlier)

end PostconditionBlock

namespace Behavior

open PostconditionBlock

theorem activePredicates_eq (behavior : Behavior) (outcome : Outcome) :
    behavior.activePredicates outcome =
      clausesOf (·.isActive outcome) behavior.postconditions := by
  unfold activePredicates
  induction behavior.postconditions with
  | nil => rfl
  | cons block rest induction =>
      rw [clausesOf_cons, List.filter_cons]
      by_cases active : block.condition.isActive outcome = true
      · rw [if_pos active, if_pos active, List.flatMap_cons, induction]
        rfl
      · rw [if_neg active, if_neg active, List.nil_append, induction]

theorem checkPostconditions_attribution (behavior : Behavior) (context : Context)
    (outcome : Outcome) :
    (∀ position check,
      (behavior.checkPostconditions context outcome)[position]? = some check ↔
      ∃ earlier block later index clause,
        behavior.postconditions = earlier ++ block :: later ∧
        block.condition.isActive outcome = true ∧ block.predicates[index]? = some clause ∧
        position = countOf (·.isActive outcome) earlier + index ∧
        check = Check.ofClause .postcondition
          (clauseName (postconditionLabel block.condition)
            (countOf (fun other => other.isActive outcome &&
              other.text == block.condition.text) earlier + index + 1))
          context clause) ∧
      (Check.names (behavior.checkPostconditions context outcome)).Nodup ∧
      (behavior.checkPostconditions context outcome).length =
        behavior.activePredicateCount outcome := by
  refine ⟨?_, behavior.nodup_names_checkPostconditions context outcome,
    behavior.length_checkPostconditions ..⟩
  intro position check
  have looked : (behavior.checkPostconditions context outcome)[position]? = some check ↔
      ∃ condition clause,
        (behavior.activePredicates outcome)[position]? = some (condition, clause) ∧
        Check.ofClause .postcondition
          (clauseName (postconditionLabel condition)
            (postconditionNumber (behavior.activePredicates outcome)
              condition.text position))
          context clause = check := by
    rw [checkPostconditions_eq, numberedChecks, List.getElem?_mapIdx,
      Option.map_eq_some_iff, Prod.exists]
    rfl
  rw [looked, activePredicates_eq]
  constructor
  · rintro ⟨condition, clause, found, rfl⟩
    obtain ⟨earlier, block, later, index, split, active, inside, rfl, rfl⟩ :=
      getElem?_clausesOf_eq_some_iff.1 found
    refine ⟨earlier, block, later, index, clause, split, active, inside, rfl, ?_⟩
    rw [split, postconditionNumber_clausesOf _ earlier active later
      (List.getElem?_eq_some_iff.1 inside).1]
  · rintro ⟨earlier, block, later, index, clause, split, active, inside, rfl, rfl⟩
    refine ⟨block.condition, clause,
      getElem?_clausesOf_eq_some_iff.2 ⟨earlier, block, later, index, split, active,
        inside, rfl, rfl⟩, ?_⟩
    rw [split, postconditionNumber_clausesOf _ earlier active later
      (List.getElem?_eq_some_iff.1 inside).1]

end Behavior

end BehaviorContract
