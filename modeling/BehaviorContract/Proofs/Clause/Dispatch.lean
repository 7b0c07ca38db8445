import BehaviorContract.Execution
import BehaviorContract.Proofs.Clause.Contract

namespace BehaviorContract

namespace Behavior

def predicatesUnder (behavior : Behavior) (condition : Condition) : List Expr :=
  (behavior.postconditions.filter (·.condition = condition)).flatMap (·.predicates)

def activeUnder (behavior : Behavior) (outcome : Outcome)
    (condition : Condition) : List Expr :=
  ((behavior.activePredicates outcome).filter (·.1 = condition)).map (·.2)

private theorem filter_block (block : PostconditionBlock) (condition : Condition) :
    ((block.predicates.map (block.condition, ·)).filter (·.1 = condition)).map (·.2) =
      if block.condition = condition then block.predicates else [] := by
  by_cases same : block.condition = condition
  · simp [same, List.filter_map, Function.comp_def]
  · simp [same, List.filter_map, Function.comp_def]

theorem activeUnder_eq (behavior : Behavior) (outcome : Outcome) (condition : Condition) :
    behavior.activeUnder outcome condition =
      if condition.isActive outcome then behavior.predicatesUnder condition else [] := by
  unfold activeUnder activePredicates predicatesUnder
  induction behavior.postconditions with
  | nil => simp
  | cons block rest induction =>
      by_cases same : block.condition = condition
      · subst same
        by_cases active : block.condition.isActive outcome = true
        · rw [if_pos active] at induction ⊢
          simp [active, filter_block, induction]
        · rw [if_neg active] at induction ⊢
          simp [active, induction]
      · by_cases active : block.condition.isActive outcome = true
        · simp [active, same, filter_block, induction]
        · simp [active, same, induction]

theorem unnamed_checkPostconditions (behavior : Behavior) (context : Context)
    (outcome : Outcome) :
    (behavior.checkPostconditions context outcome).map Check.unnamed =
      (behavior.activePredicates outcome).map fun predicate =>
        Check.ofClause .postcondition "" context predicate.2 := by
  rw [checkPostconditions_eq]
  exact Check.unnamed_mapIdx .postcondition context _ Prod.snd _

end Behavior

namespace Execution

def Succeeded (execution : Execution) : Prop :=
  execution.error = none ∧ execution.success = true

/-- The text of the outcome does not tell an error of this code from a success. -/
theorem isActive_success_iff (execution : Execution) :
    Condition.success.isActive execution.outcome = true ↔
      execution.Succeeded ∨ execution.error.map (·.code) = some "success" := by
  unfold outcome Succeeded
  cases execution.error with
  | none =>
      cases execution.success with
      | false => decide
      | true => decide
  | some error =>
      by_cases empty : error.code = ""
      · simp [Condition.isActive, Condition.appliesTo, Outcome.text, empty, unknownCode]
      · simp [Condition.isActive, Condition.appliesTo, Outcome.text, empty]

theorem isActive_anyError (execution : Execution) :
    Condition.anyError.isActive execution.outcome =
      !Condition.success.isActive execution.outcome :=
  rfl

end Execution

namespace Behavior

/-- Says that the blocks for success are evaluated after an execution that
succeeded, and the blocks for any error after every other one. -/
structure FollowsExecution (behavior : Behavior) (execution : Execution) : Prop where
  succeeded : execution.Succeeded →
    behavior.activeUnder execution.outcome .success = behavior.predicatesUnder .success ∧
      behavior.activeUnder execution.outcome .anyError = []
  failed : ¬ execution.Succeeded →
    behavior.activeUnder execution.outcome .success = [] ∧
      behavior.activeUnder execution.outcome .anyError =
        behavior.predicatesUnder .anyError

theorem activeUnder_of_active (behavior : Behavior) {execution : Execution}
    (active : Condition.success.isActive execution.outcome = true) :
    behavior.activeUnder execution.outcome .success = behavior.predicatesUnder .success ∧
      behavior.activeUnder execution.outcome .anyError = [] := by
  rw [activeUnder_eq, activeUnder_eq, execution.isActive_anyError, active]
  exact ⟨rfl, rfl⟩

theorem activeUnder_of_not_active (behavior : Behavior) {execution : Execution}
    (inactive : ¬ Condition.success.isActive execution.outcome = true) :
    behavior.activeUnder execution.outcome .success = [] ∧
      behavior.activeUnder execution.outcome .anyError =
        behavior.predicatesUnder .anyError := by
  rw [activeUnder_eq, activeUnder_eq, execution.isActive_anyError,
    eq_false_of_ne_true inactive]
  exact ⟨rfl, rfl⟩

theorem followsExecution_iff (behavior : Behavior) (execution : Execution) :
    behavior.FollowsExecution execution ↔
      (execution.error.map (·.code) = some "success" →
        behavior.predicatesUnder .success = [] ∧
          behavior.predicatesUnder .anyError = []) := by
  constructor
  · intro follows coded
    have errs : ¬ execution.Succeeded := by
      rintro ⟨clean, -⟩
      rw [clean] at coded
      cases coded
    have evaluated :=
      behavior.activeUnder_of_active (execution.isActive_success_iff.2 (.inr coded))
    have expected := follows.failed errs
    exact ⟨evaluated.1.symm.trans expected.1, expected.2.symm.trans evaluated.2⟩
  · intro empty
    constructor
    · intro succeeded
      exact behavior.activeUnder_of_active
        (execution.isActive_success_iff.2 (.inl succeeded))
    · intro errs
      by_cases coded : execution.error.map (·.code) = some "success"
      · have evaluated :=
          behavior.activeUnder_of_active (execution.isActive_success_iff.2 (.inr coded))
        obtain ⟨noSuccess, noError⟩ := empty coded
        exact ⟨evaluated.1.trans noSuccess, evaluated.2.trans noError.symm⟩
      · refine behavior.activeUnder_of_not_active ?_
        rw [execution.isActive_success_iff]
        rintro (succeeded | same)
        · exact errs succeeded
        · exact coded same

/-- One check is made for each predicate that is called for. The dispatch
follows the execution unless its error has the code `success`: then the blocks
for success are evaluated and those for any error are not. -/
theorem checkPostconditions_dispatch (behavior : Behavior) (context : Context)
    (execution : Execution) :
    (behavior.checkPostconditions context execution.outcome).map Check.unnamed =
        ((behavior.activePredicates execution.outcome).map fun predicate =>
          Check.ofClause .postcondition "" context predicate.2) ∧
      (behavior.FollowsExecution execution ↔
        (execution.error.map (·.code) = some "success" →
          behavior.predicatesUnder .success = [] ∧
            behavior.predicatesUnder .anyError = [])) ∧
      (execution.error.map (·.code) = some "success" →
        behavior.activeUnder execution.outcome .success =
          behavior.predicatesUnder .success ∧
          behavior.activeUnder execution.outcome .anyError = []) := by
  refine ⟨behavior.unnamed_checkPostconditions context execution.outcome,
    behavior.followsExecution_iff execution, ?_⟩
  intro coded
  exact behavior.activeUnder_of_active (execution.isActive_success_iff.2 (.inr coded))

def settle : Behavior where
  name := "Settle"
  postconditions := [⟨.success, [.literal (.bool true)]⟩,
    ⟨.anyError, [.literal (.bool true), .literal (.bool true)]⟩]

def refused : Execution :=
  .failed { code := "success", message := "refused" }

/-- An execution that carries an error, after which a predicate for success is
evaluated and those for errors are not. -/
theorem checkPostconditions_success_after_error :
    ¬ refused.Succeeded ∧ ¬ settle.FollowsExecution refused ∧
      (settle.checkPostconditions
        { domain := { name := "Settlements" }, instances := ∅, input := .null,
          now := ⟨0, 0⟩ }
        refused.outcome).map (·.name) = ["postcondition_success_1"] := by
  refine ⟨nofun, ?_, by decide⟩
  intro follows
  have nothing := (settle.followsExecution_iff refused).1 follows rfl
  exact absurd nothing.1 (List.cons_ne_nil _ _)

end Behavior

end BehaviorContract
