import BehaviorContract.Proofs.Clause.Count
import BehaviorContract.Proofs.Trial.Verdict

namespace BehaviorContract

/-- Says that a tally agrees with the checks of one kind of clauses. If the kind
is enabled the clauses that are due are checked, and else none; how many are
declared is the same in either case. -/
structure Tally.Agrees (tally : Tally) (enabled : Bool) (declared due : Nat)
    (checks : List Check) : Prop where
  declared : tally.declared = declared
  checked_of_enabled : enabled = true → tally.checked = due
  checked_of_disabled : enabled = false → tally.checked = 0
  checked : tally.checked = checks.length
  passed : tally.passed = checks.countP (·.passed)
  passed_le : tally.passed ≤ tally.checked
  checked_le : tally.checked ≤ tally.declared

theorem Tally.agrees_ofChecks (enabled : Bool) {declared due : Nat} {checks : List Check}
    (complete : checks.length = due) (within : due ≤ declared) :
    (ofChecks declared (if enabled then checks else [])).Agrees enabled declared due
      (if enabled then checks else []) := by
  constructor
  case declared => rfl
  case checked => rfl
  case passed => rfl
  case passed_le => exact List.countP_le_length
  all_goals
    cases enabled with
    | false => simp [ofChecks]
    | true => simp [ofChecks, complete, within]

namespace Engine

theorem runTrial_coverage_agrees (engine : Engine) (readings : Readings)
    (implementation : Implementation) {name : String} {behavior : Behavior}
    (known : engine.domain.behavior? name = some behavior) (input : Input)
    (store : Store) :
    ∃ result,
      engine.runTrial readings implementation name input store false = .ok result ∧
      let context := engine.contextAfter readings.now input.values store
        (implementation.execute behavior input.values store).store result.execution
      result.coverage.preconditions.Agrees engine.settings.checkPreconditions
          behavior.preconditions.length behavior.preconditions.length
            result.preconditions ∧
        result.coverage.postconditions.Agrees engine.settings.checkPostconditions
          behavior.postconditionCount (behavior.activePredicateCount result.outcome)
            result.postconditions ∧
        result.coverage.invariants.Agrees engine.settings.checkInvariants
          (behavior.invariantCount context) (behavior.invariantCount context)
            result.invariants := by
  refine ⟨_, engine.runTrial_of_behavior readings implementation known input store, ?_,
    ?_, ?_⟩
  · exact Tally.agrees_ofChecks _ (behavior.length_checkPreconditions _) (Nat.le_refl _)
  · exact Tally.agrees_ofChecks _ (behavior.length_checkPostconditions ..)
      (behavior.activePredicateCount_le _)
  · exact Tally.agrees_ofChecks _ (behavior.length_checkAllInvariants _) (Nat.le_refl _)

def countingLoosely : Engine :=
  { counting with settings := { checkPostconditions := false } }

/-- The store already holds a counter, so the invariant is checked for two
instances; the postcondition is declared only. -/
theorem runTrial_coverage_agrees_fiveMore :
    countingLoosely.domain.behavior? "Increment" = some increment ∧
      ∃ result,
        countingLoosely.runTrial { now := ⟨0, 0⟩ } incrementing "Increment" fiveMore
          (Store.empty.create "Counter" (Table.ofList [("value", .integer 1)])).2
            false = .ok result ∧
        result.coverage.preconditions.checked = 1 ∧
        result.coverage.postconditions.declared = 1 ∧
          result.coverage.postconditions.checked = 0 ∧
        result.coverage.invariants.checked = 2 ∧ result.invariants.length = 2 := by
  have known : countingLoosely.domain.behavior? "Increment" = some increment := rfl
  obtain ⟨result, ran, ofPreconditions, ofPostconditions, ofInvariants⟩ :=
    runTrial_coverage_agrees countingLoosely { now := ⟨0, 0⟩ } incrementing known fiveMore
      (Store.empty.create "Counter" (Table.ofList [("value", .integer 1)])).2
  have two : result.coverage.invariants.checked = 2 := ofInvariants.checked_of_enabled rfl
  exact ⟨known, result, ran, ofPreconditions.checked_of_enabled rfl,
    ofPostconditions.declared,
    ofPostconditions.checked_of_disabled rfl, two, ofInvariants.checked.symm.trans two⟩

end Engine

end BehaviorContract
