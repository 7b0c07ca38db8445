import BehaviorContract.Proofs.Clause.Count
import BehaviorContract.Proofs.Verdict.Monotone
import BehaviorContract.Trial.Engine

/-! Verdicts and the contract. A trial that evaluates at least one clause is
verified exactly when every clause that it had to check holds, each in the
context that it speaks about. -/

namespace BehaviorContract

/-- Says that the judgement in a result follows from its checks. -/
structure TrialResult.JudgedBy (policy : Policy) (result : TrialResult) : Prop where
  checked : result.coverage.checked = result.checks.length
  passed : result.coverage.passed = result.checks.countP (·.passed)
  score : result.score = BehaviorContract.score result.coverage.passed
    result.coverage.checked
  verdict : result.verdict = policy.classify result.coverage.passed
    result.coverage.checked
  success : result.success = true ↔ result.verdict = .verified

theorem TrialResult.JudgedBy.verified_iff {policy : Policy} {result : TrialResult}
    (judged : result.JudgedBy policy) (evaluated : result.checks ≠ []) :
    result.verdict = .verified ↔ Check.AllPassed result.checks := by
  have positive : 0 < result.checks.length := List.length_pos_iff.2 evaluated
  rw [judged.verdict, judged.checked, judged.passed,
    policy.classify_eq_verified_iff positive, Check.length_le_countP_passed_iff]

/-- But for its duration, a run that ended reports what it was told. -/
theorem Run.execution_finished (execution : Execution) (store : Store)
    (timeoutMs : UInt64) (measured : Float) :
    (finished execution store).execution timeoutMs measured =
      { execution with
        milliseconds :=
          if execution.milliseconds ≤ 0 then measured else execution.milliseconds } := by
  simp only [Run.execution]
  split <;> rfl

namespace Engine

theorem judge_judgedBy (engine : Engine) (readings : Readings) (behavior : Behavior)
    (input : Input) (before : Store) (run : Run) :
    (engine.judge readings behavior input before run).JudgedBy
      engine.settings.policy where
  checked := Scoring.checked_ofChecks engine.settings.policy _ _
  passed := Scoring.passed_ofChecks engine.settings.policy _ _
  score := rfl
  verdict := rfl
  success := decide_eq_true_iff

/-- Says that every clause that is to be checked holds, given the stores around
an execution and its report. -/
structure ContractHolds (engine : Engine) (now : Instant) (behavior : Behavior)
    (input : Value) (before after : Store) (execution : Execution) : Prop where
  preconditions : engine.settings.checkPreconditions = true →
    behavior.PreconditionsHold
      { domain := engine.domain, instances := before.instances, input, now }
  postconditions : engine.settings.checkPostconditions = true →
    behavior.PostconditionsHold
      { domain := engine.domain, instances := after.instances,
        before := some before.instances, input, result := execution.result,
        error := execution.error.map ExecutionError.toValue, now }
      execution.outcome
  invariants : engine.settings.checkInvariants = true →
    behavior.InvariantsHold
      { domain := engine.domain, instances := after.instances,
        before := some before.instances, input, result := execution.result,
        error := execution.error.map ExecutionError.toValue, now }

theorem forall_mem_if {α : Type} (enabled : Bool) (items : List α) (holds : α → Prop) :
    (∀ item ∈ if enabled then items else [], holds item) ↔
      (enabled = true → ∀ item ∈ items, holds item) := by
  cases enabled with
  | false => simp
  | true => simp

private theorem allPassed_if (enabled : Bool) (checks : List Check) :
    Check.AllPassed (if enabled then checks else []) ↔
      (enabled = true → Check.AllPassed checks) :=
  forall_mem_if enabled checks _

theorem allPassed_judge_iff (engine : Engine) (readings : Readings) (behavior : Behavior)
    (input : Input) (before : Store) (run : Run) :
    Check.AllPassed (engine.judge readings behavior input before run).checks ↔
      engine.ContractHolds readings.now behavior input.values before run.store
        (run.execution engine.settings.timeoutMs readings.timing.execution) := by
  simp only [TrialResult.checks, judge, Check.allPassed_append, allPassed_if,
    Behavior.allPassed_checkPreconditions, Behavior.allPassed_checkPostconditions,
    Behavior.allPassed_checkAllInvariants]
  constructor
  · rintro ⟨⟨preconditions, postconditions⟩, invariants⟩
    exact ⟨preconditions, postconditions, invariants⟩
  · rintro ⟨preconditions, postconditions, invariants⟩
    exact ⟨⟨preconditions, postconditions⟩, invariants⟩

/-- Says that there is a clause that a trial has to check. -/
inductive ClauseDue (engine : Engine) (behavior : Behavior) (outcome : Outcome)
    (after : Store) : Prop
  | precondition (enabled : engine.settings.checkPreconditions = true)
      (declared : behavior.preconditions ≠ []) : ClauseDue engine behavior outcome after
  | postcondition (enabled : engine.settings.checkPostconditions = true)
      {block : PostconditionBlock} (declared : block ∈ behavior.postconditions)
      (active : block.condition.isActive outcome = true)
      (filled : block.predicates ≠ []) :
      ClauseDue engine behavior outcome after
  | ofBehavior (enabled : engine.settings.checkInvariants = true)
      (declared : behavior.invariants ≠ []) : ClauseDue engine behavior outcome after
  | ofDomain (enabled : engine.settings.checkInvariants = true) {block : InvariantBlock}
      (declared : block ∈ engine.domain.invariants) (filled : block.predicates ≠ []) :
      ClauseDue engine behavior outcome after
  | ofInstance (enabled : engine.settings.checkInvariants = true) {entity : Entity}
      {id : String} {self : Instance} (declared : entity ∈ engine.domain.entities)
      (live : after.instances.find? entity.name id = some self)
      (filled : entity.invariants ≠ []) : ClauseDue engine behavior outcome after

private theorem if_eq_nil_iff {α : Type} (enabled : Bool) (items : List α) :
    (if enabled then items else []) = [] ↔ (enabled = true → items = []) := by
  cases enabled with
  | false => simp
  | true => simp

theorem checks_judge_ne_nil_iff (engine : Engine) (readings : Readings)
    (behavior : Behavior) (input : Input) (before : Store) (run : Run) :
    (engine.judge readings behavior input before run).checks ≠ [] ↔
      engine.ClauseDue behavior
        (engine.judge readings behavior input before run).outcome run.store := by
  rw [Ne, TrialResult.checks, List.append_eq_nil_iff, List.append_eq_nil_iff]
  simp only [judge, if_eq_nil_iff, Behavior.checkPreconditions_eq_nil_iff,
    Behavior.checkPostconditions_eq_nil_iff, Behavior.checkAllInvariants_eq_nil_iff]
  constructor
  · intro notEmpty
    refine Classical.byContradiction fun none => notEmpty ⟨⟨?_, ?_⟩, ?_⟩
    · intro enabled
      exact Classical.not_not.1 fun declared => none (.precondition enabled declared)
    · intro enabled block declared active
      exact Classical.not_not.1 fun filled =>
        none (.postcondition enabled declared active filled)
    · intro enabled
      refine ⟨?_, ?_, ?_⟩
      · exact Classical.not_not.1 fun declared => none (.ofBehavior enabled declared)
      · intro block declared
        exact Classical.not_not.1 fun filled => none (.ofDomain enabled declared filled)
      · intro entity declared id self live
        exact Classical.not_not.1 fun filled =>
          none (.ofInstance enabled declared live filled)
  · rintro due ⟨⟨preconditions, postconditions⟩, invariants⟩
    cases due with
    | precondition enabled declared => exact declared (preconditions enabled)
    | postcondition enabled declared active filled =>
        exact filled (postconditions enabled _ declared active)
    | ofBehavior enabled declared => exact declared (invariants enabled).1
    | ofDomain enabled declared filled =>
        exact filled ((invariants enabled).2.1 _ declared)
    | ofInstance enabled declared live filled =>
        exact filled ((invariants enabled).2.2 _ declared _ _ live)

/-- Says that each list of a result has a check for every clause that is due,
and no other. -/
structure ChecksDue (engine : Engine) (behavior : Behavior) (context : Context)
    (result : TrialResult) : Prop where
  preconditions : result.preconditions.length =
    if engine.settings.checkPreconditions then behavior.preconditions.length else 0
  postconditions : result.postconditions.length =
    if engine.settings.checkPostconditions then
      behavior.activePredicateCount result.outcome
    else 0
  invariants : result.invariants.length =
    if engine.settings.checkInvariants then behavior.invariantCount context else 0

private theorem length_if {α : Type} (enabled : Bool) {items : List α} {count : Nat}
    (counted : items.length = count) :
    (if enabled then items else []).length = if enabled then count else 0 := by
  cases enabled with
  | false => rfl
  | true => exact counted

theorem checksDue_judge (engine : Engine) (readings : Readings) (behavior : Behavior)
    (input : Input) (before : Store) (run : Run) :
    engine.ChecksDue behavior
      (engine.contextAfter readings.now input.values before run.store
        (engine.judge readings behavior input before run).execution)
      (engine.judge readings behavior input before run) where
  preconditions := length_if _ (behavior.length_checkPreconditions _)
  postconditions := length_if _ (behavior.length_checkPostconditions ..)
  invariants := length_if _ (behavior.length_checkAllInvariants _)

theorem runTrial_of_behavior (engine : Engine) (readings : Readings)
    (implementation : Implementation) {name : String} {behavior : Behavior}
    (known : engine.domain.behavior? name = some behavior) (input : Input)
    (store : Store) :
    engine.runTrial readings implementation name input store false =
      .ok (engine.judge readings behavior input store
        (implementation.execute behavior input.values store)) := by
  simp [runTrial, Engine.behavior, known]

theorem runTrial_verified_iff (engine : Engine) (readings : Readings)
    (implementation : Implementation) {name : String} {behavior : Behavior}
    (known : engine.domain.behavior? name = some behavior) (input : Input)
    (store : Store) :
    ∃ result,
      engine.runTrial readings implementation name input store false = .ok result ∧
      result.execution = (implementation.execute behavior input.values store).execution
        engine.settings.timeoutMs readings.timing.execution ∧
      result.outcome = result.execution.outcome ∧
      engine.ChecksDue behavior
        (engine.contextAfter readings.now input.values store
          (implementation.execute behavior input.values store).store result.execution)
        result ∧
      (result.checks ≠ [] ↔
        engine.ClauseDue behavior result.execution.outcome
          (implementation.execute behavior input.values store).store) ∧
      (result.success = true ↔ result.verdict = .verified) ∧
      (engine.ClauseDue behavior result.execution.outcome
          (implementation.execute behavior input.values store).store →
        (result.verdict = .verified ↔
          engine.ContractHolds readings.now behavior input.values store
            (implementation.execute behavior input.values store).store
              result.execution)) := by
  have judged := engine.judge_judgedBy readings behavior input store
    (implementation.execute behavior input.values store)
  have evaluated := engine.checks_judge_ne_nil_iff readings behavior input store
    (implementation.execute behavior input.values store)
  refine ⟨_, engine.runTrial_of_behavior readings implementation known input store, rfl,
    rfl, engine.checksDue_judge .., evaluated, judged.success, ?_⟩
  intro due
  exact (judged.verified_iff (evaluated.2 due)).trans (engine.allPassed_judge_iff ..)

def increment : Behavior where
  name := "Increment"
  preconditions := [.greaterThan (.identifier "amount") (.literal (.integer 0))]
  postconditions := [⟨.success,
    [.equals (.member (.identifier "result") "value") (.identifier "amount")]⟩]

def counting : Engine where
  domain := {
    name := "Counters"
    entities := [{
      name := "Counter"
      invariants := [.atLeast (.member (.identifier "this") "value")
        (.literal (.integer 0))] }]
    behaviors := [increment] }
  settings := {}

def incrementing : Implementation where
  execute := fun _ input store =>
    let value := (input.get? "amount").getD .null
    .finished (.ok (.ofFields [("value", value)]))
      (store.create "Counter" (Table.ofList [("value", value)])).2

def fiveMore : Input :=
  { category := .valid, name := "five", values := .ofFields [("amount", .integer 5)] }

/-- In this trial a precondition, a postcondition and the invariant of an
instance are evaluated, and all hold. -/
theorem runTrial_verified_iff_fiveMore :
    counting.domain.behavior? "Increment" = some increment ∧
      counting.ClauseDue increment .success
        (incrementing.execute increment fiveMore.values .empty).store ∧
      ∃ result,
        counting.runTrial { now := ⟨0, 0⟩ } incrementing "Increment" fiveMore .empty
        false = .ok result ∧
        result.checks.length = 3 ∧
        counting.ContractHolds ⟨0, 0⟩ increment fiveMore.values .empty
          (incrementing.execute increment fiveMore.values .empty).store
            result.execution := by
  have known : counting.domain.behavior? "Increment" = some increment := rfl
  have due (outcome : Outcome) : counting.ClauseDue increment outcome
      (incrementing.execute increment fiveMore.values .empty).store :=
    .precondition rfl (List.cons_ne_nil _ _)
  obtain ⟨result, ran, -, -, -, -, -, verified⟩ :=
    runTrial_verified_iff counting { now := ⟨0, 0⟩ } incrementing known fiveMore .empty
  have judged :=
    ran.symm.trans (counting.runTrial_of_behavior _ incrementing known fiveMore .empty)
  cases judged
  exact ⟨known, due .success, _, ran, rfl, (verified (due _)).1 (by decide)⟩

end Engine

end BehaviorContract
