import BehaviorContract.Proofs.Trial.Verdict

/-! What the name `error` stands for after an execution that ended in an error.
The outcome has a code in every such case; the value of the name is the reported
error as it is, so the two agree only where an error with a code is reported. -/

namespace BehaviorContract

/-- Says that a value is an error of a code, as clauses see it. -/
structure Value.IsErrorOf (value : Value) (code : String) : Prop where
  code : value.get? "code" = some (.text code)
  message : ∃ message, value.get? "message" = some (.text message)
  retriable : ∃ retriable, value.get? "retriable" = some (.bool retriable)

theorem ExecutionError.isErrorOf_toValue
    (error : ExecutionError) : error.toValue.IsErrorOf error.code where
  code := by simp [toValue, Value.ofFields, Value.get?, Table.ofList]
  message := ⟨error.message, by simp [toValue, Value.ofFields, Value.get?, Table.ofList]⟩
  retriable :=
    ⟨error.retriable, by simp [toValue, Value.ofFields, Value.get?, Table.ofList]⟩

theorem ExecutionError.isErrorOf_toValue_iff (error : ExecutionError) {code : String} :
    error.toValue.IsErrorOf code ↔ error.code = code := by
  have ofCode := error.isErrorOf_toValue
  constructor
  · intro isError
    exact Value.text.inj (Option.some.inj (ofCode.code.symm.trans isError.code))
  · intro same
    rw [← same]
    exact ofCode

namespace Execution

theorem code_of_missing {execution : Execution} {code : String}
    (ended : execution.outcome = .error code) (missing : execution.error = none) :
    code = unknownCode := by
  rw [outcome, missing] at ended
  cases success : execution.success with
  | false =>
      simp only [success] at ended
      exact (Outcome.error.inj ended).symm
  | true =>
      simp only [success] at ended
      cases ended

theorem code_of_reported {execution : Execution} {code : String}
    (ended : execution.outcome = .error code) {error : ExecutionError}
    (reported : execution.error = some error) :
    code = if error.code = "" then unknownCode else error.code := by
  rw [outcome, reported] at ended
  exact (Outcome.error.inj ended).symm

end Execution

namespace Context

/-- Says that `error` stands for an error of a code. -/
def BindsError (context : Context) (code : String) : Prop :=
  ∃ value, (Expr.identifier "error").evaluate context = .ok value ∧ value.IsErrorOf code

section Binding

variable {context : Context} (free : context.scope.get? "error" = none)

include free

theorem evaluate_error : (Expr.identifier "error").evaluate context = .ok
    (context.error.getD .null) := by
  rw [Expr.evaluate, resolve, resolve?, free]
  rfl

theorem not_bindsError_of_missing (missing : context.error = none) (code : String) :
    ¬ context.BindsError code := by
  intro binds
  obtain ⟨value, evaluated, isError⟩ := binds
  rw [evaluate_error free, missing] at evaluated
  cases evaluated
  cases isError.code

theorem bindsError_iff_of_reported {error : ExecutionError}
    (reported : context.error = some error.toValue) (code : String) :
    context.BindsError code ↔ error.code = code := by
  rw [← error.isErrorOf_toValue_iff, BindsError, evaluate_error free, reported]
  constructor
  · intro binds
    obtain ⟨value, same, isError⟩ := binds
    cases same
    exact isError
  · intro isError
    exact ⟨error.toValue, rfl, isError⟩

end Binding

end Context

/-- Says what `error` stands for in a context after an execution whose outcome
is an error of a code. -/
structure Execution.ErrorBinding (execution : Execution) (context : Context)
    (code : String) : Prop where
  agrees_iff : context.BindsError code ↔
    ∃ error, execution.error = some error ∧ error.code ≠ ""
  missing : execution.error = none →
    code = unknownCode ∧ (Expr.identifier "error").evaluate context = .ok .null
  blank : ∀ error, execution.error = some error → error.code = "" →
    code = unknownCode ∧ context.BindsError ""

section Trial

variable {execution : Execution} {context : Context} {code : String}
  (ended : execution.outcome = .error code)
  (free : context.scope.get? "error" = none)

include ended free

theorem errorBinding_of_missing (missing : execution.error = none)
    (unbound : context.error = none) :
    execution.ErrorBinding context code where
  agrees_iff := by
    constructor
    · intro binds
      exact absurd binds (Context.not_bindsError_of_missing free unbound code)
    · intro reported
      obtain ⟨error, same, -⟩ := reported
      cases missing.symm.trans same
  missing := by
    intro _
    refine ⟨Execution.code_of_missing ended missing, ?_⟩
    rw [Context.evaluate_error free, unbound]
    rfl
  blank := by
    intro error same
    cases missing.symm.trans same

theorem errorBinding_of_reported {error : ExecutionError}
    (reported : execution.error = some error)
    (bound : context.error = some error.toValue) :
    execution.ErrorBinding context code where
  agrees_iff := by
    rw [Context.bindsError_iff_of_reported free bound, reported,
      Execution.code_of_reported ended reported]
    by_cases empty : error.code = ""
    · simp [empty, Execution.unknownCode]
    · simp [empty]
  missing := by
    intro missing
    cases reported.symm.trans missing
  blank := by
    intro other same empty
    cases reported.symm.trans same
    rw [Context.bindsError_iff_of_reported free bound,
      Execution.code_of_reported ended reported, if_pos empty]
    exact ⟨rfl, empty⟩

end Trial

namespace Engine

theorem errorBinding_contextAfter (engine : Engine) (now : Instant) (input : Value)
    (before after : Store) {execution : Execution} {code : String}
    (ended : execution.outcome = .error code) (scope : Table Value)
    (free : scope.get? "error" = none) :
    execution.ErrorBinding { engine.contextAfter now input before after execution with
      scope } code := by
  cases reported : execution.error with
  | none =>
      apply errorBinding_of_missing ended free reported
      simp [contextAfter, reported]
  | some error =>
      apply errorBinding_of_reported ended free reported
      simp [contextAfter, reported]

/-- After an error outcome `error` stands for an error of its code exactly where
an error with a code was reported. -/
theorem runTrial_error_binding (engine : Engine) (readings : Readings)
    (implementation : Implementation) {name : String} {behavior : Behavior}
    (known : engine.domain.behavior? name = some behavior) (input : Input)
    (store : Store) :
    ∃ result,
      engine.runTrial readings implementation name input store false = .ok result ∧
      ∀ code, result.outcome = .error code →
        ∀ scope : Table Value, scope.get? "error" = none →
        result.execution.ErrorBinding
          { engine.contextAfter readings.now input.values store
              (implementation.execute behavior input.values store).store
                result.execution with scope } code := by
  refine ⟨_, engine.runTrial_of_behavior readings implementation known input store, ?_⟩
  intro code ended scope free
  exact engine.errorBinding_contextAfter _ _ _ _ ended scope free

def reporting (execution : Execution) : Implementation where
  execute := fun _ _ store => .finished execution store

def afterReport (result : TrialResult) : Context :=
  counting.contextAfter ⟨0, 0⟩ fiveMore.values .empty .empty result.execution

theorem runTrial_error_binding_limit :
    counting.domain.behavior? "Increment" = some increment ∧
      ∃ result,
        counting.runTrial { now := ⟨0, 0⟩ }
        (reporting (.failed { code := "LIMIT", message := "too many" }))
          "Increment" fiveMore .empty false = .ok result ∧
        result.outcome = .error "LIMIT" ∧ (afterReport result).BindsError "LIMIT" := by
  have known : counting.domain.behavior? "Increment" = some increment := rfl
  let refusal : ExecutionError := { code := "LIMIT", message := "too many" }
  obtain ⟨result, ran, binding⟩ :=
    runTrial_error_binding counting { now := ⟨0, 0⟩ } (reporting (.failed refusal)) known
      fiveMore .empty
  have judged := ran.symm.trans
    (counting.runTrial_of_behavior _ (reporting (.failed refusal)) known fiveMore .empty)
  cases judged
  have told :=
    Run.execution_finished (.failed refusal) .empty counting.settings.timeoutMs 0
  have ended := congrArg Execution.outcome told
  have reported := congrArg Execution.error told
  exact ⟨known, _, ran, ended,
    (binding "LIMIT" ended ∅ rfl).agrees_iff.2 ⟨refusal, reported, by decide⟩⟩

theorem runTrial_reporting (execution : Execution) {code : String}
    (ended : execution.outcome = .error code) :
    ∃ result,
      counting.runTrial { now := ⟨0, 0⟩ } (reporting execution) "Increment" fiveMore
      .empty false = .ok result ∧
      result.outcome = .error code ∧ result.execution.error = execution.error ∧
      result.execution.ErrorBinding (afterReport result) code := by
  have known : counting.domain.behavior? "Increment" = some increment := rfl
  have told := Run.execution_finished execution .empty counting.settings.timeoutMs 0
  have endedSo := (congrArg Execution.outcome told).trans ended
  have sameError := congrArg Execution.error told
  exact ⟨_, counting.runTrial_of_behavior _ _ known fiveMore .empty, endedSo, sameError,
    counting.errorBinding_contextAfter ⟨0, 0⟩ fiveMore.values .empty .empty endedSo ∅ rfl⟩

/-- Both executions end in an unknown error. After the first one `error` is
null, and after the second one it has the empty code. -/
theorem runTrial_unknown_error_not_bound :
    (∃ result,
      counting.runTrial { now := ⟨0, 0⟩ } (reporting { success := false }) "Increment"
      fiveMore .empty false =
        .ok result ∧
      result.outcome = .error "UNKNOWN_ERROR" ∧
        ¬ (afterReport result).BindsError "UNKNOWN_ERROR" ∧
      (Expr.identifier "error").evaluate (afterReport result) = .ok .null) ∧
    ∃ result,
      counting.runTrial { now := ⟨0, 0⟩ }
      (reporting (.failed { code := "", message := "lost" })) "Increment"
        fiveMore .empty false = .ok result ∧
      result.outcome = .error "UNKNOWN_ERROR" ∧
        ¬ (afterReport result).BindsError "UNKNOWN_ERROR" ∧
      (afterReport result).BindsError "" := by
  constructor
  · obtain ⟨result, ran, ended, missing, binding⟩ :=
      runTrial_reporting { success := false } rfl
    refine ⟨result, ran, ended, ?_, (binding.missing missing).2⟩
    intro binds
    obtain ⟨error, reported, -⟩ := binding.agrees_iff.1 binds
    cases missing.symm.trans reported
  · obtain ⟨result, ran, ended, reported, binding⟩ :=
      runTrial_reporting (.failed { code := "", message := "lost" }) rfl
    refine ⟨result, ran, ended, ?_, (binding.blank _ reported rfl).2⟩
    intro binds
    obtain ⟨error, same, coded⟩ := binding.agrees_iff.1 binds
    cases reported.symm.trans same
    exact coded rfl

end Engine

end BehaviorContract
