import BehaviorContract.Clause.Contract
import BehaviorContract.Domain.Fault
import BehaviorContract.Failure
import BehaviorContract.Settings
import BehaviorContract.Trial.Result

/-! Trials of an implementation against the contract of a behavior. A trial
checks the preconditions, executes, and then checks the postconditions that the
outcome calls for and the invariants. -/

namespace BehaviorContract

inductive Run where
  | finished (execution : Execution) (store : Store)
  | timedOut (store : Store)

structure Implementation where
  setup : Store → Except Failure Store := .ok
  execute : Behavior → Value → Store → Run

/-- What a trial takes from clocks and from chance. -/
structure Readings where
  now : Instant
  id : Uuid := .nil
  timing : Timing := {}
  stamps : TraceStamps := {}

structure Engine where
  domain : Domain
  settings : Settings

namespace Run

/-- A run that pauses. If the pause is longer than the time that is left, the
run ends in it. -/
def afterPause (timeLeftMs pauseMs : Nat) (store : Store) (resume : Store → Run) : Run :=
  if timeLeftMs < pauseMs then .timedOut store else resume store

def store : Run → Store
  | .finished _ store => store
  | .timedOut store => store

/-- The report of a run. One that tells no duration takes the one that was measured. -/
def execution (run : Run) (timeoutMs : UInt64) (measured : Float) : Execution :=
  let execution :=
    match run with
    | .finished execution _ => execution
    | .timedOut _ => Execution.timedOut timeoutMs
  if execution.milliseconds ≤ 0 then { execution with milliseconds := measured }
  else execution

end Run

namespace Engine

def create (domain : Domain) (settings : Settings) : Except Failure Engine :=
  match domain.validate, settings.validate with
  | .error fault, _ => .error (.invalidDomain fault.message)
  | .ok (), .error error => .error (.invalidSettings error.message)
  | .ok (), .ok () => .ok { domain, settings }

def behavior (engine : Engine) (name : String) : Except Failure Behavior :=
  match engine.domain.behavior? name with
  | some behavior => .ok behavior
  | none => .error (.unknownBehavior name)

def contextBefore (engine : Engine) (now : Instant) (input : Value)
    (store : Store) : Context :=
  { domain := engine.domain, instances := store.instances, input, now }

def contextAfter (engine : Engine) (now : Instant) (input : Value) (before after : Store)
    (execution : Execution) : Context :=
  { domain := engine.domain, instances := after.instances,
    before := some before.instances, input,
    result := execution.result, error := execution.error.map ExecutionError.toValue, now }

def judge (engine : Engine) (readings : Readings) (behavior : Behavior) (input : Input)
    (before : Store) (run : Run) : TrialResult :=
  let settings := engine.settings
  let contextBefore := engine.contextBefore readings.now input.values before
  let execution := run.execution settings.timeoutMs readings.timing.execution
  let contextAfter :=
    engine.contextAfter readings.now input.values before run.store execution
  let outcome := execution.outcome
  let preconditions :=
    if settings.checkPreconditions then behavior.checkPreconditions contextBefore else []
  let postconditions :=
    if settings.checkPostconditions then behavior.checkPostconditions contextAfter outcome
    else []
  let invariants :=
    if settings.checkInvariants then behavior.checkAllInvariants contextAfter else []
  let declared := ClauseKind.select behavior.preconditions.length
    behavior.postconditionCount (behavior.invariantCount contextAfter)
  let scoring := Scoring.ofChecks settings.policy declared
    (ClauseKind.select preconditions postconditions invariants)
  let recorder : TraceRecorder :=
    { stamps := readings.stamps, domain := engine.domain.name, behavior := behavior.name }
  let called := recorder.recordCall input.values before.instances
  let executed := (called.recordExecution execution run.store.instances).recordChanges
    (run.store.diff (before.snapshot readings.now))
  let checked := ((executed.recordChecks preconditions).recordChecks
    postconditions).recordChecks invariants
  { id := readings.id
    success := scoring.success
    verdict := scoring.verdict
    score := scoring.score
    behavior := behavior.name
    input
    preconditions
    postconditions
    invariants
    execution
    outcome
    coverage := scoring.coverage
    timing := readings.timing
    fingerprint := engine.domain.fingerprint
    trace := if settings.recordTrace then some (checked.finish scoring.success)
      else none }

/-- Runs one trial. It can only be called off before the execution. -/
def runTrial (engine : Engine) (readings : Readings) (implementation : Implementation)
    (name : String) (input : Input) (store : Store) (cancelled : Bool) :
    Except Failure TrialResult :=
  match engine.behavior name with
  | .error failure => .error failure
  | .ok behavior =>
      if cancelled then .error .cancelled
      else
        .ok (engine.judge readings behavior input store
          (implementation.execute behavior input.values store))

end Engine

end BehaviorContract
