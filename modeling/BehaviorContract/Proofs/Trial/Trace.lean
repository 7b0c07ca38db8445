import BehaviorContract.Proofs.Store.Replay
import BehaviorContract.Proofs.Trial.Verdict

/-! Traces as logs. The trace of a trial tells of the call, of its end, of every
change and of every check, in this order, and points to the first check that
failed. Its changes lead from the state at the call to the state at the return.
-/

namespace BehaviorContract

namespace Event

def change? : Event → Option Change
  | .stateChange change => some change
  | _ => none

theorem isFailedCheck_eq_true_iff {event : Event} :
    event.isFailedCheck = true ↔
      ∃ check, event = .check check ∧ check.passed = false := by
  cases event with
  | check self => simp [isFailedCheck]
  | _ => simp [isFailedCheck]

theorem isFailedCheck_ofExecution (execution : Execution) (after : Instances) :
    (ofExecution execution after).isFailedCheck = false := by
  unfold ofExecution
  cases execution.error with
  | none => rfl
  | some cause => rfl

theorem change?_ofExecution (execution : Execution) (after : Instances) :
    (ofExecution execution after).change? = none := by
  unfold ofExecution
  cases execution.error with
  | none => rfl
  | some cause => rfl

theorem findIdx?_isFailedCheck_eq_some_iff (events : List Event) (position : Nat) :
    events.findIdx? isFailedCheck = some position ↔
      (∃ check, events[position]? = some (.check check) ∧ check.passed = false) ∧
        ∀ earlier < position, ∀ check,
          events[earlier]? = some (.check check) → check.passed = true := by
  rw [List.findIdx?_eq_some_iff_getElem]
  constructor
  · intro found
    obtain ⟨inside, failed, first⟩ := found
    obtain ⟨check, here, notPassed⟩ := isFailedCheck_eq_true_iff.1 failed
    refine ⟨⟨check, ?_, notPassed⟩, ?_⟩
    · rw [List.getElem?_eq_getElem inside, here]
    · intro earlier before other there
      obtain ⟨insideToo, there⟩ := List.getElem?_eq_some_iff.1 there
      have unfailed := first earlier before
      rw [there] at unfailed
      simpa [isFailedCheck] using unfailed
  · intro found
    obtain ⟨⟨check, here, notPassed⟩, first⟩ := found
    obtain ⟨inside, here⟩ := List.getElem?_eq_some_iff.1 here
    refine ⟨inside, ?_, ?_⟩
    · exact isFailedCheck_eq_true_iff.2 ⟨check, here, notPassed⟩
    · intro earlier before failed
      obtain ⟨other, there, otherFailed⟩ := isFailedCheck_eq_true_iff.1 failed
      have passed := first earlier before other (List.getElem?_eq_some_iff.2 ⟨_, there⟩)
      rw [otherFailed] at passed
      cases passed

end Event

namespace Trace

def log (trace : Trace) : List Event :=
  trace.events.map (·.event)

def changes (trace : Trace) : List Change :=
  trace.log.filterMap Event.change?

/-- Says that a trace is the log of a call that took a store from one state to
another, with its result. -/
structure Logs (trace : Trace) (behavior : String) (input : Value) (now : Instant)
    (before after : Store) (result : TrialResult) : Prop where
  logs_error : ∀ cause, result.execution.error = some cause →
    trace.log = .call behavior input before.instances.toDocument :: .error cause ::
      ((after.diff (before.snapshot now)).map .stateChange ++
        result.checks.map fun check => .check { check with milliseconds := 0 })
  logs_return : result.execution.error = none →
    trace.log = .call behavior input before.instances.toDocument ::
      .returned result.execution.result result.execution.milliseconds
        after.instances.toDocument ::
      ((after.diff (before.snapshot now)).map .stateChange ++
        result.checks.map fun check => .check { check with milliseconds := 0 })
  numbered : ∀ position event,
    trace.events[position]? = some event → event.id = "evt_" ++ toString (position + 1)
  failed_iff : ∀ position, trace.failureIndex = some position ↔
    (∃ check, trace.log[position]? = some (.check check) ∧ check.passed = false) ∧
      ∀ earlier < position, ∀ check,
        trace.log[earlier]? = some (.check check) → check.passed = true
  unfailed_iff : trace.failureIndex = none ↔ result.failedChecks = []
  replays : before.instances.floatFree = true →
    ∀ behavior input stateBefore result milliseconds stateAfter rest,
      trace.log = .call behavior input stateBefore ::
        .returned result milliseconds stateAfter :: rest →
      stateBefore.Shows before.instances ∧ stateAfter.Shows after.instances ∧
        (trace.changes.foldl Document.replay stateBefore).pruned = stateAfter.pruned

end Trace

namespace TraceRecorder

def log (recorder : TraceRecorder) : List Event :=
  recorder.events.map (·.event)

def Numbered (recorder : TraceRecorder) : Prop :=
  ∀ position event, recorder.events[position]? = some event →
    event.id = "evt_" ++ toString (position + 1)

theorem log_push (recorder : TraceRecorder) (event : Event) :
    (recorder.push event).log = recorder.log ++ [event] :=
  List.map_append

theorem Numbered.push {recorder : TraceRecorder} (numbered : recorder.Numbered)
    (event : Event) : (recorder.push event).Numbered := by
  intro position recorded here
  rw [TraceRecorder.push, List.getElem?_append] at here
  split at here
  · exact numbered position recorded here
  · rename_i outside
    rw [List.getElem?_singleton] at here
    split at here
    · rename_i last
      cases here
      have place : position = recorder.events.length := by omega
      rw [place]
    · cases here

section Run

variable {α : Type} (event : α → Event) (items : List α)

theorem log_foldl_push (recorder : TraceRecorder) :
    (items.foldl (fun recorder item => recorder.push (event item)) recorder).log =
      recorder.log ++ items.map event := by
  induction items generalizing recorder with
  | nil => rw [List.map_nil, List.append_nil, List.foldl_nil]
  | cons item rest induction =>
      rw [List.foldl_cons, induction, log_push, List.map_cons, List.append_assoc,
        List.singleton_append]

theorem Numbered.foldl_push {recorder : TraceRecorder} (numbered : recorder.Numbered) :
    (items.foldl (fun recorder item => recorder.push (event item))
      recorder).Numbered := by
  induction items generalizing recorder with
  | nil => exact numbered
  | cons item rest induction => exact induction (numbered.push (event item))

end Run

section Record

variable {recorder : TraceRecorder} (numbered : recorder.Numbered)

include numbered

theorem Numbered.recordCall (input : Value) (before : Instances) :
    (recorder.recordCall input before).Numbered :=
  numbered.push _

theorem Numbered.recordExecution (execution : Execution) (after : Instances) :
    (recorder.recordExecution execution after).Numbered :=
  numbered.push _

theorem Numbered.recordChanges (changes : List Change) :
    (recorder.recordChanges changes).Numbered :=
  numbered.foldl_push Event.stateChange changes

theorem Numbered.recordChecks (checks : List Check) :
    (recorder.recordChecks checks).Numbered :=
  numbered.foldl_push Event.ofCheck checks

end Record

theorem filterMap_change? {call ended : Event} (ofCall : call.change? = none)
    (ofEnd : ended.change? = none) (changes : List Change) (checks : List Check) :
    (call :: ended :: (changes.map Event.stateChange ++
      checks.map Event.ofCheck)).filterMap Event.change? = changes := by
  have ofChanges : Event.change? ∘ Event.stateChange = some := rfl
  have ofChecks : (checks.map Event.ofCheck).filterMap Event.change? = [] := by
    simp [Event.ofCheck, Event.change?]
  rw [List.filterMap_cons_none ofCall, List.filterMap_cons_none ofEnd,
    List.filterMap_append, ofChecks, List.filterMap_map, ofChanges, List.filterMap_some,
    List.append_nil]

/-- A recorder that was told of a whole trial gives its log. -/
theorem logs_finish {recorder : TraceRecorder} (numbered : recorder.Numbered)
    {behavior : String} {input : Value} {now : Instant} {before after : Store}
    {result : TrialResult}
    (told : recorder.log = .call behavior input before.instances.toDocument ::
      .ofExecution result.execution after.instances ::
        ((after.diff (before.snapshot now)).map .stateChange ++
          result.checks.map .ofCheck))
    (passed : Bool) :
    (recorder.finish passed).Logs behavior input now before after result := by
  have failureIndex : (recorder.finish passed).failureIndex =
      recorder.log.findIdx? Event.isFailedCheck := by
    rw [log, List.findIdx?_map]
    rfl
  constructor
  case logs_error =>
    intro cause raised
    rw [Event.ofExecution, raised] at told
    exact told
  case logs_return =>
    intro unraised
    rw [Event.ofExecution, unraised] at told
    exact told
  case numbered => exact numbered
  case failed_iff =>
    intro position
    rw [failureIndex]
    exact Event.findIdx?_isFailedCheck_eq_some_iff _ position
  case unfailed_iff =>
    rw [failureIndex, told, List.findIdx?_eq_none_iff]
    simp only [List.forall_mem_append, List.forall_mem_cons, List.forall_mem_map,
      Event.isFailedCheck_ofExecution, TrialResult.failedChecks, List.filter_eq_nil_iff]
    simp [Event.ofCheck, Event.isFailedCheck]
  case replays =>
    intro free name given stateBefore returned milliseconds stateAfter rest returning
    have changed : (recorder.finish passed).changes =
        after.diff (before.snapshot now) := by
      refine (congrArg (List.filterMap Event.change?) told).trans ?_
      exact filterMap_change? rfl (Event.change?_ofExecution ..) _ _
    have same := told.symm.trans returning
    rw [Event.ofExecution] at same
    cases raised : result.execution.error with
    | some cause =>
        rw [raised] at same
        cases same
    | none =>
        rw [raised] at same
        cases same
        rw [changed]
        exact ⟨before.instances.find?_toDocument, after.instances.find?_toDocument,
          after.foldl_replay_diff (before.snapshot now) free⟩

end TraceRecorder

namespace Engine

theorem logs_judge (engine : Engine) (readings : Readings) (behavior : Behavior)
    (input : Input) (before : Store) (run : Run)
    (recording : engine.settings.recordTrace = true) :
    ∃ trace, (engine.judge readings behavior input before run).trace = some trace ∧
      trace.Logs behavior.name input.values readings.now before run.store
        (engine.judge readings behavior input before run) := by
  refine ⟨_, if_pos recording, TraceRecorder.logs_finish ?_ ?_ _⟩
  · have empty : TraceRecorder.Numbered
        { stamps := readings.stamps, domain := engine.domain.name,
          behavior := behavior.name } := by
      intro position event here
      cases here
    have called := (empty.recordCall input.values before.instances).recordExecution
      (run.execution engine.settings.timeoutMs readings.timing.execution)
      run.store.instances
    exact (((called.recordChanges _).recordChecks _).recordChecks _).recordChecks _
  · simp only [TraceRecorder.recordChecks, TraceRecorder.recordChanges,
      TraceRecorder.recordExecution, TraceRecorder.recordCall,
      TraceRecorder.log_foldl_push, TraceRecorder.log_push, TrialResult.checks,
      List.map_append, List.append_assoc]
    rfl

theorem runTrial_trace_logs (engine : Engine) (readings : Readings)
    (implementation : Implementation) {name : String} {behavior : Behavior}
    (known : engine.domain.behavior? name = some behavior)
    (recording : engine.settings.recordTrace = true) (input : Input) (store : Store) :
    ∃ result trace,
      engine.runTrial readings implementation name input store false = .ok result ∧
      result.execution = (implementation.execute behavior input.values store).execution
        engine.settings.timeoutMs readings.timing.execution ∧
      result.trace = some trace ∧
      trace.Logs behavior.name input.values readings.now store
        (implementation.execute behavior input.values store).store result := by
  obtain ⟨trace, traced, logs⟩ := engine.logs_judge readings behavior input store
    (implementation.execute behavior input.values store) recording
  exact ⟨_, trace, engine.runTrial_of_behavior readings implementation known input store,
    rfl, traced, logs⟩

def recordingCounts : Engine :=
  { counting with settings := { recordTrace := true } }

/-- Brings every instance down and sets two counters up, the first under an id
that may have been there before. -/
def rebuilding : Implementation where
  execute := fun _ _ store =>
    let cleared := store.restore (Store.empty.snapshot ⟨0, 0⟩)
    let first := (cleared.create "Counter"
      (Table.ofList [("id", .text "a"), ("value", .integer 2)])).2
    .finished (.ok .null) (first.create "Counter"
      (Table.ofList [("id", .text "c"), ("value", .integer 3)])).2

def occupied : Store :=
  let first := (Store.empty.create "Counter"
    (Table.ofList [("id", .text "a"), ("value", .integer 1)])).2
  let second := (first.create "Counter" (Table.ofList [("id", .text "b")])).2
  (second.create "Session" ∅).2

/-- Here instances are updated, deleted and created, the only session goes, and
a postcondition fails. -/
theorem runTrial_trace_logs_rebuilding :
    recordingCounts.domain.behavior? "Increment" = some increment ∧
      recordingCounts.settings.recordTrace = true ∧
      occupied.instances.floatFree = true ∧
      ∃ result trace,
        recordingCounts.runTrial { now := ⟨0, 0⟩ } rebuilding "Increment" fiveMore
          occupied false = .ok result ∧
        result.trace = some trace ∧
        trace.changes.map (fun change => (change.entity, change.id, change.kind)) =
          [("Counter", "a", .updated), ("Counter", "b", .deleted),
            ("Session", "session-1", .deleted), ("Counter", "c", .created)] ∧
        trace.failureIndex = some 7 ∧
        (trace.changes.foldl Document.replay occupied.instances.toDocument).pruned =
          (rebuilding.execute increment fiveMore.values
            occupied).store.instances.toDocument.pruned := by
  have known : recordingCounts.domain.behavior? "Increment" = some increment := rfl
  have free : occupied.instances.floatFree = true := by decide
  obtain ⟨result, trace, ran, executed, traced, logs⟩ :=
    runTrial_trace_logs recordingCounts { now := ⟨0, 0⟩ } rebuilding known rfl
      fiveMore occupied
  have unraised : result.execution.error = none := by
    rw [executed, rebuilding, Run.execution_finished]
    rfl
  have returned := logs.logs_return unraised
  have judged := ran.symm.trans
    (recordingCounts.runTrial_of_behavior _ rebuilding known fiveMore occupied)
  cases judged
  cases traced
  exact ⟨known, rfl, free, _, _, ran, rfl, by decide, by decide,
    (logs.replays free _ _ _ _ _ _ _ returned).2.2⟩

end Engine

end BehaviorContract
