import BehaviorContract.Clause.Check
import BehaviorContract.Execution
import BehaviorContract.Store.Json
import BehaviorContract.Uuid

namespace BehaviorContract

inductive Event where
  | call (behavior : String) (input : Value) (stateBefore : Document)
  | returned (result : Option Value) (milliseconds : Float) (stateAfter : Document)
  | error (error : ExecutionError)
  | stateChange (change : Change)
  | check (check : Check)

namespace Event

def ofExecution (execution : Execution) (after : Instances) : Event :=
  match execution.error with
  | some cause => .error cause
  | none => .returned execution.result execution.milliseconds after.toDocument

def ofCheck (check : Check) : Event :=
  .check { check with milliseconds := 0 }

def isFailedCheck : Event → Bool
  | .check self => !self.passed
  | _ => false

end Event

/-- An event as a trace holds it; its time is in milliseconds since 1970. -/
structure TraceEvent where
  id : String
  time : Int64
  event : Event

structure Trace where
  id : Uuid
  domain : String
  behavior : String
  startTime : Int64
  endTime : Int64
  events : List TraceEvent
  passed : Bool
  failureIndex : Option Nat

/-- What a trace takes from the clock, and its identifier. -/
structure TraceStamps where
  id : Uuid := .nil
  startTime : Int64 := 0
  endTime : Int64 := 0
  eventTime : Nat → Int64 := fun _ => 0

def Trace.durationMs (trace : Trace) : Int64 :=
  trace.endTime - trace.startTime

structure TraceRecorder where
  stamps : TraceStamps := {}
  domain : String
  behavior : String
  events : List TraceEvent := []

namespace TraceRecorder

/-- Records an event, which is numbered by how many there are. -/
def push (recorder : TraceRecorder) (event : Event) : TraceRecorder :=
  let count := recorder.events.length
  let id := "evt_" ++ toString (count + 1)
  { recorder with
    events := recorder.events ++ [⟨id, recorder.stamps.eventTime count, event⟩] }

def recordCall (recorder : TraceRecorder) (input : Value) (before : Instances) :
    TraceRecorder :=
  recorder.push (.call recorder.behavior input before.toDocument)

def recordExecution (recorder : TraceRecorder) (execution : Execution)
    (after : Instances) : TraceRecorder :=
  recorder.push (.ofExecution execution after)

def recordChanges (recorder : TraceRecorder) (changes : List Change) : TraceRecorder :=
  changes.foldl (fun recorder change => recorder.push (.stateChange change)) recorder

def recordChecks (recorder : TraceRecorder) (checks : List Check) : TraceRecorder :=
  checks.foldl (fun recorder check => recorder.push (.ofCheck check)) recorder

def finish (recorder : TraceRecorder) (passed : Bool) : Trace where
  id := recorder.stamps.id
  domain := recorder.domain
  behavior := recorder.behavior
  startTime := recorder.stamps.startTime
  endTime := recorder.stamps.endTime
  events := recorder.events
  passed := passed
  failureIndex := recorder.events.findIdx? (·.event.isFailedCheck)

end TraceRecorder

end BehaviorContract
