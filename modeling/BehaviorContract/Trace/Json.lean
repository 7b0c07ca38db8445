import BehaviorContract.Clause.Json
import BehaviorContract.Json.Printer
import BehaviorContract.Trace.Basic

namespace BehaviorContract

open FieldReader

namespace Event

def tags : List String :=
  ["call", "return", "error", "state_change", "check"]

def reader (tag : String) : FieldReader Event :=
  match tag with
  | "call" => do
      let behavior ← required "behavior" Json.text?
      let input ← required "input" Value.ofJson?
      let stateBefore ← required "state_before" Document.ofJson?
      return .call behavior input stateBefore
  | "return" => do
      let result ← FieldReader.optional "result" Value.ofJson?
      let milliseconds ← required "duration_ms" Json.float?
      let stateAfter ← required "state_after" Document.ofJson?
      return .returned result milliseconds stateAfter
  | "error" => do
      let code ← required "code" Json.text?
      let message ← required "message" Json.text?
      let retriable ← required "retriable" Json.bool?
      return .error { code, message, retriable }
  | "state_change" => do
      let change ← required "change"
        (Json.decodeRecord (Change.reader (Json.nameInside? ChangeKind.ofText?)))
      return .stateChange change
  | "check" => do
      let kind ← required "category" (Json.nameInside? ClauseKind.ofText?)
      let name ← required "name" Json.text?
      let expression ← required "expression" Json.text?
      let passed ← required "passed" Json.bool?
      let expected ← FieldReader.optional "expected" Value.ofJson?
      let actual ← FieldReader.optional "actual" Value.ofJson?
      let error ← FieldReader.optional "error" Json.text?
      return .check { kind, name, expression, passed, expected, actual, error }
  | _ => failure

def tag : Event → String
  | .call .. => "call"
  | .returned .. => "return"
  | .error .. => "error"
  | .stateChange .. => "state_change"
  | .check .. => "check"

def entries : Event → List (String × Json)
  | .call behavior input stateBefore =>
      [("behavior", .text behavior), ("input", input.toJson),
        ("state_before", stateBefore.toJson)]
  | .returned result milliseconds stateAfter =>
      Json.entryOfOption "result" Value.toJson result ++
        [("duration_ms", .float milliseconds), ("state_after", stateAfter.toJson)]
  | .error cause =>
      [("code", .text cause.code), ("message", .text cause.message),
        ("retriable", .bool cause.retriable)]
  | .stateChange change => [("change", change.toJson)]
  | .check self =>
      [("category", self.kind.toJson), ("name", .text self.name),
        ("expression", .text self.expression), ("passed", .bool self.passed)] ++
        Json.entryOfOption "expected" Value.toJson self.expected ++
        Json.entryOfOption "actual" Value.toJson self.actual ++
        Json.entryOfOption "error" .text self.error

end Event

namespace TraceEvent

/-- Reads an event, which is always an object and has to be readable as a whole. -/
def ofJson? (json : Json) : Option TraceEvent := do
  let .object entries := json | none
  if json.readable then
    let (tag, record) ← (Record.named entries).tagged? "type"
    let tag ← Json.tag? Event.tags true tag
    record.read? do
      let id ← required "id" Json.text?
      let time ← required "timestamp" Json.int64?
      let event ← Event.reader tag
      return { id, time, event }
  else none

def toJson (self : TraceEvent) : Json :=
  .object ([("id", .text self.id), ("timestamp", .integer self.time.toInt),
    ("type", .text self.event.tag)] ++ self.event.entries)

end TraceEvent

namespace Trace

def ofJson? : Json → Option Trace :=
  Json.decodeRecord do
    let id ← required "id" fun json => json.text?.bind Uuid.read?
    let domain ← required "domain" Json.text?
    let behavior ← required "behavior" Json.text?
    let startTime ← required "start_time" Json.int64?
    let endTime ← required "end_time" Json.int64?
    let events ← required "events" (Json.list? TraceEvent.ofJson?)
    let passed ← required "passed" Json.bool?
    let failureIndex ← FieldReader.optional "failure_index" Json.nat64?
    return { id, domain, behavior, startTime, endTime, events, passed, failureIndex }

def toJson (trace : Trace) : Json :=
  .object
    ([("id", .text trace.id.write), ("domain", .text trace.domain),
      ("behavior", .text trace.behavior), ("start_time", .integer trace.startTime.toInt),
      ("end_time", .integer trace.endTime.toInt),
      ("events", .array (trace.events.map TraceEvent.toJson)),
      ("passed", .bool trace.passed)] ++
      Json.entryOfOption "failure_index" (fun position => .integer (position : Nat))
        trace.failureIndex)

def write (trace : Trace) : String :=
  trace.toJson.pretty

end Trace

end BehaviorContract
