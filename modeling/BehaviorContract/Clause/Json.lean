import BehaviorContract.Clause.Check
import BehaviorContract.Json.Record
import BehaviorContract.Value.Json

namespace BehaviorContract

open FieldReader

namespace ClauseKind

def all : List ClauseKind :=
  [.precondition, .postcondition, .invariant]

def ofText? (text : String) : Option ClauseKind :=
  all.find? (·.text == text)

def ofJson? : Json → Option ClauseKind :=
  Json.name? ofText?

def toJson (kind : ClauseKind) : Json :=
  .text kind.text

end ClauseKind

namespace Check

def ofJson? : Json → Option Check :=
  Json.decodeRecord do
    let kind ← required "type" ClauseKind.ofJson?
    let name ← required "name" Json.text?
    let expression ← required "expression" Json.text?
    let passed ← required "passed" Json.bool?
    let expected ← FieldReader.optional "expected" Value.ofJson?
    let actual ← FieldReader.optional "actual" Value.ofJson?
    let error ← FieldReader.optional "error" Json.text?
    let milliseconds ← defaulted "duration_ms" 0 Json.float?
    return { kind, name, expression, passed, expected, actual, error, milliseconds }

def toJson (check : Check) : Json :=
  .object
    ([("type", check.kind.toJson), ("name", .text check.name),
      ("expression", .text check.expression), ("passed", .bool check.passed)] ++
      Json.entryOfOption "expected" Value.toJson check.expected ++
      Json.entryOfOption "actual" Value.toJson check.actual ++
      Json.entryOfOption "error" .text check.error ++
      [("duration_ms", .float check.milliseconds)])

end Check

end BehaviorContract
