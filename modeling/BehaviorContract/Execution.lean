import BehaviorContract.Clause.Outcome
import BehaviorContract.Json.Record
import BehaviorContract.Value.Json

namespace BehaviorContract

open FieldReader

structure ExecutionError where
  code : String
  message : String
  retriable : Bool := false

structure Execution where
  success : Bool
  result : Option Value := none
  error : Option ExecutionError := none
  milliseconds : Float := 0
  logs : List String := []

namespace ExecutionError

def toValue (error : ExecutionError) : Value :=
  .ofFields [("code", .text error.code), ("message", .text error.message),
    ("retriable", .bool error.retriable)]

def ofJson? : Json → Option ExecutionError :=
  Json.decodeRecord do
    let code ← required "code" Json.text?
    let message ← required "message" Json.text?
    let retriable ← defaulted "retriable" false Json.bool?
    return { code, message, retriable }

def toJson (error : ExecutionError) : Json :=
  .object [("code", .text error.code), ("message", .text error.message),
    ("retriable", .bool error.retriable)]

end ExecutionError

namespace Execution

def ok (result : Value) : Execution :=
  { success := true, result := some result }

def failed (error : ExecutionError) : Execution :=
  { success := false, error := some error }

def withLog (execution : Execution) (line : String) : Execution :=
  { execution with logs := execution.logs ++ [line] }

def timedOut (timeoutMs : UInt64) : Execution :=
  let message := "execution exceeded " ++ toString timeoutMs.toNat ++ "ms timeout"
  failed { code := "timeout", message, retriable := true }

def unknownCode : String :=
  "UNKNOWN_ERROR"

/-- An execution with an error ends in that error, also if it says that it was
successful. -/
def outcome (execution : Execution) : Outcome :=
  match execution.error with
  | some error => .error (if error.code = "" then unknownCode else error.code)
  | none => if execution.success then .success else .error unknownCode

def ofJson? : Json → Option Execution :=
  Json.decodeRecord do
    let success ← required "success" Json.bool?
    let result ← FieldReader.optional "result" Value.ofJson?
    let error ← FieldReader.optional "error" ExecutionError.ofJson?
    let milliseconds ← defaulted "duration_ms" 0 Json.float?
    let logs ← defaulted "logs" [] (Json.list? Json.text?)
    return { success, result, error, milliseconds, logs }

def toJson (execution : Execution) : Json :=
  .object
    ([("success", .bool execution.success)] ++
      Json.entryOfOption "result" Value.toJson execution.result ++
      Json.entryOfOption "error" ExecutionError.toJson execution.error ++
      [("duration_ms", .float execution.milliseconds),
        ("logs", .array (execution.logs.map .text))])

end Execution

end BehaviorContract
