import BehaviorContract.Clause.Json
import BehaviorContract.Trace.Json
import BehaviorContract.Trial.Input
import BehaviorContract.Verdict.Json

namespace BehaviorContract

open FieldReader

structure Timing where
  total : Float := 0
  preconditions : Float := 0
  execution : Float := 0
  postconditions : Float := 0
  invariants : Float := 0

namespace Timing

def ofJson? : Json → Option Timing :=
  Json.decodeRecord do
    let total ← required "total_ms" Json.float?
    let preconditions ← required "precondition_ms" Json.float?
    let execution ← required "execution_ms" Json.float?
    let postconditions ← required "postcondition_ms" Json.float?
    let invariants ← required "invariant_ms" Json.float?
    return { total, preconditions, execution, postconditions, invariants }

def toJson (timing : Timing) : Json :=
  .object [("total_ms", .float timing.total),
    ("precondition_ms", .float timing.preconditions),
    ("execution_ms", .float timing.execution),
    ("postcondition_ms", .float timing.postconditions),
    ("invariant_ms", .float timing.invariants)]

end Timing

structure TrialResult where
  id : Uuid
  success : Bool
  verdict : Verdict
  score : UInt8
  behavior : String
  input : Input
  preconditions : List Check
  postconditions : List Check
  invariants : List Check
  execution : Execution
  outcome : Outcome
  coverage : Coverage
  timing : Timing
  fingerprint : String
  trace : Option Trace

namespace TrialResult

def checks (result : TrialResult) : List Check :=
  result.preconditions ++ result.postconditions ++ result.invariants

def failedChecks (result : TrialResult) : List Check :=
  result.checks.filter (!·.passed)

def check? (result : TrialResult) (name : String) : Option Check :=
  result.checks.find? (·.name == name)

def ofJson? : Json → Option TrialResult :=
  Json.decodeRecord do
    let id ← required "trial_id" fun json => json.text?.bind Uuid.read?
    let success ← required "success" Json.bool?
    let verdict ← required "verdict" Verdict.ofJson?
    let score ← required "score" Json.uint8?
    let behavior ← required "behavior" Json.text?
    let input ← required "input" Input.ofJson?
    let preconditions ← required "preconditions" (Json.list? Check.ofJson?)
    let postconditions ← required "postconditions" (Json.list? Check.ofJson?)
    let invariants ← required "invariants" (Json.list? Check.ofJson?)
    let execution ← required "execution" Execution.ofJson?
    let outcome ← required "outcome" Outcome.ofJson?
    let coverage ← required "coverage" Coverage.ofJson?
    let timing ← required "timing" Timing.ofJson?
    let fingerprint ← required "spec_fingerprint" Json.text?
    let trace ← FieldReader.optional "trace" Trace.ofJson?
    return {
      id
      success
      verdict
      score
      behavior
      input
      preconditions
      postconditions
      invariants
      execution
      outcome
      coverage
      timing
      fingerprint
      trace }

def toJson (result : TrialResult) : Json :=
  .object
    ([("trial_id", .text result.id.write), ("success", .bool result.success),
      ("verdict", result.verdict.toJson), ("score", .integer result.score.toNat),
      ("behavior", .text result.behavior), ("input", result.input.toJson),
      ("preconditions", .array (result.preconditions.map Check.toJson)),
      ("postconditions", .array (result.postconditions.map Check.toJson)),
      ("invariants", .array (result.invariants.map Check.toJson)),
      ("execution", result.execution.toJson), ("outcome", result.outcome.toJson),
      ("coverage", result.coverage.toJson), ("timing", result.timing.toJson),
      ("spec_fingerprint", .text result.fingerprint)] ++
      Json.entryOfOption "trace" Trace.toJson result.trace)

end TrialResult

end BehaviorContract
