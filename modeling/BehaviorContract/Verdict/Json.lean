import BehaviorContract.Json.Record
import BehaviorContract.Verdict.Basic

namespace BehaviorContract

open FieldReader

namespace Verdict

def ofJson? : Json → Option Verdict :=
  Json.name? ofText?

def toJson (verdict : Verdict) : Json :=
  .text verdict.text

end Verdict

namespace Policy

def ofJson? : Json → Option Policy :=
  Json.decodeRecord do
    let riskyThreshold ← defaulted "risky_threshold" 70 Json.uint8?
    let vacuous ← defaulted "vacuous_verdict" .verified Verdict.ofJson?
    return { riskyThreshold, vacuous }

def toJson (policy : Policy) : Json :=
  .object [("risky_threshold", .integer policy.riskyThreshold.toNat),
    ("vacuous_verdict", policy.vacuous.toJson)]

end Policy

namespace Tally

def ofJson? : Json → Option Tally :=
  Json.decodeRecord do
    let declared ← required "total" Json.nat64?
    let checked ← required "checked" Json.nat64?
    let passed ← required "passed" Json.nat64?
    return { declared, checked, passed }

def toJson (tally : Tally) : Json :=
  .object [("total", .integer tally.declared), ("checked", .integer tally.checked),
    ("passed", .integer tally.passed)]

end Tally

namespace Coverage

def ofJson? : Json → Option Coverage :=
  Json.decodeRecord do
    let preconditions ← required "preconditions" Tally.ofJson?
    let postconditions ← required "postconditions" Tally.ofJson?
    let invariants ← required "invariants" Tally.ofJson?
    return { preconditions, postconditions, invariants }

def toJson (coverage : Coverage) : Json :=
  .object [("preconditions", coverage.preconditions.toJson),
    ("postconditions", coverage.postconditions.toJson),
    ("invariants", coverage.invariants.toJson)]

end Coverage

namespace Scoring

def ofJson? : Json → Option Scoring :=
  Json.decodeRecord do
    let success ← required "success" Json.bool?
    let verdict ← required "verdict" Verdict.ofJson?
    let score ← required "score" Json.uint8?
    let coverage ← required "coverage" Coverage.ofJson?
    return { success, verdict, score, coverage }

def toJson (scoring : Scoring) : Json :=
  .object [("success", .bool scoring.success), ("verdict", scoring.verdict.toJson),
    ("score", .integer scoring.score.toNat), ("coverage", scoring.coverage.toJson)]

end Scoring

end BehaviorContract
