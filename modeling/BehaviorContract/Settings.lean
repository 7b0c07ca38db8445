import BehaviorContract.Json.Printer
import BehaviorContract.Json.Reader
import BehaviorContract.Text.Basic
import BehaviorContract.Verdict.Json

namespace BehaviorContract

open FieldReader

structure Settings where
  policy : Policy := {}
  timeoutMs : UInt64 := 30000
  checkPreconditions : Bool := true
  checkPostconditions : Bool := true
  checkInvariants : Bool := true
  recordTrace : Bool := false
  maxConcurrency : UInt64 := 8

inductive SettingsError where
  | unreadable
  | unparsable (key text : String)
  | thresholdTooHigh (threshold : UInt8)
  | noTimeout
  | noConcurrency
  deriving DecidableEq

def SettingsError.message : SettingsError → String
  | .unreadable => "unreadable settings"
  | .unparsable key text => key ++ ": cannot parse '" ++ text ++ "'"
  | .thresholdTooHigh threshold =>
      "risky_threshold must be within 0..=100, got " ++ toString threshold.toNat
  | .noTimeout => "timeout_ms must be greater than 0"
  | .noConcurrency => "max_concurrency must be greater than 0"

namespace Settings

def validate (settings : Settings) : Except SettingsError Unit :=
  if 100 < settings.policy.riskyThreshold then
    .error (.thresholdTooHigh settings.policy.riskyThreshold)
  else if settings.timeoutMs = 0 then .error .noTimeout
  else if settings.maxConcurrency = 0 then .error .noConcurrency
  else .ok ()

def ofJson? : Json → Option Settings :=
  Json.decodeRecord do
    let policy ← defaulted "policy" {} Policy.ofJson?
    let timeoutMs ← defaulted "timeout_ms" 30000 Json.uint64?
    let checkPreconditions ← defaulted "check_preconditions" true Json.bool?
    let checkPostconditions ← defaulted "check_postconditions" true Json.bool?
    let checkInvariants ← defaulted "check_invariants" true Json.bool?
    let recordTrace ← defaulted "record_trace" false Json.bool?
    let maxConcurrency ← defaulted "max_concurrency" 8 Json.uint64?
    return {
      policy
      timeoutMs
      checkPreconditions
      checkPostconditions
      checkInvariants
      recordTrace
      maxConcurrency }

def toJson (settings : Settings) : Json :=
  .object [("policy", settings.policy.toJson),
    ("timeout_ms", .integer settings.timeoutMs.toNat),
    ("check_preconditions", .bool settings.checkPreconditions),
    ("check_postconditions", .bool settings.checkPostconditions),
    ("check_invariants", .bool settings.checkInvariants),
    ("record_trace", .bool settings.recordTrace),
    ("max_concurrency", .integer settings.maxConcurrency.toNat)]

def parse (text : String) : Except SettingsError Settings := do
  let some settings := (Json.parse? text).bind ofJson? | throw .unreadable
  settings.validate
  return settings

def overrideNat? (bound : Nat) (text : String) : Option Nat :=
  Text.natBelow? bound (Text.trim text)

def overrideFlag? (text : String) : Option Bool :=
  let text := Text.trim text
  if text = "true" then some true
  else if text = "false" then some false
  else none

def overridden {α : Type} (lookup : String → Option String) (key : String)
    (parse : String → Option α) (old : α) :
    Except SettingsError α :=
  match lookup key with
  | none => .ok old
  | some text =>
      match parse text with
      | some value => .ok value
      | none => .error (.unparsable key text)

/-- Replaces what the overrides name. The result must break no rule. -/
def withOverrides (settings : Settings) (lookup : String → Option String) :
    Except SettingsError Settings := do
  let timeoutMs ← overridden lookup "ISL_VERIFY_TIMEOUT_MS"
    (fun text => (overrideNat? UInt64.size text).map UInt64.ofNat) settings.timeoutMs
  let riskyThreshold ← overridden lookup "ISL_VERIFY_RISKY_THRESHOLD"
    (fun text => (overrideNat? UInt8.size text).map UInt8.ofNat)
      settings.policy.riskyThreshold
  let maxConcurrency ← overridden lookup "ISL_VERIFY_MAX_CONCURRENCY"
    (fun text => (overrideNat? UInt64.size text).map UInt64.ofNat) settings.maxConcurrency
  let recordTrace ← overridden lookup "ISL_VERIFY_RECORD_TRACE" overrideFlag?
    settings.recordTrace
  let changed :=
    { settings with
      policy := { settings.policy with riskyThreshold }
      timeoutMs
      maxConcurrency
      recordTrace }
  changed.validate
  return changed

end Settings

end BehaviorContract
