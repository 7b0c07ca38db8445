import BehaviorContract.Clause.Check

/-! Scores and verdicts. The score is the percentage of the evaluated clauses
that passed; the verdict says how far the trial can be trusted. Clauses that
were not evaluated count in neither. -/

namespace BehaviorContract

inductive Verdict where
  | verified
  | risky
  | dangerous
  deriving DecidableEq

namespace Verdict

def text : Verdict → String
  | .verified => "verified"
  | .risky => "risky"
  | .dangerous => "unsafe"

def ofText? (text : String) : Option Verdict :=
  [verified, risky, dangerous].find? (·.text == text)

def unknownMessage (text : String) : String :=
  "unknown verdict '" ++ text ++ "'"

end Verdict

/-- The percentage of `passed` out of `total`, with halves rounded up; out of
nothing, all have passed. -/
def score (passed total : Nat) : UInt8 :=
  if total = 0 then 100
  else
    let passed := UInt64.ofNat (min passed total)
    let total := UInt64.ofNat total
    ((200 * passed + total) / (2 * total)).toUInt8

structure Policy where
  /-- The least score of a trial with failures that is only risky. -/
  riskyThreshold : UInt8 := 70
  /-- The verdict on a trial in which no clause was evaluated. -/
  vacuous : Verdict := .verified

def Policy.classify (policy : Policy) (passed total : Nat) : Verdict :=
  if total = 0 then policy.vacuous
  else if total ≤ passed then .verified
  else if policy.riskyThreshold ≤ score passed total then .risky
  else .dangerous

structure Tally where
  declared : Nat
  checked : Nat
  passed : Nat

namespace Tally

def ofChecks (declared : Nat) (checks : List Check) : Tally where
  declared := declared
  checked := checks.length
  passed := checks.countP (·.passed)

def failed (tally : Tally) : Nat :=
  tally.checked - tally.passed

end Tally

structure Coverage where
  preconditions : Tally
  postconditions : Tally
  invariants : Tally

namespace Coverage

def sum (coverage : Coverage) (count : Tally → Nat) : Nat :=
  count coverage.preconditions + count coverage.postconditions + count coverage.invariants

def declared (coverage : Coverage) : Nat :=
  coverage.sum (·.declared)

def checked (coverage : Coverage) : Nat :=
  coverage.sum (·.checked)

def passed (coverage : Coverage) : Nat :=
  coverage.sum (·.passed)

end Coverage

structure Scoring where
  success : Bool
  verdict : Verdict
  score : UInt8
  coverage : Coverage

def Scoring.ofCoverage (policy : Policy) (coverage : Coverage) : Scoring :=
  let verdict := policy.classify coverage.passed coverage.checked
  { success := verdict = .verified, verdict,
    score := BehaviorContract.score coverage.passed coverage.checked,
    coverage }

def Scoring.ofChecks (policy : Policy) (declared : ClauseKind → Nat)
    (checks : ClauseKind → List Check) : Scoring :=
  .ofCoverage policy {
    preconditions := .ofChecks (declared .precondition) (checks .precondition)
    postconditions := .ofChecks (declared .postcondition) (checks .postcondition)
    invariants := .ofChecks (declared .invariant) (checks .invariant) }

end BehaviorContract
