import BehaviorContract.Trial.Result

namespace BehaviorContract

structure BatchSummary where
  trials : Nat
  verified : Nat
  risky : Nat
  dangerous : Nat
  meanScore : Float
  minScore : Option UInt8
  failingClauses : Table Nat

namespace BatchSummary

def tally (names : List String) : Table Nat :=
  names.foldl (fun counts name => counts.insert name ((counts.get? name).getD 0 + 1)) ∅

/-- The mean of scores; that of none is zero. -/
def mean (scores : List UInt8) : Float :=
  if scores.isEmpty then 0 else
    Float.ofNat (sumOver (·.toNat) scores) / Float.ofNat scores.length

def ofResults (results : List TrialResult) : BatchSummary :=
  let scores := results.map (·.score)
  { trials := results.length
    verified := results.countP (·.verdict == .verified)
    risky := results.countP (·.verdict == .risky)
    dangerous := results.countP (·.verdict == .dangerous)
    meanScore := mean scores
    minScore := scores.min?
    failingClauses := tally (results.flatMap fun result =>
      result.failedChecks.map (·.name)) }

def allVerified (summary : BatchSummary) : Bool :=
  summary.verified == summary.trials

def toJson (summary : BatchSummary) : Json :=
  .object [("trials", .integer summary.trials), ("verified", .integer summary.verified),
    ("risky", .integer summary.risky), ("unsafe", .integer summary.dangerous),
    ("mean_score", .float summary.meanScore),
    ("min_score", Json.ofOption (fun score => .integer score.toNat) summary.minScore),
    ("failing_clauses",
      Json.ofTable (fun count => .integer (count : Nat)) summary.failingClauses)]

end BatchSummary

end BehaviorContract
