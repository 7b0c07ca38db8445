import BehaviorContract.Report.Summary
import BehaviorContract.Text.Lowercase

namespace BehaviorContract

inductive ReportFormat where
  | text
  | markdown
  | json
  | compact
  deriving DecidableEq

namespace ReportFormat

def ofName? (name : String) : Option ReportFormat :=
  match Text.lowercaseAscii name with
  | "text" | "txt" => some .text
  | "markdown" | "md" => some .markdown
  | "json" => some .json
  | "compact" => some .compact
  | _ => none

def unknownMessage (name : String) : String :=
  "unknown report format '" ++ Text.lowercaseAscii name ++ "'"

end ReportFormat

def unlines (lines : List String) : String :=
  String.join (lines.map (· ++ "\n"))

def Tally.ratio (tally : Tally) : String :=
  toString tally.passed ++ "/" ++ toString tally.checked

/-- A text as it may stand in a cell of a Markdown table: without bars that end
the cell and without line ends. -/
def escapeCell (text : String) : String :=
  String.ofList (text.toList.flatMap fun
    | '|' => ['\\', '|']
    | '\n' => [' ']
    | c => [c])

namespace Check

def detail (check : Check) : String :=
  match check.error, check.expected, check.actual with
  | some error, _, _ => escapeCell error
  | none, some expected, some actual =>
      if check.passed then ""
      else escapeCell ("expected " ++ expected.display ++ ", actual " ++ actual.display)
  | _, _, _ => ""

def row (check : Check) : String :=
  let status := if check.passed then "pass" else "FAIL"
  "| " ++ status ++ " | `" ++ check.name ++ "` | `" ++ escapeCell check.expression ++
    "` | " ++ check.detail ++ " |"

end Check

namespace TrialResult

def compact (result : TrialResult) : String :=
  let failed := result.failedChecks.map (·.name)
  result.behavior ++ "[" ++ result.input.name ++ "] " ++ result.verdict.text ++ " " ++
    toString result.score.toNat ++ " pre " ++ result.coverage.preconditions.ratio ++
    " post " ++ result.coverage.postconditions.ratio ++
    " inv " ++ result.coverage.invariants.ratio ++
    (if failed.isEmpty then "" else " failed: " ++ String.intercalate "," failed)

def sectionLines (title : String) (checks : List Check) (tally : Tally) : List String :=
  ["", title ++ " (" ++ tally.ratio ++ " passed, " ++ toString tally.declared ++
    " declared)"] ++
    (if checks.isEmpty then ["  (none evaluated)"] else checks.map ("  " ++ ·.display))

def text (result : TrialResult) : String :=
  let error :=
    match result.execution.error with
    | some error => ["Error: " ++ error.code ++ " - " ++ error.message]
    | none => []
  unlines
    (["Verification: " ++ result.behavior ++ " [" ++ result.input.name ++ "]",
      "Verdict: " ++ result.verdict.text.toUpper ++
        "  Score: " ++ toString result.score.toNat ++ "/100",
      "Outcome: " ++ result.outcome.text] ++ error ++
      sectionLines "Preconditions" result.preconditions result.coverage.preconditions ++
      sectionLines "Postconditions" result.postconditions
        result.coverage.postconditions ++
      sectionLines "Invariants" result.invariants result.coverage.invariants ++
      ["", "Timing: total " ++ Decimal.toPlaces 2 result.timing.total ++
        "ms (execution " ++ Decimal.toPlaces 2 result.timing.execution ++ "ms)"])

def markdown (result : TrialResult) : String :=
  unlines
    (["## " ++ result.behavior ++ " `" ++ result.input.name ++ "`", "",
      "- **Verdict:** " ++ result.verdict.text,
      "- **Score:** " ++ toString result.score.toNat ++ "/100",
      "- **Outcome:** `" ++ result.outcome.text ++ "`", "",
      "| Status | Clause | Expression | Detail |", "|---|---|---|---|"] ++
      result.checks.map Check.row)

def report (result : TrialResult) : ReportFormat → String
  | .text => result.text
  | .markdown => result.markdown
  | .json => result.toJson.pretty
  | .compact => result.compact

end TrialResult

namespace BatchSummary

def shownMean (summary : BatchSummary) : String :=
  Decimal.toPlaces 1 summary.meanScore

def verdicts (summary : BatchSummary) : String :=
  toString summary.verified ++ " verified, " ++ toString summary.risky ++ " risky, " ++
    toString summary.dangerous ++ " unsafe"

def compact (summary : BatchSummary) : String :=
  toString summary.trials ++ " trials: " ++ summary.verdicts ++ ", mean score " ++
    summary.shownMean

def text (summary : BatchSummary) (results : List TrialResult) : String :=
  let failing := summary.failingClauses.toList.map fun (name, count) =>
    "  " ++ name ++ " (" ++ toString count ++ "x)"
  unlines
    (["Batch: " ++ toString summary.trials ++ " trials, " ++ summary.verdicts ++
      " (mean score " ++ summary.shownMean ++ ")"] ++ results.map ("  " ++ ·.compact) ++
      (if failing.isEmpty then [] else "Failing clauses:" :: failing))

def markdown (summary : BatchSummary) (results : List TrialResult) : String :=
  let row (result : TrialResult) : String :=
    "| " ++ escapeCell result.behavior ++ " | " ++ escapeCell result.input.name ++
      " | " ++ result.verdict.text ++ " | " ++ toString result.score.toNat ++ " |"
  unlines
    (["## Verification batch", "", "| Behavior | Input | Verdict | Score |",
      "|---|---|---|---|"] ++ results.map row ++
      ["", "**" ++ toString summary.verified ++ "/" ++ toString summary.trials ++
        " verified**, mean score " ++ summary.shownMean])

end BatchSummary

def reportBatch (results : List TrialResult) (format : ReportFormat) : String :=
  let summary := BatchSummary.ofResults results
  match format with
  | .text => summary.text results
  | .markdown => summary.markdown results
  | .json =>
      (Json.object [("summary", summary.toJson),
        ("results", .array (results.map TrialResult.toJson))]).pretty
  | .compact => summary.compact

end BehaviorContract
