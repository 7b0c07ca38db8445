import BehaviorContract.Calendar
import BehaviorContract.Clause.Check
import BehaviorContract.Clause.Contract
import BehaviorContract.Clause.Json
import BehaviorContract.Clause.Names
import BehaviorContract.Clause.Outcome
import BehaviorContract.Table
import BehaviorContract.Decimal.Binary
import BehaviorContract.Decimal.Layout
import BehaviorContract.Decimal.Shortest
import BehaviorContract.Digest.Sha256
import BehaviorContract.Domain.Basic
import BehaviorContract.Domain.Fault
import BehaviorContract.Domain.Json
import BehaviorContract.Eval.Builtin
import BehaviorContract.Eval.Context
import BehaviorContract.Eval.Error
import BehaviorContract.Eval.Evaluate
import BehaviorContract.Eval.Operator
import BehaviorContract.Execution
import BehaviorContract.Expr.Basic
import BehaviorContract.Expr.Json
import BehaviorContract.Expr.Printer
import BehaviorContract.Failure
import BehaviorContract.Json.Basic
import BehaviorContract.Json.Document
import BehaviorContract.Json.Numeral
import BehaviorContract.Json.Printer
import BehaviorContract.Json.Reader
import BehaviorContract.Json.Record
import BehaviorContract.Json.Token
import BehaviorContract.Report.Format
import BehaviorContract.Report.Summary
import BehaviorContract.Settings
import BehaviorContract.Store.Basic
import BehaviorContract.Store.Change
import BehaviorContract.Store.Instance
import BehaviorContract.Store.Json
import BehaviorContract.Text.Basic
import BehaviorContract.Text.CaseRange
import BehaviorContract.Text.Lowercase
import BehaviorContract.Trace.Basic
import BehaviorContract.Trace.Json
import BehaviorContract.Trial.Batch
import BehaviorContract.Trial.Engine
import BehaviorContract.Trial.Input
import BehaviorContract.Trial.Mutation
import BehaviorContract.Trial.Result
import BehaviorContract.Uuid
import BehaviorContract.Value.Basic
import BehaviorContract.Value.Comparison
import BehaviorContract.Value.Json
import BehaviorContract.Verdict.Basic
import BehaviorContract.Verdict.Json
import BehaviorContract.Proofs.Clause.Contract
import BehaviorContract.Proofs.Trial.Verdict
import BehaviorContract.Proofs.Clause.Names
import BehaviorContract.Proofs.Clause.Labels
import BehaviorContract.Proofs.Domain.WellFormed
import BehaviorContract.Proofs.Trial.ClauseNames
import BehaviorContract.Proofs.Trial.Mutation
import BehaviorContract.Proofs.Clause.Dispatch
import BehaviorContract.Proofs.Eval.Old
import BehaviorContract.Proofs.Store.Refinement
import BehaviorContract.Proofs.Clause.Instance
import BehaviorContract.Proofs.Store.Identity
import BehaviorContract.Proofs.Clause.Count
import BehaviorContract.Proofs.Trial.Coverage
import BehaviorContract.Proofs.Trial.ErrorBinding
import BehaviorContract.Proofs.Store.Replay
import BehaviorContract.Proofs.Trial.Trace
import BehaviorContract.Proofs.Clause.Boundary
import BehaviorContract.Proofs.Json.Numeral
import BehaviorContract.Proofs.Json.Scan
import BehaviorContract.Proofs.Store.Freshness
import BehaviorContract.Proofs.Json.Depth
import BehaviorContract.Proofs.Json.Read
import BehaviorContract.Proofs.Json.Record
import BehaviorContract.Proofs.Value.Json
import BehaviorContract.Proofs.Expr.Json
import BehaviorContract.Proofs.Domain.Json
import BehaviorContract.Proofs.Domain.Load
import BehaviorContract.Proofs.Clause.Json
import BehaviorContract.Proofs.Trial.MutationJson
import BehaviorContract.Proofs.Clause.Renaming
import BehaviorContract.Proofs.Clause.Attribution
import BehaviorContract.Proofs.Clause.Reserved
import BehaviorContract.Proofs.Verdict.Monotone
import BehaviorContract.Proofs.Decimal.Whole
import BehaviorContract.Proofs.Eval.Arithmetic
import BehaviorContract.Proofs.Eval.FloatFree
import BehaviorContract.Proofs.Store.Diff
import BehaviorContract.Proofs.Clause.Separation
import BehaviorContract.Proofs.Clause.Substitution
import BehaviorContract.Proofs.Eval.Queries
import BehaviorContract.Proofs.Value.Equality
import BehaviorContract.Proofs.Eval.Strict
import BehaviorContract.Proofs.Eval.Membership
import BehaviorContract.Proofs.Expr.Reader
import BehaviorContract.Proofs.Expr.Printer
import BehaviorContract.Proofs.Text
import BehaviorContract.Proofs.Settings
import BehaviorContract.Proofs.Report.Summary
import BehaviorContract.Proofs.Report.Cells
import BehaviorContract.Proofs.Report.Markdown
