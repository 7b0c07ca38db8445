import BehaviorContract.Eval.Evaluate

namespace BehaviorContract

inductive ClauseKind where
  | precondition
  | postcondition
  | invariant
  deriving DecidableEq

def ClauseKind.text : ClauseKind → String
  | .precondition => "precondition"
  | .postcondition => "postcondition"
  | .invariant => "invariant"

def ClauseKind.select {α : Type}
    (precondition postcondition invariant : α) : ClauseKind → α
  | .precondition => precondition
  | .postcondition => postcondition
  | .invariant => invariant

structure Check where
  kind : ClauseKind
  name : String
  expression : String
  passed : Bool
  expected : Option Value := none
  actual : Option Value := none
  error : Option String := none
  milliseconds : Float := 0
  deriving BEq

structure Finding where
  passed : Bool
  expected : Option Value := none
  actual : Option Value := none

namespace Finding

def ofValue (value : Value) : Evaluated Finding :=
  match value with
  | .bool passed => .ok { passed, expected := some (.bool true), actual := some value }
  | _ => .error (.notBoolean value.kind)

end Finding

namespace Expr

/-- The truth of a clause. An implication whose left side is false holds, and
its right side is not looked at. A comparison keeps the values of both sides,
and every other clause is compared with true. -/
def examine (context : Context) : Expr → Evaluated Finding
  | .binary .implies left right => do
      if ← left.evaluateBool context then right.examine context
      else return { passed := true }
  | .binary op left right =>
      if op.isComparison then do
        let actual ← left.evaluate context
        let expected ← right.evaluate context
        let result ← op.apply actual expected
        return { passed := result.bool?.getD false, expected := some expected,
                 actual := some actual }
      else (Expr.binary op left right).evaluate context >>= Finding.ofValue
  | clause => clause.evaluate context >>= Finding.ofValue

end Expr

namespace Check

def ofClause (kind : ClauseKind) (name : String) (context : Context)
    (clause : Expr) : Check :=
  match clause.examine context with
  | .ok finding =>
      { kind, name, expression := clause.print, passed := finding.passed,
        expected := finding.expected,
        actual := finding.actual }
  | .error error =>
      { kind, name, expression := clause.print, passed := false,
        error := some error.message }

def sameOutcome (left right : Check) : Bool :=
  { left with milliseconds := 0 } == { right with milliseconds := 0 }

def reason? (check : Check) : Option String :=
  if check.passed then none
  else
    match check.error, check.expected, check.actual with
    | some error, _, _ => some ("error: " ++ error)
    | none, some expected, some actual =>
        some ("expected " ++ expected.display ++ ", actual " ++ actual.display)
    | _, _, _ => none

def display (check : Check) : String :=
  let mark := if check.passed then "✓" else "✗"
  let reason := (check.reason?.map fun reason => " (" ++ reason ++ ")").getD ""
  mark ++ " " ++ check.name ++ ": " ++ check.expression ++ reason

end Check

end BehaviorContract
