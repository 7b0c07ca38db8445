import BehaviorContract.Eval.Builtin
import BehaviorContract.Eval.Context
import BehaviorContract.Expr.Printer

/-! The value of an expression in a context. Operands and arguments are
evaluated from left to right and the first error is the error of the whole; the
logical operators do not look at their right operand when the left one decides.
-/

namespace BehaviorContract.Expr

mutual

def evaluate (context : Context) : Expr → Evaluated Value
  | .literal value => .ok value
  | .identifier name => context.resolve name
  | .member target property => do (← evaluate context target).member property
  | .index target position => do
      let target ← evaluate context target
      let position ← evaluate context position
      target.atIndex position
  | .unary op operand => do op.apply (← evaluate context operand)
  | .binary .and left right => do
      if ← Value.expectBool .and (← evaluate context left) then
        return .bool (← Value.expectBool .and (← evaluate context right))
      else return .bool false
  | .binary .or left right => do
      if ← Value.expectBool .or (← evaluate context left) then return .bool true
      else return .bool (← Value.expectBool .or (← evaluate context right))
  | .binary .implies left right => do
      if ← Value.expectBool .implies (← evaluate context left) then
        return .bool (← Value.expectBool .implies (← evaluate context right))
      else return .bool true
  | .binary op left right => do
      let left ← evaluate context left
      let right ← evaluate context right
      op.apply left right
  | .call (.member (.identifier name) property) arguments =>
      match context.resolve? name with
      | some target => do target.callMethod property (← evaluateList context arguments)
      | none =>
          match Query.ofName? property with
          | some query =>
              if context.declares name then do
                query.answer context.instances name (← evaluateList context arguments)
              else .error (.unknownEntity name)
          | none =>
              if context.declares name then
                .error (.unknownFunction (name ++ "." ++ property))
              else .error (.unbound name)
  | .call (.member target property) arguments => do
      let target ← evaluate context target
      target.callMethod property (← evaluateList context arguments)
  | .call (.identifier "old") [expression] =>
      match context.before with
      | some instances => evaluate { context with instances } expression
      | none => .error .missingSnapshot
  | .call (.identifier "old") arguments => .error (.arity "old" "1" arguments.length)
  | .call (.identifier "now") arguments =>
      if arguments.isEmpty then .ok (.text context.now.toMilliseconds)
      else .error (.arity "now" "0" arguments.length)
  | .call (.identifier name) arguments =>
      match Builtin.ofName? name with
      | some builtin => do builtin.apply (← evaluateList context arguments)
      | none => .error (.unknownFunction name)
  | .call callee _ => .error (.unknownFunction callee.print)
  | .old expression =>
      match context.before with
      | some instances => evaluate { context with instances } expression
      | none => .error .missingSnapshot
  | .list elements => do return .array (← evaluateList context elements)
  | .object fields => do return .ofFields (← evaluateFields context fields)

def evaluateList (context : Context) : List Expr → Evaluated (List Value)
  | [] => .ok []
  | element :: rest => do
      let value ← evaluate context element
      let values ← evaluateList context rest
      return value :: values

def evaluateFields (context : Context) :
    List (String × Expr) → Evaluated (List (String × Value))
  | [] => .ok []
  | (key, expression) :: rest => do
      let value ← evaluate context expression
      let values ← evaluateFields context rest
      return (key, value) :: values

end

def evaluateBool (context : Context) (clause : Expr) : Evaluated Bool := do
  let value ← clause.evaluate context
  match value.bool? with
  | some value => .ok value
  | none => .error (.notBoolean value.kind)

end BehaviorContract.Expr
