import BehaviorContract.Decimal.Binary
import BehaviorContract.Eval.Error
import BehaviorContract.Expr.Basic
import BehaviorContract.Text.Basic
import BehaviorContract.Value.Comparison

namespace BehaviorContract

namespace Value

def mismatch (operator : String) (left right : Value) : EvalError :=
  .mismatch operator left.kind right.kind

/-- A member of an object; a member that is not there is null. Texts and arrays
have a length. -/
def member (target : Value) (property : String) : Evaluated Value :=
  match target with
  | .object fields => .ok ((fields.get? property).getD .null)
  | .text content =>
      if property = "length" then .ok (.integer (Int64.ofNat content.length))
      else .error (.noMember property target.kind)
  | .array items =>
      if property = "length" then .ok (.integer (Int64.ofNat items.length))
      else .error (.noMember property target.kind)
  | _ => .error (.noMember property target.kind)

def atIndex (target key : Value) : Evaluated Value :=
  match target, key with
  | .array items, .integer position =>
      .ok (if position < 0 then .null else (items[position.toInt.toNat]?).getD .null)
  | .object fields, .text key => .ok ((fields.get? key).getD .null)
  | _, _ => .error (mismatch "[]" target key)

def checked (operator : String) (result : Int) : Evaluated Value :=
  if -9223372036854775808 ≤ result ∧ result ≤ 9223372036854775807 then
    .ok (.integer (Int64.ofInt result))
  else .error (.overflow operator)

/-- The remainder of the quotient cut off towards zero; there is none where that
quotient does not fit. -/
def remainder? (left right : Int64) : Option Int64 :=
  if left = Int64.minValue ∧ right = -1 then none
  else some (Int64.ofInt (left.toInt.tmod right.toInt))

def expectBool (operator : BinaryOp) (value : Value) : Evaluated Bool :=
  match value.bool? with
  | some value => .ok value
  | none => .error (.mismatch operator.symbol value.kind "Boolean")

/-- Addition, subtraction and multiplication: exact on whole numbers, on doubles
if one number is a double. -/
def arithmetic (operator : BinaryOp) (whole : Int → Int → Int)
    (double : Float → Float → Float) (left right : Value) : Evaluated Value :=
  match left, right with
  | .integer left, .integer right =>
      checked operator.symbol (whole left.toInt right.toInt)
  | _, _ =>
      match left.float?, right.float? with
      | some left, some right => .ok (.float (double left right))
      | _, _ => .error (mismatch operator.symbol left right)

def floatQuotient (operator : BinaryOp) (double : Float → Float → Float)
    (left right : Value) : Evaluated Value :=
  match left.float?, right.float? with
  | some left, some right =>
      if right == 0 then .error .divisionByZero else .ok (.float (double left right))
  | _, _ => .error (mismatch operator.symbol left right)

/-- A quotient without remainder is whole; every other quotient is a double. -/
def divide (left right : Value) : Evaluated Value :=
  match left, right with
  | .integer dividend, .integer divisor =>
      if divisor = 0 then .error .divisionByZero
      else if remainder? dividend divisor = some 0 then
        checked BinaryOp.divide.symbol (dividend.toInt.tdiv divisor.toInt)
      else floatQuotient .divide (· / ·) left right
  | _, _ => floatQuotient .divide (· / ·) left right

def remainder (left right : Value) : Evaluated Value :=
  match left, right with
  | .integer dividend, .integer divisor =>
      if divisor = 0 then .error .divisionByZero
      else
        match remainder? dividend divisor with
        | some result => .ok (.integer result)
        | none => .error (.overflow BinaryOp.remainder.symbol)
  | _, _ => floatQuotient .remainder Decimal.remainder left right

def isIn (item container : Value) : Evaluated Value :=
  match item, container with
  | item, .array items => .ok (.bool (items.any (·.looseEq item)))
  | .text wanted, .text content => .ok (.bool (Text.contains content wanted))
  | .text key, .object fields => .ok (.bool (fields.contains key))
  | item, container => .error (mismatch BinaryOp.isIn.symbol item container)

def ordered (operator : BinaryOp) (holds : Ordering → Bool)
    (left right : Value) : Evaluated Value :=
  match left.compare? right with
  | some order => .ok (.bool (holds order))
  | none => .error (mismatch operator.symbol left right)

def logical (operator : BinaryOp) (combine : Bool → Bool → Bool) (left right : Value) :
    Evaluated Value := do
  let left ← expectBool operator left
  let right ← expectBool operator right
  return .bool (combine left right)

end Value

namespace UnaryOp

def apply (op : UnaryOp) (operand : Value) : Evaluated Value :=
  match op, operand with
  | .not, .bool value => .ok (.bool !value)
  | .negate, .integer value => Value.checked UnaryOp.negate.symbol (-value.toInt)
  | .negate, .float value => .ok (.float (-value))
  | op, operand => .error (.mismatch op.symbol operand.kind "-")

end UnaryOp

namespace BinaryOp

def apply (op : BinaryOp) (left right : Value) : Evaluated Value :=
  match op with
  | .equal => .ok (.bool (left.looseEq right))
  | .notEqual => .ok (.bool !(left.looseEq right))
  | .less => Value.ordered op (· == .lt) left right
  | .atMost => Value.ordered op (· != .gt) left right
  | .greater => Value.ordered op (· == .gt) left right
  | .atLeast => Value.ordered op (· != .lt) left right
  | .add =>
      match left, right with
      | .text left, .text right => .ok (.text (left ++ right))
      | .array left, .array right => .ok (.array (left ++ right))
      | left, right => Value.arithmetic op (· + ·) (· + ·) left right
  | .subtract => Value.arithmetic op (· - ·) (· - ·) left right
  | .multiply => Value.arithmetic op (· * ·) (· * ·) left right
  | .divide => left.divide right
  | .remainder => left.remainder right
  | .and => Value.logical op (· && ·) left right
  | .or => Value.logical op (· || ·) left right
  | .implies => Value.logical op (!· || ·) left right
  | .isIn => left.isIn right

end BinaryOp

end BehaviorContract
