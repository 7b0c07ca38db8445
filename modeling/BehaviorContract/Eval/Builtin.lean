import BehaviorContract.Eval.Operator

namespace BehaviorContract

namespace Value

def size (operator : String) : Value → Evaluated Int64
  | .text content => .ok (Int64.ofNat content.length)
  | .array items => .ok (Int64.ofNat items.length)
  | .object fields => .ok (Int64.ofNat fields.size)
  | other => .error (mismatch operator other other)

def callMethod (target : Value) (method : String)
    (arguments : List Value) : Evaluated Value :=
  match method, target, arguments with
  | "contains", .array items, [item] => .ok (.bool (items.any (·.looseEq item)))
  | "contains", .text content, [.text wanted] =>
      .ok (.bool (Text.contains content wanted))
  | "contains", .object fields, [.text key] => .ok (.bool (fields.contains key))
  | "is_empty", .null, [] => .ok (.bool true)
  | "is_empty", target, [] => do return .bool ((← target.size method) == 0)
  | "length", target, [] | "len", target, [] => do return .integer (← target.size method)
  | "starts_with", .text content, [.text wanted] =>
      .ok (.bool (Text.startsWith content wanted))
  | "ends_with", .text content, [.text wanted] =>
      .ok (.bool (Text.endsWith content wanted))
  | "contains", target, [argument]
  | "starts_with", target, [argument]
  | "ends_with", target, [argument] =>
      .error (mismatch method target argument)
  | "contains", _, _ | "starts_with", _, _ | "ends_with", _, _ =>
      .error (.arity method "1" arguments.length)
  | _, _, _ => .error (.unknownFunction (target.kind ++ "." ++ method))

def absolute : Value → Evaluated Value
  | .integer value => checked "abs" value.toInt.natAbs
  | .float value => .ok (.float value.abs)
  | other => .error (mismatch "abs" other other)

def select (function : String) (prefersSecond : Ordering → Bool)
    (first second : Value) : Evaluated Value :=
  match first.compare? second with
  | some order => .ok (if prefersSecond order then second else first)
  | none => .error (mismatch function first second)

end Value

inductive Builtin where
  | len
  | length
  | contains
  | isEmpty
  | abs
  | min
  | max
  deriving DecidableEq

namespace Builtin

def name : Builtin → String
  | .len => "len"
  | .length => "length"
  | .contains => "contains"
  | .isEmpty => "is_empty"
  | .abs => "abs"
  | .min => "min"
  | .max => "max"

def all : List Builtin :=
  [.len, .length, .contains, .isEmpty, .abs, .min, .max]

def ofName? (name : String) : Option Builtin :=
  all.find? (·.name == name)

def parameters : Builtin → Nat
  | .len | .length | .isEmpty | .abs => 1
  | .contains | .min | .max => 2

def apply (builtin : Builtin) (arguments : List Value) : Evaluated Value :=
  match builtin, arguments with
  | .len, [value] | .length, [value] => do return .integer (← value.size builtin.name)
  | .contains, [container, item] => container.callMethod "contains" [item]
  | .isEmpty, [value] => value.callMethod "is_empty" []
  | .abs, [value] => value.absolute
  | .min, [first, second] => Value.select builtin.name (· == .gt) first second
  | .max, [first, second] => Value.select builtin.name (· == .lt) first second
  | _, _ => .error (.arity builtin.name (toString builtin.parameters) arguments.length)

end Builtin

end BehaviorContract
