import BehaviorContract.Value.Basic

namespace BehaviorContract

inductive UnaryOp where
  | not
  | negate
  deriving DecidableEq

inductive BinaryOp where
  | equal
  | notEqual
  | less
  | atMost
  | greater
  | atLeast
  | add
  | subtract
  | multiply
  | divide
  | remainder
  | and
  | or
  | implies
  | isIn
  deriving DecidableEq

namespace UnaryOp

def symbol : UnaryOp → String
  | .not => "not"
  | .negate => "-"

def all : List UnaryOp :=
  [.not, .negate]

def ofSymbol? (symbol : String) : Option UnaryOp :=
  all.find? (·.symbol == symbol)

end UnaryOp

namespace BinaryOp

def symbol : BinaryOp → String
  | .equal => "=="
  | .notEqual => "!="
  | .less => "<"
  | .atMost => "<="
  | .greater => ">"
  | .atLeast => ">="
  | .add => "+"
  | .subtract => "-"
  | .multiply => "*"
  | .divide => "/"
  | .remainder => "%"
  | .and => "and"
  | .or => "or"
  | .implies => "implies"
  | .isIn => "in"

def all : List BinaryOp :=
  [.equal, .notEqual, .less, .atMost, .greater, .atLeast, .add, .subtract, .multiply,
    .divide, .remainder, .and, .or, .implies, .isIn]

def ofSymbol? (symbol : String) : Option BinaryOp :=
  all.find? (·.symbol == symbol)

def isComparison : BinaryOp → Bool
  | .equal | .notEqual | .less | .atMost | .greater | .atLeast => true
  | _ => false

end BinaryOp

inductive Expr where
  | literal (value : Value)
  | identifier (name : String)
  | member (target : Expr) (property : String)
  | index (target : Expr) (position : Expr)
  | unary (op : UnaryOp) (operand : Expr)
  | binary (op : BinaryOp) (left : Expr) (right : Expr)
  | call (callee : Expr) (arguments : List Expr)
  | old (expression : Expr)
  | list (elements : List Expr)
  | object (fields : List (String × Expr))

namespace Expr

instance : Inhabited Expr := ⟨.literal .null⟩

def path (dotted : String) : Expr :=
  match dotted.splitOn "." with
  | [] => .identifier ""
  | name :: properties => properties.foldl .member (.identifier name)

def method (target : Expr) (name : String) (arguments : List Expr) : Expr :=
  .call (.member target name) arguments

def negated (operand : Expr) : Expr :=
  .unary .not operand

def equals : Expr → Expr → Expr :=
  .binary .equal

def notEquals : Expr → Expr → Expr :=
  .binary .notEqual

def lessThan : Expr → Expr → Expr :=
  .binary .less

def atMost : Expr → Expr → Expr :=
  .binary .atMost

def greaterThan : Expr → Expr → Expr :=
  .binary .greater

def atLeast : Expr → Expr → Expr :=
  .binary .atLeast

def plus : Expr → Expr → Expr :=
  .binary .add

def minus : Expr → Expr → Expr :=
  .binary .subtract

def and : Expr → Expr → Expr :=
  .binary .and

def or : Expr → Expr → Expr :=
  .binary .or

def implies : Expr → Expr → Expr :=
  .binary .implies

end Expr

end BehaviorContract
