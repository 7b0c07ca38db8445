import BehaviorContract.Expr.Basic

namespace BehaviorContract

/-- A double literal keeps a point or an exponent, so that it cannot be taken
for a whole number. -/
def Expr.literalDoubles : Decimal.Layout where
  positional := fun leading => -4 ≤ leading ∧ leading < 16
  whole := ".0"
  plus := ""
  tie := .up

def BinaryOp.precedence : BinaryOp → Nat
  | .implies => 1
  | .or => 2
  | .and => 3
  | .equal | .notEqual => 4
  | .less | .atMost | .greater | .atLeast | .isIn => 5
  | .add | .subtract => 6
  | .multiply | .divide | .remainder => 7

/-- The least precedence that a left operand needs to stand without parentheses.
Implications nest to the right. -/
def BinaryOp.leftPrecedence (op : BinaryOp) : Nat :=
  if op = .implies then op.precedence + 1 else op.precedence

def BinaryOp.rightPrecedence (op : BinaryOp) : Nat :=
  if op = .implies then op.precedence else op.precedence + 1

namespace Expr

def unaryPrecedence : Nat := 8

def primaryPrecedence : Nat := 9

def precedence : Expr → Nat
  | .binary op _ _ => op.precedence
  | .unary _ _ => unaryPrecedence
  | _ => primaryPrecedence

def escapeLiteral (c : Char) : List Char :=
  if c = '\\' ∨ c = '"' then ['\\', c] else [c]

def printLiteral : Value → String
  | .text content => "\"" ++ String.ofList (content.toList.flatMap escapeLiteral) ++ "\""
  | .float value => literalDoubles.write value
  | value => value.display

def parenthesized (needed : Bool) (text : String) : String :=
  if needed then "(" ++ text ++ ")" else text

mutual

def printAt (least : Nat) : Expr → String
  | .literal value => parenthesized (primaryPrecedence < least) (printLiteral value)
  | .identifier name => parenthesized (primaryPrecedence < least) name
  | .member target property =>
      parenthesized (primaryPrecedence < least)
        (printAt primaryPrecedence target ++ "." ++ property)
  | .index target position =>
      parenthesized (primaryPrecedence < least)
        (printAt primaryPrecedence target ++ "[" ++ printAt 0 position ++ "]")
  | .unary op operand =>
      parenthesized (unaryPrecedence < least)
        ((if op = .not then "not " else "-") ++ printAt unaryPrecedence operand)
  | .binary op left right =>
      parenthesized (op.precedence < least)
        (printAt op.leftPrecedence left ++ " " ++ op.symbol ++ " " ++
          printAt op.rightPrecedence right)
  | .call callee arguments =>
      parenthesized (primaryPrecedence < least)
        (printAt primaryPrecedence callee ++ "(" ++ printList arguments ++ ")")
  | .old expression =>
      parenthesized (primaryPrecedence < least) ("old(" ++ printAt 0 expression ++ ")")
  | .list elements =>
      parenthesized (primaryPrecedence < least) ("[" ++ printList elements ++ "]")
  | .object fields =>
      parenthesized (primaryPrecedence < least) ("\x7b" ++ printFields fields ++ "\x7d")

def printList : List Expr → String
  | [] => ""
  | [element] => printAt 0 element
  | element :: rest => printAt 0 element ++ ", " ++ printList rest

def printFields : List (String × Expr) → String
  | [] => ""
  | [(key, value)] => key ++ ": " ++ printAt 0 value
  | (key, value) :: rest => key ++ ": " ++ printAt 0 value ++ ", " ++ printFields rest

end

def print (expression : Expr) : String :=
  printAt 0 expression

end Expr

end BehaviorContract
