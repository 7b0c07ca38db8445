import BehaviorContract.Expr.Basic
import BehaviorContract.Json.Record
import BehaviorContract.Value.Json

namespace BehaviorContract

def UnaryOp.ofJson? : Json → Option UnaryOp :=
  Json.name? UnaryOp.ofSymbol?

def UnaryOp.toJson (op : UnaryOp) : Json :=
  .text op.symbol

def BinaryOp.ofJson? : Json → Option BinaryOp :=
  Json.name? BinaryOp.ofSymbol?

def BinaryOp.toJson (op : BinaryOp) : Json :=
  .text op.symbol

namespace Expr

def kinds : List String :=
  ["literal", "identifier", "member", "index", "unary", "binary", "call", "old",
    "list", "object"]

def fieldOfJson? (decode : Json → Option Expr) : Json → Option (String × Expr) :=
  Json.decodeRecord do
    let key ← FieldReader.required "key" Json.text?
    let value ← FieldReader.required "value" decode
    return (key, value)

def fieldsOfKind (decode : Json → Option Expr) (kind : String) : FieldReader Expr :=
  match kind with
  | "literal" => return .literal (← FieldReader.required "value" Value.ofJson?)
  | "identifier" => return .identifier (← FieldReader.required "name" Json.text?)
  | "member" => do
      let target ← FieldReader.required "object" decode
      let property ← FieldReader.required "property" Json.text?
      return .member target property
  | "index" => do
      let target ← FieldReader.required "object" decode
      let position ← FieldReader.required "index" decode
      return .index target position
  | "unary" => do
      let op ← FieldReader.required "op" (Json.nameInside? UnaryOp.ofSymbol?)
      let operand ← FieldReader.required "operand" decode
      return .unary op operand
  | "binary" => do
      let op ← FieldReader.required "op" (Json.nameInside? BinaryOp.ofSymbol?)
      let left ← FieldReader.required "left" decode
      let right ← FieldReader.required "right" decode
      return .binary op left right
  | "call" => do
      let callee ← FieldReader.required "callee" decode
      let arguments ← FieldReader.defaulted "arguments" [] (Json.list? decode)
      return .call callee arguments
  | "old" => return .old (← FieldReader.required "expression" decode)
  | "list" => return .list (← FieldReader.required "elements" (Json.list? decode))
  | "object" =>
      return .object (← FieldReader.required "fields" (Json.list? (fieldOfJson? decode)))
  | _ => failure

/-- The reading of an expression of at most so many levels. Only inside an
expression may a kind be told by its position. -/
def ofJsonWithin? : (levels : Nat) → (inside : Bool) → Json → Option Expr
  | 0, _, _ => none
  | levels + 1, inside, json => do
      let (tag, record) ← json.record?.bind (Record.tagged? "kind")
      let kind ← tag.tag? kinds inside
      record.read? (fieldsOfKind (ofJsonWithin? levels true) kind)

/-- The expression that JSON writes. It has no more levels than the JSON has,
and every part must be readable, also one that no field asks for. -/
def ofJson? (json : Json) : Option Expr :=
  if json.readable then ofJsonWithin? json.depth false json else none

mutual

def toJson : Expr → Json
  | .literal value => .object [("kind", .text "literal"), ("value", value.toJson)]
  | .identifier name => .object [("kind", .text "identifier"), ("name", .text name)]
  | .member target property =>
      .object [("kind", .text "member"), ("object", target.toJson),
        ("property", .text property)]
  | .index target position =>
      .object [("kind", .text "index"), ("object", target.toJson),
        ("index", position.toJson)]
  | .unary op operand =>
      .object [("kind", .text "unary"), ("op", op.toJson), ("operand", operand.toJson)]
  | .binary op left right =>
      .object [("kind", .text "binary"), ("op", op.toJson), ("left", left.toJson),
        ("right", right.toJson)]
  | .call callee arguments =>
      .object [("kind", .text "call"), ("callee", callee.toJson),
        ("arguments", .array (listToJson arguments))]
  | .old expression => .object [("kind", .text "old"), ("expression", expression.toJson)]
  | .list elements =>
      .object [("kind", .text "list"), ("elements", .array (listToJson elements))]
  | .object fields =>
      .object [("kind", .text "object"), ("fields", .array (fieldsToJson fields))]

def listToJson : List Expr → List Json
  | [] => []
  | element :: rest => element.toJson :: listToJson rest

def fieldsToJson : List (String × Expr) → List Json
  | [] => []
  | (key, value) :: rest =>
      .object [("key", .text key), ("value", value.toJson)] :: fieldsToJson rest

end

end Expr

end BehaviorContract
