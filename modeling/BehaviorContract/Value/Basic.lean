import BehaviorContract.Decimal.Layout
import BehaviorContract.Decimal.Binary
import BehaviorContract.Table

namespace BehaviorContract

inductive Value where
  | null
  | bool (value : Bool)
  | integer (value : Int64)
  | float (value : Float)
  | text (content : String)
  | array (items : List Value)
  | object (fields : Entries Value none)

namespace Value

instance : Inhabited Value := ⟨.null⟩

def ofFields (fields : List (String × Value)) : Value :=
  .object (Table.ofList fields)

def kind : Value → String
  | .null => "Null"
  | .bool _ => "Boolean"
  | .integer _ => "Integer"
  | .float _ => "Float"
  | .text _ => "String"
  | .array _ => "Array"
  | .object _ => "Object"

def isNull : Value → Bool
  | .null => true
  | _ => false

def bool? : Value → Option Bool
  | .bool value => some value
  | _ => none

def text? : Value → Option String
  | .text content => some content
  | _ => none

def float? : Value → Option Float
  | .integer value => some (Decimal.ofWhole value)
  | .float value => some value
  | _ => none

def get? : Value → String → Option Value
  | .object fields, key => fields.get? key
  | _, _ => none

def shownDoubles : Decimal.Layout where
  positional := fun _ => true
  whole := ""
  plus := ""
  tie := .up

mutual

/-- A value as reports show it. Texts stand between quotes as they are. -/
def display : Value → String
  | .null => "null"
  | .bool value => if value then "true" else "false"
  | .integer value => toString value.toInt
  | .float value => shownDoubles.write value
  | .text content => "\"" ++ content ++ "\""
  | .array items => "[" ++ displayItems items ++ "]"
  | .object fields => "\x7b" ++ displayFields fields ++ "\x7d"

def displayItems : List Value → String
  | [] => ""
  | [item] => item.display
  | item :: rest => item.display ++ ", " ++ displayItems rest

def displayFields {bound : Option String} : Entries Value bound → String
  | .nil => ""
  | .cons key _ value .nil => "\"" ++ key ++ "\": " ++ value.display
  | .cons key _ value rest =>
      "\"" ++ key ++ "\": " ++ value.display ++ ", " ++ displayFields rest

end

end Value

end BehaviorContract
