import BehaviorContract.Json.Document
import BehaviorContract.Value.Basic

namespace BehaviorContract.Value

def ofNumber : Number → Value
  | .integer value =>
      if -9223372036854775808 ≤ value ∧ value ≤ 9223372036854775807 then
        .integer (Int64.ofInt value)
      else .float (Float.ofInt value)
  | .float value => .float value

mutual

def ofJson? : Json → Option Value
  | .null => some .null
  | .bool value => some (.bool value)
  | .number value => some (ofNumber value)
  | .text content => some (.text content)
  | .array items => (itemsOfJson? items).map .array
  | .object entries => (fieldsOfJson? entries).map ofFields
  | .unreadable => none

def itemsOfJson? : List Json → Option (List Value)
  | [] => some []
  | item :: rest => do return (← ofJson? item) :: (← itemsOfJson? rest)

def fieldsOfJson? : List (String × Json) → Option (List (String × Value))
  | [] => some []
  | (key, value) :: rest => do return (key, ← ofJson? value) :: (← fieldsOfJson? rest)

end

mutual

def toJson : Value → Json
  | .null => .null
  | .bool value => .bool value
  | .integer value => .integer value.toInt
  | .float value => .float value
  | .text content => .text content
  | .array items => .array (itemsToJson items)
  | .object fields => .object (fieldsToJson fields)

def itemsToJson : List Value → List Json
  | [] => []
  | item :: rest => item.toJson :: itemsToJson rest

def fieldsToJson {bound : Option String} : Entries Value bound → List (String × Json)
  | .nil => []
  | .cons key _ value rest => (key, value.toJson) :: fieldsToJson rest

end

mutual

/-- The document of a value. A double that is not finite has none, and null
stands for it. -/
def toDocument : Value → Document
  | .null => .null
  | .bool value => .bool value
  | .integer value => .number (.integer value.toInt)
  | .float value => if value.isFinite then .number (.float value) else .null
  | .text content => .text content
  | .array items => .array (itemsToDocument items)
  | .object fields => .object (fieldsToDocument fields)

def itemsToDocument : List Value → List Document
  | [] => []
  | item :: rest => item.toDocument :: itemsToDocument rest

def fieldsToDocument {bound : Option String} :
    Entries Value bound → Entries Document bound
  | .nil => .nil
  | .cons key follows value rest =>
      .cons key follows value.toDocument (fieldsToDocument rest)

end

end BehaviorContract.Value
