import BehaviorContract.Json.Basic
import BehaviorContract.Table

namespace BehaviorContract

inductive Document where
  | null
  | bool (value : Bool)
  | number (value : Number)
  | text (content : String)
  | array (items : List Document)
  | object (entries : Entries Document none)

namespace Document

mutual

def ofJson? : Json → Option Document
  | .null => some .null
  | .bool value => some (.bool value)
  | .number value => some (.number value)
  | .text content => some (.text content)
  | .array items => (itemsOfJson? items).map .array
  | .object entries =>
      (entriesOfJson? entries).map fun entries => .object (Table.ofList entries)
  | .unreadable => none

def itemsOfJson? : List Json → Option (List Document)
  | [] => some []
  | item :: rest => do return (← ofJson? item) :: (← itemsOfJson? rest)

def entriesOfJson? : List (String × Json) → Option (List (String × Document))
  | [] => some []
  | (key, value) :: rest => do return (key, ← ofJson? value) :: (← entriesOfJson? rest)

end

mutual

def toJson : Document → Json
  | .null => .null
  | .bool value => .bool value
  | .number value => .number value
  | .text content => .text content
  | .array items => .array (itemsToJson items)
  | .object entries => .object (entriesToJson entries)

def itemsToJson : List Document → List Json
  | [] => []
  | item :: rest => item.toJson :: itemsToJson rest

def entriesToJson {bound : Option String} : Entries Document bound → List (String × Json)
  | .nil => []
  | .cons key _ value rest => (key, value.toJson) :: entriesToJson rest

end

end Document

end BehaviorContract
