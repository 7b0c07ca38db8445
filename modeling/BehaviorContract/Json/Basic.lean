namespace BehaviorContract

inductive Number where
  | integer (value : Int)
  | float (value : Float)

/-- A JSON value. A text can be grammatical and yet have no value: a number can
be beyond every double, an escape can name half a character, a container can
stand too deep. Such a part is `unreadable`. -/
inductive Json where
  | null
  | bool (value : Bool)
  | number (value : Number)
  | text (content : String)
  | array (items : List Json)
  | object (entries : List (String × Json))
  | unreadable

namespace Json

def integer (value : Int) : Json :=
  .number (.integer value)

/-- A double that is not finite has no number, and null is written for it. -/
def float (value : Float) : Json :=
  if value.isFinite then .number (.float value) else .null

def ofOption {α : Type} (encode : α → Json) : Option α → Json
  | none => .null
  | some value => encode value

def entryOfOption {α : Type} (key : String) (encode : α → Json) :
    Option α → List (String × Json)
  | none => []
  | some value => [(key, encode value)]

mutual

def readable : Json → Bool
  | .null | .bool _ | .number _ | .text _ => true
  | .array items => readableItems items
  | .object entries => readableEntries entries
  | .unreadable => false

def readableItems : List Json → Bool
  | [] => true
  | item :: rest => item.readable && readableItems rest

def readableEntries : List (String × Json) → Bool
  | [] => true
  | (_, value) :: rest => value.readable && readableEntries rest

end

mutual

def depth : Json → Nat
  | .array items => depthItems items + 1
  | .object entries => depthEntries entries + 1
  | .null | .bool _ | .number _ | .text _ | .unreadable => 0

def depthItems : List Json → Nat
  | [] => 0
  | item :: rest => max item.depth (depthItems rest)

def depthEntries : List (String × Json) → Nat
  | [] => 0
  | (_, value) :: rest => max value.depth (depthEntries rest)

end

def entriesAt (key : String) (entries : List (String × Json)) : List Json :=
  (entries.filter (·.1 == key)).map (·.2)

end Json

end BehaviorContract
