import BehaviorContract.Json.Record
import BehaviorContract.Value.Json

namespace BehaviorContract

open FieldReader

inductive InputCategory where
  | valid
  | boundary
  | invalid
  deriving DecidableEq

namespace InputCategory

def text : InputCategory → String
  | .valid => "valid"
  | .boundary => "boundary"
  | .invalid => "invalid"

def all : List InputCategory :=
  [.valid, .boundary, .invalid]

def ofJson? : Json → Option InputCategory :=
  Json.name? fun text => all.find? (·.text == text)

def toJson (category : InputCategory) : Json :=
  .text category.text

end InputCategory

structure Input where
  category : InputCategory
  name : String
  description : String := ""
  values : Value

namespace Input

def empty : Input :=
  { category := .valid, name := "default", values := .object ∅ }

def ofJson? : Json → Option Input :=
  Json.decodeRecord do
    let category ← required "category" InputCategory.ofJson?
    let name ← required "name" Json.text?
    let description ← defaulted "description" "" Json.text?
    let values ← required "values" Value.ofJson?
    return { category, name, description, values }

def toJson (input : Input) : Json :=
  .object [("category", input.category.toJson), ("name", .text input.name),
    ("description", .text input.description), ("values", input.values.toJson)]

end Input

end BehaviorContract
