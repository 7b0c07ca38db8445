import BehaviorContract.Domain.Json

namespace BehaviorContract

inductive Outcome where
  | success
  | error (code : String)
  deriving DecidableEq

namespace Outcome

def text : Outcome → String
  | .success => "success"
  | .error code => code

def ofText (text : String) : Outcome :=
  if text = "success" then .success else .error text

def isSuccess : Outcome → Bool
  | .success => true
  | .error _ => false

def ofJson? (json : Json) : Option Outcome :=
  json.text?.map ofText

def toJson (outcome : Outcome) : Json :=
  .text outcome.text

end Outcome

def Condition.isActive (condition : Condition) (outcome : Outcome) : Bool :=
  condition.appliesTo outcome.text

end BehaviorContract
