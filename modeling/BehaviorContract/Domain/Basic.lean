import BehaviorContract.Table
import BehaviorContract.Digest.Sha256
import BehaviorContract.Expr.Json
import BehaviorContract.Json.Printer

namespace BehaviorContract

structure Field where
  name : String
  type : String
  optional : Bool := false

structure Entity where
  name : String
  fields : List Field := []
  invariants : List Expr := []

structure ErrorSpec where
  name : String
  message : Option String := none
  retriable : Bool := false

/-- The outcomes that a block of postconditions speaks about. -/
inductive Condition where
  | success
  | anyError
  | named (code : String)
  deriving DecidableEq

structure PostconditionBlock where
  condition : Condition
  predicates : List Expr := []

structure Behavior where
  name : String
  description : Option String := none
  input : List Field := []
  output : Option String := none
  errors : List ErrorSpec := []
  preconditions : List Expr := []
  postconditions : List PostconditionBlock := []
  invariants : List Expr := []

structure InvariantBlock where
  name : String
  description : Option String := none
  predicates : List Expr := []

structure Domain where
  name : String
  version : String := ""
  entities : List Entity := []
  behaviors : List Behavior := []
  invariants : List InvariantBlock := []

namespace Condition

def text : Condition → String
  | .success => "success"
  | .anyError => "any_error"
  | .named code => code

def ofText (text : String) : Condition :=
  if text = "success" then .success
  else if text = "any_error" then .anyError
  else .named text

/-- Says that the condition admits an outcome, given by its text. -/
def appliesTo (condition : Condition) (outcome : String) : Bool :=
  match condition with
  | .success => outcome == "success"
  | .anyError => outcome != "success"
  | .named code => outcome == code

end Condition

namespace Behavior

def postconditionCount (behavior : Behavior) : Nat :=
  sumOver (·.predicates.length) behavior.postconditions

def declares (behavior : Behavior) (code : String) : Bool :=
  behavior.errors.any (·.name == code)

end Behavior

namespace Domain

def entity? (domain : Domain) (name : String) : Option Entity :=
  domain.entities.find? (·.name == name)

def behavior? (domain : Domain) (name : String) : Option Behavior :=
  domain.behaviors.find? (·.name == name)

end Domain

end BehaviorContract
