import BehaviorContract.Domain.Basic
import BehaviorContract.Text.Basic

namespace BehaviorContract

inductive Fault where
  | duplicateEntity (name : String)
  | duplicateBehavior (name : String)
  | undeclaredError (behavior code : String)
  | invalidBlockName (name : String)
  | duplicateBlock (name : String)
  deriving DecidableEq

def Fault.message : Fault → String
  | .duplicateEntity name => s!"duplicate entity '{name}'"
  | .duplicateBehavior name => s!"duplicate behavior '{name}'"
  | .undeclaredError behavior code =>
      s!"behavior '{behavior}' has a postcondition block for undeclared error '{code}'"
  | .invalidBlockName name => s!"invalid invariant block name '{name}'"
  | .duplicateBlock name => s!"duplicate invariant block '{name}'"

def isReservedBlockName (name : String) : Bool :=
  name == "behavior" || name == "precondition" || Text.startsWith name "postcondition" ||
    Text.endsWith name "_invariant"

namespace Domain

def entityFault (seen : List String) : List Entity → Except Fault Unit
  | [] => .ok ()
  | entity :: rest =>
      if entity.name ∈ seen then .error (.duplicateEntity entity.name)
      else entityFault (entity.name :: seen) rest

def conditionFault (behavior : Behavior) : List PostconditionBlock → Except Fault Unit
  | [] => .ok ()
  | block :: rest =>
      match block.condition with
      | .named code =>
          if behavior.declares code then conditionFault behavior rest
          else .error (.undeclaredError behavior.name code)
      | .success | .anyError => conditionFault behavior rest

def behaviorFault (seen : List String) : List Behavior → Except Fault Unit
  | [] => .ok ()
  | behavior :: rest =>
      if behavior.name ∈ seen then .error (.duplicateBehavior behavior.name)
      else
        match conditionFault behavior behavior.postconditions with
        | .error fault => .error fault
        | .ok () => behaviorFault (behavior.name :: seen) rest

def blockFault (seen : List String) : List InvariantBlock → Except Fault Unit
  | [] => .ok ()
  | block :: rest =>
      if block.name = "" ∨ isReservedBlockName block.name then
        .error (.invalidBlockName block.name)
      else if block.name ∈ seen then .error (.duplicateBlock block.name)
      else blockFault (block.name :: seen) rest

/-- Accepts a well-formed domain, or gives its first fault: entities come first,
then behaviors, then blocks. -/
def validate (domain : Domain) : Except Fault Unit :=
  match entityFault [] domain.entities with
  | .error fault => .error fault
  | .ok () =>
      match behaviorFault [] domain.behaviors with
      | .error fault => .error fault
      | .ok () => blockFault [] domain.invariants

end Domain

end BehaviorContract
