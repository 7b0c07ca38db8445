import BehaviorContract.Domain.Basic
import BehaviorContract.Eval.Error
import BehaviorContract.Store.Basic

namespace BehaviorContract

structure Context where
  domain : Domain
  instances : Instances
  before : Option Instances := none
  input : Value
  result : Option Value := none
  error : Option Value := none
  now : Instant
  scope : Table Value := ∅

namespace Context

def bind (context : Context) (name : String) (value : Value) : Context :=
  { context with scope := context.scope.insert name value }

/-- The value of a name: bound names come first, then the names of the trial,
then the fields of the input, and then those of the result. -/
def resolve? (context : Context) (name : String) : Option Value :=
  match context.scope.get? name with
  | some value => some value
  | none =>
      if name = "input" then some context.input
      else if name = "result" then some (context.result.getD .null)
      else if name = "error" then some (context.error.getD .null)
      else
        match context.input.get? name with
        | some value => some value
        | none => context.result.bind (·.get? name)

def resolve (context : Context) (name : String) : Evaluated Value :=
  match context.resolve? name with
  | some value => .ok value
  | none => .error (.unbound name)

def isBound (context : Context) (name : String) : Bool :=
  (context.resolve? name).isSome

def declares (context : Context) (entity : String) : Bool :=
  (context.domain.entity? entity).isSome

end Context

inductive Query where
  | exist
  | lookup
  | count
  | all
  deriving DecidableEq

namespace Query

def name : Query → String
  | .exist => "exists"
  | .lookup => "lookup"
  | .count => "count"
  | .all => "all"

def ofName? (name : String) : Option Query :=
  [exist, lookup, count, all].find? (·.name == name)

/-- The criteria of an argument: an object field by field, and any other value
as an id. -/
def criteria : Value → Table Value
  | .object fields => fields
  | other => (∅ : Table Value).insert "id" other

def answer (query : Query) (instances : Instances) (entity : String)
    (arguments : List Value) : Evaluated Value :=
  let function := entity ++ "." ++ query.name
  if arguments.length > 1 then .error (.arity function "0 or 1" arguments.length)
  else
    let wanted := (arguments.head?.map criteria).getD ∅
    match query with
    | .exist => .ok (.bool (instances.hasAny entity wanted))
    | .lookup => .ok (((instances.lookup? entity wanted).map Instance.toValue).getD .null)
    | .count => .ok (.integer (Int64.ofNat (instances.count entity wanted)))
    | .all =>
        if arguments.isEmpty then
          .ok (.array ((instances.all entity).map Instance.toValue))
        else .error (.arity function "0" arguments.length)

end Query

end BehaviorContract
