import BehaviorContract.Domain.Fault
import BehaviorContract.Json.Reader

namespace BehaviorContract

open FieldReader

namespace Field

def ofJson? : Json → Option Field :=
  Json.decodeRecord do
    let name ← required "name" Json.text?
    let type ← required "type" Json.text?
    let optional ← defaulted "optional" false Json.bool?
    return { name, type, optional }

def toJson (field : Field) : Json :=
  .object [("name", .text field.name), ("type", .text field.type),
    ("optional", .bool field.optional)]

end Field

namespace Entity

def ofJson? : Json → Option Entity :=
  Json.decodeRecord do
    let name ← required "name" Json.text?
    let fields ← defaulted "fields" [] (Json.list? Field.ofJson?)
    let invariants ← defaulted "invariants" [] (Json.list? Expr.ofJson?)
    return { name, fields, invariants }

def toJson (entity : Entity) : Json :=
  .object [("name", .text entity.name),
    ("fields", .array (entity.fields.map Field.toJson)),
    ("invariants", .array (entity.invariants.map Expr.toJson))]

end Entity

namespace ErrorSpec

def ofJson? : Json → Option ErrorSpec :=
  Json.decodeRecord do
    let name ← required "name" Json.text?
    let message ← FieldReader.optional "message" Json.text?
    let retriable ← defaulted "retriable" false Json.bool?
    return { name, message, retriable }

def toJson (error : ErrorSpec) : Json :=
  .object [("name", .text error.name), ("message", Json.ofOption .text error.message),
    ("retriable", .bool error.retriable)]

end ErrorSpec

namespace Condition

def ofJson? (json : Json) : Option Condition :=
  json.text?.map ofText

def toJson (condition : Condition) : Json :=
  .text condition.text

end Condition

namespace PostconditionBlock

def ofJson? : Json → Option PostconditionBlock :=
  Json.decodeRecord do
    let condition ← required "condition" Condition.ofJson?
    let predicates ← defaulted "predicates" [] (Json.list? Expr.ofJson?)
    return { condition, predicates }

def toJson (block : PostconditionBlock) : Json :=
  .object [("condition", block.condition.toJson),
    ("predicates", .array (block.predicates.map Expr.toJson))]

end PostconditionBlock

namespace Behavior

def ofJson? : Json → Option Behavior :=
  Json.decodeRecord do
    let name ← required "name" Json.text?
    let description ← FieldReader.optional "description" Json.text?
    let input ← defaulted "input" [] (Json.list? Field.ofJson?)
    let output ← FieldReader.optional "output" Json.text?
    let errors ← defaulted "errors" [] (Json.list? ErrorSpec.ofJson?)
    let preconditions ← defaulted "preconditions" [] (Json.list? Expr.ofJson?)
    let postconditions ← defaulted "postconditions" []
      (Json.list? PostconditionBlock.ofJson?)
    let invariants ← defaulted "invariants" [] (Json.list? Expr.ofJson?)
    return { name, description, input, output, errors, preconditions,
             postconditions, invariants }

def toJson (behavior : Behavior) : Json :=
  .object [("name", .text behavior.name),
    ("description", Json.ofOption .text behavior.description),
    ("input", .array (behavior.input.map Field.toJson)),
    ("output", Json.ofOption .text behavior.output),
    ("errors", .array (behavior.errors.map ErrorSpec.toJson)),
    ("preconditions", .array (behavior.preconditions.map Expr.toJson)),
    ("postconditions", .array (behavior.postconditions.map PostconditionBlock.toJson)),
    ("invariants", .array (behavior.invariants.map Expr.toJson))]

end Behavior

namespace InvariantBlock

def ofJson? : Json → Option InvariantBlock :=
  Json.decodeRecord do
    let name ← required "name" Json.text?
    let description ← FieldReader.optional "description" Json.text?
    let predicates ← defaulted "predicates" [] (Json.list? Expr.ofJson?)
    return { name, description, predicates }

def toJson (block : InvariantBlock) : Json :=
  .object [("name", .text block.name),
    ("description", Json.ofOption .text block.description),
    ("predicates", .array (block.predicates.map Expr.toJson))]

end InvariantBlock

namespace Domain

def ofJson? : Json → Option Domain :=
  Json.decodeRecord do
    let name ← required "name" Json.text?
    let version ← defaulted "version" "" Json.text?
    let entities ← defaulted "entities" [] (Json.list? Entity.ofJson?)
    let behaviors ← defaulted "behaviors" [] (Json.list? Behavior.ofJson?)
    let invariants ← defaulted "invariants" [] (Json.list? InvariantBlock.ofJson?)
    return { name, version, entities, behaviors, invariants }

def toJson (domain : Domain) : Json :=
  .object [("name", .text domain.name), ("version", .text domain.version),
    ("entities", .array (domain.entities.map Entity.toJson)),
    ("behaviors", .array (domain.behaviors.map Behavior.toJson)),
    ("invariants", .array (domain.invariants.map InvariantBlock.toJson))]

def fingerprint (domain : Domain) : String :=
  Digest.ofText domain.toJson.compact

end Domain

inductive DomainError where
  | unreadable
  | invalid (fault : Fault)
  deriving DecidableEq

def Domain.parse (text : String) : Except DomainError Domain :=
  match (Json.parse? text).bind ofJson? with
  | none => .error .unreadable
  | some domain =>
      match domain.validate with
      | .error fault => .error (.invalid fault)
      | .ok () => .ok domain

end BehaviorContract
