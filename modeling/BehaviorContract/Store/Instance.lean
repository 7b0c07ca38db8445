import BehaviorContract.Table
import BehaviorContract.Value.Comparison

namespace BehaviorContract

structure Instance where
  id : String
  entity : String
  fields : Table Value

abbrev Instances := Table (Table Instance)

namespace Instance

/-- The fields as a value; an instance without an `id` field shows its id there. -/
def toValue (self : Instance) : Value :=
  .object (if self.fields.contains "id" then self.fields
    else self.fields.insert "id" (.text self.id))

/-- Says that the instance meets one criterion. A text or a whole number is
compared with the id itself; everything else is compared with the field. -/
def meets (self : Instance) (key : String) (expected : Value) : Bool :=
  let fieldMeets := (self.fields.get? key).any (·.looseEq expected)
  if key = "id" then
    match expected with
    | .text id => id == self.id
    | .integer id => toString id.toInt == self.id
    | _ => fieldMeets
  else fieldMeets

def satisfies (self : Instance) (criteria : Table Value) : Bool :=
  criteria.toList.all fun (key, expected) => self.meets key expected

def strictEq (left right : Instance) : Bool :=
  left.id == right.id && left.entity == right.entity &&
    left.fields.beqBy Value.strictEq right.fields

end Instance

namespace Instances

def ofEntity (instances : Instances) (entity : String) : Table Instance :=
  (instances.get? entity).getD ∅

def all (instances : Instances) (entity : String) : List Instance :=
  (instances.ofEntity entity).values

def find? (instances : Instances) (entity id : String) : Option Instance :=
  (instances.ofEntity entity).get? id

def lookup? (instances : Instances) (entity : String)
    (criteria : Table Value) : Option Instance :=
  (instances.all entity).find? (·.satisfies criteria)

def hasAny (instances : Instances) (entity : String) (criteria : Table Value) : Bool :=
  (instances.lookup? entity criteria).isSome

def count (instances : Instances) (entity : String) (criteria : Table Value) : Nat :=
  (instances.all entity).countP (·.satisfies criteria)

def total (instances : Instances) : Nat :=
  sumOver (·.size) instances.values

def strictEq (left right : Instances) : Bool :=
  left.beqBy (fun left right => left.beqBy Instance.strictEq right) right

end Instances

end BehaviorContract
