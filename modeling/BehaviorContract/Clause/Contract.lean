import BehaviorContract.Clause.Names
import BehaviorContract.Clause.Outcome
import BehaviorContract.Text.Lowercase

namespace BehaviorContract

def Check.ofClauses (kind : ClauseKind) (label : String) (context : Context)
    (clauses : List Expr) : List Check :=
  clauses.mapIdx fun position clause =>
    Check.ofClause kind (label ++ "_" ++ toString (position + 1)) context clause

/-- The state of the loop over postconditions: how many stood under each
condition, and their checks. -/
structure Numbering where
  counters : Table Nat := ∅
  checks : List Check := []

namespace Numbering

def check (context : Context) (condition : Condition) (state : Numbering)
    (clause : Expr) : Numbering :=
  let number := (state.counters.get? condition.text).getD 0 + 1
  let name := "postcondition_" ++ condition.text ++ "_" ++ toString number
  { counters := state.counters.insert condition.text number
    checks := state.checks ++ [Check.ofClause .postcondition name context clause] }

def checkBlock (context : Context) (outcome : Outcome) (state : Numbering)
    (block : PostconditionBlock) : Numbering :=
  if block.condition.isActive outcome then
    block.predicates.foldl (check context block.condition) state
  else state

end Numbering

namespace Behavior

def checkPreconditions (behavior : Behavior) (context : Context) : List Check :=
  Check.ofClauses .precondition "precondition" context behavior.preconditions

def checkPostconditions (behavior : Behavior) (context : Context) (outcome : Outcome) :
    List Check :=
  (behavior.postconditions.foldl (Numbering.checkBlock context outcome) {}).checks

def activePredicateCount (behavior : Behavior) (outcome : Outcome) : Nat :=
  sumOver (·.predicates.length)
    (behavior.postconditions.filter (·.condition.isActive outcome))

def checkInvariants (behavior : Behavior) (context : Context) : List Check :=
  Check.ofClauses .invariant "behavior" context behavior.invariants

end Behavior

namespace Domain

def checkInvariants (domain : Domain) (context : Context) : List Check :=
  domain.invariants.flatMap fun block =>
    Check.ofClauses .invariant block.name context block.predicates

/-- Checks the invariants of every entity for each of its instances, which is
bound to `this` and to the name of the entity in small letters. -/
def checkEntities (domain : Domain) (context : Context) : List Check :=
  domain.entities.flatMap fun entity =>
    if entity.invariants.isEmpty then []
    else
      (context.instances.all entity.name).flatMap fun self =>
        let inner :=
          (context.bind "this" self.toValue).bind
            (Text.lowercase entity.name) self.toValue
        Check.ofClauses .invariant (entity.name ++ "_" ++ self.id ++ "_invariant") inner
          entity.invariants

end Domain

namespace Behavior

def checkAllInvariants (behavior : Behavior) (context : Context) : List Check :=
  Check.withUniqueNames
    (behavior.checkInvariants context ++ context.domain.checkInvariants context ++
      context.domain.checkEntities context)

/-- How many invariants there are to check, counting those of an entity once for
each instance. -/
def invariantCount (behavior : Behavior) (context : Context) : Nat :=
  behavior.invariants.length + sumOver (·.predicates.length) context.domain.invariants +
    sumOver (fun entity => entity.invariants.length *
      (context.instances.all entity.name).length) context.domain.entities

end Behavior

end BehaviorContract
