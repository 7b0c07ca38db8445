import BehaviorContract.Store.Basic

namespace BehaviorContract

inductive ChangeKind where
  | created
  | updated
  | deleted
  deriving DecidableEq

def ChangeKind.text : ChangeKind → String
  | .created => "created"
  | .updated => "updated"
  | .deleted => "deleted"

structure Change where
  entity : String
  id : String
  kind : ChangeKind
  before : Option Value
  after : Option Value

namespace Instances

def fate (now : Instances) (entity id : String) (old : Instance) : List Change :=
  match now.find? entity id with
  | some new =>
      if new.strictEq old then []
      else [⟨entity, id, .updated, some old.toValue, some new.toValue⟩]
  | none => [⟨entity, id, .deleted, some old.toValue, none⟩]

/-- The instances that have been updated or deleted, by ascending entity and id. -/
def lost (before now : Instances) : List Change :=
  before.toList.flatMap fun (entity, known) => known.toList.flatMap fun (id, old) =>
    now.fate entity id old

def gained (before now : Instances) : List Change :=
  now.toList.flatMap fun (entity, known) => known.toList.flatMap fun (id, new) =>
    if (before.ofEntity entity).contains id then []
    else [⟨entity, id, .created, none, some new.toValue⟩]

end Instances

/-- The changes since a snapshot: first what was there before, then what is new. -/
def Store.diff (store : Store) (before : Snapshot) : List Change :=
  before.instances.lost store.instances ++ before.instances.gained store.instances

end BehaviorContract
