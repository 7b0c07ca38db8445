import BehaviorContract.Calendar
import BehaviorContract.Store.Instance
import BehaviorContract.Text.Lowercase

/-! The store of instances. An operation gives its result and the store after
it; a failing operation leaves every instance as it was, although a refused
creation may have used up a generated id. -/

namespace BehaviorContract

inductive StoreError where
  | notFound (entity id : String)
  | duplicate (entity id : String)
  | unusableId (entity kind : String)
  | notAnObject (entity kind : String)
  deriving DecidableEq

def StoreError.message : StoreError → String
  | .notFound entity id => s!"{entity} '{id}' not found"
  | .duplicate entity id => s!"{entity} '{id}' already exists"
  | .unusableId entity kind =>
      s!"invalid {entity} instance: id must be a String or Integer, found {kind}"
  | .notAnObject entity kind =>
      s!"invalid {entity} instance: expected Object, found {kind}"

structure Store where
  instances : Instances
  lastId : UInt64

structure Snapshot where
  instances : Instances
  takenAt : Instant

namespace Store

def empty : Store :=
  ⟨∅, 0⟩

instance : Inhabited Store := ⟨empty⟩

def generatedId (entity : String) (number : UInt64) : String :=
  Text.lowercase entity ++ "-" ++ toString number.toNat

def place (store : Store) (entity id : String) (fields : Table Value) :
    Except StoreError Instance × Store :=
  let known := store.instances.ofEntity entity
  if known.contains id then (.error (.duplicate entity id), store)
  else
    let new : Instance := ⟨id, entity, fields⟩
    (.ok new,
      { store with instances := store.instances.insert entity (known.insert id new) })

/-- Creates an instance. Its id is its `id` field, or a generated one that
becomes its `id` field. -/
def create (store : Store) (entity : String) (fields : Table Value) :
    Except StoreError Instance × Store :=
  match fields.get? "id" with
  | some (.text id) => store.place entity id fields
  | some (.integer id) => store.place entity (toString id.toInt) fields
  | some other => (.error (.unusableId entity other.kind), store)
  | none =>
      let number := store.lastId + 1
      let id := generatedId entity number
      { store with lastId := number }.place entity id (fields.insert "id" (.text id))

def insertValue (store : Store) (entity : String) :
    Value → Except StoreError Instance × Store
  | .object fields => store.create entity fields
  | other => (.error (.notAnObject entity other.kind), store)

def changedFields (fields changes : Table Value) : Table Value :=
  changes.toList.foldl (fun fields (key, value) =>
    if key = "id" then fields else fields.insert key value) fields

def update (store : Store) (entity id : String) (changes : Table Value) :
    Except StoreError Instance × Store :=
  let known := store.instances.ofEntity entity
  match known.get? id with
  | none => (.error (.notFound entity id), store)
  | some old =>
      let new := { old with fields := changedFields old.fields changes }
      (.ok new,
        { store with instances := store.instances.insert entity (known.insert id new) })

def delete (store : Store) (entity id : String) : Except StoreError Instance × Store :=
  let known := store.instances.ofEntity entity
  match known.get? id with
  | none => (.error (.notFound entity id), store)
  | some old =>
      (.ok old,
        { store with instances := store.instances.insert entity (known.erase id) })

def entityNames (store : Store) : List String :=
  store.instances.keys

def snapshot (store : Store) (now : Instant) : Snapshot :=
  ⟨store.instances, now⟩

/-- Goes back to the instances of a snapshot. Generated ids go on from where they are. -/
def restore (store : Store) (snapshot : Snapshot) : Store :=
  { store with instances := snapshot.instances }

end Store

end BehaviorContract
