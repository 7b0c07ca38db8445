import BehaviorContract.Json.Record
import BehaviorContract.Store.Change
import BehaviorContract.Value.Json

namespace BehaviorContract

open FieldReader

def Json.ofTable {α : Type} (encode : α → Json) (table : Table α) : Json :=
  .object (table.toList.map fun (key, value) => (key, encode value))

def Json.table? {α : Type} (decode : Json → Option α) : Json → Option (Table α)
  | .object entries =>
      (entries.mapM fun entry => (decode entry.2).map (entry.1, ·)).map Table.ofList
  | _ => none

namespace Instance

def ofJson? : Json → Option Instance :=
  Json.decodeRecord do
    let id ← required "id" Json.text?
    let entity ← required "entity" Json.text?
    let fields ← required "fields" (Json.table? Value.ofJson?)
    return { id, entity, fields }

def toJson (self : Instance) : Json :=
  .object [("id", .text self.id), ("entity", .text self.entity),
    ("fields", Json.ofTable Value.toJson self.fields)]

end Instance

namespace Instances

def toDocument (instances : Instances) : Document :=
  .object (instances.map fun known =>
    .object (known.map fun self => self.toValue.toDocument))

end Instances

namespace Snapshot

def ofJson? : Json → Option Snapshot :=
  Json.decodeRecord do
    let instances ← required "entities" (Json.table? (Json.table? Instance.ofJson?))
    let takenAt ← required "taken_at" fun json => json.text?.bind Instant.read?
    return { instances, takenAt }

def toJson (snapshot : Snapshot) : Json :=
  .object [("entities", Json.ofTable (Json.ofTable Instance.toJson) snapshot.instances),
    ("taken_at", .text snapshot.takenAt.write)]

end Snapshot

namespace ChangeKind

def all : List ChangeKind :=
  [.created, .updated, .deleted]

def ofText? (text : String) : Option ChangeKind :=
  all.find? (·.text == text)

end ChangeKind

namespace Change

def reader (decodeKind : Json → Option ChangeKind) : FieldReader Change := do
  let entity ← required "entity" Json.text?
  let id ← required "id" Json.text?
  let kind ← required "kind" decodeKind
  let before ← nullable "before" Value.ofJson?
  let after ← nullable "after" Value.ofJson?
  return { entity, id, kind, before, after }

def ofJson? : Json → Option Change :=
  Json.decodeRecord (reader (Json.name? ChangeKind.ofText?))

def toJson (change : Change) : Json :=
  .object [("entity", .text change.entity), ("id", .text change.id),
    ("kind", .text change.kind.text),
    ("before", Json.ofOption Value.toJson change.before),
    ("after", Json.ofOption Value.toJson change.after)]

end Change

end BehaviorContract
