import BehaviorContract.Proofs.Store.Refinement
import BehaviorContract.Proofs.Value.FloatFree
import BehaviorContract.Store.Json

/-! Replaying changes. A state is a document that shows the instances by entity
and id. The changes that are found since a snapshot, made one after the other in
the state of the snapshot, give the state of the store; all that can be left
over are entities without instances. -/

namespace BehaviorContract

namespace Value

mutual

theorem ofJson?_toJson_eq_toDocument :
    ∀ value : Value, Document.ofJson? value.toJson = some value.toDocument
  | .null => rfl
  | .bool _ => rfl
  | .integer _ => rfl
  | .float value => by
      rw [toJson, Json.float, toDocument]
      split
      · rfl
      · rfl
  | .text _ => rfl
  | .array items => by
      rw [toJson, Document.ofJson?, itemsOfJson?_itemsToJson_eq items, toDocument]
      rfl
  | .object fields => by
      rw [toJson, Document.ofJson?, entriesOfJson?_fieldsToJson_eq fields,
        Option.map_some, Table.ofList_toList, toDocument]

theorem itemsOfJson?_itemsToJson_eq :
    ∀ items : List Value,
      Document.itemsOfJson? (itemsToJson items) = some (itemsToDocument items)
  | [] => rfl
  | item :: rest => by
      rw [itemsToJson, Document.itemsOfJson?, ofJson?_toJson_eq_toDocument item,
        itemsOfJson?_itemsToJson_eq rest]
      rfl

theorem entriesOfJson?_fieldsToJson_eq :
    ∀ {bound : Option String} (fields : Entries Value bound),
      Document.entriesOfJson? (fieldsToJson fields) =
        some (fieldsToDocument fields).toList
  | _, .nil => rfl
  | _, .cons key _ value rest => by
      rw [fieldsToJson, Document.entriesOfJson?, ofJson?_toJson_eq_toDocument value,
        entriesOfJson?_fieldsToJson_eq rest]
      rfl

end

end Value

namespace Document

def fields : Document → Table Document
  | .object entries => entries
  | _ => ∅

def ofEntity (state : Document) (entity : String) : Table Document :=
  ((state.fields.get? entity).map fields).getD ∅

def find? (state : Document) (entity id : String) : Option Document :=
  (state.ofEntity entity).get? id

/-- Says that a state shows what is written for each of some instances. -/
def Shows (state : Document) (instances : Instances) : Prop :=
  ∀ entity id, state.find? entity id =
    (instances.find? entity id).bind fun self => ofJson? self.toValue.toJson

def isEmptyObject : Document → Bool
  | .object entries => entries.isEmpty
  | _ => false

/-- A state without the entities of which it shows no instance. -/
def pruned : Document → Document
  | .object entries => .object (entries.filter (!·.isEmptyObject))
  | other => other

def IsState (state : Document) : Prop :=
  ∃ entries, state = .object entries ∧ ∀ entity shown, entries.get? entity = some shown →
    ∃ known, shown = .object known

theorem filter_get?_of_isState {entries : Table Document}
    (objects : ∀ entity shown, entries.get? entity = some shown →
      ∃ known, shown = .object known) (entity : String) :
    (entries.get? entity).filter (!·.isEmptyObject) =
      if ((Document.object entries).ofEntity entity).isEmpty then none
      else some (.object ((Document.object entries).ofEntity entity)) := by
  unfold ofEntity fields
  cases found : entries.get? entity with
  | none => rfl
  | some shown =>
      obtain ⟨known, rfl⟩ := objects entity shown found
      cases empty : known.isEmpty with
      | true => simp [Option.filter, isEmptyObject, empty]
      | false => simp [Option.filter, isEmptyObject, empty]

theorem pruned_eq_of_find? {left right : Document} (leftState : left.IsState)
    (rightState : right.IsState)
    (same : ∀ entity id, left.find? entity id = right.find? entity id) :
    left.pruned = right.pruned := by
  obtain ⟨leftEntries, rfl, leftObjects⟩ := leftState
  obtain ⟨rightEntries, rfl, rightObjects⟩ := rightState
  simp only [pruned, object.injEq]
  apply Entries.ext_get?
  intro entity
  have sameKnown : (Document.object leftEntries).ofEntity entity =
      (Document.object rightEntries).ofEntity entity :=
    Entries.ext_get? (same entity)
  rw [Entries.get?_filter, Entries.get?_filter, filter_get?_of_isState leftObjects,
    filter_get?_of_isState rightObjects, sameKnown]

end Document

namespace Change

/-- What a change leaves of its instance: what is written for it. -/
def left? (change : Change) : Option Document :=
  match change.kind with
  | .created | .updated => change.after.bind fun value => Document.ofJson? value.toJson
  | .deleted => none

def replayIn (change : Change) (known : Table Document) : Table Document :=
  match change.left? with
  | some shown => known.insert change.id shown
  | none => known.erase change.id

theorem get?_replayIn (change : Change) (known : Table Document) (id : String) :
    (change.replayIn known).get? id =
      if change.id = id then change.left? else known.get? id := by
  unfold replayIn
  cases change.left? with
  | none => exact Entries.get?_erase ..
  | some shown => exact Entries.get?_insert ..

end Change

namespace Document

def replay (state : Document) (change : Change) : Document :=
  .object (state.fields.insert change.entity
    (.object (change.replayIn (state.ofEntity change.entity))))

theorem find?_replay (state : Document) (change : Change) (entity id : String) :
    (state.replay change).find? entity id =
      if change.entity = entity ∧ change.id = id then change.left?
      else state.find? entity id := by
  unfold find? replay
  rw [ofEntity, fields, Entries.get?_insert]
  by_cases sameEntity : change.entity = entity
  · subst sameEntity
    simp only [if_true, Option.map_some, Option.getD_some, fields,
      Change.get?_replayIn, true_and]
  · simp only [sameEntity, if_false, false_and]
    rfl

theorem isState_replay {state : Document} (isState : state.IsState) (change : Change) :
    (state.replay change).IsState := by
  obtain ⟨entries, rfl, objects⟩ := isState
  refine ⟨_, rfl, ?_⟩
  intro entity shown found
  rw [Entries.get?_insert] at found
  split at found
  · cases found
    exact ⟨_, rfl⟩
  · exact objects entity shown found

theorem isState_foldl_replay {state : Document} (isState : state.IsState)
    (changes : List Change) :
    (changes.foldl replay state).IsState := by
  induction changes generalizing state with
  | nil => exact isState
  | cons change rest induction => exact induction (isState_replay isState change)

theorem find?_foldl_replay {wanted : String → String → Option Document}
    {changes : List Change} (leaves : ∀ change ∈ changes,
      change.left? = wanted change.entity change.id) {state : Document}
    {entity id : String} (reached : state.find? entity id = wanted entity id ∨
      ∃ change ∈ changes, change.entity = entity ∧ change.id = id) :
    (changes.foldl replay state).find? entity id = wanted entity id := by
  induction changes generalizing state with
  | nil =>
      cases reached with
      | inl already => exact already
      | inr changed =>
          obtain ⟨change, member, -⟩ := changed
          cases member
  | cons change rest induction =>
      apply induction fun other member =>
        leaves other (List.mem_cons_of_mem change member)
      rw [find?_replay]
      by_cases here : change.entity = entity ∧ change.id = id
      · left
        rw [if_pos here, leaves change List.mem_cons_self, here.1, here.2]
      · rw [if_neg here]
        cases reached with
        | inl already => exact .inl already
        | inr changed =>
            obtain ⟨other, member, place⟩ := changed
            cases List.mem_cons.1 member with
            | inl same =>
                subst same
                exact absurd place here
            | inr later => exact .inr ⟨other, later, place⟩

end Document

theorem Instance.eq_of_strictEq {left right : Instance}
    (free : Value.fieldsFloatFree right.fields = true)
    (equal : left.strictEq right = true) : left = right := by
  rw [strictEq, Bool.and_eq_true, Bool.and_eq_true, beq_iff_eq, beq_iff_eq] at equal
  obtain ⟨⟨sameId, sameEntity⟩, sameFields⟩ := equal
  have fields : left.fields = right.fields := by
    apply Entries.toList_inj
    apply Entries.toList_eq_of_beqBy sameFields
    intro entry member other same
    exact Value.eq_of_equalBy (Value.floatFree_of_mem free member) same
  cases left
  cases right
  cases sameId
  cases sameEntity
  cases fields
  rfl

namespace Instances

theorem isState_toDocument (instances : Instances) : instances.toDocument.IsState := by
  refine ⟨_, rfl, ?_⟩
  intro entity shown found
  rw [Entries.get?_map, Option.map_eq_some_iff] at found
  obtain ⟨known, -, rfl⟩ := found
  exact ⟨_, rfl⟩

theorem find?_toDocument (instances : Instances) (entity id : String) :
    instances.toDocument.find? entity id =
      (instances.find? entity id).bind fun self =>
        Document.ofJson? self.toValue.toJson := by
  simp only [Value.ofJson?_toJson_eq_toDocument]
  unfold Document.find? Document.ofEntity toDocument find? ofEntity
  rw [Document.fields, Entries.get?_map]
  cases instances.get? entity with
  | none => rfl
  | some known => exact (Entries.get?_map ..).trans Option.map_eq_bind

theorem fate_of_absent {now : Instances} {entity id : String}
    (absent : now.find? entity id = none) (old : Instance) :
    now.fate entity id old = [⟨entity, id, .deleted, some old.toValue, none⟩] := by
  rw [fate, absent]

theorem fate_of_present {now : Instances} {entity id : String} {new : Instance}
    (present : now.find? entity id = some new) (old : Instance) :
    now.fate entity id old =
      if new.strictEq old then []
      else [⟨entity, id, .updated, some old.toValue, some new.toValue⟩] := by
  rw [fate, present]

section Changes

variable (before now : Instances)

theorem mem_lost_iff {change : Change} :
    change ∈ before.lost now ↔
      ∃ entity id old, before.find? entity id = some old ∧
        change ∈ now.fate entity id old := by
  simp only [lost, List.mem_flatMap, find?_eq_some_iff, Holds]
  constructor
  · intro lost
    obtain ⟨⟨entity, known⟩, inBefore, ⟨id, old⟩, inKnown, fated⟩ := lost
    exact ⟨entity, id, old, ⟨known, inBefore, inKnown⟩, fated⟩
  · intro lost
    obtain ⟨entity, id, old, ⟨known, inBefore, inKnown⟩, fated⟩ := lost
    exact ⟨(entity, known), inBefore, (id, old), inKnown, fated⟩

theorem mem_gained_iff {change : Change} :
    change ∈ before.gained now ↔
      ∃ entity id new, now.find? entity id = some new ∧ before.find? entity id = none ∧
        change = ⟨entity, id, .created, none, some new.toValue⟩ := by
  have absent : ∀ entity id, (before.ofEntity entity).contains id = true ↔
      before.find? entity id ≠ none :=
    fun entity id => Option.isSome_iff_ne_none
  simp only [gained, List.mem_flatMap, find?_eq_some_iff now, Holds]
  constructor
  · intro gained
    obtain ⟨⟨entity, known⟩, inNow, ⟨id, new⟩, inKnown, created⟩ := gained
    split at created
    · cases created
    · rename_i isNew
      rw [absent, Classical.not_not] at isNew
      exact ⟨entity, id, new, ⟨known, inNow, inKnown⟩, isNew,
        List.mem_singleton.1 created⟩
  · intro gained
    obtain ⟨entity, id, new, ⟨known, inNow, inKnown⟩, isNew, created⟩ := gained
    refine ⟨(entity, known), inNow, (id, new), inKnown, ?_⟩
    rw [if_neg (by rw [absent, Classical.not_not]; exact isNew)]
    exact List.mem_singleton.2 created

end Changes

def floatFree (instances : Instances) : Bool :=
  instances.values.all fun known => known.values.all fun self =>
    Value.fieldsFloatFree self.fields

theorem fieldsFloatFree_of_find? {instances : Instances}
    (free : instances.floatFree = true) {entity id : String} {self : Instance}
    (found : instances.find? entity id = some self) :
    Value.fieldsFloatFree self.fields = true := by
  obtain ⟨known, inInstances, inKnown⟩ := (find?_eq_some_iff instances).1 found
  have freeKnown := List.all_eq_true.1 free known (List.mem_map_of_mem inInstances)
  exact List.all_eq_true.1 freeKnown self (List.mem_map_of_mem inKnown)

end Instances

namespace Store

variable (store : Store) (before : Snapshot)

theorem left?_of_mem_diff {change : Change} (member : change ∈ store.diff before) :
    change.left? = store.instances.toDocument.find? change.entity change.id := by
  rw [Instances.find?_toDocument]
  cases List.mem_append.1 member with
  | inl lost =>
      obtain ⟨entity, id, old, -, fated⟩ := (Instances.mem_lost_iff _ _).1 lost
      cases now : store.instances.find? entity id with
      | none =>
          rw [Instances.fate_of_absent now, List.mem_singleton] at fated
          rw [fated, now]
          rfl
      | some new =>
          rw [Instances.fate_of_present now] at fated
          split at fated
          · cases fated
          · rw [List.mem_singleton.1 fated, now]
            rfl
  | inr gained =>
      obtain ⟨entity, id, new, now, -, created⟩ := (Instances.mem_gained_iff _ _).1 gained
      rw [created, now]
      rfl

theorem find?_eq_or_mem_diff (free : before.instances.floatFree = true)
    (entity id : String) :
    before.instances.find? entity id = store.instances.find? entity id ∨
      ∃ change ∈ store.diff before, change.entity = entity ∧ change.id = id := by
  cases old : before.instances.find? entity id with
  | none =>
      cases now : store.instances.find? entity id with
      | none => exact .inl rfl
      | some new =>
          have gained := (Instances.mem_gained_iff _ _).2 ⟨entity, id, new, now, old, rfl⟩
          exact .inr ⟨_, List.mem_append_right _ gained, rfl, rfl⟩
  | some self =>
      have lost {change : Change} (fated : change ∈ store.instances.fate entity id self) :
          change ∈ store.diff before :=
        List.mem_append_left _ ((Instances.mem_lost_iff _ _).2 ⟨entity, id,
          self, old, fated⟩)
      cases now : store.instances.find? entity id with
      | none =>
          rw [Instances.fate_of_absent now] at lost
          exact .inr ⟨_, lost List.mem_cons_self, rfl, rfl⟩
      | some new =>
          rw [Instances.fate_of_present now] at lost
          by_cases same : new.strictEq self = true
          · left
            rw [Instance.eq_of_strictEq
              (Instances.fieldsFloatFree_of_find? free old) same]
          · rw [if_neg same] at lost
            exact .inr ⟨_, lost List.mem_cons_self, rfl, rfl⟩

/-- The changes since a snapshot lead from what it shows to what the store shows. -/
theorem foldl_replay_diff (free : before.instances.floatFree = true) :
    ((store.diff before).foldl Document.replay before.instances.toDocument).pruned =
      store.instances.toDocument.pruned := by
  apply Document.pruned_eq_of_find?
  · exact Document.isState_foldl_replay before.instances.isState_toDocument _
  · exact store.instances.isState_toDocument
  · intro entity id
    apply Document.find?_foldl_replay fun change => store.left?_of_mem_diff before
    rw [Instances.find?_toDocument, Instances.find?_toDocument]
    exact (store.find?_eq_or_mem_diff before free entity id).imp_left fun same =>
      by rw [same]

end Store

end BehaviorContract
