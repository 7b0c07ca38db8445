import BehaviorContract.Proofs.Table
import BehaviorContract.Store.Basic

/-! The store as a partial map from entity and id to instances. Every operation
says exactly when it fails, changes one place of the map when it succeeds and
none when it fails; the questions to a store are questions to the map. -/

namespace BehaviorContract

abbrev Places := String → String → Option Instance

def Places.set (places : Places) (entity id : String) (held : Option Instance) : Places :=
  fun otherEntity otherId => if otherEntity = entity ∧ otherId = id then held
    else places otherEntity otherId

namespace Instances

def Holds (instances : Instances) (entity id : String) (self : Instance) : Prop :=
  ∃ known, (entity, known) ∈ instances.toList ∧ (id, self) ∈ known.toList

/-- Says that every instance tells the entity and the id under which it is held. -/
def Labelled (instances : Instances) : Prop :=
  ∀ entity id self, instances.find? entity id = some self →
    self.entity = entity ∧ self.id = id

def pairs (instances : Instances) : List (String × String) :=
  instances.toList.flatMap fun entry => entry.2.keys.map (entry.1, ·)

theorem find?_eq_some_iff (instances : Instances) {entity id : String} {self : Instance} :
    instances.find? entity id = some self ↔ instances.Holds entity id self := by
  unfold find? ofEntity Holds
  simp only [← Entries.get?_eq_some_iff]
  cases instances.get? entity with
  | none => simp [EmptyCollection.emptyCollection, Entries.get?]
  | some known => simp

theorem mem_pairs_iff (instances : Instances) {entity id : String} :
    (entity, id) ∈ instances.pairs ↔ (instances.find? entity id).isSome := by
  simp only [Option.isSome_iff_exists, find?_eq_some_iff, Holds, pairs, Entries.keys,
    List.mem_flatMap, List.mem_map]
  constructor
  · rintro ⟨entry, member, key, ⟨known, inside, rfl⟩, same⟩
    cases same
    exact ⟨known.2, entry.2, member, inside⟩
  · rintro ⟨self, known, member, inside⟩
    exact ⟨(entity, known), member, id, ⟨(id, self), inside, rfl⟩, rfl⟩

theorem nodup_pairs (instances : Instances) : instances.pairs.Nodup := by
  unfold pairs List.Nodup
  rw [List.pairwise_flatMap]
  constructor
  · intro entry _
    rw [List.pairwise_map]
    refine entry.2.pairwise_keys.imp ?_
    intro first second less same
    exact String.ne_of_lt less (Prod.mk.inj same).2
  · refine instances.pairwise_toList.imp ?_
    intro first second less left inFirst right inSecond same
    obtain ⟨firstId, -, rfl⟩ := List.mem_map.1 inFirst
    obtain ⟨secondId, -, rfl⟩ := List.mem_map.1 inSecond
    exact String.ne_of_lt less (Prod.mk.inj same).1

theorem length_pairs (instances : Instances) :
    instances.pairs.length = instances.total := by
  unfold pairs total Entries.values
  induction instances.toList with
  | nil => rfl
  | cons entry rest induction =>
      rw [List.flatMap_cons, List.length_append, List.length_map, induction]
      simp [sumOver, Entries.keys, Entries.size]

theorem ofEntity_insert (instances : Instances) (entity other : String)
    (known : Table Instance) :
    ofEntity (instances.insert entity known) other =
      if entity = other then known else instances.ofEntity other := by
  unfold ofEntity
  rw [Entries.get?_insert]
  split
  · rfl
  · rfl

theorem find?_insert (instances : Instances) {entity id : String} {held : Option Instance}
    {known : Table Instance} (differs : ∀ other,
      known.get? other = if id = other then held else instances.find? entity other) :
    find? (instances.insert entity known) =
      Places.set instances.find? entity id held := by
  funext otherEntity otherId
  unfold Places.set
  rw [find?, ofEntity_insert]
  by_cases same : entity = otherEntity
  · subst same
    simp only [if_true, differs, true_and, eq_comm]
  · simp only [same, Ne.symm same, if_false, false_and]
    rfl

end Instances

namespace Value

/-- The id that a value stands for: a text itself, and a whole number in decimal
digits. -/
def asId? : Value → Option String
  | .text id => some id
  | .integer id => some (toString id.toInt)
  | _ => none

end Value

namespace Store

def put (store : Store) (entity id : String) (self : Instance) : Store :=
  { store with
    instances :=
      store.instances.insert entity ((store.instances.ofEntity entity).insert id self) }

def drop (store : Store) (entity id : String) : Store :=
  { store with
    instances :=
      store.instances.insert entity ((store.instances.ofEntity entity).erase id) }

@[simp] theorem find?_put (store : Store) (entity id : String) (self : Instance) :
    (store.put entity id self).instances.find? =
      Places.set store.instances.find? entity id (some self) :=
  store.instances.find?_insert fun other => Entries.get?_insert _ id self other

@[simp] theorem find?_drop (store : Store) (entity id : String) :
    (store.drop entity id).instances.find? =
      Places.set store.instances.find? entity id none :=
  store.instances.find?_insert fun other => Entries.get?_erase _ id other

@[simp] theorem lastId_put (store : Store) (entity id : String) (self : Instance) :
    (store.put entity id self).lastId = store.lastId := rfl

@[simp] theorem lastId_drop (store : Store) (entity id : String) :
    (store.drop entity id).lastId = store.lastId := rfl

private theorem get?_changeField (fields : Table Value) (changed : String) (value : Value)
    (key : String) :
    Entries.get? (if changed = "id" then fields else fields.insert changed value) key =
      if changed = key ∧ key ≠ "id" then some value else fields.get? key := by
  by_cases isId : changed = "id"
  · have never : ¬ (changed = key ∧ key ≠ "id") :=
      fun ⟨same, different⟩ => different (same ▸ isId)
    rw [if_pos isId, if_neg never]
  · rw [if_neg isId, Entries.get?_insert]
    by_cases same : changed = key
    · subst same
      simp [isId]
    · simp [same]

private theorem get?_foldl_changes {bound : Option String} (changes : Entries Value bound)
    (fields : Table Value) (key : String) :
    (changes.toList.foldl (fun fields (key, value) =>
      if key = "id" then fields else fields.insert key value)
      fields).get? key = if key = "id" then fields.get? key
        else (changes.get? key).or (fields.get? key) := by
  induction changes generalizing fields with
  | nil => simp [Entries.get?]
  | cons changed follows value rest induction =>
      simp only [Entries.toList_cons, List.foldl_cons, induction,
        get?_changeField, Entries.get?]
      by_cases isId : key = "id"
      · simp [isId]
      · by_cases same : changed = key
        · subst same
          -- The later keys are greater, so nothing overrides this change again.
          have once : rest.get? changed = none :=
            rest.get?_of_not_follows (String.lt_irrefl changed)
          simp [isId, once]
        · simp [isId, same]

theorem get?_changedFields (fields changes : Table Value) (key : String) :
    (changedFields fields changes).get? key =
      if key = "id" then fields.get? key else (changes.get? key).or (fields.get? key) :=
  get?_foldl_changes changes fields key

/-- The id that fields are created under: that of their `id` field, or the next
one of the entity if there is none. -/
def chosenId? (store : Store) (entity : String) (fields : Table Value) : Option String :=
  match fields.get? "id" with
  | some value => value.asId?
  | none => some (Text.lowercase entity ++ "-" ++ toString (store.lastId + 1).toNat)

def withId (fields : Table Value) (id : String) : Table Value :=
  if fields.contains "id" then fields else fields.insert "id" (.text id)

def afterChoice (store : Store) (fields : Table Value) : Store :=
  if fields.contains "id" then store else { store with lastId := store.lastId + 1 }

@[simp] theorem instances_afterChoice (store : Store) (fields : Table Value) :
    (store.afterChoice fields).instances = store.instances := by
  unfold afterChoice
  split
  · rfl
  · rfl

section Operations

variable (store : Store) {entity id : String}

theorem place_of_held (fields : Table Value)
    (held : store.instances.find? entity id ≠ none) :
    store.place entity id fields = (.error (.duplicate entity id), store) := by
  have known : (store.instances.ofEntity entity).contains id = true :=
    Option.isSome_iff_ne_none.2 held
  simp [place, known]

theorem place_of_free (fields : Table Value)
    (free : store.instances.find? entity id = none) :
    store.place entity id fields =
      (.ok ⟨id, entity, fields⟩, store.put entity id ⟨id, entity, fields⟩) := by
  have unknown : (store.instances.ofEntity entity).contains id = false := by
    rw [Entries.contains, Option.isSome_eq_false_iff, Option.isNone_iff_eq_none]
    exact free
  simp [place, unknown, put]

theorem create_of_chosen {fields : Table Value}
    (chosen : store.chosenId? entity fields = some id) :
    store.create entity fields =
      (store.afterChoice fields).place entity id (withId fields id) := by
  unfold chosenId? at chosen
  unfold create afterChoice withId Entries.contains
  cases found : fields.get? "id" with
  | none =>
      rw [found] at chosen
      cases chosen
      rfl
  | some value =>
      rw [found] at chosen
      cases value with
      | text content =>
          cases chosen
          rfl
      | integer number =>
          cases chosen
          rfl
      | _ => cases chosen

theorem create_of_not_chosen {fields : Table Value}
    (notChosen : store.chosenId? entity fields = none) :
    ∃ value, fields.get? "id" = some value ∧ value.asId? = none ∧
      store.create entity fields = (.error (.unusableId entity value.kind), store) := by
  unfold chosenId? at notChosen
  unfold create
  cases found : fields.get? "id" with
  | none =>
      rw [found] at notChosen
      cases notChosen
  | some value =>
      rw [found] at notChosen
      refine ⟨value, rfl, notChosen, ?_⟩
      cases value with
      | text content => cases notChosen
      | integer number => cases notChosen
      | _ => rfl

theorem create_of_held {fields : Table Value}
    (chosen : store.chosenId? entity fields = some id)
    (held : store.instances.find? entity id ≠ none) :
    store.create entity fields =
      (.error (.duplicate entity id), store.afterChoice fields) := by
  rw [store.create_of_chosen chosen, place_of_held]
  rw [instances_afterChoice]
  exact held

theorem create_of_free {fields : Table Value}
    (chosen : store.chosenId? entity fields = some id)
    (free : store.instances.find? entity id = none) :
    store.create entity fields = (.ok ⟨id, entity, withId fields id⟩,
      (store.afterChoice fields).put entity id ⟨id, entity, withId fields id⟩) := by
  rw [store.create_of_chosen chosen, place_of_free]
  rw [instances_afterChoice]
  exact free

theorem update_of_missing (changes : Table Value)
    (missing : store.instances.find? entity id = none) :
    store.update entity id changes = (.error (.notFound entity id), store) := by
  have unknown : (store.instances.ofEntity entity).get? id = none := missing
  simp only [update, unknown]

theorem update_of_held (changes : Table Value) {old : Instance}
    (held : store.instances.find? entity id = some old) :
    store.update entity id changes =
      (.ok { old with fields := changedFields old.fields changes },
      store.put entity id { old with fields := changedFields old.fields changes }) := by
  have known : (store.instances.ofEntity entity).get? id = some old := held
  simp only [update, known, put]

theorem delete_of_missing (missing : store.instances.find? entity id = none) :
    store.delete entity id = (.error (.notFound entity id), store) := by
  have unknown : (store.instances.ofEntity entity).get? id = none := missing
  simp only [delete, unknown]

theorem delete_of_held {old : Instance}
    (held : store.instances.find? entity id = some old) :
    store.delete entity id = (.ok old, store.drop entity id) := by
  have known : (store.instances.ofEntity entity).get? id = some old := held
  simp only [delete, known, drop]

theorem create_eq_unusableId_iff {fields : Table Value} {kind : String} :
    (store.create entity fields).1 = .error (.unusableId entity kind) ↔
      ∃ value, fields.get? "id" = some value ∧ value.asId? = none ∧
        value.kind = kind := by
  cases chosen : store.chosenId? entity fields with
  | none =>
      obtain ⟨value, found, unusable, created⟩ := store.create_of_not_chosen chosen
      simp [created, found, unusable]
  | some id =>
      have usable : ¬ ∃ value, fields.get? "id" = some value ∧ value.asId? = none ∧
          value.kind = kind := by
        rintro ⟨value, found, unusable, -⟩
        rw [chosenId?, found] at chosen
        exact Option.some_ne_none id (chosen.symm.trans unusable)
      cases held : store.instances.find? entity id with
      | none => simp [store.create_of_free chosen held, usable]
      | some old => simp [store.create_of_held chosen (by simp [held]), usable]

theorem create_eq_duplicate_iff {fields : Table Value} :
    (store.create entity fields).1 = .error (.duplicate entity id) ↔
      store.chosenId? entity fields = some id ∧
        store.instances.find? entity id ≠ none := by
  cases chosen : store.chosenId? entity fields with
  | none =>
      obtain ⟨value, -, -, created⟩ := store.create_of_not_chosen chosen
      simp [created]
  | some other =>
      cases held : store.instances.find? entity other with
      | none =>
          rw [store.create_of_free chosen held]
          constructor
          · intro failed
            cases failed
          · rintro ⟨same, taken⟩
            cases same
            exact absurd held taken
      | some old =>
          rw [store.create_of_held chosen (by simp [held])]
          constructor
          · intro failed
            cases failed
            exact ⟨rfl, by simp [held]⟩
          · rintro ⟨same, -⟩
            cases same
            rfl

theorem update_eq_notFound_iff {changes : Table Value} :
    (store.update entity id changes).1 = .error (.notFound entity id) ↔
      store.instances.find? entity id = none := by
  cases held : store.instances.find? entity id with
  | none => simp [store.update_of_missing changes held]
  | some old => simp [store.update_of_held changes held]

theorem delete_eq_notFound_iff :
    (store.delete entity id).1 = .error (.notFound entity id) ↔
      store.instances.find? entity id = none := by
  cases held : store.instances.find? entity id with
  | none => simp [store.delete_of_missing held]
  | some old => simp [store.delete_of_held held]

end Operations

/-- What an operation can do to a store. -/
inductive Effect (store : Store) : Except StoreError Instance × Store → Prop
  | failed {error : StoreError} {after : Store}
      (unchanged : after.instances = store.instances) :
      Effect store (.error error, after)
  | created {new : Instance} {after : Store}
      (changed : after.instances.find? =
        Places.set store.instances.find? new.entity new.id (some new)) :
      Effect store (.ok new, after)
  | updated {entity id : String} {old new : Instance} {after : Store}
      (held : store.instances.find? entity id = some old)
      (sameEntity : new.entity = old.entity)
      (sameId : new.id = old.id)
      (changed : after.instances.find? =
        Places.set store.instances.find? entity id (some new)) :
      Effect store (.ok new, after)
  | deleted {entity id : String} {old : Instance} {after : Store}
      (changed : after.instances.find? =
        Places.set store.instances.find? entity id none) :
      Effect store (.ok old, after)

theorem effect_create (store : Store) (entity : String) (fields : Table Value) :
    store.Effect (store.create entity fields) := by
  cases chosen : store.chosenId? entity fields with
  | none =>
      obtain ⟨value, -, -, created⟩ := store.create_of_not_chosen chosen
      rw [created]
      exact .failed rfl
  | some id =>
      cases held : store.instances.find? entity id with
      | none =>
          rw [store.create_of_free chosen held]
          apply Effect.created
          rw [find?_put, instances_afterChoice]
      | some old =>
          rw [store.create_of_held chosen (by simp [held])]
          exact .failed (store.instances_afterChoice fields)

theorem lastId_place (store : Store) (entity id : String) (fields : Table Value) :
    (store.place entity id fields).2.lastId = store.lastId := by
  cases held : store.instances.find? entity id with
  | none => rw [store.place_of_free fields held, lastId_put]
  | some old => rw [store.place_of_held fields (by simp [held])]

theorem lastId_create (store : Store) (entity : String) (fields : Table Value) :
    (store.create entity fields).2.lastId =
      if !fields.contains "id" then store.lastId + 1 else store.lastId := by
  cases chosen : store.chosenId? entity fields with
  | none =>
      obtain ⟨value, found, -, created⟩ := store.create_of_not_chosen chosen
      simp [created, Entries.contains, found]
  | some id =>
      rw [store.create_of_chosen chosen, lastId_place, afterChoice]
      cases fields.contains "id" with
      | false => rfl
      | true => rfl

end Store

inductive Operation where
  | create (entity : String) (fields : Table Value)
  | insertValue (entity : String) (value : Value)
  | update (entity id : String) (changes : Table Value)
  | delete (entity id : String)

namespace Operation

def apply : Operation → Store → Except StoreError Instance × Store
  | .create entity fields, store => store.create entity fields
  | .insertValue entity value, store => store.insertValue entity value
  | .update entity id changes, store => store.update entity id changes
  | .delete entity id, store => store.delete entity id

def generatesId : Operation → Bool
  | .create _ fields => !fields.contains "id"
  | .insertValue _ (.object fields) => !fields.contains "id"
  | _ => false

theorem effect_apply (operation : Operation) (store : Store) :
    store.Effect (operation.apply store) := by
  cases operation with
  | create entity fields => exact store.effect_create entity fields
  | insertValue entity value =>
      cases value with
      | object fields => exact store.effect_create entity fields
      | _ => exact .failed rfl
  | update entity id changes =>
      rw [apply]
      cases held : store.instances.find? entity id with
      | none =>
          rw [store.update_of_missing changes held]
          exact .failed rfl
      | some old =>
          rw [store.update_of_held changes held]
          exact .updated held rfl rfl (store.find?_put ..)
  | delete entity id =>
      rw [apply]
      cases held : store.instances.find? entity id with
      | none =>
          rw [store.delete_of_missing held]
          exact .failed rfl
      | some old =>
          rw [store.delete_of_held held]
          exact .deleted (store.find?_drop ..)

theorem instances_of_error (operation : Operation) (store : Store) {error : StoreError}
    (failed : (operation.apply store).1 = .error error) :
    (operation.apply store).2.instances = store.instances := by
  have effect := operation.effect_apply store
  generalize operation.apply store = result at effect failed
  cases effect with
  | failed unchanged => exact unchanged
  | created => cases failed
  | updated => cases failed
  | deleted => cases failed

theorem lastId_apply (operation : Operation) (store : Store) :
    (operation.apply store).2.lastId =
      if operation.generatesId then store.lastId + 1 else store.lastId := by
  cases operation with
  | create entity fields => exact store.lastId_create entity fields
  | insertValue entity value =>
      cases value with
      | object fields => exact store.lastId_create entity fields
      | _ => rfl
  | update entity id changes =>
      rw [apply]
      cases held : store.instances.find? entity id with
      | none => rw [store.update_of_missing changes held]; rfl
      | some old => rw [store.update_of_held changes held]; rfl
  | delete entity id =>
      rw [apply]
      cases held : store.instances.find? entity id with
      | none => rw [store.delete_of_missing held]; rfl
      | some old => rw [store.delete_of_held held]; rfl

end Operation

namespace Store

/-- The stores that operations lead to, together with going back to an earlier one. -/
inductive Reachable : Store → Prop
  | empty : Reachable .empty
  | apply {store : Store} (operation : Operation) (reachable : Reachable store) :
      Reachable (operation.apply store).2
  | restore {store earlier : Store} (now : Instant) (reachable : Reachable store)
      (known : Reachable earlier) :
      Reachable (store.restore (earlier.snapshot now))

theorem labelled_set {before after : Instances} {entity id : String}
    {held : Option Instance} (labelled : before.Labelled)
    (changed : after.find? = Places.set before.find? entity id held)
    (fits : ∀ self, held = some self → self.entity = entity ∧ self.id = id) :
    after.Labelled := by
  intro otherEntity otherId self found
  rw [changed, Places.set] at found
  split at found
  · rename_i same
    obtain ⟨rfl, rfl⟩ := same
    exact fits self found
  · exact labelled otherEntity otherId self found

theorem Effect.labelled {store : Store} {result : Except StoreError Instance × Store}
    (effect : store.Effect result)
    (labelled : store.instances.Labelled) : result.2.instances.Labelled := by
  cases effect with
  | failed unchanged =>
      rw [unchanged]
      exact labelled
  | created changed =>
      apply labelled_set labelled changed
      intro self same
      cases same
      exact ⟨rfl, rfl⟩
  | updated held sameEntity sameId changed =>
      apply labelled_set labelled changed
      intro self same
      cases same
      rw [sameEntity, sameId]
      exact labelled _ _ _ held
  | deleted changed =>
      apply labelled_set labelled changed
      intro self same
      cases same

theorem Reachable.labelled {store : Store}
    (reachable : store.Reachable) : store.instances.Labelled := by
  induction reachable with
  | empty =>
      intro entity id self found
      cases found
  | apply operation _ induction => exact (operation.effect_apply _).labelled induction
  | restore now _ _ _ induction => exact induction

/-- Says that the operations and questions of a store are those of the partial
map of its instances. -/
structure RefinesMap (store : Store) : Prop where
  create_invalid : ∀ entity fields kind,
    (store.create entity fields).1 = .error (.unusableId entity kind) ↔
    ∃ value, fields.get? "id" = some value ∧ value.asId? = none ∧ value.kind = kind
  create_duplicate : ∀ entity fields id,
    (store.create entity fields).1 = .error (.duplicate entity id) ↔
    store.chosenId? entity fields = some id ∧ store.instances.find? entity id ≠ none
  create_new : ∀ entity fields id, store.chosenId? entity fields = some id →
    store.instances.find? entity id = none →
      (store.create entity fields).1 = .ok ⟨id, entity, withId fields id⟩ ∧
        (store.create entity fields).2.instances.find? =
          Places.set store.instances.find? entity id (some ⟨id, entity, withId fields id⟩)
  insertValue_object : ∀ entity fields,
    store.insertValue entity (.object fields) = store.create entity fields
  insertValue_other : ∀ entity value, (∀ fields, value ≠ .object fields) →
    store.insertValue entity value = (.error (.notAnObject entity value.kind), store)
  update_missing : ∀ entity id changes,
    (store.update entity id changes).1 = .error (.notFound entity id) ↔
    store.instances.find? entity id = none
  update_held : ∀ entity id changes old, store.instances.find? entity id = some old →
    ∃ new, (store.update entity id changes).1 = .ok new ∧ new.entity = old.entity ∧
      new.id = old.id ∧
      (∀ key, new.fields.get? key =
        if key = "id" then old.fields.get? key
        else (changes.get? key).or (old.fields.get? key)) ∧
      (store.update entity id changes).2.instances.find? =
        Places.set store.instances.find? entity id (some new)
  delete_missing : ∀ entity id,
    (store.delete entity id).1 = .error (.notFound entity id) ↔
    store.instances.find? entity id = none
  delete_held : ∀ entity id old, store.instances.find? entity id = some old →
    (store.delete entity id).1 = .ok old ∧
      (store.delete entity id).2.instances.find? =
        Places.set store.instances.find? entity id none
  restore : ∀ snapshot,
    (store.restore snapshot).instances.find? = snapshot.instances.find?
  failed : ∀ (operation : Operation) error, (operation.apply store).1 = .error error →
    (operation.apply store).2.instances = store.instances
  lastId : ∀ operation : Operation, (operation.apply store).2.lastId =
    if operation.generatesId then store.lastId + 1 else store.lastId
  get : ∀ entity id self, store.instances.find? entity id = some self ↔
    store.instances.Holds entity id self
  all : ∀ entity, ∃ ids : List String, ids.Pairwise (· < ·) ∧
    (∀ id, id ∈ ids ↔ (store.instances.find? entity id).isSome) ∧
    (store.instances.all entity).map some = ids.map (store.instances.find? entity)
  total : ∃ pairs : List (String × String), pairs.Nodup ∧
    (∀ entity id, (entity, id) ∈ pairs ↔ (store.instances.find? entity id).isSome) ∧
    store.instances.total = pairs.length

theorem refinesMap (store : Store) :
    store.RefinesMap ∧ (store.Reachable → store.instances.Labelled) := by
  refine ⟨?_, Reachable.labelled⟩
  constructor
  case create_invalid => exact fun _ _ _ => store.create_eq_unusableId_iff
  case create_duplicate => exact fun _ _ _ => store.create_eq_duplicate_iff
  case create_new =>
    intro entity fields id chosen free
    rw [store.create_of_free chosen free, find?_put, instances_afterChoice]
    exact ⟨rfl, rfl⟩
  case insertValue_object => exact fun _ _ => rfl
  case insertValue_other =>
    intro entity value other
    cases value with
    | object fields => exact absurd rfl (other fields)
    | _ => rfl
  case update_missing => exact fun _ _ _ => store.update_eq_notFound_iff
  case update_held =>
    intro entity id changes old held
    rw [store.update_of_held changes held]
    exact ⟨_, rfl, rfl, rfl, get?_changedFields old.fields changes, store.find?_put ..⟩
  case delete_missing => exact fun _ _ => store.delete_eq_notFound_iff
  case delete_held =>
    intro entity id old held
    rw [store.delete_of_held held]
    exact ⟨rfl, store.find?_drop entity id⟩
  case restore => exact fun _ => rfl
  case failed => exact fun operation _ => operation.instances_of_error store
  case lastId => exact fun operation => operation.lastId_apply store
  case get => exact fun _ _ _ => store.instances.find?_eq_some_iff
  case all =>
    intro entity
    exact ⟨(store.instances.ofEntity entity).keys, Entries.pairwise_keys _,
      fun id => Entries.mem_keys_iff _, (Entries.map_get?_keys _).symm⟩
  case total =>
    exact ⟨store.instances.pairs, store.instances.nodup_pairs,
      fun _ _ => store.instances.mem_pairs_iff, store.instances.length_pairs.symm⟩

end Store

end BehaviorContract
