import BehaviorContract.Proofs.Store.Refinement

/-! The id of an instance is written down in several places: it is the key under
which the instance is held, the instance tells it, and the `id` field shows it.
In every store that operations lead to these agree, and so a question for an id,
which goes through all instances of the entity, finds the one that is held under
it. -/

namespace BehaviorContract

theorem Places.set_eq_some {places : Places} {entity id otherEntity otherId : String}
    {held : Option Instance} {self : Instance}
    (found : Places.set places entity id held otherEntity otherId = some self) :
    otherEntity = entity ∧ otherId = id ∧ held = some self ∨
      places otherEntity otherId = some self := by
  unfold Places.set at found
  split at found
  · rename_i same
    exact .inl ⟨same.1, same.2, found⟩
  · exact .inr found

namespace Value

/-- Says that an `id` field shows an id: as this text, or as a whole number with
these digits. -/
def ShowsId (value : Value) (id : String) : Prop :=
  value = .text id ∨ ∃ number, value = .integer number ∧ toString number.toInt = id

theorem showsId_of_asId? {value : Value} {id : String}
    (usable : value.asId? = some id) : value.ShowsId id := by
  cases value with
  | text content =>
      cases usable
      exact .inl rfl
  | integer number => exact .inr ⟨number, rfl, Option.some.inj usable⟩
  | _ => cases usable

end Value

namespace Instances

/-- Says that every instance has an `id` field that shows the id under which it
is held. -/
def ShowIds (instances : Instances) : Prop :=
  ∀ entity id self, instances.find? entity id = some self →
    ∃ value, self.fields.get? "id" = some value ∧ value.ShowsId id

theorem ShowIds.set {before after : Instances} {entity id : String}
    {held : Option Instance} (shown : before.ShowIds)
    (changed : after.find? = Places.set before.find? entity id held)
    (fits : ∀ self, held = some self →
      ∃ value, self.fields.get? "id" = some value ∧ value.ShowsId id) :
    after.ShowIds := by
  intro otherEntity otherId self found
  rw [changed] at found
  cases Places.set_eq_some found with
  | inl here =>
      obtain ⟨-, rfl, isHeld⟩ := here
      exact fits self isHeld
  | inr elsewhere => exact shown otherEntity otherId self elsewhere

end Instances

namespace Store

theorem showsId_withId {store : Store} {entity id : String} {fields : Table Value}
    (chosen : store.chosenId? entity fields = some id) :
    ∃ value, (withId fields id).get? "id" = some value ∧ value.ShowsId id := by
  unfold chosenId? at chosen
  unfold withId Entries.contains
  cases given : fields.get? "id" with
  | none => exact ⟨.text id, by simp, .inl rfl⟩
  | some value =>
      rw [given] at chosen
      exact ⟨value, given, Value.showsId_of_asId? chosen⟩

theorem showIds_create {store : Store} (shown : store.instances.ShowIds) (entity : String)
    (fields : Table Value) :
    (store.create entity fields).2.instances.ShowIds := by
  cases chosen : store.chosenId? entity fields with
  | none =>
      obtain ⟨value, -, -, created⟩ := store.create_of_not_chosen chosen
      rw [created]
      exact shown
  | some id =>
      cases held : store.instances.find? entity id with
      | some old =>
          rw [store.create_of_held chosen (by simp [held]), instances_afterChoice]
          exact shown
      | none =>
          rw [store.create_of_free chosen held]
          have unchanged : (store.afterChoice fields).instances.ShowIds := by
            rw [instances_afterChoice]
            exact shown
          apply unchanged.set ((store.afterChoice fields).find?_put ..)
          intro self same
          cases same
          exact showsId_withId chosen

theorem showIds_update {store : Store} (shown : store.instances.ShowIds)
    (entity id : String) (changes : Table Value) :
    (store.update entity id changes).2.instances.ShowIds := by
  cases held : store.instances.find? entity id with
  | none =>
      rw [store.update_of_missing changes held]
      exact shown
  | some old =>
      rw [store.update_of_held changes held]
      apply shown.set (store.find?_put ..)
      intro self same
      cases same
      rw [get?_changedFields, if_pos rfl]
      exact shown entity id old held

theorem showIds_delete {store : Store} (shown : store.instances.ShowIds)
    (entity id : String) :
    (store.delete entity id).2.instances.ShowIds := by
  cases held : store.instances.find? entity id with
  | none =>
      rw [store.delete_of_missing held]
      exact shown
  | some old =>
      rw [store.delete_of_held held]
      exact shown.set (store.find?_drop ..) nofun

theorem showIds_apply {store : Store} (shown : store.instances.ShowIds)
    (operation : Operation) : (operation.apply store).2.instances.ShowIds := by
  cases operation with
  | create entity fields => exact showIds_create shown entity fields
  | insertValue entity value =>
      cases value with
      | object fields => exact showIds_create shown entity fields
      | _ => exact shown
  | update entity id changes => exact showIds_update shown entity id changes
  | delete entity id => exact showIds_delete shown entity id

theorem Reachable.showIds {store : Store}
    (reachable : store.Reachable) : store.instances.ShowIds := by
  induction reachable with
  | empty =>
      intro entity id self found
      cases found
  | apply operation _ induction => exact showIds_apply induction operation
  | restore now _ _ _ induction => exact induction

end Store

theorem Instance.satisfies_id (self : Instance) {value : Value} {id : String}
    (asked : value.ShowsId id) :
    self.satisfies (Table.ofList [("id", value)]) = (self.id == id) := by
  have single : self.satisfies (Table.ofList [("id", value)]) =
    (self.meets "id" value && true) := rfl
  rw [single, Bool.and_true]
  cases asked with
  | inl isText =>
      subst isText
      exact Bool.beq_comm
  | inr isNumber =>
      obtain ⟨number, rfl, rfl⟩ := isNumber
      exact Bool.beq_comm

namespace Instances

theorem Labelled.id_of_mem {instances : Instances} (labelled : instances.Labelled)
    (entity : String) :
    ∀ entry ∈ (instances.ofEntity entity).toList, entry.2.id = entry.1 := by
  intro entry member
  exact (labelled entity entry.1 entry.2
    ((instances.ofEntity entity).get?_eq_some_iff.2 member)).2

section Questions

variable {instances : Instances} (labelled : instances.Labelled) (entity : String)
  {value : Value} {id : String}

include labelled

theorem lookup?_id (asked : value.ShowsId id) :
    instances.lookup? entity (Table.ofList [("id", value)]) =
      instances.find? entity id := by
  unfold lookup? all find?
  simp only [Instance.satisfies_id _ asked]
  exact Entries.find?_values_of_label _ Instance.id (labelled.id_of_mem entity) id

theorem count_id (asked : value.ShowsId id) :
    instances.count entity (Table.ofList [("id", value)]) =
      if (instances.find? entity id).isSome then 1 else 0 := by
  unfold count all find?
  simp only [Instance.satisfies_id _ asked]
  exact Entries.countP_values_of_label _ Instance.id (labelled.id_of_mem entity) id

end Questions

end Instances

/-- Says that all places which tell the entity and the id of an instance agree. -/
structure Instances.IdsAgree (instances : Instances) : Prop where
  entity : ∀ entity id self, instances.find? entity id = some self → self.entity = entity
  id : ∀ entity id self, instances.find? entity id = some self → self.id = id
  field : ∀ entity id self, instances.find? entity id = some self →
    ∃ value, self.fields.get? "id" = some value ∧ value.ShowsId id

/-- Says that a question for an id, given as a text or as a whole number, is
answered by what is held under it. -/
structure Instances.AnswerIds (instances : Instances) : Prop where
  lookup_text : ∀ entity id,
    instances.lookup? entity (Table.ofList [("id", .text id)]) = instances.find? entity id
  lookup_integer : ∀ entity (number : Int64),
    instances.lookup? entity (Table.ofList [("id", .integer number)]) =
      instances.find? entity (toString number.toInt)
  count_text : ∀ entity id,
    instances.count entity (Table.ofList [("id", .text id)]) =
      if (instances.find? entity id).isSome then 1 else 0
  count_integer : ∀ entity (number : Int64),
    instances.count entity (Table.ofList [("id", .integer number)]) =
      if (instances.find? entity (toString number.toInt)).isSome then 1 else 0

theorem Instances.Labelled.answerIds {instances : Instances}
    (labelled : instances.Labelled) :
    instances.AnswerIds where
  lookup_text := fun entity _ => lookup?_id labelled entity (.inl rfl)
  lookup_integer := fun entity number =>
    lookup?_id labelled entity (.inr ⟨number, rfl, rfl⟩)
  count_text := fun entity _ => count_id labelled entity (.inl rfl)
  count_integer := fun entity number => count_id labelled entity (.inr ⟨number, rfl, rfl⟩)

namespace Store

theorem ids_agree_of_reachable {store : Store} (reachable : store.Reachable) :
    store.instances.IdsAgree ∧ store.instances.AnswerIds := by
  have labelled := reachable.labelled
  refine ⟨?_, labelled.answerIds⟩
  constructor
  · intro entity id self found
    exact (labelled entity id self found).1
  · intro entity id self found
    exact (labelled entity id self found).2
  · exact reachable.showIds

def numbered : Store :=
  let created := (Store.empty.create "Counter" (Table.ofList [("id", .integer 5)])).2
  (created.update "Counter" "5"
    (Table.ofList [("id", .text "9"), ("value", .integer 1)])).2

def renumbered : Store :=
  let restored := (numbered.delete "Counter" "5").2.restore (numbered.snapshot ⟨0, 0⟩)
  (restored.create "Session" ∅).2

theorem ids_agree_of_reachable_renumbered :
    renumbered.Reachable ∧
      renumbered.instances.lookup? "Counter" (Table.ofList [("id", .integer 5)]) =
        some ⟨"5", "Counter", Table.ofList [("id", .integer 5), ("value", .integer 1)]⟩ ∧
      renumbered.instances.count "Counter" (Table.ofList [("id", .text "5")]) = 1 ∧
      renumbered.instances.count "Counter" (Table.ofList [("id", .integer 9)]) = 0 ∧
      renumbered.instances.lookup? "Session" (Table.ofList [("id", .text "session-1")]) =
        some ⟨"session-1", "Session", Table.ofList [("id", .text "session-1")]⟩ := by
  have known : numbered.Reachable :=
    .apply (.update "Counter" "5" _) (.apply (.create "Counter" _) .empty)
  have reachable : renumbered.Reachable :=
    .apply (.create "Session" ∅)
      (.restore ⟨0, 0⟩ (.apply (.delete "Counter" "5") known) known)
  obtain ⟨-, answers⟩ := ids_agree_of_reachable reachable
  exact ⟨reachable, answers.lookup_integer "Counter" 5, answers.count_text "Counter" "5",
    answers.count_integer "Counter" 9, answers.lookup_text "Session" "session-1"⟩

end Store

end BehaviorContract
