import BehaviorContract.Proofs.Clause.Names
import BehaviorContract.Proofs.Store.Identity
import Mathlib.Data.List.Induction

/-! Generated ids in the life of one store. Going back to a snapshot takes
instances away and brings others back, and deletions set ids free, but the
numbers of generated ids only grow: no id is generated that the store or one of
its snapshots knows. -/

namespace BehaviorContract

theorem Store.generatedId_inj {entity : String} {first second : UInt64}
    (same : generatedId entity first = generatedId entity second) : first = second := by
  have digits := toString_nat_inj ((String.append_right_inj _).1 same)
  exact UInt64.toNat_inj.1 digits

namespace Operation

def created? : Operation → Option (String × Table Value)
  | .create entity fields => some (entity, fields)
  | .insertValue entity (.object fields) => some (entity, fields)
  | _ => none

theorem apply_of_created? {operation : Operation} {entity : String} {fields : Table Value}
    (creates : operation.created? = some (entity, fields)) (store : Store) :
    operation.apply store = store.create entity fields := by
  cases operation with
  | create =>
      cases creates
      rfl
  | insertValue _ value =>
      cases value with
      | object =>
          cases creates
          rfl
      | _ => cases creates
  | update => cases creates
  | delete => cases creates

end Operation

/-- What happens to a store. -/
inductive Action where
  | operate (operation : Operation)
  | snapshot (now : Instant)
  | restore (snapshot : Snapshot)

structure Life where
  store : Store
  taken : List Snapshot

namespace Life

def step (life : Life) : Action → Life
  | .operate operation => { life with store := (operation.apply life.store).2 }
  | .snapshot now => { life with taken := life.store.snapshot now :: life.taken }
  | .restore snapshot => { life with store := life.store.restore snapshot }

def after (actions : List Action) : Life :=
  actions.foldl step ⟨.empty, []⟩

/-- Says that an action gives no id to what it creates, and goes back only to a
snapshot of this store. -/
def Admits (life : Life) : Action → Prop
  | .operate operation =>
      ∀ entity fields, operation.created? = some (entity, fields) →
        fields.get? "id" = none
  | .snapshot _ => True
  | .restore snapshot => snapshot ∈ life.taken

end Life

/-- Says that each action is admitted where it stands. -/
def OwnIds (actions : List Action) : Prop :=
  ∀ earlier action later, actions = earlier ++ action :: later →
    (Life.after earlier).Admits action

theorem OwnIds.of_append {earlier later : List Action}
    (own : OwnIds (earlier ++ later)) : OwnIds earlier := by
  intro before action between split
  apply own before action (between ++ later)
  rw [split, List.append_assoc, List.cons_append]

theorem OwnIds.nil : OwnIds [] := by
  intro earlier action later split
  cases earlier with
  | nil => cases split
  | cons => cases split

theorem OwnIds.snoc {earlier : List Action} (own : OwnIds earlier) (action : Action)
    (admitted : (Life.after earlier).Admits action) : OwnIds (earlier ++ [action]) := by
  intro before other between split
  rcases List.eq_nil_or_concat between with rfl | ⟨between, last, rfl⟩
  · obtain ⟨rfl, same⟩ := List.append_inj' split rfl
    cases same
    exact admitted
  · rw [List.concat_eq_append, ← List.cons_append, ← List.append_assoc] at split
    obtain ⟨rfl, -⟩ := List.append_inj' split rfl
    exact own before other between rfl

namespace Instances

/-- Says that all ids have been generated, with numbers up to the given one. -/
def NumberedTo (instances : Instances) (last : UInt64) : Prop :=
  ∀ entity id self, instances.find? entity id = some self →
    ∃ number ≤ last, id = Store.generatedId entity number

theorem NumberedTo.mono {instances : Instances} {last later : UInt64}
    (numbered : instances.NumberedTo last)
    (grows : last ≤ later) : instances.NumberedTo later := by
  intro entity id self found
  obtain ⟨number, below, generated⟩ := numbered entity id self found
  exact ⟨number, UInt64.le_trans below grows, generated⟩

theorem NumberedTo.set {before after : Instances} {last : UInt64} {entity id : String}
    {held : Option Instance} (numbered : before.NumberedTo last)
    (changed : after.find? = Places.set before.find? entity id held)
    (generated : ∀ self, held = some self →
      ∃ number ≤ last, id = Store.generatedId entity number) :
    after.NumberedTo last := by
  intro otherEntity otherId self found
  rw [changed] at found
  cases Places.set_eq_some found with
  | inl here =>
      obtain ⟨rfl, rfl, isHeld⟩ := here
      exact generated self isHeld
  | inr elsewhere => exact numbered otherEntity otherId self elsewhere

theorem NumberedTo.find?_next {instances : Instances} {last : UInt64}
    (numbered : instances.NumberedTo last) (room : last < last + 1) (entity : String) :
    instances.find? entity (Store.generatedId entity (last + 1)) = none := by
  cases held : instances.find? entity (Store.generatedId entity (last + 1)) with
  | none => rfl
  | some self =>
      obtain ⟨number, below, same⟩ := numbered _ _ _ held
      rw [← Store.generatedId_inj same] at below
      exact absurd room (UInt64.not_lt.2 below)

end Instances

namespace Store

variable {store : Store} {entity id : String} {fields : Table Value}

theorem create_of_numbered (numbered : store.instances.NumberedTo store.lastId)
    (room : store.lastId < store.lastId + 1) (unnamed : fields.get? "id" = none) :
    store.create entity fields =
      (.ok ⟨generatedId entity (store.lastId + 1), entity,
        withId fields (generatedId entity (store.lastId + 1))⟩,
        (store.afterChoice fields).put entity (generatedId entity (store.lastId + 1))
          ⟨generatedId entity (store.lastId + 1), entity,
            withId fields (generatedId entity (store.lastId + 1))⟩) := by
  apply create_of_free
  · rw [chosenId?, unnamed]
    rfl
  · exact numbered.find?_next room entity

theorem numberedTo_create (numbered : store.instances.NumberedTo store.lastId)
    (room : store.lastId < store.lastId + 1) (unnamed : fields.get? "id" = none) :
    (store.create entity fields).2.instances.NumberedTo
      (store.create entity fields).2.lastId := by
  have number : (store.create entity fields).2.lastId = store.lastId + 1 := by
    rw [lastId_create, Entries.contains, unnamed]
    rfl
  rw [number, create_of_numbered numbered room unnamed]
  have before : (store.afterChoice fields).instances.NumberedTo (store.lastId + 1) := by
    rw [instances_afterChoice]
    exact numbered.mono (UInt64.le_of_lt room)
  apply before.set (find?_put ..)
  intro self _
  exact ⟨store.lastId + 1, UInt64.le_refl _, rfl⟩

theorem numberedTo_update (numbered : store.instances.NumberedTo store.lastId)
    (changes : Table Value) :
    (store.update entity id changes).2.instances.NumberedTo store.lastId := by
  cases held : store.instances.find? entity id with
  | none =>
      rw [store.update_of_missing changes held]
      exact numbered
  | some old =>
      rw [store.update_of_held changes held]
      apply numbered.set (store.find?_put ..)
      intro self _
      exact numbered entity id old held

theorem numberedTo_delete (numbered : store.instances.NumberedTo store.lastId) :
    (store.delete entity id).2.instances.NumberedTo store.lastId := by
  cases held : store.instances.find? entity id with
  | none =>
      rw [store.delete_of_missing held]
      exact numbered
  | some old =>
      rw [store.delete_of_held held]
      exact numbered.set (store.find?_drop ..) nofun

end Store

theorem Operation.numberedTo_apply {operation : Operation} {store : Store}
    (numbered : store.instances.NumberedTo store.lastId)
    (room : store.lastId < store.lastId + 1)
    (unnamed : ∀ entity fields,
      operation.created? = some (entity, fields) → fields.get? "id" = none) :
    (operation.apply store).2.instances.NumberedTo (operation.apply store).2.lastId := by
  cases creates : operation.created? with
  | some creation =>
      rw [operation.apply_of_created? creates]
      exact Store.numberedTo_create numbered room (unnamed _ _ creates)
  | none =>
      rw [operation.lastId_apply]
      cases operation with
      | create => cases creates
      | insertValue _ value =>
          cases value with
          | object => cases creates
          | _ => exact numbered
      | update => exact Store.numberedTo_update numbered _
      | delete => exact Store.numberedTo_delete numbered

theorem Operation.lastId_le_apply (operation : Operation) {store : Store}
    (room : store.lastId < store.lastId + 1) :
    store.lastId ≤ (operation.apply store).2.lastId := by
  rw [operation.lastId_apply]
  split
  · exact UInt64.le_of_lt room
  · exact UInt64.le_refl _

namespace Life

/-- Says that no more ids have been generated than the count allows, and that
the store and its snapshots know no others. -/
structure Numbered (life : Life) (count : Nat) : Prop where
  bounded : life.store.lastId.toNat ≤ count
  live : life.store.instances.NumberedTo life.store.lastId
  taken : ∀ snapshot ∈ life.taken, snapshot.instances.NumberedTo life.store.lastId

theorem Numbered.room {life : Life} {count : Nat} (numbered : life.Numbered count)
    (short : count + 1 < UInt64.size) :
    life.store.lastId < life.store.lastId + 1 := by
  have bounded := numbered.bounded
  rw [UInt64.lt_iff_toNat_lt, UInt64.toNat_add]
  have small : (life.store.lastId.toNat + (1 : UInt64).toNat) < UInt64.size := by
    change life.store.lastId.toNat + 1 < UInt64.size
    omega
  rw [Nat.mod_eq_of_lt small]
  exact Nat.lt_succ_self _

theorem Numbered.step {life : Life} {count : Nat} (numbered : life.Numbered count)
    (short : count + 1 < UInt64.size) {action : Action} (admitted : life.Admits action) :
    (life.step action).Numbered (count + 1) := by
  have room := numbered.room short
  cases action with
  | operate operation =>
      constructor
      · have grows : (operation.apply life.store).2.lastId.toNat ≤
          life.store.lastId.toNat + 1 := by
          rw [operation.lastId_apply]
          split
          · rw [UInt64.toNat_add]
            exact Nat.mod_le _ _
          · exact Nat.le_succ _
        exact Nat.le_trans grows (Nat.succ_le_succ numbered.bounded)
      · exact Operation.numberedTo_apply numbered.live room admitted
      · intro snapshot member
        exact (numbered.taken snapshot member).mono (operation.lastId_le_apply room)
  | snapshot now =>
      refine ⟨Nat.le_succ_of_le numbered.bounded, numbered.live, ?_⟩
      intro snapshot member
      cases List.mem_cons.1 member with
      | inl new =>
          subst new
          exact numbered.live
      | inr old => exact numbered.taken snapshot old
  | restore snapshot =>
      exact ⟨Nat.le_succ_of_le numbered.bounded, numbered.taken snapshot admitted,
        numbered.taken⟩

theorem numbered_after {actions : List Action} (own : OwnIds actions)
    (short : actions.length < UInt64.size) :
    (after actions).Numbered actions.length := by
  induction actions using List.reverseRecOn with
  | nil => exact ⟨Nat.zero_le _, nofun, nofun⟩
  | append_singleton earlier action induction =>
      rw [List.length_append, List.length_singleton] at short ⊢
      have before := induction own.of_append (Nat.lt_of_succ_lt short)
      have next := before.step short (own earlier action [] rfl)
      rw [after, List.foldl_append]
      exact next

end Life

def Instances.ids (instances : Instances) (entity : String) : List String :=
  (instances.ofEntity entity).keys

theorem Instances.not_mem_ids {instances : Instances} {entity id : String}
    (free : instances.find? entity id = none) : id ∉ instances.ids entity := by
  intro member
  have held := (instances.ofEntity entity).mem_keys_iff.1 member
  rw [show (instances.ofEntity entity).get? id = none from free] at held
  cases held

namespace Life

theorem creation_succeeds_with_fresh_id {actions earlier later : List Action}
    (own : OwnIds actions) (short : actions.length < UInt64.size) {operation : Operation}
    (split : actions = earlier ++ .operate operation :: later) {entity : String}
    {fields : Table Value} (creates : operation.created? = some (entity, fields)) :
    ∃ new, (operation.apply (after earlier).store).1 = .ok new ∧ new.entity = entity ∧
      new.id = Store.generatedId entity ((after earlier).store.lastId + 1) ∧
      new.id ∉ (after earlier).store.instances.ids entity ∧
      ∀ snapshot ∈ (after earlier).taken, new.id ∉ snapshot.instances.ids entity := by
  subst split
  have length : earlier.length + 1 < UInt64.size := by
    rw [List.length_append, List.length_cons] at short
    omega
  have numbered := numbered_after own.of_append (Nat.lt_of_succ_lt length)
  have room := numbered.room length
  have unnamed := own earlier _ later rfl entity fields creates
  rw [operation.apply_of_created? creates,
    Store.create_of_numbered numbered.live room unnamed]
  refine ⟨_, rfl, rfl, rfl, Instances.not_mem_ids (numbered.live.find?_next room entity),
    ?_⟩
  intro snapshot member
  exact Instances.not_mem_ids ((numbered.taken snapshot member).find?_next room entity)

def reopening : List Action :=
  [.operate (.create "Session" ∅), .snapshot ⟨0, 0⟩,
    .operate (.delete "Session" "session-1"), .operate (.create "Session" ∅),
    .restore ((after [.operate (.create "Session" ∅)]).store.snapshot ⟨0, 0⟩)]

theorem creation_succeeds_with_fresh_id_reopening :
    OwnIds (reopening ++ [.operate (.create "Session" ∅)]) ∧
      ∃ new, ((after reopening).store.create "Session" ∅).1 = .ok new ∧
        new.id = "session-3" ∧
        (after reopening).store.instances.ids "Session" = ["session-1"] ∧
        new.id ∉ (after reopening).store.instances.ids "Session" := by
  have unnamed : ∀ entity fields,
    (Operation.create "Session" ∅).created? = some (entity, fields) →
      fields.get? "id" = none := by
    intro entity fields same
    cases same
    rfl
  have own : OwnIds (reopening ++ [.operate (.create "Session" ∅)]) := by
    have opened := (OwnIds.nil.snoc (.operate (.create "Session" ∅)) unnamed).snoc
      (.snapshot ⟨0, 0⟩) trivial
    have closed := opened.snoc (.operate (.delete "Session" "session-1")) nofun
    have another := closed.snoc (.operate (.create "Session" ∅)) unnamed
    have back := another.snoc (.restore _) (List.mem_singleton.2 rfl)
    exact back.snoc (.operate (.create "Session" ∅)) unnamed
  obtain ⟨new, created, -, id, fresh, -⟩ :=
    creation_succeeds_with_fresh_id own (by decide) rfl rfl
  exact ⟨own, new, created, id, rfl, fresh⟩

end Life

end BehaviorContract
