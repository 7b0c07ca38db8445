import BehaviorContract.Proofs.Store.Replay

namespace BehaviorContract

theorem Entries.beqBy_self {α : Type} {same : α → α → Bool} {bound : Option String}
    (entries : Entries α bound)
    (reflexive : ∀ entry ∈ entries.toList, same entry.2 entry.2 = true) :
    entries.beqBy same entries = true := by
  induction entries with
  | nil => rfl
  | cons key follows value rest induction =>
      rw [toList_cons, List.forall_mem_cons] at reflexive
      rw [beqBy, beq_self_eq_true, reflexive.1, induction reflexive.2]
      rfl

theorem Instance.strictEq_self {self : Instance}
    (free : Value.fieldsFloatFree self.fields = true) :
    self.strictEq self = true := by
  have sameFields : self.fields.beqBy Value.strictEq self.fields = true := by
    apply Entries.beqBy_self
    intro entry member
    exact Value.equalBy_self _ (Value.floatFree_of_mem free member)
  rw [strictEq, beq_self_eq_true, beq_self_eq_true, sameFields]
  rfl

theorem Instance.strictEq_eq_false_iff {new old : Instance}
    (free : Value.fieldsFloatFree old.fields = true) :
    new.strictEq old = false ↔ new ≠ old := by
  rw [Bool.eq_false_iff]
  constructor
  · rintro differs rfl
    exact differs (strictEq_self free)
  · intro differ same
    exact differ (eq_of_strictEq free same)

/-- What has become of a place, from what it held and what it holds. -/
def ChangeKind.between? : Option Instance → Option Instance → Option ChangeKind
  | none, none => none
  | none, some _ => some .created
  | some _, none => some .deleted
  | some old, some new => if new.strictEq old then none else some .updated

namespace ChangeKind

variable {old new : Option Instance}

theorem between?_eq_created_iff :
    between? old new = some .created ↔ new ≠ none ∧ old = none := by
  cases old with
  | none => cases new <;> simp [between?]
  | some => cases new <;> simp [between?]

theorem between?_eq_deleted_iff :
    between? old new = some .deleted ↔ old ≠ none ∧ new = none := by
  cases old with
  | none => cases new <;> simp [between?]
  | some => cases new <;> simp [between?]

theorem between?_eq_updated_iff :
    between? old new = some .updated ↔
      ∃ was is, old = some was ∧ new = some is ∧ is.strictEq was = false := by
  cases old with
  | none => cases new <;> simp [between?]
  | some => cases new <;> simp [between?]

end ChangeKind

namespace Change

/-- Says that a change tells the truth about its place. -/
structure Tells (before now : Instances) (change : Change) : Prop where
  kind : ChangeKind.between? (before.find? change.entity change.id)
    (now.find? change.entity change.id) = some change.kind
  before : change.before = (before.find? change.entity change.id).map Instance.toValue
  after : change.after = (now.find? change.entity change.id).map Instance.toValue

/-- The order by entity, and by id within an entity. -/
def Precedes (first second : Change) : Prop :=
  first.entity < second.entity ∨ first.entity = second.entity ∧ first.id < second.id

theorem Precedes.place_ne {first second : Change} (precedes : first.Precedes second) :
    (first.entity, first.id) ≠ (second.entity, second.id) := by
  intro same
  obtain ⟨sameEntity, sameId⟩ := Prod.mk.inj same
  cases precedes with
  | inl less => exact String.ne_of_lt less sameEntity
  | inr less => exact String.ne_of_lt less.2 sameId

end Change

namespace Instances

section Order

theorem pairwise_reports (instances : Instances)
    (report : String → String → Instance → List Change)
    (atMostOne : ∀ entity id self, report entity id self = [] ∨
      ∃ change, report entity id self = [change] ∧ change.entity = entity ∧
        change.id = id) :
    (instances.toList.flatMap fun entry => entry.2.toList.flatMap fun held =>
      report entry.1 held.1 held.2).Pairwise Change.Precedes := by
  have placed {entity id : String} {self : Instance} {change : Change}
    (member : change ∈ report entity id self) :
      change.entity = entity ∧ change.id = id := by
    obtain isNone | ⟨only, isOne, place⟩ := atMostOne entity id self
    · rw [isNone] at member
      cases member
    · rw [isOne, List.mem_singleton] at member
      rw [member]
      exact place
  have single (entity id : String) (self : Instance) :
      (report entity id self).Pairwise Change.Precedes := by
    obtain isNone | ⟨only, isOne, -⟩ := atMostOne entity id self
    · rw [isNone]
      exact .nil
    · rw [isOne]
      exact List.pairwise_singleton ..
  rw [List.pairwise_flatMap]
  constructor
  · intro entry _
    rw [List.pairwise_flatMap]
    refine ⟨fun held _ => single entry.1 held.1 held.2, entry.2.pairwise_toList.imp ?_⟩
    intro first second less earlier inFirst later inSecond
    obtain ⟨earlierEntity, earlierId⟩ := placed inFirst
    obtain ⟨laterEntity, laterId⟩ := placed inSecond
    right
    rw [earlierEntity, earlierId, laterEntity, laterId]
    exact ⟨rfl, less⟩
  · refine instances.pairwise_toList.imp ?_
    intro first second less earlier inFirst later inSecond
    obtain ⟨_, -, reportedFirst⟩ := List.mem_flatMap.1 inFirst
    obtain ⟨_, -, reportedSecond⟩ := List.mem_flatMap.1 inSecond
    left
    rw [(placed reportedFirst).1, (placed reportedSecond).1]
    exact less

variable (before now : Instances)

theorem pairwise_lost : (before.lost now).Pairwise Change.Precedes := by
  refine before.pairwise_reports now.fate ?_
  intro entity id old
  unfold fate
  split
  · split
    · exact .inl rfl
    · exact .inr ⟨_, rfl, rfl, rfl⟩
  · exact .inr ⟨_, rfl, rfl, rfl⟩

theorem pairwise_gained : (before.gained now).Pairwise Change.Precedes := by
  refine now.pairwise_reports
    (fun entity id new => if (before.ofEntity entity).contains id then []
    else [⟨entity, id, .created, none, some new.toValue⟩]) ?_
  intro entity id new
  split
  · exact .inl rfl
  · exact .inr ⟨_, rfl, rfl, rfl⟩

end Order

section Truth

variable {before now : Instances} {change : Change}

theorem mem_fate_iff {entity id : String} {old : Instance} :
    change ∈ now.fate entity id old ↔
      change.entity = entity ∧ change.id = id ∧
        ChangeKind.between? (some old) (now.find? entity id) = some change.kind ∧
        change.before = some old.toValue ∧
          change.after = (now.find? entity id).map Instance.toValue := by
  cases change
  cases found : now.find? entity id with
  | none => simp [fate_of_absent found, ChangeKind.between?, eq_comm]
  | some new =>
      rw [fate_of_present found]
      cases same : new.strictEq old with
      | true => simp [same, ChangeKind.between?]
      | false => simp [same, ChangeKind.between?, eq_comm]

theorem mem_lost_iff_tells :
    change ∈ before.lost now ↔
      change.Tells before now ∧ before.find? change.entity change.id ≠ none := by
  rw [mem_lost_iff]
  constructor
  · intro lost
    obtain ⟨entity, id, old, held, fated⟩ := lost
    obtain ⟨rfl, rfl, kind, shownBefore, shownAfter⟩ := mem_fate_iff.1 fated
    exact ⟨⟨by rw [held]; exact kind, by rw [held]; exact shownBefore, shownAfter⟩,
      by simp [held]⟩
  · intro lost
    obtain ⟨⟨kind, shownBefore, shownAfter⟩, isHeld⟩ := lost
    obtain ⟨old, held⟩ := Option.ne_none_iff_exists'.1 isHeld
    rw [held] at kind shownBefore
    exact ⟨_, _, old, held, mem_fate_iff.2 ⟨rfl, rfl, kind, shownBefore, shownAfter⟩⟩

theorem mem_gained_iff_tells :
    change ∈ before.gained now ↔
      change.Tells before now ∧ before.find? change.entity change.id = none := by
  rw [mem_gained_iff]
  constructor
  · intro gained
    obtain ⟨entity, id, new, found, absent, rfl⟩ := gained
    exact ⟨⟨by simp [found, absent, ChangeKind.between?], by simp [absent],
      by simp [found]⟩, absent⟩
  · intro gained
    obtain ⟨⟨kind, shownBefore, shownAfter⟩, absent⟩ := gained
    rw [absent] at kind shownBefore
    cases found : now.find? change.entity change.id with
    | none =>
        rw [found] at kind
        cases kind
    | some new =>
        rw [found] at kind shownAfter
        cases change
        cases kind
        cases shownBefore
        cases shownAfter
        exact ⟨_, _, new, found, absent, rfl⟩

end Truth

end Instances

namespace Store

variable (store : Store) (before : Snapshot)

/-- The changes are those that tell the truth about their place. -/
theorem mem_diff_iff {change : Change} :
    change ∈ store.diff before ↔ change.Tells before.instances store.instances := by
  rw [diff, List.mem_append, Instances.mem_lost_iff_tells,
    Instances.mem_gained_iff_tells, ← and_or_left]
  exact and_iff_left (Classical.em _).symm

def Reports (entity id : String) (kind : ChangeKind) : Prop :=
  ∃ change ∈ store.diff before,
    change.entity = entity ∧ change.id = id ∧ change.kind = kind

theorem reports_iff {entity id : String} {kind : ChangeKind} :
    store.Reports before entity id kind ↔
      ChangeKind.between? (before.instances.find? entity id)
        (store.instances.find? entity id) = some kind := by
  constructor
  · intro reported
    obtain ⟨change, member, rfl, rfl, rfl⟩ := reported
    exact ((store.mem_diff_iff before).1 member).kind
  · intro became
    let change : Change :=
      ⟨entity, id, kind, (before.instances.find? entity id).map Instance.toValue,
      (store.instances.find? entity id).map Instance.toValue⟩
    exact ⟨change, (store.mem_diff_iff before).2 ⟨became, rfl, rfl⟩, rfl, rfl, rfl⟩

theorem nodup_places_diff :
    ((store.diff before).map fun change => (change.entity, change.id)).Nodup := by
  rw [List.Nodup, List.pairwise_map, diff, List.pairwise_append]
  refine ⟨?_, ?_, ?_⟩
  · exact (Instances.pairwise_lost ..).imp Change.Precedes.place_ne
  · exact (Instances.pairwise_gained ..).imp Change.Precedes.place_ne
  · intro first lost second gained same
    obtain ⟨sameEntity, sameId⟩ := Prod.mk.inj same
    apply (Instances.mem_lost_iff_tells.1 lost).2
    rw [sameEntity, sameId]
    exact (Instances.mem_gained_iff_tells.1 gained).2

theorem diff_eq_nil_iff (free : before.instances.floatFree = true) :
    store.diff before = [] ↔ ∀ entity id, store.instances.find? entity id =
      before.instances.find? entity id := by
  constructor
  · intro unchanged entity id
    cases store.find?_eq_or_mem_diff before free entity id with
    | inl same => exact same.symm
    | inr changed =>
        obtain ⟨change, member, -⟩ := changed
        rw [unchanged] at member
        cases member
  · intro same
    rw [List.eq_nil_iff_forall_not_mem]
    intro change member
    have became := ((store.mem_diff_iff before).1 member).kind
    rw [same] at became
    cases held : before.instances.find? change.entity change.id with
    | none =>
        rw [held] at became
        cases became
    | some self =>
        have unchanged :=
          Instance.strictEq_self (Instances.fieldsFloatFree_of_find? free held)
        rw [held, ChangeKind.between?, if_pos unchanged] at became
        cases became

/-- Says that the changes of a store since a snapshot are those from what the
snapshot holds to what the store holds, each reported once and in order. -/
structure DiffersExactly : Prop where
  once : ((store.diff before).map fun change => (change.entity, change.id)).Nodup
  created : ∀ entity id, store.Reports before entity id .created ↔
    store.instances.find? entity id ≠ none ∧ before.instances.find? entity id = none
  deleted : ∀ entity id, store.Reports before entity id .deleted ↔
    before.instances.find? entity id ≠ none ∧ store.instances.find? entity id = none
  updated : ∀ entity id, store.Reports before entity id .updated ↔
    ∃ old new, before.instances.find? entity id = some old ∧
      store.instances.find? entity id = some new ∧
      new.strictEq old = false
  updated_of_floatFree : before.instances.floatFree = true →
    ∀ entity id, store.Reports before entity id .updated ↔
    ∃ old new, before.instances.find? entity id = some old ∧
      store.instances.find? entity id = some new ∧ new ≠ old
  shown : ∀ change ∈ store.diff before,
    change.before = (before.instances.find? change.entity change.id).map
      Instance.toValue ∧
      change.after = (store.instances.find? change.entity change.id).map Instance.toValue
  ordered : ∃ lost gained, store.diff before = lost ++ gained ∧
    (∀ change ∈ lost, change.kind = .updated ∨ change.kind = .deleted) ∧
      lost.Pairwise Change.Precedes ∧
    (∀ change ∈ gained, change.kind = .created) ∧ gained.Pairwise Change.Precedes
  empty : before.instances.floatFree = true →
    (store.diff before = [] ↔ ∀ entity id, store.instances.find? entity id =
      before.instances.find? entity id)

theorem diff_exact : store.DiffersExactly before where
  once := store.nodup_places_diff before
  created entity id := (store.reports_iff before).trans ChangeKind.between?_eq_created_iff
  deleted entity id := (store.reports_iff before).trans ChangeKind.between?_eq_deleted_iff
  updated entity id := (store.reports_iff before).trans ChangeKind.between?_eq_updated_iff
  updated_of_floatFree free entity id := by
    rw [store.reports_iff before, ChangeKind.between?_eq_updated_iff]
    refine exists_congr fun old => exists_congr fun new => and_congr_right fun held =>
      and_congr_right fun _ => ?_
    exact Instance.strictEq_eq_false_iff (Instances.fieldsFloatFree_of_find? free held)
  shown change member :=
    have tells := (store.mem_diff_iff before).1 member
    ⟨tells.before, tells.after⟩
  ordered := by
    refine ⟨_, _, rfl, ?_, Instances.pairwise_lost .., ?_, Instances.pairwise_gained ..⟩
    · intro change lost
      obtain ⟨tells, held⟩ := Instances.mem_lost_iff_tells.1 lost
      cases kind : change.kind with
      | created =>
          exact absurd (ChangeKind.between?_eq_created_iff.1
            (tells.kind.trans (congrArg some kind))).2 held
      | updated => exact .inl rfl
      | deleted => exact .inr rfl
    · intro change gained
      obtain ⟨_, _, _, -, -, rfl⟩ := (Instances.mem_gained_iff _ _).1 gained
      rfl
  empty free := store.diff_eq_nil_iff before free

-- A double need not equal itself, and then a store differs from its own snapshot.
example (now : Instant) :
    let fields := Table.ofList [("id", .text "r1"),
      ("value", .float (Float.ofBits 0x7FF8000000000000))]
    let store := (empty.create "Reading" fields).2
    (store.diff (store.snapshot now)).map Change.kind = [.updated] := by
  rfl

end Store

end BehaviorContract
