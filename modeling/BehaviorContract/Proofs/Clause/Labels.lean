import BehaviorContract.Proofs.Clause.Contract
import BehaviorContract.Proofs.Clause.Names

namespace BehaviorContract

namespace Check

theorem names_append (first second : List Check) :
    names (first ++ second) = names first ++ names second :=
  List.map_append

theorem mem_names_flatMap {α : Type} {items : List α} {checks : α → List Check}
    {name : String} :
    name ∈ names (items.flatMap checks) ↔ ∃ item ∈ items, name ∈ names (checks item) := by
  simp only [names, List.mem_map, List.mem_flatMap]
  constructor
  · rintro ⟨check, ⟨item, member, inside⟩, rfl⟩
    exact ⟨item, member, check, inside, rfl⟩
  · rintro ⟨item, member, check, inside, rfl⟩
    exact ⟨check, ⟨item, member, inside⟩, rfl⟩

theorem names_mapIdx {α : Type} (kind : ClauseKind) (context : Context)
    (name : Nat → α → String) (clause : α → Expr) (items : List α) :
    names (items.mapIdx fun position item =>
      ofClause kind (name position item) context (clause item)) =
      items.mapIdx name := by
  refine List.ext_getElem (by simp [names]) ?_
  intro position _ _
  simp [names]

theorem names_ofClauses (kind : ClauseKind) (label : String) (context : Context)
    (clauses : List Expr) :
    names (ofClauses kind label context clauses) = clauses.mapIdx fun position _ =>
      clauseName label (position + 1) :=
  names_mapIdx kind context _ id clauses

theorem mem_names_ofClauses {kind : ClauseKind} {label : String} {context : Context}
    {clauses : List Expr} {name : String} :
    name ∈ names (ofClauses kind label context clauses) ↔
      ∃ position < clauses.length, name = clauseName label (position + 1) := by
  rw [names_ofClauses, List.mem_mapIdx]
  constructor
  · rintro ⟨position, inside, rfl⟩
    exact ⟨position, inside, rfl⟩
  · rintro ⟨position, inside, rfl⟩
    exact ⟨position, inside, rfl⟩

theorem nodup_names_ofClauses (kind : ClauseKind) (label : String) (context : Context)
    (clauses : List Expr) :
    (names (ofClauses kind label context clauses)).Nodup := by
  rw [names_ofClauses]
  refine List.pairwise_iff_getElem.2 ?_
  intro first second firstInside secondInside before same
  rw [List.getElem_mapIdx, List.getElem_mapIdx] at same
  have numbers := (clauseName_inj same).2
  omega

end Check

namespace Behavior

def postconditionLabel (condition : Condition) : String :=
  "postcondition_" ++ condition.text

theorem toList_postconditionLabel (condition : Condition) :
    (postconditionLabel condition).toList =
      "postcondition_".toList ++ condition.text.toList :=
  String.toList_append

theorem postconditionNumber_lt {active : List (Condition × Expr)} {text : String}
    {first second : Nat} (inside : first < active.length)
    (ofText : active[first].1.text = text) (before : first < second) :
    postconditionNumber active text first < postconditionNumber active text second := by
  have counted : (active.take (first + 1)).countP (·.1.text == text) =
      (active.take first).countP (·.1.text == text) + 1 := by
    rw [List.take_succ_eq_append_getElem inside, List.countP_append,
      List.countP_singleton, ofText, beq_self_eq_true, if_pos rfl]
  have grows : (active.take (first + 1)).countP (·.1.text == text) ≤
      (active.take second).countP (·.1.text == text) :=
    (List.take_sublist_take_left before).countP_le
  unfold postconditionNumber
  omega

theorem postconditionNumber_first (active : List (Condition × Expr)) (text : String) :
    postconditionNumber active text (active.findIdx (·.1.text == text)) = 1 := by
  unfold postconditionNumber
  have none : (active.take (active.findIdx (·.1.text == text))).countP
      (·.1.text == text) = 0 := by
    rw [List.countP_eq_zero]
    intro predicate member
    obtain ⟨position, bounds, rfl⟩ := List.mem_take_iff_getElem.1 member
    rw [List.not_of_lt_findIdx (Nat.lt_of_lt_of_le bounds (Nat.min_le_left ..))]
    exact Bool.false_ne_true
  rw [none]

theorem names_checkPostconditions (behavior : Behavior) (context : Context)
    (outcome : Outcome) :
    Check.names (behavior.checkPostconditions context outcome) =
      (behavior.activePredicates outcome).mapIdx fun position predicate =>
        clauseName (postconditionLabel predicate.1)
          (postconditionNumber (behavior.activePredicates outcome) predicate.1.text
            position) := by
  rw [checkPostconditions_eq]
  exact Check.names_mapIdx .postcondition context _ Prod.snd _

theorem mem_names_checkPostconditions {behavior : Behavior} {context : Context}
    {outcome : Outcome} {name : String}
    (member : name ∈ Check.names (behavior.checkPostconditions context outcome)) :
    ∃ condition clause number, (condition, clause) ∈ behavior.activePredicates outcome ∧
      name = clauseName (postconditionLabel condition) number := by
  rw [names_checkPostconditions] at member
  obtain ⟨position, inside, rfl⟩ := List.mem_mapIdx.1 member
  exact ⟨_, _, _, List.getElem_mem inside, rfl⟩

theorem first_mem_names_checkPostconditions {behavior : Behavior} (context : Context)
    {outcome : Outcome} {condition : Condition} {clause : Expr}
    (active : (condition, clause) ∈ behavior.activePredicates outcome) :
    clauseName (postconditionLabel condition) 1 ∈
      Check.names (behavior.checkPostconditions context outcome) := by
  rw [names_checkPostconditions]
  generalize behavior.activePredicates outcome = predicates at active
  have inside : predicates.findIdx (·.1.text == condition.text) < predicates.length :=
    List.findIdx_lt_length_of_exists ⟨_, active, beq_self_eq_true _⟩
  have ofText : predicates[predicates.findIdx (·.1.text == condition.text)].1.text =
      condition.text :=
    eq_of_beq (List.findIdx_getElem (w := inside))
  have named : ∀ other : Condition, other.text = condition.text →
      clauseName (postconditionLabel other) (postconditionNumber predicates other.text
        (predicates.findIdx (·.1.text == condition.text))) =
          clauseName (postconditionLabel condition) 1 := by
    intro other same
    have labels : postconditionLabel other = postconditionLabel condition :=
      congrArg ("postcondition_" ++ ·) same
    rw [labels, same, postconditionNumber_first]
  exact List.mem_mapIdx.2 ⟨_, inside, named _ ofText⟩

theorem nodup_names_checkPostconditions (behavior : Behavior) (context : Context)
    (outcome : Outcome) :
    (Check.names (behavior.checkPostconditions context outcome)).Nodup := by
  rw [names_checkPostconditions]
  refine List.pairwise_iff_getElem.2 ?_
  intro first second firstInside secondInside before same
  rw [List.getElem_mapIdx, List.getElem_mapIdx] at same
  rw [List.length_mapIdx] at firstInside
  obtain ⟨labels, numbers⟩ := clauseName_inj same
  have texts := (String.append_right_inj _).1 labels
  have less := postconditionNumber_lt firstInside texts before
  rw [texts] at numbers
  omega

end Behavior

namespace Domain

def instanceLabel (entity : Entity) (self : Instance) : String :=
  entity.name ++ "_" ++ self.id ++ "_invariant"

theorem mem_names_checkInvariants {domain : Domain} {context : Context} {name : String} :
    name ∈ Check.names (domain.checkInvariants context) ↔
      ∃ block ∈ domain.invariants, ∃ position < block.predicates.length,
        name = clauseName block.name (position + 1) := by
  simp only [checkInvariants, Check.mem_names_flatMap, Check.mem_names_ofClauses]

theorem mem_names_checkEntities {domain : Domain} {context : Context} {name : String} :
    name ∈ Check.names (domain.checkEntities context) ↔
      ∃ entity ∈ domain.entities, ∃ self ∈ context.instances.all entity.name,
        ∃ position < entity.invariants.length,
          name = clauseName (instanceLabel entity self) (position + 1) := by
  simp only [checkEntities_eq, Check.mem_names_flatMap,
    Check.mem_names_ofClauses, instanceLabel]

end Domain

namespace Behavior

/-- Says that a clause of a label and a number is among the invariants. -/
inductive HasInvariant (behavior : Behavior) (context : Context) : String → Nat → Prop
  | ofBehavior {position : Nat} (inside : position < behavior.invariants.length) :
      HasInvariant behavior context "behavior" (position + 1)
  | ofBlock {block : InvariantBlock} {position : Nat}
      (member : block ∈ context.domain.invariants)
      (inside : position < block.predicates.length) :
      HasInvariant behavior context block.name (position + 1)
  | ofInstance {entity : Entity} {self : Instance} {position : Nat}
      (declared : entity ∈ context.domain.entities)
      (live : self ∈ context.instances.all entity.name)
      (inside : position < entity.invariants.length) :
      HasInvariant behavior context (Domain.instanceLabel entity self) (position + 1)

def invariantChecks (behavior : Behavior) (context : Context) : List Check :=
  behavior.checkInvariants context ++ context.domain.checkInvariants context ++
    context.domain.checkEntities context

theorem mem_names_invariantChecks {behavior : Behavior} {context : Context}
    {name : String} :
    name ∈ Check.names (behavior.invariantChecks context) ↔
      ∃ label number, HasInvariant behavior context label number ∧
        name = clauseName label number := by
  rw [invariantChecks, Check.names_append, Check.names_append, List.mem_append,
    List.mem_append, checkInvariants, Check.mem_names_ofClauses,
    Domain.mem_names_checkInvariants, Domain.mem_names_checkEntities]
  constructor
  · rintro ((⟨position, inside, rfl⟩ | ⟨block, member, position, inside, rfl⟩) |
      ⟨entity, declared, self, live, position, inside, rfl⟩)
    · exact ⟨_, _, .ofBehavior inside, rfl⟩
    · exact ⟨_, _, .ofBlock member inside, rfl⟩
    · exact ⟨_, _, .ofInstance declared live inside, rfl⟩
  · rintro ⟨label, number, invariant, rfl⟩
    cases invariant with
    | ofBehavior inside => exact .inl (.inl ⟨_, inside, rfl⟩)
    | ofBlock member inside => exact .inl (.inr ⟨_, member, _, inside, rfl⟩)
    | ofInstance declared live inside => exact .inr ⟨_, declared, _, live, _, inside, rfl⟩

/-- Naming apart neither adds nor takes away a name that is a label with a number. -/
theorem clauseName_mem_names_checkAllInvariants {behavior : Behavior} {context : Context}
    {label : String} {number : Nat} :
    clauseName label number ∈ Check.names (behavior.checkAllInvariants context) ↔
      HasInvariant behavior context label number := by
  constructor
  · intro member
    rcases Check.mem_names_nameApart member with kept | ⟨old, oldMember, copy, numbered⟩
    · obtain ⟨label', number', invariant, same⟩ := mem_names_invariantChecks.1 kept
      obtain ⟨rfl, rfl⟩ := clauseName_inj same
      exact invariant
    · obtain ⟨label', number', -, rfl⟩ := mem_names_invariantChecks.1 oldMember
      exact (numberedName_ne_clauseName _ _ _ _ _ numbered.symm).elim
  · intro invariant
    have old : clauseName label number ∈ Check.names (behavior.invariantChecks context) :=
      mem_names_invariantChecks.2 ⟨label, number, invariant, rfl⟩
    rcases Check.mem_names_nameApart_of_mem [] old with impossible | given
    · cases impossible
    · exact given

theorem nodup_names_checkAllInvariants (behavior : Behavior) (context : Context) :
    (Check.names (behavior.checkAllInvariants context)).Nodup :=
  (Check.nodup_names_nameApart [] _).1

end Behavior

end BehaviorContract
