import BehaviorContract.Clause.Contract
import BehaviorContract.Proofs.Clause.Truth
import BehaviorContract.Proofs.Table

namespace BehaviorContract

namespace Check

def AllPassed (checks : List Check) : Prop :=
  ∀ check ∈ checks, check.passed = true

theorem allPassed_append (first second : List Check) :
    AllPassed (first ++ second) ↔ AllPassed first ∧ AllPassed second :=
  List.forall_mem_append

theorem allPassed_flatMap {α : Type} (items : List α) (checks : α → List Check) :
    AllPassed (items.flatMap checks) ↔ ∀ item ∈ items, AllPassed (checks item) :=
  List.forall_mem_flatMap

def unnamed (check : Check) : Check :=
  { check with name := "" }

theorem unnamed_ofClause (kind : ClauseKind) (name : String) (context : Context)
    (clause : Expr) :
    (ofClause kind name context clause).unnamed = ofClause kind "" context clause := by
  unfold ofClause
  split
  · rfl
  · rfl

theorem unnamed_mapIdx {α : Type} (kind : ClauseKind) (context : Context)
    (name : Nat → α → String) (clause : α → Expr) (items : List α) :
    (items.mapIdx fun position item =>
      ofClause kind (name position item) context (clause item)).map unnamed =
      items.map fun item => ofClause kind "" context (clause item) := by
  refine List.ext_getElem (by simp) ?_
  intro position _ _
  simp [unnamed_ofClause]

/-- Naming checks apart changes nothing but their names. -/
theorem unnamed_nameApart (taken : List String) (checks : List Check) :
    (nameApart taken checks).map unnamed = checks.map unnamed := by
  induction checks generalizing taken with
  | nil => rfl
  | cons check rest induction =>
      rw [nameApart, List.map_cons, List.map_cons, induction]
      rfl

theorem allPassed_unnamed (checks : List Check) :
    AllPassed (checks.map unnamed) ↔ AllPassed checks :=
  List.forall_mem_map

theorem allPassed_mapIdx {α : Type} (kind : ClauseKind) (context : Context)
    (name : Nat → α → String) (clause : α → Expr) (items : List α) :
    AllPassed (items.mapIdx fun position item =>
      ofClause kind (name position item) context (clause item)) ↔
      ∀ item ∈ items, (clause item).Holds context := by
  rw [← allPassed_unnamed, unnamed_mapIdx, AllPassed, List.forall_mem_map]
  simp only [passed_ofClause_iff]

theorem allPassed_ofClauses (kind : ClauseKind) (label : String) (context : Context)
    (clauses : List Expr) :
    AllPassed (ofClauses kind label context clauses) ↔
      ∀ clause ∈ clauses, clause.Holds context :=
  allPassed_mapIdx kind context _ id clauses

theorem allPassed_withUniqueNames (checks : List Check) :
    AllPassed (withUniqueNames checks) ↔ AllPassed checks := by
  rw [← allPassed_unnamed, withUniqueNames, unnamed_nameApart, allPassed_unnamed]

end Check

namespace Behavior

/-- The postconditions that an outcome calls for, each with the condition of its block. -/
def activePredicates (behavior : Behavior) (outcome : Outcome) :
    List (Condition × Expr) :=
  (behavior.postconditions.filter (·.condition.isActive outcome)).flatMap fun block =>
    block.predicates.map (block.condition, ·)

/-- The number of the postcondition at a position among those whose condition
has the same text. -/
def postconditionNumber (active : List (Condition × Expr)) (text : String)
    (position : Nat) : Nat :=
  (active.take position).countP (·.1.text == text) + 1

/-- The checks of postconditions, each numbered by how many with the text of its
condition stand before it. -/
def numberedChecks (context : Context) (active : List (Condition × Expr)) : List Check :=
  active.mapIdx fun position predicate =>
    Check.ofClause .postcondition
      ("postcondition_" ++ predicate.1.text ++ "_" ++
        toString (postconditionNumber active predicate.1.text position))
      context predicate.2

theorem postconditionNumber_append {active : List (Condition × Expr)} {position : Nat}
    (inside : position ≤ active.length) (text : String)
    (more : List (Condition × Expr)) :
    postconditionNumber (active ++ more) text position =
      postconditionNumber active text position := by
  rw [postconditionNumber, List.take_append_of_le_length inside, postconditionNumber]

theorem numberedChecks_snoc (context : Context) (active : List (Condition × Expr))
    (condition : Condition) (clause : Expr) :
    numberedChecks context (active ++ [(condition, clause)]) =
      numberedChecks context active ++
        [Check.ofClause .postcondition
          ("postcondition_" ++ condition.text ++ "_" ++
            toString (active.countP (·.1.text == condition.text) + 1))
              context clause] := by
  unfold numberedChecks
  rw [List.mapIdx_append, List.mapIdx_singleton]
  congr 1
  · refine List.mapIdx_eq_mapIdx_iff.2 ?_
    intro position inside
    rw [postconditionNumber_append (Nat.le_of_lt inside)]
  · rw [Nat.zero_add, postconditionNumber_append (Nat.le_refl _), postconditionNumber,
      List.take_length]

end Behavior

/-- Says that the loop stands after some postconditions: their texts are
counted, and their checks are made. -/
structure Numbering.Covers (context : Context) (active : List (Condition × Expr))
    (state : Numbering) : Prop where
  counts : Entries.Counts state.counters (active.map (·.1.text))
  checks : state.checks = Behavior.numberedChecks context active

namespace Numbering

variable {context : Context} {active : List (Condition × Expr)} {state : Numbering}

theorem covers_empty : Covers context [] {} where
  counts := Entries.counts_empty
  checks := rfl

theorem Covers.check (covers : Covers context active state) (condition : Condition)
    (clause : Expr) :
    Covers context (active ++ [(condition, clause)])
      (state.check context condition clause) where
  counts := by
    rw [List.map_append]
    exact covers.counts.snoc condition.text
  checks := by
    have number : (state.counters.get? condition.text).getD 0 =
        active.countP (·.1.text == condition.text) := by
      rw [covers.counts.getD_get?, List.count_eq_countP, List.countP_map]
      rfl
    rw [Behavior.numberedChecks_snoc, ← covers.checks, ← number]
    rfl

theorem Covers.foldl_check (covers : Covers context active state) (condition : Condition)
    (clauses : List Expr) :
    Covers context (active ++ clauses.map (condition, ·))
      (clauses.foldl (Numbering.check context condition) state) := by
  induction clauses generalizing active state with
  | nil =>
      rw [List.map_nil, List.append_nil]
      exact covers
  | cons clause clauses induction =>
      rw [List.map_cons, List.append_cons]
      exact induction (covers.check condition clause)

theorem Covers.foldl_checkBlock (covers : Covers context active state) (outcome : Outcome)
    (blocks : List PostconditionBlock) :
    Covers context
      (active ++ (blocks.filter (·.condition.isActive outcome)).flatMap fun block =>
        block.predicates.map (block.condition, ·))
      (blocks.foldl (checkBlock context outcome) state) := by
  induction blocks generalizing active state with
  | nil =>
      rw [List.filter_nil, List.flatMap_nil, List.append_nil]
      exact covers
  | cons block blocks induction =>
      rw [List.foldl_cons, checkBlock, List.filter_cons]
      split
      · rw [List.flatMap_cons, ← List.append_assoc]
        exact induction (covers.foldl_check block.condition block.predicates)
      · exact induction covers

end Numbering

theorem Behavior.checkPostconditions_eq (behavior : Behavior) (context : Context)
    (outcome : Outcome) :
    behavior.checkPostconditions context outcome =
      numberedChecks context (behavior.activePredicates outcome) :=
  (Numbering.covers_empty.foldl_checkBlock outcome behavior.postconditions).checks

/-- Nothing is lost where an entity without invariants is passed over. -/
theorem Domain.checkEntities_eq (domain : Domain) (context : Context) :
    domain.checkEntities context =
      domain.entities.flatMap fun entity =>
        (context.instances.all entity.name).flatMap fun self =>
          Check.ofClauses .invariant (entity.name ++ "_" ++ self.id ++ "_invariant")
            ((context.bind "this" self.toValue).bind
              (Text.lowercase entity.name) self.toValue)
            entity.invariants := by
  unfold checkEntities
  congr 1
  funext entity
  split
  · rename_i empty
    rw [List.isEmpty_iff.1 empty]
    exact (List.flatMap_eq_nil_iff.2 fun self member => rfl).symm
  · rfl

namespace Behavior

def PreconditionsHold (behavior : Behavior) (context : Context) : Prop :=
  ∀ clause ∈ behavior.preconditions, clause.Holds context

def PostconditionsHold (behavior : Behavior) (context : Context)
    (outcome : Outcome) : Prop :=
  ∀ block ∈ behavior.postconditions, block.condition.isActive outcome = true →
    ∀ clause ∈ block.predicates, clause.Holds context

structure InvariantsHold (behavior : Behavior) (context : Context) : Prop where
  ofBehavior : ∀ clause ∈ behavior.invariants, clause.Holds context
  ofDomain : ∀ block ∈ context.domain.invariants, ∀ clause ∈ block.predicates,
    clause.Holds context
  ofInstances : ∀ entity ∈ context.domain.entities, ∀ id self,
    context.instances.find? entity.name id = some self →
      ∀ clause ∈ entity.invariants,
        clause.Holds ((context.bind "this" self.toValue).bind
          (Text.lowercase entity.name) self.toValue)

theorem mem_activePredicates {behavior : Behavior} {outcome : Outcome}
    {condition : Condition} {clause : Expr} :
    (condition, clause) ∈ behavior.activePredicates outcome ↔
      ∃ block ∈ behavior.postconditions, block.condition.isActive outcome = true ∧
        clause ∈ block.predicates ∧ block.condition = condition := by
  simp [activePredicates, and_assoc]

theorem allPassed_checkPreconditions (behavior : Behavior) (context : Context) :
    Check.AllPassed (behavior.checkPreconditions context) ↔
      behavior.PreconditionsHold context :=
  Check.allPassed_ofClauses ..

theorem allPassed_checkPostconditions (behavior : Behavior) (context : Context)
    (outcome : Outcome) :
    Check.AllPassed (behavior.checkPostconditions context outcome) ↔
      behavior.PostconditionsHold context outcome := by
  rw [checkPostconditions_eq]
  refine (Check.allPassed_mapIdx .postcondition context _ Prod.snd _).trans ?_
  constructor
  · intro holds block member active clause inside
    exact holds (block.condition, clause)
      (mem_activePredicates.2 ⟨block, member, active, inside, rfl⟩)
  · rintro holds ⟨condition, clause⟩ member
    obtain ⟨block, blockMember, active, inside, -⟩ := mem_activePredicates.1 member
    exact holds block blockMember active clause inside

theorem allPassed_checkEntities (context : Context) :
    Check.AllPassed (context.domain.checkEntities context) ↔
      ∀ entity ∈ context.domain.entities, ∀ id self,
        context.instances.find? entity.name id = some self →
        ∀ clause ∈ entity.invariants,
          clause.Holds ((context.bind "this" self.toValue).bind
            (Text.lowercase entity.name) self.toValue) := by
  simp only [Domain.checkEntities_eq, Check.allPassed_flatMap, Check.allPassed_ofClauses,
    Instances.mem_all_iff]
  constructor
  · intro holds entity member id self found
    exact holds entity member self ⟨id, found⟩
  · rintro holds entity member self ⟨id, found⟩
    exact holds entity member id self found

theorem allPassed_checkAllInvariants (behavior : Behavior) (context : Context) :
    Check.AllPassed (behavior.checkAllInvariants context) ↔
      behavior.InvariantsHold context := by
  have ofBehavior :=
    Check.allPassed_ofClauses .invariant "behavior" context behavior.invariants
  have ofDomain : Check.AllPassed (context.domain.checkInvariants context) ↔
      ∀ block ∈ context.domain.invariants, ∀ clause ∈ block.predicates,
        clause.Holds context := by
    simp only [Domain.checkInvariants, Check.allPassed_flatMap, Check.allPassed_ofClauses]
  rw [checkAllInvariants, Check.allPassed_withUniqueNames, Check.allPassed_append,
    Check.allPassed_append, checkInvariants, ofBehavior, ofDomain,
    allPassed_checkEntities]
  constructor
  · rintro ⟨⟨behaviorHolds, domainHolds⟩, instancesHold⟩
    exact ⟨behaviorHolds, domainHolds, instancesHold⟩
  · rintro ⟨behaviorHolds, domainHolds, instancesHold⟩
    exact ⟨⟨behaviorHolds, domainHolds⟩, instancesHold⟩

theorem checkPreconditions_eq_nil_iff (behavior : Behavior) (context : Context) :
    behavior.checkPreconditions context = [] ↔ behavior.preconditions = [] :=
  List.mapIdx_eq_nil_iff

theorem checkPostconditions_eq_nil_iff (behavior : Behavior) (context : Context)
    (outcome : Outcome) :
    behavior.checkPostconditions context outcome = [] ↔
      ∀ block ∈ behavior.postconditions, block.condition.isActive outcome = true →
        block.predicates = [] := by
  rw [checkPostconditions_eq, numberedChecks, List.mapIdx_eq_nil_iff, activePredicates,
    List.flatMap_eq_nil_iff]
  simp only [List.mem_filter, List.map_eq_nil_iff, and_imp]

theorem checkAllInvariants_eq_nil_iff (behavior : Behavior) (context : Context) :
    behavior.checkAllInvariants context = [] ↔
      behavior.invariants = [] ∧
        (∀ block ∈ context.domain.invariants, block.predicates = []) ∧
        ∀ entity ∈ context.domain.entities, ∀ id self,
          context.instances.find? entity.name id = some self →
            entity.invariants = [] := by
  have kept : behavior.checkAllInvariants context = [] ↔
      behavior.checkInvariants context ++ context.domain.checkInvariants context ++
        context.domain.checkEntities context = [] := by
    rw [← List.map_eq_nil_iff, checkAllInvariants, Check.withUniqueNames,
      Check.unnamed_nameApart, List.map_eq_nil_iff]
  simp only [kept, List.append_eq_nil_iff, checkInvariants, Domain.checkInvariants,
    Domain.checkEntities_eq, List.flatMap_eq_nil_iff, Check.ofClauses,
    List.mapIdx_eq_nil_iff, Instances.mem_all_iff, and_assoc]
  refine and_congr_right fun _ => and_congr_right fun _ => ?_
  constructor
  · intro empty entity declared id self live
    exact empty entity declared self ⟨id, live⟩
  · rintro empty entity declared self ⟨id, live⟩
    exact empty entity declared id self live

end Behavior

end BehaviorContract
