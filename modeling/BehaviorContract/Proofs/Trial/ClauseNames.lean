import BehaviorContract.Proofs.Clause.Reserved
import BehaviorContract.Proofs.Trial.Verdict

/-! Clause names in the result of a trial. In a well-formed domain two clauses
can only share a name if one is a postcondition and the other one an invariant
of an instance; the names of blocks are kept apart from all others, but the
names of entities are not. -/

namespace BehaviorContract

namespace Behavior

/-- Says that a postcondition that an outcome calls for and an invariant of an
instance have the same label. -/
def SharesLabel (behavior : Behavior) (domain : Domain) (instances : Instances)
    (outcome : Outcome) : Prop :=
  ∃ block ∈ behavior.postconditions, ∃ entity ∈ domain.entities, ∃ id self,
    block.condition.isActive outcome = true ∧ block.predicates ≠ [] ∧
    instances.find? entity.name id = some self ∧ entity.invariants ≠ [] ∧
    "postcondition_" ++ block.condition.text =
      entity.name ++ "_" ++ self.id ++ "_invariant"

theorem sharesLabel_iff (behavior : Behavior) (context : Context) (outcome : Outcome)
    (valid : context.domain.validate = .ok ()) :
    behavior.SharesLabel context.domain context.instances outcome ↔
      ∃ name, name ∈ Check.names (behavior.checkPostconditions context outcome) ∧
        name ∈ Check.names (behavior.checkAllInvariants context) := by
  constructor
  · rintro ⟨block, blockMember, entity, declared, id, self, active, someClause, found,
      someInvariant, same⟩
    obtain ⟨clause, clauseMember⟩ := List.exists_mem_of_ne_nil _ someClause
    have called : (block.condition, clause) ∈ behavior.activePredicates outcome :=
      mem_activePredicates.2 ⟨block, blockMember, active, clauseMember, rfl⟩
    have invariant : HasInvariant behavior context (Domain.instanceLabel entity self) 1 :=
      .ofInstance declared ((Instances.mem_all_iff ..).2 ⟨id, found⟩)
        (List.length_pos_iff.2 someInvariant)
    have labels : postconditionLabel block.condition = Domain.instanceLabel entity self :=
      same
    refine ⟨_, first_mem_names_checkPostconditions context called, ?_⟩
    rw [labels]
    exact clauseName_mem_names_checkAllInvariants.2 invariant
  · rintro ⟨name, ofPostcondition, ofInvariant⟩
    obtain ⟨condition, clause, number, called, rfl⟩ :=
      mem_names_checkPostconditions ofPostcondition
    obtain ⟨block, blockMember, active, clauseMember, rfl⟩ :=
      mem_activePredicates.1 called
    obtain ⟨entity, declared, self, live, someInvariant, same⟩ :=
      (clauseName_mem_names_checkAllInvariants.1
        ofInvariant).instance_of_postconditionLabel valid
    obtain ⟨id, found⟩ := (Instances.mem_all_iff ..).1 live
    exact ⟨block, blockMember, entity, declared, id, self, active,
      List.ne_nil_of_mem clauseMember, found, someInvariant, same⟩

end Behavior

theorem TrialResult.check?_of_nodup {result : TrialResult}
    (distinct : (Check.names result.checks).Nodup) {check : Check}
    (member : check ∈ result.checks) : result.check? check.name = some check := by
  unfold check?
  generalize result.checks = checks at distinct member
  induction checks with
  | nil => cases member
  | cons first rest induction =>
      obtain ⟨once, restDistinct⟩ := List.nodup_cons.1 distinct
      rcases List.mem_cons.1 member with rfl | later
      · exact List.find?_cons_of_pos (beq_self_eq_true _)
      · have different : first.name ≠ check.name := by
          intro same
          exact once (List.mem_map.2 ⟨check, later, same.symm⟩)
        rw [List.find?_cons_of_neg (by simpa using different)]
        exact induction restDistinct later

private theorem mem_names_if {enabled : Bool} {checks : List Check} {name : String} :
    name ∈ Check.names (if enabled then checks else []) ↔
      enabled = true ∧ name ∈ Check.names checks := by
  cases enabled with
  | false => simp [Check.names]
  | true => simp

private theorem nodup_names_if {checks : List Check} (enabled : Bool)
    (distinct : (Check.names checks).Nodup) :
    (Check.names (if enabled then checks else [])).Nodup := by
  cases enabled with
  | false => exact List.nodup_nil
  | true => exact distinct

/-- The names of the checks that are switched on are distinct unless a
postcondition and an invariant share a label. -/
theorem Behavior.nodup_names_iff (behavior : Behavior)
    (contextBefore contextAfter : Context) (outcome : Outcome)
    (valid : contextAfter.domain.validate = .ok ())
    (withPreconditions withPostconditions withInvariants : Bool) :
    (Check.names
      ((if withPreconditions then behavior.checkPreconditions contextBefore else []) ++
        (if withPostconditions then behavior.checkPostconditions contextAfter outcome
          else []) ++
        (if withInvariants then behavior.checkAllInvariants contextAfter
          else []))).Nodup ↔
      ¬ (withPostconditions = true ∧ withInvariants = true ∧
        behavior.SharesLabel contextAfter.domain contextAfter.instances outcome) := by
  rw [Check.names_append, Check.names_append, List.nodup_append, List.nodup_append,
    behavior.sharesLabel_iff contextAfter outcome valid]
  constructor
  · rintro ⟨-, -, apart⟩ ⟨postconditions, invariants, name, ofPostcondition, ofInvariant⟩
    exact apart name (List.mem_append_right _
      (mem_names_if.2 ⟨postconditions, ofPostcondition⟩)) name
      (mem_names_if.2 ⟨invariants, ofInvariant⟩) rfl
  · intro unshared
    refine ⟨⟨nodup_names_if _ (Check.nodup_names_ofClauses ..),
      nodup_names_if _ (behavior.nodup_names_checkPostconditions ..), ?_⟩,
      nodup_names_if _ (behavior.nodup_names_checkAllInvariants _), ?_⟩
    · rintro name ofPrecondition other ofPostcondition rfl
      obtain ⟨position, -, rfl⟩ :=
        Check.mem_names_ofClauses.1 (mem_names_if.1 ofPrecondition).2
      obtain ⟨condition, clause, number, -, same⟩ :=
        mem_names_checkPostconditions (mem_names_if.1 ofPostcondition).2
      exact postconditionLabel_ne_precondition condition (clauseName_inj same).1.symm
    · rintro name earlier other ofInvariant rfl
      obtain ⟨invariants, ofInvariant⟩ := mem_names_if.1 ofInvariant
      rcases List.mem_append.1 earlier with ofPrecondition | ofPostcondition
      · obtain ⟨position, -, rfl⟩ :=
          Check.mem_names_ofClauses.1 (mem_names_if.1 ofPrecondition).2
        exact (clauseName_mem_names_checkAllInvariants.1
          ofInvariant).label_ne_precondition valid rfl
      · obtain ⟨postconditions, ofPostcondition⟩ := mem_names_if.1 ofPostcondition
        exact unshared ⟨postconditions, invariants, name, ofPostcondition, ofInvariant⟩

namespace Engine

theorem runTrial_names_nodup_iff (engine : Engine)
    (valid : engine.domain.validate = .ok ()) (readings : Readings)
    (implementation : Implementation) {name : String} {behavior : Behavior}
    (known : engine.domain.behavior? name = some behavior) (input : Input)
    (store : Store) :
    ∃ result,
      engine.runTrial readings implementation name input store false = .ok result ∧
      ((Check.names result.checks).Nodup ↔
        ¬ (engine.settings.checkPostconditions = true ∧
          engine.settings.checkInvariants = true ∧
          behavior.SharesLabel engine.domain
            (implementation.execute behavior input.values store).store.instances
            result.outcome)) ∧
      ((Check.names result.checks).Nodup →
        ∀ check ∈ result.checks, result.check? check.name = some check) := by
  refine ⟨_, engine.runTrial_of_behavior readings implementation known input store, ?_,
    ?_⟩
  · exact behavior.nodup_names_iff _ (engine.contextAfter ..) _ valid _ _ _
  · intro distinct check member
    exact TrialResult.check?_of_nodup distinct member

theorem runTrial_names_nodup_fiveMore :
    counting.domain.validate = .ok () ∧
      counting.domain.behavior? "Increment" = some increment ∧
      ∃ result,
        counting.runTrial { now := ⟨0, 0⟩ } incrementing "Increment" fiveMore .empty
        false = .ok result ∧
        result.checks.length = 3 ∧
          ∀ check ∈ result.checks, result.check? check.name = some check := by
  have valid : counting.domain.validate = .ok () := rfl
  have known : counting.domain.behavior? "Increment" = some increment := rfl
  obtain ⟨result, ran, -, found⟩ :=
    runTrial_names_nodup_iff counting valid { now := ⟨0, 0⟩ } incrementing known
      fiveMore .empty
  cases ran.symm.trans (counting.runTrial_of_behavior _ incrementing known
    fiveMore .empty)
  exact ⟨valid, known, _, ran, rfl, found (by decide)⟩

def archive : Behavior where
  name := "Archive"
  errors := [{ name := "x_invariant" }]
  postconditions := [⟨.named "x_invariant", [.literal (.bool true)]⟩]

def archiving : Engine where
  domain := {
    name := "Archives"
    entities := [{ name := "postcondition", invariants := [.literal (.bool true)] }]
    behaviors := [archive] }
  settings := {}

def refusing : Implementation where
  execute := fun _ _ store =>
    .finished (.failed { code := "x_invariant", message := "refused" }) store

def oneRecord : Store :=
  (Store.empty.create "postcondition" (Table.ofList [("id", .text "x")])).2

/-- In a well-formed domain a postcondition and an invariant can both be called
`postcondition_x_invariant_1`. -/
theorem runTrial_name_shared_by_two_checks :
    archiving.domain.validate = .ok () ∧
      archiving.domain.behavior? "Archive" = some archive ∧
      ∃ result,
        archiving.runTrial { now := ⟨0, 0⟩ } refusing "Archive" .empty oneRecord
        false = .ok result ∧
        Check.names result.checks =
          ["postcondition_x_invariant_1", "postcondition_x_invariant_1"] ∧
        ¬ (Check.names result.checks).Nodup := by
  have known : archiving.domain.behavior? "Archive" = some archive := rfl
  refine ⟨rfl, known, _, archiving.runTrial_of_behavior _ refusing known .empty oneRecord,
    ?_, ?_⟩
  · decide
  · decide

end Engine

end BehaviorContract
