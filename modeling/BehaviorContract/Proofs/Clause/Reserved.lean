import BehaviorContract.Proofs.Clause.Count
import BehaviorContract.Proofs.Clause.Labels
import BehaviorContract.Proofs.Domain.WellFormed

namespace BehaviorContract

namespace Behavior

private theorem ne_of_underscore {label plain : String} (inside : '_' ∈ label.toList)
    (outside : '_' ∉ plain.toList) :
    label ≠ plain := by
  rintro rfl
  exact outside inside

private theorem underscore_mem_postconditionLabel (condition : Condition) :
    '_' ∈ (postconditionLabel condition).toList := by
  rw [toList_postconditionLabel]
  exact List.mem_append_left _ (by decide)

private theorem underscore_mem_instanceLabel (entity : Entity) (self : Instance) :
    '_' ∈ (Domain.instanceLabel entity self).toList := by
  rw [Domain.instanceLabel, String.toList_append]
  exact List.mem_append_right _ (by decide)

private theorem reserved_postconditionLabel (condition : Condition) :
    isReservedBlockName (postconditionLabel condition) = true := by
  have starts : Text.startsWith (postconditionLabel condition)
      "postcondition" = true := by
    rw [Text.startsWith, List.isPrefixOf_iff_prefix, toList_postconditionLabel]
    exact List.IsPrefix.trans (by decide) (List.prefix_append ..)
  simp [isReservedBlockName, starts]

theorem postconditionLabel_ne_precondition (condition : Condition) :
    postconditionLabel condition ≠ "precondition" :=
  ne_of_underscore (underscore_mem_postconditionLabel condition) (by decide)

def IsPlainLabel (domain : Domain) (label : String) : Prop :=
  label = "behavior" ∨ ∃ block ∈ domain.invariants, block.name = label

theorem IsPlainLabel.ne_precondition {domain : Domain} {label : String}
    (valid : domain.validate = .ok ()) (plain : IsPlainLabel domain label) :
    label ≠ "precondition" := by
  rcases plain with rfl | ⟨block, member, rfl⟩
  · decide
  · intro same
    have notReserved := Domain.not_reserved_of_validate valid _ member
    rw [same] at notReserved
    exact absurd notReserved (by decide)

theorem IsPlainLabel.ne_postconditionLabel {domain : Domain} {label : String}
    (valid : domain.validate = .ok ()) (plain : IsPlainLabel domain label)
    (condition : Condition) : label ≠ postconditionLabel condition := by
  rcases plain with rfl | ⟨block, member, rfl⟩
  · exact (ne_of_underscore (underscore_mem_postconditionLabel condition)
      (by decide)).symm
  · intro same
    have notReserved := Domain.not_reserved_of_validate valid _ member
    rw [same, reserved_postconditionLabel] at notReserved
    cases notReserved

theorem HasInvariant.label_ne_precondition {behavior : Behavior} {context : Context}
    {label : String} {number : Nat} (valid : context.domain.validate = .ok ())
    (invariant : HasInvariant behavior context label number) :
    label ≠ "precondition" := by
  cases invariant with
  | ofBehavior => exact IsPlainLabel.ne_precondition valid (.inl rfl)
  | ofBlock member => exact IsPlainLabel.ne_precondition valid (.inr ⟨_, member, rfl⟩)
  | ofInstance => exact ne_of_underscore (underscore_mem_instanceLabel ..) (by decide)

theorem HasInvariant.instance_of_postconditionLabel {behavior : Behavior}
    {context : Context} {condition : Condition} {number : Nat}
    (valid : context.domain.validate = .ok ())
    (invariant : HasInvariant behavior context (postconditionLabel condition) number) :
    ∃ entity ∈ context.domain.entities, ∃ self ∈ context.instances.all entity.name,
      entity.invariants ≠ [] ∧ postconditionLabel condition =
        Domain.instanceLabel entity self := by
  generalize same : postconditionLabel condition = label at invariant
  cases invariant with
  | ofBehavior =>
      exact absurd same.symm (IsPlainLabel.ne_postconditionLabel valid
        (.inl rfl) condition)
  | ofBlock member =>
      exact absurd same.symm (IsPlainLabel.ne_postconditionLabel valid
        (.inr ⟨_, member, rfl⟩) condition)
  | ofInstance declared live inside =>
      exact ⟨_, declared, _, live,
        List.ne_nil_of_length_pos (Nat.zero_lt_of_lt inside), rfl⟩

end Behavior

namespace Check

/-- Says that a check stands at a position and that its name stands at no other one. -/
structure StandsAlone (checks : List Check) (position : Nat) (check : Check) : Prop where
  found : checks[position]? = some check
  only : ∀ place other, checks[place]? = some other → other.name = check.name →
    place = position

theorem standsAlone_of_nodup {checks : List Check} (distinct : (names checks).Nodup)
    {position : Nat} {check : Check} (found : checks[position]? = some check) :
    StandsAlone checks position check where
  found := found
  only := by
    intro place other otherFound same
    have inside : place < (names checks).length := by
      rw [names, List.length_map]
      exact (List.getElem?_eq_some_iff.1 otherFound).1
    refine (List.getElem?_inj inside distinct).1 ?_
    simp [names, found, otherFound, same]

theorem StandsAlone.append {first second : List Check} {position : Nat} {check : Check}
    (alone : StandsAlone second position check) (apart : check.name ∉ names first) :
    StandsAlone (first ++ second) (first.length + position) check where
  found := by
    rw [List.getElem?_append_right (Nat.le_add_right ..), Nat.add_sub_cancel_left]
    exact alone.found
  only := by
    intro place other found same
    rw [List.getElem?_append] at found
    split at found
    · have member : other.name ∈ names first :=
        List.mem_map_of_mem (List.mem_of_getElem? found)
      rw [same] at member
      exact absurd member apart
    · have := alone.only _ other found same
      omega

theorem getElem?_ofClauses {kind : ClauseKind} {label : String} {context : Context}
    {clauses : List Expr} {position : Nat} {clause : Expr}
    (found : clauses[position]? = some clause) :
    (ofClauses kind label context clauses)[position]? =
      some (ofClause kind (label ++ "_" ++ toString (position + 1)) context clause) := by
  simp [ofClauses, found]

end Check

namespace Domain

theorem nodup_names_checkInvariants {domain : Domain} (valid : domain.validate = .ok ())
    (context : Context) :
    (Check.names (domain.checkInvariants context)).Nodup := by
  have distinct := nodup_blockNames_of_validate valid
  unfold checkInvariants
  generalize domain.invariants = blocks at distinct
  induction blocks with
  | nil => exact List.nodup_nil
  | cons block rest induction =>
      obtain ⟨once, restDistinct⟩ := List.nodup_cons.1 distinct
      rw [List.flatMap_cons, Check.names_append, List.nodup_append]
      refine ⟨Check.nodup_names_ofClauses .., induction restDistinct, ?_⟩
      rintro name ofBlock other ofRest rfl
      obtain ⟨position, -, rfl⟩ := Check.mem_names_ofClauses.1 ofBlock
      obtain ⟨later, member, ofLater⟩ := Check.mem_names_flatMap.1 ofRest
      obtain ⟨place, -, same⟩ := Check.mem_names_ofClauses.1 ofLater
      exact once (List.mem_map.2 ⟨later, member, (clauseName_inj same).1.symm⟩)

end Domain

namespace Behavior

theorem nodup_names_plain (behavior : Behavior) {context : Context}
    (valid : context.domain.validate = .ok ()) :
    (Check.names (behavior.checkInvariants context ++
      context.domain.checkInvariants context)).Nodup := by
  rw [Check.names_append, List.nodup_append]
  refine ⟨Check.nodup_names_ofClauses ..,
    Domain.nodup_names_checkInvariants valid context, ?_⟩
  rintro name ofBehavior other ofBlock rfl
  obtain ⟨position, -, rfl⟩ := Check.mem_names_ofClauses.1 ofBehavior
  obtain ⟨block, member, place, -, same⟩ := Domain.mem_names_checkInvariants.1 ofBlock
  have notReserved := Domain.not_reserved_of_validate valid block member
  rw [← (clauseName_inj same).1] at notReserved
  exact absurd notReserved (by decide)

theorem plain_prefix_checkAllInvariants (behavior : Behavior) {context : Context}
    (valid : context.domain.validate = .ok ()) :
    behavior.checkInvariants context ++ context.domain.checkInvariants context <+:
      behavior.checkAllInvariants context :=
  Check.prefix_nameApart (behavior.nodup_names_plain valid) (by simp) _

theorem standsAlone_plain {behavior : Behavior} {before after : Context}
    {outcome : Outcome} (valid : after.domain.validate = .ok ()) {label : String}
    (plain : IsPlainLabel after.domain label) {position number : Nat} {clause : Expr}
    (found : (behavior.checkInvariants after ++
      after.domain.checkInvariants after)[position]? =
      some (Check.ofClause .invariant (clauseName label number) after clause)) :
    Check.StandsAlone
      (behavior.checkPreconditions before ++ behavior.checkPostconditions after outcome ++
        behavior.checkAllInvariants after)
      ((behavior.checkPreconditions before ++
        behavior.checkPostconditions after outcome).length + position)
      (Check.ofClause .invariant (clauseName label number) after clause) := by
  have here : (behavior.checkAllInvariants after)[position]? =
      some (Check.ofClause .invariant (clauseName label number) after clause) := by
    obtain ⟨rest, split⟩ := behavior.plain_prefix_checkAllInvariants valid
    rw [← split, List.getElem?_append_left (List.getElem?_eq_some_iff.1 found).1]
    exact found
  -- Among the invariants the names differ anyway; the label keeps the check
  -- apart from the other two kinds.
  refine (Check.standsAlone_of_nodup (behavior.nodup_names_checkAllInvariants after)
    here).append ?_
  rw [Check.name_ofClause, Check.names_append, List.mem_append]
  rintro (ofPrecondition | ofPostcondition)
  · obtain ⟨place, -, same⟩ := Check.mem_names_ofClauses.1 ofPrecondition
    exact plain.ne_precondition valid (clauseName_inj same).1
  · obtain ⟨condition, -, other, -, same⟩ := mem_names_checkPostconditions ofPostcondition
    exact plain.ne_postconditionLabel valid condition (clauseName_inj same).1

theorem invariant_names_stand_alone (behavior : Behavior) (before after : Context)
    (outcome : Outcome) (valid : after.domain.validate = .ok ()) :
    let others :=
      behavior.checkPreconditions before ++ behavior.checkPostconditions after outcome
    let checks := others ++ behavior.checkAllInvariants after
    (∀ position clause, behavior.invariants[position]? = some clause →
      Check.StandsAlone checks (others.length + position)
        (Check.ofClause .invariant (clauseName "behavior" (position + 1)) after clause)) ∧
    ∀ earlier block later, after.domain.invariants = earlier ++ block :: later →
      ∀ position clause, block.predicates[position]? = some clause →
        Check.StandsAlone checks
          (others.length +
            (behavior.invariants.length +
              (sumOver (·.predicates.length) earlier + position)))
          (Check.ofClause .invariant (clauseName block.name (position + 1))
            after clause) := by
  intro others checks
  have ofBehavior : (behavior.checkInvariants after).length =
    behavior.invariants.length := Check.length_ofClauses ..
  constructor
  · intro position clause inside
    refine standsAlone_plain valid (.inl rfl) ?_
    have bound : position < (behavior.checkInvariants after).length := by
      rw [ofBehavior]
      exact (List.getElem?_eq_some_iff.1 inside).1
    rw [List.getElem?_append_left bound]
    exact Check.getElem?_ofClauses inside
  · intro earlier block later blocks position clause inside
    refine standsAlone_plain valid (.inr ⟨block, by simp [blocks], rfl⟩) ?_
    rw [← ofBehavior, List.getElem?_append_right (Nat.le_add_right ..),
      Nat.add_sub_cancel_left]
    refine getElem?_flatMap_eq_some_iff.2 ⟨earlier, block, later, position, blocks,
      Check.getElem?_ofClauses inside, ?_⟩
    simp only [Check.length_ofClauses]

def transfer : Behavior where
  name := "Transfer"
  preconditions := [.literal (.bool true)]
  postconditions := [⟨.success, [.literal (.bool true)]⟩]
  invariants := [.literal (.bool true)]

def ledger : Domain where
  name := "Ledger"
  behaviors := [transfer]
  invariants := [
    { name := "Total", predicates := [.literal (.bool true)] },
    { name := "Total_1", predicates := [.literal (.bool true)] }]

def ledgerContext : Context :=
  { domain := ledger, instances := ∅, input := .null, now := ⟨0, 0⟩ }

theorem invariant_names_stand_alone_ledger :
    ledgerContext.domain.validate = .ok () ∧
      Check.StandsAlone
        (transfer.checkPreconditions ledgerContext ++
          transfer.checkPostconditions ledgerContext .success ++
          transfer.checkAllInvariants ledgerContext)
        4 (Check.ofClause .invariant "Total_1_1" ledgerContext
          (.literal (.bool true))) := by
  have valid : ledgerContext.domain.validate = .ok () := rfl
  have alone :=
    (invariant_names_stand_alone transfer ledgerContext ledgerContext .success valid).2
    [{ name := "Total", predicates := [.literal (.bool true)] }] _ [] rfl 0 _ rfl
  exact ⟨valid, alone⟩

end Behavior

end BehaviorContract
