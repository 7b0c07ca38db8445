import BehaviorContract.Domain.Fault

/-! Well-formed domains. The three searches for a fault are one: a list is gone
through with the names that have been seen, and the first element at fault ends
it. So a domain is accepted exactly if it is well formed, and a fault that is
found stands where the domain is well formed up to it. -/

namespace BehaviorContract

/-- A search for the first fault of a list. An element without a fault has a
name that was not seen and is good by itself. -/
structure FaultSearch (α : Type) where
  name : α → String
  faultAfter : List String → α → Option Fault
  Good : α → Prop
  faultless : ∀ seen element,
    faultAfter seen element = none ↔ name element ∉ seen ∧ Good element

namespace FaultSearch

variable {α : Type} (search : FaultSearch α)

def run (seen : List String) : List α → Except Fault Unit
  | [] => .ok ()
  | element :: rest =>
      (search.faultAfter seen element).elim
        (run (search.name element :: seen) rest) .error

def Accepts (elements : List α) : Prop :=
  (elements.map search.name).Nodup ∧ ∀ element ∈ elements, search.Good element

section Run

variable {search} {seen : List String} {element : α}

theorem run_cons_of_fault {fault : Fault}
    (found : search.faultAfter seen element = some fault) (rest : List α) :
    search.run seen (element :: rest) = .error fault := by
  rw [run, found]
  rfl

theorem run_cons_of_none (found : search.faultAfter seen element = none) (rest : List α) :
    search.run seen (element :: rest) =
      search.run (search.name element :: seen) rest := by
  rw [run, found]
  rfl

theorem run_eq_ok_iff {elements : List α} :
    search.run seen elements = .ok () ↔
      search.Accepts elements ∧ ∀ element ∈ elements, search.name element ∉ seen := by
  induction elements generalizing seen with
  | nil => simp [run, Accepts]
  | cons first rest induction =>
      have apart : search.name first ∉ rest.map search.name ↔
          ∀ element ∈ rest, search.name element ≠ search.name first := by
        simp only [List.mem_map, not_exists, not_and]
      have ofFirst := search.faultless seen first
      simp only [Accepts, List.map_cons, List.nodup_cons, apart, List.forall_mem_cons]
      cases found : search.faultAfter seen first with
      | some fault =>
          rw [run_cons_of_fault found]
          rw [found] at ofFirst
          grind
      | none =>
          rw [run_cons_of_none found, induction]
          rw [found] at ofFirst
          simp only [Accepts, List.mem_cons, not_or]
          grind

theorem run_eq_error_iff {elements : List α} {fault : Fault} :
    search.run seen elements = .error fault ↔
      ∃ earlier element later, elements = earlier ++ element :: later ∧
        search.run seen earlier = .ok () ∧
        search.faultAfter ((earlier.map search.name).reverse ++ seen) element =
          some fault := by
  induction elements generalizing seen with
  | nil => simp [run]
  | cons first rest induction =>
      cases found : search.faultAfter seen first with
      | some other =>
          rw [run_cons_of_fault found]
          constructor
          · rintro ⟨⟩
            exact ⟨[], first, rest, rfl, rfl, found⟩
          · rintro ⟨earlier, element, later, split, accepted, fails⟩
            cases earlier with
            | nil =>
                cases split
                cases found.symm.trans fails
                rfl
            | cons _ earlier =>
                cases split
                rw [run_cons_of_fault found] at accepted
                cases accepted
      | none =>
          rw [run_cons_of_none found, induction]
          constructor
          · rintro ⟨earlier, element, later, rfl, accepted, fails⟩
            refine ⟨first :: earlier, element, later, rfl, ?_, ?_⟩
            · rw [run_cons_of_none found, accepted]
            · rw [List.map_cons, List.reverse_cons, List.append_assoc]
              exact fails
          · rintro ⟨earlier, element, later, split, accepted, fails⟩
            cases earlier with
            | nil =>
                cases split
                cases found.symm.trans fails
            | cons _ earlier =>
                cases split
                rw [run_cons_of_none found] at accepted
                rw [List.map_cons, List.reverse_cons, List.append_assoc] at fails
                exact ⟨earlier, element, later, rfl, accepted, fails⟩

end Run

variable {elements : List α}

theorem run_nil_eq_ok_iff :
    search.run [] elements = .ok () ↔ search.Accepts elements := by
  simp [run_eq_ok_iff]

theorem run_nil_eq_error_iff {fault : Fault} :
    search.run [] elements = .error fault ↔
      ∃ earlier element later, elements = earlier ++ element :: later ∧
        search.Accepts earlier ∧
        search.faultAfter (earlier.map search.name).reverse element = some fault := by
  simp only [run_eq_error_iff, run_nil_eq_ok_iff, List.append_nil]

theorem accepts_nil : search.Accepts [] :=
  ⟨List.nodup_nil, by simp⟩

theorem accepts_append_singleton {element : α} :
    search.Accepts (elements ++ [element]) ↔
      search.Accepts elements ∧ search.name element ∉ elements.map search.name ∧
        search.Good element := by
  simp only [Accepts, List.map_append, List.map_singleton, List.nodup_append,
    List.forall_mem_append, List.forall_mem_singleton]
  grind

end FaultSearch

def Behavior.DeclaresNamed (behavior : Behavior) : Prop :=
  ∀ block ∈ behavior.postconditions, ∀ code, block.condition = .named code →
    ∃ error ∈ behavior.errors, error.name = code

/-- Says that a block of invariants may have this name. -/
structure IsFreeName (name : String) : Prop where
  notEmpty : name ≠ ""
  notBehavior : name ≠ "behavior"
  notPrecondition : name ≠ "precondition"
  notPostcondition : ¬ "postcondition".toList <+: name.toList
  notInvariant : ¬ "_invariant".toList <:+ name.toList

theorem isFreeName_iff {name : String} :
    IsFreeName name ↔ ¬ (name = "" ∨ isReservedBlockName name = true) := by
  simp only [isReservedBlockName, Text.startsWith, Text.endsWith, Bool.or_eq_true,
    beq_iff_eq, List.isPrefixOf_iff_prefix, List.isSuffixOf_iff_suffix, not_or]
  constructor
  · intro free
    exact ⟨free.notEmpty, ⟨⟨free.notBehavior, free.notPrecondition⟩,
      free.notPostcondition⟩, free.notInvariant⟩
  · rintro ⟨notEmpty, ⟨⟨notBehavior, notPrecondition⟩, notPostcondition⟩, notInvariant⟩
    exact ⟨notEmpty, notBehavior, notPrecondition, notPostcondition, notInvariant⟩

namespace Domain

structure WellFormed (domain : Domain) : Prop where
  entities : (domain.entities.map (·.name)).Nodup
  behaviors : (domain.behaviors.map (·.name)).Nodup
  conditions : ∀ behavior ∈ domain.behaviors, behavior.DeclaresNamed
  blocks : (domain.invariants.map (·.name)).Nodup
  blockNames : ∀ block ∈ domain.invariants, IsFreeName block.name

/-- Says that a fault is the first one: the domain that ends before the offender
is well formed. -/
inductive FirstFault (domain : Domain) : Fault → Prop
  | entity {earlier later : List Entity} {entity : Entity}
      (split : domain.entities = earlier ++ entity :: later)
      (before : WellFormed
        { domain with entities := earlier, behaviors := [], invariants := [] })
      (repeated : entity.name ∈ earlier.map (·.name)) :
      FirstFault domain (.duplicateEntity entity.name)
  | behavior {earlier later : List Behavior} {behavior : Behavior}
      (split : domain.behaviors = earlier ++ behavior :: later)
      (before : WellFormed { domain with behaviors := earlier, invariants := [] })
      (repeated : behavior.name ∈ earlier.map (·.name)) :
      FirstFault domain (.duplicateBehavior behavior.name)
  | condition {earlier later : List Behavior} {behavior : Behavior}
      {passed others : List PostconditionBlock}
      {block : PostconditionBlock} {code : String}
      (split : domain.behaviors = earlier ++ behavior :: later)
      (blocks : behavior.postconditions = passed ++ block :: others)
      (before : WellFormed
        { domain with behaviors := earlier ++ [{ behavior with
          postconditions := passed }], invariants := [] })
      (named : block.condition = .named code)
      (undeclared : ∀ error ∈ behavior.errors, error.name ≠ code) :
      FirstFault domain (.undeclaredError behavior.name code)
  | blockName {earlier later : List InvariantBlock} {block : InvariantBlock}
      (split : domain.invariants = earlier ++ block :: later)
      (before : WellFormed { domain with invariants := earlier })
      (taken : ¬ IsFreeName block.name) : FirstFault domain (.invalidBlockName block.name)
  | block {earlier later : List InvariantBlock} {block : InvariantBlock}
      (split : domain.invariants = earlier ++ block :: later)
      (before : WellFormed { domain with invariants := earlier })
      (free : IsFreeName block.name) (repeated : block.name ∈ earlier.map (·.name)) :
      FirstFault domain (.duplicateBlock block.name)

section Searches

def entitySearch : FaultSearch Entity where
  name := (·.name)
  faultAfter := fun seen entity =>
    if entity.name ∈ seen then some (.duplicateEntity entity.name) else none
  Good := fun _ => True
  faultless := by simp

theorem entityFault_eq_run (seen : List String) (entities : List Entity) :
    entityFault seen entities = entitySearch.run seen entities := by
  induction entities generalizing seen with
  | nil => rfl
  | cons entity rest induction =>
      rw [entityFault, induction]
      split
      · rename_i repeated
        exact (FaultSearch.run_cons_of_fault (if_pos repeated) rest).symm
      · rename_i new
        exact (FaultSearch.run_cons_of_none (if_neg new) rest).symm

theorem declares_iff {behavior : Behavior} {code : String} :
    behavior.declares code = true ↔ ∃ error ∈ behavior.errors, error.name = code := by
  simp [Behavior.declares]

def undeclared? (behavior : Behavior) (block : PostconditionBlock) : Option Fault :=
  match block.condition with
  | .named code =>
      if behavior.declares code then none else some (.undeclaredError behavior.name code)
  | .success | .anyError => none

theorem undeclared?_eq_some_iff {behavior : Behavior} {block : PostconditionBlock}
    {fault : Fault} :
    undeclared? behavior block = some fault ↔
      ∃ code, block.condition = .named code ∧
        (∀ error ∈ behavior.errors, error.name ≠ code) ∧
        .undeclaredError behavior.name code = fault := by
  unfold undeclared?
  cases block.condition with
  | named code => simp [declares_iff]
  | _ => simp

theorem undeclared?_eq_none_iff {behavior : Behavior} {block : PostconditionBlock} :
    undeclared? behavior block = none ↔
      ∀ code, block.condition = .named code →
        ∃ error ∈ behavior.errors, error.name = code := by
  unfold undeclared?
  cases block.condition with
  | named code => simp [declares_iff]
  | _ => simp

theorem conditionFault_eq (behavior : Behavior) (blocks : List PostconditionBlock) :
    conditionFault behavior blocks =
      (blocks.findSome? (undeclared? behavior)).elim (.ok ()) .error := by
  induction blocks with
  | nil => rfl
  | cons block rest induction =>
      rw [conditionFault, List.findSome?_cons, undeclared?, induction]
      cases block.condition with
      | named code => cases declared : behavior.declares code <;> simp [declared]
      | _ => rfl

def behaviorSearch : FaultSearch Behavior where
  name := (·.name)
  faultAfter := fun seen behavior =>
    if behavior.name ∈ seen then some (.duplicateBehavior behavior.name)
    else behavior.postconditions.findSome? (undeclared? behavior)
  Good := Behavior.DeclaresNamed
  faultless := by
    intro seen behavior
    split
    · simp [*]
    · simp [*, undeclared?_eq_none_iff, Behavior.DeclaresNamed]

theorem behaviorFault_eq_run (seen : List String) (behaviors : List Behavior) :
    behaviorFault seen behaviors = behaviorSearch.run seen behaviors := by
  induction behaviors generalizing seen with
  | nil => rfl
  | cons behavior rest induction =>
      rw [behaviorFault, conditionFault_eq, induction]
      split
      · rename_i repeated
        exact (FaultSearch.run_cons_of_fault (if_pos repeated) rest).symm
      · rename_i new
        cases found : behavior.postconditions.findSome? (undeclared? behavior) with
        | some fault =>
            exact (FaultSearch.run_cons_of_fault ((if_neg new).trans found) rest).symm
        | none =>
            exact (FaultSearch.run_cons_of_none ((if_neg new).trans found) rest).symm

def blockSearch : FaultSearch InvariantBlock where
  name := (·.name)
  faultAfter := fun seen block =>
    if block.name = "" ∨ isReservedBlockName block.name then
      some (.invalidBlockName block.name)
    else if block.name ∈ seen then some (.duplicateBlock block.name)
    else none
  Good := fun block => IsFreeName block.name
  faultless := by
    intro seen block
    rw [isFreeName_iff]
    split <;> simp [*]

theorem blockFault_eq_run (seen : List String) (blocks : List InvariantBlock) :
    blockFault seen blocks = blockSearch.run seen blocks := by
  induction blocks generalizing seen with
  | nil => rfl
  | cons block rest induction =>
      rw [blockFault, induction]
      split
      · rename_i taken
        exact (FaultSearch.run_cons_of_fault (if_pos taken) rest).symm
      · rename_i free
        split
        · rename_i repeated
          exact (FaultSearch.run_cons_of_fault
            ((if_neg free).trans (if_pos repeated)) rest).symm
        · rename_i new
          exact (FaultSearch.run_cons_of_none
            ((if_neg free).trans (if_neg new)) rest).symm

end Searches

section Validate

variable {domain : Domain} {fault : Fault}

theorem wellFormed_iff :
    domain.WellFormed ↔
      entitySearch.Accepts domain.entities ∧ behaviorSearch.Accepts domain.behaviors ∧
        blockSearch.Accepts domain.invariants := by
  constructor
  · intro wellFormed
    exact ⟨⟨wellFormed.entities, fun _ _ => trivial⟩,
      ⟨wellFormed.behaviors, wellFormed.conditions⟩,
      wellFormed.blocks, wellFormed.blockNames⟩
  · rintro ⟨⟨entities, -⟩, ⟨behaviors, conditions⟩, blocks, blockNames⟩
    exact ⟨entities, behaviors, conditions, blocks, blockNames⟩

theorem validate_eq_ok_iff : domain.validate = .ok () ↔ domain.WellFormed := by
  rw [wellFormed_iff, validate, entityFault_eq_run, behaviorFault_eq_run,
    blockFault_eq_run, ← FaultSearch.run_nil_eq_ok_iff, ← FaultSearch.run_nil_eq_ok_iff,
    ← FaultSearch.run_nil_eq_ok_iff]
  cases entitySearch.run [] domain.entities with
  | error => simp
  | ok =>
      cases behaviorSearch.run [] domain.behaviors with
      | error => simp
      | ok => simp

theorem validate_eq_error_iff :
    domain.validate = .error fault ↔
      entitySearch.run [] domain.entities = .error fault ∨
        entitySearch.Accepts domain.entities ∧
          (behaviorSearch.run [] domain.behaviors = .error fault ∨
            behaviorSearch.Accepts domain.behaviors ∧
              blockSearch.run [] domain.invariants = .error fault) := by
  rw [validate, entityFault_eq_run, behaviorFault_eq_run, blockFault_eq_run,
    ← FaultSearch.run_nil_eq_ok_iff, ← FaultSearch.run_nil_eq_ok_iff]
  cases entitySearch.run [] domain.entities with
  | error => simp
  | ok =>
      cases behaviorSearch.run [] domain.behaviors with
      | error => simp
      | ok => simp

theorem not_reserved_of_validate (valid : domain.validate = .ok ()) :
    ∀ block ∈ domain.invariants, isReservedBlockName block.name = false := by
  intro block member
  have free := (validate_eq_ok_iff.1 valid).blockNames block member
  exact Bool.eq_false_iff.2 fun reserved => isFreeName_iff.1 free (.inr reserved)

theorem nodup_blockNames_of_validate
    (valid : domain.validate = .ok ()) : (domain.invariants.map (·.name)).Nodup :=
  (validate_eq_ok_iff.1 valid).blocks

end Validate

section Offenders

variable {domain : Domain} {seen : List String} {fault : Fault}

theorem faultAfter_entity {entity : Entity} :
    entitySearch.faultAfter seen entity = some fault ↔
      entity.name ∈ seen ∧ .duplicateEntity entity.name = fault := by
  simp [entitySearch]

theorem faultAfter_behavior {behavior : Behavior} :
    behaviorSearch.faultAfter seen behavior = some fault ↔
      behavior.name ∈ seen ∧ .duplicateBehavior behavior.name = fault ∨
      behavior.name ∉ seen ∧ ∃ passed block others code,
        behavior.postconditions = passed ++ block :: others ∧
          { behavior with postconditions := passed }.DeclaresNamed ∧
            block.condition = .named code ∧
          (∀ error ∈ behavior.errors, error.name ≠ code) ∧
            .undeclaredError behavior.name code = fault := by
  by_cases repeated : behavior.name ∈ seen
  · simp [behaviorSearch, repeated]
  · have declared (passed : List PostconditionBlock) :
        { behavior with postconditions := passed }.DeclaresNamed ↔
          ∀ block ∈ passed, undeclared? behavior block = none := by
      simp only [Behavior.DeclaresNamed, undeclared?_eq_none_iff]
    simp only [behaviorSearch, if_neg repeated, List.findSome?_eq_some_iff,
      undeclared?_eq_some_iff, declared]
    constructor
    · rintro ⟨passed, block, others, split, ⟨code, named, undeclared, same⟩, fine⟩
      exact .inr ⟨repeated, passed, block, others, code, split, fine, named,
        undeclared, same⟩
    · rintro (⟨again, -⟩ | ⟨-, passed, block, others, code, split, fine, named,
        undeclared, same⟩)
      · exact absurd again repeated
      · exact ⟨passed, block, others, split, ⟨code, named, undeclared, same⟩, fine⟩

theorem faultAfter_block {block : InvariantBlock} :
    blockSearch.faultAfter seen block = some fault ↔
      ¬ IsFreeName block.name ∧ .invalidBlockName block.name = fault ∨
      IsFreeName block.name ∧ block.name ∈ seen ∧ .duplicateBlock block.name = fault := by
  rw [isFreeName_iff, Decidable.not_not]
  by_cases taken : block.name = "" ∨ isReservedBlockName block.name = true
  · simp [blockSearch, taken]
  · simp [blockSearch, taken]

theorem firstFault_of_validate
    (failed : domain.validate = .error fault) : domain.FirstFault fault := by
  obtain ofEntities | ⟨entities, ofBehaviors | ⟨behaviors, ofBlocks⟩⟩ :=
    validate_eq_error_iff.1 failed
  · obtain ⟨earlier, entity, later, split, accepted, found⟩ :=
      (FaultSearch.run_nil_eq_error_iff _).1 ofEntities
    obtain ⟨repeated, rfl⟩ := faultAfter_entity.1 found
    refine .entity split (wellFormed_iff.2 ?_) (List.mem_reverse.1 repeated)
    exact ⟨accepted, behaviorSearch.accepts_nil, blockSearch.accepts_nil⟩
  · obtain ⟨earlier, behavior, later, split, accepted, found⟩ :=
      (FaultSearch.run_nil_eq_error_iff _).1 ofBehaviors
    obtain ⟨repeated, rfl⟩ | ⟨new, passed, block, others, code, blocks, fine, named,
        undeclared, rfl⟩ :=
      faultAfter_behavior.1 found
    · refine .behavior split (wellFormed_iff.2 ?_) (List.mem_reverse.1 repeated)
      exact ⟨entities, accepted, blockSearch.accepts_nil⟩
    · refine .condition split blocks
        (wellFormed_iff.2 ⟨entities, ?_, blockSearch.accepts_nil⟩) named undeclared
      exact behaviorSearch.accepts_append_singleton.2 ⟨accepted,
        mt List.mem_reverse.2 new, fine⟩
  · obtain ⟨earlier, block, later, split, accepted, found⟩ :=
      (FaultSearch.run_nil_eq_error_iff _).1 ofBlocks
    obtain ⟨taken, rfl⟩ | ⟨free, repeated, rfl⟩ := faultAfter_block.1 found
    · exact .blockName split (wellFormed_iff.2 ⟨entities, behaviors, accepted⟩) taken
    · exact .block split (wellFormed_iff.2 ⟨entities, behaviors, accepted⟩) free
        (List.mem_reverse.1 repeated)

theorem FirstFault.validate_eq_error (first : domain.FirstFault fault) :
    domain.validate = .error fault := by
  rw [validate_eq_error_iff, FaultSearch.run_nil_eq_error_iff,
    FaultSearch.run_nil_eq_error_iff, FaultSearch.run_nil_eq_error_iff]
  cases first with
  | entity split before repeated =>
      have accepted := (wellFormed_iff.1 before).1
      exact .inl ⟨_, _, _, split, accepted,
        faultAfter_entity.2 ⟨List.mem_reverse.2 repeated, rfl⟩⟩
  | behavior split before repeated =>
      obtain ⟨entities, accepted, -⟩ := wellFormed_iff.1 before
      have found := faultAfter_behavior.2 (.inl ⟨List.mem_reverse.2 repeated, rfl⟩)
      exact .inr ⟨entities, .inl ⟨_, _, _, split, accepted, found⟩⟩
  | condition split blocks before named undeclared =>
      obtain ⟨entities, passes, -⟩ := wellFormed_iff.1 before
      obtain ⟨accepted, new, fine⟩ := behaviorSearch.accepts_append_singleton.1 passes
      have found := faultAfter_behavior.2
        (.inr ⟨mt List.mem_reverse.1 new, _, _, _, _, blocks, fine, named,
          undeclared, rfl⟩)
      exact .inr ⟨entities, .inl ⟨_, _, _, split, accepted, found⟩⟩
  | blockName split before taken =>
      obtain ⟨entities, behaviors, accepted⟩ := wellFormed_iff.1 before
      exact .inr ⟨entities, .inr ⟨behaviors, _, _, _, split, accepted,
        faultAfter_block.2 (.inl ⟨taken, rfl⟩)⟩⟩
  | block split before free repeated =>
      obtain ⟨entities, behaviors, accepted⟩ := wellFormed_iff.1 before
      have found := faultAfter_block.2 (.inr ⟨free, List.mem_reverse.2 repeated, rfl⟩)
      exact .inr ⟨entities, .inr ⟨behaviors, _, _, _, split, accepted, found⟩⟩

end Offenders

end Domain

def Fault.names : Fault → List String
  | .duplicateEntity name | .duplicateBehavior name | .invalidBlockName
    name | .duplicateBlock name => [name]
  | .undeclaredError behavior code => [behavior, code]

theorem Fault.message_shows (fault : Fault) :
    ∀ name ∈ fault.names, name.toList <:+: fault.message.toList := by
  have last (before name after : String) :
      name.toList <:+: (before ++ name ++ after).toList :=
    ⟨before.toList, after.toList, by simp⟩
  have first (before name between other after : String) :
      name.toList <:+: (before ++ name ++ between ++ other ++ after).toList :=
    ⟨before.toList, between.toList ++ (other.toList ++ after.toList), by simp⟩
  intro name member
  cases fault with
  | undeclaredError behavior code =>
      rcases List.mem_cons.1 member with rfl | member
      · exact first _ name _ code _
      · obtain rfl := List.mem_singleton.1 member
        exact last _ name _
  | _ =>
      obtain rfl := List.mem_singleton.1 member
      exact last _ name _

namespace Domain

theorem validate_decides_wellFormed (domain : Domain) :
    (domain.validate = .ok () ↔ domain.WellFormed) ∧
      (∀ fault, domain.validate = .error fault ↔ domain.FirstFault fault) ∧
      ∀ fault, domain.validate = .error fault →
        ∀ name ∈ fault.names, name.toList <:+: fault.message.toList :=
  ⟨validate_eq_ok_iff, fun _ => ⟨firstFault_of_validate, FirstFault.validate_eq_error⟩,
    fun fault _ => fault.message_shows⟩

/-- A domain with two faults: a behavior names an error that only the other one
declares, and a block has a reserved name. -/
def shop : Domain where
  name := "Shop"
  entities := [{ name := "Item" }]
  behaviors := [
    { name := "Buy", errors := [{ name := "SOLD_OUT" }],
      postconditions := [⟨.named "SOLD_OUT", []⟩] },
    { name := "Return", postconditions := [⟨.success, []⟩, ⟨.named "SOLD_OUT", []⟩] }]
  invariants := [{ name := "Item_invariant" }]

theorem validate_decides_wellFormed_shop :
    shop.validate = .error (.undeclaredError "Return" "SOLD_OUT") ∧
      shop.FirstFault (.undeclaredError "Return" "SOLD_OUT") ∧ ¬ shop.WellFormed ∧
      "SOLD_OUT".toList <:+:
    "behavior 'Return' has a postcondition block for undeclared error 'SOLD_OUT'".toList ∧
      { shop with behaviors := [], invariants := [] }.WellFormed := by
  have failed : shop.validate = .error (.undeclaredError "Return" "SOLD_OUT") := rfl
  obtain ⟨accepts, rejects, shows⟩ := validate_decides_wellFormed shop
  refine ⟨failed, (rejects _).1 failed, ?_,
    shows _ failed "SOLD_OUT" (by simp [Fault.names]), ?_⟩
  · intro wellFormed
    cases failed.symm.trans (accepts.2 wellFormed)
  · exact (validate_decides_wellFormed _).1.1 rfl

end Domain

end BehaviorContract
