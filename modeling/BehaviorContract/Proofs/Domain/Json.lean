import BehaviorContract.Domain.Json
import BehaviorContract.Proofs.Expr.Json

namespace BehaviorContract

open FieldReader

namespace Field

theorem ofJson?_toJson (field : Field) : ofJson? field.toJson = some field := by
  apply Json.decodeRecord_of_finds
  apply (finds_required (by rfl) (by rfl)).bind
  apply (finds_required (by rfl) (by rfl)).bind
  apply (finds_defaulted (by rfl) (by rfl)).bind
  exact finds_pure _

theorem legible_toJson (field : Field) : field.toJson.Legible :=
  ⟨trivial, trivial, trivial, trivial⟩

theorem depth_toJson_le {json : Json} {field : Field}
    (reads : ofJson? json = some field) :
    field.toJson.depth ≤ json.depth :=
  Json.depth_pos_of_decodeRecord reads

end Field

namespace ErrorSpec

theorem ofJson?_toJson (error : ErrorSpec) : ofJson? error.toJson = some error := by
  apply Json.decodeRecord_of_finds
  apply (finds_required (by rfl) (by rfl)).bind
  apply (finds_optionalText (by rfl)).bind
  apply (finds_defaulted (by rfl) (by rfl)).bind
  exact finds_pure _

theorem legible_toJson (error : ErrorSpec) : error.toJson.Legible :=
  ⟨trivial, Json.legible_ofOption_text _, trivial, trivial⟩

theorem depth_toJson_le {json : Json} {error : ErrorSpec}
    (reads : ofJson? json = some error) :
    error.toJson.depth ≤ json.depth := by
  have positive := Json.depth_pos_of_decodeRecord reads
  simp only [toJson, Json.depth, Json.depthEntries, Json.depth_ofOption_text]
  omega

end ErrorSpec

-- A list that is left out is written as an empty array, so one level inside a
-- record is always there: the bounds below start at two, and grow by two with
-- each list of records around.

theorem gives_exprs (limit : Nat) (key : String) :
    Gives (fun part => part.depth < limit)
        (defaulted key [] (Json.list? Expr.ofJson?)) fun exprs =>
      (Json.array (exprs.map Expr.toJson)).depth < max 2 limit :=
  gives_shallowList Expr.toJson (fun _ _ => Expr.depth_toJson_le) limit key

theorem list?_exprs {exprs : List Expr} (free : exprs.all Expr.floatFree = true) :
    (Json.array (exprs.map Expr.toJson)).list? Expr.ofJson? = some exprs :=
  Json.list?_map_self fun expr mem =>
    Expr.ofJson?_toJson (List.all_eq_true.1 free expr mem)

theorem legible_exprs {exprs : List Expr} (free : exprs.all Expr.floatFree = true) :
    (Json.array (exprs.map Expr.toJson)).Legible :=
  Json.legible_map fun expr mem => Expr.legible_toJson (List.all_eq_true.1 free expr mem)

namespace Entity

variable {entity : Entity}

theorem ofJson?_toJson (free : entity.invariants.all Expr.floatFree = true) :
    ofJson? entity.toJson = some entity := by
  apply Json.decodeRecord_of_finds
  apply (finds_required (by rfl) (by rfl)).bind
  apply (finds_defaulted (by rfl)
    (Json.list?_map_self fun field _ => field.ofJson?_toJson)).bind
  apply (finds_defaulted (by rfl) (list?_exprs free)).bind
  exact finds_pure _

theorem legible_toJson (free : entity.invariants.all Expr.floatFree = true) :
    entity.toJson.Legible :=
  ⟨trivial, Json.legible_map fun field _ => field.legible_toJson,
    legible_exprs free, trivial⟩

theorem depth_toJson_le {json : Json} (reads : ofJson? json = some entity) :
    entity.toJson.depth ≤ max 2 json.depth := by
  refine Json.holds_of_decodeRecord
    (P := fun entity => entity.toJson.depth ≤ max 2 json.depth) ?_ reads
  apply gives_required_any.bind
  intro name _
  apply (gives_shallowList Field.toJson (fun _ _ => Field.depth_toJson_le)
    json.depth "fields").bind
  intro fields ofFields
  apply (gives_exprs json.depth "invariants").bind
  intro invariants ofInvariants
  apply gives_pure
  rw [toJson, Json.depth]
  simp only [Json.depthEntries, Json.depth] at ofFields ofInvariants ⊢
  omega

end Entity

/-- Says that a condition is the one that its text is read as. An error can have
the name of another condition. -/
def Condition.Read (condition : Condition) : Prop :=
  ofText condition.text = condition

theorem Condition.read_ofText (text : String) : (ofText text).Read := by
  unfold Condition.Read ofText
  split
  · rfl
  split
  · rfl
  · rename_i notSuccess notAnyError
    simp [Condition.text, notSuccess, notAnyError]

theorem Condition.ofJson?_toJson {condition : Condition} (read : condition.Read) :
    ofJson? condition.toJson = some condition :=
  congrArg some read

namespace PostconditionBlock

variable {block : PostconditionBlock}

theorem ofJson?_toJson (read : block.condition.Read)
    (free : block.predicates.all Expr.floatFree = true) :
    ofJson? block.toJson = some block := by
  apply Json.decodeRecord_of_finds
  apply (finds_required (by rfl) (Condition.ofJson?_toJson read)).bind
  apply (finds_defaulted (by rfl) (list?_exprs free)).bind
  exact finds_pure _

theorem legible_toJson (free : block.predicates.all Expr.floatFree = true) :
    block.toJson.Legible :=
  ⟨trivial, legible_exprs free, trivial⟩

theorem depth_le_and_read {json : Json} (reads : ofJson? json = some block) :
    block.toJson.depth ≤ max 2 json.depth ∧ block.condition.Read := by
  refine Json.holds_of_decodeRecord
    (P := fun block => block.toJson.depth ≤ max 2 json.depth ∧ block.condition.Read)
      ?_ reads
  apply (gives_required (P := Condition.Read) ?_).bind
  · intro condition read
    apply (gives_exprs json.depth "predicates").bind
    intro predicates ofPredicates
    apply gives_pure
    rw [toJson, Json.depth]
    simp only [Json.depthEntries, Condition.toJson, Json.depth] at ofPredicates ⊢
    exact ⟨by omega, read⟩
  · intro json condition _ reads
    obtain ⟨text, -, rfl⟩ := Option.map_eq_some_iff.1 reads
    exact Condition.read_ofText text

end PostconditionBlock

namespace Behavior

def floatFree (behavior : Behavior) : Bool :=
  behavior.preconditions.all Expr.floatFree &&
    behavior.postconditions.all (·.predicates.all Expr.floatFree) &&
    behavior.invariants.all Expr.floatFree

def Read (behavior : Behavior) : Prop :=
  ∀ block ∈ behavior.postconditions, block.condition.Read

variable {behavior : Behavior}

theorem ofJson?_toJson (read : behavior.Read) (free : behavior.floatFree = true) :
    ofJson? behavior.toJson = some behavior := by
  simp only [floatFree, Bool.and_eq_true] at free
  obtain ⟨⟨ofPreconditions, ofPostconditions⟩, ofInvariants⟩ := free
  apply Json.decodeRecord_of_finds
  apply (finds_required (by rfl) (by rfl)).bind
  apply (finds_optionalText (by rfl)).bind
  apply (finds_defaulted (by rfl)
    (Json.list?_map_self fun field _ => field.ofJson?_toJson)).bind
  apply (finds_optionalText (by rfl)).bind
  apply (finds_defaulted (by rfl)
    (Json.list?_map_self fun error _ => error.ofJson?_toJson)).bind
  apply (finds_defaulted (by rfl) (list?_exprs ofPreconditions)).bind
  apply (finds_defaulted (by rfl) (Json.list?_map_self fun block mem =>
    PostconditionBlock.ofJson?_toJson (read block mem)
      (List.all_eq_true.1 ofPostconditions block mem))).bind
  apply (finds_defaulted (by rfl) (list?_exprs ofInvariants)).bind
  exact finds_pure _

theorem legible_toJson (free : behavior.floatFree = true) : behavior.toJson.Legible := by
  simp only [floatFree, Bool.and_eq_true] at free
  obtain ⟨⟨ofPreconditions, ofPostconditions⟩, ofInvariants⟩ := free
  exact ⟨trivial, Json.legible_ofOption_text _,
    Json.legible_map fun field _ => field.legible_toJson,
    Json.legible_ofOption_text _, Json.legible_map fun error _ =>
      error.legible_toJson, legible_exprs ofPreconditions,
    Json.legible_map fun block mem =>
      PostconditionBlock.legible_toJson (List.all_eq_true.1 ofPostconditions block mem),
    legible_exprs ofInvariants, trivial⟩

theorem depth_le_and_read {json : Json} (reads : ofJson? json = some behavior) :
    behavior.toJson.depth ≤ max 4 json.depth ∧ behavior.Read := by
  refine Json.holds_of_decodeRecord
    (P := fun behavior => behavior.toJson.depth ≤ max 4 json.depth ∧ behavior.Read)
      ?_ reads
  apply gives_required_any.bind
  intro name _
  apply gives_defaulted_any.bind
  intro description _
  apply (gives_shallowList Field.toJson (fun _ _ => Field.depth_toJson_le)
    json.depth "input").bind
  intro input ofInput
  apply gives_defaulted_any.bind
  intro output _
  apply (gives_shallowList ErrorSpec.toJson (fun _ _ => ErrorSpec.depth_toJson_le)
    json.depth "errors").bind
  intro errors ofErrors
  apply (gives_exprs json.depth "preconditions").bind
  intro preconditions ofPreconditions
  apply (gives_list PostconditionBlock.toJson 2
    (fun _ _ => PostconditionBlock.depth_le_and_read) json.depth
    "postconditions").bind
  intro postconditions given
  obtain ⟨ofPostconditions, read⟩ := given
  apply (gives_exprs json.depth "invariants").bind
  intro invariants ofInvariants
  apply gives_pure
  refine ⟨?_, read⟩
  rw [toJson, Json.depth]
  simp only [Json.depthEntries, Json.depth_ofOption_text, Json.depth] at *
  omega

end Behavior

namespace InvariantBlock

variable {block : InvariantBlock}

theorem ofJson?_toJson (free : block.predicates.all Expr.floatFree = true) :
    ofJson? block.toJson = some block := by
  apply Json.decodeRecord_of_finds
  apply (finds_required (by rfl) (by rfl)).bind
  apply (finds_optionalText (by rfl)).bind
  apply (finds_defaulted (by rfl) (list?_exprs free)).bind
  exact finds_pure _

theorem legible_toJson (free : block.predicates.all Expr.floatFree = true) :
    block.toJson.Legible :=
  ⟨trivial, Json.legible_ofOption_text _, legible_exprs free, trivial⟩

theorem depth_toJson_le {json : Json} (reads : ofJson? json = some block) :
    block.toJson.depth ≤ max 2 json.depth := by
  refine Json.holds_of_decodeRecord
    (P := fun block => block.toJson.depth ≤ max 2 json.depth) ?_ reads
  apply gives_required_any.bind
  intro name _
  apply gives_defaulted_any.bind
  intro description _
  apply (gives_exprs json.depth "predicates").bind
  intro predicates ofPredicates
  apply gives_pure
  rw [toJson, Json.depth]
  simp only [Json.depthEntries, Json.depth_ofOption_text, Json.depth] at ofPredicates ⊢
  omega

end InvariantBlock

namespace Domain

def floatFree (domain : Domain) : Bool :=
  domain.entities.all (·.invariants.all Expr.floatFree) &&
    domain.behaviors.all Behavior.floatFree &&
    domain.invariants.all (·.predicates.all Expr.floatFree)

def Read (domain : Domain) : Prop :=
  ∀ behavior ∈ domain.behaviors, behavior.Read

variable {domain : Domain}

theorem ofJson?_toJson (read : domain.Read) (free : domain.floatFree = true) :
    ofJson? domain.toJson = some domain := by
  simp only [floatFree, Bool.and_eq_true] at free
  obtain ⟨⟨ofEntities, ofBehaviors⟩, ofInvariants⟩ := free
  apply Json.decodeRecord_of_finds
  apply (finds_required (by rfl) (by rfl)).bind
  apply (finds_defaulted (by rfl) (by rfl)).bind
  apply (finds_defaulted (by rfl) (Json.list?_map_self fun entity mem =>
    Entity.ofJson?_toJson (List.all_eq_true.1 ofEntities entity mem))).bind
  apply (finds_defaulted (by rfl) (Json.list?_map_self fun behavior mem =>
    Behavior.ofJson?_toJson (read behavior mem)
      (List.all_eq_true.1 ofBehaviors behavior mem))).bind
  apply (finds_defaulted (by rfl) (Json.list?_map_self fun block mem =>
    InvariantBlock.ofJson?_toJson (List.all_eq_true.1 ofInvariants block mem))).bind
  exact finds_pure _

theorem legible_toJson (free : domain.floatFree = true) : domain.toJson.Legible := by
  simp only [floatFree, Bool.and_eq_true] at free
  obtain ⟨⟨ofEntities, ofBehaviors⟩, ofInvariants⟩ := free
  exact ⟨trivial, trivial,
    Json.legible_map fun entity mem =>
      Entity.legible_toJson (List.all_eq_true.1 ofEntities entity mem),
    Json.legible_map fun behavior mem =>
      Behavior.legible_toJson (List.all_eq_true.1 ofBehaviors behavior mem),
    Json.legible_map fun block mem =>
      InvariantBlock.legible_toJson (List.all_eq_true.1 ofInvariants block mem),
    trivial⟩

theorem depth_le_and_read {json : Json} (reads : ofJson? json = some domain) :
    domain.toJson.depth ≤ max 6 json.depth ∧ domain.Read := by
  refine Json.holds_of_decodeRecord
    (P := fun domain => domain.toJson.depth ≤ max 6 json.depth ∧ domain.Read) ?_ reads
  apply gives_required_any.bind
  intro name _
  apply gives_defaulted_any.bind
  intro version _
  apply (gives_listWithin Entity.toJson 2 (fun _ _ => Entity.depth_toJson_le) json.depth
    "entities").bind
  intro entities ofEntities
  apply (gives_list Behavior.toJson 4 (fun _ _ => Behavior.depth_le_and_read) json.depth
    "behaviors").bind
  intro behaviors given
  obtain ⟨ofBehaviors, read⟩ := given
  apply (gives_listWithin InvariantBlock.toJson 2
    (fun _ _ => InvariantBlock.depth_toJson_le) json.depth
    "invariants").bind
  intro invariants ofInvariants
  apply gives_pure
  refine ⟨?_, read⟩
  rw [toJson, Json.depth]
  simp only [Json.depthEntries, Json.depth] at *
  omega

end Domain

end BehaviorContract
