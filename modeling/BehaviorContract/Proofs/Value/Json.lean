import BehaviorContract.Proofs.Json.Depth
import BehaviorContract.Proofs.Table
import BehaviorContract.Proofs.Value.FloatFree
import BehaviorContract.Value.Json

namespace BehaviorContract.Value

theorem ofNumber_toInt (value : Int64) :
    ofNumber (.integer value.toInt) = .integer value := by
  have least := value.le_toInt
  have greatest := value.toInt_lt
  rw [ofNumber, if_pos (by omega), Int64.ofInt_toInt]

mutual

theorem ofJson?_toJson : ∀ {value : Value},
    value.floatFree = true → ofJson? value.toJson = some value
  | .null, _ => rfl
  | .bool _, _ => rfl
  | .integer value, _ => congrArg some (ofNumber_toInt value)
  | .text _, _ => rfl
  | .array items, free => by
      rw [toJson, ofJson?, itemsOfJson?_itemsToJson free]
      rfl
  | .object fields, free => by
      rw [toJson, ofJson?, fieldsOfJson?_fieldsToJson free, Option.map_some, ofFields,
        Table.ofList_toList]

theorem itemsOfJson?_itemsToJson : ∀ {items : List Value}, itemsFloatFree items = true →
    itemsOfJson? (itemsToJson items) = some items
  | [], _ => rfl
  | item :: rest, free => by
      rw [itemsFloatFree, Bool.and_eq_true] at free
      rw [itemsToJson, itemsOfJson?, ofJson?_toJson free.1,
        itemsOfJson?_itemsToJson free.2]
      rfl

theorem fieldsOfJson?_fieldsToJson :
    ∀ {bound : Option String} {fields : Entries Value bound},
    fieldsFloatFree fields = true →
      fieldsOfJson? (fieldsToJson fields) = some fields.toList
  | _, .nil, _ => rfl
  | _, .cons key _ value rest, free => by
      rw [fieldsFloatFree, Bool.and_eq_true] at free
      rw [fieldsToJson, fieldsOfJson?, ofJson?_toJson free.1,
        fieldsOfJson?_fieldsToJson free.2]
      rfl

end

mutual

theorem legible_toJson : ∀ {value : Value}, value.floatFree = true → value.toJson.Legible
  | .null, _ => trivial
  | .bool _, _ => trivial
  | .integer value, _ => by
      have least := value.le_toInt
      have greatest := value.toInt_lt
      exact Number.readsBack_integer (by omega) (by omega)
  | .text _, _ => trivial
  | .array items, free => legibleItems_toJson free
  | .object fields, free => legibleFields_toJson free

theorem legibleItems_toJson : ∀ {items : List Value}, itemsFloatFree items = true →
    Json.LegibleItems (itemsToJson items)
  | [], _ => trivial
  | item :: rest, free => by
      rw [itemsFloatFree, Bool.and_eq_true] at free
      exact ⟨legible_toJson free.1, legibleItems_toJson free.2⟩

theorem legibleFields_toJson : ∀ {bound : Option String} {fields : Entries Value bound},
    fieldsFloatFree fields = true → Json.LegibleEntries (fieldsToJson fields)
  | _, .nil, _ => trivial
  | _, .cons _ _ _ _, free => by
      rw [fieldsFloatFree, Bool.and_eq_true] at free
      exact ⟨legible_toJson free.1, legibleFields_toJson free.2⟩

end

private theorem depth_float (value : Float) : (Json.float value).depth = 0 := by
  unfold Json.float
  split
  · rfl
  · rfl

theorem depth_ofNumber (number : Number) : (ofNumber number).toJson.depth = 0 := by
  cases number with
  | integer value =>
      rw [ofNumber]
      split
      · rfl
      · exact depth_float _
  | float value => exact depth_float value

theorem depthEntries_fieldsToJson_le {bound : Option String}
    {fields : Entries Value bound} {limit : Nat}
    (shallow : ∀ entry ∈ fields.toList, entry.2.toJson.depth ≤ limit) :
    Json.depthEntries (fieldsToJson fields) ≤ limit := by
  induction fields with
  | nil => exact Nat.zero_le _
  | cons key follows value rest induction =>
      rw [Entries.toList_cons, List.forall_mem_cons] at shallow
      rw [fieldsToJson, Json.depthEntries]
      exact Nat.max_le.2 ⟨shallow.1, induction shallow.2⟩

mutual

theorem depth_toJson_le : ∀ {json : Json} {value : Value}, ofJson? json = some value →
    value.toJson.depth ≤ json.depth
  | .null, _, reads => by
      cases reads
      exact Nat.le_refl _
  | .bool _, _, reads => by
      cases reads
      exact Nat.le_refl _
  | .number number, _, reads => by
      cases reads
      rw [depth_ofNumber]
      exact Nat.zero_le _
  | .text _, _, reads => by
      cases reads
      exact Nat.le_refl _
  | .array items, _, reads => by
      obtain ⟨values, readsItems, rfl⟩ := Option.map_eq_some_iff.1 reads
      rw [toJson, Json.depth, Json.depth]
      exact Nat.succ_le_succ (depthItems_toJson_le readsItems)
  | .object entries, _, reads => by
      obtain ⟨fields, readsFields, rfl⟩ := Option.map_eq_some_iff.1 reads
      rw [ofFields, toJson, Json.depth, Json.depth]
      apply Nat.succ_le_succ
      apply depthEntries_fieldsToJson_le
      intro entry mem
      exact depth_fields_le readsFields entry (Table.mem_of_mem_ofList mem)
  | .unreadable, _, reads => nomatch reads

theorem depthItems_toJson_le :
    ∀ {items : List Json} {values : List Value}, itemsOfJson? items = some values →
    Json.depthItems (itemsToJson values) ≤ Json.depthItems items
  | [], _, reads => by
      cases reads
      exact Nat.le_refl _
  | item :: rest, _, reads => by
      obtain ⟨value, readsItem, reads⟩ := Option.bind_eq_some_iff.1 reads
      obtain ⟨others, readsRest, same⟩ := Option.bind_eq_some_iff.1 reads
      cases same
      have first := depth_toJson_le readsItem
      have later := depthItems_toJson_le readsRest
      rw [itemsToJson, Json.depthItems, Json.depthItems]
      omega

theorem depth_fields_le : ∀ {entries : List (String × Json)}
    {fields : List (String × Value)},
    fieldsOfJson? entries = some fields →
      ∀ field ∈ fields, field.2.toJson.depth ≤ Json.depthEntries entries
  | [], _, reads => by
      cases reads
      nofun
  | (key, json) :: rest, _, reads => by
      obtain ⟨value, readsValue, reads⟩ := Option.bind_eq_some_iff.1 reads
      obtain ⟨others, readsRest, same⟩ := Option.bind_eq_some_iff.1 reads
      cases same
      have first := depth_toJson_le readsValue
      have later := depth_fields_le readsRest
      rw [Json.depthEntries, List.forall_mem_cons]
      refine ⟨Nat.le_trans first (Nat.le_max_left _ _), fun field mem => ?_⟩
      exact Nat.le_trans (later field mem) (Nat.le_max_right _ _)

end

end BehaviorContract.Value
