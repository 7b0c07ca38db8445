import BehaviorContract.Value.Comparison

namespace BehaviorContract.Value

mutual

def floatFree : Value → Bool
  | .null => true
  | .bool _ => true
  | .integer _ => true
  | .float _ => false
  | .text _ => true
  | .array items => itemsFloatFree items
  | .object fields => fieldsFloatFree fields

def itemsFloatFree : List Value → Bool
  | [] => true
  | item :: rest => item.floatFree && itemsFloatFree rest

def fieldsFloatFree {bound : Option String} : Entries Value bound → Bool
  | .nil => true
  | .cons _ _ value rest => value.floatFree && fieldsFloatFree rest

end

theorem itemsFloatFree_iff {items : List Value} :
    itemsFloatFree items = true ↔ ∀ item ∈ items, item.floatFree = true := by
  induction items with
  | nil => simp [itemsFloatFree]
  | cons item rest induction =>
      rw [itemsFloatFree, Bool.and_eq_true, induction, List.forall_mem_cons]

theorem fieldsFloatFree_iff {bound : Option String} {fields : Entries Value bound} :
    fieldsFloatFree fields = true ↔
      ∀ entry ∈ fields.toList, entry.2.floatFree = true := by
  induction fields with
  | nil => simp [fieldsFloatFree]
  | cons key follows value rest induction =>
      rw [fieldsFloatFree, Bool.and_eq_true, induction, Entries.toList_cons,
        List.forall_mem_cons]

theorem floatFree_of_mem {bound : Option String} {fields : Entries Value bound}
    (free : fieldsFloatFree fields = true) {entry : String × Value}
    (member : entry ∈ fields.toList) : entry.2.floatFree = true := by
  induction fields with
  | nil => cases member
  | cons key _ value rest induction =>
      rw [fieldsFloatFree, Bool.and_eq_true] at free
      cases List.mem_cons.1 member with
      | inl first => exact first ▸ free.1
      | inr later => exact induction free.2 later

mutual

theorem eq_of_equalBy : ∀ {left right : Value}, right.floatFree = true →
    left.equalBy (fun _ _ => false) right = true → left = right
  | .null, .null, _, _ => rfl
  | .bool left, .bool right, _, equal => by
      rw [equalBy, beq_iff_eq] at equal
      rw [equal]
  | .integer left, .integer right, _, equal => by
      rw [equalBy, beq_iff_eq] at equal
      rw [equal]
  | .float left, right, free, equal => by
      cases right with
      | float => cases free
      | _ => cases equal
  | .text left, .text right, _, equal => by
      rw [equalBy, beq_iff_eq] at equal
      rw [equal]
  | .array left, .array right, free, equal => by
      rw [floatFree] at free
      rw [equalBy] at equal
      rw [items_eq_of_equalBy free equal]
  | .object left, .object right, free, equal => by
      rw [floatFree] at free
      rw [equalBy] at equal
      rw [Entries.toList_inj (fields_eq_of_equalBy free equal)]

theorem items_eq_of_equalBy : ∀ {left right : List Value}, itemsFloatFree right = true →
    equalItemsBy (fun _ _ => false) left right = true → left = right
  | [], [], _, _ => rfl
  | first :: rest, otherFirst :: otherRest, free, equal => by
      rw [itemsFloatFree, Bool.and_eq_true] at free
      rw [equalItemsBy, Bool.and_eq_true] at equal
      rw [eq_of_equalBy free.1 equal.1, items_eq_of_equalBy free.2 equal.2]

theorem fields_eq_of_equalBy :
    ∀ {leftBound rightBound : Option String} {left : Entries Value leftBound}
      {right : Entries Value rightBound}, fieldsFloatFree right = true →
    equalFieldsBy (fun _ _ => false) left right = true → left.toList = right.toList
  | _, _, .nil, .nil, _, _ => rfl
  | _, _, .cons key _ value rest, .cons otherKey _ otherValue otherRest, free, equal => by
      rw [fieldsFloatFree, Bool.and_eq_true] at free
      rw [equalFieldsBy, Bool.and_eq_true, Bool.and_eq_true, beq_iff_eq] at equal
      rw [Entries.toList_cons, Entries.toList_cons, fields_eq_of_equalBy free.2 equal.2,
        eq_of_equalBy free.1 equal.1.2, equal.1.1]

end

mutual

theorem equalBy_self (mixed : Int64 → Float → Bool) :
    ∀ {value : Value}, value.floatFree = true →
    value.equalBy mixed value = true
  | .null, _ => rfl
  | .bool _, _ => by rw [equalBy, beq_self_eq_true]
  | .integer _, _ => by rw [equalBy, beq_self_eq_true]
  | .text _, _ => by rw [equalBy, beq_self_eq_true]
  | .array _, free => by
      rw [floatFree] at free
      rw [equalBy, equalItemsBy_self mixed free]
  | .object _, free => by
      rw [floatFree] at free
      rw [equalBy, equalFieldsBy_self mixed free]

theorem equalItemsBy_self (mixed : Int64 → Float → Bool) :
    ∀ {items : List Value}, itemsFloatFree items = true →
    equalItemsBy mixed items items = true
  | [], _ => rfl
  | item :: rest, free => by
      rw [itemsFloatFree, Bool.and_eq_true] at free
      rw [equalItemsBy, equalBy_self mixed free.1,
        equalItemsBy_self mixed free.2, Bool.true_and]

theorem equalFieldsBy_self (mixed : Int64 → Float → Bool) :
    ∀ {bound : Option String} {fields : Entries Value bound},
    fieldsFloatFree fields = true → equalFieldsBy mixed fields fields = true
  | _, .nil, _ => rfl
  | _, .cons key _ value rest, free => by
      rw [fieldsFloatFree, Bool.and_eq_true] at free
      rw [equalFieldsBy, beq_self_eq_true, equalBy_self mixed free.1,
        equalFieldsBy_self mixed free.2]
      rfl

end

end BehaviorContract.Value
