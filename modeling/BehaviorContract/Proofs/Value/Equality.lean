import BehaviorContract.Eval.Operator
import BehaviorContract.Proofs.Table
import BehaviorContract.Proofs.Value.FloatFree

namespace BehaviorContract

namespace Decimal

open Float.Model Float.Model.UnpackedFloat

theorem compare_sign_swap (left right : Sign) :
    compare left right = (compare right left).swap := by
  cases left <;> cases right <;> rfl

theorem compare_magnitude_swap (mantissa otherMantissa : Nat)
    (exponent otherExponent : Int) :
    (compare exponent otherExponent).then (compare mantissa otherMantissa) =
      ((compare otherExponent exponent).then (compare otherMantissa mantissa)).swap := by
  rw [Ordering.swap_then, Int.compare_swap, Nat.compare_swap]

theorem compare_swap (left right : UnpackedFloat) :
    left.compare right = (right.compare left).map Ordering.swap := by
  cases left with
  | notANumber =>
      cases right with
      | infinity sign => cases sign <;> rfl
      | finite sign => cases sign <;> rfl
      | _ => rfl
  | infinity sign =>
      cases right with
      | notANumber => cases sign <;> rfl
      | infinity other => exact congrArg some (compare_sign_swap sign other)
      | zero => cases sign <;> rfl
      | finite other => cases sign <;> cases other <;> rfl
  | zero sign =>
      cases right with
      | infinity other => cases other <;> rfl
      | finite other => cases other <;> rfl
      | _ => rfl
  | finite sign mantissa exponent positive =>
      cases right with
      | notANumber => cases sign <;> rfl
      | infinity other => cases sign <;> cases other <;> rfl
      | zero => cases sign <;> rfl
      | finite other otherMantissa otherExponent otherPositive =>
          have swapped :=
            compare_magnitude_swap mantissa otherMantissa exponent otherExponent
          cases sign with
          | positive =>
              cases other with
              | positive => exact congrArg some swapped
              | negative => rfl
          | negative =>
              cases other with
              | positive => rfl
              | negative => exact congrArg (fun order => some order.swap) swapped

theorem beq_comm (left right : Float) : (left == right) = (right == left) := by
  have swapped := compare_swap left.toModel.unpack right.toModel.unpack
  change (left.toModel.unpack.compare right.toModel.unpack == some .eq) =
    (right.toModel.unpack.compare left.toModel.unpack == some .eq)
  rw [swapped]
  cases right.toModel.unpack.compare left.toModel.unpack with
  | none => rfl
  | some order => cases order <;> rfl

end Decimal

namespace Value

mutual

theorem equalBy_comm (mixed : Int64 → Float → Bool) : ∀ left right : Value,
    left.equalBy mixed right = right.equalBy mixed left
  | .null, right => by cases right <;> rfl
  | .bool left, right => by
      cases right with
      | bool right => rw [equalBy, equalBy, BEq.comm]
      | _ => rfl
  | .integer left, right => by
      cases right with
      | integer right => rw [equalBy, equalBy, BEq.comm]
      | _ => rfl
  | .float left, right => by
      cases right with
      | float right => rw [equalBy, equalBy, Decimal.beq_comm]
      | _ => rfl
  | .text left, right => by
      cases right with
      | text right => rw [equalBy, equalBy, BEq.comm]
      | _ => rfl
  | .array left, right => by
      cases right with
      | array right => rw [equalBy, equalBy, equalItemsBy_comm mixed left right]
      | _ => rfl
  | .object left, right => by
      cases right with
      | object right => rw [equalBy, equalBy, equalFieldsBy_comm mixed left right]
      | _ => rfl

theorem equalItemsBy_comm (mixed : Int64 → Float → Bool) : ∀ left right : List Value,
    equalItemsBy mixed left right = equalItemsBy mixed right left
  | [], right => by cases right <;> rfl
  | first :: rest, right => by
      cases right with
      | nil => rfl
      | cons other otherRest =>
          rw [equalItemsBy, equalItemsBy, equalBy_comm mixed first other,
            equalItemsBy_comm mixed rest otherRest]

theorem equalFieldsBy_comm (mixed : Int64 → Float → Bool) :
    ∀ {leftBound rightBound : Option String} (left : Entries Value leftBound)
      (right : Entries Value rightBound),
    equalFieldsBy mixed left right = equalFieldsBy mixed right left
  | _, _, .nil, right => by cases right <;> rfl
  | _, _, .cons key _ value rest, right => by
      cases right with
      | nil => rfl
      | cons otherKey _ other otherRest =>
          rw [equalFieldsBy, equalFieldsBy, equalBy_comm mixed value other,
            equalFieldsBy_comm mixed rest otherRest, BEq.comm]

end

mutual

theorem equalBy_congr (mixed other : Int64 → Float → Bool) :
    ∀ {left right : Value}, left.floatFree = true →
    right.floatFree = true → left.equalBy mixed right = left.equalBy other right
  | .null, right, _, _ => by cases right <;> rfl
  | .bool _, right, _, _ => by cases right <;> rfl
  | .integer _, right, _, rightFree => by
      cases right with
      | float => cases rightFree
      | _ => rfl
  | .float _, _, leftFree, _ => by cases leftFree
  | .text _, right, _, _ => by cases right <;> rfl
  | .array left, right, leftFree, rightFree => by
      cases right with
      | array right =>
          rw [floatFree] at leftFree rightFree
          rw [equalBy, equalBy, equalItemsBy_congr mixed other leftFree rightFree]
      | _ => rfl
  | .object left, right, leftFree, rightFree => by
      cases right with
      | object right =>
          rw [floatFree] at leftFree rightFree
          rw [equalBy, equalBy, equalFieldsBy_congr mixed other leftFree rightFree]
      | _ => rfl

theorem equalItemsBy_congr (mixed other : Int64 → Float → Bool) :
    ∀ {left right : List Value},
    itemsFloatFree left = true → itemsFloatFree right = true →
      equalItemsBy mixed left right = equalItemsBy other left right
  | [], right, _, _ => by cases right <;> rfl
  | _ :: _, [], _, _ => rfl
  | first :: rest, otherFirst :: otherRest, leftFree, rightFree => by
      rw [itemsFloatFree, Bool.and_eq_true] at leftFree rightFree
      rw [equalItemsBy, equalItemsBy, equalBy_congr mixed other leftFree.1 rightFree.1,
        equalItemsBy_congr mixed other leftFree.2 rightFree.2]

theorem equalFieldsBy_congr (mixed other : Int64 → Float → Bool) :
    ∀ {leftBound rightBound : Option String} {left : Entries Value leftBound}
      {right : Entries Value rightBound}, fieldsFloatFree left = true →
    fieldsFloatFree right = true →
      equalFieldsBy mixed left right = equalFieldsBy other left right
  | _, _, .nil, right, _, _ => by cases right <;> rfl
  | _, _, .cons .., .nil, _, _ => rfl
  | _, _, .cons key _ value rest, .cons otherKey _ otherValue otherRest, leftFree,
      rightFree => by
      rw [fieldsFloatFree, Bool.and_eq_true] at leftFree rightFree
      rw [equalFieldsBy, equalFieldsBy, equalBy_congr mixed other leftFree.1 rightFree.1,
        equalFieldsBy_congr mixed other leftFree.2 rightFree.2]

end

theorem looseEq_comm (left right : Value) : left.looseEq right = right.looseEq left :=
  equalBy_comm _ left right

section Structure

variable {left right : Value} (leftFree : left.floatFree = true)
  (rightFree : right.floatFree = true)

include leftFree rightFree

theorem looseEq_eq_strictEq : left.looseEq right = left.strictEq right :=
  equalBy_congr _ _ leftFree rightFree

theorem looseEq_iff_eq : left.looseEq right = true ↔ left = right := by
  constructor
  · intro equal
    rw [looseEq_eq_strictEq leftFree rightFree] at equal
    exact eq_of_equalBy rightFree equal
  · rintro rfl
    exact equalBy_self _ leftFree

end Structure

theorem looseEq_array_iff {left right : List Value}
    (leftFree : itemsFloatFree left = true) (rightFree : itemsFloatFree right = true) :
    (Value.array left).looseEq (.array right) = true ↔
      ∀ position : Nat, left[position]? = right[position]? := by
  have free : (Value.array left).floatFree = true ∧
      (Value.array right).floatFree = true := by
    rw [floatFree, floatFree]
    exact ⟨leftFree, rightFree⟩
  rw [looseEq_iff_eq free.1 free.2, array.injEq, List.ext_getElem?_iff]

theorem looseEq_object_iff {left right : Table Value}
    (leftFree : fieldsFloatFree left = true) (rightFree : fieldsFloatFree right = true) :
    (Value.object left).looseEq (.object right) = true ↔
      ∀ key, left.get? key = right.get? key := by
  have free : (Value.object left).floatFree = true ∧
      (Value.object right).floatFree = true := by
    rw [floatFree, floatFree]
    exact ⟨leftFree, rightFree⟩
  rw [looseEq_iff_eq free.1 free.2, object.injEq]
  constructor
  · intro same key
    rw [same]
  · exact Entries.ext_get?

theorem apply_equal_iff (left right : Value) :
    BinaryOp.equal.apply left right = .ok (.bool true) ↔ left.looseEq right = true := by
  simp only [BinaryOp.apply, Except.ok.injEq, bool.injEq]

/-- Without doubles, equality by numeric value is equality: of arrays position
by position and of objects key by key. There the operator is an equivalence, and
with doubles it still does not depend on the order of its operands. -/
theorem looseEq_structural_and_symmetric :
    (∀ left right : Value, left.floatFree = true → right.floatFree = true →
      (left.looseEq right = true ↔ left = right)) ∧
    (∀ left right : List Value, itemsFloatFree left = true → itemsFloatFree right = true →
      ((Value.array left).looseEq (.array right) = true ↔
        ∀ position : Nat, left[position]? = right[position]?)) ∧
    (∀ left right : Table Value,
      fieldsFloatFree left = true → fieldsFloatFree right = true →
      ((Value.object left).looseEq (.object right) = true ↔
        ∀ key, left.get? key = right.get? key)) ∧
    Equivalence (fun left right : { value : Value // value.floatFree = true } =>
      BinaryOp.equal.apply left.1 right.1 = .ok (.bool true)) ∧
    ∀ left right : Value, left.looseEq right = right.looseEq left := by
  refine ⟨fun _ _ => looseEq_iff_eq, fun _ _ => looseEq_array_iff,
    fun _ _ => looseEq_object_iff, ?_, looseEq_comm⟩
  simp only [apply_equal_iff]
  constructor
  · intro value
    exact (looseEq_iff_eq value.2 value.2).2 rfl
  · intro left right equal
    rw [looseEq_comm]
    exact equal
  · intro first second third sameFirst sameSecond
    rw [looseEq_iff_eq first.2 second.2] at sameFirst
    rw [sameFirst]
    exact sameSecond

def invoice : Value :=
  .ofFields [("paid", .bool true), ("lines", .array [.integer 7, .text "7", .null])]

def invoiceReversed : Value :=
  .ofFields [("lines", .array [.integer 7, .text "7", .null]), ("paid", .bool true)]

theorem looseEq_structural_and_symmetric_invoice :
    invoice.floatFree = true ∧ invoiceReversed.floatFree = true ∧
      invoice = invoiceReversed ∧
      ¬ invoice.looseEq (.ofFields [("paid", .bool true)]) = true ∧
      (Value.integer 7).looseEq (.float (Float.ofBits 0x401C000000000000)) = true ∧
      (Value.float (Float.ofBits 0x401C000000000000)).looseEq (.integer 7) = true := by
  obtain ⟨structural, -, -, -, symmetric⟩ := looseEq_structural_and_symmetric
  refine ⟨rfl, rfl, (structural invoice invoiceReversed rfl rfl).1 rfl, ?_, rfl, ?_⟩
  · decide
  · rw [symmetric]
    rfl

end Value

end BehaviorContract
