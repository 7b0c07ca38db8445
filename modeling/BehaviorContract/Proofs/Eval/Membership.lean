import BehaviorContract.Proofs.Clause.Substitution

/-! The three spellings of membership. A function and a method name the
container first, the operator names the item first, and the operator has rules
of its own. All three put one question to the two values and differ only in how
they complain about values that cannot be asked. -/

namespace BehaviorContract

namespace Value

/-- Whether a container holds an item: an array a value, a text a part of it, an
object a key. No other pair of values can be asked. -/
def holds? : Value → Value → Option Bool
  | .array items, item => some (items.any (·.looseEq item))
  | .text content, .text wanted => some (Text.contains content wanted)
  | .object fields, .text key => some (fields.contains key)
  | _, _ => none

theorem isIn_eq (item container : Value) :
    item.isIn container =
      (container.holds? item).elim (.error (mismatch BinaryOp.isIn.symbol item container))
        (.ok ∘ .bool) := by
  cases container with
  | array items => rfl
  | text content => cases item <;> rfl
  | object fields => cases item <;> rfl
  | _ => cases item <;> rfl

theorem callMethod_contains (container item : Value) :
    container.callMethod "contains" [item] =
      (container.holds? item).elim (.error (mismatch "contains" container item))
        (.ok ∘ .bool) := by
  cases container with
  | array items => rfl
  | text content => cases item <;> rfl
  | object fields => cases item <;> rfl
  | _ => cases item <;> rfl

end Value

namespace Expr

def contains (container item : Expr) : Expr :=
  .call (.identifier "contains") [container, item]

section Spellings

variable (context : Context) (container item : Expr)

theorem evaluate_contains :
    (contains container item).evaluate context =
      container.evaluate context >>= fun container =>
        item.evaluate context >>= fun item => container.callMethod "contains" [item] := by
  rw [contains, evaluate_function (by decide) (by decide)]
  simp only [evaluateList, bind_assoc, pure_bind]
  rfl

theorem evaluate_method_contains
    (bound : ∀ name, container = .identifier name → context.isBound name = true) :
    (container.method "contains" [item]).evaluate context =
      container.evaluate context >>= fun container =>
        item.evaluate context >>= fun item => container.callMethod "contains" [item] := by
  rw [method, evaluate_method bound]
  simp only [evaluateList, bind_assoc, pure_bind]
  rfl

theorem evaluate_isIn :
    (Expr.binary .isIn item container).evaluate context =
      item.evaluate context >>= fun item =>
        container.evaluate context >>= fun container => item.isIn container := by
  simp only [evaluate]
  rfl

end Spellings

/-- Where the container is no name without a value, the function and the method
give the same value or error. Where container and item have values, the operator
and the function give the same truth value or both refuse. -/
theorem membership_spellings_agree (context : Context) (container item : Expr) :
    ((∀ name, container = .identifier name → context.isBound name = true) →
      (contains container item).evaluate context =
        (container.method "contains" [item]).evaluate context) ∧
    ∀ held asked, container.evaluate context = .ok held →
      item.evaluate context = .ok asked →
      (∃ answer : Bool,
        (Expr.binary .isIn item container).evaluate context = .ok (.bool answer) ∧
          (contains container item).evaluate context = .ok (.bool answer)) ∨
      (Expr.binary .isIn item container).evaluate context =
        .error (Value.mismatch "in" asked held) ∧
        (contains container item).evaluate context =
          .error (Value.mismatch "contains" held asked) := by
  constructor
  · intro bound
    rw [evaluate_contains, evaluate_method_contains context container item bound]
  · intro held asked ofContainer ofItem
    have byOperator : (Expr.binary .isIn item container).evaluate context =
        asked.isIn held := by
      rw [evaluate_isIn, ofContainer, ofItem]
      rfl
    have byFunction : (contains container item).evaluate context =
        held.callMethod "contains" [asked] := by
      rw [evaluate_contains, ofContainer, ofItem]
      rfl
    rw [byOperator, byFunction, Value.isIn_eq, Value.callMethod_contains]
    cases held.holds? asked with
    | some answer => exact .inl ⟨answer, rfl, rfl⟩
    | none => exact .inr ⟨rfl, rfl⟩

def tagged : Context where
  domain := { name := "Tags" }
  instances := ∅
  input := .ofFields [("tags", .array [.integer 7, .text "late"])]
  now := ⟨0, 0⟩

/-- A name that is bound to an array: "late" is in it, and it is in no text. -/
theorem membership_spellings_agree_tagged :
    let tags : Expr := .identifier "tags"
    let late : Expr := .literal (.text "late")
    (∀ name, tags = .identifier name → tagged.isBound name = true) ∧
      (contains tags late).evaluate tagged = .ok (.bool true) ∧
      (tags.method "contains" [late]).evaluate tagged = .ok (.bool true) ∧
      (Expr.binary .isIn late tags).evaluate tagged = .ok (.bool true) ∧
      (Expr.binary .isIn tags late).evaluate tagged =
        .error (.mismatch "in" "Array" "String") ∧
      (contains late tags).evaluate tagged =
        .error (.mismatch "contains" "String" "Array") := by
  intro tags late
  have bound : ∀ name, tags = .identifier name → tagged.isBound name = true := by
    intro name same
    obtain rfl : "tags" = name := Expr.identifier.inj same
    rfl
  have found : (contains tags late).evaluate tagged = .ok (.bool true) := rfl
  have agree := membership_spellings_agree tagged tags late
  refine ⟨bound, found, (agree.1 bound).symm.trans found, ?_, ?_⟩
  · obtain ⟨answer, byOperator, byFunction⟩ | ⟨-, refused⟩ := agree.2 _ _ rfl rfl
    · cases byFunction.symm.trans found
      exact byOperator
    · cases refused.symm.trans found
  · have refused : (contains late tags).evaluate tagged =
      .error (.mismatch "contains" "String" "Array") := rfl
    obtain ⟨answer, -, byFunction⟩ | refusals :=
      (membership_spellings_agree tagged late tags).2 _ _ rfl rfl
    · cases byFunction.symm.trans refused
    · exact refusals

end Expr

end BehaviorContract
