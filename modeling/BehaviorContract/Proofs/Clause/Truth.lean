import BehaviorContract.Clause.Check

namespace BehaviorContract

namespace Evaluated

abbrev value? {α : Type} (evaluated : Evaluated α) : Option α :=
  evaluated.toOption

@[simp] theorem value?_bind {α β : Type} (evaluated : Evaluated α)
    (next : α → Evaluated β) :
    value? (evaluated >>= next) = (value? evaluated).bind fun value =>
      value? (next value) := by
  cases evaluated <;> rfl

theorem value?_eq_some_iff {α : Type} {evaluated : Evaluated α} {value : α} :
    value? evaluated = some value ↔ evaluated = .ok value := by
  cases evaluated with
  | error error => simp [Except.toOption]
  | ok found => simp [Except.toOption]

end Evaluated

open Evaluated

@[simp] theorem Value.value?_expectBool (op : BinaryOp) (value : Value) :
    value? (value.expectBool op) = value.bool? := by
  unfold Value.expectBool
  cases value.bool? <;> rfl

@[simp] theorem Finding.value?_ofValue_passed (value : Value) :
    (value? (Finding.ofValue value)).map Finding.passed = value.bool? := by
  cases value <;> rfl

theorem BinaryOp.bool?_of_apply {op : BinaryOp} (comparison : op.isComparison = true)
    {left right result : Value} (applied : op.apply left right = .ok result) :
    ∃ holds, result = .bool holds := by
  have ofOrdered : ∀ holds : Ordering → Bool,
      Value.ordered op holds left right = .ok result → ∃ flag, result = .bool flag := by
    intro holds ordered
    unfold Value.ordered at ordered
    split at ordered
    · exact ⟨_, (Except.ok.inj ordered).symm⟩
    · cases ordered
  cases op with
  | equal => exact ⟨_, (Except.ok.inj applied).symm⟩
  | notEqual => exact ⟨_, (Except.ok.inj applied).symm⟩
  | less => exact ofOrdered _ applied
  | atMost => exact ofOrdered _ applied
  | greater => exact ofOrdered _ applied
  | atLeast => exact ofOrdered _ applied
  | _ => cases comparison

namespace Expr

theorem value?_evaluateBool (context : Context) (clause : Expr) :
    value? (clause.evaluateBool context) =
      (value? (clause.evaluate context)).bind Value.bool? := by
  unfold evaluateBool
  rw [value?_bind]
  congr 1
  funext value
  cases value.bool? <;> rfl

/-- An implication is as true as its right side if its left side is true, and
true if its left side is false. -/
theorem value?_evaluateBool_implies (context : Context) (left right : Expr) :
    value? ((Expr.binary .implies left right).evaluateBool context) =
      (value? (left.evaluateBool context)).bind fun antecedent =>
        if antecedent then value? (right.evaluateBool context) else some true := by
  rw [value?_evaluateBool, value?_evaluateBool context left, evaluate, value?_bind,
    Option.bind_assoc, Option.bind_assoc]
  congr 1
  funext value
  rw [value?_bind, Value.value?_expectBool, Option.bind_assoc]
  congr 1
  funext antecedent
  cases antecedent with
  | false => rfl
  | true =>
      rw [value?_evaluateBool, if_pos rfl, if_pos rfl, value?_bind, Option.bind_assoc]
      congr 1
      funext value
      rw [value?_bind, Value.value?_expectBool, Option.bind_assoc]
      exact Option.bind_fun_some _

theorem value?_examine_implies (context : Context) (left right : Expr) :
    value? ((Expr.binary .implies left right).examine context) =
      (value? (left.evaluateBool context)).bind fun antecedent =>
        if antecedent then value? (right.examine context)
        else some { passed := true } := by
  rw [examine, value?_bind]
  congr 1
  funext antecedent
  cases antecedent <;> rfl

theorem evaluate_comparison (context : Context) {op : BinaryOp}
    (comparison : op.isComparison = true) (left right : Expr) :
    (Expr.binary op left right).evaluate context =
      left.evaluate context >>= fun actual =>
        right.evaluate context >>= fun expected => op.apply actual expected := by
  rw [evaluate]
  all_goals
    rintro rfl
    cases comparison

theorem examine_comparison (context : Context) {op : BinaryOp}
    (comparison : op.isComparison = true) (left right : Expr) :
    (Expr.binary op left right).examine context =
      left.evaluate context >>= fun actual =>
        right.evaluate context >>= fun expected =>
          op.apply actual expected >>= fun result =>
            pure { passed := result.bool?.getD false, expected := some expected,
                   actual := some actual } := by
  rw [examine, if_pos comparison]
  rintro rfl
  cases comparison

/-- The truth that the examination of a clause finds is the truth of the clause. -/
theorem passed_examine (context : Context) (clause : Expr) :
    (value? (clause.examine context)).map Finding.passed =
      value? (clause.evaluateBool context) := by
  induction clause using examine.induct with
  | case1 left right induction =>
      rw [value?_examine_implies, value?_evaluateBool_implies]
      cases value? (left.evaluateBool context) with
      | none => rfl
      | some antecedent =>
          cases antecedent with
          | false => rfl
          | true => exact induction
  | case2 op left right notImplies comparison =>
      rw [examine_comparison context comparison, value?_evaluateBool,
        evaluate_comparison context comparison]
      simp only [value?_bind, Option.map_bind, Option.bind_assoc, Function.comp_def]
      congr 1
      funext actual
      congr 1
      funext expected
      cases applied : op.apply actual expected with
      | error error => rfl
      | ok result =>
          obtain ⟨holds, rfl⟩ := op.bool?_of_apply comparison applied
          rfl
  | case3 op left right notImplies notComparison =>
      rw [examine, if_neg notComparison, value?_bind, value?_evaluateBool,
        Option.map_bind]
      · simp only [Function.comp_def, Finding.value?_ofValue_passed]
      · exact notImplies
  | case4 clause notImplies notBinary =>
      rw [examine, value?_bind, value?_evaluateBool, Option.map_bind]
      · simp only [Function.comp_def, Finding.value?_ofValue_passed]
      · exact notImplies
      · exact notBinary

def Holds (context : Context) (clause : Expr) : Prop :=
  clause.evaluateBool context = .ok true

end Expr

namespace Check

@[simp] theorem name_ofClause (kind : ClauseKind) (name : String) (context : Context)
    (clause : Expr) :
    (ofClause kind name context clause).name = name := by
  unfold ofClause
  cases clause.examine context <;> rfl

theorem passed_ofClause (kind : ClauseKind) (name : String) (context : Context)
    (clause : Expr) :
    (ofClause kind name context clause).passed =
      ((value? (clause.examine context)).map Finding.passed).getD false := by
  unfold ofClause
  cases clause.examine context <;> rfl

theorem passed_ofClause_iff (kind : ClauseKind) (name : String) (context : Context)
    (clause : Expr) :
    (ofClause kind name context clause).passed = true ↔ clause.Holds context := by
  rw [passed_ofClause, Expr.passed_examine, Expr.Holds, ← value?_eq_some_iff]
  cases value? (clause.evaluateBool context) with
  | none => simp
  | some truth => simp

end Check

end BehaviorContract
