import BehaviorContract.Eval.Evaluate

/-! The logical operators do not look at their right operand when the left one
decides. Beside this evaluation stands a strict one, which applies every
operator to the values of both operands. What the strict evaluation gives the
other one gives too, so leaving an operand out can only avoid an error and never
changes a value. -/

namespace BehaviorContract

namespace Evaluated

/-- Says that every value of the first evaluation is the value of the second. -/
def Refines {α : Type} (strict lazy : Evaluated α) : Prop :=
  ∀ value, strict = .ok value → lazy = .ok value

section Refines

variable {α β : Type} {strict lazy : Evaluated α} {strictNext lazyNext : α → Evaluated β}

theorem Refines.refl (evaluated : Evaluated α) : Refines evaluated evaluated :=
  fun _ same => same

theorem refines_error (error : EvalError) (lazy : Evaluated α) :
    Refines (.error error) lazy := by
  intro value same
  cases same

theorem Refines.bind (first : Refines strict lazy)
    (later : ∀ value, Refines (strictNext value) (lazyNext value)) :
    Refines (strict >>= strictNext) (lazy >>= lazyNext) := by
  cases strict with
  | error error => exact refines_error error _
  | ok value =>
      rw [first value rfl]
      exact later value

theorem Refines.trans {between : Evaluated α} (first : Refines strict between)
    (second : Refines between lazy) :
    Refines strict lazy :=
  fun value same => second value (first value same)

theorem refines_bind_const {result : β} (const : ∀ value, strictNext value = .ok result) :
    Refines (strict >>= strictNext) (.ok result) := by
  cases strict with
  | error error => exact refines_error error _
  | ok value =>
      intro other same
      rw [← same]
      exact (const value).symm

/-- An error of the second evaluation is an error of the first, though maybe
another one. -/
theorem Refines.error (refines : Refines strict lazy) {error : EvalError}
    (failed : lazy = .error error) :
    ∃ other, strict = .error other := by
  cases strict with
  | error other => exact ⟨other, rfl⟩
  | ok value => cases failed.symm.trans (refines value rfl)

end Refines

end Evaluated

open Evaluated

namespace Expr

mutual

/-- The value of an expression, with both operands of every operator evaluated first. -/
def evaluateStrictly (context : Context) : Expr → Evaluated Value
  | .literal value => .ok value
  | .identifier name => context.resolve name
  | .member target property => do (← evaluateStrictly context target).member property
  | .index target position => do
      let target ← evaluateStrictly context target
      let position ← evaluateStrictly context position
      target.atIndex position
  | .unary op operand => do op.apply (← evaluateStrictly context operand)
  | .binary op left right => do
      let left ← evaluateStrictly context left
      let right ← evaluateStrictly context right
      op.apply left right
  | .call (.member (.identifier name) property) arguments =>
      match context.resolve? name with
      | some target =>
          do target.callMethod property (← evaluateListStrictly context arguments)
      | none =>
          match Query.ofName? property with
          | some query =>
              if context.declares name then do
                query.answer context.instances name
                  (← evaluateListStrictly context arguments)
              else .error (.unknownEntity name)
          | none =>
              if context.declares name then
                .error (.unknownFunction (name ++ "." ++ property))
              else .error (.unbound name)
  | .call (.member target property) arguments => do
      let target ← evaluateStrictly context target
      target.callMethod property (← evaluateListStrictly context arguments)
  | .call (.identifier "old") [expression] =>
      match context.before with
      | some instances => evaluateStrictly { context with instances } expression
      | none => .error .missingSnapshot
  | .call (.identifier "old") arguments => .error (.arity "old" "1" arguments.length)
  | .call (.identifier "now") arguments =>
      if arguments.isEmpty then .ok (.text context.now.toMilliseconds)
      else .error (.arity "now" "0" arguments.length)
  | .call (.identifier name) arguments =>
      match Builtin.ofName? name with
      | some builtin => do builtin.apply (← evaluateListStrictly context arguments)
      | none => .error (.unknownFunction name)
  | .call callee _ => .error (.unknownFunction callee.print)
  | .old expression =>
      match context.before with
      | some instances => evaluateStrictly { context with instances } expression
      | none => .error .missingSnapshot
  | .list elements => do return .array (← evaluateListStrictly context elements)
  | .object fields => do return .ofFields (← evaluateFieldsStrictly context fields)

def evaluateListStrictly (context : Context) : List Expr → Evaluated (List Value)
  | [] => .ok []
  | element :: rest => do
      let value ← evaluateStrictly context element
      let values ← evaluateListStrictly context rest
      return value :: values

def evaluateFieldsStrictly (context : Context) :
    List (String × Expr) → Evaluated (List (String × Value))
  | [] => .ok []
  | (key, expression) :: rest => do
      let value ← evaluateStrictly context expression
      let values ← evaluateFieldsStrictly context rest
      return (key, value) :: values

end

theorem refines_binary (context : Context) (op : BinaryOp) (left right : Expr) :
    Refines (left.evaluate context >>= fun left => right.evaluate context >>= fun right =>
      op.apply left right) ((Expr.binary op left right).evaluate context) := by
  cases ofLeft : left.evaluate context with
  | error error => exact refines_error error _
  | ok leftValue =>
      cases ofRight : right.evaluate context with
      | error error => exact refines_error error _
      | ok rightValue =>
          cases op
          case and | implies =>
            rw [evaluate, ofLeft, ofRight]
            refine (Refines.refl (leftValue.expectBool _)).bind fun truth => ?_
            cases truth with
            | false => exact refines_bind_const fun _ => rfl
            | true => exact Refines.refl _
          case or =>
            rw [evaluate, ofLeft, ofRight]
            refine (Refines.refl (leftValue.expectBool _)).bind fun truth => ?_
            cases truth with
            | false => exact Refines.refl _
            | true => exact refines_bind_const fun _ => rfl
          all_goals
            simp only [evaluate, ofLeft, ofRight]
            exact Refines.refl _

/-- Says that the evaluation gives every value that the strict one gives. -/
def RefinesStrict (context : Context) (expression : Expr) : Prop :=
  Refines (expression.evaluateStrictly context) (expression.evaluate context)

def FieldsRefineStrict (context : Context) (fields : List (String × Expr)) : Prop :=
  Refines (evaluateFieldsStrictly context fields) (evaluateFields context fields)

def ListRefinesStrict (context : Context) (elements : List Expr) : Prop :=
  Refines (evaluateListStrictly context elements) (evaluateList context elements)

-- The induction follows the strict evaluation. Where it fails there is nothing
-- to show, and where it goes on both evaluations take the same steps; only at
-- the operators do they part.
theorem refinesStrict (context : Context)
    (expression : Expr) : expression.RefinesStrict context := by
  refine (evaluateStrictly.mutual_induct RefinesStrict FieldsRefineStrict
    ListRefinesStrict ?literal ?identifier ?member ?index ?unary ?binary
    ?bound ?answered ?undeclared ?noQuery ?unbound ?method
    ?oldCall ?oldCallMissing ?oldArity ?now ?nowArity ?builtin ?unknown ?callee
    ?old ?oldMissing ?list ?object ?nil ?cons ?nilField ?consField).1 context expression
  case literal =>
    intro context value
    rw [RefinesStrict, evaluateStrictly, evaluate]
    exact Refines.refl _
  case identifier =>
    intro context name
    rw [RefinesStrict, evaluateStrictly, evaluate]
    exact Refines.refl _
  case member =>
    intro context target property ofTarget
    rw [RefinesStrict, evaluateStrictly, evaluate]
    exact ofTarget.bind fun _ => Refines.refl _
  case index =>
    intro context target position ofTarget ofPosition
    rw [RefinesStrict, evaluateStrictly, evaluate]
    exact ofTarget.bind fun _ => ofPosition.bind fun _ => Refines.refl _
  case unary =>
    intro context op operand ofOperand
    rw [RefinesStrict, evaluateStrictly, evaluate]
    exact ofOperand.bind fun _ => Refines.refl _
  case binary =>
    intro context op left right ofLeft ofRight
    rw [RefinesStrict, evaluateStrictly]
    refine Refines.trans ?_ (refines_binary context op left right)
    exact ofLeft.bind fun _ => ofRight.bind fun _ => Refines.refl _
  case bound =>
    intro context name property arguments target resolved ofArguments
    simp only [RefinesStrict, evaluateStrictly, evaluate, resolved]
    exact ofArguments.bind fun _ => Refines.refl _
  case answered =>
    intro context name property arguments unresolved query named declared ofArguments
    simp only [RefinesStrict, evaluateStrictly, evaluate, unresolved, named,
      declared, if_true]
    exact ofArguments.bind fun _ => Refines.refl _
  case undeclared =>
    intro context name property arguments unresolved query named undeclared
    simp only [RefinesStrict, evaluateStrictly, unresolved, named, undeclared]
    exact refines_error _ _
  case noQuery =>
    intro context name property arguments unresolved unnamed declared
    simp only [RefinesStrict, evaluateStrictly, unresolved, unnamed, declared, if_true]
    exact refines_error _ _
  case unbound =>
    intro context name property arguments unresolved unnamed undeclared
    simp only [RefinesStrict, evaluateStrictly, unresolved, unnamed, undeclared]
    exact refines_error _ _
  case method =>
    intro context target property arguments notName ofTarget ofArguments
    rw [RefinesStrict, evaluateStrictly, evaluate]
    · exact ofTarget.bind fun _ => ofArguments.bind fun _ => Refines.refl _
    · exact notName
    · exact notName
  case oldCall =>
    intro context expression before kept ofExpression
    rw [kept] at ofExpression
    simp only [RefinesStrict, evaluateStrictly, evaluate, kept]
    exact ofExpression
  case oldCallMissing =>
    intro context expression missing
    simp only [RefinesStrict, evaluateStrictly, missing]
    exact refines_error _ _
  case oldArity =>
    intro context arguments notSingle
    rw [RefinesStrict, evaluateStrictly]
    · exact refines_error _ _
    · exact notSingle
  case now =>
    intro context arguments none
    rw [RefinesStrict, evaluateStrictly, evaluate]
    exact Refines.refl _
  case nowArity =>
    intro context arguments some
    rw [RefinesStrict, evaluateStrictly, if_neg some]
    exact refines_error _ _
  case builtin =>
    intro context name arguments _ notOld notNow builtin named ofArguments
    simp only [RefinesStrict, evaluateStrictly, evaluate, named]
    exact ofArguments.bind fun _ => Refines.refl _
  case unknown =>
    intro context name arguments _ notOld notNow unnamed
    simp only [RefinesStrict, evaluateStrictly, unnamed]
    exact refines_error _ _
  case callee =>
    intro context callee arguments _ notMember _ notOld notNow notName
    rw [RefinesStrict, evaluateStrictly]
    · exact refines_error _ _
    all_goals assumption
  case old =>
    intro context expression before kept ofExpression
    rw [kept] at ofExpression
    simp only [RefinesStrict, evaluateStrictly, evaluate, kept]
    exact ofExpression
  case oldMissing =>
    intro context expression missing
    simp only [RefinesStrict, evaluateStrictly, missing]
    exact refines_error _ _
  case list =>
    intro context elements ofElements
    rw [RefinesStrict, evaluateStrictly, evaluate]
    exact ofElements.bind fun _ => Refines.refl _
  case object =>
    intro context fields ofFields
    rw [RefinesStrict, evaluateStrictly, evaluate]
    exact ofFields.bind fun _ => Refines.refl _
  case nil =>
    intro context
    rw [ListRefinesStrict, evaluateListStrictly, evaluateList]
    exact Refines.refl _
  case cons =>
    intro context element rest ofElement ofRest
    rw [ListRefinesStrict, evaluateListStrictly, evaluateList]
    exact ofElement.bind fun _ => ofRest.bind fun _ => Refines.refl _
  case nilField =>
    intro context
    rw [FieldsRefineStrict, evaluateFieldsStrictly, evaluateFields]
    exact Refines.refl _
  case consField =>
    intro context key expression rest ofExpression ofRest
    rw [FieldsRefineStrict, evaluateFieldsStrictly, evaluateFields]
    exact ofExpression.bind fun _ => ofRest.bind fun _ => Refines.refl _

/-- What the strict evaluation gives the evaluation gives, and where the
evaluation fails the strict one fails: leaving out an operand that does not
decide can only avoid an error. -/
theorem evaluate_refines_strict (context : Context) (expression : Expr) :
    (∀ value, expression.evaluateStrictly context = .ok value →
      expression.evaluate context = .ok value) ∧
      ∀ error, expression.evaluate context = .error error →
        ∃ other, expression.evaluateStrictly context = .error other := by
  have refines := refinesStrict context expression
  exact ⟨refines, fun _ failed => refines.error failed⟩

def inStock : Expr :=
  .implies (.notEquals (.identifier "stock") (.literal .null))
    (.atLeast (.member (.identifier "stock") "left") (.literal (.integer 1)))

def withStock (stock : Value) : Context where
  domain := { name := "Stocks" }
  instances := ∅
  input := .ofFields [("stock", stock)]
  now := ⟨0, 0⟩

/-- Where there is no stock, only the strict evaluation asks what is left of it. -/
theorem evaluate_refines_strict_inStock :
    let three : Value := .ofFields [("left", .integer 3)]
    inStock.evaluateStrictly (withStock three) = .ok (.bool true) ∧
      inStock.evaluate (withStock three) = .ok (.bool true) ∧
      inStock.evaluate (withStock (.bool true)) = .error (.noMember "left" "Boolean") ∧
      (∃ other, inStock.evaluateStrictly (withStock (.bool true)) = .error other) ∧
      inStock.evaluate (withStock .null) = .ok (.bool true) ∧
      inStock.evaluateStrictly (withStock .null) = .error (.noMember "left" "Null") := by
  intro three
  have strict : inStock.evaluateStrictly (withStock three) = .ok (.bool true) := rfl
  have failed : inStock.evaluate (withStock (.bool true)) =
    .error (.noMember "left" "Boolean") := rfl
  exact ⟨strict, (evaluate_refines_strict _ _).1 _ strict, failed,
    (evaluate_refines_strict _ _).2 _ failed, rfl, rfl⟩

end Expr

end BehaviorContract
