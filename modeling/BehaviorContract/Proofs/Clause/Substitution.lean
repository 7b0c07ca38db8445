import BehaviorContract.Proofs.Clause.Boundary
import BehaviorContract.Proofs.Clause.Instance
import BehaviorContract.Proofs.Eval.Queries

/-! Binding a name is putting its value in its place. A name stands for its
value everywhere but as the function of a call, and a call of something that is
neither a function nor a method is left as it is, for its error shows it as it
was written. -/

namespace BehaviorContract

namespace Expr

mutual

/-- The expression with a value in place of a name. -/
@[simp] def substitute (name : String) (value : Value) : Expr → Expr
  | .literal held => .literal held
  | .identifier other => if other = name then .literal value else .identifier other
  | .member target property => .member (target.substitute name value) property
  | .index target position =>
      .index (target.substitute name value) (position.substitute name value)
  | .unary op operand => .unary op (operand.substitute name value)
  | .binary op left right =>
      .binary op (left.substitute name value) (right.substitute name value)
  | .call (.identifier function) arguments =>
      .call (.identifier function) (substituteList name value arguments)
  | .call (.member target property) arguments =>
      .call (.member (target.substitute name value) property)
        (substituteList name value arguments)
  | .call callee arguments => .call callee (substituteList name value arguments)
  | .old expression => .old (expression.substitute name value)
  | .list elements => .list (substituteList name value elements)
  | .object fields => .object (substituteFields name value fields)

@[simp] def substituteList (name : String) (value : Value) : List Expr → List Expr
  | [] => []
  | element :: rest => element.substitute name value :: substituteList name value rest

@[simp] def substituteFields (name : String) (value : Value) :
    List (String × Expr) → List (String × Expr)
  | [] => []
  | (key, expression) :: rest =>
      (key, expression.substitute name value) :: substituteFields name value rest

end

theorem substituteList_eq_map (name : String) (value : Value) (elements : List Expr) :
    substituteList name value elements = elements.map (substitute name value) := by
  induction elements with
  | nil => rfl
  | cons element rest induction => rw [substituteList, List.map_cons, induction]

theorem eq_identifier_of_substitute {name other : String} {value : Value}
    {expression : Expr} (same : expression.substitute name value = .identifier other) :
    expression = .identifier other ∧ other ≠ name := by
  cases expression with
  | identifier found =>
      rw [substitute] at same
      split at same
      · cases same
      · rename_i different
        cases same
        exact ⟨rfl, different⟩
  | call callee => cases callee <;> cases same
  | _ => cases same

theorem eq_binary_of_substitute {name : String} {value : Value}
    {expression left right : Expr} {op : BinaryOp}
    (same : expression.substitute name value = .binary op left right) :
    ∃ left right, expression = .binary op left right := by
  cases expression with
  | identifier found =>
      rw [substitute] at same
      split at same <;> cases same
  | binary =>
      cases same
      exact ⟨_, _, rfl⟩
  | call callee => cases callee <;> cases same
  | _ => cases same

/-- Says that binding the name is putting the value in its place. -/
def BindsAs (name : String) (value : Value) (expression : Expr) : Prop :=
  ∀ context : Context,
    expression.evaluate (context.bind name value) =
      (expression.substitute name value).evaluate context

section Binding

variable {name : String} {value : Value}

theorem evaluateList_bind {elements : List Expr}
    (ofElements : ∀ element ∈ elements, element.BindsAs name value) (context : Context) :
    evaluateList (context.bind name value) elements =
      evaluateList context (substituteList name value elements) := by
  induction elements with
  | nil => rfl
  | cons element rest induction =>
      rw [List.forall_mem_cons] at ofElements
      rw [substituteList, evaluateList, evaluateList, ofElements.1,
        induction ofElements.2]

theorem evaluateFields_bind {fields : List (String × Expr)}
    (ofFields : ∀ field ∈ fields, field.2.BindsAs name value) (context : Context) :
    evaluateFields (context.bind name value) fields =
      evaluateFields context (substituteFields name value fields) := by
  induction fields with
  | nil => rfl
  | cons field rest induction =>
      rw [List.forall_mem_cons] at ofFields
      rw [substituteFields, evaluateFields, evaluateFields, ofFields.1,
        induction ofFields.2]

theorem evaluate_tense_bind (tense : Tense) {expression : Expr}
    (ofExpression : expression.BindsAs name value) (context : Context) :
    (tense.apply expression).evaluate (context.bind name value) =
      (tense.apply (expression.substitute name value)).evaluate context := by
  have sameInstances : tense.instances? (context.bind name value) =
      tense.instances? context := by
    cases tense <;> rfl
  rw [tense.evaluate_apply, tense.evaluate_apply, sameInstances]
  cases tense.instances? context with
  | none => rfl
  | some instances => exact ofExpression { context with instances }

theorem bindsAs_identifier (other : String) :
    (Expr.identifier other).BindsAs name value := by
  intro context
  rw [substitute, evaluate, Context.resolve, context.resolve?_bind]
  by_cases same : other = name
  · rw [if_pos same, if_pos same.symm, evaluate]
  · rw [if_neg same, if_neg (Ne.symm same), evaluate, Context.resolve]

theorem bindsAs_binary (op : BinaryOp) {left right : Expr}
    (ofLeft : left.BindsAs name value) (ofRight : right.BindsAs name value) :
    (Expr.binary op left right).BindsAs name value := by
  intro context
  rw [substitute]
  cases op
  all_goals simp only [evaluate, ofLeft context, ofRight context]

theorem evaluate_function {function : String} (notOld : function ≠ "old")
    (notNow : function ≠ "now") (context : Context) (arguments : List Expr) :
    (Expr.call (.identifier function) arguments).evaluate context =
      (Builtin.ofName? function).elim (.error (.unknownFunction function))
        fun builtin => evaluateList context arguments >>= builtin.apply := by
  rw [evaluate]
  · cases Builtin.ofName? function <;> rfl
  · exact fun _ _ => notOld
  · exact notOld
  · exact notNow

theorem bindsAs_function (function : String) {arguments : List Expr}
    (ofArguments : ∀ argument ∈ arguments, argument.BindsAs name value) :
    (Expr.call (.identifier function) arguments).BindsAs name value := by
  intro context
  rw [substitute]
  by_cases isOld : function = "old"
  · subst isOld
    match arguments with
    | [] => rfl
    | [argument] =>
        exact evaluate_tense_bind .oldCall (ofArguments argument (by simp)) context
    | _ :: _ :: rest =>
        rw [evaluate, evaluate, substituteList_eq_map, List.length_map]
        all_goals simp
  · by_cases isNow : function = "now"
    · subst isNow
      rw [evaluate, evaluate, substituteList_eq_map, List.isEmpty_map, List.length_map]
      rfl
    · rw [evaluate_function isOld isNow, evaluate_function isOld isNow,
        evaluateList_bind ofArguments]

theorem evaluate_method {context : Context} {target : Expr}
    (resolved : ∀ name, target = .identifier name → (context.resolve? name).isSome = true)
    (property : String) (arguments : List Expr) :
    (Expr.call (.member target property) arguments).evaluate context =
      target.evaluate context >>= fun target =>
        evaluateList context arguments >>= fun arguments =>
          target.callMethod property arguments := by
  by_cases isName : ∃ name, target = .identifier name
  · obtain ⟨name, rfl⟩ := isName
    obtain ⟨found, isFound⟩ := Option.isSome_iff_exists.1 (resolved name rfl)
    simp only [evaluate, Context.resolve, isFound]
    rfl
  · rw [evaluate]
    intro name same
    exact isName ⟨name, same⟩

theorem bindsAs_method {target : Expr} (ofTarget : target.BindsAs name value)
    (property : String) {arguments : List Expr}
    (ofArguments : ∀ argument ∈ arguments, argument.BindsAs name value) :
    (Expr.call (.member target property) arguments).BindsAs name value := by
  intro context
  rw [substitute]
  by_cases free : ∃ other, target = .identifier other ∧ other ≠ name
  · obtain ⟨other, rfl, different⟩ := free
    have sameName : (context.bind name value).resolve? other =
        context.resolve? other := by
      rw [context.resolve?_bind, if_neg (Ne.symm different)]
    rw [substitute, if_neg different]
    simp only [evaluate, sameName, evaluateList_bind ofArguments]
    rfl
  · rw [evaluate_method, evaluate_method, ofTarget context, evaluateList_bind ofArguments]
    · intro other same
      exact absurd ⟨other, eq_identifier_of_substitute same⟩ free
    · intro other same
      have isName : other = name :=
        Classical.byContradiction fun different => free ⟨other, same, different⟩
      rw [context.resolve?_bind, if_pos isName.symm]
      rfl

section Callee

variable {callee : Expr} (notFunction : ∀ function, callee = .identifier function → False)
  (notMethod : ∀ target property, callee = .member target property → False)

include notFunction notMethod

theorem evaluate_callee (context : Context) (arguments : List Expr) :
    (Expr.call callee arguments).evaluate context =
      .error (.unknownFunction callee.print) := by
  rw [evaluate]
  · exact fun name => notMethod (.identifier name)
  · exact notMethod
  · exact fun _ isOld _ => notFunction "old" isOld
  · exact notFunction "old"
  · exact notFunction "now"
  · exact notFunction

theorem bindsAs_callee (arguments : List Expr) :
    (Expr.call callee arguments).BindsAs name value := by
  intro context
  rw [substitute, evaluate_callee notFunction notMethod,
    evaluate_callee notFunction notMethod]
  · exact notFunction
  · exact notMethod

end Callee

-- The induction follows the substitution: it has the arguments of every call,
-- while the evaluation skips those of a call that fails, and such a call can
-- become that of a method.
theorem evaluate_bind (name : String) (value : Value) (expression : Expr) :
    expression.BindsAs name value := by
  refine (substitute.mutual_induct name (BindsAs name value)
    (fun fields => ∀ field ∈ fields, field.2.BindsAs name value)
    (fun elements => ∀ element ∈ elements, element.BindsAs name value)
    ?literal ?bound ?free ?member ?index ?unary ?binary ?function ?method ?callee
      ?old ?list ?object
    ?nil ?cons ?nilField ?consField).1 expression
  case literal =>
    intro held context
    rw [substitute, evaluate, evaluate]
  case bound => exact bindsAs_identifier name
  case free =>
    intro other _
    exact bindsAs_identifier other
  case member =>
    intro target property ofTarget context
    rw [substitute, evaluate, evaluate, ofTarget]
  case index =>
    intro target position ofTarget ofPosition context
    rw [substitute, evaluate, evaluate, ofTarget, ofPosition]
  case unary =>
    intro op operand ofOperand context
    rw [substitute, evaluate, evaluate, ofOperand]
  case binary =>
    intro op left right ofLeft ofRight
    exact bindsAs_binary op ofLeft ofRight
  case function =>
    intro function arguments ofArguments
    exact bindsAs_function function ofArguments
  case method =>
    intro target property arguments ofTarget ofArguments
    exact bindsAs_method ofTarget property ofArguments
  case callee =>
    intro callee arguments notFunction notMethod _
    exact bindsAs_callee notFunction notMethod arguments
  case old =>
    intro expression ofExpression context
    rw [substitute]
    exact evaluate_tense_bind .old ofExpression context
  case list =>
    intro elements ofElements context
    rw [substitute, evaluate, evaluate, evaluateList_bind ofElements]
  case object =>
    intro fields ofFields context
    rw [substitute, evaluate, evaluate, evaluateFields_bind ofFields]
  case nil => simp
  case cons =>
    intro element rest ofElement ofRest
    exact List.forall_mem_cons.2 ⟨ofElement, ofRest⟩
  case nilField => simp
  case consField =>
    intro key expression rest ofExpression ofRest
    exact List.forall_mem_cons.2 ⟨ofExpression, ofRest⟩

theorem evaluateBool_bind (name : String) (value : Value) (clause : Expr)
    (context : Context) :
    clause.evaluateBool (context.bind name value) =
      (clause.substitute name value).evaluateBool context := by
  rw [evaluateBool, evaluateBool, evaluate_bind]

theorem examine_bind_of_other {clause : Expr}
    (notImplies : ∀ left right, clause ≠ .binary .implies left right)
    (notComparison : ∀ op left right,
      clause = .binary op left right → op.isComparison = false) (context : Context) :
    clause.examine (context.bind name value) =
      (clause.substitute name value).examine context := by
  rw [examine_other _ notImplies notComparison, evaluate_bind name value clause context,
    examine_other context]
  · intro left right same
    obtain ⟨left, right, same⟩ := eq_binary_of_substitute same
    exact notImplies left right same
  · intro op left right same
    obtain ⟨left, right, same⟩ := eq_binary_of_substitute same
    exact notComparison op left right same

/-- What is recorded of a clause follows its shape, and putting a value in the
place of a name does not change that. -/
theorem examine_bind (name : String) (value : Value) (clause : Expr) (context : Context) :
    clause.examine (context.bind name value) =
      (clause.substitute name value).examine context := by
  induction clause using examine.induct with
  | case1 left right induction =>
      rw [substitute, examine_implies, examine_implies, evaluateBool_bind, induction]
  | case2 op left right notImplies comparison =>
      rw [substitute, examine_comparison _ comparison, examine_comparison _ comparison,
        evaluate_bind name value left, evaluate_bind name value right]
  | case3 op left right notImplies notComparison =>
      apply examine_bind_of_other
      · intro otherLeft otherRight same
        exact notImplies (binary.inj same).1
      · intro otherOp otherLeft otherRight same
        rw [← (binary.inj same).1]
        exact Bool.eq_false_iff.2 notComparison
  | case4 clause notImplies notBinary =>
      apply examine_bind_of_other
      · exact notImplies
      · intro op left right same
        exact (notBinary op left right same).elim

end Binding

/-- An invariant of an entity with an instance in place of `this` and of the
name of the entity in small letters. -/
def about (entity : Entity) (self : Instance) (clause : Expr) : Expr :=
  (clause.substitute (Text.lowercase entity.name) self.toValue).substitute
    "this" self.toValue

theorem examine_ofInstance (context : Context) (entity : Entity) (self : Instance)
    (clause : Expr) :
    clause.examine (context.ofInstance entity self) =
      (clause.about entity self).examine context := by
  rw [Context.ofInstance, examine_bind, examine_bind, about]

end Expr

namespace Check

def textless (check : Check) : Check :=
  { check with expression := "" }

theorem textless_ofClause_congr (kind : ClauseKind) (name : String)
    {context otherContext : Context} {clause otherClause : Expr}
    (same : clause.examine context = otherClause.examine otherContext) :
    (ofClause kind name context clause).textless =
      (ofClause kind name otherContext otherClause).textless := by
  rw [ofClause, ofClause, same]
  cases otherClause.examine otherContext <;> rfl

theorem textless_ofClauses_ofInstance (context : Context) (entity : Entity)
    (self : Instance) (kind : ClauseKind) (label : String) (clauses : List Expr) :
    (ofClauses kind label (context.ofInstance entity self) clauses).map textless =
      (ofClauses kind label context (clauses.map (·.about entity self))).map
        textless := by
  refine List.ext_getElem (by simp [ofClauses]) ?_
  intro position _ _
  simp only [ofClauses, List.getElem_map, List.getElem_mapIdx]
  exact textless_ofClause_congr kind _ (Expr.examine_ofInstance context entity self _)

end Check

/-- Evaluating where a name is bound is evaluating the expression with the value
in place of the name, to the same value or the same error. So the invariants of
an instance are checked as if its value stood in them: but for the text of the
clause, the checks are those of the invariants with the instance in place of
`this` and of its entity's name. -/
theorem binding_is_substitution :
    (∀ (expression : Expr) (context : Context) (name : String) (value : Value),
      expression.evaluate (context.bind name value) =
        (expression.substitute name value).evaluate context) ∧
    ∀ (domain : Domain) (context : Context),
      (domain.checkEntities context).map Check.textless =
        domain.entities.flatMap fun entity =>
            (context.instances.all entity.name).flatMap fun self =>
          (Check.ofClauses .invariant
            (entity.name ++ "_" ++ self.id ++ "_invariant") context
            (entity.invariants.map (·.about entity self))).map Check.textless := by
  constructor
  · intro expression context name value
    exact Expr.evaluate_bind name value expression context
  · intro domain context
    simp only [Domain.checkEntities_eq, List.map_flatMap]
    congr 1
    funext entity
    congr 1
    funext self
    exact Check.textless_ofClauses_ofInstance context entity self ..

-- A name is not replaced where it names a function, as in an invariant of an
-- entity called `Old`.
example (value : Value) :
    Expr.substitute "old" value
      (.call (.identifier "old") [.member (.identifier "old") "value"]) =
      .call (.identifier "old") [.member (.literal value) "value"] := rfl

end BehaviorContract
