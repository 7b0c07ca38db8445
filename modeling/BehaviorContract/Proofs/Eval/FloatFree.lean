import BehaviorContract.Proofs.Eval.Old
import BehaviorContract.Proofs.Expr.Json
import BehaviorContract.Proofs.Store.Replay

/-! Doubles do not come from nowhere. Where no double stands in the literals of
an expression nor in the context, only a quotient can make one: every other
operator, function, method and question gives a value without doubles. -/

namespace BehaviorContract

namespace Evaluated

/-- Says that an evaluation has a property, if it ends without an error. -/
def Yields {α : Type} (holds : α → Prop) (evaluated : Evaluated α) : Prop :=
  ∀ value, evaluated = .ok value → holds value

section Yields

variable {α β : Type} {holds : α → Prop} {after : β → Prop} {evaluated : Evaluated α}
  {next : α → Evaluated β}

theorem yields_ok {value : α} (held : holds value) : Yields holds (.ok value) := by
  intro other same
  cases same
  exact held

theorem yields_error (error : EvalError) : Yields holds (.error error) := by
  intro value same
  cases same

theorem Yields.bind (first : Yields holds evaluated)
    (later : ∀ value, holds value → Yields after (next value)) :
    Yields after (evaluated >>= next) := by
  cases evaluated with
  | error error => exact yields_error error
  | ok value => exact later value (first value rfl)

theorem yields_bind (later : ∀ value, Yields after (next value)) :
    Yields after (evaluated >>= next) := by
  cases evaluated with
  | error error => exact yields_error error
  | ok value => exact later value

end Yields

end Evaluated

open Evaluated

namespace Value

abbrev FloatFree (value : Value) : Prop :=
  value.floatFree = true

theorem floatFree_of_get? {fields : Table Value} (free : fieldsFloatFree fields = true)
    {key : String} {value : Value}
    (found : fields.get? key = some value) : value.FloatFree :=
  fieldsFloatFree_iff.1 free _ (fields.get?_eq_some_iff.1 found)

theorem floatFree_getD {found : Option Value}
    (free : ∀ value, found = some value → value.FloatFree) :
    (found.getD .null).FloatFree := by
  cases found with
  | none => rfl
  | some value => exact free value rfl

theorem fieldsFloatFree_insert {fields : Table Value}
    (free : fieldsFloatFree fields = true) (key : String) {value : Value}
    (valueFree : value.FloatFree) : fieldsFloatFree (fields.insert key value) = true := by
  rw [fieldsFloatFree_iff]
  intro entry member
  rw [← Entries.get?_eq_some_iff, Entries.get?_insert] at member
  split at member
  · cases member
    exact valueFree
  · exact floatFree_of_get? free member

theorem floatFree_ofFields {fields : List (String × Value)}
    (free : ∀ entry ∈ fields, entry.2.FloatFree) : (ofFields fields).FloatFree := by
  rw [FloatFree, ofFields, floatFree, fieldsFloatFree_iff]
  intro entry member
  exact free entry (Table.mem_of_mem_ofList member)

theorem floatFree_get? {value found : Value} (free : value.FloatFree) {key : String}
    (isField : value.get? key = some found) : found.FloatFree := by
  cases value with
  | object fields =>
      rw [FloatFree, floatFree] at free
      exact floatFree_of_get? free isField
  | _ => cases isField

section Operators

variable {left right : Value} (leftFree : left.FloatFree) (rightFree : right.FloatFree)

theorem yields_checked {operator : String} {number : Int} :
    Yields FloatFree (checked operator number) := by
  unfold checked
  split
  · exact yields_ok rfl
  · exact yields_error _

theorem isInteger_of_float? {value : Value} (free : value.FloatFree) {double : Float}
    (isNumber : value.float? = some double) : ∃ whole, value = .integer whole := by
  cases value with
  | integer whole => exact ⟨whole, rfl⟩
  | float number => cases free
  | _ => cases isNumber

theorem yields_member {target : Value} (free : target.FloatFree) (property : String) :
    Yields FloatFree (target.member property) := by
  unfold member
  split
  · rw [FloatFree, floatFree] at free
    exact yields_ok (floatFree_getD fun _ => floatFree_of_get? free)
  · split
    · exact yields_ok rfl
    · exact yields_error _
  · split
    · exact yields_ok rfl
    · exact yields_error _
  · exact yields_error _

theorem yields_atIndex {target : Value} (free : target.FloatFree) (key : Value) :
    Yields FloatFree (target.atIndex key) := by
  unfold atIndex
  split
  · rw [FloatFree, floatFree, itemsFloatFree_iff] at free
    apply yields_ok
    split
    · rfl
    · exact floatFree_getD fun item found => free item (List.mem_of_getElem? found)
  · rw [FloatFree, floatFree] at free
    exact yields_ok (floatFree_getD fun _ => floatFree_of_get? free)
  · exact yields_error _

theorem yields_ordered {operator : BinaryOp} {holds : Ordering → Bool}
    {left right : Value} :
    Yields FloatFree (ordered operator holds left right) := by
  unfold ordered
  split
  · exact yields_ok rfl
  · exact yields_error _

theorem yields_logical {operator : BinaryOp} {combine : Bool → Bool → Bool}
    {left right : Value} :
    Yields FloatFree (logical operator combine left right) :=
  yields_bind fun _ => yields_bind fun _ => yields_ok rfl

theorem yields_isIn {item container : Value} :
    Yields FloatFree (item.isIn container) := by
  unfold isIn
  split
  · exact yields_ok rfl
  · exact yields_ok rfl
  · exact yields_ok rfl
  · exact yields_error _

include leftFree rightFree

theorem not_numbers (notWhole : ∀ leftWhole rightWhole,
      left = .integer leftWhole → right = .integer rightWhole → False)
    {leftDouble rightDouble : Float} (isLeft : left.float? = some leftDouble)
    (isRight : right.float? = some rightDouble) : False := by
  obtain ⟨leftWhole, leftIs⟩ := isInteger_of_float? leftFree isLeft
  obtain ⟨rightWhole, rightIs⟩ := isInteger_of_float? rightFree isRight
  exact notWhole leftWhole rightWhole leftIs rightIs

theorem yields_arithmetic {operator : BinaryOp} {whole : Int → Int → Int}
    {double : Float → Float → Float} :
    Yields FloatFree (arithmetic operator whole double left right) := by
  unfold arithmetic
  split
  · exact yields_checked
  · rename_i notWhole
    split
    · rename_i isLeft isRight
      exact (not_numbers leftFree rightFree notWhole isLeft isRight).elim
    · exact yields_error _

theorem yields_remainder : Yields FloatFree (left.remainder right) := by
  unfold remainder
  split
  · split
    · exact yields_error _
    · split
      · exact yields_ok rfl
      · exact yields_error _
  · rename_i notWhole
    unfold floatQuotient
    split
    · rename_i isLeft isRight
      exact (not_numbers leftFree rightFree notWhole isLeft isRight).elim
    · exact yields_error _

theorem yields_add : Yields FloatFree (BinaryOp.add.apply left right) := by
  simp only [BinaryOp.apply]
  split
  · exact yields_ok rfl
  · rename_i leftItems rightItems
    rw [FloatFree, floatFree, itemsFloatFree_iff] at leftFree rightFree
    apply yields_ok
    rw [FloatFree, floatFree, itemsFloatFree_iff, List.forall_mem_append]
    exact ⟨leftFree, rightFree⟩
  · exact yields_arithmetic leftFree rightFree

theorem yields_binary {op : BinaryOp} (undivided : op ≠ .divide) :
    Yields FloatFree (op.apply left right) := by
  cases op with
  | equal => exact yields_ok rfl
  | notEqual => exact yields_ok rfl
  | less => exact yields_ordered
  | atMost => exact yields_ordered
  | greater => exact yields_ordered
  | atLeast => exact yields_ordered
  | add => exact yields_add leftFree rightFree
  | subtract => exact yields_arithmetic leftFree rightFree
  | multiply => exact yields_arithmetic leftFree rightFree
  | divide => exact absurd rfl undivided
  | remainder => exact yields_remainder leftFree rightFree
  | and => exact yields_logical
  | or => exact yields_logical
  | implies => exact yields_logical
  | isIn => exact yields_isIn

theorem yields_select {function : String} {prefersSecond : Ordering → Bool} :
    Yields FloatFree (select function prefersSecond left right) := by
  unfold select
  split
  · apply yields_ok
    split
    · exact rightFree
    · exact leftFree
  · exact yields_error _

end Operators

theorem yields_unary (op : UnaryOp) {operand : Value} (free : operand.FloatFree) :
    Yields FloatFree (op.apply operand) := by
  unfold UnaryOp.apply
  split
  · exact yields_ok rfl
  · exact yields_checked
  · cases free
  · exact yields_error _

theorem yields_absolute {value : Value} (free : value.FloatFree) :
    Yields FloatFree value.absolute := by
  unfold absolute
  split
  · exact yields_checked
  · cases free
  · exact yields_error _

theorem yields_callMethod {target : Value} {method : String} {arguments : List Value} :
    Yields FloatFree (target.callMethod method arguments) := by
  unfold callMethod
  split
  case h_1 | h_2 | h_3 | h_4 | h_8 | h_9 => exact yields_ok rfl
  case h_5 | h_6 | h_7 => exact yields_bind fun _ => yields_ok rfl
  all_goals exact yields_error _

end Value

open Value

theorem Builtin.yields_apply (builtin : Builtin) {arguments : List Value}
    (free : ∀ argument ∈ arguments, argument.FloatFree) :
    Yields FloatFree (builtin.apply arguments) := by
  unfold apply
  split
  · exact yields_bind fun _ => yields_ok rfl
  · exact yields_bind fun _ => yields_ok rfl
  · exact yields_callMethod
  · exact yields_callMethod
  · exact yields_absolute (free _ (by simp))
  · exact yields_select (free _ (by simp)) (free _ (by simp))
  · exact yields_select (free _ (by simp)) (free _ (by simp))
  · exact yields_error _

theorem Instance.floatFree_toValue {self : Instance}
    (free : fieldsFloatFree self.fields = true) : self.toValue.FloatFree := by
  rw [toValue, FloatFree, floatFree]
  split
  · exact free
  · exact fieldsFloatFree_insert free "id" rfl

theorem Instances.floatFree_of_mem_all {instances : Instances}
    (free : instances.floatFree = true) {entity : String} {self : Instance}
    (member : self ∈ instances.all entity) : self.toValue.FloatFree := by
  obtain ⟨id, found⟩ := (instances.mem_all_iff entity).1 member
  exact Instance.floatFree_toValue (fieldsFloatFree_of_find? free found)

theorem Query.yields_answer (query : Query) {instances : Instances}
    (free : instances.floatFree = true) (entity : String) (arguments : List Value) :
    Yields FloatFree (query.answer instances entity arguments) := by
  unfold answer
  split
  · exact yields_error _
  · cases query with
    | exist => exact yields_ok rfl
    | lookup =>
        apply yields_ok
        apply floatFree_getD
        intro value found
        obtain ⟨self, isFirst, rfl⟩ := Option.map_eq_some_iff.1 found
        exact Instances.floatFree_of_mem_all free (List.mem_of_find?_eq_some isFirst)
    | count => exact yields_ok rfl
    | all =>
        simp only
        split
        · apply yields_ok
          rw [FloatFree, floatFree, itemsFloatFree_iff, List.forall_mem_map]
          exact fun self member => Instances.floatFree_of_mem_all free member
        · exact yields_error _

namespace Context

/-- Says that no double stands in what the expressions of a clause can see. -/
structure FloatFree (context : Context) : Prop where
  input : context.input.floatFree = true
  result : context.result.all Value.floatFree = true
  error : context.error.all Value.floatFree = true
  scope : fieldsFloatFree context.scope = true
  instances : context.instances.floatFree = true
  before : context.before.all Instances.floatFree = true

variable {context : Context} (free : context.FloatFree)

include free

theorem FloatFree.resolve? {name : String} {value : Value}
    (found : context.resolve? name = some value) : value.FloatFree := by
  have ofOption {option : Option Value}
    (all : option.all Value.floatFree = true) (held : Value)
      (isHeld : option = some held) : held.FloatFree := by
    rw [isHeld] at all
    exact all
  unfold Context.resolve? at found
  split at found
  · rename_i bound
    cases found
    exact floatFree_of_get? free.scope bound
  split at found
  · cases found
    exact free.input
  split at found
  · cases found
    exact floatFree_getD (ofOption free.result)
  split at found
  · cases found
    exact floatFree_getD (ofOption free.error)
  split at found
  · rename_i isField
    cases found
    exact floatFree_get? free.input isField
  · obtain ⟨result, isResult, isField⟩ := Option.bind_eq_some_iff.1 found
    exact floatFree_get? (ofOption free.result result isResult) isField

theorem FloatFree.yields_resolve (name : String) :
    Yields Value.FloatFree (context.resolve name) := by
  unfold resolve
  split
  · rename_i found
    exact yields_ok (free.resolve? found)
  · exact yields_error _

theorem FloatFree.old {before : Instances} (kept : context.before = some before) :
    ({ context with instances := before } : Context).FloatFree := by
  have beforeFree := free.before
  rw [kept] at beforeFree
  exact { free with instances := beforeFree }

end Context

namespace Expr

mutual

/-- Says that a quotient stands in the expression. -/
def divides : Expr → Bool
  | .literal _ => false
  | .identifier _ => false
  | .member target _ => target.divides
  | .index target position => target.divides || position.divides
  | .unary _ operand => operand.divides
  | .binary op left right => op == .divide || (left.divides || right.divides)
  | .call callee arguments => callee.divides || anyDivides arguments
  | .old expression => expression.divides
  | .list elements => anyDivides elements
  | .object fields => anyFieldDivides fields

def anyDivides : List Expr → Bool
  | [] => false
  | element :: rest => element.divides || anyDivides rest

def anyFieldDivides : List (String × Expr) → Bool
  | [] => false
  | (_, expression) :: rest => expression.divides || anyFieldDivides rest

end

def KeepsFree (context : Context) (expression : Expr) : Prop :=
  context.FloatFree → expression.floatFree = true → expression.divides = false →
    Yields FloatFree (expression.evaluate context)

def FieldsKeepFree (context : Context) (fields : List (String × Expr)) : Prop :=
  context.FloatFree → fieldsFloatFree fields = true → anyFieldDivides fields = false →
    Yields (fun values => ∀ entry ∈ values, entry.2.FloatFree)
      (evaluateFields context fields)

def ListKeepsFree (context : Context) (elements : List Expr) : Prop :=
  context.FloatFree → listFloatFree elements = true → anyDivides elements = false →
    Yields (fun values => ∀ value ∈ values, value.FloatFree)
      (evaluateList context elements)

theorem keepsFree (context : Context)
    (expression : Expr) : expression.KeepsFree context := by
  refine (evaluate.mutual_induct KeepsFree FieldsKeepFree ListKeepsFree
    ?literal ?identifier ?member ?index ?unary ?and ?or ?implies ?strict
    ?bound ?answered ?undeclared ?noQuery ?unbound ?method
    ?oldCall ?oldCallMissing ?oldArity ?now ?nowArity ?builtin ?unknown ?callee
    ?old ?oldMissing ?list ?object ?nil ?cons ?nilField ?consField).1 context expression
  case literal =>
    intro context value free exprFree undivided
    rw [floatFree] at exprFree
    rw [evaluate]
    exact yields_ok exprFree
  case identifier =>
    intro context name free _ _
    rw [evaluate]
    exact free.yields_resolve name
  case member =>
    intro context target property ofTarget free exprFree undivided
    rw [floatFree] at exprFree
    rw [divides] at undivided
    rw [evaluate]
    exact (ofTarget free exprFree undivided).bind fun _ targetFree =>
      yields_member targetFree property
  case index =>
    intro context target position ofTarget ofPosition free exprFree undivided
    rw [floatFree, Bool.and_eq_true] at exprFree
    rw [divides, Bool.or_eq_false_iff] at undivided
    rw [evaluate]
    refine (ofTarget free exprFree.1 undivided.1).bind fun _ targetFree => ?_
    exact (ofPosition free exprFree.2 undivided.2).bind fun position _ =>
      yields_atIndex targetFree position
  case unary =>
    intro context op operand ofOperand free exprFree undivided
    rw [floatFree] at exprFree
    rw [divides] at undivided
    rw [evaluate]
    exact (ofOperand free exprFree undivided).bind fun _ operandFree =>
      yields_unary op operandFree
  case and | implies =>
    intro context left right _ _ _ _ _
    rw [evaluate]
    refine yields_bind fun _ => yields_bind fun truth => ?_
    cases truth with
    | false => exact yields_ok rfl
    | true => exact yields_bind fun _ => yields_bind fun _ => yields_ok rfl
  case or =>
    intro context left right _ _ _ _ _
    rw [evaluate]
    refine yields_bind fun _ => yields_bind fun truth => ?_
    cases truth with
    | false => exact yields_bind fun _ => yields_bind fun _ => yields_ok rfl
    | true => exact yields_ok rfl
  case strict =>
    intro context op left right notAnd notOr notImplies ofLeft ofRight free
      exprFree undivided
    rw [floatFree, Bool.and_eq_true] at exprFree
    rw [divides, Bool.or_eq_false_iff, Bool.or_eq_false_iff,
      beq_eq_false_iff_ne] at undivided
    rw [evaluate]
    · refine (ofLeft free exprFree.1 undivided.2.1).bind fun _ leftFree => ?_
      refine (ofRight free exprFree.2 undivided.2.2).bind fun _ rightFree => ?_
      exact yields_binary leftFree rightFree undivided.1
    · exact notAnd
    · exact notOr
    · exact notImplies
  case bound =>
    intro context name property arguments target resolved _ _ _ _
    simp only [evaluate, resolved]
    exact yields_bind fun _ => yields_callMethod
  case answered =>
    intro context name property arguments unresolved query named declared _ free _ _
    simp only [evaluate, unresolved, named, declared, if_true]
    exact yields_bind fun arguments => query.yields_answer free.instances name arguments
  case undeclared =>
    intro context name property arguments unresolved query named undeclared _ _ _
    simp only [evaluate, unresolved, named, undeclared]
    exact yields_error _
  case noQuery =>
    intro context name property arguments unresolved unnamed declared _ _ _
    simp only [evaluate, unresolved, unnamed, declared, if_true]
    exact yields_error _
  case unbound =>
    intro context name property arguments unresolved unnamed undeclared _ _ _
    simp only [evaluate, unresolved, unnamed, undeclared]
    exact yields_error _
  case method =>
    intro context target property arguments notName _ _ _ _ _
    rw [evaluate]
    · exact yields_bind fun _ => yields_bind fun _ => yields_callMethod
    · exact notName
  case oldCall =>
    intro context expression before kept ofExpression free exprFree undivided
    rw [floatFree, Bool.and_eq_true, listFloatFree, Bool.and_eq_true] at exprFree
    rw [divides, Bool.or_eq_false_iff, anyDivides, Bool.or_eq_false_iff] at undivided
    have isOld : Expr.call (.identifier "old") [expression] ∈ expression.oldForms := by
      simp [oldForms]
    rw [evaluate_of_mem_oldForms kept isOld]
    exact ofExpression (free.old kept) exprFree.2.1 undivided.2.1
  case oldCallMissing =>
    intro context expression missing _ _ _
    simp only [evaluate, missing]
    exact yields_error _
  case oldArity =>
    intro context arguments notSingle _ _ _
    rw [evaluate]
    · exact yields_error _
    · exact notSingle
  case now =>
    intro context arguments none _ _ _
    rw [evaluate, if_pos none]
    exact yields_ok rfl
  case nowArity =>
    intro context arguments some _ _ _
    rw [evaluate, if_neg some]
    exact yields_error _
  case builtin =>
    intro context name arguments _ notOld notNow builtin named ofArguments free
      exprFree undivided
    rw [floatFree, Bool.and_eq_true] at exprFree
    rw [divides, Bool.or_eq_false_iff] at undivided
    simp only [evaluate, named]
    exact (ofArguments free exprFree.2 undivided.2).bind fun _ argumentsFree =>
      builtin.yields_apply argumentsFree
  case unknown =>
    intro context name arguments _ notOld notNow unnamed _ _ _
    simp only [evaluate, unnamed]
    exact yields_error _
  case callee =>
    intro context callee arguments _ notMember _ notOld notNow notName _ _ _
    rw [evaluate]
    · exact yields_error _
    all_goals assumption
  case old =>
    intro context expression before kept ofExpression free exprFree undivided
    rw [floatFree] at exprFree
    rw [divides] at undivided
    have isOld : Expr.old expression ∈ expression.oldForms := by simp [oldForms]
    rw [evaluate_of_mem_oldForms kept isOld]
    exact ofExpression (free.old kept) exprFree undivided
  case oldMissing =>
    intro context expression missing _ _ _
    simp only [evaluate, missing]
    exact yields_error _
  case list =>
    intro context elements ofElements free exprFree undivided
    rw [floatFree] at exprFree
    rw [divides] at undivided
    rw [evaluate]
    refine (ofElements free exprFree undivided).bind fun values valuesFree => yields_ok ?_
    exact itemsFloatFree_iff.2 valuesFree
  case object =>
    intro context fields ofFields free exprFree undivided
    rw [floatFree] at exprFree
    rw [divides] at undivided
    rw [evaluate]
    exact (ofFields free exprFree undivided).bind fun values valuesFree =>
      yields_ok (floatFree_ofFields valuesFree)
  case nil =>
    intro context _ _ _
    rw [evaluateList]
    exact yields_ok (by simp)
  case cons =>
    intro context element rest ofElement ofRest free exprFree undivided
    rw [listFloatFree, Bool.and_eq_true] at exprFree
    rw [anyDivides, Bool.or_eq_false_iff] at undivided
    rw [evaluateList]
    refine (ofElement free exprFree.1 undivided.1).bind fun value valueFree => ?_
    refine (ofRest free exprFree.2 undivided.2).bind fun values valuesFree => yields_ok ?_
    exact List.forall_mem_cons.2 ⟨valueFree, valuesFree⟩
  case nilField =>
    intro context _ _ _
    rw [evaluateFields]
    exact yields_ok (by simp)
  case consField =>
    intro context key expression rest ofExpression ofRest free exprFree undivided
    rw [fieldsFloatFree, Bool.and_eq_true] at exprFree
    rw [anyFieldDivides, Bool.or_eq_false_iff] at undivided
    rw [evaluateFields]
    refine (ofExpression free exprFree.1 undivided.1).bind fun value valueFree => ?_
    refine (ofRest free exprFree.2 undivided.2).bind fun values valuesFree => yields_ok ?_
    exact List.forall_mem_cons.2 ⟨valueFree, valuesFree⟩

/-- Without doubles in the literals and in the context, and without a quotient,
no double comes out. -/
theorem evaluate_gives_no_double {context : Context} {expression : Expr}
    (free : context.FloatFree) (exprFree : expression.floatFree = true)
    (undivided : expression.divides = false) {value : Value}
    (evaluated : expression.evaluate context = .ok value) : value.floatFree = true :=
  keepsFree context expression free exprFree undivided value evaluated

def threeLeft : Context :=
  { fiveBefore with
    instances := (Store.empty.create "Counter"
      (Table.ofList [("id", .text "c1"), ("value", .integer 3)])).2.instances
    scope := Table.ofList [("limits", .array [.integer 4, .null])] }

def taken : Expr :=
  let counters : Expr := .call (.member (.identifier "Counter") "all") []
  let left : Expr := .member (.index counters (.literal (.integer 0))) "value"
  .object [("taken", .binary .subtract (.old left) left),
    ("over", .binary .remainder (.identifier "value")
      (.index (.identifier "limits") (.literal (.integer 0)))),
    ("left", counters)]

def takenValue : Value :=
  .ofFields [("taken", .integer 2), ("over", .integer 1),
    ("left", .array [.ofFields [("id", .text "c1"), ("value", .integer 3)]])]

theorem evaluate_gives_no_double_taken :
    threeLeft.FloatFree ∧ taken.floatFree = true ∧ taken.divides = false ∧
      taken.evaluate threeLeft = .ok takenValue ∧ takenValue.floatFree = true ∧
      (Expr.binary .divide (.identifier "value") (.literal (.integer 2))).evaluate
        threeLeft = .ok (.float (Float.ofBits 0x4004000000000000)) := by
  have free : threeLeft.FloatFree := ⟨rfl, rfl, rfl, rfl, rfl, rfl⟩
  have evaluated : taken.evaluate threeLeft = .ok takenValue := rfl
  exact ⟨free, rfl, rfl, evaluated, evaluate_gives_no_double free rfl rfl evaluated, rfl⟩

end Expr

end BehaviorContract
