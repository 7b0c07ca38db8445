import BehaviorContract.Eval.Evaluate

/-! What an expression can see of the live instances. Only questions about
entities look at them, and `old` turns these questions to the instances before
the execution: an expression that asks nothing outside of `old` has the same
value, or the same error, whatever the live instances are. -/

namespace BehaviorContract

namespace Context

@[simp] theorem resolve?_instances (context : Context) (instances : Instances)
    (name : String) :
    ({ context with instances } : Context).resolve? name = context.resolve? name := rfl

@[simp] theorem declares_instances (context : Context) (instances : Instances)
    (entity : String) :
    ({ context with instances } : Context).declares entity = context.declares entity :=
      rfl

end Context

theorem Query.mem_of_ofName? {name : String} {query : Query}
    (named : ofName? name = some query) :
    name ∈ ["exists", "lookup", "count", "all"] := by
  have same : query.name = name := by simpa using List.find?_some named
  rw [← same]
  cases query <;> decide

namespace Expr

mutual

/-- Says that a question about an entity stands in the expression outside of
every `old`. -/
def queriesLive : Expr → Bool
  | .literal _ => false
  | .identifier _ => false
  | .member target _ => target.queriesLive
  | .index target position => target.queriesLive || position.queriesLive
  | .unary _ operand => operand.queriesLive
  | .binary _ left right => left.queriesLive || right.queriesLive
  | .call (.member (.identifier _) property) arguments =>
      decide (property ∈ ["exists", "lookup", "count", "all"]) || anyQueriesLive arguments
  | .call (.identifier "old") [_] => false
  | .call callee arguments => callee.queriesLive || anyQueriesLive arguments
  | .old _ => false
  | .list elements => anyQueriesLive elements
  | .object fields => anyFieldQueriesLive fields

def anyQueriesLive : List Expr → Bool
  | [] => false
  | element :: rest => element.queriesLive || anyQueriesLive rest

def anyFieldQueriesLive : List (String × Expr) → Bool
  | [] => false
  | (_, expression) :: rest => expression.queriesLive || anyFieldQueriesLive rest

end

theorem queriesLive_call {callee : Expr} {arguments : List Expr}
    (notMethod : ∀ name property, callee ≠ .member (.identifier name) property)
    (notOld : callee ≠ .identifier "old") :
    (Expr.call callee arguments).queriesLive =
      (callee.queriesLive || anyQueriesLive arguments) := by
  rw [queriesLive]
  · exact notMethod
  · intro expression same
    exact absurd same notOld

def IgnoresInstances (context : Context) (expression : Expr) : Prop :=
  ∀ instances,
    expression.evaluate { context with instances } = expression.evaluate context

def FieldsIgnoreInstances (context : Context) (fields : List (String × Expr)) : Prop :=
  ∀ instances,
    evaluateFields { context with instances } fields = evaluateFields context fields

def ListIgnoresInstances (context : Context) (elements : List Expr) : Prop :=
  ∀ instances,
    evaluateList { context with instances } elements = evaluateList context elements

theorem queriesLive_of_query {name property : String} {arguments : List Expr}
    {query : Query} (named : Query.ofName? property = some query) :
    (Expr.call (.member (.identifier name) property) arguments).queriesLive = true := by
  simp [queriesLive, Query.mem_of_ofName? named]

theorem ignoresInstances_binary {context : Context} {left right : Expr} (op : BinaryOp)
    (ofLeft : left.queriesLive = false → left.IgnoresInstances context)
    (ofRight : right.queriesLive = false → right.IgnoresInstances context)
    (sheltered : (Expr.binary op left right).queriesLive = false) :
    (Expr.binary op left right).IgnoresInstances context := by
  intro instances
  rw [queriesLive, Bool.or_eq_false_iff] at sheltered
  have sameLeft := ofLeft sheltered.1 instances
  have sameRight := ofRight sheltered.2 instances
  cases op
  all_goals simp only [evaluate, sameLeft, sameRight]

-- The induction follows the evaluation. Below `old` nothing is assumed of the
-- expression, for it is evaluated among the instances before the execution in
-- either case.
theorem ignoresInstances_of_not_queriesLive (context : Context) (expression : Expr) :
    expression.queriesLive = false → expression.IgnoresInstances context := by
  refine (evaluate.mutual_induct
    (fun context expression =>
      expression.queriesLive = false → expression.IgnoresInstances context)
    (fun context fields => anyFieldQueriesLive fields = false →
      FieldsIgnoreInstances context fields)
    (fun context elements => anyQueriesLive elements = false →
      ListIgnoresInstances context elements)
    ?literal ?identifier ?member ?index ?unary ?and ?or ?implies ?strict
    ?bound ?answered ?undeclared ?noQuery ?unbound ?method
    ?oldCall ?oldCallMissing ?oldArity ?now ?nowArity ?builtin ?unknown ?callee
    ?old ?oldMissing ?list ?object ?nil ?cons ?nilField ?consField).1 context expression
  case literal =>
    intro context value sheltered instances
    rw [evaluate, evaluate]
  case identifier =>
    intro context name sheltered instances
    rw [evaluate, evaluate]
    rfl
  case member =>
    intro context target property ofTarget sheltered instances
    rw [queriesLive] at sheltered
    rw [evaluate, evaluate, ofTarget sheltered instances]
  case index =>
    intro context target position ofTarget ofPosition sheltered instances
    rw [queriesLive, Bool.or_eq_false_iff] at sheltered
    rw [evaluate, evaluate, ofTarget sheltered.1 instances,
      ofPosition sheltered.2 instances]
  case unary =>
    intro context op operand ofOperand sheltered instances
    rw [queriesLive] at sheltered
    rw [evaluate, evaluate, ofOperand sheltered instances]
  case and | or | implies =>
    intro context left right ofLeft ofRight
    exact ignoresInstances_binary _ ofLeft ofRight
  case strict =>
    intro context op left right _ _ _ ofLeft ofRight
    exact ignoresInstances_binary op ofLeft ofRight
  case bound =>
    intro context name property arguments target resolved ofArguments sheltered instances
    rw [queriesLive, Bool.or_eq_false_iff] at sheltered
    simp only [evaluate, Context.resolve?_instances, resolved,
      ofArguments sheltered.2 instances]
  case answered =>
    intro context name property arguments unresolved query named declared
      ofArguments sheltered
    cases sheltered.symm.trans (queriesLive_of_query named)
  case undeclared =>
    intro context name property arguments unresolved query named undeclared sheltered
    cases sheltered.symm.trans (queriesLive_of_query named)
  case noQuery =>
    intro context name property arguments unresolved unnamed declared sheltered instances
    simp only [evaluate, Context.resolve?_instances, unresolved, unnamed,
      Context.declares_instances, declared, if_true]
  case unbound =>
    intro context name property arguments unresolved unnamed undeclared
      sheltered instances
    simp only [evaluate, Context.resolve?_instances, unresolved, unnamed,
      Context.declares_instances, undeclared]
  case method =>
    intro context target property arguments notName ofTarget ofArguments
      sheltered instances
    rw [queriesLive_call (fun name _ same => notName name (member.inj same).1) nofun,
      Bool.or_eq_false_iff, queriesLive] at sheltered
    simp only [evaluate, ofTarget sheltered.1 instances,
      ofArguments sheltered.2 instances]
  case oldCall =>
    intro context expression before kept ofExpression sheltered instances
    rw [evaluate, evaluate]
  case oldCallMissing =>
    intro context expression missing sheltered instances
    rw [evaluate, evaluate]
  case oldArity =>
    intro context arguments notSingle sheltered instances
    rw [evaluate, evaluate]
    all_goals exact notSingle
  case now =>
    intro context arguments none sheltered instances
    rw [evaluate, evaluate]
  case nowArity =>
    intro context arguments some sheltered instances
    rw [evaluate, evaluate]
  case builtin =>
    intro context name arguments _ notOld notNow builtin named ofArguments
      sheltered instances
    rw [queriesLive_call (by simp) fun same => notOld (identifier.inj same),
      Bool.or_eq_false_iff] at sheltered
    simp only [evaluate, ofArguments sheltered.2 instances]
  case unknown =>
    intro context name arguments _ notOld notNow unnamed sheltered instances
    simp only [evaluate, unnamed]
  case callee =>
    intro context callee arguments _ notMember _ notOld notNow notName sheltered instances
    rw [evaluate, evaluate]
    all_goals assumption
  case old =>
    intro context expression before kept ofExpression sheltered instances
    rw [evaluate, evaluate]
  case oldMissing =>
    intro context expression missing sheltered instances
    rw [evaluate, evaluate]
  case list =>
    intro context elements ofElements sheltered instances
    rw [queriesLive] at sheltered
    rw [evaluate, evaluate, ofElements sheltered instances]
  case object =>
    intro context fields ofFields sheltered instances
    rw [queriesLive] at sheltered
    rw [evaluate, evaluate, ofFields sheltered instances]
  case nil =>
    intro context sheltered instances
    rw [evaluateList, evaluateList]
  case cons =>
    intro context element rest ofElement ofRest sheltered instances
    rw [anyQueriesLive, Bool.or_eq_false_iff] at sheltered
    rw [evaluateList, evaluateList, ofElement sheltered.1 instances,
      ofRest sheltered.2 instances]
  case nilField =>
    intro context sheltered instances
    rw [evaluateFields, evaluateFields]
  case consField =>
    intro context key expression rest ofExpression ofRest sheltered instances
    rw [anyFieldQueriesLive, Bool.or_eq_false_iff] at sheltered
    rw [evaluateFields, evaluateFields, ofExpression sheltered.1 instances,
      ofRest sheltered.2 instances]

def oldForms (expression : Expr) : List Expr :=
  [.old expression, .call (.identifier "old") [expression]]

theorem evaluate_of_mem_oldForms {context : Context} {before : Instances}
    (kept : context.before = some before) {expression form : Expr}
    (isOld : form ∈ expression.oldForms) :
    form.evaluate context = expression.evaluate { context with instances := before } := by
  simp only [oldForms, List.mem_cons, List.not_mem_nil, or_false] at isOld
  rcases isOld with rfl | rfl
  · rw [evaluate, kept]
  · rw [evaluate, kept]

/-- Around an expression that asks nothing about entities `old` does nothing. -/
theorem evaluate_oldForm_of_not_queriesLive {context : Context} {before : Instances}
    (kept : context.before = some before) {expression form : Expr}
    (isOld : form ∈ expression.oldForms) (sheltered : expression.queriesLive = false) :
    form.evaluate context = expression.evaluate context :=
  (evaluate_of_mem_oldForms kept isOld).trans
    (ignoresInstances_of_not_queriesLive context expression sheltered before)

/-- An expression that asks about entities in `old` only, in whichever of its
two forms, has one value or one error among all live instances, whether or not
the instances before the execution were kept. -/
theorem evaluate_eq_of_not_queriesLive (context : Context) (first second : Instances)
    {expression : Expr} (sheltered : expression.queriesLive = false) :
    expression.evaluate { context with instances := first } =
      expression.evaluate { context with instances := second } := by
  have ignores := ignoresInstances_of_not_queriesLive context expression sheltered
  exact (ignores first).trans (ignores second).symm

def counterCount : Expr :=
  .call (.member (.identifier "Counter") "count") []

def countedBefore : Expr :=
  let found : Expr :=
    .call (.member (.identifier "Counter") "lookup") [.literal (.text "c1")]
  .binary .and (.equals (.identifier "value") (.old (.member found "value")))
    (.equals (.call (.identifier "old") [counterCount]) (.literal (.integer 1)))

def fiveBefore : Context where
  domain := { name := "Counters", entities := [{ name := "Counter" }] }
  instances := Store.empty.instances
  before := some (Store.empty.create "Counter"
    (Table.ofList [("id", .text "c1"), ("value", .integer 5)])).2.instances
  input := .ofFields [("value", .integer 5)]
  now := ⟨0, 0⟩

/-- The counter is found where it was, among no live instances and among another
one; the live count differs. -/
theorem evaluate_eq_of_not_queriesLive_countedBefore :
    let other := (Store.empty.create "Counter" ∅).2.instances
    countedBefore.queriesLive = false ∧
      countedBefore.evaluate fiveBefore = .ok (.bool true) ∧
      countedBefore.evaluate { fiveBefore with instances := other } =
        countedBefore.evaluate fiveBefore ∧
      counterCount.queriesLive = true ∧
      counterCount.evaluate { fiveBefore with instances := other } ≠
        counterCount.evaluate fiveBefore := by
  refine ⟨rfl, rfl, evaluate_eq_of_not_queriesLive fiveBefore _ fiveBefore.instances rfl,
    rfl, ?_⟩
  intro same
  have counts : (.ok (.integer 1) : Evaluated Value) = .ok (.integer 0) := same
  exact absurd (Value.integer.inj (Except.ok.inj counts)) (by decide)

end Expr

end BehaviorContract
