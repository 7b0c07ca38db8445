import BehaviorContract.Proofs.Eval.Arithmetic
import BehaviorContract.Proofs.Eval.FloatFree

/-! The questions about an entity against each other. Whether there is an
instance, how many there are and which comes first is all read off one list, the
instances that the argument asks for, and so the three answers agree: among the
live instances, and inside `old` among those before the execution. -/

namespace BehaviorContract

open Evaluated

namespace Instance

/-- Says that an argument asks for this instance: an object field by field, and
any other value as an id. -/
def IsAskedFor (self : Instance) : Value → Prop
  | .object fields =>
      ∀ key expected, fields.get? key = some expected → self.meets key expected = true
  | other => self.meets "id" other = true

theorem satisfies_criteria_iff (self : Instance) (argument : Value) :
    self.satisfies (Query.criteria argument) = true ↔ self.IsAskedFor argument := by
  cases argument with
  | object fields =>
      rw [Query.criteria, satisfies, List.all_eq_true, IsAskedFor]
      constructor
      · intro allMet key expected found
        exact allMet (key, expected) (fields.get?_eq_some_iff.1 found)
      · intro allMet entry member
        exact allMet entry.1 entry.2 (fields.get?_eq_some_iff.2 member)
  | _ => exact iff_of_eq (congrArg (· = true) (Bool.and_true _))

instance (self : Instance) (argument : Value) : Decidable (self.IsAskedFor argument) :=
  decidable_of_iff (self.satisfies (Query.criteria argument) = true)
    (self.satisfies_criteria_iff argument)

end Instance

namespace Instances

/-- The instances of an entity that all arguments ask for, in their order. -/
def matching (instances : Instances) (entity : String)
    (arguments : List Value) : List Instance :=
  (instances.all entity).filter fun self =>
    decide (∀ argument ∈ arguments, self.IsAskedFor argument)

theorem matching_nil (instances : Instances) (entity : String) :
    instances.matching entity [] = instances.all entity := by
  simp [matching]

theorem hasAny_eq (instances : Instances) (entity : String) (criteria : Table Value) :
    instances.hasAny entity criteria =
      !((instances.all entity).filter (·.satisfies criteria)).isEmpty := by
  rw [hasAny, lookup?, ← List.head?_filter]
  cases List.filter (·.satisfies criteria) (instances.all entity) <;> rfl

end Instances

namespace Query

theorem ofName?_name (query : Query) : ofName? query.name = some query := by
  cases query <;> rfl

section Answer

variable {arguments : List Value} (atMostOne : arguments.length ≤ 1)
  (instances : Instances) (entity : String)

include atMostOne

theorem satisfies_wanted_iff (self : Instance) :
    self.satisfies ((arguments.head?.map criteria).getD ∅) = true ↔
      ∀ argument ∈ arguments, self.IsAskedFor argument := by
  match arguments with
  | [] => exact iff_of_true rfl (by simp)
  | [argument] =>
      rw [List.forall_mem_singleton]
      exact self.satisfies_criteria_iff argument

theorem matching_eq_filter :
    instances.matching entity arguments =
      (instances.all entity).filter
        (·.satisfies ((arguments.head?.map criteria).getD ∅)) := by
  unfold Instances.matching
  congr 1
  funext self
  rw [Bool.eq_iff_iff, decide_eq_true_eq, satisfies_wanted_iff atMostOne]

theorem answer_exist :
    exist.answer instances entity arguments =
      .ok (.bool !(instances.matching entity arguments).isEmpty) := by
  rw [answer, if_neg (Nat.not_lt.2 atMostOne), matching_eq_filter atMostOne,
    ← Instances.hasAny_eq]

theorem answer_count :
    count.answer instances entity arguments =
      .ok (.integer (Int64.ofNat (instances.matching entity arguments).length)) := by
  rw [answer, if_neg (Nat.not_lt.2 atMostOne), matching_eq_filter atMostOne,
    ← List.countP_eq_length_filter]
  rfl

theorem answer_lookup :
    lookup.answer instances entity arguments =
      .ok (((instances.matching entity arguments).head?.map Instance.toValue).getD
        .null) := by
  rw [answer, if_neg (Nat.not_lt.2 atMostOne), matching_eq_filter atMostOne,
    List.head?_filter]
  rfl

end Answer

theorem answer_all (instances : Instances) (entity : String) :
    all.answer instances entity [] =
      .ok (.array ((instances.all entity).map Instance.toValue)) := rfl

end Query

def Expr.ask (entity : String) (query : Query) (arguments : List Expr) : Expr :=
  .call (.member (.identifier entity) query.name) arguments

theorem Expr.evaluate_ask (context : Context) {entity : String}
    (declared : context.declares entity = true) (unbound : context.isBound entity = false)
    (query : Query) (arguments : List Expr) :
    (Expr.ask entity query arguments).evaluate context =
      evaluateList context arguments >>= query.answer context.instances entity := by
  have unresolved : context.resolve? entity = none :=
    Option.isNone_iff_eq_none.1 (Option.isSome_eq_false_iff.1 unbound)
  simp only [ask, evaluate, unresolved, query.ofName?_name, declared, if_true]

theorem Expr.yields_length (context : Context) (expressions : List Expr) :
    Yields (fun values => values.length = expressions.length)
      (evaluateList context expressions) := by
  induction expressions with
  | nil => exact yields_ok rfl
  | cons first rest induction =>
      rw [evaluateList]
      refine yields_bind fun value => induction.bind fun values same => yields_ok ?_
      rw [List.length_cons, List.length_cons, same]

/-- Which instances a question is about: the live ones, or with either form of
`old` the earlier ones. -/
inductive Tense where
  | live
  | old
  | oldCall

namespace Tense

def apply : Tense → Expr → Expr
  | .live, expression => expression
  | .old, expression => .old expression
  | .oldCall, expression => .call (.identifier "old") [expression]

def instances? (context : Context) : Tense → Option Instances
  | .live => some context.instances
  | .old => context.before
  | .oldCall => context.before

def prepare (tense : Tense) (context : Context) (arguments : List Expr) :
    Evaluated (Instances × List Value) :=
  match tense.instances? context with
  | some instances =>
      do return (instances, ← Expr.evaluateList { context with instances } arguments)
  | none => .error .missingSnapshot

def answer (tense : Tense) (context : Context) (entity : String) (query : Query)
    (arguments : List Expr) : Evaluated Value :=
  (tense.apply (.ask entity query arguments)).evaluate context

theorem evaluate_apply (tense : Tense) (context : Context) (expression : Expr) :
    (tense.apply expression).evaluate context =
      (tense.instances? context).elim (.error .missingSnapshot)
        fun instances => expression.evaluate { context with instances } := by
  cases tense with
  | live => rfl
  | old =>
      simp only [apply, instances?, Expr.evaluate]
      cases context.before <;> rfl
  | oldCall =>
      simp only [apply, instances?, Expr.evaluate]
      cases context.before <;> rfl

theorem answer_eq (tense : Tense) {context : Context} {entity : String}
    (declared : context.declares entity = true) (unbound : context.isBound entity = false)
    (query : Query) (arguments : List Expr) :
    tense.answer context entity query arguments =
      tense.prepare context arguments >>= fun asked =>
        query.answer asked.1 entity asked.2 := by
  rw [answer, evaluate_apply, prepare]
  cases tense.instances? context with
  | none => rfl
  | some instances =>
      have evaluated :=
        Expr.evaluate_ask { context with instances } declared unbound query arguments
      simp only [Option.elim_some, evaluated, bind_assoc, pure_bind]

theorem length_of_prepare {tense : Tense} {context : Context} {arguments : List Expr}
    {instances : Instances} {values : List Value}
    (prepared : tense.prepare context arguments = .ok (instances, values)) :
    values.length = arguments.length := by
  have yields : Yields (fun asked => asked.2.length = arguments.length)
      (tense.prepare context arguments) := by
    unfold prepare
    split
    · exact (Expr.yields_length _ arguments).bind fun _ same => yields_ok same
    · exact yields_error _
  exact yields _ prepared

theorem prepare_nil {tense : Tense} {context : Context} {arguments : List Expr}
    {instances : Instances} {values : List Value}
    (prepared : tense.prepare context arguments = .ok (instances, values)) :
    tense.prepare context [] = .ok (instances, []) := by
  have yields : Yields (fun asked => tense.prepare context [] = .ok (asked.1, []))
      (tense.prepare context arguments) := by
    unfold prepare
    split
    · exact yields_bind fun _ => yields_ok rfl
    · exact yields_error _
  exact yields _ prepared

end Tense

/-- Says that the answers about an entity agree, when all its instances and
those that the arguments ask for are given. A whole number tells how many there
are as long as their number fits, and no memory holds more. -/
structure AnswersAgree (everything matching : List Instance) (arguments : List Expr)
    (answer : Query → List Expr → Evaluated Value) : Prop where
  all : answer .all [] = .ok (.array (everything.map Instance.toValue))
  exist : answer .exist arguments = .ok (.bool !matching.isEmpty)
  count : answer .count arguments = .ok (.integer (Int64.ofNat matching.length))
  lookup : answer .lookup arguments =
    .ok ((matching.head?.map Instance.toValue).getD .null)
  count_nil : answer .count [] =
    .ok (.integer (Int64.ofNat (everything.map Instance.toValue).length))
  count_exact : Fits matching.length →
    ∃ number, answer .count arguments = .ok (.integer number) ∧
      number.toInt = matching.length
  exist_iff_count : Fits matching.length →
    (answer .exist arguments = .ok (.bool true) ↔
      ∃ number, answer .count arguments = .ok (.integer number) ∧ 1 ≤ number)
  exist_iff_lookup : answer .exist arguments = .ok (.bool true) ↔
    answer .lookup arguments ≠ .ok .null

theorem toInt_ofNat_of_fits {number : Nat} (fits : Fits number) :
    (Int64.ofNat number).toInt = number := by
  unfold Fits at fits
  exact Int64.toInt_ofNat_of_lt (by omega)

theorem one_le_ofNat_iff {number : Nat} (fits : Fits number) :
    1 ≤ Int64.ofNat number ↔ number ≠ 0 := by
  rw [Int64.le_iff_toInt_le, toInt_ofNat_of_fits fits,
    show (1 : Int64).toInt = 1 from rfl]
  omega

theorem answersAgree_of_prepare {context : Context} {entity : String}
    (declared : context.declares entity = true) (unbound : context.isBound entity = false)
    {arguments : List Expr} (atMostOne : arguments.length ≤ 1) {tense : Tense}
    {instances : Instances} {values : List Value}
    (prepared : tense.prepare context arguments = .ok (instances, values)) :
    AnswersAgree (instances.all entity) (instances.matching entity values) arguments
      (tense.answer context entity) := by
  have one : values.length ≤ 1 :=
    Nat.le_trans (Nat.le_of_eq (Tense.length_of_prepare prepared)) atMostOne
  have asked (query : Query) :
      tense.answer context entity query arguments =
        query.answer instances entity values := by
    rw [tense.answer_eq declared unbound, prepared]
    rfl
  have askedNothing (query : Query) :
      tense.answer context entity query [] = query.answer instances entity [] := by
    rw [tense.answer_eq declared unbound, Tense.prepare_nil prepared]
    rfl
  have all := (askedNothing .all).trans (Query.answer_all instances entity)
  have exist := (asked .exist).trans (Query.answer_exist one instances entity)
  have count := (asked .count).trans (Query.answer_count one instances entity)
  have lookup := (asked .lookup).trans (Query.answer_lookup one instances entity)
  refine ⟨all, exist, count, lookup, ?_, ?_, ?_, ?_⟩
  · have nothing : ([] : List Value).length ≤ 1 := Nat.zero_le 1
    rw [askedNothing, Query.answer_count nothing, Instances.matching_nil, List.length_map]
  · intro fits
    exact ⟨_, count, toInt_ofNat_of_fits fits⟩
  · intro fits
    rw [exist, count]
    have positive := one_le_ofNat_iff fits
    simp [positive]
  · rw [exist, lookup]
    cases instances.matching entity values with
    | nil => simp
    | cons self rest => simp [Instance.toValue]

/-- For an entity that is declared and no bound name, the questions with at most
one argument all fail for one reason, or their answers agree. Among the
instances before the execution it is the same. -/
theorem queries_agree {context : Context} {entity : String}
    (declared : context.declares entity = true) (unbound : context.isBound entity = false)
    {arguments : List Expr} (atMostOne : arguments.length ≤ 1) (tense : Tense) :
    (∃ error, tense.prepare context arguments = .error error ∧
      ∀ query ∈ [Query.exist, .count, .lookup],
        tense.answer context entity query arguments = .error error) ∨
    ∃ instances values, tense.prepare context arguments = .ok (instances, values) ∧
      AnswersAgree (instances.all entity) (instances.matching entity values) arguments
        (tense.answer context entity) := by
  cases prepared : tense.prepare context arguments with
  | error error =>
      refine .inl ⟨error, rfl, ?_⟩
      intro query _
      rw [tense.answer_eq declared unbound, prepared]
      rfl
  | ok asked =>
      obtain ⟨instances, values⟩ := asked
      exact .inr ⟨instances, values, rfl,
        answersAgree_of_prepare declared unbound atMostOne prepared⟩

def counter (id : Value) (value : Int64) : Table Value :=
  Table.ofList [("id", id), ("value", .integer value)]

def threeCounters : Context where
  domain := { name := "Counters", entities := [{ name := "Counter" }] }
  instances :=
    let first := (Store.empty.create "Counter" (counter (.text "c1") 4)).2
    let second := (first.create "Counter" (counter (.integer 5) 3)).2
    (second.create "Counter" (counter (.text "c7") 3)).2.instances
  before := some (Store.empty.create "Counter" (counter (.text "c1") 4)).2.instances
  input := .ofFields [("wanted", .integer 3)]
  now := ⟨0, 0⟩

def wantedCounters : List Expr :=
  [.object [("value", .identifier "wanted")]]

theorem queries_agree_threeCounters :
    threeCounters.declares "Counter" = true ∧ threeCounters.isBound "Counter" = false ∧
      wantedCounters.length ≤ 1 ∧
      Tense.live.answer threeCounters "Counter" .exist wantedCounters = .ok (.bool true) ∧
      Tense.live.answer threeCounters "Counter" .count wantedCounters = .ok (.integer 2) ∧
      Tense.live.answer threeCounters "Counter" .lookup wantedCounters =
        .ok (.object (counter (.integer 5) 3)) ∧
      Tense.old.answer threeCounters "Counter" .count wantedCounters = .ok (.integer 0) ∧
      Tense.old.answer threeCounters "Counter" .lookup wantedCounters = .ok .null := by
  have declared : threeCounters.declares "Counter" = true := rfl
  have unbound : threeCounters.isBound "Counter" = false := rfl
  have atMostOne : wantedCounters.length ≤ 1 := Nat.le_refl 1
  have agree (tense : Tense) (instances : Instances) (values : List Value)
      (prepared : tense.prepare threeCounters wantedCounters = .ok (instances, values)) :
      AnswersAgree (instances.all "Counter")
        (instances.matching "Counter" values) wantedCounters
        (tense.answer threeCounters "Counter") := by
    rcases queries_agree declared unbound atMostOne tense with
      ⟨error, failed, -⟩ | ⟨_, _, same, agree⟩
    · cases prepared.symm.trans failed
    · cases prepared.symm.trans same
      exact agree
  have live := agree .live _ _ rfl
  have old := agree .old _ _ rfl
  exact ⟨declared, unbound, atMostOne, live.exist, live.count, live.lookup,
    old.count, old.lookup⟩

end BehaviorContract
