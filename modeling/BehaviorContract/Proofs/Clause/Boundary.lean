import BehaviorContract.Proofs.Clause.Truth

/-! The check of a clause against the evaluation of the clause. A check looks
into a chain of implications and into the comparison at its end, which the
evaluation does not; what it records follows from where the chain stops. -/

namespace BehaviorContract

theorem Evaluated.of_bind_eq_ok {α β : Type} {evaluated : Evaluated α}
    {next : α → Evaluated β} {result : β} (ends : evaluated >>= next = .ok result) :
    ∃ value, evaluated = .ok value ∧ next value = .ok result := by
  cases evaluated with
  | error error => cases ends
  | ok value => exact ⟨value, rfl, ends⟩

open Evaluated

namespace Expr

/-- The left sides of a chain of implications, from the outermost one on. -/
def antecedents : Expr → List Expr
  | .binary .implies left right => left :: right.antecedents
  | _ => []

def consequent : Expr → Expr
  | .binary .implies _ right => right.consequent
  | clause => clause

/-- Says that a left side of the chain has this truth, and that all left sides
before it are true. -/
def StopsWith (context : Context) (clause : Expr) (truth : Evaluated Bool) : Prop :=
  ∃ earlier antecedent later, clause.antecedents = earlier ++ antecedent :: later ∧
    (∀ other ∈ earlier, other.evaluateBool context = .ok true) ∧
      antecedent.evaluateBool context = truth

section Chain

variable (context : Context)

theorem examine_implies (left right : Expr) :
    (Expr.binary .implies left right).examine context =
      left.evaluateBool context >>= fun truth =>
        if truth then right.examine context else pure { passed := true } := by
  rw [examine]

theorem antecedents_cases (clause : Expr) :
    (∀ antecedent ∈ clause.antecedents, antecedent.evaluateBool context = .ok true) ∨
      ∃ truth, truth ≠ .ok true ∧ clause.StopsWith context truth := by
  induction clause using antecedents.induct with
  | case1 left right induction =>
      rw [antecedents]
      by_cases first : left.evaluateBool context = .ok true
      · rcases induction with allTrue | ⟨truth, notTrue, earlier, antecedent, later,
          split, before, stop⟩
        · exact .inl (List.forall_mem_cons.2 ⟨first, allTrue⟩)
        · refine .inr ⟨truth, notTrue, left :: earlier, antecedent, later, ?_, ?_, stop⟩
          · rw [antecedents, split, List.cons_append]
          · exact List.forall_mem_cons.2 ⟨first, before⟩
      · exact .inr ⟨_, first, [], left, right.antecedents,
          by rw [antecedents]; rfl, nofun, rfl⟩
  | case2 clause notImplies =>
      rw [antecedents]
      · exact .inl nofun
      · exact notImplies

theorem examine_of_antecedents {clause : Expr}
    (allTrue : ∀ antecedent ∈ clause.antecedents,
      antecedent.evaluateBool context = .ok true) :
    clause.examine context = clause.consequent.examine context := by
  induction clause using antecedents.induct with
  | case1 left right induction =>
      rw [antecedents, List.forall_mem_cons] at allTrue
      rw [examine_implies, allTrue.1, consequent, ← induction allTrue.2]
      rfl
  | case2 clause notImplies =>
      rw [consequent]
      exact notImplies

theorem examine_of_stopsWith {clause : Expr} {truth : Evaluated Bool}
    (stops : clause.StopsWith context truth) :
    ∃ rest : Expr, clause.examine context =
      truth >>= fun truth => if truth then rest.examine context
        else pure { passed := true } := by
  obtain ⟨earlier, antecedent, later, split, before, stop⟩ := stops
  induction earlier generalizing clause with
  | nil =>
      unfold antecedents at split
      split at split
      · cases split
        rw [examine_implies, stop]
        exact ⟨_, rfl⟩
      · cases split
  | cons left earlier induction =>
      unfold antecedents at split
      split at split
      · obtain ⟨rfl, rest⟩ := List.cons.inj split
        rw [List.forall_mem_cons] at before
        rw [examine_implies, before.1]
        exact induction rest before.2
      · cases split

theorem consequent_ne_implies (clause left right : Expr) :
    clause.consequent ≠ .binary .implies left right := by
  induction clause using consequent.induct with
  | case1 _ _ induction =>
      rw [consequent]
      exact induction
  | case2 clause notImplies =>
      rw [consequent]
      · exact notImplies left right
      · exact notImplies

theorem examine_comparison_eq_ok {op : BinaryOp} (comparison : op.isComparison = true)
    {left right : Expr} {finding : Finding}
    (found : (Expr.binary op left right).examine context = .ok finding) :
    ∃ expected actual, finding.expected = some expected ∧ finding.actual = some actual ∧
      right.evaluate context = .ok expected ∧ left.evaluate context = .ok actual ∧
      op.apply actual expected = .ok (.bool finding.passed) := by
  rw [examine_comparison context comparison] at found
  obtain ⟨actual, ofLeft, found⟩ := of_bind_eq_ok found
  obtain ⟨expected, ofRight, found⟩ := of_bind_eq_ok found
  obtain ⟨result, applied, found⟩ := of_bind_eq_ok found
  obtain ⟨holds, rfl⟩ := op.bool?_of_apply comparison applied
  cases found
  exact ⟨expected, actual, rfl, rfl, ofRight, ofLeft, applied⟩

theorem examine_other {clause : Expr}
    (notImplies : ∀ left right, clause ≠ .binary .implies left right)
    (notComparison : ∀ op left right,
      clause = .binary op left right → op.isComparison = false) :
    clause.examine context = clause.evaluate context >>= Finding.ofValue := by
  unfold examine
  split
  · exact absurd rfl (notImplies _ _)
  · rw [if_neg (by simp [notComparison _ _ _ rfl])]
  · rfl

theorem examine_other_eq_ok {clause : Expr}
    (notImplies : ∀ left right, clause ≠ .binary .implies left right)
    (notComparison : ∀ op left right,
      clause = .binary op left right → op.isComparison = false) {finding : Finding}
    (found : clause.examine context = .ok finding) :
    clause.evaluate context = .ok (.bool finding.passed) ∧
      finding.expected = some (.bool true) ∧
      finding.actual = some (.bool finding.passed) := by
  rw [examine_other context notImplies notComparison] at found
  obtain ⟨value, evaluated, found⟩ := of_bind_eq_ok found
  cases value with
  | bool truth =>
      cases found
      exact ⟨evaluated, rfl, rfl⟩
  | _ => cases found

theorem examine_consequent_eq_ok {clause : Expr} {finding : Finding}
    (found : clause.consequent.examine context = .ok finding) :
    finding.expected.isSome = true ∧ finding.actual.isSome = true := by
  by_cases comparison : ∃ op left right,
    clause.consequent = .binary op left right ∧ op.isComparison = true
  · obtain ⟨op, left, right, same, comparison⟩ := comparison
    rw [same] at found
    obtain ⟨expected, actual, ofExpected, ofActual, -⟩ :=
      examine_comparison_eq_ok context comparison found
    rw [ofExpected, ofActual]
    exact ⟨rfl, rfl⟩
  · have other : ∀ op left right,
      clause.consequent = .binary op left right → op.isComparison = false := by
      intro op left right same
      exact Bool.eq_false_iff.2 fun holds => comparison ⟨op, left, right, same, holds⟩
    obtain ⟨-, ofExpected, ofActual⟩ :=
      examine_other_eq_ok context clause.consequent_ne_implies other found
    rw [ofExpected, ofActual]
    exact ⟨rfl, rfl⟩

theorem examine_of_stopsWith_false {clause : Expr}
    (stops : clause.StopsWith context (.ok false)) :
    clause.examine context = .ok { passed := true } := by
  obtain ⟨rest, examined⟩ := examine_of_stopsWith context stops
  rw [examined]
  rfl

/-- An examination that ends has stopped at a false left side, or has come to
the end of the chain. -/
theorem examine_eq_ok_cases {clause : Expr} {finding : Finding}
    (found : clause.examine context = .ok finding) :
    clause.StopsWith context (.ok false) ∨
      clause.consequent.examine context = .ok finding := by
  rcases antecedents_cases context clause with allTrue | ⟨truth, notTrue, stops⟩
  · rw [examine_of_antecedents context allTrue] at found
    exact .inr found
  · obtain ⟨rest, examined⟩ := examine_of_stopsWith context stops
    cases truth with
    | error error =>
        rw [examined] at found
        cases found
    | ok truth =>
        cases truth with
        | false => exact .inl stops
        | true => exact absurd rfl notTrue

/-- The examination of a clause fails where its evaluation does. -/
theorem examine_eq_error_iff (clause : Expr) :
    (∃ error, clause.examine context = .error error) ↔
      ∃ error, clause.evaluateBool context = .error error := by
  have same := passed_examine context clause
  cases examined : clause.examine context with
  | error error =>
      cases evaluated : clause.evaluateBool context with
      | error other => exact ⟨fun _ => ⟨other, rfl⟩, fun _ => ⟨error, rfl⟩⟩
      | ok truth =>
          rw [examined, evaluated] at same
          cases same
  | ok finding =>
      cases evaluated : clause.evaluateBool context with
      | error error =>
          rw [examined, evaluated] at same
          cases same
      | ok truth => exact ⟨nofun, nofun⟩

end Chain

end Expr

namespace Check

/-- Says that the check records an error and no values. -/
def RecordsError (check : Check) : Prop :=
  check.passed = false ∧ check.error.isSome = true ∧ check.expected = none ∧
    check.actual = none

/-- Says that the check records two values and no error. -/
def RecordsValues (check : Check) : Prop :=
  check.error = none ∧ check.expected.isSome = true ∧ check.actual.isSome = true

/-- Says that the check has passed without anything to record. -/
def RecordsNothing (check : Check) : Prop :=
  check.passed = true ∧ check.error = none ∧ check.expected = none ∧ check.actual = none

/-- Says that the check of a clause tells what the evaluation of the clause and
of its parts gives. -/
structure AgreesWith (check : Check) (context : Context) (clause : Expr) : Prop where
  passed : check.passed = true ↔ clause.evaluateBool context = .ok true
  error : check.error.isSome = true ↔ ∃ error, clause.evaluateBool context = .error error
  shape : check.RecordsError ∨ check.RecordsValues ∨ check.RecordsNothing
  vacuous : check.RecordsNothing ↔ clause.StopsWith context (.ok false)
  comparison : ∀ expected actual op left right,
    check.expected = some expected → check.actual = some actual →
    clause.consequent = .binary op left right → op.isComparison = true →
      right.evaluate context = .ok expected ∧ left.evaluate context = .ok actual ∧
        op.apply actual expected = .ok (.bool check.passed)
  other : ∀ expected actual, check.expected = some expected → check.actual = some actual →
    (∀ op left right, clause.consequent = .binary op left right →
      op.isComparison = false) →
      expected = .bool true ∧ clause.consequent.evaluate context = .ok actual ∧
        actual = .bool check.passed

section OfClause

variable (kind : ClauseKind) (name : String) (context : Context) {clause : Expr}

theorem ofClause_of_ok {finding : Finding}
    (found : clause.examine context = .ok finding) :
    ofClause kind name context clause =
      { kind, name, expression := clause.print, passed := finding.passed,
        expected := finding.expected,
        actual := finding.actual } := by
  rw [ofClause, found]

theorem ofClause_of_error {error : EvalError}
    (failed : clause.examine context = .error error) :
    ofClause kind name context clause =
      { kind, name, expression := clause.print, passed := false,
        error := some error.message } := by
  rw [ofClause, failed]

theorem shape_ofClause :
    (ofClause kind name context clause).RecordsError ∨
      (ofClause kind name context clause).RecordsValues ∨
      (ofClause kind name context clause).RecordsNothing := by
  cases examined : clause.examine context with
  | error error =>
      rw [ofClause_of_error kind name context examined]
      exact .inl ⟨rfl, rfl, rfl, rfl⟩
  | ok finding =>
      rw [ofClause_of_ok kind name context examined]
      cases Expr.examine_eq_ok_cases context examined with
      | inl stops =>
          rw [Expr.examine_of_stopsWith_false context stops] at examined
          cases examined
          exact .inr (.inr ⟨rfl, rfl, rfl, rfl⟩)
      | inr ends => exact .inr (.inl ⟨rfl, Expr.examine_consequent_eq_ok context ends⟩)

theorem recordsNothing_ofClause_iff :
    (ofClause kind name context clause).RecordsNothing ↔
      clause.StopsWith context (.ok false) := by
  constructor
  · intro nothing
    cases examined : clause.examine context with
    | error error =>
        rw [ofClause_of_error kind name context examined] at nothing
        cases nothing.1
    | ok finding =>
        rw [ofClause_of_ok kind name context examined] at nothing
        obtain ⟨-, -, noExpected, -⟩ := nothing
        apply (Expr.examine_eq_ok_cases context examined).resolve_right
        intro ends
        have shown := (Expr.examine_consequent_eq_ok context ends).1
        rw [show finding.expected = none from noExpected] at shown
        cases shown
  · intro stops
    rw [ofClause_of_ok kind name context (Expr.examine_of_stopsWith_false context stops)]
    exact ⟨rfl, rfl, rfl, rfl⟩

theorem error_ofClause_iff :
    (ofClause kind name context clause).error.isSome = true ↔
      ∃ error, clause.examine context = .error error := by
  cases examined : clause.examine context with
  | error error => simp [ofClause_of_error kind name context examined]
  | ok finding => simp [ofClause_of_ok kind name context examined]

/-- A check that records values has got them from the end of the chain. -/
theorem consequent_of_ofClause {expected : Value}
    (shown : (ofClause kind name context clause).expected = some expected) :
    ∃ finding, clause.consequent.examine context = .ok finding ∧
      (ofClause kind name context clause).passed = finding.passed ∧
      (ofClause kind name context clause).expected = finding.expected ∧
      (ofClause kind name context clause).actual = finding.actual := by
  cases examined : clause.examine context with
  | error error =>
      rw [ofClause_of_error kind name context examined] at shown
      cases shown
  | ok finding =>
      rw [ofClause_of_ok kind name context examined] at shown ⊢
      refine ⟨finding, (Expr.examine_eq_ok_cases context examined).resolve_left ?_, rfl,
        rfl, rfl⟩
      intro stops
      rw [Expr.examine_of_stopsWith_false context stops] at examined
      cases examined
      cases shown

end OfClause

theorem ofClause_agreesWith_evaluation (kind : ClauseKind) (name : String)
    (context : Context) (clause : Expr) :
    (ofClause kind name context clause).AgreesWith context clause := by
  constructor
  case passed => exact passed_ofClause_iff kind name context clause
  case error => rw [error_ofClause_iff, Expr.examine_eq_error_iff]
  case shape => exact shape_ofClause kind name context
  case vacuous => exact recordsNothing_ofClause_iff kind name context
  case comparison =>
    intro expected actual op left right ofExpected ofActual same comparison
    obtain ⟨finding, found, passed, sameExpected, sameActual⟩ :=
      consequent_of_ofClause kind name context ofExpected
    rw [same] at found
    obtain ⟨right, left, isRight, isLeft, values⟩ :=
      Expr.examine_comparison_eq_ok context comparison found
    rw [sameExpected, isRight] at ofExpected
    rw [sameActual, isLeft] at ofActual
    cases ofExpected
    cases ofActual
    rw [passed]
    exact values
  case other =>
    intro expected actual ofExpected ofActual other
    obtain ⟨finding, found, passed, sameExpected, sameActual⟩ :=
      consequent_of_ofClause kind name context ofExpected
    obtain ⟨evaluated, isTrue, isTruth⟩ :=
      Expr.examine_other_eq_ok context clause.consequent_ne_implies other found
    rw [sameExpected, isTrue] at ofExpected
    rw [sameActual, isTruth] at ofActual
    cases ofExpected
    cases ofActual
    rw [passed]
    exact ⟨rfl, evaluated, rfl⟩

end Check

end BehaviorContract
