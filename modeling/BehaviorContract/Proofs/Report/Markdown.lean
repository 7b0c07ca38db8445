import BehaviorContract.Proofs.Clause.Contract
import BehaviorContract.Proofs.Clause.Labels
import BehaviorContract.Proofs.Report.Cells
import BehaviorContract.Proofs.Trial.Verdict

/-! The table of checks in a Markdown report. Expressions and details are
escaped, but names of checks are not, and neither are the names above the table.
A report has one row of four cells for each check exactly when these names do no
harm. In a trial that can be told from the names of conditions, blocks, entities
and instances. -/

namespace BehaviorContract

open Text

def delimiterRow : String :=
  "|---|---|---|---|"

/-- What follows the first line of a text that reads as the delimiter row. -/
def linesAfterDelimiter (text : String) : List String :=
  ((lines text).dropWhile (· ≠ delimiterRow)).drop 1

/-- Says that after its first delimiter row a text has just one ended line for
each check, in order, with four cells. -/
structure HasTable (text : String) (checks : List Check) : Prop where
  rows : linesAfterDelimiter text = checks.map Check.row ++ [""]
  bars : ∀ check ∈ checks, bareBars check.row = 5

/-- Says that a text has the delimiter row on a line between two line ends. -/
def HoldsDelimiter (text : String) : Prop :=
  ended delimiterRow <:+: text.toList

theorem lines_table (head : List String) (checks : List Check) :
    lines (unlines (head ++ delimiterRow :: checks.map Check.row)) =
      head.flatMap lines ++ delimiterRow ::
        ((checks.map Check.row).flatMap lines ++ [""]) := by
  have oneLine : lines delimiterRow = [delimiterRow] := lines_of_not_mem (by decide)
  rw [lines_unlines, List.flatMap_append, List.flatMap_cons, oneLine, List.append_assoc,
    List.singleton_append, List.cons_append]

theorem drop_dropWhile_delimiter {head : List String} (absent : delimiterRow ∉ head)
    (rest : List String) :
    ((head ++ delimiterRow :: rest).dropWhile (· ≠ delimiterRow)).drop 1 = rest := by
  have before : ∀ line ∈ head, decide (line ≠ delimiterRow) = true := by
    intro line member
    exact decide_eq_true fun same => absent (same ▸ member)
  rw [List.dropWhile_append_of_pos before, List.dropWhile_cons_of_neg (by simp),
    List.drop_one, List.tail_cons]

theorem flatMap_lines_of_not_mem {texts : List String}
    (oneLine : ∀ text ∈ texts, '\n' ∉ text.toList) :
    texts.flatMap lines = texts := by
  induction texts with
  | nil => rfl
  | cons text rest induction =>
      rw [List.flatMap_cons, lines_of_not_mem (oneLine text List.mem_cons_self),
        List.singleton_append, induction fun other member =>
        oneLine other (List.mem_cons_of_mem _ member)]

theorem HasTable.not_mem_row {text : String} {checks : List Check}
    (table : HasTable text checks) {check : Check} (member : check ∈ checks) :
    '\n' ∉ check.row.toList := by
  have line : check.row ∈ linesAfterDelimiter text := by
    rw [table.rows]
    exact List.mem_append_left _ (List.mem_map_of_mem member)
  have ofText : check.row ∈ lines text :=
    (List.dropWhile_sublist _).subset (List.mem_of_mem_drop line)
  exact (infix_of_mem_lines ofText).1

theorem hasTable_unlines_iff (head : List String) (checks : List Check) :
    HasTable (unlines (head ++ delimiterRow :: checks.map Check.row)) checks ↔
      delimiterRow ∉ head.flatMap lines ∧ ∀ check ∈ checks, FitsCell check.name := by
  constructor
  · intro table
    have fits : ∀ check ∈ checks, FitsCell check.name := by
      intro check member
      exact check.row_whole_iff.1 ⟨table.not_mem_row member, table.bars check member⟩
    refine ⟨?_, fits⟩
    intro above
    obtain ⟨before, between, split, first⟩ := List.eq_append_cons_of_mem above
    have rows := table.rows
    have whole : (checks.map Check.row).flatMap lines = checks.map Check.row := by
      refine flatMap_lines_of_not_mem (List.forall_mem_map.2 ?_)
      intro check member
      exact table.not_mem_row member
    rw [linesAfterDelimiter, lines_table, split, whole, List.append_assoc,
      List.cons_append, drop_dropWhile_delimiter first] at rows
    have lengths := congrArg List.length rows
    rw [List.length_append, List.length_cons] at lengths
    omega
  · rintro ⟨absent, fits⟩
    have whole : ∀ check ∈ checks, '\n' ∉ check.row.toList ∧ bareBars check.row = 5 := by
      intro check member
      exact check.row_whole_iff.2 (fits check member)
    refine ⟨?_, fun check member => (whole check member).2⟩
    rw [linesAfterDelimiter, lines_table, drop_dropWhile_delimiter absent,
      flatMap_lines_of_not_mem (List.forall_mem_map.2 fun check member =>
      (whole check member).1)]

theorem delimiter_infix_cases {first rest : List Char} {c : Char}
    (absent : c ∉ ended delimiterRow)
    (held : ended delimiterRow <:+: first ++ c :: rest) :
    ended delimiterRow <:+: first ∨ ended delimiterRow <:+: rest := by
  rcases List.infix_append_iff.1 held with
    inFirst | inRest | ⟨left, right, split, ofFirst, ofRest⟩
  · exact .inl inFirst
  · rcases List.infix_cons_iff.1 inRest with starts | inRest
    · rcases List.prefix_cons_iff.1 starts with nothing | ⟨tail, split, -⟩
      · cases nothing
      · exact absurd (by rw [split]; exact List.mem_cons_self) absent
    · exact .inr inRest
  · rcases List.prefix_cons_iff.1 ofRest with rfl | ⟨tail, rfl, -⟩
    · rw [List.append_nil] at split
      rw [split]
      exact .inl ofFirst.isInfix
    · exact absurd (by rw [split]; simp) absent

theorem not_infix_of_short {chars : List Char} (short : chars.length < 19) :
    ¬ ended delimiterRow <:+: chars := by
  intro held
  have fits := held.length_le
  have length : (ended delimiterRow).length = 19 := by decide
  omega

/-- Where a name stands between short texts, the delimiter row is held by the
name or by what follows. -/
theorem delimiter_infix_framed {front rest : List Char} {name : String} {c d : Char}
    (held : ended delimiterRow <:+: front ++ c :: (name.toList ++ d :: rest))
    (short : front.length < 19) (notLeft : c ∉ ended delimiterRow)
    (notRight : d ∉ ended delimiterRow) :
    HoldsDelimiter name ∨ ended delimiterRow <:+: rest := by
  rcases delimiter_infix_cases notLeft held with before | inside
  · exact absurd before (not_infix_of_short short)
  · exact delimiter_infix_cases notRight inside

theorem mem_lines_of_holdsDelimiter {text name : String} (held : HoldsDelimiter name)
    (inside : name.toList <:+: text.toList) : delimiterRow ∈ lines text :=
  mem_lines_of_infix (by decide) (held.trans inside)

theorem delimiterRow_mem_title_iff (behavior input : String) :
    delimiterRow ∈ lines ("## " ++ behavior ++ " `" ++ input ++ "`") ↔
      HoldsDelimiter behavior ∨ HoldsDelimiter input := by
  constructor
  · intro member
    have framed : '\n' :: ("## " ++ behavior ++ " `" ++ input ++ "`").toList ++ ['\n'] =
        ['\n', '#', '#'] ++ ' ' ::
          (behavior.toList ++ ' ' :: ([] ++ '`' :: (input.toList ++ '`' :: ['\n']))) := by
      simp
    have held := (infix_of_mem_lines member).2
    rw [framed] at held
    rcases delimiter_infix_framed held (by decide) (by decide) (by decide) with
      ofBehavior | later
    · exact .inl ofBehavior
    · rcases delimiter_infix_framed later (by decide) (by decide) (by decide) with
        ofInput | after
      · exact .inr ofInput
      · exact absurd after (not_infix_of_short (by decide))
  · rintro (held | held)
    · exact mem_lines_of_holdsDelimiter held ⟨['#', '#', ' '],
        ' ' :: '`' :: (input.toList ++ ['`']), by simp⟩
    · exact mem_lines_of_holdsDelimiter held
        ⟨'#' :: '#' :: ' ' :: (behavior.toList ++ [' ', '`']), ['`'], by simp⟩

theorem delimiterRow_mem_outcome_iff (outcome : String) :
    delimiterRow ∈ lines ("- **Outcome:** `" ++ outcome ++ "`") ↔
      HoldsDelimiter outcome := by
  constructor
  · intro member
    have framed : '\n' :: ("- **Outcome:** `" ++ outcome ++ "`").toList ++ ['\n'] =
        ('\n' :: "- **Outcome:** ".toList) ++ '`' ::
          (outcome.toList ++ '`' :: ['\n']) := by
      simp
    have held := (infix_of_mem_lines member).2
    rw [framed] at held
    rcases delimiter_infix_framed held (by decide) (by decide) (by decide) with
      ofOutcome | after
    · exact ofOutcome
    · exact absurd after (not_infix_of_short (by decide))
  · intro held
    exact mem_lines_of_holdsDelimiter held ⟨"- **Outcome:** `".toList, ['`'], by simp⟩

theorem delimiterRow_not_mem_lines {text : String} (oneLine : '\n' ∉ text.toList)
    (different : text ≠ delimiterRow) :
    delimiterRow ∉ lines text := by
  rw [lines_of_not_mem oneLine, List.mem_singleton]
  exact different.symm

namespace TrialResult

/-- The lines of a Markdown report above the delimiter row of its table, as they
are written. -/
def reportHead (result : TrialResult) : List String :=
  ["## " ++ result.behavior ++ " `" ++ result.input.name ++ "`", "",
    "- **Verdict:** " ++ result.verdict.text, "- **Score:** " ++
    toString result.score.toNat ++ "/100", "- **Outcome:** `" ++ result.outcome.text ++
    "`", "", "| Status | Clause | Expression | Detail |"]

theorem report_markdown (result : TrialResult) :
    result.report .markdown = unlines
      (result.reportHead ++ delimiterRow :: result.checks.map Check.row) :=
  rfl

theorem delimiterRow_mem_reportHead_iff (result : TrialResult) :
    delimiterRow ∈ result.reportHead.flatMap lines ↔
      HoldsDelimiter result.behavior ∨ HoldsDelimiter result.input.name ∨
        HoldsDelimiter result.outcome.text := by
  have blank : delimiterRow ∉ lines "" :=
    delimiterRow_not_mem_lines (by decide) (by decide)
  have titles : delimiterRow ∉ lines "| Status | Clause | Expression | Detail |" :=
    delimiterRow_not_mem_lines (by decide) (by decide)
  have verdict : delimiterRow ∉ lines ("- **Verdict:** " ++ result.verdict.text) := by
    cases result.verdict with
    | verified => exact delimiterRow_not_mem_lines (by decide) (by decide)
    | risky => exact delimiterRow_not_mem_lines (by decide) (by decide)
    | dangerous => exact delimiterRow_not_mem_lines (by decide) (by decide)
  have score : delimiterRow ∉
      lines ("- **Score:** " ++ toString result.score.toNat ++ "/100") := by
    refine delimiterRow_not_mem_lines ?_ ?_
    · have digits : '\n' ∉ Nat.toDigits 10 result.score.toNat :=
        not_mem_toDigits (by decide) _
      simp [digits]
    · intro same
      have starts := congrArg (fun text => text.toList.head?) same
      simp [delimiterRow] at starts
  simp only [reportHead, List.flatMap_cons, List.flatMap_nil, List.mem_append,
    List.not_mem_nil, blank, titles, verdict, score, delimiterRow_mem_title_iff,
    delimiterRow_mem_outcome_iff, false_or, or_false, or_assoc]

theorem hasTable_report_iff (result : TrialResult) :
    HasTable (result.report .markdown) result.checks ↔
      (¬ HoldsDelimiter result.behavior ∧ ¬ HoldsDelimiter result.input.name ∧
        ¬ HoldsDelimiter result.outcome.text) ∧
      ∀ check ∈ result.checks, FitsCell check.name := by
  rw [report_markdown, hasTable_unlines_iff, delimiterRow_mem_reportHead_iff,
    not_or, not_or]

end TrialResult

theorem Check.forall_mem_names {checks : List Check} {holds : String → Prop} :
    (∀ name ∈ names checks, holds name) ↔ ∀ check ∈ checks, holds check.name :=
  List.forall_mem_map

namespace Behavior

def PostconditionsFit (behavior : Behavior) (outcome : Outcome) : Prop :=
  ∀ block ∈ behavior.postconditions,
    block.condition.isActive outcome = true → block.predicates ≠ [] →
    FitsCell block.condition.text

theorem fitsCell_postconditionLabel (condition : Condition) :
    FitsCell (postconditionLabel condition) ↔ FitsCell condition.text := by
  have joined : (postconditionLabel condition).toList =
      "postcondition".toList ++ '_' :: condition.text.toList := by
    rw [toList_postconditionLabel]
    rfl
  rw [fitsCell_of_toList joined (by decide) (by decide) (by decide),
    and_iff_right (by decide)]

theorem checkPostconditions_fit_iff (behavior : Behavior) (context : Context)
    (outcome : Outcome) :
    (∀ check ∈ behavior.checkPostconditions context outcome, FitsCell check.name) ↔
      behavior.PostconditionsFit outcome := by
  rw [← Check.forall_mem_names]
  constructor
  · intro fits block member active someClause
    obtain ⟨clause, inside⟩ := List.exists_mem_of_ne_nil _ someClause
    have called : (block.condition, clause) ∈ behavior.activePredicates outcome :=
      mem_activePredicates.2 ⟨block, member, active, inside, rfl⟩
    have first := fits _ (first_mem_names_checkPostconditions context called)
    rwa [fitsCell_clauseName, fitsCell_postconditionLabel] at first
  · intro fits name member
    obtain ⟨condition, clause, number, called, rfl⟩ :=
      mem_names_checkPostconditions member
    obtain ⟨block, declared, active, inside, rfl⟩ := mem_activePredicates.1 called
    rw [fitsCell_clauseName, fitsCell_postconditionLabel]
    exact fits block declared active (List.ne_nil_of_mem inside)

theorem checkPreconditions_fit (behavior : Behavior) (context : Context) :
    ∀ check ∈ behavior.checkPreconditions context, FitsCell check.name := by
  rw [← Check.forall_mem_names]
  intro name member
  obtain ⟨position, -, rfl⟩ := Check.mem_names_ofClauses.1 member
  exact (fitsCell_clauseName ..).2 (by decide)

end Behavior

namespace Domain

/-- Says that the names of blocks with invariants fit into cells, and of every
instance with invariants the id and the name of its entity. -/
structure InvariantsFit (domain : Domain) (instances : Instances) : Prop where
  blocks : ∀ block ∈ domain.invariants, block.predicates ≠ [] → FitsCell block.name
  entities : ∀ entity ∈ domain.entities,
    entity.invariants ≠ [] → ∀ self ∈ instances.all entity.name,
    FitsCell entity.name ∧ FitsCell self.id

theorem fitsCell_instanceLabel (entity : Entity) (self : Instance) :
    FitsCell (instanceLabel entity self) ↔ FitsCell entity.name ∧ FitsCell self.id := by
  have joined : (instanceLabel entity self).toList =
      (entity.name ++ "_" ++ self.id).toList ++ '_' :: "invariant".toList := by
    rw [instanceLabel, String.toList_append]
    rfl
  rw [fitsCell_of_toList joined (by decide) (by decide) (by decide),
    and_iff_left (by decide), fitsCell_underscore]

end Domain

namespace Behavior

/-- A number after a name does no harm, so names that were numbered apart are as
good as the labels that they have. -/
theorem checkAllInvariants_fit_iff_labels (behavior : Behavior) (context : Context) :
    (∀ name ∈ Check.names (behavior.checkAllInvariants context), FitsCell name) ↔
      ∀ label number, HasInvariant behavior context label number → FitsCell label := by
  constructor
  · intro fits label number invariant
    exact (fitsCell_clauseName label number).1
      (fits _ (clauseName_mem_names_checkAllInvariants.2 invariant))
  · intro fits name member
    have old : ∀ old ∈ Check.names (behavior.invariantChecks context), FitsCell old := by
      intro old oldMember
      obtain ⟨label, number, invariant, rfl⟩ := mem_names_invariantChecks.1 oldMember
      exact (fitsCell_clauseName label number).2 (fits label number invariant)
    rcases Check.mem_names_nameApart member with kept | ⟨former, formerMember, copy, rfl⟩
    · exact old name kept
    · exact (fitsCell_numberedName former copy).2 (old former formerMember)

theorem checkAllInvariants_fit_iff (behavior : Behavior) (context : Context) :
    (∀ check ∈ behavior.checkAllInvariants context, FitsCell check.name) ↔
      context.domain.InvariantsFit context.instances := by
  rw [← Check.forall_mem_names, checkAllInvariants_fit_iff_labels]
  constructor
  · intro fits
    refine ⟨?_, ?_⟩
    · intro block member someClause
      exact fits _ _ (.ofBlock member (List.length_pos_iff.2 someClause))
    · intro entity declared someClause self live
      rw [← Domain.fitsCell_instanceLabel]
      exact fits _ _ (.ofInstance declared live (List.length_pos_iff.2 someClause))
  · intro fits label number invariant
    cases invariant with
    | ofBehavior inside => decide
    | ofBlock member inside =>
        exact fits.blocks _ member (List.ne_nil_of_length_pos (Nat.zero_lt_of_lt inside))
    | ofInstance declared live inside =>
        rw [Domain.fitsCell_instanceLabel]
        exact fits.entities _ declared
          (List.ne_nil_of_length_pos (Nat.zero_lt_of_lt inside)) _ live

end Behavior

namespace Engine

theorem judge_names_fit_iff (engine : Engine) (readings : Readings) (behavior : Behavior)
    (input : Input) (before : Store) (run : Run) :
    (∀ check ∈ (engine.judge readings behavior input before run).checks,
      FitsCell check.name) ↔
      (engine.settings.checkPostconditions = true →
        behavior.PostconditionsFit
          (engine.judge readings behavior input before run).outcome) ∧
      (engine.settings.checkInvariants = true →
        engine.domain.InvariantsFit run.store.instances) := by
  simp only [TrialResult.checks, judge, List.forall_mem_append, forall_mem_if,
    Behavior.checkPostconditions_fit_iff, Behavior.checkAllInvariants_fit_iff]
  constructor
  · rintro ⟨⟨-, postconditions⟩, invariants⟩
    exact ⟨postconditions, invariants⟩
  · rintro ⟨postconditions, invariants⟩
    exact ⟨⟨fun _ => behavior.checkPreconditions_fit _, postconditions⟩, invariants⟩

theorem runTrial_hasTable_iff (engine : Engine) (readings : Readings)
    (implementation : Implementation) {name : String} {behavior : Behavior}
    (known : engine.domain.behavior? name = some behavior) (input : Input)
    (store : Store) :
    ∃ result,
      engine.runTrial readings implementation name input store false = .ok result ∧
      (HasTable (result.report .markdown) result.checks ↔
        (¬ HoldsDelimiter behavior.name ∧ ¬ HoldsDelimiter input.name ∧
          ¬ HoldsDelimiter result.outcome.text) ∧
        (engine.settings.checkPostconditions = true →
          behavior.PostconditionsFit result.outcome) ∧
        (engine.settings.checkInvariants = true →
          engine.domain.InvariantsFit
            (implementation.execute behavior input.values store).store.instances)) := by
  refine ⟨_, engine.runTrial_of_behavior readings implementation known input store, ?_⟩
  rw [TrialResult.hasTable_report_iff, judge_names_fit_iff]
  rfl

def touch : Behavior where
  name := "Touch"

/-- The invariant of a label has a bar and a line end in its text. -/
def labelling : Engine where
  domain := {
    name := "Labels"
    entities := [{
      name := "Label"
      invariants := [.notEquals (.member (.identifier "this") "id")
        (.literal (.text "x|y\n"))] }]
    behaviors := [touch] }
  settings := {}

def touching : Implementation where
  execute := fun _ _ store => .finished (.ok .null) store

def oneLabel (id : String) : Store :=
  (Store.empty.create "Label" (Table.ofList [("id", .text id)])).2

/-- A bar that has a backslash already does no harm in an id. -/
theorem runTrial_hasTable_guardedBar :
    labelling.domain.behavior? "Touch" = some touch ∧
      ∃ result,
        labelling.runTrial { now := ⟨0, 0⟩ } touching "Touch" .empty (oneLabel "a\\|b")
          false = .ok result ∧
        Check.names result.checks = ["Label_a\\|b_invariant_1"] ∧
        HasTable (result.report .markdown) result.checks := by
  have known : labelling.domain.behavior? "Touch" = some touch := rfl
  obtain ⟨result, ran, table⟩ :=
    runTrial_hasTable_iff labelling { now := ⟨0, 0⟩ } touching known .empty
      (oneLabel "a\\|b")
  cases ran.symm.trans (labelling.runTrial_of_behavior _ touching known .empty
    (oneLabel "a\\|b"))
  refine ⟨known, _, ran, by decide, table.2 ⟨⟨?_, ?_, ?_⟩, ?_, ?_⟩⟩
  · exact not_infix_of_short (by decide)
  · exact not_infix_of_short (by decide)
  · exact not_infix_of_short (by decide)
  · intro _ block impossible
    cases impossible
  · intro _
    exact ⟨by decide, by decide⟩

/-- A bare bar in the id of an instance gives the row of its invariant a fifth cell. -/
theorem runTrial_bar_in_id_splits_row :
    create labelling.domain labelling.settings = .ok labelling ∧
      ∃ result,
        labelling.runTrial { now := ⟨0, 0⟩ } touching "Touch" .empty (oneLabel "a|b")
          false = .ok result ∧
        Check.names result.checks = ["Label_a|b_invariant_1"] ∧
        (∀ check ∈ result.checks, bareBars check.row = 6) ∧
        ¬ HasTable (result.report .markdown) result.checks := by
  have known : labelling.domain.behavior? "Touch" = some touch := rfl
  refine ⟨rfl, _, labelling.runTrial_of_behavior _ touching known .empty (oneLabel "a|b"),
    by decide, ?_, ?_⟩
  · simp only [Check.bareBars_row]
    decide
  · rw [TrialResult.hasTable_report_iff]
    rintro ⟨-, fits⟩
    exact absurd fits (by decide)

end Engine

end BehaviorContract
