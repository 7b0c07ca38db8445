import BehaviorContract.Proofs.Clause.Names
import BehaviorContract.Proofs.Table
import BehaviorContract.Proofs.Trial.Verdict
import BehaviorContract.Report.Summary

namespace BehaviorContract

namespace BatchSummary

theorem counts_tally (names : List String) : Entries.Counts (tally names) names :=
  Entries.counts_empty.foldl names

end BatchSummary

namespace TrialResult

def fails (result : TrialResult) (name : String) : Bool :=
  result.checks.any fun check => check.name == name && !check.passed

theorem mem_names_failedChecks {result : TrialResult} {name : String} :
    name ∈ Check.names result.failedChecks ↔ result.fails name = true := by
  simp only [Check.names, failedChecks, fails, List.mem_map, List.mem_filter,
    List.any_eq_true, Bool.and_eq_true, beq_iff_eq]
  constructor
  · rintro ⟨check, ⟨member, failed⟩, named⟩
    exact ⟨check, member, named, failed⟩
  · rintro ⟨check, member, named, failed⟩
    exact ⟨check, ⟨member, failed⟩, named⟩

theorem count_names_failedChecks {result : TrialResult}
    (distinct : (Check.names result.checks).Nodup) (name : String) :
    (Check.names result.failedChecks).count name =
      if result.fails name then 1 else 0 := by
  have failed : (Check.names result.failedChecks).Nodup :=
    distinct.sublist (List.filter_sublist.map _)
  rw [failed.count]
  exact if_congr mem_names_failedChecks rfl rfl

theorem count_failing_eq_countP {results : List TrialResult}
    (distinct : ∀ result ∈ results, (Check.names result.checks).Nodup) (name : String) :
    (results.flatMap fun result => Check.names result.failedChecks).count name =
      results.countP (·.fails name) := by
  induction results with
  | nil => rfl
  | cons result rest induction =>
      rw [List.flatMap_cons, List.count_append,
        count_names_failedChecks (distinct result List.mem_cons_self),
        induction fun other member =>
        distinct other (List.mem_cons_of_mem _ member), List.countP_cons, Nat.add_comm]

theorem countP_verdicts (results : List TrialResult) :
    results.countP (·.verdict == .verified) + results.countP (·.verdict == .risky) +
      results.countP (·.verdict == .dangerous) = results.length := by
  induction results with
  | nil => rfl
  | cons result rest induction =>
      have once : (if result.verdict == .verified then 1 else 0) +
        (if result.verdict == .risky then 1 else 0) +
          (if result.verdict == .dangerous then 1 else 0) = 1 := by
        cases result.verdict with
        | verified => rfl
        | risky => rfl
        | dangerous => rfl
      rw [List.countP_cons, List.countP_cons, List.countP_cons, List.length_cons]
      omega

end TrialResult

namespace BatchSummary

/-- Says that a summary tells of a list of results what it should. -/
structure Summarizes (results : List TrialResult) (summary : BatchSummary) : Prop where
  trials : summary.trials = results.length
  verdicts : summary.verified + summary.risky + summary.dangerous = summary.trials
  allVerified_iff : summary.allVerified = true ↔
    ∀ result ∈ results, result.verdict = .verified
  minScore_eq_none_iff : summary.minScore = none ↔ results = []
  minScore_eq_some_iff : ∀ score, summary.minScore = some score ↔
    (∃ result ∈ results, result.score = score) ∧ ∀ result ∈ results, score ≤ result.score
  get?_failingClauses : ∀ name count, summary.failingClauses.get? name = some count ↔
    1 ≤ count ∧ count = results.countP (·.fails name)
  mem_keys_failingClauses : ∀ name, name ∈ summary.failingClauses.keys ↔
    ∃ result ∈ results, ∃ check ∈ result.checks, check.name = name ∧ check.passed = false

theorem allVerified_ofResults (results : List TrialResult) :
    (ofResults results).allVerified = true ↔
      ∀ result ∈ results, result.verdict = .verified := by
  have counted : (ofResults results).allVerified = true ↔
      results.countP (·.verdict == .verified) = results.length := beq_iff_eq
  rw [counted, List.countP_eq_length]
  simp only [beq_iff_eq]

theorem minScore_ofResults (results : List TrialResult) (score : UInt8) :
    (ofResults results).minScore = some score ↔
      (∃ result ∈ results, result.score = score) ∧
        ∀ result ∈ results, score ≤ result.score := by
  have least : (ofResults results).minScore = (results.map (·.score)).min? := rfl
  rw [least, List.min?_eq_some_iff, List.mem_map, List.forall_mem_map]

theorem get?_failingClauses_ofResults {results : List TrialResult}
    (distinct : ∀ result ∈ results, (Check.names result.checks).Nodup) (name : String)
    (count : Nat) :
    (ofResults results).failingClauses.get? name = some count ↔
      1 ≤ count ∧ count = results.countP (·.fails name) := by
  rw [← TrialResult.count_failing_eq_countP distinct]
  exact counts_tally _ name count

theorem mem_keys_failingClauses_ofResults {results : List TrialResult}
    (distinct : ∀ result ∈ results, (Check.names result.checks).Nodup) (name : String) :
    name ∈ (ofResults results).failingClauses.keys ↔
      ∃ result ∈ results, ∃ check ∈ result.checks,
        check.name = name ∧ check.passed = false := by
  have counted : (∃ count, (ofResults results).failingClauses.get? name = some count) ↔
      0 < results.countP (·.fails name) := by
    simp only [get?_failingClauses_ofResults distinct]
    constructor
    · rintro ⟨count, positive, rfl⟩
      exact positive
    · intro positive
      exact ⟨_, positive, rfl⟩
  rw [Entries.mem_keys_iff, Option.isSome_iff_exists, counted, List.countP_pos_iff]
  simp [TrialResult.fails]

theorem ofResults_summarizes (results : List TrialResult)
    (distinct : ∀ result ∈ results, (Check.names result.checks).Nodup) :
    Summarizes results (ofResults results) where
  trials := rfl
  verdicts := TrialResult.countP_verdicts results
  allVerified_iff := allVerified_ofResults results
  minScore_eq_none_iff := List.min?_eq_none_iff.trans List.map_eq_nil_iff
  minScore_eq_some_iff := minScore_ofResults results
  get?_failingClauses := get?_failingClauses_ofResults distinct
  mem_keys_failingClauses := mem_keys_failingClauses_ofResults distinct

def countedBy (amount : Int64) : TrialResult :=
  let input : Input :=
    { category := .valid, name := "amount",
      values := .ofFields [("amount", .integer amount)] }
  Engine.counting.judge { now := ⟨0, 0⟩ } Engine.increment input .empty
    (Engine.incrementing.execute Engine.increment input.values .empty)

/-- Amounts below zero break the precondition and the invariant of the counter,
zero breaks the precondition alone. -/
theorem ofResults_summarizes_fourAmounts :
    (∀ result ∈ [5, -5, 0, -1].map countedBy, (Check.names result.checks).Nodup) ∧
      (ofResults ([5, -5, 0, -1].map countedBy)).failingClauses.get?
        "precondition_1" = some 3 ∧
      (ofResults ([5, -5, 0, -1].map countedBy)).failingClauses.get?
        "Counter_counter-1_invariant_1" = some 2 ∧
      (ofResults ([5, -5, 0, -1].map countedBy)).minScore = some 33 ∧
      (ofResults ([5, -5, 0, -1].map countedBy)).allVerified = false := by
  have distinct : ∀ result ∈ [5, -5, 0, -1].map countedBy,
    (Check.names result.checks).Nodup := by decide
  have summary := ofResults_summarizes _ distinct
  refine ⟨distinct, (summary.get?_failingClauses _ _).2 (by decide),
    (summary.get?_failingClauses _ _).2 (by decide),
    (summary.minScore_eq_some_iff _).2 (by decide), ?_⟩
  rw [← Bool.not_eq_true, summary.allVerified_iff]
  decide

end BatchSummary

end BehaviorContract
