import BehaviorContract.Proofs.Clause.Contract
import BehaviorContract.Proofs.Verdict.Score
import Mathlib.Data.List.Forall2

namespace BehaviorContract

namespace Verdict

def trust : Verdict → Nat
  | .dangerous => 0
  | .risky => 1
  | .verified => 2

instance : LE Verdict where
  le first second := first.trust ≤ second.trust

theorem le_refl (verdict : Verdict) : verdict ≤ verdict :=
  Nat.le_refl verdict.trust

theorem dangerous_le (verdict : Verdict) : .dangerous ≤ verdict :=
  Nat.zero_le verdict.trust

theorem le_verified (verdict : Verdict) : verdict ≤ .verified := by
  change verdict.trust ≤ 2
  cases verdict with
  | verified => exact Nat.le_refl 2
  | risky => exact Nat.le_succ 1
  | dangerous => exact Nat.zero_le 2

end Verdict

namespace Policy

theorem classify_eq_verified_iff (policy : Policy) {passed total : Nat}
    (evaluated : 0 < total) :
    policy.classify passed total = .verified ↔ total ≤ passed := by
  unfold classify
  rw [if_neg (Nat.ne_of_gt evaluated)]
  by_cases all : total ≤ passed
  · simp [all]
  · rw [if_neg all]
    split <;> simp [all]

theorem classify_eq_risky_iff (policy : Policy) {passed total : Nat}
    (missing : passed < total) :
    policy.classify passed total = .risky ↔
      policy.riskyThreshold ≤ score passed total := by
  unfold classify
  rw [if_neg (Nat.ne_of_gt (Nat.zero_lt_of_lt missing)),
    if_neg (Nat.not_le_of_lt missing)]
  split
  · rename_i enough
    simp [enough]
  · rename_i few
    simp [few]

theorem classify_le_classify (policy : Policy) {fewer more total : Nat}
    (less : fewer ≤ more) (fits : 201 * total < UInt64.size) :
    policy.classify fewer total ≤ policy.classify more total := by
  unfold classify
  by_cases none : total = 0
  · rw [if_pos none, if_pos none]
    exact Verdict.le_refl _
  · rw [if_neg none, if_neg none]
    by_cases all : total ≤ more
    · rw [if_pos all]
      exact Verdict.le_verified _
    · rw [if_neg all, if_neg fun allFewer => all (Nat.le_trans allFewer less)]
      by_cases enough : policy.riskyThreshold ≤ score fewer total
      · rw [if_pos enough, if_pos (UInt8.le_trans enough (score_le_score less fits))]
        exact Verdict.le_refl _
      · rw [if_neg enough]
        exact Verdict.dangerous_le _

end Policy

namespace Check

theorem length_le_countP_passed_iff (checks : List Check) :
    checks.length ≤ checks.countP (·.passed) ↔ AllPassed checks := by
  rw [AllPassed, ← List.countP_eq_length]
  constructor
  · intro all
    exact Nat.le_antisymm List.countP_le_length all
  · intro all
    exact Nat.le_of_eq all.symm

/-- Says that a check is as it was, or that it passed and has failed instead. -/
def KeptOrFailed (before after : Check) : Prop :=
  after = before ∨ before.passed = true ∧ after = { before with passed := false }

theorem KeptOrFailed.passed {before after : Check} (changed : KeptOrFailed before after)
    (passes : after.passed = true) : before.passed = true := by
  rcases changed with rfl | ⟨passed, -⟩
  · exact passes
  · exact passed

theorem countP_passed_le {before after : List Check}
    (changed : List.Forall₂ KeptOrFailed before after) :
    after.countP (·.passed) ≤ before.countP (·.passed) := by
  induction changed with
  | nil => exact Nat.le_refl _
  | @cons first second firstRest secondRest head tail induction =>
      by_cases passes : second.passed = true
      · rw [List.countP_cons_of_pos passes, List.countP_cons_of_pos (head.passed passes)]
        exact Nat.succ_le_succ induction
      · rw [List.countP_cons_of_neg passes]
        exact Nat.le_trans induction (List.sublist_cons_self ..).countP_le

def ofAllKinds (checks : ClauseKind → List Check) : List Check :=
  checks .precondition ++ checks .postcondition ++ checks .invariant

theorem forall₂_ofAllKinds {relation : Check → Check → Prop}
    {before after : ClauseKind → List Check}
    (related : ∀ kind, List.Forall₂ relation (before kind) (after kind)) :
    List.Forall₂ relation (ofAllKinds before) (ofAllKinds after) :=
  List.rel_append (List.rel_append (related .precondition) (related .postcondition))
    (related .invariant)

end Check

namespace Scoring

variable (policy : Policy) (declared : ClauseKind → Nat)
  (checks : ClauseKind → List Check)

theorem checked_ofChecks : (ofChecks policy declared checks).coverage.checked =
    (Check.ofAllKinds checks).length := by
  simp [ofChecks, ofCoverage, Coverage.checked, Coverage.sum, Tally.ofChecks,
    Check.ofAllKinds, Nat.add_assoc]

theorem passed_ofChecks :
    (ofChecks policy declared checks).coverage.passed =
      (Check.ofAllKinds checks).countP (·.passed) := by
  simp [ofChecks, ofCoverage, Coverage.passed, Coverage.sum, Tally.ofChecks,
    Check.ofAllKinds, Nat.add_assoc]

theorem score_ofChecks :
    (ofChecks policy declared checks).score =
      BehaviorContract.score ((Check.ofAllKinds checks).countP (·.passed))
        (Check.ofAllKinds checks).length := by
  rw [← checked_ofChecks policy declared, ← passed_ofChecks policy declared]
  rfl

theorem verdict_ofChecks :
    (ofChecks policy declared checks).verdict =
      policy.classify ((Check.ofAllKinds checks).countP (·.passed))
        (Check.ofAllKinds checks).length := by
  rw [← checked_ofChecks policy declared, ← passed_ofChecks policy declared]
  rfl

theorem verdict_eq_verified_iff (evaluated : Check.ofAllKinds checks ≠ []) :
    (ofChecks policy declared checks).verdict = .verified ↔
      Check.AllPassed (Check.ofAllKinds checks) := by
  rw [verdict_ofChecks, policy.classify_eq_verified_iff (List.length_pos_iff.2 evaluated),
    Check.length_le_countP_passed_iff]

theorem verdict_eq_risky_iff (missing : ¬ Check.AllPassed (Check.ofAllKinds checks)) :
    (ofChecks policy declared checks).verdict = .risky ↔
      policy.riskyThreshold ≤ (ofChecks policy declared checks).score := by
  rw [← Check.length_le_countP_passed_iff] at missing
  rw [verdict_ofChecks, score_ofChecks,
    policy.classify_eq_risky_iff (Nat.lt_of_not_le missing)]

theorem ofChecks_le {checks changed : ClauseKind → List Check}
    (failed : ∀ kind, List.Forall₂ Check.KeptOrFailed (checks kind) (changed kind))
    (fits : 201 * (Check.ofAllKinds checks).length < UInt64.size) :
    (ofChecks policy declared changed).score ≤ (ofChecks policy declared checks).score ∧
      (ofChecks policy declared changed).verdict ≤
        (ofChecks policy declared checks).verdict := by
  have all := Check.forall₂_ofAllKinds failed
  have fewer := Check.countP_passed_le all
  rw [score_ofChecks, score_ofChecks, verdict_ofChecks, verdict_ofChecks, ← all.length_eq]
  exact ⟨score_le_score fewer fits, policy.classify_le_classify fewer fits⟩

end Scoring

/-- Judgements are compared where the number of checks fits, so that their
scores are exact. -/
theorem scoring_exact_and_monotone :
    (∀ passed total : Nat, passed ≤ total → 0 < total → 201 * total < UInt64.size →
      ScoreFits passed total ∧ (score passed total).toNat ≤ 100 ∧
        ∀ number : Int, ((score passed total).toNat : Int) = number ↔
          2 * total * number ≤ 200 * passed + total ∧
            (200 * passed + total : Int) < 2 * total * (number + 1)) ∧
    ∀ (policy : Policy) (declared : ClauseKind → Nat) (checks : ClauseKind → List Check),
      (Scoring.ofChecks policy declared checks).score =
        score ((Check.ofAllKinds checks).countP (·.passed))
          (Check.ofAllKinds checks).length ∧
      (∀ changed : ClauseKind → List Check,
        (∀ kind, List.Forall₂ Check.KeptOrFailed (checks kind) (changed kind)) →
        201 * (Check.ofAllKinds checks).length < UInt64.size →
          (Scoring.ofChecks policy declared changed).score ≤
            (Scoring.ofChecks policy declared checks).score ∧
          (Scoring.ofChecks policy declared changed).verdict ≤
            (Scoring.ofChecks policy declared checks).verdict) ∧
      (Check.ofAllKinds checks ≠ [] →
        ((Scoring.ofChecks policy declared checks).verdict = .verified ↔
          Check.AllPassed (Check.ofAllKinds checks)) ∧
        (¬ Check.AllPassed (Check.ofAllKinds checks) →
          ((Scoring.ofChecks policy declared checks).verdict = .risky ↔
            policy.riskyThreshold ≤ (Scoring.ofChecks policy declared
              checks).score))) := by
  constructor
  · intro passed total part positive fits
    exact ⟨scoreFits part positive fits, toNat_score_le_hundred passed fits,
      toNat_score_eq_iff part positive fits⟩
  · intro policy declared checks
    refine ⟨Scoring.score_ofChecks policy declared checks, ?_, ?_⟩
    · intro changed failed fits
      exact Scoring.ofChecks_le policy declared failed fits
    · intro evaluated
      exact ⟨Scoring.verdict_eq_verified_iff policy declared checks evaluated,
        Scoring.verdict_eq_risky_iff policy declared checks⟩

def stocked : Check where
  kind := .postcondition
  name := "postcondition_success_1"
  expression := "result.stock >= 0"
  passed := true

def allStocked : ClauseKind → List Check
  | .precondition => [stocked]
  | .postcondition => [stocked, stocked]
  | .invariant => []

def onceSoldOut : ClauseKind → List Check
  | .precondition => [stocked]
  | .postcondition => [stocked, { stocked with passed := false }]
  | .invariant => []

/-- Two of three is rounded to 67, which is below the threshold of 70. -/
theorem scoring_exact_and_monotone_onceSoldOut :
    ((score 2 3).toNat : Int) = 67 ∧
      (Scoring.ofChecks {} (fun _ => 2) onceSoldOut).score ≤
        (Scoring.ofChecks {} (fun _ => 2) allStocked).score ∧
      (Scoring.ofChecks {} (fun _ => 2) allStocked).verdict = .verified ∧
      (Scoring.ofChecks {} (fun _ => 2) onceSoldOut).verdict ≠ .risky ∧
      (Scoring.ofChecks {} (fun _ => 2) onceSoldOut).score = score 2 3 := by
  have kept : Check.KeptOrFailed stocked stocked := .inl rfl
  have failed : ∀ kind,
      List.Forall₂ Check.KeptOrFailed (allStocked kind) (onceSoldOut kind) := by
    intro kind
    cases kind with
    | precondition => exact .cons kept .nil
    | postcondition => exact .cons kept (.cons (.inr ⟨rfl, rfl⟩) .nil)
    | invariant => exact .nil
  obtain ⟨rounded, judged⟩ := scoring_exact_and_monotone
  have ofPassed := judged {} (fun _ => 2) allStocked
  have ofFailed := judged {} (fun _ => 2) onceSoldOut
  have allPassed :=
    (Check.length_le_countP_passed_iff (Check.ofAllKinds allStocked)).1 (by decide)
  have notAllPassed :=
    mt (Check.length_le_countP_passed_iff (Check.ofAllKinds onceSoldOut)).2 (by decide)
  refine ⟨((rounded 2 3 (by decide) (by decide) (by decide)).2.2 67).2 (by decide), ?_,
    ?_, ?_, ofFailed.1⟩
  · exact (ofPassed.2.1 onceSoldOut failed (by decide)).1
  · exact (ofPassed.2.2 (List.cons_ne_nil _ _)).1.2 allPassed
  · intro risky
    exact absurd (((ofFailed.2.2 (List.cons_ne_nil _ _)).2 notAllPassed).1 risky)
      (by decide)

end BehaviorContract
