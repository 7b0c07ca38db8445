import BehaviorContract.Proofs.Trial.Batch
import BehaviorContract.Proofs.Verdict.Score
import BehaviorContract.Trial.Mutation

/-! When a mutation test succeeds. It looks at the first trial of the least
score, and the score is rounded: a trial that is not verified can score as much
as a verified one, and then the order of the inputs decides. -/

namespace BehaviorContract

namespace TrialResult

theorem weakest?_eq_none_iff {results : List TrialResult} :
    weakest? results = none ↔ results = [] := by
  cases results with
  | nil => simp [weakest?]
  | cons result rest =>
      unfold weakest?
      split
      · split <;> simp
      · simp

theorem mem_of_weakest? {results : List TrialResult} {worst : TrialResult}
    (found : weakest? results = some worst) :
    worst ∈ results := by
  induction results generalizing worst with
  | nil => cases found
  | cons result rest induction =>
      unfold weakest? at found
      split at found
      · rename_i other weakest
        split at found
        · cases found
          exact List.mem_cons_of_mem _ (induction weakest)
        · cases found
          exact List.mem_cons_self
      · cases found
        exact List.mem_cons_self

/-- Says that a result is the first of those with the least score. -/
def FirstOfLeast (results : List TrialResult) (worst : TrialResult) : Prop :=
  ∃ earlier later, results = earlier ++ worst :: later ∧
    (∀ other ∈ earlier, worst.score < other.score) ∧
      ∀ other ∈ later, worst.score ≤ other.score

theorem firstOfLeast_of_weakest? {results : List TrialResult} {worst : TrialResult}
    (found : weakest? results = some worst) : FirstOfLeast results worst := by
  induction results generalizing worst with
  | nil => cases found
  | cons result rest induction =>
      cases weakest : weakest? rest with
      | none =>
          have alone := weakest?_eq_none_iff.1 weakest
          subst alone
          cases found
          exact ⟨[], [], rfl, by simp, by simp⟩
      | some other =>
          obtain ⟨earlier, later, split, before, after⟩ := induction weakest
          simp only [weakest?, weakest] at found
          by_cases less : other.score < result.score
          · rw [if_pos less] at found
            cases found
            exact ⟨result :: earlier, later, by rw [split]; rfl,
              List.forall_mem_cons.2 ⟨less, before⟩, after⟩
          · rw [if_neg less] at found
            cases found
            have least : result.score ≤ other.score := UInt8.not_lt.1 less
            refine ⟨[], rest, rfl, by simp, ?_⟩
            intro candidate member
            rw [split, List.mem_append, List.mem_cons] at member
            rcases member with inside | rfl | inside
            · exact UInt8.le_trans least (UInt8.le_of_lt (before candidate inside))
            · exact least
            · exact UInt8.le_trans least (after candidate inside)

theorem FirstOfLeast.weakest? {results : List TrialResult} {worst : TrialResult}
    (least : FirstOfLeast results worst) : weakest? results = some worst := by
  obtain ⟨earlier, later, rfl, before, after⟩ := least
  induction earlier with
  | nil =>
      cases weakest : TrialResult.weakest? later with
      | none => simp only [List.nil_append, TrialResult.weakest?, weakest]
      | some other =>
          have notLess : ¬ other.score < worst.score :=
            UInt8.not_lt.2 (after other (mem_of_weakest? weakest))
          simp only [List.nil_append, TrialResult.weakest?, weakest, if_neg notLess]
  | cons result rest induction =>
      have weakest := induction fun other member =>
        before other (List.mem_cons_of_mem _ member)
      have less := before result List.mem_cons_self
      simp only [List.cons_append, TrialResult.weakest?, weakest, if_pos less]

theorem weakest?_eq_some_iff {results : List TrialResult} {worst : TrialResult} :
    weakest? results = some worst ↔ FirstOfLeast results worst :=
  ⟨firstOfLeast_of_weakest?, FirstOfLeast.weakest?⟩

theorem JudgedBy.score_le_hundred {policy : Policy} {result : TrialResult}
    (judged : result.JudgedBy policy) (fits : 201 * result.checks.length < UInt64.size) :
    result.score ≤ 100 := by
  rw [judged.score, judged.checked, UInt8.le_iff_toNat_le]
  exact toNat_score_le_hundred _ fits

theorem JudgedBy.score_eq_hundred_iff {policy : Policy} {result : TrialResult}
    (judged : result.JudgedBy policy) (fits : 201 * result.checks.length < UInt64.size) :
    result.score = 100 ↔ 200 * result.failedChecks.length ≤ result.checks.length := by
  have failed : result.checks.length - result.checks.countP (·.passed) =
      result.failedChecks.length := by
    have total := List.length_eq_countP_add_countP (·.passed) (l := result.checks)
    rw [failedChecks, ← List.countP_eq_length_filter]
    simp only [Bool.not_eq_true, Bool.decide_eq_false] at total
    omega
  rw [judged.score, judged.checked, judged.passed,
    BehaviorContract.score_eq_hundred_iff fits, failed]

theorem JudgedBy.score_of_verified {policy : Policy} {result : TrialResult}
    (judged : result.JudgedBy policy) (fits : 201 * result.checks.length < UInt64.size)
    (verified : result.verdict = .verified) :
    result.score = 100 := by
  rw [judged.score_eq_hundred_iff fits]
  by_cases evaluated : result.checks = []
  · simp [failedChecks, evaluated]
  · have passed := (judged.verified_iff evaluated).1 verified
    have none : result.failedChecks = [] := by
      rw [failedChecks, List.filter_eq_nil_iff]
      intro check member
      simp [passed check member]
    simp [none]

/-- Says that trials which are not verified hide behind a verified first one: so
few of their clauses failed that their scores round up to its score. -/
structure Masked (results : List TrialResult) : Prop where
  first : ∃ first ∈ results.head?, first.verdict = .verified
  killed : ∃ killed ∈ results, killed.verdict ≠ .verified
  rounded : ∀ killed ∈ results,
    killed.verdict ≠ .verified → 200 * killed.failedChecks.length ≤ killed.checks.length

section Weakest

variable {policy : Policy} {results : List TrialResult} {worst : TrialResult}

theorem weakest?_verified_iff_head (judged : ∀ result ∈ results, result.JudgedBy policy)
    (fits : ∀ result ∈ results, 201 * result.checks.length < UInt64.size)
    (found : weakest? results = some worst) :
    worst.verdict = .verified ↔
      (∃ first ∈ results.head?, first.verdict = .verified) ∧
        ∀ result ∈ results, result.score = 100 := by
  have atMost : ∀ result ∈ results, result.score ≤ 100 :=
    fun result member => (judged result member).score_le_hundred (fits result member)
  obtain ⟨earlier, later, split, before, after⟩ := firstOfLeast_of_weakest? found
  have present : worst ∈ results := mem_of_weakest? found
  have leading : (∀ result ∈ earlier, result.score ≤ worst.score) → earlier = [] := by
    intro bound
    cases earlier with
    | nil => rfl
    | cons result rest =>
        exact absurd (before result (by simp)) (UInt8.not_lt.2 (bound result (by simp)))
  constructor
  · intro verified
    have full : worst.score = 100 :=
      (judged worst present).score_of_verified (fits worst present) verified
    have first : earlier = [] := by
      refine leading fun result member => ?_
      rw [full]
      exact atMost result (by simp [split, member])
    subst first
    refine ⟨⟨worst, by simp [split], verified⟩, ?_⟩
    intro result member
    rw [split, List.nil_append, List.mem_cons] at member
    rcases member with rfl | inside
    · exact full
    · refine UInt8.le_antisymm (atMost result (by simp [split, inside])) ?_
      rw [← full]
      exact after result inside
  · rintro ⟨⟨first, head, verified⟩, full⟩
    have leads : earlier = [] := by
      refine leading fun result member => ?_
      rw [full result (by simp [split, member]), full worst present]
      exact UInt8.le_refl _
    subst leads
    rw [split] at head
    cases head
    exact verified

theorem weakest?_verified_iff (judged : ∀ result ∈ results, result.JudgedBy policy)
    (fits : ∀ result ∈ results, 201 * result.checks.length < UInt64.size)
    (found : weakest? results = some worst) :
    worst.verdict = .verified ↔
      (∀ result ∈ results, result.verdict = .verified) ∨ Masked results := by
  rw [weakest?_verified_iff_head judged fits found]
  constructor
  · rintro ⟨first, full⟩
    by_cases all : ∀ result ∈ results, result.verdict = .verified
    · exact .inl all
    · have killed : ∃ killed ∈ results, killed.verdict ≠ .verified := by simpa using all
      refine .inr ⟨first, killed, ?_⟩
      intro killed member _
      exact ((judged killed member).score_eq_hundred_iff (fits killed member)).1
        (full killed member)
  · rintro (all | masked)
    · refine ⟨?_, fun result member =>
        (judged result member).score_of_verified (fits result member) (all result member)⟩
      cases results with
      | nil => cases found
      | cons first rest => exact ⟨first, rfl, all first (by simp)⟩
    · refine ⟨masked.first, ?_⟩
      intro result member
      by_cases verified : result.verdict = .verified
      · exact (judged result member).score_of_verified (fits result member) verified
      · exact ((judged result member).score_eq_hundred_iff (fits result member)).2
          (masked.rounded result member verified)

end Weakest

end TrialResult

namespace Engine

section Batch

variable (engine : Engine) (readings : Nat → Readings) {implementation : Implementation}
  {name : String} {behavior : Behavior} {seed : Store}

theorem judgedBy_of_mem_batch {inputs : List Input} {result : TrialResult}
    (member : result ∈ engine.batch readings implementation behavior seed inputs) :
    result.JudgedBy engine.settings.policy := by
  obtain ⟨position, bound, rfl⟩ := List.mem_mapIdx.1 member
  exact engine.judge_judgedBy ..

theorem verifyForMutation_success_iff
    (known : engine.domain.behavior? name = some behavior)
    (prepared : seedStore implementation = .ok seed) {inputs : List Input}
    (given : inputs ≠ []) :
    ∃ results mutation,
      engine.verifyInputs readings implementation name inputs
        (fun _ => false) = .ok results ∧
      engine.verifyForMutation readings implementation name inputs = .ok mutation ∧
      results.length = inputs.length ∧
      (mutation.success = true ↔
        ∃ worst, TrialResult.FirstOfLeast results worst ∧ worst.verdict = .verified) ∧
      ((∀ result ∈ results, 201 * result.checks.length < UInt64.size) →
        (mutation.success = true ↔
          (∀ result ∈ results, result.verdict = .verified) ∨
            TrialResult.Masked results)) := by
  have ran := engine.verifyInputs_of_behavior readings known prepared inputs
  have judged : ∀ result ∈ engine.batch readings implementation behavior seed inputs,
      result.JudgedBy engine.settings.policy :=
        fun _ member => engine.judgedBy_of_mem_batch readings member
  have length : (engine.batch readings implementation behavior seed inputs).length =
      inputs.length :=
    List.length_mapIdx
  generalize engine.batch readings implementation behavior seed inputs =
    results at ran judged length
  cases found : TrialResult.weakest? results with
  | none =>
      have nothing := TrialResult.weakest?_eq_none_iff.1 found
      rw [nothing] at length
      exact absurd (List.eq_nil_of_length_eq_zero length.symm) given
  | some worst =>
      have success : worst.success = true ↔ worst.verdict = .verified :=
        (judged worst (TrialResult.mem_of_weakest? found)).success
      refine ⟨results, worst.toMutationResult, ran, ?_, length, success.trans ?_, ?_⟩
      · simp [verifyForMutation, given, ran, found]
      · simp [← TrialResult.weakest?_eq_some_iff, found]
      · intro fits
        exact success.trans (TrialResult.weakest?_verified_iff judged fits found)

end Batch

def fiveLess : Input :=
  { category := .invalid, name := "minus five",
    values := .ofFields [("amount", .integer (-5))] }

/-- The second trial fails two of its three clauses, so the test does not succeed. -/
theorem verifyForMutation_success_iff_fiveLess :
    counting.domain.behavior? "Increment" = some increment ∧
      seedStore incrementing = .ok .empty ∧
      ∃ mutation,
        counting.verifyForMutation (fun _ => { now := ⟨0, 0⟩ }) incrementing "Increment"
          [fiveMore, fiveLess] = .ok mutation ∧
        mutation.success = false := by
  have known : counting.domain.behavior? "Increment" = some increment := rfl
  have prepared : seedStore incrementing = .ok .empty := rfl
  obtain ⟨results, mutation, ran, tested, -, -, success⟩ :=
    counting.verifyForMutation_success_iff (fun _ => { now := ⟨0, 0⟩ }) known prepared
      (List.cons_ne_nil fiveMore [fiveLess])
  have trials := ran.symm.trans (counting.verifyInputs_of_behavior _ known prepared _)
  cases trials
  refine ⟨known, prepared, mutation, tested, ?_⟩
  rw [← Bool.not_eq_true, success (by decide)]
  rintro (all | masked)
  · exact absurd all (by decide)
  · exact absurd masked.rounded (by decide)

def ping : Behavior where
  name := "Ping"
  postconditions := [⟨.success, [.literal (.bool true)]⟩]

def pinging : Engine where
  domain := { name := "Network", behaviors := [ping] }
  settings := { policy := { vacuous := .dangerous } }

def answering : Implementation where
  execute := fun _ input store =>
    match input.get? "down" with
    | some (.bool true) =>
        .finished (.failed { code := "DOWN", message := "no answer" }) store
    | _ => .finished (.ok .null) store

def pingInput (down : Bool) : Input :=
  { category := .valid, name := "ping", values := .ofFields [("down", .bool down)] }

/-- No clause speaks about the failure. Its trial scores one hundred like the
verified trial before it, which is the one that counts. -/
theorem verifyForMutation_success_with_killed_trial :
    create pinging.domain pinging.settings = .ok pinging ∧
      ∃ results mutation,
        pinging.verifyInputs (fun _ => { now := ⟨0, 0⟩ }) answering "Ping"
          [pingInput false, pingInput true] (fun _ => false) = .ok results ∧
        pinging.verifyForMutation (fun _ => { now := ⟨0, 0⟩ }) answering "Ping"
          [pingInput false, pingInput true] = .ok mutation ∧
        mutation.success = true ∧ ∃ killed ∈ results, killed.verdict = .dangerous := by
  refine ⟨rfl, _, _, rfl, rfl, ?_, ?_⟩
  · decide
  · decide

end Engine

end BehaviorContract
