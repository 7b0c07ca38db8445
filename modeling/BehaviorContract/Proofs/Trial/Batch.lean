import BehaviorContract.Proofs.Store.Freshness
import BehaviorContract.Proofs.Store.Refinement
import BehaviorContract.Proofs.Trial.Verdict
import BehaviorContract.Trial.Batch

/-! Batches and single trials. Every trial of a batch starts from the prepared
instances, but its ids are generated from one on again: a batch gives the
results of trials that start from the prepared store itself exactly as far as
these do not depend on how many ids the preparation has generated. -/

namespace BehaviorContract

/-- Says that two runs report the same and leave the same instances. -/
structure Run.Agrees (left right : Run) : Prop where
  execution : ∀ timeoutMs measured,
    left.execution timeoutMs measured = right.execution timeoutMs measured
  instances : left.store.instances = right.store.instances

namespace Store

theorem create_unnamed (store : Store) (entity : String) :
    (store.create entity ∅).1 =
      .error (.duplicate entity (generatedId entity (store.lastId + 1))) ∨
      ∃ fields, (store.create entity ∅).1 =
        .ok ⟨generatedId entity (store.lastId + 1), entity, fields⟩ := by
  have chosen : store.chosenId? entity ∅ = some (generatedId entity (store.lastId + 1)) :=
    rfl
  cases held : store.instances.find? entity (generatedId entity (store.lastId + 1)) with
  | none =>
      rw [store.create_of_free chosen held]
      exact .inr ⟨_, rfl⟩
  | some old =>
      rw [store.create_of_held chosen (by simp [held])]
      exact .inl rfl

def restarted (store : Store) : Store :=
  { store with lastId := 0 }

theorem restarted_eq_self {store : Store} (fresh : store.lastId = 0) :
    store.restarted = store := by
  rw [restarted, ← fresh]

end Store

theorem StoreError.duplicate_message_inj {entity first second : String}
    (same : (duplicate entity first).message = (duplicate entity second).message) :
    first = second := by
  have quoted := (String.append_left_inj _).1 same
  exact (String.append_right_inj _).1 quoted

namespace Engine

theorem settled_map_ok (results : List TrialResult) :
    settled (results.map .ok) = .ok results := by
  induction results with
  | nil => rfl
  | cons result rest induction =>
      rw [List.map_cons, settled, induction]
      rfl

section Batch

variable (engine : Engine) (readings : Nat → Readings) {implementation : Implementation}
  {name : String} {behavior : Behavior} {seed : Store}

def batch (implementation : Implementation) (behavior : Behavior) (seed : Store)
    (inputs : List Input) : List TrialResult :=
  inputs.mapIdx fun position input =>
    let start : Store := { Store.empty with instances := seed.instances }
    engine.judge (readings position) behavior input start
      (implementation.execute behavior input.values start)

theorem verifyInputs_of_behavior (known : engine.domain.behavior? name = some behavior)
    (prepared : seedStore implementation = .ok seed) (inputs : List Input) :
    engine.verifyInputs readings implementation name inputs (fun _ => false) =
      .ok (engine.batch readings implementation behavior seed inputs) := by
  simp only [verifyInputs, Engine.behavior, known, prepared,
    engine.runTrial_of_behavior _ implementation known]
  rw [batch, ← settled_map_ok, List.mapIdx_eq_zipIdx_map,
    List.mapIdx_eq_zipIdx_map, List.map_map]
  rfl

end Batch

theorem judge_congr (engine : Engine) (readings : Readings) (behavior : Behavior)
    (input : Input) {before otherBefore : Store} {run otherRun : Run}
    (sameStart : before.instances = otherBefore.instances)
    (agrees : run.Agrees otherRun) :
    engine.judge readings behavior input before run =
      engine.judge readings behavior input otherBefore otherRun := by
  simp only [judge, contextBefore, contextAfter, Store.diff, Store.snapshot, sameStart,
    agrees.execution, agrees.instances]

/-- Says that a batch succeeds with the results of single trials that start from
a store, in the order of the inputs. -/
def MatchesTrials (engine : Engine) (readings : Nat → Readings)
    (implementation : Implementation) (name : String) (inputs : List Input)
    (start : Store) : Prop :=
  ∃ results,
    engine.verifyInputs readings implementation name inputs
    (fun _ => false) = .ok results ∧
    results.map .ok = inputs.mapIdx fun position input =>
      engine.runTrial (readings position) implementation name input start false

theorem MatchesTrials.iff_runTrial_eq {engine : Engine} {readings : Nat → Readings}
    {implementation : Implementation} {name : String} {inputs : List Input}
    {start : Store} (fromStart :
      engine.MatchesTrials readings implementation name inputs start) (other : Store) :
    engine.MatchesTrials readings implementation name inputs other ↔
      ∀ position (inside : position < inputs.length),
        engine.runTrial (readings position) implementation name
          inputs[position] start false =
          engine.runTrial (readings position) implementation name inputs[position]
            other false := by
  obtain ⟨results, ran, trials⟩ := fromStart
  constructor
  · rintro ⟨others, ranAgain, otherTrials⟩
    cases ran.symm.trans ranAgain
    exact List.mapIdx_eq_mapIdx_iff.1 (trials.symm.trans otherTrials)
  · intro same
    exact ⟨results, ran, trials.trans (List.mapIdx_eq_mapIdx_iff.2 same)⟩

section Trials

variable (engine : Engine) {name : String} {behavior : Behavior}
  {setup : Store → Except Failure Store} {seed : Store}

theorem matchesTrials_restarted (known : engine.domain.behavior? name = some behavior)
    (prepared : setup .empty = .ok seed) (execute : Behavior → Value → Store → Run)
    (readings : Nat → Readings) (inputs : List Input) :
    engine.MatchesTrials readings { setup, execute } name inputs seed.restarted := by
  have seeded : seedStore { setup, execute } = .ok seed := by
    simp only [seedStore, prepared]
    rfl
  refine ⟨_, engine.verifyInputs_of_behavior readings known seeded inputs, ?_⟩
  simp only [engine.runTrial_of_behavior _ _ known]
  rw [batch, List.mapIdx_eq_zipIdx_map, List.mapIdx_eq_zipIdx_map, List.map_map]
  rfl

theorem matchesTrials_of_agrees (known : engine.domain.behavior? name = some behavior)
    (prepared : setup .empty = .ok seed) {execute : Behavior → Value → Store → Run}
    (readings : Nat → Readings) {inputs : List Input} (agrees : ∀ input ∈ inputs,
      (execute behavior input.values seed.restarted).Agrees
        (execute behavior input.values seed)) :
    engine.MatchesTrials readings { setup, execute } name inputs seed := by
  apply ((engine.matchesTrials_restarted known prepared execute readings
    inputs).iff_runTrial_eq seed).2
  intro position inside
  rw [engine.runTrial_of_behavior _ _ known, engine.runTrial_of_behavior _ _ known]
  exact congrArg Except.ok (engine.judge_congr _ behavior _ rfl
    (agrees _ (List.getElem_mem inside)))

end Trials

def announced : Except StoreError Instance → Execution
  | .ok new => .ok (.text new.id)
  | .error error => .failed { code := "STORE_ERROR", message := error.message }

def creating (_ : Behavior) (_ : Value) (store : Store) : Run :=
  .finished (announced (store.create "Session" ∅).1) (store.create "Session" ∅).2

theorem lastId_eq_of_announced {first second : Store}
    (sameResult : (announced (first.create "Session" ∅).1).result =
      (announced (second.create "Session" ∅).1).result)
    (sameError : (announced (first.create "Session" ∅).1).error =
      (announced (second.create "Session" ∅).1).error) :
    first.lastId = second.lastId := by
  rcases first.create_unnamed "Session" with refused | ⟨_, created⟩ <;>
    rcases second.create_unnamed "Session" with alsoRefused | ⟨_, alsoCreated⟩
  · rw [refused, alsoRefused] at sameError
    have messages := congrArg ExecutionError.message (Option.some.inj sameError)
    exact (UInt64.add_left_inj 1).1
      (Store.generatedId_inj (StoreError.duplicate_message_inj messages))
  · rw [refused, alsoCreated] at sameResult
    cases sameResult
  · rw [created, alsoRefused] at sameResult
    cases sameResult
  · rw [created, alsoCreated] at sameResult
    have ids := Value.text.inj (Option.some.inj sameResult)
    exact (UInt64.add_left_inj 1).1 (Store.generatedId_inj ids)

theorem lastId_eq_of_judge_creating (engine : Engine) (readings : Readings)
    (behavior : Behavior) (input : Input) {first second : Store}
    (same : engine.judge readings behavior input first
      (creating behavior input.values first) = engine.judge readings behavior input second
        (creating behavior input.values second)) :
    first.lastId = second.lastId := by
  have reports := congrArg TrialResult.execution same
  apply lastId_eq_of_announced
  · have results := congrArg Execution.result reports
    rwa [judge, judge, creating, creating, Run.execution_finished, Run.execution_finished]
      at results
  · have errors := congrArg Execution.error reports
    rwa [judge, judge, creating, creating, Run.execution_finished, Run.execution_finished]
      at errors

theorem lastId_eq_zero_of_matchesTrials_creating (engine : Engine) {name : String}
    {behavior : Behavior} (known : engine.domain.behavior? name = some behavior)
    {setup : Store → Except Failure Store} {seed : Store}
    (prepared : setup .empty = .ok seed) {readings : Nat → Readings} {input : Input}
    (matched : engine.MatchesTrials readings { setup, execute := creating } name [input]
      seed) : seed.lastId = 0 := by
  have restarted :=
    engine.matchesTrials_restarted known prepared creating readings [input]
  have single := (restarted.iff_runTrial_eq seed).1 matched 0 Nat.one_pos
  rw [engine.runTrial_of_behavior _ _ known,
    engine.runTrial_of_behavior _ _ known] at single
  exact (engine.lastId_eq_of_judge_creating _ behavior _ (Except.ok.inj single)).symm

/-- A batch gives the results of trials that start from the prepared instances
with no id generated. These are the results of trials on the prepared store
wherever the implementation does the same on both, and whatever it does exactly
if the preparation has generated no id. -/
theorem verifyInputs_matches_trials_iff (engine : Engine) {name : String}
    {behavior : Behavior} (known : engine.domain.behavior? name = some behavior)
    {setup : Store → Except Failure Store} {seed : Store}
    (prepared : setup .empty = .ok seed) :
    (∀ execute readings inputs,
      engine.MatchesTrials readings { setup, execute } name inputs seed.restarted) ∧
      (∀ execute readings inputs,
        (∀ input ∈ inputs,
          (execute behavior input.values seed.restarted).Agrees
            (execute behavior input.values seed)) →
        engine.MatchesTrials readings { setup, execute } name inputs seed) ∧
      ((∀ execute readings inputs,
        engine.MatchesTrials readings { setup, execute } name inputs seed) ↔
        seed.lastId = 0) := by
  have restarted := engine.matchesTrials_restarted known prepared
  refine ⟨restarted, fun _ readings _ agrees =>
    engine.matchesTrials_of_agrees known prepared readings agrees, ?_, ?_⟩
  · intro matchesAll
    have matched := matchesAll creating (fun _ => { now := ⟨0, 0⟩ }) [.empty]
    exact engine.lastId_eq_zero_of_matchesTrials_creating known prepared matched
  · intro fresh
    rw [← Store.restarted_eq_self fresh]
    exact restarted

def preparing (store : Store) : Except Failure Store :=
  .ok (store.create "Session" ∅).2

def oneSession : Store :=
  (Store.empty.create "Session" ∅).2

theorem verifyInputs_matches_trials_oneSession :
    counting.domain.behavior? "Increment" = some increment ∧
      preparing .empty = .ok oneSession ∧
      oneSession.lastId = 1 ∧
      counting.MatchesTrials (fun _ => { now := ⟨0, 0⟩ })
        { setup := preparing, execute := creating } "Increment"
        [fiveMore, fiveMore] oneSession.restarted ∧
      counting.MatchesTrials (fun _ => { now := ⟨0, 0⟩ })
        { setup := preparing, execute := fun _ _ store =>
          .finished (.ok (.integer 5)) store } "Increment"
        [fiveMore, fiveMore] oneSession ∧
      ¬ ∀ execute readings inputs,
        counting.MatchesTrials readings { setup := preparing, execute } "Increment"
          inputs oneSession := by
  have known : counting.domain.behavior? "Increment" = some increment := rfl
  have prepared : preparing .empty = .ok oneSession := rfl
  obtain ⟨fromRestarted, ofAgrees, iffFresh⟩ :=
    verifyInputs_matches_trials_iff counting known prepared
  refine ⟨known, prepared, rfl, fromRestarted .., ofAgrees _ _ _ ?_, ?_⟩
  · intro input _
    exact ⟨fun _ _ => rfl, rfl⟩
  · intro matchesAll
    exact absurd (iffFresh.1 matchesAll) (by decide)

/-- Alone the trial creates a second instance; in a batch it fails, since the id
of the first is generated again. -/
theorem verifyInputs_generates_a_taken_id :
    seedStore { setup := preparing, execute := creating } = .ok oneSession ∧
      (∃ alone,
        counting.runTrial { now := ⟨0, 0⟩ }
          { setup := preparing, execute := creating } "Increment" fiveMore
          oneSession false = .ok alone ∧
        alone.execution.result = some (.text "session-2") ∧
          alone.execution.error = none) ∧
      (∃ batched,
        counting.verifyInputs (fun _ => { now := ⟨0, 0⟩ })
          { setup := preparing, execute := creating } "Increment" [fiveMore]
          (fun _ => false) = .ok [batched] ∧
        batched.execution.result = none ∧
        batched.execution.error.map (·.message) =
          some "Session 'session-1' already exists") ∧
      ¬ counting.MatchesTrials (fun _ => { now := ⟨0, 0⟩ })
        { setup := preparing, execute := creating } "Increment"
        [fiveMore] oneSession := by
  have known : counting.domain.behavior? "Increment" = some increment := rfl
  refine ⟨rfl, ⟨_, counting.runTrial_of_behavior _ _ known fiveMore oneSession, ?_, ?_⟩,
    ⟨_, counting.verifyInputs_of_behavior _ known rfl [fiveMore], ?_, ?_⟩, ?_⟩
  · exact (congrArg Execution.result (Run.execution_finished ..)).trans rfl
  · exact (congrArg Execution.error (Run.execution_finished ..)).trans rfl
  · exact (congrArg Execution.result (Run.execution_finished ..)).trans rfl
  · exact (congrArg (·.error.map ExecutionError.message)
      (Run.execution_finished ..)).trans rfl
  · intro matched
    have prepared : preparing .empty = .ok oneSession := rfl
    exact absurd (counting.lastId_eq_zero_of_matchesTrials_creating known prepared
      matched) (by decide)

end Engine

end BehaviorContract
