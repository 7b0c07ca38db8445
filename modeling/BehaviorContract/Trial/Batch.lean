import BehaviorContract.Trial.Engine

namespace BehaviorContract.Engine

def seedStore (implementation : Implementation) : Except Failure Store :=
  (implementation.setup .empty).mapError Failure.duringSetup

/-- The results of trials without those that were called off. -/
def settled : List (Except Failure TrialResult) → Except Failure (List TrialResult)
  | [] => .ok []
  | .ok result :: rest => (settled rest).map (result :: ·)
  | .error .cancelled :: rest => settled rest
  | .error failure :: _ => .error failure

/-- Runs a trial for each input, every time from the prepared instances.
Positions tell which trials are called off and what each trial reads. -/
def verifyInputs (engine : Engine) (readings : Nat → Readings)
    (implementation : Implementation) (name : String) (inputs : List Input)
    (cancelled : Nat → Bool) : Except Failure (List TrialResult) :=
  match engine.behavior name, seedStore implementation with
  | .error failure, _ => .error failure
  | .ok _, .error failure => .error failure
  | .ok _, .ok seed =>
      let start : Store := { Store.empty with instances := seed.instances }
      settled (inputs.mapIdx fun position input =>
        engine.runTrial (readings position) implementation name input start
          (cancelled position))

def verify (engine : Engine) (readings : Nat → Readings) (implementation : Implementation)
    (name : String) (provide : Behavior → List Input) :
    Except Failure (List TrialResult) :=
  match engine.behavior name with
  | .error failure => .error failure
  | .ok behavior =>
      engine.verifyInputs readings implementation name (provide behavior) fun _ => false

end BehaviorContract.Engine
