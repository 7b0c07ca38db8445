import BehaviorContract.Trial.Batch

namespace BehaviorContract

open FieldReader

structure MutationResult where
  success : Bool
  verdict : Verdict
  score : UInt8
  preconditions : List Check
  postconditions : List Check
  invariants : List Check

namespace MutationResult

def checks (result : MutationResult) : List Check :=
  result.preconditions ++ result.postconditions ++ result.invariants

def ofJson? : Json → Option MutationResult :=
  Json.decodeRecord do
    let success ← required "success" Json.bool?
    let verdict ← required "verdict" Verdict.ofJson?
    let score ← required "score" Json.uint8?
    let preconditions ← required "preconditions" (Json.list? Check.ofJson?)
    let postconditions ← required "postconditions" (Json.list? Check.ofJson?)
    let invariants ← required "invariants" (Json.list? Check.ofJson?)
    return { success, verdict, score, preconditions, postconditions, invariants }

def toJson (result : MutationResult) : Json :=
  .object [("success", .bool result.success), ("verdict", result.verdict.toJson),
    ("score", .integer result.score.toNat),
    ("preconditions", .array (result.preconditions.map Check.toJson)),
    ("postconditions", .array (result.postconditions.map Check.toJson)),
    ("invariants", .array (result.invariants.map Check.toJson))]

end MutationResult

namespace TrialResult

def toMutationResult (result : TrialResult) : MutationResult where
  success := result.success
  verdict := result.verdict
  score := result.score
  preconditions := result.preconditions
  postconditions := result.postconditions
  invariants := result.invariants

/-- The first result of the least score. -/
def weakest? : List TrialResult → Option TrialResult
  | [] => none
  | result :: rest =>
      match weakest? rest with
      | some other => if other.score < result.score then some other else some result
      | none => some result

end TrialResult

/-- Runs the trials of a mutation test, of which the weakest counts. Without
inputs there is one trial with the empty input. -/
def Engine.verifyForMutation (engine : Engine) (readings : Nat → Readings)
    (implementation : Implementation) (name : String) (inputs : List Input) :
    Except Failure MutationResult :=
  let inputs := if inputs.isEmpty then [Input.empty] else inputs
  match engine.verifyInputs readings implementation name inputs fun _ => false with
  | .error failure => .error failure
  | .ok results =>
      match TrialResult.weakest? results with
      | some result => .ok result.toMutationResult
      | none => .error .cancelled

end BehaviorContract
