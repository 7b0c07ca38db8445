import BehaviorContract.Proofs.Clause.Json
import BehaviorContract.Proofs.Json.Read
import BehaviorContract.Trial.Mutation

namespace BehaviorContract

open FieldReader

theorem Verdict.ofText?_text (verdict : Verdict) :
    ofText? verdict.text = some verdict := by
  cases verdict <;> decide

theorem Json.uint8?_toNat (value : UInt8) :
    (Json.integer value.toNat).uint8? = some value := by
  have below := value.toNat_lt
  rw [Json.uint8?, Json.integer, Json.intWithin?, if_pos (by omega)]
  simp

namespace MutationResult

/-- The result in which no null stands for a value of a check. -/
def withoutNulls (result : MutationResult) : MutationResult :=
  { result with
    preconditions := result.preconditions.map Check.withoutNulls
    postconditions := result.postconditions.map Check.withoutNulls
    invariants := result.invariants.map Check.withoutNulls }

theorem list?_checks {checks : List Check}
    (free : ∀ check ∈ checks, check.floatFree = true)
    (finite : ∀ check ∈ checks, check.milliseconds.isFinite = true) :
    (Json.array (checks.map Check.toJson)).list? Check.ofJson? =
      some (checks.map Check.withoutNulls) :=
  Json.list?_map fun check mem => check.ofJson?_toJson (free check mem) (finite check mem)

variable (result : MutationResult)
  (free : ∀ check ∈ result.checks, check.floatFree = true)

include free

theorem ofJson?_toJson (finite : ∀ check ∈ result.checks,
      check.milliseconds.isFinite = true) :
    ofJson? result.toJson = some result.withoutNulls := by
  simp only [checks, List.forall_mem_append] at free finite
  obtain ⟨⟨ofPreconditions, ofPostconditions⟩, ofInvariants⟩ := free
  obtain ⟨⟨finitePreconditions, finitePostconditions⟩, finiteInvariants⟩ := finite
  apply Json.decodeRecord_of_finds
  apply (finds_required (by rfl) (by rfl)).bind
  apply (finds_required (by rfl) result.verdict.ofText?_text).bind
  apply (finds_required (by rfl) (Json.uint8?_toNat result.score)).bind
  apply (finds_required (by rfl) (list?_checks ofPreconditions finitePreconditions)).bind
  apply (finds_required (by rfl)
    (list?_checks ofPostconditions finitePostconditions)).bind
  apply (finds_required (by rfl) (list?_checks ofInvariants finiteInvariants)).bind
  exact finds_pure _

theorem legible_toJson
    (durations : ∀ check ∈ result.checks, check.milliseconds.isFinite = true →
      (Number.float check.milliseconds).ReadsBack) : result.toJson.Legible := by
  have legible : ∀ check ∈ result.checks, check.toJson.Legible := fun check mem =>
    check.legible_toJson (free check mem) (durations check mem)
  simp only [checks, List.forall_mem_append] at legible
  obtain ⟨⟨ofPreconditions, ofPostconditions⟩, ofInvariants⟩ := legible
  have score : (Number.integer result.score.toNat).ReadsBack := by
    have below := result.score.toNat_lt
    exact Number.readsBack_integer (by omega) (by omega)
  exact ⟨trivial, trivial, score, Json.legible_map ofPreconditions,
    Json.legible_map ofPostconditions, Json.legible_map ofInvariants, trivial⟩

end MutationResult

namespace TrialResult

end TrialResult

end BehaviorContract
