import BehaviorContract.Clause.Json
import BehaviorContract.Proofs.Json.Record
import BehaviorContract.Proofs.Value.Json

namespace BehaviorContract

open FieldReader

theorem ClauseKind.ofText?_text (kind : ClauseKind) : ofText? kind.text = some kind := by
  cases kind <;> decide

namespace Value

def present? (value : Value) : Option Value :=
  if value.isNull then none else some value

theorem orNull_toJson {value : Value} (free : value.floatFree = true) :
    orNull ofJson? value.toJson = some value.present? := by
  have reads := ofJson?_toJson free
  cases value with
  | null => rfl
  | float value => cases free
  | _ =>
      rw [toJson] at reads ⊢
      rw [orNull, reads]
      · rfl
      · intro same
        cases same

end Value

namespace Check

def floatFree (check : Check) : Bool :=
  check.expected.all Value.floatFree && check.actual.all Value.floatFree

/-- The check in which no null stands for a value. -/
def withoutNulls (check : Check) : Check :=
  { check with
    expected := check.expected.bind Value.present?
    actual := check.actual.bind Value.present? }

variable {check : Check}

/-- Every field stands once, or not at all where there is nothing to write. -/
theorem entriesAt_of_toJson {entries : List (String × Json)}
    (written : check.toJson = .object entries) :
    Json.entriesAt "type" entries = [check.kind.toJson] ∧
      Json.entriesAt "name" entries = [.text check.name] ∧
      Json.entriesAt "expression" entries = [.text check.expression] ∧
      Json.entriesAt "passed" entries = [.bool check.passed] ∧
      Json.entriesAt "expected" entries = (check.expected.map Value.toJson).toList ∧
      Json.entriesAt "actual" entries = (check.actual.map Value.toJson).toList ∧
      Json.entriesAt "error" entries = (check.error.map Json.text).toList ∧
      Json.entriesAt "duration_ms" entries = [.float check.milliseconds] := by
  cases written
  simp [Json.entriesAt_cons, Json.entriesAt_nil, Json.entriesAt_append,
    Json.entriesAt_entryOfOption]

theorem ofJson?_toJson (free : check.floatFree = true)
    (finite : check.milliseconds.isFinite = true) :
    ofJson? check.toJson = some check.withoutNulls := by
  rw [floatFree, Bool.and_eq_true, Option.all_eq_true, Option.all_eq_true] at free
  obtain ⟨entries, written⟩ : ∃ entries, check.toJson = .object entries := ⟨_, rfl⟩
  obtain ⟨kind, name, expression, passed, expected, actual, error, duration⟩ :=
    entriesAt_of_toJson written
  have ofError : Finds entries (FieldReader.optional "error" Json.text?)
      (check.error.bind some) :=
    finds_entryOfOption error fun _ _ => rfl
  rw [Option.bind_fun_some] at ofError
  rw [written]
  apply Json.decodeRecord_of_finds
  apply (finds_required kind check.kind.ofText?_text).bind
  apply (finds_required name (by rfl)).bind
  apply (finds_required expression (by rfl)).bind
  apply (finds_required passed (by rfl)).bind
  apply (finds_entryOfOption expected fun value mem =>
    Value.orNull_toJson (free.1 value mem)).bind
  apply (finds_entryOfOption actual fun value mem =>
    Value.orNull_toJson (free.2 value mem)).bind
  apply ofError.bind
  rw [Json.float, if_pos finite] at duration
  apply (finds_defaulted duration (by rfl)).bind
  exact finds_pure _

theorem legible_toJson (free : check.floatFree = true)
    (duration : check.milliseconds.isFinite = true →
      (Number.float check.milliseconds).ReadsBack) : check.toJson.Legible := by
  rw [floatFree, Bool.and_eq_true, Option.all_eq_true, Option.all_eq_true] at free
  rw [toJson, Json.Legible]
  simp only [Json.legibleEntries_append]
  refine ⟨⟨⟨⟨?_, ?_⟩, ?_⟩, ?_⟩, ?_⟩
  · exact ⟨trivial, trivial, trivial, trivial, trivial⟩
  · exact Json.legible_entryOfOption fun value mem =>
      Value.legible_toJson (free.1 value mem)
  · exact Json.legible_entryOfOption fun value mem =>
      Value.legible_toJson (free.2 value mem)
  · exact Json.legible_entryOfOption fun _ _ => trivial
  · refine ⟨?_, trivial⟩
    unfold Json.float
    split
    · rename_i finite
      exact duration finite
    · trivial

end Check

end BehaviorContract
