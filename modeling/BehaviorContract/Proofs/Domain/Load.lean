import BehaviorContract.Domain.Json
import BehaviorContract.Proofs.Domain.Json
import BehaviorContract.Proofs.Json.Read

namespace BehaviorContract.Domain

theorem parse_eq_ok_iff {text : String} {domain : Domain} :
    parse text = .ok domain ↔
      (∃ json, Json.parse? text = some json ∧ ofJson? json = some domain) ∧
        domain.validate = .ok () := by
  rw [← Option.bind_eq_some_iff, parse]
  split
  · rename_i unread
    simp [unread]
  · rename_i found isFound
    rw [isFound, Option.some.injEq]
    constructor
    · intro isOk
      split at isOk
      · cases isOk
      · rename_i valid
        cases isOk
        exact ⟨rfl, valid⟩
    · intro holds
      rw [holds.1, holds.2]

section Loaded

variable {text : String} {domain : Domain} (loaded : parse text = .ok domain)
  (free : domain.floatFree = true)

include loaded free

theorem parse?_compact_of_loaded :
    Json.parse? domain.toJson.compact = some domain.toJson := by
  obtain ⟨⟨json, isJson, reads⟩, -⟩ := parse_eq_ok_iff.1 loaded
  have shallow := (depth_le_and_read reads).1
  have within := Json.depth_le_of_parse? isJson
  apply Json.parse?_compact (legible_toJson free)
  rw [Json.maxDepth] at within ⊢
  omega

theorem parse_compact_of_loaded : parse domain.toJson.compact = .ok domain := by
  obtain ⟨⟨json, -, reads⟩, valid⟩ := parse_eq_ok_iff.1 loaded
  have read := (depth_le_and_read reads).2
  exact parse_eq_ok_iff.2 ⟨⟨_, parse?_compact_of_loaded loaded free,
    ofJson?_toJson read free⟩, valid⟩

end Loaded

/-- Writing a loaded domain and loading it again gives the domain with its
digest, and no other one has its text. -/
theorem parse_compact_eq_self {text : String} {domain : Domain}
    (loaded : parse text = .ok domain) (free : domain.floatFree = true) :
    parse domain.toJson.compact = .ok domain ∧
      (parse domain.toJson.compact).map fingerprint = .ok domain.fingerprint ∧
      ∀ otherText other, parse otherText = .ok other → other.floatFree = true →
        other ≠ domain →
        other.toJson.compact ≠ domain.toJson.compact := by
  have again := parse_compact_of_loaded loaded free
  refine ⟨again, by rw [again]; rfl, ?_⟩
  intro otherText other otherLoaded otherFree different sameText
  have otherAgain := parse_compact_of_loaded otherLoaded otherFree
  rw [sameText, again] at otherAgain
  exact different (Except.ok.inj otherAgain).symm

def lucky : Domain where
  name := "D"
  invariants := [⟨"lucky", none, [.literal (.integer 7)]⟩]

/-- The same domain, with every record as an array of its fields. -/
def luckyFields : Json :=
  .array [.text "D", .text "", .array [], .array [],
    .array [.array [.text "lucky", .null, .array [.array [.text "literal", .integer 7]]]]]

theorem parse_compact_eq_self_lucky :
    luckyFields.compact = "[\"D\",\"\",[],[],[[\"lucky\",null,[[\"literal\",7]]]]]" ∧
      parse luckyFields.compact = .ok lucky ∧ lucky.floatFree = true ∧
        parse lucky.toJson.compact = .ok lucky := by
  have legible : luckyFields.Legible := by
    have seven : (Number.integer 7).ReadsBack :=
      Number.readsBack_integer (by decide) (by decide)
    simp [luckyFields, Json.Legible, Json.LegibleItems, Json.integer, seven]
  have loaded : parse luckyFields.compact = .ok lucky :=
    parse_eq_ok_iff.2 ⟨⟨luckyFields, Json.parse?_compact legible (by decide), rfl⟩, rfl⟩
  exact ⟨by decide, loaded, by decide, (parse_compact_eq_self loaded (by decide)).1⟩

end BehaviorContract.Domain
