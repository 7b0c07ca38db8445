import BehaviorContract.Json.Reader
import BehaviorContract.Proofs.Json.Scan

/-! Reading back what was written. The tokens of a value, taken wherever a value
may come, give the value to the innermost open container; so a written text
reads as the value that it was written from, unless that is nested too deep. -/

namespace BehaviorContract.Json

namespace Reader

/-- Says that a reader comes to another one over some tokens. -/
def Reads (reader : Reader) (tokens : List Token) (next : Reader) : Prop :=
  tokens.foldlM step reader = some next

theorem Reads.nil (reader : Reader) : reader.Reads [] reader := rfl

theorem Reads.cons {reader between next : Reader} {token : Token} {tokens : List Token}
    (first : reader.step token = some between) (later : between.Reads tokens next) :
    reader.Reads (token :: tokens) next := by
  rw [Reads, List.foldlM_cons, first]
  exact later

theorem Reads.append {reader between next : Reader} {tokens others : List Token}
    (first : reader.Reads tokens between) (later : between.Reads others next) :
    reader.Reads (tokens ++ others) next := by
  rw [Reads, List.foldlM_append, show tokens.foldlM step reader = some between from first]
  exact later

def TakesValue (place : Place) : Prop :=
  place = .value ∨ place = .firstItem

section Values

variable {frames : List Frame} {place : Place} (takes : TakesValue place)

include takes

theorem reads_atom (value : Json) :
    Reads ⟨frames, place, none⟩ [.atom value] (deliver frames value) := by
  apply Reads.cons ?_ (Reads.nil _)
  rcases takes with rfl | rfl <;> rfl

theorem reads_text (content : String) :
    Reads ⟨frames, place, none⟩ [.text (some content)]
      (deliver frames (.text content)) := by
  apply Reads.cons ?_ (Reads.nil _)
  rcases takes with rfl | rfl <;> rcases frames with _ | ⟨_ | _, _⟩ <;> rfl

theorem step_openArray : step ⟨frames, place, none⟩ .openArray =
    some ⟨.array [] :: frames, .firstItem, none⟩ := by
  rcases takes with rfl | rfl <;> rfl

theorem step_openObject :
    step ⟨frames, place, none⟩ .openObject =
      some ⟨.object [] true none :: frames, .firstKey, none⟩ := by
  rcases takes with rfl | rfl <;> rfl

end Values

theorem step_key {place : Place} (isKey : place = .firstKey ∨ place = .key)
    (before : List (String × Json)) (frames : List Frame) (key : String) :
    step ⟨.object before true none :: frames, place, none⟩ (.text (some key)) =
      some ⟨.object before true (some key) :: frames, .colon, none⟩ := by
  simp [step, isKey]

section Containers

variable {frames : List Frame} (room : frames.length < maxDepth) {place : Place}

include room

theorem reads_closeArray (items : List Json)
    (may : place = .firstItem ∨ place = .separator) :
    Reads ⟨.array items.reverse :: frames, place,
      none⟩ [.closeArray] (deliver frames (.array items)) := by
  apply Reads.cons ?_ (Reads.nil _)
  simp [step, may, close, room, Frame.close]

theorem reads_closeObject (entries : List (String × Json))
    (may : place = .firstKey ∨ place = .separator) :
    Reads ⟨.object entries.reverse true none :: frames, place, none⟩ [.closeObject]
      (deliver frames (.object entries)) := by
  apply Reads.cons ?_ (Reads.nil _)
  simp [step, may, close, room, Frame.close]

end Containers

end Reader

open Reader

-- By recursion on the value. Inside a container the frames are one more, which
-- the bound on the depth pays for.

mutual

theorem reads_tokens : ∀ (json : Json), json.Legible → ∀ (frames : List Frame),
    frames.length + json.depth ≤ maxDepth → ∀ place, TakesValue place →
      Reads ⟨frames, place, none⟩ json.tokens (deliver frames json)
  | .null, _, _, _, _, takes => reads_atom takes _
  | .bool _, _, _, _, _, takes => reads_atom takes _
  | .number _, _, _, _, _, takes => reads_atom takes _
  | .text _, _, _, _, _, takes => reads_text takes _
  | .unreadable, legible, _, _, _, _ => legible.elim
  | .array [], _, frames, room, place, takes => by
      rw [tokens]
      exact .cons (step_openArray takes) (reads_closeArray room [] (.inl rfl))
  | .array (item :: rest), legible, frames, room, place, takes => by
      rw [depth] at room
      have inside := reads_tokensOfItems (item :: rest) nofun legible [] frames (by omega)
        .firstItem (.inr rfl)
      rw [List.append_nil] at inside
      rw [tokens]
      exact .cons (step_openArray takes)
        (inside.append (reads_closeArray (by omega) _ (.inr rfl)))
  | .object [], _, frames, room, place, takes => by
      rw [tokens]
      exact .cons (step_openObject takes) (reads_closeObject room [] (.inl rfl))
  | .object (entry :: rest), legible, frames, room, place, takes => by
      rw [depth] at room
      have inside :=
        reads_tokensOfEntries (entry :: rest) nofun legible [] frames (by omega) .firstKey
        (.inl rfl)
      rw [List.append_nil] at inside
      rw [tokens]
      exact .cons (step_openObject takes)
        (inside.append (reads_closeObject (by omega) _ (.inr rfl)))

theorem reads_tokensOfItems : ∀ (items : List Json), items ≠ [] → LegibleItems items →
    ∀ (before : List Json) (frames : List Frame),
      frames.length + 1 + depthItems items ≤ maxDepth →
      ∀ place, TakesValue place →
        Reads ⟨.array before :: frames, place, none⟩ (tokensOfItems items)
          ⟨.array (items.reverse ++ before) :: frames, .separator, none⟩
  | [], notEmpty, _, _, _, _, _, _ => absurd rfl notEmpty
  | [item], _, legible, before, frames, room, place, takes => by
      rw [depthItems] at room
      exact reads_tokens item legible.1 (.array before :: frames)
        (by simp only [List.length_cons]; omega) place takes
  | item :: second :: others, _, legible, before, frames, room, place, takes => by
      rw [depthItems] at room
      have first := reads_tokens item legible.1 (.array before :: frames)
        (by simp only [List.length_cons]; omega) place takes
      have later := reads_tokensOfItems (second :: others) nofun legible.2
        (item :: before) frames (by omega) .value (.inl rfl)
      rw [tokensOfItems]
      · rw [List.reverse_cons, List.append_assoc]
        exact first.append (.cons rfl later)
      · nofun

theorem reads_tokensOfEntries :
    ∀ (entries : List (String × Json)), entries ≠ [] → LegibleEntries entries →
    ∀ (before : List (String × Json)) (frames : List Frame),
      frames.length + 1 + depthEntries entries ≤ maxDepth →
      ∀ place, place = .firstKey ∨ place = .key →
        Reads ⟨.object before true none :: frames, place, none⟩ (tokensOfEntries entries)
          ⟨.object (entries.reverse ++ before) true none :: frames, .separator, none⟩
  | [], notEmpty, _, _, _, _, _, _ => absurd rfl notEmpty
  | [(key, value)], _, legible, before, frames, room, place, isKey => by
      rw [depthEntries] at room
      have inside :=
        reads_tokens value legible.1 (.object before true (some key) :: frames)
        (by simp only [List.length_cons]; omega) .value (.inl rfl)
      rw [tokensOfEntries]
      exact Reads.cons (step_key isKey before frames key) (.cons rfl inside)
  | (key, value) :: second :: others, _, legible, before, frames, room, place, isKey => by
      rw [depthEntries] at room
      have inside :=
        reads_tokens value legible.1 (.object before true (some key) :: frames)
        (by simp only [List.length_cons]; omega) .value (.inl rfl)
      have later := reads_tokensOfEntries (second :: others) nofun legible.2
        ((key, value) :: before) frames (by omega) .key (.inr rfl)
      rw [tokensOfEntries]
      · rw [List.reverse_cons, List.append_assoc]
        exact Reads.cons (step_key isKey before frames key)
          (.cons rfl (inside.append (.cons rfl later)))
      · nofun

end

/-- A written text reads as the value that it was written from. -/
theorem parse?_compact {json : Json} (legible : json.Legible)
    (shallow : json.depth ≤ maxDepth) :
    parse? json.compact = some json := by
  have read := reads_tokens json legible [] (by simpa using shallow) .value (.inl rfl)
  rw [parse?, scan_compact legible, Option.bind_some, ofTokens?,
    show json.tokens.foldlM step _ = _ from read]
  rfl

end BehaviorContract.Json
