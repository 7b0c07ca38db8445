import BehaviorContract.Json.Token

namespace BehaviorContract.Json

def maxDepth : Nat := 127

/-- An open container. What has been read of it is kept in reverse. -/
inductive Frame where
  | array (items : List Json)
  | object (entries : List (String × Json)) (intact : Bool) (key : Option String)

inductive Place where
  | value
  | firstItem
  | firstKey
  | key
  | colon
  | separator
  deriving DecidableEq

structure Reader where
  frames : List Frame
  place : Place
  root : Option Json

def Frame.close : Frame → Json
  | .array items => .array items.reverse
  | .object entries intact _ => if intact then .object entries.reverse else .unreadable

namespace Reader

def deliver (frames : List Frame) (value : Json) : Reader :=
  match frames with
  | [] => ⟨[], .separator, some value⟩
  | .array items :: rest => ⟨.array (value :: items) :: rest, .separator, none⟩
  | .object entries intact (some key) :: rest =>
      ⟨.object ((key, value) :: entries) intact none :: rest, .separator, none⟩
  | .object entries _ none :: rest =>
      ⟨.object entries false none :: rest, .separator, none⟩

/-- Closes the innermost container. One that stands too deep has no value. -/
def close (frame : Frame) (rest : List Frame) : Reader :=
  deliver rest (if rest.length < maxDepth then frame.close else .unreadable)

def step (reader : Reader) (token : Token) : Option Reader :=
  let valueMayCome := reader.place == .value || reader.place == .firstItem
  match token, reader.frames with
  | .openArray, frames =>
      if valueMayCome then some ⟨.array [] :: frames, .firstItem, none⟩ else none
  | .openObject, frames =>
      if valueMayCome then some ⟨.object [] true none :: frames, .firstKey, none⟩
      else none
  | .closeArray, .array items :: rest =>
      if reader.place = .firstItem ∨ reader.place = .separator then
        some (close (.array items) rest) else none
  | .closeObject, .object entries intact key :: rest =>
      if reader.place = .firstKey ∨ reader.place = .separator then
        some (close (.object entries intact key) rest)
      else none
  | .comma, .array items :: rest =>
      if reader.place = .separator then some ⟨.array items :: rest, .value, none⟩
      else none
  | .comma, .object entries intact key :: rest =>
      if reader.place = .separator then
        some ⟨.object entries intact key :: rest, .key, none⟩ else none
  | .colon, frames =>
      if reader.place = .colon then some ⟨frames, .value, none⟩ else none
  | .text content, .object entries intact key :: rest =>
      if reader.place = .firstKey ∨ reader.place = .key then
        some ⟨.object entries intact content :: rest, .colon, none⟩
      else if valueMayCome then
        some (deliver (.object entries intact key :: rest)
          (content.elim .unreadable .text))
      else none
  | .text content, frames =>
      if valueMayCome then some (deliver frames (content.elim .unreadable .text))
      else none
  | .atom value, frames =>
      if valueMayCome then some (deliver frames value) else none
  | _, _ => none

end Reader

def ofTokens? (tokens : List Token) : Option Json :=
  (tokens.foldlM Reader.step ⟨[], .value, none⟩).bind fun reader =>
    if reader.frames.isEmpty then reader.root else none

def parse? (text : String) : Option Json :=
  (scan text.toList).bind ofTokens?

end BehaviorContract.Json
