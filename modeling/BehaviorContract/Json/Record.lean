import BehaviorContract.Json.Basic

/-! Reading records. A record is written as an object, where keys that are not
fields are passed over, or as an array of its fields in order. A field that
stands twice is an error, and so is a value too many in an array. -/

namespace BehaviorContract

/-- The two ways to write a record, or what is left to read of it. -/
inductive Record where
  | named (entries : List (String × Json))
  | positional (items : List Json)

inductive Slot where
  | given (value : Json)
  | unnamed
  | exhausted

abbrev FieldReader := StateT Record Option

namespace Record

def take (key : String) : Record → Option (Slot × Record)
  | .named entries =>
      match Json.entriesAt key entries with
      | [] => some (.unnamed, .named entries)
      | [value] => some (.given value, .named entries)
      | _ :: _ :: _ => none
  | .positional [] => some (.exhausted, .positional [])
  | .positional (value :: rest) => some (.given value, .positional rest)

def isFinished : Record → Bool
  | .named _ => true
  | .positional items => items.isEmpty

/-- The tag that tells the kind of a record, and the record without it. The tag
stands once under its key, or first. -/
def tagged? (key : String) : Record → Option (Json × Record)
  | .named entries =>
      match Json.entriesAt key entries with
      | [tag] => some (tag, .named (entries.filter (·.1 != key)))
      | _ => none
  | .positional (tag :: rest) => some (tag, .positional rest)
  | .positional [] => none

def read? {α : Type} (reader : FieldReader α) (record : Record) : Option α :=
  (reader.run record).bind fun (value, rest) =>
    if rest.isFinished then some value else none

end Record

namespace FieldReader

variable {α : Type}

def required (key : String) (decode : Json → Option α) : FieldReader α := do
  match ← Record.take key with
  | .given value => decode value
  | .unnamed | .exhausted => failure

def defaulted (key : String) (default : α) (decode : Json → Option α) :
    FieldReader α := do
  match ← Record.take key with
  | .given value => decode value
  | .unnamed | .exhausted => return default

def orNull (decode : Json → Option α) : Json → Option (Option α)
  | .null => some none
  | value => (decode value).map some

def optional (key : String) (decode : Json → Option α) : FieldReader (Option α) :=
  defaulted key none (orNull decode)

/-- A field that may be null. It may be left out of an object, where nothing
stands for null, but not of an array. -/
def nullable (key : String) (decode : Json → Option α) : FieldReader (Option α) := do
  match ← Record.take key with
  | .given value => orNull decode value
  | .unnamed => return none
  | .exhausted => failure

end FieldReader

namespace Json

variable {α : Type}

def record? : Json → Option Record
  | .object entries => some (.named entries)
  | .array items => some (.positional items)
  | _ => none

def decodeRecord (reader : FieldReader α) (json : Json) : Option α :=
  json.record?.bind (Record.read? reader)

def text? : Json → Option String
  | .text content => some content
  | _ => none

def bool? : Json → Option Bool
  | .bool value => some value
  | _ => none

def intWithin? (least greatest : Int) : Json → Option Int
  | .number (.integer value) =>
      if least ≤ value ∧ value ≤ greatest then some value else none
  | _ => none

def int64? (json : Json) : Option Int64 :=
  (json.intWithin? (-9223372036854775808) 9223372036854775807).map Int64.ofInt

def nat64? (json : Json) : Option Nat :=
  (json.intWithin? 0 18446744073709551615).map Int.toNat

def uint64? (json : Json) : Option UInt64 :=
  json.nat64?.map UInt64.ofNat

def uint8? (json : Json) : Option UInt8 :=
  (json.intWithin? 0 255).map fun value => UInt8.ofNat value.toNat

def float? : Json → Option Float
  | .number (.integer value) => some (Float.ofInt value)
  | .number (.float value) => some value
  | _ => none

def list? (decode : Json → Option α) : Json → Option (List α)
  | .array items => items.mapM decode
  | _ => none

/-- One of several names. A name may also be the only key of an object, with
null under it. -/
def name? (parse : String → Option α) : Json → Option α
  | .text content => parse content
  | .object [(content, .null)] => parse content
  | _ => none

def nameInside? (parse : String → Option α) : Json → Option α
  | .object [(content, .object [])] => parse content
  | json => json.name? parse

/-- The kind that a tag tells. Inside another record the tag may be the position
of the kind's name. -/
def tag? (names : List String) (inside : Bool) : Json → Option String
  | .text content => if content ∈ names then some content else none
  | .number (.integer position) =>
      if inside ∧ 0 ≤ position then names[position.toNat]? else none
  | _ => none

end Json

end BehaviorContract
