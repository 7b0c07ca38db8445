import BehaviorContract.Json.Basic
import BehaviorContract.Decimal.Layout

namespace BehaviorContract

/-- Doubles are written positionally from 0.00001 and below 10^16, whole ones
with a zero behind the point. -/
def Json.doubles : Decimal.Layout where
  positional := fun leading => -5 ≤ leading ∧ leading < 16
  whole := ".0"
  plus := "+"
  tie := .toEven

def Number.write : Number → String
  | .integer value => toString value
  | .float value => if value.isFinite then Json.doubles.finite value else "null"

namespace Json

def hexChar (digit : Nat) : Char :=
  Char.ofNat (if digit < 10 then '0'.toNat + digit else 'a'.toNat + (digit - 10))

def escape (c : Char) : List Char :=
  if c = '"' then ['\\', '"']
  else if c = '\\' then ['\\', '\\']
  else if c = '\x08' then ['\\', 'b']
  else if c = '\x0c' then ['\\', 'f']
  else if c = '\n' then ['\\', 'n']
  else if c = '\r' then ['\\', 'r']
  else if c = '\t' then ['\\', 't']
  else if c < ' ' then ['\\', 'u', '0', '0', hexChar (c.toNat / 16),
    hexChar (c.toNat % 16)]
  else [c]

def quote (content : String) : String :=
  "\"" ++ String.ofList (content.toList.flatMap escape) ++ "\""

mutual

def compact : Json → String
  | .null | .unreadable => "null"
  | .bool value => if value then "true" else "false"
  | .number value => value.write
  | .text content => quote content
  | .array items => "[" ++ compactItems items ++ "]"
  | .object entries => "\x7b" ++ compactEntries entries ++ "\x7d"

def compactItems : List Json → String
  | [] => ""
  | [item] => item.compact
  | item :: rest => item.compact ++ "," ++ compactItems rest

def compactEntries : List (String × Json) → String
  | [] => ""
  | [(key, value)] => quote key ++ ":" ++ value.compact
  | (key, value) :: rest =>
      quote key ++ ":" ++ value.compact ++ "," ++ compactEntries rest

end

def newline (depth : Nat) : String :=
  "\n" ++ String.ofList (List.replicate (2 * depth) ' ')

mutual

def prettyAt (depth : Nat) : Json → String
  | .null | .unreadable => "null"
  | .bool value => if value then "true" else "false"
  | .number value => value.write
  | .text content => quote content
  | .array [] => "[]"
  | .array (item :: rest) =>
      "[" ++ newline (depth + 1) ++ item.prettyAt (depth + 1) ++
        prettyItems (depth + 1) rest ++ newline depth ++ "]"
  | .object [] => "\x7b\x7d"
  | .object ((key, value) :: rest) =>
      "\x7b" ++ newline (depth + 1) ++ quote key ++ ": " ++ value.prettyAt (depth + 1) ++
        prettyEntries (depth + 1) rest ++ newline depth ++ "\x7d"

def prettyItems (depth : Nat) : List Json → String
  | [] => ""
  | item :: rest => "," ++ newline depth ++ item.prettyAt depth ++ prettyItems depth rest

def prettyEntries (depth : Nat) : List (String × Json) → String
  | [] => ""
  | (key, value) :: rest =>
      "," ++ newline depth ++ quote key ++ ": " ++ value.prettyAt depth ++
        prettyEntries depth rest

end

def pretty (value : Json) : String :=
  value.prettyAt 0

end Json

end BehaviorContract
