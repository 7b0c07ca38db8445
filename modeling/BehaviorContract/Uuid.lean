namespace BehaviorContract

structure Uuid where
  bits : BitVec 128
  deriving DecidableEq

namespace Uuid

def nil : Uuid :=
  ⟨0⟩

instance : Inhabited Uuid := ⟨nil⟩

def groups : List Nat :=
  [8, 4, 4, 4]

def digits (id : Uuid) : List Char :=
  (List.range 32).map fun position =>
    Nat.digitChar (id.bits.toNat / Nat.pow 16 (31 - position) % 16)

def hyphenate : List Nat → List Char → List Char
  | [], chars => chars
  | size :: sizes, chars => chars.take size ++ '-' :: hyphenate sizes (chars.drop size)

def write (id : Uuid) : String :=
  String.ofList (hyphenate groups id.digits)

def unhyphenate : List Nat → List Char → Option (List Char)
  | [], chars => some chars
  | size :: sizes, chars =>
      match chars.drop size with
      | '-' :: rest => (unhyphenate sizes rest).map (chars.take size ++ ·)
      | _ => none

def digitValue? (c : Char) : Option Nat :=
  if '0' ≤ c ∧ c ≤ '9' then some (c.toNat - '0'.toNat)
  else if 'a' ≤ c ∧ c ≤ 'f' then some (c.toNat - 'a'.toNat + 10)
  else if 'A' ≤ c ∧ c ≤ 'F' then some (c.toNat - 'A'.toNat + 10)
  else none

def ofDigits? (chars : List Char) : Option Uuid := do
  let values ← chars.mapM digitValue?
  if values.length = 32 then
    return ⟨BitVec.ofNat 128 (values.foldl (fun value digit => 16 * value + digit) 0)⟩
  else none

/-- The inside of a text between braces or after `urn:uuid:`, which may be in
letters of any case. -/
def unwrapped (chars : List Char) : List Char :=
  if (chars.take 9).map Char.toLower = "urn:uuid:".toList then chars.drop 9
  else if chars.head? = some '\x7b' ∧ chars.getLast? = some '\x7d' then
    chars.tail.dropLast
  else chars

/-- Reads an identifier of any case, plain or with hyphens; only one with
hyphens may be wrapped. -/
def read? (text : String) : Option Uuid :=
  let chars := text.toList
  if chars.length = 32 then ofDigits? chars
  else (unhyphenate groups (unwrapped chars)).bind ofDigits?

end Uuid

end BehaviorContract
