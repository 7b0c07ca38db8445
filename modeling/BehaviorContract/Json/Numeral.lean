import BehaviorContract.Decimal.Binary
import BehaviorContract.Json.Basic
import BehaviorContract.Text.Basic

namespace BehaviorContract

structure Numeral where
  negative : Bool
  whole : List Char
  fraction : Option (List Char)
  exponent : Option Int

namespace Numeral

def isWhole (digits : List Char) : Bool :=
  digits == ['0'] || (!digits.isEmpty && digits.head? != some '0')

def splitFraction : List Char → Option (Option (List Char) × List Char)
  | '.' :: rest =>
      let (digits, rest) := rest.span Char.isDigit
      if digits.isEmpty then none else some (some digits, rest)
  | rest => some (none, rest)

def signedExponent (chars : List Char) : Option Int :=
  let (negative, digits) :=
    match chars with
    | '-' :: rest => (true, rest)
    | '+' :: rest => (false, rest)
    | _ => (false, chars)
  (Text.natOfChars? digits).map fun value => if negative then -(value : Int) else value

def endingExponent : List Char → Option (Option Int)
  | [] => some none
  | mark :: rest =>
      if mark = 'e' ∨ mark = 'E' then (signedExponent rest).map some else none

def ofChars? (chars : List Char) : Option Numeral := do
  let (negative, chars) :=
    match chars with
    | '-' :: rest => (true, rest)
    | _ => (false, chars)
  let (whole, chars) := chars.span Char.isDigit
  if isWhole whole then
    let (fraction, chars) ← splitFraction chars
    let exponent ← endingExponent chars
    some ⟨negative, whole, fraction, exponent⟩
  else none

def toFloat? (numeral : Numeral) : Option Float :=
  let fraction := numeral.fraction.getD []
  let magnitude := Decimal.nearest (Text.natOfDigits (numeral.whole ++ fraction))
    (numeral.exponent.getD 0 - fraction.length)
  if magnitude.isInf then none
  else some (if numeral.negative then -magnitude else magnitude)

/-- The number of a numeral. Only a numeral without fraction and exponent can be
whole, and the zero with a sign is a double. -/
def toNumber? (numeral : Numeral) : Option Number :=
  let magnitude := Text.natOfDigits numeral.whole
  if numeral.fraction.isNone ∧ numeral.exponent.isNone ∧
      (if numeral.negative then 0 < magnitude ∧ magnitude ≤ 9223372036854775808
        else magnitude ≤ 18446744073709551615) then
    some (.integer (if numeral.negative then -(magnitude : Int) else magnitude))
  else numeral.toFloat?.map .float

end Numeral

end BehaviorContract
