import BehaviorContract.Decimal.Shortest

namespace BehaviorContract.Decimal

/-- The decisions of one way to write doubles in the fewest digits. -/
structure Layout where
  positional : Int → Bool
  whole : String
  plus : String
  tie : Tie

def zeros (count : Nat) : String :=
  String.ofList (List.replicate count '0')

def withPoint (digits : List Char) (places : Nat) : String :=
  let padded := List.replicate (places + 1 - digits.length) '0' ++ digits
  let split := padded.length - places
  String.ofList (padded.take split) ++ "." ++ String.ofList (padded.drop split)

namespace Layout

def decimal (layout : Layout) (decimal : Digits) : String :=
  let digits := Nat.toDigits 10 decimal.digits
  let leading : Int := decimal.exponent + digits.length - 1
  if layout.positional leading then
    if decimal.exponent < 0 then withPoint digits (-decimal.exponent).toNat
    else String.ofList digits ++ zeros decimal.exponent.toNat ++ layout.whole
  else
    let mantissa := if digits.length ≤ 1 then String.ofList digits
      else withPoint digits (digits.length - 1)
    mantissa ++ "e" ++ (if leading < 0 then "" else layout.plus) ++ toString leading

def finite (layout : Layout) (x : Float) : String :=
  let number := Binary.ofFloat x
  let sign := if number.negative then "-" else ""
  if number.significand = 0 then sign ++ "0" ++ layout.whole
  else sign ++ layout.decimal (number.shortest layout.tie)

def write (layout : Layout) (x : Float) : String :=
  if x.isNaN then "NaN"
  else if x.isInf then (if x < 0 then "-inf" else "inf")
  else layout.finite x

end Layout

def roundDiv (numerator denominator : Nat) : Nat :=
  let quotient := numerator / denominator
  match compare (2 * (numerator % denominator)) denominator with
  | .lt => quotient
  | .gt => quotient + 1
  | .eq => quotient + quotient % 2

def toPlaces (places : Nat) (x : Float) : String :=
  if x.isNaN then "NaN"
  else if x.isInf then (if x < 0 then "-inf" else "inf")
  else
    let number := Binary.ofFloat x
    let rounded :=
      roundDiv (number.significand * Nat.pow 2 number.exponent.toNat * Nat.pow 10 places)
      (Nat.pow 2 (-number.exponent).toNat)
    (if number.negative then "-" else "") ++ withPoint (Nat.toDigits 10 rounded) places

end BehaviorContract.Decimal
