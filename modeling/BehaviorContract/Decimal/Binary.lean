namespace BehaviorContract.Decimal

/-- The number `significand · 2 ^ exponent`, or its negation. -/
structure Binary where
  negative : Bool
  significand : Nat
  exponent : Int

def Binary.ofFloat (x : Float) : Binary :=
  let bits := x.toBits.toNat
  let biased : Nat := bits / Nat.pow 2 52 % Nat.pow 2 11
  let fraction := bits % Nat.pow 2 52
  if biased = 0 then ⟨Nat.pow 2 63 ≤ bits, fraction, -1074⟩
  else ⟨Nat.pow 2 63 ≤ bits, Nat.pow 2 52 + fraction, (biased : Int) - 1075⟩

def Binary.remainder (dividend divisor : Binary) : Binary :=
  let exponent := min dividend.exponent divisor.exponent
  let scale := fun (number : Binary) =>
    number.significand * Nat.pow 2 (number.exponent - exponent).toNat
  ⟨dividend.negative, scale dividend % scale divisor, exponent⟩

def Binary.toFloat (number : Binary) : Float :=
  let magnitude := (Float.ofNat number.significand).scaleB number.exponent
  if number.negative then -magnitude else magnitude

def remainder (dividend divisor : Float) : Float :=
  if dividend.isNaN || dividend.isInf || divisor.isNaN then 0.0 / 0.0
  else if divisor.isInf then dividend
  else ((Binary.ofFloat dividend).remainder (Binary.ofFloat divisor)).toFloat

/-- The double nearest to `digits · 10 ^ exponent`. A decimal of more than 310
places before the point is beyond every double, and one that starts more than
330 places behind it is nearer to zero than any double. -/
def nearest (digits : Nat) (exponent : Int) : Float :=
  let leading : Int := (Nat.toDigits 10 digits).length + exponent
  if digits = 0 then 0
  else if leading > 310 then 1.0 / 0.0
  else if leading < -330 then 0
  else Float.ofScientific digits (exponent < 0) exponent.natAbs

-- `Int64.toFloat` gives the same double, but it is opaque and says nothing about it.
def ofWhole (whole : Int64) : Float :=
  .ofModel (.ofInt64 whole)

end BehaviorContract.Decimal
