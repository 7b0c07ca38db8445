import BehaviorContract.Decimal.Binary

/-! The shortest decimal that reads back as a given double. A decimal reads back
when it lies between the midpoints to the two neighbouring doubles; a midpoint
itself counts when the significand is even. Grids of one digit, two digits and
so on are tried in turn, and on each grid only the two points next to the double
can be the nearest. -/

namespace BehaviorContract.Decimal

structure Digits where
  digits : Nat
  exponent : Int
  deriving DecidableEq

inductive Tie where
  | toEven
  | up
  deriving DecidableEq

def compareScaled (decimal : Nat) (tens : Int) (binary : Nat) (twos : Int) : Ordering :=
  compare (decimal * Nat.pow 10 tens.toNat * Nat.pow 2 (-twos).toNat)
    (binary * Nat.pow 2 twos.toNat * Nat.pow 10 (-tens).toNat)

namespace Binary

/-- The distance to the lower midpoint, in quarters of the last place. It is
halved where the doubles below are twice as dense. -/
def lowerGap (number : Binary) : Nat :=
  if number.significand = Nat.pow 2 52 ∧ number.exponent ≠ -1074 then 1 else 2

def readsBack (number : Binary) (decimal : Nat) (tens : Int) : Bool :=
  let twos := number.exponent - 2
  let low := compareScaled decimal tens (4 * number.significand - number.lowerGap) twos
  let high := compareScaled decimal tens (4 * number.significand + 2) twos
  if number.significand % 2 = 0 then low != .lt && high != .gt
  else low == .gt && high == .lt

def below (number : Binary) (tens : Int) : Nat :=
  number.significand * Nat.pow 2 number.exponent.toNat * Nat.pow 10 (-tens).toNat /
    (Nat.pow 2 (-number.exponent).toNat * Nat.pow 10 tens.toNat)

def leading (number : Binary) : Int :=
  (Nat.toDigits 10 (number.below (-400))).length - 401

/-- The nearer of the two points of the grid around the number that read back. -/
def onGrid? (number : Binary) (tie : Tie) (tens : Int) : Option Digits :=
  let low := number.below tens
  match number.readsBack low tens, number.readsBack (low + 1) tens with
  | false, false => none
  | true, false => some ⟨low, tens⟩
  | false, true => some ⟨low + 1, tens⟩
  | true, true =>
      match compareScaled (2 * low + 1) tens (2 * number.significand) number.exponent with
      | .lt => some ⟨low + 1, tens⟩
      | .gt => some ⟨low, tens⟩
      | .eq =>
          if tie = .toEven ∧ low % 2 = 0 then some ⟨low, tens⟩ else some ⟨low + 1, tens⟩

end Binary

def Digits.trim : (limit : Nat) → Digits → Digits
  | 0, decimal => decimal
  | limit + 1, ⟨digits, exponent⟩ =>
      if digits % 10 = 0 then Digits.trim limit ⟨digits / 10, exponent + 1⟩
      else ⟨digits, exponent⟩

/-- The shortest decimal that reads back as the number, and of those the
nearest. Seventeen digits always do. -/
def Binary.shortest (number : Binary) (tie : Tie) : Digits :=
  let leading := number.leading
  let found := (List.range 17).findSome? fun (more : Nat) =>
    number.onGrid? tie (leading - more)
  Digits.trim 17 (found.getD ⟨number.significand, number.exponent⟩)

end BehaviorContract.Decimal
