import BehaviorContract.Text.Basic

namespace BehaviorContract

/-- Whole seconds since 1970, and nanoseconds. In a leap second there are more
than 10^9 nanoseconds. -/
structure Instant where
  seconds : Int
  nanoseconds : Nat
  deriving DecidableEq

structure Date where
  year : Int
  month : Nat
  day : Nat
  deriving DecidableEq

namespace Calendar

def padded (width value : Nat) : String :=
  let digits := Nat.toDigits 10 value
  String.ofList (List.replicate (width - digits.length) '0' ++ digits)

/-- The date of a day, counted from the first of January 1970. Years start in
March here, so that a leap day is the last day of its year. -/
def dateOfDay (day : Int) : Date :=
  let shifted := day + 719468
  let era := shifted.fdiv 146097
  let dayOfEra := (shifted - era * 146097).toNat
  let yearOfEra :=
    (dayOfEra - dayOfEra / 1460 + dayOfEra / 36524 - dayOfEra / 146096) / 365
  let dayOfYear := dayOfEra - (365 * yearOfEra + yearOfEra / 4 - yearOfEra / 100)
  let marchMonth := (5 * dayOfYear + 2) / 153
  let month := if marchMonth < 10 then marchMonth + 3 else marchMonth - 9
  let year : Int := yearOfEra + era * 400
  ⟨if month ≤ 2 then year + 1 else year, month,
    dayOfYear - (153 * marchMonth + 2) / 5 + 1⟩

def dayOfDate (date : Date) : Int :=
  let year := if date.month ≤ 2 then date.year - 1 else date.year
  let era := year.fdiv 400
  let yearOfEra := (year - era * 400).toNat
  let marchMonth := if date.month > 2 then date.month - 3 else date.month + 9
  let dayOfYear := (153 * marchMonth + 2) / 5 + date.day - 1
  let dayOfEra := yearOfEra * 365 + yearOfEra / 4 - yearOfEra / 100 + dayOfYear
  era * 146097 + dayOfEra - 719468

def isLeapYear (year : Int) : Bool :=
  year % 4 = 0 && (year % 100 != 0 || year % 400 = 0)

def hasYear (year : Int) : Bool :=
  -262143 ≤ year && year ≤ 262142

def daysOfMonth (year : Int) (month : Nat) : Nat :=
  if month = 2 then (if isLeapYear year then 29 else 28)
  else if month = 4 ∨ month = 6 ∨ month = 9 ∨ month = 11 then 30
  else 31

def writeYear (year : Int) : String :=
  if 0 ≤ year ∧ year ≤ 9999 then padded 4 year.toNat
  else (if year < 0 then "-" else "+") ++ padded 4 year.natAbs

end Calendar

namespace Instant

open Calendar

def beforeFraction (instant : Instant) : String :=
  let date := dateOfDay (instant.seconds.fdiv 86400)
  let second := (instant.seconds.fmod 86400).toNat
  writeYear date.year ++ "-" ++ padded 2 date.month ++ "-" ++ padded 2 date.day ++ "T" ++
    padded 2 (second / 3600) ++ ":" ++ padded 2 (second / 60 % 60) ++ ":" ++
    padded 2 (second % 60 + instant.nanoseconds / 1000000000)

def toMilliseconds (instant : Instant) : String :=
  instant.beforeFraction ++ "." ++
    padded 3 (instant.nanoseconds % 1000000000 / 1000000) ++ "Z"

def write (instant : Instant) : String :=
  let fraction := instant.nanoseconds % 1000000000
  let places :=
    if fraction = 0 then ""
    else if fraction % 1000000 = 0 then "." ++ padded 3 (fraction / 1000000)
    else if fraction % 1000 = 0 then "." ++ padded 6 (fraction / 1000)
    else "." ++ padded 9 fraction
  instant.beforeFraction ++ places ++ "Z"

def skipBlanks (chars : List Char) : List Char :=
  chars.dropWhile Text.isBlank

/-- The number that the digits in front write, and what follows them. No more
than `most` digits are taken, and there must be `least`. -/
def takeDigits? (least most : Nat) (chars : List Char) : Option (Nat × List Char) :=
  let digits := (chars.take most).takeWhile Char.isDigit
  if digits.length < least then none
  else some (Text.natOfDigits digits, chars.drop digits.length)

def takeField? (chars : List Char) : Option (Nat × List Char) :=
  takeDigits? 1 2 (skipBlanks chars)

def takeYear? (chars : List Char) : Option (Int × List Char) :=
  match skipBlanks chars with
  | '-' :: rest =>
      (takeDigits? 1 rest.length rest).map fun (year, rest) => (-(year : Int), rest)
  | '+' :: rest =>
      (takeDigits? 1 rest.length rest).map fun (year, rest) => ((year : Int), rest)
  | chars => (takeDigits? 1 4 chars).map fun (year, rest) => ((year : Int), rest)

def takeMark? (marks : List Char) : List Char → Option (List Char)
  | [] => none
  | c :: rest => if c ∈ marks then some rest else none

def takeFraction? : List Char → Option (Nat × List Char)
  | '.' :: rest =>
      let digits := rest.takeWhile Char.isDigit
      if digits.isEmpty then none
      else some (Text.natOfDigits ((digits ++ List.replicate 9 '0').take 9),
        rest.dropWhile Char.isDigit)
  | rest => some (0, rest)

def takeOffset? (chars : List Char) : Option (Int × List Char) :=
  if (chars.take 3).map Char.toLower = ['u', 't', 'c'] then some (0, chars.drop 3)
  else
    match chars with
    | 'Z' :: rest | 'z' :: rest => some (0, rest)
    | sign :: rest => do
        let (hours, rest) ← takeDigits? 2 2 rest
        let (minutes, rest) ← takeDigits? 2 2
          (rest.dropWhile fun c => c == ':' || Text.isBlank c)
        let distance : Int := hours * 3600 + minutes * 60
        if 24 ≤ hours ∨ 60 ≤ minutes then none
        else if sign = '+' then some (distance, rest)
        else if sign = '-' ∨ sign = '−' then some (-distance, rest)
        else none
    | [] => none

/-- The instant that a text writes. White space may stand at both ends, before a
number, and before a hyphen, a colon or the offset. -/
def read? (text : String) : Option Instant := do
  let (year, rest) ← takeYear? text.toList
  let rest ← takeMark? ['-'] (skipBlanks rest)
  let (month, rest) ← takeField? rest
  let rest ← takeMark? ['-'] (skipBlanks rest)
  let (day, rest) ← takeField? rest
  let rest ← takeMark? ['T', 't', ' '] rest
  let (hour, rest) ← takeField? rest
  let rest ← takeMark? [':'] (skipBlanks rest)
  let (minute, rest) ← takeField? rest
  let rest ← takeMark? [':'] (skipBlanks rest)
  let (second, rest) ← takeField? rest
  let (fraction, rest) ← takeFraction? rest
  let (offset, rest) ← takeOffset? (skipBlanks rest)
  if (skipBlanks rest).isEmpty ∧ hasYear year ∧ 1 ≤ month ∧ month ≤ 12 ∧ 1 ≤ day ∧
    day ≤ daysOfMonth year month ∧
      hour < 24 ∧ minute < 60 ∧ second ≤ 60 then
    let inMinute := min second 59
    let seconds :=
      dayOfDate ⟨year, month, day⟩ * 86400 + hour * 3600 + minute * 60 + inMinute - offset
    if hasYear (dateOfDay (seconds.fdiv 86400)).year then
      some ⟨seconds, fraction + (second - inMinute) * 1000000000⟩
    else none
  else none

end Instant

end BehaviorContract
