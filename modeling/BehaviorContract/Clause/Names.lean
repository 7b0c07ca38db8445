import BehaviorContract.Clause.Check

namespace BehaviorContract

def numberedName (name : String) (number : Int) : String :=
  name ++ "#" ++ toString number

/-- Tries numbers until the name with one of them is free. They are words of 32
bits, so after the greatest comes the least. -/
def freshNumber? (taken : List String) (name : String) :
    (tries : Nat) → (number : Int32) → Option Int32
  | 0, _ => none
  | tries + 1, number =>
      if numberedName name number.toInt ∈ taken then
        freshNumber? taken name tries (number + 1)
      else some number

/-- The name with the first free number from two on. One more try than there are
taken names finds it, unless all of the numbers are taken. The search has no end
then, and a number too long for any taken name stands for it. -/
def freshName (taken : List String) (name : String) : String :=
  numberedName name
    ((freshNumber? taken name (taken.length + 1) 2).elim
      (Nat.pow 10 (String.join taken).length : Nat) Int32.toInt)

namespace Check

def nameApart (taken : List String) : List Check → List Check
  | [] => []
  | check :: rest =>
      let name :=
        if check.name ∈ taken then freshName taken check.name else check.name
      { check with name } :: nameApart (name :: taken) rest

def withUniqueNames (checks : List Check) : List Check :=
  nameApart [] checks

end Check

end BehaviorContract
