import BehaviorContract.Value.Basic

namespace BehaviorContract.Value

mutual

def equalBy (mixed : Int64 → Float → Bool) : Value → Value → Bool
  | .null, .null => true
  | .bool left, .bool right => left == right
  | .integer left, .integer right => left == right
  | .float left, .float right => left == right
  | .integer left, .float right => mixed left right
  | .float left, .integer right => mixed right left
  | .text left, .text right => left == right
  | .array left, .array right => equalItemsBy mixed left right
  | .object left, .object right => equalFieldsBy mixed left right
  | _, _ => false

def equalItemsBy (mixed : Int64 → Float → Bool) : List Value → List Value → Bool
  | [], [] => true
  | left :: leftRest, right :: rightRest =>
      left.equalBy mixed right && equalItemsBy mixed leftRest rightRest
  | _, _ => false

def equalFieldsBy (mixed : Int64 → Float → Bool) {leftBound rightBound : Option String} :
    Entries Value leftBound → Entries Value rightBound → Bool
  | .nil, .nil => true
  | .cons leftKey _ left leftRest, .cons rightKey _ right rightRest =>
      leftKey == rightKey && left.equalBy mixed right &&
        equalFieldsBy mixed leftRest rightRest
  | _, _ => false

end

def strictEq (left right : Value) : Bool :=
  left.equalBy (fun _ _ => false) right

instance : BEq Value := ⟨strictEq⟩

/-- Equality by numeric value: a whole number equals the double that it converts to. -/
def looseEq (left right : Value) : Bool :=
  left.equalBy (fun whole double => Decimal.ofWhole whole == double) right

def compareFloats? (left right : Float) : Option Ordering :=
  if left < right then some .lt
  else if left == right then some .eq
  else if right < left then some .gt
  else none

/-- The order of numbers and the order of texts; all other pairs have none. -/
def compare? : Value → Value → Option Ordering
  | .integer left, .integer right => some (compare left right)
  | .text left, .text right => some (compare left right)
  | left, right =>
      match left.float?, right.float? with
      | some left, some right => compareFloats? left right
      | _, _ => none

end BehaviorContract.Value
