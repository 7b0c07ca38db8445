import BehaviorContract.Text.CaseRange

namespace BehaviorContract.Text

def within (ranges : List (Nat × Nat)) (c : Char) : Bool :=
  ranges.any fun (first, last) => first ≤ c.toNat ∧ c.toNat ≤ last

def isCased (c : Char) : Bool :=
  within casedRanges c

def isCaseIgnorable (c : Char) : Bool :=
  within caseIgnorableRanges c

def CaseRange.lower? (range : CaseRange) (c : Char) : Option Char :=
  if range.first ≤ c.toNat ∧ c.toNat ≤ range.last ∧
    (c.toNat - range.first) % range.step = 0 then
    some (Char.ofNat (c.toNat + range.offset).toNat)
  else none

def lowerChar (c : Char) : List Char :=
  if c.toNat < 128 then [c.toLower]
  else if c = 'İ' then ['i', '\u0307']
  else [(lowerRanges.findSome? (·.lower? c)).getD c]

def startsCased (chars : List Char) : Bool :=
  ((chars.dropWhile isCaseIgnorable).head?.map isCased).getD false

/-- The lower case of the rest of a text, given the characters before it in reverse. -/
def lowerAfter (before : List Char) : List Char → List Char
  | [] => []
  | c :: rest =>
      let lower :=
        if c = 'Σ' then (if startsCased before && !startsCased rest then ['ς'] else ['σ'])
        else lowerChar c
      lower ++ lowerAfter (c :: before) rest

def lowercase (text : String) : String :=
  String.ofList (lowerAfter [] text.toList)

def lowercaseAscii (text : String) : String :=
  String.ofList (text.toList.map Char.toLower)

end BehaviorContract.Text
