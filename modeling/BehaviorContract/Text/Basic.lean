namespace BehaviorContract.Text

def isBlank (c : Char) : Bool :=
  let code := c.toNat
  (0x09 ≤ code && code ≤ 0x0D) || code == 0x20 || code == 0x85 || code == 0xA0 ||
    code == 0x1680 || (0x2000 ≤ code && code ≤ 0x200A) || code == 0x2028 ||
    code == 0x2029 || code == 0x202F || code == 0x205F || code == 0x3000

def trimChars (chars : List Char) : List Char :=
  ((chars.dropWhile isBlank).reverse.dropWhile isBlank).reverse

def trim (text : String) : String :=
  String.ofList (trimChars text.toList)

def natOfDigits (digits : List Char) : Nat :=
  digits.foldl (fun value digit => 10 * value + (digit.toNat - '0'.toNat)) 0

def natOfChars? (chars : List Char) : Option Nat :=
  if !chars.isEmpty && chars.all Char.isDigit then some (natOfDigits chars) else none

def natBelow? (bound : Nat) (text : String) : Option Nat :=
  let digits :=
    match text.toList with
    | '+' :: rest => rest
    | chars => chars
  (natOfChars? digits).filter (· < bound)

def hasInfix (chars : List Char) (wanted : List Char) : Bool :=
  wanted.isPrefixOf chars ||
    match chars with
    | [] => false
    | _ :: rest => hasInfix rest wanted

def contains (text wanted : String) : Bool :=
  hasInfix text.toList wanted.toList

def startsWith (text wanted : String) : Bool :=
  wanted.toList.isPrefixOf text.toList

def endsWith (text wanted : String) : Bool :=
  wanted.toList.isSuffixOf text.toList

end BehaviorContract.Text
