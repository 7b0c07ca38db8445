import BehaviorContract.Json.Numeral

/-! The tokens of a JSON text. The scanner takes one character at a time and
never looks ahead: a numeral or a word ends where a character stands that cannot
continue it. -/

namespace BehaviorContract.Json

inductive Token where
  | openArray
  | closeArray
  | openObject
  | closeObject
  | comma
  | colon
  | text (content : Option String)
  | atom (value : Json)

inductive Symbol where
  | char (value : Char)
  | unit (value : Nat)

def joinHalves (high low : Nat) : Char :=
  Char.ofNat (0x10000 + (high - 0xD800) * 0x400 + (low - 0xDC00))

/-- The characters that the symbols stand for. A high half must be followed by a
low half, and a low half must follow a high one. -/
def charsOfSymbols : List Symbol → Option (List Char)
  | [] => some []
  | .char value :: rest => (charsOfSymbols rest).map (value :: ·)
  | .unit high :: .unit low :: rest =>
      if 0xD800 ≤ high ∧ high < 0xDC00 then
        if 0xDC00 ≤ low ∧ low < 0xE000 then
          (charsOfSymbols rest).map (joinHalves high low :: ·) else none
      else if 0xDC00 ≤ high ∧ high < 0xE000 then none
      else (charsOfSymbols (.unit low :: rest)).map (Char.ofNat high :: ·)
  | .unit value :: rest =>
      if 0xD800 ≤ value ∧ value < 0xE000 then none
      else (charsOfSymbols rest).map (Char.ofNat value :: ·)

/-- Where the scanner stands. What it has seen of a token is kept in reverse. -/
inductive Mode where
  | between
  | word (seen : List Char)
  | numeral (seen : List Char)
  | text (seen : List Symbol)
  | escape (seen : List Symbol)
  | unit (seen : List Symbol) (digits value : Nat)

structure Scanner where
  tokens : List Token
  mode : Mode

def isBlank (c : Char) : Bool :=
  c == ' ' || c == '\t' || c == '\n' || c == '\r'

def continuesNumeral (c : Char) : Bool :=
  c.isDigit || c == '-' || c == '+' || c == '.' || c == 'e' || c == 'E'

def escaped? : Char → Option Char
  | '"' => some '"'
  | '\\' => some '\\'
  | '/' => some '/'
  | 'b' => some '\x08'
  | 'f' => some '\x0c'
  | 'n' => some '\n'
  | 'r' => some '\r'
  | 't' => some '\t'
  | _ => none

def hexDigit? (c : Char) : Option Nat :=
  if c.isDigit then some (c.toNat - '0'.toNat)
  else if 'a' ≤ c ∧ c ≤ 'f' then some (c.toNat - 'a'.toNat + 10)
  else if 'A' ≤ c ∧ c ≤ 'F' then some (c.toNat - 'A'.toNat + 10)
  else none

def Token.ofWord? (word : List Char) : Option Token :=
  if word = "null".toList then some (.atom .null)
  else if word = "true".toList then some (.atom (.bool true))
  else if word = "false".toList then some (.atom (.bool false))
  else none

def Token.ofNumeral? (numeral : List Char) : Option Token :=
  (Numeral.ofChars? numeral).map fun parts =>
    match parts.toNumber? with
    | some value => .atom (.number value)
    | none => .atom .unreadable

namespace Scanner

def start (tokens : List Token) (c : Char) : Option Scanner :=
  if isBlank c then some ⟨tokens, .between⟩
  else if c.isDigit || c == '-' then some ⟨tokens, .numeral [c]⟩
  else if c.isLower then some ⟨tokens, .word [c]⟩
  else
    match c with
    | '[' => some ⟨.openArray :: tokens, .between⟩
    | ']' => some ⟨.closeArray :: tokens, .between⟩
    | '\x7b' => some ⟨.openObject :: tokens, .between⟩
    | '\x7d' => some ⟨.closeObject :: tokens, .between⟩
    | ',' => some ⟨.comma :: tokens, .between⟩
    | ':' => some ⟨.colon :: tokens, .between⟩
    | '"' => some ⟨tokens, .text []⟩
    | _ => none

def step (scanner : Scanner) (c : Char) : Option Scanner :=
  match scanner.mode with
  | .between => start scanner.tokens c
  | .word seen =>
      if c.isLower then some { scanner with mode := .word (c :: seen) }
      else (Token.ofWord? seen.reverse).bind fun token =>
        start (token :: scanner.tokens) c
  | .numeral seen =>
      if continuesNumeral c then some { scanner with mode := .numeral (c :: seen) }
      else (Token.ofNumeral? seen.reverse).bind fun token =>
        start (token :: scanner.tokens) c
  | .text seen =>
      if c = '"' then
        some ⟨.text ((charsOfSymbols seen.reverse).map String.ofList) :: scanner.tokens,
          .between⟩
      else if c = '\\' then some { scanner with mode := .escape seen }
      else if c < ' ' then none
      else some { scanner with mode := .text (.char c :: seen) }
  | .escape seen =>
      if c = 'u' then some { scanner with mode := .unit seen 0 0 }
      else (escaped? c).map fun value =>
        { scanner with mode := .text (.char value :: seen) }
  | .unit seen digits value =>
      (hexDigit? c).map fun digit =>
        let value := 16 * value + digit
        if digits = 3 then { scanner with mode := .text (.unit value :: seen) }
        else { scanner with mode := .unit seen (digits + 1) value }

def finish (scanner : Scanner) : Option (List Token) :=
  match scanner.mode with
  | .between => some scanner.tokens.reverse
  | .word seen =>
      (Token.ofWord? seen.reverse).map fun token => (token :: scanner.tokens).reverse
  | .numeral seen =>
      (Token.ofNumeral? seen.reverse).map fun token => (token :: scanner.tokens).reverse
  | .text _ | .escape _ | .unit .. => none

end Scanner

def scan (chars : List Char) : Option (List Token) :=
  (chars.foldlM Scanner.step ⟨[], .between⟩).bind Scanner.finish

end BehaviorContract.Json
