import BehaviorContract.Proofs.Json.Numeral

namespace BehaviorContract.Json

namespace Scanner

def run (scanner : Scanner) (chars : List Char) : Option (List Token) :=
  (chars.foldlM step scanner).bind finish

theorem run_nil (scanner : Scanner) : scanner.run [] = scanner.finish := rfl

theorem run_cons (scanner : Scanner) (c : Char) (rest : List Char) :
    scanner.run (c :: rest) = (scanner.step c).bind fun next => next.run rest := by
  rw [run, List.foldlM_cons]
  exact Option.bind_assoc ..

theorem run_cons_of_step {scanner next : Scanner} {c : Char}
    (steps : scanner.step c = some next) (rest : List Char) :
    scanner.run (c :: rest) = next.run rest := by
  rw [run_cons, steps]
  rfl

end Scanner

open Scanner

def isMark (c : Char) : Bool :=
  c == ',' || c == ']' || c == '\x7d'

def endsToken : List Char → Bool
  | [] => true
  | c :: _ => isMark c

/-- A kind of token that goes on for as long as the characters continue it. -/
structure OpenToken where
  mode : List Char → Mode
  continues : Char → Bool
  token? : List Char → Option Token
  marked : ∀ c, isMark c = true → continues c = false
  step_eq : ∀ tokens seen c, step ⟨tokens, mode seen⟩ c =
    if continues c then some ⟨tokens, mode (c :: seen)⟩
    else (token? seen.reverse).bind fun token => start (token :: tokens) c
  finish_eq : ∀ tokens seen, finish ⟨tokens, mode seen⟩ =
    (token? seen.reverse).map fun token => (token :: tokens).reverse

namespace OpenToken

def word : OpenToken where
  mode := .word
  continues := Char.isLower
  token? := Token.ofWord?
  marked := by
    intro c mark
    simp only [isMark, Bool.or_eq_true, beq_iff_eq] at mark
    rcases mark with (rfl | rfl) | rfl <;> decide
  step_eq := fun _ _ _ => rfl
  finish_eq := fun _ _ => rfl

def numeral : OpenToken where
  mode := .numeral
  continues := continuesNumeral
  token? := Token.ofNumeral?
  marked := by
    intro c mark
    simp only [isMark, Bool.or_eq_true, beq_iff_eq] at mark
    rcases mark with (rfl | rfl) | rfl <;> decide
  step_eq := fun _ _ _ => rfl
  finish_eq := fun _ _ => rfl

variable (kind : OpenToken) (tokens : List Token)

theorem run_append {chars : List Char} (continues : ∀ c ∈ chars, kind.continues c = true)
    (seen rest : List Char) :
    run ⟨tokens, kind.mode seen⟩ (chars ++ rest) =
      run ⟨tokens, kind.mode (chars.reverse ++ seen)⟩ rest := by
  induction chars generalizing seen with
  | nil => rfl
  | cons c chars induction =>
      rw [List.forall_mem_cons] at continues
      have steps : step ⟨tokens, kind.mode seen⟩ c =
          some ⟨tokens, kind.mode (c :: seen)⟩ := by
        rw [kind.step_eq, if_pos continues.1]
      rw [List.cons_append, run_cons_of_step steps, induction continues.2,
        List.reverse_cons, List.append_assoc]
      rfl

theorem run_of_endsToken {seen : List Char} {token : Token}
    (isToken : kind.token? seen.reverse = some token) {rest : List Char}
    (ends : endsToken rest = true) :
    run ⟨tokens, kind.mode seen⟩ rest = run ⟨token :: tokens, .between⟩ rest := by
  cases rest with
  | nil =>
      rw [run_nil, run_nil, kind.finish_eq, isToken]
      rfl
  | cons c rest =>
      have stops := kind.marked c ends
      rw [run_cons, run_cons, kind.step_eq, if_neg (by simp [stops]), isToken]
      rfl

theorem run_between {first : Char} {more : List Char} {token : Token}
    (starts : start tokens first = some ⟨tokens, kind.mode [first]⟩)
    (continues : ∀ c ∈ more, kind.continues c = true)
    (isToken : kind.token? (first :: more) = some token) {rest : List Char}
    (ends : endsToken rest = true) :
    run ⟨tokens, .between⟩ (first :: more ++ rest) =
      run ⟨token :: tokens, .between⟩ rest := by
  have steps : step ⟨tokens, .between⟩ first = some ⟨tokens, kind.mode [first]⟩ := starts
  rw [List.cons_append, run_cons_of_step steps, kind.run_append tokens continues]
  apply kind.run_of_endsToken tokens ?_ ends
  rw [List.reverse_append, List.reverse_reverse]
  exact isToken

end OpenToken

theorem run_number {number : Number} (readsBack : number.ReadsBack) (tokens : List Token)
    {rest : List Char} (ends : endsToken rest = true) :
    run ⟨tokens, .between⟩ (number.write.toList ++ rest) =
      run ⟨.atom (.number number) :: tokens, .between⟩ rest := by
  obtain ⟨numeral, isNumeral, value⟩ := Option.bind_eq_some_iff.1 readsBack
  obtain ⟨continues, first, more, split, starts⟩ := continuesNumeral_of_ofChars? isNumeral
  have isToken : Token.ofNumeral? number.write.toList =
      some (.atom (.number number)) := by
    rw [Token.ofNumeral?, isNumeral, Option.map_some, value]
  rw [split] at continues isToken ⊢
  have notBlank : isBlank first = false := by
    rw [Bool.or_eq_true, beq_iff_eq] at starts
    apply Bool.eq_false_iff.2
    intro blank
    simp only [isBlank, Bool.or_eq_true, beq_iff_eq] at blank
    rcases blank with ((rfl | rfl) | rfl) | rfl <;> revert starts <;> decide
  apply OpenToken.numeral.run_between tokens
    ?_ (List.forall_mem_cons.1 continues).2 isToken ends
  unfold start
  rw [if_neg (by simp [notBlank]), if_pos starts]
  rfl

theorem run_word (tokens : List Token) {rest : List Char} (ends : endsToken rest = true) :
    run ⟨tokens, .between⟩ ("null".toList ++ rest) =
      run ⟨.atom .null :: tokens, .between⟩ rest ∧
      run ⟨tokens, .between⟩ ("true".toList ++ rest) =
        run ⟨.atom (.bool true) :: tokens, .between⟩ rest ∧
      run ⟨tokens, .between⟩ ("false".toList ++ rest) =
        run ⟨.atom (.bool false) :: tokens, .between⟩ rest :=
  ⟨OpenToken.word.run_between tokens rfl (List.all_eq_true.1 rfl) rfl ends,
    OpenToken.word.run_between tokens rfl (List.all_eq_true.1 rfl) rfl ends,
    OpenToken.word.run_between tokens rfl (List.all_eq_true.1 rfl) rfl ends⟩

/-- Says that a symbol alone stands for a character. -/
inductive Symbol.StandsFor : Symbol → Char → Prop
  | char (c : Char) : StandsFor (.char c) c
  | unit (c : Char) (control : c < ' ') : StandsFor (.unit c.toNat) c

theorem charsOfSymbols_cons {symbol : Symbol} {c : Char} (stands : symbol.StandsFor c)
    {symbols : List Symbol} {chars : List Char}
    (rest : charsOfSymbols symbols = some chars) :
    charsOfSymbols (symbol :: symbols) = some (c :: chars) := by
  cases stands with
  | char =>
      rw [charsOfSymbols, rest]
      rfl
  | unit _ control =>
      have small : c.toNat < 32 := UInt32.lt_iff_toNat_lt.1 control
      have noHigh : ¬ (0xD800 ≤ c.toNat ∧ c.toNat < 0xDC00) := by omega
      have noLow : ¬ (0xDC00 ≤ c.toNat ∧ c.toNat < 0xE000) := by omega
      have noHalf : ¬ (0xD800 ≤ c.toNat ∧ c.toNat < 0xE000) := by omega
      unfold charsOfSymbols
      split
      · rename_i empty
        cases empty
      · rename_i symbols
        cases symbols
      · rename_i same
        cases same
        rw [if_neg noHigh, if_neg noLow, rest, Option.map_some, Char.ofNat_toNat]
      · rename_i same
        cases same
        rw [if_neg noHalf, rest, Option.map_some, Char.ofNat_toNat]

theorem hexDigit?_hexChar : ∀ digit < 16, hexDigit? (hexChar digit) = some digit := by
  decide

def markedChars : List Char :=
  ['"', '\\', '\x08', '\x0c', '\n', '\r', '\t']

theorem escape_of_marked {c : Char} (marked : c ∈ markedChars) :
    ∃ mark, escape c = ['\\', mark] ∧ mark ≠ 'u' ∧ escaped? mark = some c := by
  simp only [markedChars, List.mem_cons, List.not_mem_nil, or_false] at marked
  rcases marked with rfl | rfl | rfl | rfl | rfl | rfl | rfl
    <;> exact ⟨_, rfl, by decide, rfl⟩

theorem escape_of_not_marked {c : Char} (notMarked : c ∉ markedChars) :
    escape c =
      if c < ' ' then ['\\', 'u', '0', '0', hexChar (c.toNat / 16),
        hexChar (c.toNat % 16)] else [c] := by
  simp only [markedChars, List.mem_cons, List.not_mem_nil, or_false, not_or] at notMarked
  simp [escape, notMarked]

section Texts

variable (tokens : List Token) (seen : List Symbol) (rest : List Char)

theorem run_mark {mark c : Char} (notUnit : mark ≠ 'u')
    (isMark : escaped? mark = some c) :
    run ⟨tokens, .text seen⟩ ('\\' :: mark :: rest) =
      run ⟨tokens, .text (.char c :: seen)⟩ rest := by
  have escapes : step ⟨tokens, .text seen⟩ '\\' = some ⟨tokens, .escape seen⟩ := rfl
  rw [run_cons_of_step escapes]
  apply run_cons_of_step
  simp [step, notUnit, isMark]

theorem run_unit {c : Char} (control : c < ' ') :
    run ⟨tokens, .text seen⟩ (['\\', 'u', '0', '0', hexChar (c.toNat / 16),
      hexChar (c.toNat % 16)] ++ rest) =
      run ⟨tokens, .text (.unit c.toNat :: seen)⟩ rest := by
  have small : c.toNat < 32 := UInt32.lt_iff_toNat_lt.1 control
  have high := hexDigit?_hexChar (c.toNat / 16) (by omega)
  have low := hexDigit?_hexChar (c.toNat % 16) (by omega)
  have opens : ∀ chars, run ⟨tokens, .text seen⟩ ('\\' :: 'u' :: '0' :: '0' :: chars) =
      run ⟨tokens, .unit seen 2 0⟩ chars := fun _ => rfl
  have third : step ⟨tokens, .unit seen 2 0⟩ (hexChar (c.toNat / 16)) =
      some ⟨tokens, .unit seen 3 (c.toNat / 16)⟩ := by
    simp [step, high]
  have fourth : step ⟨tokens, .unit seen 3 (c.toNat / 16)⟩ (hexChar (c.toNat % 16)) =
      some ⟨tokens, .text (.unit c.toNat :: seen)⟩ := by
    simp [step, low, Nat.div_add_mod]
  simp only [List.cons_append, List.nil_append]
  rw [opens, run_cons_of_step third, run_cons_of_step fourth]

theorem run_escape (c : Char) :
    ∃ symbol : Symbol, symbol.StandsFor c ∧
      run ⟨tokens, .text seen⟩ (escape c ++ rest) =
        run ⟨tokens, .text (symbol :: seen)⟩ rest := by
  by_cases marked : c ∈ markedChars
  · obtain ⟨mark, written, notUnit, isMark⟩ := escape_of_marked marked
    rw [written]
    exact ⟨.char c, .char c, run_mark tokens seen rest notUnit isMark⟩
  · rw [escape_of_not_marked marked]
    split
    · rename_i control
      exact ⟨.unit c.toNat, .unit c control, run_unit tokens seen rest control⟩
    · rename_i notControl
      refine ⟨.char c, .char c, ?_⟩
      apply run_cons_of_step
      simp only [markedChars, List.mem_cons, not_or] at marked
      simp [step, marked.1, marked.2.1, notControl]

theorem run_escaped (chars : List Char) :
    ∃ symbols, charsOfSymbols symbols = some chars ∧
      run ⟨tokens, .text seen⟩ (chars.flatMap escape ++ rest) =
        run ⟨tokens, .text (symbols.reverse ++ seen)⟩ rest := by
  induction chars generalizing seen with
  | nil => exact ⟨[], rfl, rfl⟩
  | cons c chars induction =>
      obtain ⟨symbol, stands, first⟩ :=
        run_escape tokens seen (chars.flatMap escape ++ rest) c
      obtain ⟨symbols, later, others⟩ := induction (symbol :: seen)
      refine ⟨symbol :: symbols, charsOfSymbols_cons stands later, ?_⟩
      rw [List.flatMap_cons, List.append_assoc, first, others, List.reverse_cons,
        List.append_assoc]
      rfl

theorem run_quote (content : String) :
    run ⟨tokens, .between⟩ ((quote content).toList ++ rest) =
      run ⟨.text (some content) :: tokens, .between⟩ rest := by
  have opens : step ⟨tokens, .between⟩ '"' = some ⟨tokens, .text []⟩ := rfl
  have written : (quote content).toList ++ rest =
      '"' :: (content.toList.flatMap escape ++ '"' :: rest) := by
    simp [quote]
  obtain ⟨symbols, isContent, scanned⟩ :=
    run_escaped tokens [] ('"' :: rest) content.toList
  rw [written, run_cons_of_step opens, scanned]
  apply run_cons_of_step
  rw [List.append_nil]
  simp [step, isContent]

end Texts

mutual

/-- Says that every part has a value and that every number reads back. -/
def Legible : Json → Prop
  | .null | .bool _ | .text _ => True
  | .number value => value.ReadsBack
  | .array items => LegibleItems items
  | .object entries => LegibleEntries entries
  | .unreadable => False

def LegibleItems : List Json → Prop
  | [] => True
  | item :: rest => item.Legible ∧ LegibleItems rest

def LegibleEntries : List (String × Json) → Prop
  | [] => True
  | (_, value) :: rest => value.Legible ∧ LegibleEntries rest

end

theorem legibleItems_iff {items : List Json} :
    LegibleItems items ↔ ∀ item ∈ items, item.Legible := by
  induction items with
  | nil => simp [LegibleItems]
  | cons item rest induction => rw [LegibleItems, induction, List.forall_mem_cons]

theorem legibleEntries_iff {entries : List (String × Json)} :
    LegibleEntries entries ↔ ∀ entry ∈ entries, entry.2.Legible := by
  induction entries with
  | nil => simp [LegibleEntries]
  | cons entry rest induction => rw [LegibleEntries, induction, List.forall_mem_cons]

mutual

theorem readable_of_legible : ∀ {json : Json}, json.Legible → json.readable = true
  | .null, _ => rfl
  | .bool _, _ => rfl
  | .number _, _ => rfl
  | .text _, _ => rfl
  | .array _, legible => readableItems_of_legible legible
  | .object _, legible => readableEntries_of_legible legible
  | .unreadable, legible => legible.elim

theorem readableItems_of_legible :
    ∀ {items : List Json}, LegibleItems items → readableItems items = true
  | [], _ => rfl
  | _ :: _, legible => by
      rw [readableItems, readable_of_legible legible.1,
        readableItems_of_legible legible.2]
      rfl

theorem readableEntries_of_legible :
    ∀ {entries : List (String × Json)}, LegibleEntries entries →
    readableEntries entries = true
  | [], _ => rfl
  | _ :: _, legible => by
      rw [readableEntries, readable_of_legible legible.1,
        readableEntries_of_legible legible.2]
      rfl

end

mutual

def tokens : Json → List Token
  | .null | .unreadable => [.atom .null]
  | .bool value => [.atom (.bool value)]
  | .number value => [.atom (.number value)]
  | .text content => [.text (some content)]
  | .array items => .openArray :: (tokensOfItems items ++ [.closeArray])
  | .object entries => .openObject :: (tokensOfEntries entries ++ [.closeObject])

def tokensOfItems : List Json → List Token
  | [] => []
  | [item] => item.tokens
  | item :: rest => item.tokens ++ .comma :: tokensOfItems rest

def tokensOfEntries : List (String × Json) → List Token
  | [] => []
  | [(key, value)] => .text (some key) :: .colon :: value.tokens
  | (key, value) :: rest =>
      .text (some key) :: .colon :: (value.tokens ++ .comma :: tokensOfEntries rest)

end

theorem run_key (before : List Token) (key : String) (rest : List Char) :
    run ⟨before, .between⟩ ((quote key).toList ++ ':' :: rest) =
      run ⟨.colon :: .text (some key) :: before, .between⟩ rest := by
  have colon : ∀ tokens,
    step ⟨tokens, .between⟩ ':' = some ⟨.colon :: tokens, .between⟩ := fun _ => rfl
  rw [run_quote, run_cons_of_step (colon _)]

theorem run_comma (before : List Token) (rest : List Char) :
    run ⟨before, .between⟩ (',' :: rest) = run ⟨.comma :: before, .between⟩ rest :=
  run_cons_of_step rfl rest

mutual

theorem run_compact : ∀ (json : Json), json.Legible → ∀ (before : List Token)
    (rest : List Char),
    endsToken rest = true →
      run ⟨before, .between⟩ (json.compact.toList ++ rest) =
        run ⟨json.tokens.reverse ++ before, .between⟩ rest
  | .null, _, before, _, ends => (run_word before ends).1
  | .bool true, _, before, _, ends => (run_word before ends).2.1
  | .bool false, _, before, _, ends => (run_word before ends).2.2
  | .number _, legible, before, _, ends => run_number legible before ends
  | .text content, _, before, rest, _ => run_quote before rest content
  | .unreadable, legible, _, _, _ => legible.elim
  | .array items, legible, before, rest, _ => by
      have opens : step ⟨before, .between⟩ '[' = some ⟨.openArray :: before, .between⟩ :=
        rfl
      have closes : ∀ tokens, step ⟨tokens, .between⟩ ']' =
        some ⟨.closeArray :: tokens, .between⟩ := fun _ => rfl
      have inside :=
        run_compactItems items legible (.openArray :: before) (']' :: rest) rfl
      have written : (Json.array items).compact.toList ++ rest =
          '[' :: ((compactItems items).toList ++ ']' :: rest) := by
        simp [compact]
      rw [written, run_cons_of_step opens, inside, run_cons_of_step (closes _)]
      simp [tokens]
  | .object entries, legible, before, rest, _ => by
      have opens : step ⟨before, .between⟩ '\x7b' =
        some ⟨.openObject :: before, .between⟩ := rfl
      have closes : ∀ tokens,
          step ⟨tokens, .between⟩ '\x7d' = some ⟨.closeObject :: tokens, .between⟩ :=
        fun _ => rfl
      have inside :=
        run_compactEntries entries legible (.openObject :: before) ('\x7d' :: rest) rfl
      have written : (Json.object entries).compact.toList ++ rest =
          '\x7b' :: ((compactEntries entries).toList ++ '\x7d' :: rest) := by
        simp [compact]
      rw [written, run_cons_of_step opens, inside, run_cons_of_step (closes _)]
      simp [tokens]

theorem run_compactItems : ∀ (items : List Json), LegibleItems items → ∀
    (before : List Token) (rest : List Char),
    endsToken rest = true →
      run ⟨before, .between⟩ ((compactItems items).toList ++ rest) =
        run ⟨(tokensOfItems items).reverse ++ before, .between⟩ rest
  | [], _, _, _, _ => rfl
  | [item], legible, before, rest, ends => run_compact item legible.1 before rest ends
  | item :: second :: others, legible, before, rest, ends => by
      have written : (compactItems (item :: second :: others)).toList ++ rest =
          item.compact.toList ++ ',' ::
            ((compactItems (second :: others)).toList ++ rest) := by
        simp [compactItems]
      rw [written, run_compact item legible.1 before _ rfl, run_comma,
        run_compactItems (second :: others) legible.2 _ _ ends]
      simp [tokensOfItems]

theorem run_compactEntries : ∀ (entries : List (String × Json)), LegibleEntries entries →
    ∀ (before : List Token) (rest : List Char), endsToken rest = true →
      run ⟨before, .between⟩ ((compactEntries entries).toList ++ rest) =
        run ⟨(tokensOfEntries entries).reverse ++ before, .between⟩ rest
  | [], _, _, _, _ => rfl
  | [(key, value)], legible, before, rest, ends => by
      have written : (compactEntries [(key, value)]).toList ++ rest =
          (quote key).toList ++ ':' :: (value.compact.toList ++ rest) := by
        simp [compactEntries]
      rw [written, run_key, run_compact value legible.1 _ _ ends]
      simp [tokensOfEntries]
  | (key, value) :: second :: others, legible, before, rest, ends => by
      have written : (compactEntries ((key, value) :: second :: others)).toList ++ rest =
          (quote key).toList ++ ':' :: (value.compact.toList ++
            ',' :: ((compactEntries (second :: others)).toList ++ rest)) := by
        simp [compactEntries]
      rw [written, run_key, run_compact value legible.1 _ _ rfl, run_comma,
        run_compactEntries (second :: others) legible.2 _ _ ends]
      simp [tokensOfEntries]

end

theorem scan_compact {json : Json} (legible : json.Legible) :
    scan json.compact.toList = some json.tokens := by
  have scanned := run_compact json legible [] [] rfl
  rw [List.append_nil, List.append_nil, run_nil] at scanned
  change run ⟨[], .between⟩ _ = _
  rw [scanned]
  simp [finish]

end BehaviorContract.Json
