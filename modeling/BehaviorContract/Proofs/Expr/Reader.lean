import BehaviorContract.Expr.Printer
import BehaviorContract.Text.Basic

/-! A reader of printed expressions. It takes one character at a time and keeps
what is open: brackets, and operators whose last operand is being read. An
operator is complete once something follows that needs no tighter operand than
the operator makes. -/

namespace BehaviorContract.Expr

def isWordChar (c : Char) : Bool :=
  c.isAlphanum || c == '_'

inductive Reader.Bracket where
  | list
  | arguments (callee : Expr)

/-- What is open. What has been read of it is kept in reverse. -/
inductive Reader.Frame where
  | unary (op : UnaryOp)
  | binary (left : Expr) (op : BinaryOp)
  | group
  | old
  | index (target : Expr)
  | items (bracket : Bracket) (before : List Expr)
  | fields (before : List (String × Expr))
  | field (before : List (String × Expr)) (key : String)

inductive Reader.Mode where
  | operand
  | word (seen : List Char)
  | text (seen : List Char)
  | escape (seen : List Char)
  | after (read : Expr)
  | property (target : Expr) (seen : List Char)
  | operator (left : Expr) (seen : List Char)
  | gap
  | key (seen : List Char)

structure Reader where
  frames : List Reader.Frame
  mode : Reader.Mode

namespace Reader

def Bracket.closing : Bracket → Char
  | .list => ']'
  | .arguments _ => ')'

def Bracket.enclose : Bracket → List Expr → Expr
  | .list, elements => .list elements
  | .arguments callee, elements => .call callee elements

/-- Completes the operators that are operand enough for what follows. -/
def reduce (needed : Nat) : List Frame → Expr → List Frame × Expr
  | .unary op :: frames, read =>
      if needed ≤ unaryPrecedence then reduce needed frames (.unary op read)
      else (.unary op :: frames, read)
  | .binary left op :: frames, read =>
      if needed ≤ op.precedence then reduce needed frames (.binary op left read)
      else (.binary left op :: frames, read)
  | frames, read => (frames, read)

def close (frames : List Frame) (read : Expr) (c : Char) : Option Reader :=
  match frames with
  | .group :: frames => if c = ')' then some ⟨frames, .after read⟩ else none
  | .old :: frames => if c = ')' then some ⟨frames, .after (.old read)⟩ else none
  | .index target :: frames =>
      if c = ']' then some ⟨frames, .after (.index target read)⟩ else none
  | .items bracket before :: frames =>
      if c = ',' then some ⟨.items bracket (read :: before) :: frames, .gap⟩
      else if c = bracket.closing then
        some ⟨frames, .after (bracket.enclose (read :: before).reverse)⟩
      else none
  | .field before key :: frames =>
      if c = ',' then some ⟨.fields ((key, read) :: before) :: frames, .gap⟩
      else if c = '\x7d' then some ⟨frames,
        .after (.object ((key, read) :: before).reverse)⟩
      else none
  | _ => none

def stepOperand (frames : List Frame) (c : Char) : Option Reader :=
  if isWordChar c then some ⟨frames, .word [c]⟩
  else
    match c with
    | '(' => some ⟨.group :: frames, .operand⟩
    | '[' => some ⟨.items .list [] :: frames, .operand⟩
    | '\x7b' => some ⟨.fields [] :: frames, .key []⟩
    | '"' => some ⟨frames, .text []⟩
    | '-' => some ⟨.unary .negate :: frames, .operand⟩
    | c =>
        match frames with
        | .items bracket [] :: frames =>
            if c = bracket.closing then some ⟨frames, .after (bracket.enclose [])⟩
            else none
        | _ => none

def stepAfter (frames : List Frame) (read : Expr) (c : Char) : Option Reader :=
  match c with
  | '.' => some ⟨frames, .property read []⟩
  | '[' => some ⟨.index read :: frames, .operand⟩
  | '(' => some ⟨.items (.arguments read) [] :: frames, .operand⟩
  | ' ' => some ⟨frames, .operator read []⟩
  | c => close (reduce 0 frames read).1 (reduce 0 frames read).2 c

def ofWord (word : String) : Expr :=
  if word = "null" then .literal .null
  else if word = "true" then .literal (.bool true)
  else if word = "false" then .literal (.bool false)
  else
    match Text.natOfChars? word.toList with
    | some number => .literal (.integer (Int64.ofNat number))
    | none => .identifier word

def stepWord (frames : List Frame) (word : String) (c : Char) : Option Reader :=
  if word = "not" ∧ c = ' ' then some ⟨.unary .not :: frames, .operand⟩
  else if word = "old" ∧ c = '(' then some ⟨.old :: frames, .operand⟩
  else stepAfter frames (ofWord word) c

def stepKey (frames : List Frame) (key : String) (c : Char) : Option Reader :=
  match frames, c with
  | .fields before :: frames, ':' => some ⟨.field before key :: frames, .gap⟩
  | .fields [] :: frames, '\x7d' =>
      if key = "" then some ⟨frames, .after (.object [])⟩ else none
  | _, _ => none

def step (reader : Reader) (c : Char) : Option Reader :=
  let frames := reader.frames
  match reader.mode with
  | .operand => stepOperand frames c
  | .word seen =>
      if isWordChar c then some ⟨frames, .word (c :: seen)⟩
      else stepWord frames (String.ofList seen.reverse) c
  | .text seen =>
      if c = '"' then some ⟨frames,
        .after (.literal (.text (String.ofList seen.reverse)))⟩
      else if c = '\\' then some ⟨frames, .escape seen⟩
      else some ⟨frames, .text (c :: seen)⟩
  | .escape seen => some ⟨frames, .text (c :: seen)⟩
  | .after read => stepAfter frames read c
  | .property target seen =>
      if isWordChar c then some ⟨frames, .property target (c :: seen)⟩
      else stepAfter frames (.member target (String.ofList seen.reverse)) c
  | .operator left seen =>
      if c = ' ' then
        (BinaryOp.ofSymbol? (String.ofList seen.reverse)).map fun op =>
          let reduced := reduce op.leftPrecedence frames left
          ⟨.binary reduced.2 op :: reduced.1, .operand⟩
      else some ⟨frames, .operator left (c :: seen)⟩
  | .gap =>
      if c = ' ' then
        match frames with
        | .fields _ :: _ => some ⟨frames, .key []⟩
        | _ => some ⟨frames, .operand⟩
      else none
  | .key seen =>
      if isWordChar c then some ⟨frames, .key (c :: seen)⟩
      else stepKey frames (String.ofList seen.reverse) c

def Mode.operand? : Mode → Option Expr
  | .after read => some read
  | .word seen => some (ofWord (String.ofList seen.reverse))
  | .property target seen => some (.member target (String.ofList seen.reverse))
  | _ => none

def finish (reader : Reader) : Option Expr :=
  reader.mode.operand?.bind fun read =>
    match reduce 0 reader.frames read with
    | ([], read) => some read
    | _ => none

def run (reader : Reader) (chars : List Char) : Option Expr :=
  (chars.foldlM step reader).bind finish

theorem run_nil (reader : Reader) : reader.run [] = reader.finish := rfl

theorem run_cons_of_step {reader next : Reader} {c : Char}
    (steps : reader.step c = some next) (rest : List Char) :
    reader.run (c :: rest) = next.run rest := by
  rw [run, List.foldlM_cons, steps]
  rfl

theorem run_while {frames : List Frame} {mode : List Char → Mode}
    {continues : Char → Bool} (steps : ∀ seen c,
      continues c = true → step ⟨frames, mode seen⟩ c = some ⟨frames, mode (c :: seen)⟩)
    {chars : List Char} (all : ∀ c ∈ chars, continues c = true) (seen rest : List Char) :
    run ⟨frames, mode seen⟩ (chars ++ rest) =
      run ⟨frames, mode (chars.reverse ++ seen)⟩ rest := by
  induction chars generalizing seen with
  | nil => rfl
  | cons c chars induction =>
      rw [List.forall_mem_cons] at all
      rw [List.cons_append, run_cons_of_step (steps seen c all.1), induction all.2,
        List.reverse_cons, List.append_assoc]
      rfl

section Reduce

theorem reduce_primary (frames : List Frame) (read : Expr) :
    reduce primaryPrecedence frames read = (frames, read) := by
  cases frames with
  | nil => rfl
  | cons frame frames =>
      cases frame with
      | binary left op => cases op <;> rfl
      | _ => rfl

def expected : List Frame → Nat
  | .unary _ :: _ => unaryPrecedence
  | .binary _ op :: _ => op.rightPrecedence
  | _ => 0

theorem precedence_le_leftPrecedence (op : BinaryOp) :
    op.precedence ≤ op.leftPrecedence := by
  unfold BinaryOp.leftPrecedence
  split <;> omega

theorem precedence_le_rightPrecedence (op : BinaryOp) :
    op.precedence ≤ op.rightPrecedence := by
  unfold BinaryOp.rightPrecedence
  split <;> omega

theorem precedence_lt_unary (op : BinaryOp) : op.precedence < unaryPrecedence := by
  cases op <;> decide

theorem one_lt_precedence {op : BinaryOp} (other : op ≠ .implies) :
    1 < op.precedence := by
  cases op
  case implies => exact absurd rfl other
  all_goals decide

theorem precedence_lt_leftPrecedence (first second : BinaryOp)
    (inside : first.rightPrecedence ≤ second.precedence) :
    first.precedence < second.leftPrecedence := by
  unfold BinaryOp.rightPrecedence at inside
  unfold BinaryOp.leftPrecedence
  split at inside <;> split
  · omega
  · rename_i isImplies other
    have more := one_lt_precedence other
    subst isImplies
    exact more
  · omega
  · omega

theorem reduce_of_expected_le {frames : List Frame} {op : BinaryOp}
    (inside : expected frames ≤ op.precedence) (read : Expr) :
    reduce op.leftPrecedence frames read = (frames, read) := by
  cases frames with
  | nil => rfl
  | cons frame frames =>
      cases frame with
      | unary other => exact absurd inside (Nat.not_le.2 (precedence_lt_unary op))
      | binary left other =>
          have notComplete := precedence_lt_leftPrecedence other op inside
          rw [reduce, if_neg (by omega)]
      | _ => rfl

end Reduce

section Leaves

variable (frames : List Frame)

def endsWord : List Char → Bool
  | [] => true
  | c :: _ => !isWordChar c

theorem run_settled {mode : Mode} {read : Expr} (isOperand : mode.operand? = some read)
    (steps : ∀ c, isWordChar c = false → step ⟨frames, mode⟩ c = stepAfter frames read c)
    {rest : List Char} (ends : endsWord rest = true) :
    run ⟨frames, mode⟩ rest = run ⟨frames, .after read⟩ rest := by
  cases rest with
  | nil =>
      rw [run_nil, run_nil, finish, isOperand]
      rfl
  | cons c rest =>
      have stops : isWordChar c = false := by simpa [endsWord] using ends
      rw [run, run, List.foldlM_cons, List.foldlM_cons, steps c stops]
      rfl

theorem run_word {word : String} (notEmpty : word ≠ "")
    (isWord : ∀ c ∈ word.toList, isWordChar c = true) (rest : List Char) :
    run ⟨frames, .operand⟩ (word.toList ++ rest) =
      run ⟨frames, .word word.toList.reverse⟩ rest := by
  cases split : word.toList with
  | nil => exact absurd (String.toList_eq_nil_iff.1 split) notEmpty
  | cons first more =>
      rw [split, List.forall_mem_cons] at isWord
      have starts : step ⟨frames, .operand⟩ first = some ⟨frames, .word [first]⟩ :=
        if_pos isWord.1
      have continues : ∀ seen c, isWordChar c = true →
          step ⟨frames, .word seen⟩ c = some ⟨frames, .word (c :: seen)⟩ :=
            fun _ _ isWord => if_pos isWord
      rw [List.cons_append, run_cons_of_step starts, run_while continues isWord.2,
        List.reverse_cons]

theorem run_operandWord {word : String} (notEmpty : word ≠ "")
    (isWord : ∀ c ∈ word.toList, isWordChar c = true) (notNot : word ≠ "not")
    (notOld : word ≠ "old") {rest : List Char} (ends : endsWord rest = true) :
    run ⟨frames, .operand⟩ (word.toList ++ rest) =
      run ⟨frames, .after (ofWord word)⟩ rest := by
  have whole : String.ofList word.toList.reverse.reverse = word := by simp
  rw [run_word frames notEmpty isWord]
  refine run_settled frames ?_ ?_ ends
  · rw [Mode.operand?, whole]
  · intro c stops
    simp [step, stepWord, stops, notNot, notOld]

theorem run_property (target : Expr) {property : String}
    (isWord : ∀ c ∈ property.toList, isWordChar c = true) {rest : List Char}
    (ends : endsWord rest = true) :
    run ⟨frames, .after target⟩ ('.' :: (property.toList ++ rest)) =
      run ⟨frames, .after (.member target property)⟩ rest := by
  have opens : step ⟨frames, .after target⟩ '.' = some ⟨frames, .property target []⟩ :=
    rfl
  have continues : ∀ seen c, isWordChar c = true →
      step ⟨frames, .property target seen⟩ c =
        some ⟨frames, .property target (c :: seen)⟩ :=
    fun _ _ isWord => if_pos isWord
  have whole : String.ofList (property.toList.reverse ++ []).reverse = property := by simp
  rw [run_cons_of_step opens, run_while continues isWord]
  refine run_settled frames ?_ ?_ ends
  · rw [Mode.operand?, whole]
  · intro c stops
    simp [step, stops]

theorem run_escapeLiteral (c : Char) (seen rest : List Char) :
    run ⟨frames, .text seen⟩ (escapeLiteral c ++ rest) =
      run ⟨frames, .text (c :: seen)⟩ rest := by
  unfold escapeLiteral
  split
  · have escapes : step ⟨frames, .text seen⟩ '\\' = some ⟨frames, .escape seen⟩ := rfl
    have taken : step ⟨frames, .escape seen⟩ c = some ⟨frames, .text (c :: seen)⟩ := rfl
    rw [List.cons_append, run_cons_of_step escapes, List.cons_append,
      run_cons_of_step taken, List.nil_append]
  · rename_i plain
    rw [not_or] at plain
    apply run_cons_of_step
    simp [step, plain]

theorem run_text (content : String) (rest : List Char) :
    run ⟨frames, .operand⟩ ((printLiteral (.text content)).toList ++ rest) =
      run ⟨frames, .after (.literal (.text content))⟩ rest := by
  have inside : ∀ (chars seen : List Char),
    run ⟨frames, .text seen⟩ (chars.flatMap escapeLiteral ++ '"' :: rest) =
      run ⟨frames, .after (.literal (.text (String.ofList (seen.reverse ++ chars))))⟩
        rest := by
    intro chars
    induction chars with
    | nil =>
        intro seen
        apply run_cons_of_step
        rw [List.append_nil]
        rfl
    | cons c chars induction =>
        intro seen
        rw [List.flatMap_cons, List.append_assoc, run_escapeLiteral, induction,
          List.reverse_cons, List.append_assoc]
        rfl
  have opens : step ⟨frames, .operand⟩ '"' = some ⟨frames, .text []⟩ := rfl
  have written : (printLiteral (.text content)).toList ++ rest =
      '"' :: (content.toList.flatMap escapeLiteral ++ '"' :: rest) := by
    simp [printLiteral]
  rw [written, run_cons_of_step opens, inside]
  simp

end Leaves

end Reader

/-- The expression that a text prints. -/
def read? (text : String) : Option Expr :=
  Reader.run ⟨[], .operand⟩ text.toList

end BehaviorContract.Expr
