import BehaviorContract.Proofs.Expr.Json
import BehaviorContract.Proofs.Expr.Reader
import BehaviorContract.Proofs.Text

/-! The text of an expression determines it. An operand ends where something
stands that continues no word, and what stands there says how tightly the
operand must bind; so the reader is followed over the text of an expression
together with whatever comes after it, and gives the expression back. Texts of
different expressions are therefore different. -/

namespace BehaviorContract

namespace Expr

/-- Says that a text is a name: letters, digits and underscores, and no digit in front. -/
def isName (text : String) : Bool :=
  match text.toList with
  | [] => false
  | first :: rest => (first.isAlpha || first == '_') && rest.all isWordChar

def reservedWords : List String :=
  ["not", "and", "or", "implies", "in", "old", "true", "false", "null"]

def isPlainLiteral : Value → Bool
  | .null | .bool _ | .text _ => true
  | .integer value => 0 ≤ value.toInt
  | _ => false

mutual

def isPlain : Expr → Bool
  | .literal value => isPlainLiteral value
  | .identifier name => isName name && !reservedWords.contains name
  | .member target property => target.isPlain && isName property
  | .index target position => target.isPlain && position.isPlain
  | .unary _ operand => operand.isPlain
  | .binary _ left right => left.isPlain && right.isPlain
  | .call callee arguments => callee.isPlain && listIsPlain arguments
  | .old expression => expression.isPlain
  | .list elements => listIsPlain elements
  | .object fields => fieldsArePlain fields

def listIsPlain : List Expr → Bool
  | [] => true
  | element :: rest => element.isPlain && listIsPlain rest

def fieldsArePlain : List (String × Expr) → Bool
  | [] => true
  | (key, value) :: rest => isName key && value.isPlain && fieldsArePlain rest

end

section Words

theorem not_isDigit_of_isAlpha {c : Char} (alpha : c.isAlpha = true) :
    c.isDigit = false := by
  have beyond : 65 ≤ c.val.toNat := by
    rcases Bool.or_eq_true_iff.1 alpha with upper | lower
    · exact (of_decide_eq_true upper).1
    · have fromLower : 97 ≤ c.val.toNat :=
        of_decide_eq_true (Bool.and_eq_true_iff.1 lower).1
      omega
  have notUpToNine : ¬ c.val.toNat ≤ 57 := by omega
  exact Bool.and_eq_false_iff.2 (.inr (decide_eq_false notUpToNine))

theorem isWordChar_of_isName {text : String} (name : isName text = true) :
    ∀ c ∈ text.toList, isWordChar c = true := by
  unfold isName at name
  split at name
  · cases name
  · rename_i first rest split
    rw [split, List.forall_mem_cons]
    rw [Bool.and_eq_true, List.all_eq_true] at name
    refine ⟨?_, name.2⟩
    rw [isWordChar, Char.isAlphanum, Bool.or_right_comm, name.1, Bool.true_or]

theorem ne_empty_of_isName {text : String} (name : isName text = true) : text ≠ "" := by
  rintro rfl
  cases name

theorem natOfChars?_of_isName {text : String} (name : isName text = true) :
    Text.natOfChars? text.toList = none := by
  unfold isName at name
  split at name
  · cases name
  · rename_i first rest split
    rw [Bool.and_eq_true, Bool.or_eq_true, beq_iff_eq] at name
    have notDigit : first.isDigit = false := by
      rcases name.1 with alpha | rfl
      · exact not_isDigit_of_isAlpha alpha
      · rfl
    simp [Text.natOfChars?, split, notDigit]

theorem ofWord_of_isName {name : String} (isName : isName name = true)
    (free : name ∉ reservedWords) :
    Reader.ofWord name = .identifier name := by
  simp only [reservedWords, List.mem_cons, not_or] at free
  simp [Reader.ofWord, free, natOfChars?_of_isName isName]

section Numbers

variable {word : String} {number : Nat}
  (isNumber : Text.natOfChars? word.toList = some number)

include isNumber

theorem ne_of_isNumber {other : String}
    (notNumber : Text.natOfChars? other.toList = none) : word ≠ other := by
  rintro rfl
  cases isNumber.symm.trans notNumber

theorem ofWord_of_isNumber :
    Reader.ofWord word = .literal (.integer (Int64.ofNat number)) := by
  rw [Reader.ofWord, if_neg (ne_of_isNumber isNumber rfl),
    if_neg (ne_of_isNumber isNumber rfl), if_neg (ne_of_isNumber isNumber rfl), isNumber]

theorem isWordChar_of_isNumber : ∀ c ∈ word.toList, isWordChar c = true := by
  intro c member
  obtain ⟨-, digits, -⟩ := Text.natOfChars?_eq_some_iff.1 isNumber
  rw [isWordChar, Char.isAlphanum, digits c member, Bool.or_true, Bool.true_or]

end Numbers

theorem natOfChars?_toDigits (number : Nat) :
    Text.natOfChars? (Nat.toDigits 10 number) = some number := by
  have digits : ∀ c ∈ Nat.toDigits 10 number, c.isDigit = true := fun c member =>
    Nat.isDigit_of_mem_toDigits (by decide) (by decide) member
  have value : Text.natOfDigits (Nat.toDigits 10 number) = number :=
    Nat.ofDigitChars_ten_toDigits
  exact Text.natOfChars?_eq_some_iff.2 ⟨Nat.toDigits_ne_nil, digits, value⟩

end Words

theorem printAt_eq (least : Nat) (expression : Expr) :
    printAt least expression =
      if expression.precedence < least then "(" ++ expression.print ++ ")"
      else expression.print := by
  cases expression <;> simp [printAt, print, precedence, parenthesized]

namespace Reader

/-- Says that a text ends an operand, and that it completes the operators that
are operand enough. -/
structure Ends (needed : Nat) (rest : List Char) : Prop where
  word : endsWord rest = true
  run_eq : ∀ {frames frames' : List Frame} {read read' : Expr},
    reduce needed frames read = reduce needed frames' read' →
      run ⟨frames, .after read⟩ rest = run ⟨frames', .after read'⟩ rest

theorem ends_nil : Ends 0 [] where
  word := rfl
  run_eq := by
    intro frames frames' read read' same
    rw [run_nil, run_nil, finish, finish]
    simp only [Mode.operand?, Option.bind_some, same]

theorem ends_of_close {c : Char} (closing : c ∈ [')', ']', '\x7d', ','])
    (rest : List Char) : Ends 0 (c :: rest) where
  word := by
    simp only [List.mem_cons, List.not_mem_nil, or_false] at closing
    rcases closing with rfl | rfl | rfl | rfl <;> rfl
  run_eq := by
    intro frames frames' read read' same
    have closes : ∀ frames read,
        step ⟨frames, .after read⟩ c =
        close (reduce 0 frames read).1 (reduce 0 frames read).2 c := by
      intro frames read
      simp only [List.mem_cons, List.not_mem_nil, or_false] at closing
      rcases closing with rfl | rfl | rfl | rfl <;> rfl
    rw [run, run, List.foldlM_cons, List.foldlM_cons, closes, closes, same]

theorem ends_of_suffix {c : Char} (follows : c ∈ ['.', '[', '(']) (rest : List Char) :
    Ends primaryPrecedence (c :: rest) where
  word := by
    simp only [List.mem_cons, List.not_mem_nil, or_false] at follows
    rcases follows with rfl | rfl | rfl <;> rfl
  run_eq := by
    intro frames frames' read read' same
    rw [reduce_primary, reduce_primary] at same
    cases same
    rfl

theorem run_operator (frames : List Frame) (left : Expr) (op : BinaryOp)
    (rest : List Char) :
    run ⟨frames, .after left⟩ (' ' :: (op.symbol.toList ++ ' ' :: rest)) =
      run ⟨.binary (reduce op.leftPrecedence frames left).2 op ::
        (reduce op.leftPrecedence frames left).1, .operand⟩
        rest := by
  have opens : step ⟨frames, .after left⟩ ' ' = some ⟨frames, .operator left []⟩ := rfl
  have continues : ∀ seen c, (c != ' ') = true →
      step ⟨frames, .operator left seen⟩ c =
        some ⟨frames, .operator left (c :: seen)⟩ := by
    intro seen c notBlank
    exact if_neg (by simpa using notBlank)
  have noBlank : op.symbol.toList.all (· != ' ') = true := by
    cases op <;> rfl
  rw [run_cons_of_step opens, run_while continues (List.all_eq_true.1 noBlank)]
  apply run_cons_of_step
  simp [step, op.ofSymbol?_symbol]

theorem ends_of_operator (op : BinaryOp) (rest : List Char) :
    Ends op.leftPrecedence (' ' :: (op.symbol.toList ++ ' ' :: rest)) where
  word := rfl
  run_eq := by
    intro frames frames' read read' same
    rw [run_operator, run_operator, same]

end Reader

open Reader

/-- Says that the reader takes the text of the expression for the expression,
wherever an operand of this precedence may stand and whatever it is operand
enough for. -/
def Reads (expression : Expr) : Prop :=
  ∀ (frames : List Frame) (needed : Nat) (rest : List Char),
    expected frames ≤ expression.precedence → needed ≤ expression.precedence →
      Ends needed rest →
      run ⟨frames, .operand⟩ (expression.print.toList ++ rest) =
        run ⟨frames, .after expression⟩ rest

section Reads

variable {expression : Expr} (reads : expression.Reads) {frames : List Frame}
  {rest : List Char}

include reads

theorem Reads.run_printAt (least : Nat) (fits : expected frames ≤ least) {needed : Nat}
    (enough : needed ≤ least) (ends : Ends needed rest) :
    run ⟨frames, .operand⟩ ((printAt least expression).toList ++ rest) =
      run ⟨frames, .after expression⟩ rest := by
  rw [printAt_eq]
  split
  · have opens : step ⟨frames, .operand⟩ '(' = some ⟨.group :: frames, .operand⟩ := rfl
    have closes : step ⟨.group :: frames, .after expression⟩ ')' =
      some ⟨frames, .after expression⟩ := rfl
    have inside := reads (.group :: frames) 0 (')' :: rest) (Nat.zero_le _)
      (Nat.zero_le _) (ends_of_close (by simp) rest)
    have written : ("(" ++ expression.print ++ ")").toList ++ rest =
        '(' :: (expression.print.toList ++ ')' :: rest) := by
      simp
    rw [written, run_cons_of_step opens, inside, run_cons_of_step closes]
  · rename_i tight
    have least_le := Nat.not_lt.1 tight
    exact reads frames needed rest (Nat.le_trans fits least_le)
      (Nat.le_trans enough least_le) ends

theorem Reads.run_target (fits : expected frames ≤ primaryPrecedence) {c : Char}
    (follows : c ∈ ['.', '[', '(']) :
    run ⟨frames, .operand⟩ ((printAt primaryPrecedence expression).toList ++ c :: rest) =
      run ⟨frames, .after expression⟩ (c :: rest) :=
  reads.run_printAt primaryPrecedence fits (Nat.le_refl _) (ends_of_suffix follows rest)

theorem Reads.run_part (bracketed : expected frames = 0) {c : Char}
    (closing : c ∈ [')', ']', '\x7d', ',']) :
    run ⟨frames, .operand⟩ ((printAt 0 expression).toList ++ c :: rest) =
      run ⟨frames, .after expression⟩ (c :: rest) :=
  reads.run_printAt 0 (Nat.le_of_eq bracketed) (Nat.le_refl _)
    (ends_of_close closing rest)

end Reads

section Constructors

theorem reads_word {word : String} {expression : Expr} (written : expression.print = word)
    (notEmpty : word ≠ "") (isWord : ∀ c ∈ word.toList, isWordChar c = true)
    (notNot : word ≠ "not") (notOld : word ≠ "old")
    (read : ofWord word = expression) : expression.Reads := by
  intro frames needed rest _ _ ends
  rw [written, run_operandWord frames notEmpty isWord notNot notOld ends.word, read]

theorem reads_identifier {name : String} (named : isName name = true)
    (free : name ∉ reservedWords) : (identifier name).Reads := by
  have notNot : name ≠ "not" := fun same => free (by simp [same, reservedWords])
  have notOld : name ≠ "old" := fun same => free (by simp [same, reservedWords])
  refine reads_word ?_ (ne_empty_of_isName named) (isWordChar_of_isName named) notNot
    notOld (ofWord_of_isName named free)
  simp [print, printAt, parenthesized]

theorem reads_literal {value : Value}
    (plain : isPlainLiteral value = true) : (literal value).Reads := by
  have written : (literal value).print = printLiteral value := by
    simp [print, printAt, parenthesized]
  cases value with
  | null =>
      exact reads_word written (by decide) (List.all_eq_true.1 rfl) (by decide)
        (by decide) rfl
  | bool value =>
      cases value with
      | true =>
          exact reads_word written (by decide) (List.all_eq_true.1 rfl) (by decide)
            (by decide) rfl
      | false =>
          exact reads_word written (by decide) (List.all_eq_true.1 rfl) (by decide)
            (by decide) rfl
  | integer value =>
      have natural : 0 ≤ value.toInt := of_decide_eq_true plain
      have back : Int64.ofNat value.toInt.toNat = value := by
        rw [← Int64.ofInt_eq_ofNat, Int.toNat_of_nonneg natural, Int64.ofInt_toInt]
      have digits : (printLiteral (.integer value)).toList =
          Nat.toDigits 10 value.toInt.toNat := by
        change (toString value.toInt).toList = _
        rw [← Int.toNat_of_nonneg natural, Int.toString_eq_repr]
        exact Nat.toList_repr
      have isNumber : Text.natOfChars? (printLiteral (.integer value)).toList =
          some value.toInt.toNat := by
        rw [digits]
        exact natOfChars?_toDigits _
      refine reads_word written (ne_of_isNumber isNumber rfl)
        (isWordChar_of_isNumber isNumber)
        (ne_of_isNumber isNumber rfl) (ne_of_isNumber isNumber rfl) ?_
      rw [ofWord_of_isNumber isNumber, back]
  | text content =>
      intro frames needed rest _ _ _
      rw [written]
      exact run_text frames content rest
  | _ => cases plain

theorem reads_member {target : Expr} (ofTarget : target.Reads) {property : String}
    (named : isName property = true) :
    (member target property).Reads := by
  intro frames needed rest fits _ ends
  have written : (member target property).print.toList ++ rest =
      (printAt primaryPrecedence target).toList ++ '.' :: (property.toList ++ rest) := by
    simp [print, printAt, parenthesized]
  rw [written, ofTarget.run_target fits (by simp)]
  exact run_property frames target (isWordChar_of_isName named) ends.word

theorem reads_index {target position : Expr} (ofTarget : target.Reads)
    (ofPosition : position.Reads) :
    (index target position).Reads := by
  intro frames needed rest fits _ ends
  have opens : step ⟨frames, .after target⟩ '[' =
    some ⟨.index target :: frames, .operand⟩ := rfl
  have closes : step ⟨.index target :: frames, .after position⟩ ']' =
    some ⟨frames, .after (.index target position)⟩ := rfl
  have written : (index target position).print.toList ++ rest =
      (printAt primaryPrecedence target).toList ++ '[' ::
        ((printAt 0 position).toList ++ ']' :: rest) := by
    simp [print, printAt, parenthesized]
  rw [written, ofTarget.run_target fits (by simp), run_cons_of_step opens,
    ofPosition.run_part rfl (by simp), run_cons_of_step closes]

theorem reads_unary (op : UnaryOp) {operand : Expr} (ofOperand : operand.Reads) :
    (unary op operand).Reads := by
  intro frames needed rest _ enough ends
  have opens : run ⟨frames, .operand⟩ ((unary op operand).print.toList ++ rest) =
      run ⟨.unary op :: frames, .operand⟩
        ((printAt unaryPrecedence operand).toList ++ rest) := by
    have written : (unary op operand).print =
        (if op = .not then "not " else "-") ++ printAt unaryPrecedence operand := by
      simp [print, printAt, parenthesized]
    rw [written, String.toList_append, List.append_assoc]
    cases op with
    | not => rfl
    | negate => rfl
  rw [opens, ofOperand.run_printAt unaryPrecedence (Nat.le_refl _) enough ends]
  apply ends.run_eq
  exact if_pos enough

theorem reads_binary (op : BinaryOp) {left right : Expr} (ofLeft : left.Reads)
    (ofRight : right.Reads) :
    (binary op left right).Reads := by
  intro frames needed rest fits enough ends
  have fitsLeft : expected frames ≤ op.leftPrecedence :=
    Nat.le_trans fits (precedence_le_leftPrecedence op)
  have enoughRight : needed ≤ op.rightPrecedence :=
    Nat.le_trans enough (precedence_le_rightPrecedence op)
  have written : (binary op left right).print.toList ++ rest =
      (printAt op.leftPrecedence left).toList ++
        ' ' :: (op.symbol.toList ++ ' ' ::
          ((printAt op.rightPrecedence right).toList ++ rest)) := by
    simp [print, printAt, parenthesized]
  rw [written, ofLeft.run_printAt op.leftPrecedence fitsLeft (Nat.le_refl _)
    (ends_of_operator op _), run_operator, reduce_of_expected_le fits,
    ofRight.run_printAt op.rightPrecedence (Nat.le_refl _) enoughRight ends]
  apply ends.run_eq
  exact if_pos enough

theorem reads_old {expression : Expr}
    (ofExpression : expression.Reads) : (old expression).Reads := by
  intro frames needed rest _ _ ends
  have opens : ∀ chars, run ⟨frames, .operand⟩ ('o' :: 'l' :: 'd' :: '(' :: chars) =
      run ⟨.old :: frames, .operand⟩ chars := fun _ => rfl
  have closes : step ⟨.old :: frames, .after expression⟩ ')' =
    some ⟨frames, .after (.old expression)⟩ := rfl
  have written : (old expression).print.toList ++ rest =
      'o' :: 'l' :: 'd' :: '(' :: ((printAt 0 expression).toList ++ ')' :: rest) := by
    simp [print, printAt, parenthesized]
  rw [written, opens, ofExpression.run_part rfl (by simp), run_cons_of_step closes]

theorem run_items {elements : List Expr}
    (ofElements : ∀ element ∈ elements, element.Reads) (notEmpty : elements ≠ [])
    (frames : List Frame) (bracket : Bracket) (before : List Expr) (rest : List Char) :
    run ⟨.items bracket before :: frames,
      .operand⟩ ((printList elements).toList ++ bracket.closing :: rest) =
      run ⟨frames, .after (bracket.enclose (before.reverse ++ elements))⟩ rest := by
  induction elements generalizing before with
  | nil => exact absurd rfl notEmpty
  | cons element others induction =>
      rw [List.forall_mem_cons] at ofElements
      cases others with
      | nil =>
          have closing : bracket.closing ∈ [')', ']', '\x7d', ','] := by
            cases bracket <;> simp [Bracket.closing]
          have closes : step ⟨.items bracket before :: frames,
            .after element⟩ bracket.closing =
              some ⟨frames, .after (bracket.enclose (element :: before).reverse)⟩ := by
            cases bracket <;> rfl
          rw [printList, ofElements.1.run_part rfl closing, run_cons_of_step closes,
            List.reverse_cons]
      | cons second others =>
          have comma : step ⟨.items bracket before :: frames, .after element⟩ ',' =
              some ⟨.items bracket (element :: before) :: frames, .gap⟩ := rfl
          have gap : step ⟨.items bracket (element :: before) :: frames, .gap⟩ ' ' =
              some ⟨.items bracket (element :: before) :: frames, .operand⟩ := rfl
          have written : (printList (element :: second :: others)).toList ++
            bracket.closing :: rest =
              (printAt 0 element).toList ++
                ',' :: ' ' :: ((printList (second :: others)).toList ++
                  bracket.closing :: rest) := by
            simp [printList]
          rw [written, ofElements.1.run_part rfl (by simp), run_cons_of_step comma,
            run_cons_of_step gap, induction ofElements.2 (by simp), List.reverse_cons,
            List.append_assoc]
          rfl

theorem run_bracketed {elements : List Expr}
    (ofElements : ∀ element ∈ elements, element.Reads) (frames : List Frame)
    (bracket : Bracket) (rest : List Char) :
    run ⟨.items bracket [] :: frames,
      .operand⟩ ((printList elements).toList ++ bracket.closing :: rest) =
      run ⟨frames, .after (bracket.enclose elements)⟩ rest := by
  cases elements with
  | nil =>
      have closes : step ⟨.items bracket [] :: frames, .operand⟩ bracket.closing =
          some ⟨frames, .after (bracket.enclose [])⟩ := by
        cases bracket <;> rfl
      exact run_cons_of_step closes rest
  | cons element others => exact run_items ofElements (by simp) frames bracket [] rest

theorem reads_call {callee : Expr} (ofCallee : callee.Reads) {arguments : List Expr}
    (ofArguments : ∀ argument ∈ arguments, argument.Reads) :
    (call callee arguments).Reads := by
  intro frames needed rest fits _ _
  have opens : step ⟨frames, .after callee⟩ '(' =
    some ⟨.items (.arguments callee) [] :: frames, .operand⟩ := rfl
  have written : (call callee arguments).print.toList ++ rest =
      (printAt primaryPrecedence callee).toList ++ '(' ::
        ((printList arguments).toList ++ ')' :: rest) := by
    simp [print, printAt, parenthesized]
  rw [written, ofCallee.run_target fits (by simp), run_cons_of_step opens]
  exact run_bracketed ofArguments frames (.arguments callee) rest

theorem reads_list {elements : List Expr}
    (ofElements : ∀ element ∈ elements, element.Reads) : (list elements).Reads := by
  intro frames needed rest _ _ _
  have opens : step ⟨frames, .operand⟩ '[' = some ⟨.items .list [] :: frames, .operand⟩ :=
    rfl
  have written : (list elements).print.toList ++ rest =
      '[' :: ((printList elements).toList ++ ']' :: rest) := by
    simp [print, printAt, parenthesized]
  rw [written, run_cons_of_step opens]
  exact run_bracketed ofElements frames .list rest

theorem run_key {key : String} (named : isName key = true) (frames : List Frame)
    (before : List (String × Expr)) (rest : List Char) :
    run ⟨.fields before :: frames, .key []⟩ (key.toList ++ ':' :: ' ' :: rest) =
      run ⟨.field before key :: frames, .operand⟩ rest := by
  have continues : ∀ seen c, isWordChar c = true →
      step ⟨.fields before :: frames, .key seen⟩ c =
        some ⟨.fields before :: frames, .key (c :: seen)⟩ :=
    fun _ _ isWord => if_pos isWord
  have whole : String.ofList (key.toList.reverse ++ []).reverse = key := by simp
  have colon : step ⟨.fields before :: frames, .key (key.toList.reverse ++ [])⟩ ':' =
      some ⟨.field before key :: frames, .gap⟩ := by
    change stepKey (.fields before :: frames)
      (String.ofList (key.toList.reverse ++ []).reverse) ':' = _
    rw [whole]
    rfl
  have gap : step ⟨.field before key :: frames, .gap⟩ ' ' =
    some ⟨.field before key :: frames, .operand⟩ := rfl
  rw [run_while continues (isWordChar_of_isName named), run_cons_of_step colon,
    run_cons_of_step gap]

theorem run_fields {fields : List (String × Expr)}
    (ofFields : ∀ field ∈ fields, isName field.1 = true ∧ field.2.Reads)
    (notEmpty : fields ≠ []) (frames : List Frame) (before : List (String × Expr))
    (rest : List Char) :
    run ⟨.fields before :: frames,
      .key []⟩ ((printFields fields).toList ++ '\x7d' :: rest) =
      run ⟨frames, .after (.object (before.reverse ++ fields))⟩ rest := by
  induction fields generalizing before with
  | nil => exact absurd rfl notEmpty
  | cons field others induction =>
      obtain ⟨key, value⟩ := field
      obtain ⟨⟨named, ofValue⟩, ofOthers⟩ := List.forall_mem_cons.1 ofFields
      cases others with
      | nil =>
          have closes : step ⟨.field before key :: frames, .after value⟩ '\x7d' =
              some ⟨frames, .after (.object ((key, value) :: before).reverse)⟩ := rfl
          have written : (printFields [(key, value)]).toList ++ '\x7d' :: rest =
              key.toList ++ ':' :: ' ' ::
                ((printAt 0 value).toList ++ '\x7d' :: rest) := by
            simp [printFields]
          rw [written, run_key named, ofValue.run_part rfl (by simp),
            run_cons_of_step closes, List.reverse_cons]
      | cons second others =>
          have comma : step ⟨.field before key :: frames, .after value⟩ ',' =
              some ⟨.fields ((key, value) :: before) :: frames, .gap⟩ := rfl
          have gap : step ⟨.fields ((key, value) :: before) :: frames, .gap⟩ ' ' =
              some ⟨.fields ((key, value) :: before) :: frames, .key []⟩ := rfl
          have written : (printFields ((key, value) :: second :: others)).toList ++
            '\x7d' :: rest =
              key.toList ++ ':' :: ' ' :: ((printAt 0 value).toList ++
                ',' :: ' ' :: ((printFields (second :: others)).toList ++
                  '\x7d' :: rest)) := by
            simp [printFields]
          rw [written, run_key named, ofValue.run_part rfl (by simp),
            run_cons_of_step comma, run_cons_of_step gap, induction ofOthers (by simp),
            List.reverse_cons, List.append_assoc]
          rfl

theorem reads_object {fields : List (String × Expr)}
    (ofFields : ∀ field ∈ fields, isName field.1 = true ∧ field.2.Reads) :
    (object fields).Reads := by
  intro frames needed rest _ _ _
  have opens : step ⟨frames, .operand⟩ '\x7b' = some ⟨.fields [] :: frames, .key []⟩ :=
    rfl
  have written : (object fields).print.toList ++ rest =
      '\x7b' :: ((printFields fields).toList ++ '\x7d' :: rest) := by
    simp [print, printAt, parenthesized]
  rw [written, run_cons_of_step opens]
  cases fields with
  | nil => rfl
  | cons field others => exact run_fields ofFields (by simp) frames [] rest

end Constructors

mutual

theorem reads_of_isPlain : ∀
    {expression : Expr}, expression.isPlain = true → expression.Reads
  | .literal _, plain => reads_literal plain
  | .identifier name, plain => by
      simp only [isPlain, Bool.and_eq_true, Bool.not_eq_true', List.contains_eq_mem,
        decide_eq_false_iff_not] at plain
      exact reads_identifier plain.1 plain.2
  | .member _ _, plain => by
      rw [isPlain, Bool.and_eq_true] at plain
      exact reads_member (reads_of_isPlain plain.1) plain.2
  | .index _ _, plain => by
      rw [isPlain, Bool.and_eq_true] at plain
      exact reads_index (reads_of_isPlain plain.1) (reads_of_isPlain plain.2)
  | .unary op _, plain => reads_unary op (reads_of_isPlain plain)
  | .binary op _ _, plain => by
      rw [isPlain, Bool.and_eq_true] at plain
      exact reads_binary op (reads_of_isPlain plain.1) (reads_of_isPlain plain.2)
  | .call _ _, plain => by
      rw [isPlain, Bool.and_eq_true] at plain
      exact reads_call (reads_of_isPlain plain.1) (reads_of_listIsPlain plain.2)
  | .old _, plain => reads_old (reads_of_isPlain plain)
  | .list _, plain => reads_list (reads_of_listIsPlain plain)
  | .object _, plain => reads_object (reads_of_fieldsArePlain plain)

theorem reads_of_listIsPlain : ∀ {elements : List Expr}, listIsPlain elements = true →
    ∀ element ∈ elements, element.Reads
  | [], _ => by simp
  | _ :: _, plain => by
      rw [listIsPlain, Bool.and_eq_true] at plain
      exact List.forall_mem_cons.2 ⟨reads_of_isPlain plain.1,
        reads_of_listIsPlain plain.2⟩

theorem reads_of_fieldsArePlain :
    ∀ {fields : List (String × Expr)}, fieldsArePlain fields = true →
    ∀ field ∈ fields, isName field.1 = true ∧ field.2.Reads
  | [], _ => by simp
  | (_, _) :: _, plain => by
      rw [fieldsArePlain, Bool.and_eq_true, Bool.and_eq_true] at plain
      exact List.forall_mem_cons.2 ⟨⟨plain.1.1, reads_of_isPlain plain.1.2⟩,
        reads_of_fieldsArePlain plain.2⟩

end

theorem read?_print {expression : Expr} (plain : expression.isPlain = true) :
    read? expression.print = some expression := by
  have read := reads_of_isPlain plain [] 0 [] (Nat.zero_le _) (Nat.zero_le _) ends_nil
  rw [List.append_nil] at read
  rw [read?, read]
  rfl

theorem print_ne_of_plain {first second : Expr} (firstPlain : first.isPlain = true)
    (secondPlain : second.isPlain = true) (different : first ≠ second) :
    first.print ≠ second.print := by
  intro same
  have ofFirst := read?_print firstPlain
  rw [same, read?_print secondPlain] at ofFirst
  exact different (Option.some.inj ofFirst).symm

/-- A difference whose left side is a difference. Without parentheses the other
nesting would print the same. -/
def leftNested : Expr :=
  (Expr.identifier "a").minus (.identifier "b") |>.minus (.identifier "c")

def rightNested : Expr :=
  (Expr.identifier "a").minus ((Expr.identifier "b").minus (.identifier "c"))

theorem print_ne_of_plain_nested :
    leftNested.isPlain = true ∧ rightNested.isPlain = true ∧ leftNested ≠ rightNested ∧
      leftNested.print = "a - b - c" ∧ rightNested.print = "a - (b - c)" ∧
        leftNested.print ≠ rightNested.print := by
  have different : leftNested ≠ rightNested := by
    intro same
    cases same
  exact ⟨rfl, rfl, different, rfl, rfl, print_ne_of_plain rfl rfl different⟩

end Expr

end BehaviorContract
