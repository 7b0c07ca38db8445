import BehaviorContract.Proofs.Clause.Names
import BehaviorContract.Report.Format

namespace BehaviorContract

namespace Text

/-- What stands between the line ends of a text. After an end of the last line
there is one more, which is empty. -/
def lines (text : String) : List String :=
  (text.toList.splitOn '\n').map String.ofList

theorem lines_append_end (text rest : String) :
    lines (text ++ "\n" ++ rest) = lines text ++ lines rest := by
  have chars : (text ++ "\n" ++ rest).toList = text.toList ++ '\n' :: rest.toList := by
    simp
  rw [lines, chars, List.splitOn_append_cons_self, List.map_append, lines, lines]

theorem lines_of_not_mem {text : String} (oneLine : '\n' ∉ text.toList) :
    lines text = [text] := by
  rw [lines, List.splitOn_eq_singleton oneLine, List.map_singleton, String.ofList_toList]

theorem lines_unlines (texts : List String) :
    lines (unlines texts) = texts.flatMap lines ++ [""] := by
  induction texts with
  | nil => rfl
  | cons text rest induction =>
      have joined : unlines (text :: rest) = text ++ "\n" ++ unlines rest := by
        simp [unlines]
      rw [joined, lines_append_end, induction, List.flatMap_cons, List.append_assoc]

def ended (line : String) : List Char :=
  '\n' :: line.toList ++ ['\n']

theorem mem_lines_of_infix {text line : String} (oneLine : '\n' ∉ line.toList)
    (held : ended line <:+: text.toList) :
    line ∈ lines text := by
  obtain ⟨before, after, split⟩ := held
  have chars : text.toList = before ++ '\n' :: (line.toList ++ '\n' :: after) := by
    rw [← split]
    simp [ended]
  rw [lines, chars, List.splitOn_append_cons_self,
    List.splitOn_append_cons_self_of_not_mem oneLine]
  simp

private theorem infix_of_mem_splitOn {chars line : List Char}
    (member : line ∈ chars.splitOn '\n') :
    '\n' ∉ line ∧ '\n' :: line ++ ['\n'] <:+: '\n' :: chars ++ ['\n'] := by
  induction measured : chars.length using Nat.strongRecOn generalizing chars with
  | ind size induction =>
      by_cases more : '\n' ∈ chars
      · obtain ⟨first, rest, rfl, oneLine⟩ := List.eq_append_cons_of_mem more
        rw [List.splitOn_append_cons_self_of_not_mem oneLine] at member
        rcases List.mem_cons.1 member with rfl | later
        · exact ⟨oneLine, [], rest ++ ['\n'], by simp⟩
        · have shorter : rest.length < size := by
            rw [← measured, List.length_append, List.length_cons]
            omega
          obtain ⟨free, inside⟩ := induction rest.length shorter later rfl
          exact ⟨free, inside.trans ⟨'\n' :: first, [], by simp⟩⟩
      · rw [List.splitOn_eq_singleton more] at member
        rw [List.mem_singleton.1 member]
        exact ⟨more, List.infix_rfl⟩

theorem infix_of_mem_lines {text line : String} (member : line ∈ lines text) :
    '\n' ∉ line.toList ∧ ended line <:+: '\n' :: text.toList ++ ['\n'] := by
  obtain ⟨chars, inside, rfl⟩ := List.mem_map.1 member
  rw [ended, String.toList_ofList]
  exact infix_of_mem_splitOn inside

def barsAfter (previous : Char) : List Char → Nat
  | [] => 0
  | c :: rest => (if c = '|' ∧ previous ≠ '\\' then 1 else 0) + barsAfter c rest

/-- How many bars of a line have no backslash before them. -/
def bareBars (line : String) : Nat :=
  barsAfter '\n' line.toList

section Bars

variable {previous other c : Char}

theorem barsAfter_bar (bare : previous ≠ '\\') (rest : List Char) :
    barsAfter previous ('|' :: rest) = 1 + barsAfter '|' rest := by
  rw [barsAfter, if_pos ⟨rfl, bare⟩]

theorem barsAfter_guarded (rest : List Char) :
    barsAfter '\\' ('|' :: rest) = barsAfter '|' rest := by
  rw [barsAfter, if_neg (by simp), Nat.zero_add]

theorem barsAfter_cons (notBar : c ≠ '|') (rest : List Char) :
    barsAfter previous (c :: rest) = barsAfter c rest := by
  rw [barsAfter, if_neg (fun bar => notBar bar.1), Nat.zero_add]

theorem barsAfter_append_cons (notBar : c ≠ '|') (first rest : List Char) :
    barsAfter previous (first ++ c :: rest) =
      barsAfter previous first + barsAfter c rest := by
  induction first generalizing previous with
  | nil => rw [List.nil_append, barsAfter_cons notBar, barsAfter, Nat.zero_add]
  | cons head first induction =>
      rw [List.cons_append, barsAfter, barsAfter, induction, Nat.add_assoc]

theorem barsAfter_congr (bare : previous ≠ '\\') (otherBare : other ≠ '\\')
    (chars : List Char) :
    barsAfter previous chars = barsAfter other chars := by
  cases chars with
  | nil => rfl
  | cons c rest => simp [barsAfter, bare, otherBare]

theorem barsAfter_of_not_mem {chars : List Char} (noBar : '|' ∉ chars) :
    barsAfter previous chars = 0 := by
  induction chars generalizing previous with
  | nil => rfl
  | cons c rest induction =>
      rw [List.mem_cons, not_or] at noBar
      rw [barsAfter_cons (Ne.symm noBar.1), induction noBar.2]

end Bars

/-- Says that a text can stand in a cell as it is: on one line, and with no bar
that would end the cell. -/
def FitsCell (text : String) : Prop :=
  '\n' ∉ text.toList ∧ bareBars text = 0

instance (text : String) : Decidable (FitsCell text) :=
  inferInstanceAs (Decidable (_ ∧ _))

theorem fitsCell_of_toList {text first second : String} {c : Char}
    (joined : text.toList = first.toList ++ c :: second.toList) (notEnd : c ≠ '\n')
    (notBar : c ≠ '|') (notBackslash : c ≠ '\\') :
    FitsCell text ↔ FitsCell first ∧ FitsCell second := by
  have bars : bareBars text = bareBars first + bareBars second := by
    rw [bareBars, joined, barsAfter_append_cons notBar,
      barsAfter_congr notBackslash (by decide : '\n' ≠ '\\')]
    rfl
  have ends : '\n' ∉ text.toList ↔ '\n' ∉ first.toList ∧ '\n' ∉ second.toList := by
    rw [joined, List.mem_append, List.mem_cons]
    simp [Ne.symm notEnd]
  rw [FitsCell, FitsCell, FitsCell, bars, ends, Nat.add_eq_zero_iff]
  constructor
  · rintro ⟨⟨firstLine, secondLine⟩, firstBars, secondBars⟩
    exact ⟨⟨firstLine, firstBars⟩, secondLine, secondBars⟩
  · rintro ⟨⟨firstLine, firstBars⟩, secondLine, secondBars⟩
    exact ⟨⟨firstLine, secondLine⟩, firstBars, secondBars⟩

theorem fitsCell_underscore (first second : String) :
    FitsCell (first ++ "_" ++ second) ↔ FitsCell first ∧ FitsCell second := by
  have joined : (first ++ "_" ++ second).toList =
    first.toList ++ '_' :: second.toList := by simp
  exact fitsCell_of_toList joined (by decide) (by decide) (by decide)

theorem fitsCell_toString (number : Int) : FitsCell (toString number) :=
  ⟨not_mem_toString_int (by decide) (by decide) number,
    barsAfter_of_not_mem (not_mem_toString_int (by decide) (by decide) number)⟩

theorem fitsCell_clauseName (label : String) (number : Nat) :
    FitsCell (clauseName label number) ↔ FitsCell label := by
  rw [clauseName, fitsCell_underscore]
  exact and_iff_left (fitsCell_toString number)

theorem fitsCell_numberedName (name : String) (number : Int) :
    FitsCell (numberedName name number) ↔ FitsCell name := by
  have joined : (numberedName name number).toList =
      name.toList ++ '#' :: (toString number).toList := by
    simp [numberedName]
  rw [fitsCell_of_toList joined (by decide) (by decide) (by decide),
    and_iff_left (fitsCell_toString number)]

end Text

open Text

def escapedChar (c : Char) : List Char :=
  if c = '|' then ['\\', '|'] else if c = '\n' then [' '] else [c]

theorem toList_escapeCell (text : String) :
    (escapeCell text).toList = text.toList.flatMap escapedChar := by
  rw [escapeCell, String.toList_ofList]
  congr 1
  funext c
  unfold escapedChar
  split
  · rfl
  · rfl
  · rename_i notBar notEnd
    rw [if_neg notBar, if_neg notEnd]

theorem barsAfter_escapeCell (previous : Char) (text : String) :
    barsAfter previous (escapeCell text).toList = 0 := by
  rw [toList_escapeCell]
  induction text.toList generalizing previous with
  | nil => rfl
  | cons c rest induction =>
      rw [List.flatMap_cons, escapedChar]
      split
      · rw [List.cons_append, List.singleton_append, barsAfter_cons (by decide),
          barsAfter_guarded, induction]
      · split
        · rw [List.singleton_append, barsAfter_cons (by decide), induction]
        · rename_i notBar notEnd
          rw [List.singleton_append, barsAfter_cons notBar, induction]

theorem not_mem_escapeCell (text : String) : '\n' ∉ (escapeCell text).toList := by
  rw [toList_escapeCell]
  intro member
  obtain ⟨c, -, inside⟩ := List.mem_flatMap.1 member
  unfold escapedChar at inside
  split at inside
  · simp at inside
  · split at inside
    · simp at inside
    · rename_i notBar notEnd
      exact notEnd (List.mem_singleton.1 inside).symm

def cell (content : List Char) : List Char :=
  ' ' :: (content ++ [' ', '|'])

def quoted (content : List Char) : List Char :=
  '`' :: (content ++ ['`'])

theorem barsAfter_cell (content rest : List Char) :
    barsAfter '|' (cell content ++ rest) =
      barsAfter ' ' content + 1 + barsAfter '|' rest := by
  have chars : cell content ++ rest = ' ' :: (content ++ ' ' :: '|' :: rest) := by
    simp [cell]
  rw [chars, barsAfter_cons (by decide), barsAfter_append_cons (by decide),
    barsAfter_bar (by decide), Nat.add_assoc]

theorem barsAfter_quoted (previous : Char) (content : List Char) :
    barsAfter previous (quoted content) = barsAfter '`' content := by
  rw [quoted, barsAfter_cons (by decide), barsAfter_append_cons (by decide),
    barsAfter, Nat.add_zero]

namespace Check

theorem detail_eq_escapeCell (check : Check) :
    ∃ text, check.detail = escapeCell text := by
  unfold detail
  split
  · exact ⟨_, rfl⟩
  · split
    · exact ⟨"", rfl⟩
    · exact ⟨_, rfl⟩
  · exact ⟨"", rfl⟩

def status (check : Check) : String :=
  if check.passed then "pass" else "FAIL"

theorem fitsCell_status (check : Check) : FitsCell check.status := by
  unfold status
  split
  · decide
  · decide

theorem toList_row (check : Check) :
    check.row.toList =
      '|' :: (cell check.status.toList ++ (cell (quoted check.name.toList) ++
        (cell (quoted (escapeCell check.expression).toList) ++
          (cell check.detail.toList ++ [])))) := by
  simp [row, status, cell, quoted]

/-- All cells but that of the name are safe, so a row has its five bars and
those of the name. -/
theorem bareBars_row (check : Check) : bareBars check.row = 5 + bareBars check.name := by
  obtain ⟨text, isDetail⟩ := check.detail_eq_escapeCell
  have ofStatus : barsAfter ' ' check.status.toList = 0 :=
    (barsAfter_congr (by decide) (by decide) _).trans check.fitsCell_status.2
  have ofName : barsAfter '`' check.name.toList = bareBars check.name :=
    barsAfter_congr (by decide) (by decide) _
  calc
    bareBars check.row =
        1 + (0 + 1 +
          (bareBars check.name + 1 + (0 + 1 + (0 + 1 + barsAfter '|' [])))) := by
      rw [bareBars, toList_row, isDetail, barsAfter_bar (by decide), barsAfter_cell,
        barsAfter_cell, barsAfter_cell, barsAfter_cell, barsAfter_quoted,
        barsAfter_quoted, ofStatus, ofName, barsAfter_escapeCell, barsAfter_escapeCell]
    _ = 5 + bareBars check.name := by
      rw [barsAfter]
      omega

theorem newline_mem_row (check : Check) :
    '\n' ∈ check.row.toList ↔ '\n' ∈ check.name.toList := by
  obtain ⟨text, isDetail⟩ := check.detail_eq_escapeCell
  rw [toList_row, isDetail]
  simp [cell, quoted, check.fitsCell_status.1, not_mem_escapeCell]

/-- A row is one line of four cells exactly when the name of its check fits into
a cell. -/
theorem row_whole_iff (check : Check) :
    '\n' ∉ check.row.toList ∧ bareBars check.row = 5 ↔ FitsCell check.name := by
  rw [newline_mem_row, bareBars_row, FitsCell, Nat.add_eq_left]

end Check

end BehaviorContract
