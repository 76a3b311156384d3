import LanguageClient.Editor.Buffer
import LanguageClient.Proofs.Text.Lines

/-! Points of a text. A point is where a walk over the first characters of the text ends, so the
points on the lines of a text and the numbers of characters before them determine each other.
-/

namespace LanguageClient

namespace TextPoint

/-- The point where every text starts. -/
def origin : TextPoint where
  line := 0
  column := 0

/-- The point behind a character at a point. -/
def next (point : TextPoint) (char : Char) : TextPoint :=
  if char = '\n' then
    { line := point.line + 1, column := 0 }
  else
    { line := point.line, column := point.column + 1 }

/-- The point behind a text that starts at a point. -/
def behind (point : TextPoint) (text : List Char) : TextPoint :=
  text.foldl next point

@[simp] theorem behind_nil (point : TextPoint) : point.behind [] = point :=
  rfl

@[simp] theorem behind_cons (point : TextPoint) (char : Char) (rest : List Char)
    : point.behind (char :: rest) = (point.next char).behind rest :=
  rfl

theorem behind_append (point : TextPoint) (front back : List Char)
    : point.behind (front ++ back) = (point.behind front).behind back :=
  List.foldl_append

theorem next_newline (point : TextPoint)
    : point.next '\n' = { line := point.line + 1, column := 0 } :=
  if_pos rfl

theorem next_ordinary (point : TextPoint) {char : Char} (ordinary : char ≠ '\n')
    : point.next char = { line := point.line, column := point.column + 1 } :=
  if_neg ordinary

end TextPoint

namespace Text

open TextBuffer (lengthOfLines)

/-- A text ends behind its last line: in the column that this line reaches, unless it is the first
one, which starts where the text does. By induction on the text.
-/
theorem behind_splitLines (text : List Char) (point : TextPoint)
    : point.behind text
      = if (splitLines text).length ≤ 1 then
          { line := point.line, column := point.column + ((splitLines text).getLastD []).length }
        else
          {
            line := point.line + (splitLines text).length - 1
            column := ((splitLines text).getLastD []).length
          } := by
  induction text generalizing point with
  | nil => rfl
  | cons char rest ih =>
      obtain ⟨first, others, lines⟩ := splitLines_eq_cons rest
      rw [TextPoint.behind_cons, ih, lines]
      by_cases newline : char = '\n'
      · subst newline
        rw [splitLines_newline, lines, point.next_newline]
        cases others with
        | nil => simp
        | cons other others =>
            simp only [List.length_cons, List.getLastD_cons]
            rw [if_neg (by omega), if_neg (by omega)]
            congr 1
            omega
      · rw [splitLines_cons newline lines, point.next_ordinary newline]
        cases others with
        | nil =>
            simp only [List.length_cons, List.length_nil, List.getLastD_cons, List.getLastD_nil]
            rw [if_pos (by omega), if_pos (by omega)]
            congr 1
            omega
        | cons other others =>
            simp only [List.length_cons, List.getLastD_cons]
            rw [if_neg (by omega), if_neg (by omega)]

/-- A column of a line is behind as many characters as the lines before it and the column have
together.
-/
theorem behind_take {text line : List Char} {number column : Nat}
    (found : (splitLines text)[number]? = some line) (within : column ≤ line.length)
    (start : TextPoint)
    : start.behind (text.take (lengthOfLines ((splitLines text).take number) + column))
      = {
          line := start.line + number
          column := if number = 0 then start.column + column else column
        } := by
  obtain ⟨inside, rfl⟩ := List.getElem?_eq_some_iff.mp found
  have plain {line : List Char} (listed : line ∈ splitLines text) : '\n' ∉ line :=
    fun newline => (mem_of_mem_splitLines listed newline).1 rfl
  have lines
      : splitLines (text.take (lengthOfLines ((splitLines text).take number) + column))
        = (splitLines text).take number ++ [(splitLines text)[number].take column] := by
    rw [take_of_line found within,
      splitLines_linesBefore fun line listed => plain (List.mem_of_mem_take listed),
      splitLines_of_plain fun newline =>
        plain (List.getElem_mem inside) (List.mem_of_mem_take newline)]
  have count
      : ((splitLines text).take number ++ [(splitLines text)[number].take column]).length
        = number + 1 := by
    simp [Nat.min_eq_left (Nat.le_of_lt inside)]
  rw [behind_splitLines, lines, count, List.getLastD_concat, List.length_take_of_le within]
  cases number with
  | zero => simp
  | succ number => simp [Nat.add_assoc]

/-- There is a column of a line behind any first characters of a text, by induction on the text. -/
theorem exists_column {text : List Char} {count : Nat} (within : count ≤ text.length)
    : ∃ number line column,
        (splitLines text)[number]? = some line
        ∧ column ≤ line.length
        ∧ lengthOfLines ((splitLines text).take number) + column = count := by
  induction text generalizing count with
  | nil =>
      obtain rfl := Nat.le_zero.mp within
      exact ⟨0, [], 0, rfl, Nat.le_refl 0, rfl⟩
  | cons char rest ih =>
      obtain ⟨first, others, lines⟩ := splitLines_eq_cons rest
      cases count with
      | zero =>
          obtain ⟨top, more, all⟩ := splitLines_eq_cons (char :: rest)
          exact ⟨0, top, 0, by rw [all]; rfl, Nat.zero_le _, rfl⟩
      | succ count =>
          obtain ⟨number, line, column, found, fits, reached⟩ :=
            ih (Nat.le_of_succ_le_succ within)
          by_cases newline : char = '\n'
          · subst newline
            refine ⟨number + 1, line, column, found, fits, ?_⟩
            rw [splitLines_newline, List.take_succ_cons, lengthOfLines, List.length_nil]
            omega
          · rw [lines] at found reached
            rw [splitLines_cons newline lines]
            cases number with
            | zero =>
                obtain rfl := Option.some.inj found
                rw [List.take_zero, lengthOfLines, Nat.zero_add] at reached
                refine ⟨0, char :: first, column + 1, rfl, Nat.succ_le_succ fits, ?_⟩
                rw [List.take_zero, lengthOfLines, reached]
                omega
            | succ number =>
                rw [List.take_succ_cons, lengthOfLines] at reached
                refine ⟨number + 1, line, column, found, fits, ?_⟩
                rw [List.take_succ_cons, lengthOfLines, List.length_cons]
                omega

theorem lengthOfLines_append (lines more : List (List Char))
    : lengthOfLines (lines ++ more) = lengthOfLines lines + lengthOfLines more := by
  induction lines with
  | nil => exact (Nat.zero_add _).symm
  | cons line rest ih =>
      rw [List.cons_append, lengthOfLines, lengthOfLines, ih]
      omega

/-- One more line has as many characters more, and a newline. -/
theorem lengthOfLines_take_succ {lines : List (List Char)} {line : List Char} {number : Nat}
    (found : lines[number]? = some line)
    : lengthOfLines (lines.take (number + 1))
      = lengthOfLines (lines.take number) + line.length + 1 := by
  rw [List.take_add_one, found, lengthOfLines_append]
  rfl

/-- There are no more characters in some first lines than in all. -/
theorem lengthOfLines_take_le (lines : List (List Char)) (number : Nat)
    : lengthOfLines (lines.take number) ≤ lengthOfLines lines := by
  have all := lengthOfLines_append (lines.take number) (lines.drop number)
  rw [List.take_append_drop] at all
  omega

/-- No newline is behind the last line. -/
theorem lengthOfLines_eq {lines : List (List Char)} (inhabited : lines ≠ [])
    : lengthOfLines lines = (joinLines lines).length + 1 := by
  rw [← length_linesBefore, linesBefore_eq inhabited, List.length_append]
  rfl

end Text

namespace TextBuffer

/-- A point is on an existing line, in a column that the line reaches. -/
def Holds (buffer : TextBuffer) (point : TextPoint) : Prop :=
  ∃ line, buffer.line? point.line = some line ∧ point.column ≤ line.length

theorem Holds.lineLength {buffer : TextBuffer} {point : TextPoint} (held : buffer.Holds point)
    : point.line < buffer.lines.length ∧ point.column ≤ buffer.lineLength point.line := by
  obtain ⟨line, found, within⟩ := held
  obtain ⟨inside, -⟩ := List.getElem?_eq_some_iff.mp found
  rw [TextBuffer.lineLength, found]
  exact ⟨inside, within⟩

/-- A point is held if its line exists and its column is not past the end of it. -/
theorem holds_of_le {buffer : TextBuffer} {point : TextPoint}
    (inside : point.line < buffer.lines.length)
    (within : point.column ≤ buffer.lineLength point.line)
    : buffer.Holds point := by
  have found : buffer.line? point.line = some buffer.lines[point.line] :=
    List.getElem?_eq_getElem inside
  rw [TextBuffer.lineLength, found] at within
  exact ⟨_, found, within⟩

/-- A point that is held is the nearest one. -/
theorem Holds.clamp {buffer : TextBuffer} {point : TextPoint} (held : buffer.Holds point)
    : buffer.clamp point = point := by
  obtain ⟨inside, within⟩ := held.lineLength
  have line : min point.line (buffer.lines.length - 1) = point.line := by omega
  rw [TextBuffer.clamp, line, Nat.min_eq_left within]

/-- In a buffer with lines, there is a nearest point to any point. -/
theorem clamp_holds {buffer : TextBuffer} (inhabited : buffer.lines ≠ []) (point : TextPoint)
    : buffer.Holds (buffer.clamp point) := by
  have lines := List.length_pos_iff.mpr inhabited
  refine holds_of_le ?_ (Nat.min_le_right _ _)
  dsimp only [TextBuffer.clamp]
  omega

/-- The characters before a point on the lines are those of the lines before its line, with their
newlines, and those before it on its line.
-/
theorem Holds.offset {buffer : TextBuffer} {point : TextPoint} (held : buffer.Holds point)
    : buffer.offset point = lengthOfLines (buffer.lines.take point.line) + point.column := by
  rw [TextBuffer.offset, held.clamp]

theorem offset_clamp (buffer : TextBuffer) (inhabited : buffer.lines ≠ []) (point : TextPoint)
    : buffer.offset (buffer.clamp point) = buffer.offset point := by
  rw [TextBuffer.offset, (clamp_holds inhabited point).clamp, TextBuffer.offset]

/-- No point is behind more characters than there are. -/
theorem offset_le_length (buffer : TextBuffer) (point : TextPoint)
    : buffer.offset point ≤ buffer.text.length := by
  by_cases inhabited : buffer.lines = []
  · rw [offset, inhabited, List.take_nil, lengthOfLines, Nat.zero_add, clamp, lineLength, line?,
      inhabited]
    exact Nat.le_trans (Nat.min_le_right _ _) (Nat.zero_le _)
  · obtain ⟨line, found, within⟩ := clamp_holds inhabited point
    have one := Text.lengthOfLines_take_succ found
    have all := Text.lengthOfLines_take_le buffer.lines ((buffer.clamp point).line + 1)
    rw [Text.lengthOfLines_eq inhabited] at all
    rw [offset, text]
    omega

/-- The text of the buffer of a text is that text. -/
@[simp] theorem text_ofText (text : List Char) : (ofText text).text = text :=
  Text.joinLines_splitLines text

/-- Carriage returns only count where there are some. -/
theorem ofFileText_of_plain {text : List Char} (plain : '\r' ∉ text)
    : ofFileText text = ofText text :=
  congrArg TextBuffer.mk (Text.map_withoutReturn plain)

/-- The lines of a file are those of the text that an editor shows for it. -/
theorem ofFileText_eq_ofText (file : List Char)
    : ofFileText file = ofText (ofFileText file).text := by
  refine congrArg TextBuffer.mk (Text.splitLines_joinLines ?_ ?_).symm
  · exact mt List.map_eq_nil_iff.mp (List.ne_nil_of_length_pos (Text.length_splitLines_pos file))
  · intro shown member newline
    obtain ⟨line, found, rfl⟩ := List.mem_map.mp member
    have inside : '\n' ∈ line := Text.mem_of_mem_withoutReturn newline
    exact (Text.mem_of_mem_splitLines found inside).1 rfl

theorem lines_ofText_ne_nil (text : List Char) : (ofText text).lines ≠ [] :=
  List.ne_nil_of_length_pos (Text.length_splitLines_pos text)

variable {text : List Char} {point : TextPoint}

/-- A point on the lines of a text is where the walk over the characters before it ends. -/
theorem Holds.behind (held : (ofText text).Holds point)
    : TextPoint.origin.behind (text.take ((ofText text).offset point)) = point := by
  have ⟨line, found, within⟩ := held
  have reached := Text.behind_take found within .origin
  rw [held.offset, ofText, reached]
  simp [TextPoint.origin]

/-- A walk over first characters of a text ends at a point on its lines, and these characters are
the ones before it.
-/
theorem holds_behind {count : Nat} (within : count ≤ text.length)
    : (ofText text).Holds (TextPoint.origin.behind (text.take count))
      ∧ (ofText text).offset (TextPoint.origin.behind (text.take count)) = count := by
  obtain ⟨number, line, column, found, fits, reached⟩ := Text.exists_column within
  have held : (ofText text).Holds { line := number, column } := ⟨line, found, fits⟩
  have offset : (ofText text).offset { line := number, column } = count := held.offset.trans reached
  have same := held.behind
  rw [offset] at same
  rw [same]
  exact ⟨held, offset⟩

end TextBuffer

end LanguageClient
