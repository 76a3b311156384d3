import LanguageClient.Proofs.Edit.Replacement
import LanguageClient.Proofs.Text.Points

/-! What stands around a point of a text, and the lines of a replacement: those before and behind
the points that it is between stay lines of their own.
-/

namespace LanguageClient

namespace Text

theorem splitLines_linesBehind (text : List Char) {lines : List (List Char)}
    (plain : ∀ line ∈ lines, '\n' ∉ line)
    : splitLines (text ++ linesBehind lines) = splitLines text ++ lines := by
  induction lines generalizing text with
  | nil => simp [linesBehind]
  | cons line lines ih =>
      obtain ⟨first, others⟩ := List.forall_mem_cons.mp plain
      have later := ih line others
      rw [splitLines_of_plain first] at later
      simp [linesBehind, splitLines_append_cons] at later ⊢
      exact later

/-- A carriage return is at the end of a line where a text is cut behind it. -/
def ReturnEndsLine (front back : List Char) : Prop :=
  front.getLast? = some '\r' ∧ (back = [] ∨ back.head? = some '\n')

/-- Behind whole lines and a part of one, a carriage return is on that one. -/
theorem getLast?_linesBefore_append (lines : List (List Char)) (part : List Char)
    : (linesBefore lines ++ part).getLast? = some '\r' ↔ part.getLast? = some '\r' := by
  have newline : (linesBefore lines).getLast? ≠ some '\r' := by
    rcases List.eq_nil_or_concat lines with rfl | ⟨before, last, rfl⟩
    · simp [linesBefore]
    · simp [linesBefore]
  rw [List.getLast?_append, Option.or_eq_some_iff]
  exact ⟨fun last => last.resolve_right fun other => newline other.2, .inl⟩

/-- Behind the end of a line comes a newline, if anything. -/
theorem linesBehind_stops (lines : List (List Char))
    : linesBehind lines = [] ∨ (linesBehind lines).head? = some '\n' := by
  cases lines with
  | nil => exact .inl rfl
  | cons line lines => exact .inr rfl

theorem withoutReturn_eq_iff (line : List Char)
    : withoutReturn line = line ↔ line.getLast? ≠ some '\r' := by
  refine ⟨fun same returned => ?_, fun bare => if_neg bare⟩
  rw [withoutReturn, if_pos returned] at same
  have shorter := congrArg List.length same
  have some := List.length_pos_of_mem (List.mem_of_getLast? returned)
  rw [List.length_dropLast] at shorter
  omega

theorem length_withoutReturn (line : List Char)
    : (withoutReturn line).length
      = if line.getLast? = some '\r' then line.length - 1 else line.length := by
  unfold withoutReturn
  split
  · exact List.length_dropLast
  · rfl

end Text

namespace TextBuffer

open Text (linesBefore linesBehind)

/-- No line of a buffer has a newline. -/
def HasLines (buffer : TextBuffer) : Prop :=
  ∀ line ∈ buffer.lines, '\n' ∉ line

/-- The text of a file is shown as it is exactly if none of its lines ends with a carriage return.
-/
theorem text_ofFileText_eq_iff (text : List Char)
    : (ofFileText text).text = text
      ↔ ∀ line ∈ Text.splitLines text, line.getLast? ≠ some '\r' := by
  constructor
  · intro same line listed
    have lines := congrArg lines (ofFileText_eq_ofText text)
    rw [same] at lines
    have kept := List.map_inj_left.mp (lines.trans (List.map_id _).symm) line listed
    exact (Text.withoutReturn_eq_iff line).mp kept
  · intro bare
    have kept : ∀ line ∈ Text.splitLines text, Text.withoutReturn line = line :=
      fun line listed => (Text.withoutReturn_eq_iff line).mpr (bare line listed)
    rw [TextBuffer.text, ofFileText, List.map_congr_left kept, List.map_id',
      Text.joinLines_splitLines]

/-- A text is cut at a point into whole lines and the parts of the line of the point. -/
theorem Holds.cut {buffer : TextBuffer} {point : TextPoint} (held : buffer.Holds point)
    : ∃ line,
        buffer.lines[point.line]? = some line
        ∧ point.column ≤ line.length
        ∧ buffer.text.take (buffer.offset point)
          = linesBefore (buffer.lines.take point.line) ++ line.take point.column
        ∧ buffer.text.drop (buffer.offset point)
          = line.drop point.column ++ linesBehind (buffer.lines.drop (point.line + 1)) := by
  have offset := held.offset
  obtain ⟨line, found, within⟩ := held
  obtain ⟨front, back⟩ := Text.joinLines_cut found within
  rw [← TextBuffer.text, ← offset] at front back
  exact ⟨line, found, within, front, back⟩

/-- A point that is behind no fewer characters is on no earlier line. -/
theorem Holds.line_le {buffer : TextBuffer} {left right : TextPoint}
    (hl : buffer.Holds left) (hr : buffer.Holds right)
    (ordered : buffer.offset left ≤ buffer.offset right)
    : left.line ≤ right.line := by
  rw [hl.offset, hr.offset] at ordered
  obtain ⟨line, found, within⟩ := hr
  have one := Text.lengthOfLines_take_succ found
  refine Nat.le_of_not_lt fun before => ?_
  have more := Text.lengthOfLines_take_le (buffer.lines.take left.line) (right.line + 1)
  rw [List.take_take, Nat.min_eq_left (by omega)] at more
  omega

/-- A replacement leaves the lines before and behind the two points as they are. What is between
them is made up of the new text and of the parts of their lines around it.
-/
theorem exists_splitLines_replaceBetween {buffer : TextBuffer} (plain : buffer.HasLines)
    {first last : TextPoint} (hf : buffer.Holds first) (hl : buffer.Holds last)
    (ordered : buffer.offset first ≤ buffer.offset last) (newText : List Char)
    : ∃ firstLine lastLine,
        buffer.lines[first.line]? = some firstLine
        ∧ buffer.lines[last.line]? = some lastLine
        ∧ Text.splitLines
            (Text.replaceBetween buffer.text (buffer.offset first) (buffer.offset last) newText)
          = buffer.lines.take first.line
            ++ Text.splitLines
              (firstLine.take first.column ++ newText ++ lastLine.drop last.column)
            ++ buffer.lines.drop (last.line + 1) := by
  obtain ⟨firstLine, firstFound, _, before, _⟩ := hf.cut
  obtain ⟨lastLine, lastFound, _, _, behind⟩ := hl.cut
  refine ⟨firstLine, lastLine, firstFound, lastFound, ?_⟩
  have start : ∀ line ∈ buffer.lines.take first.line, '\n' ∉ line :=
    fun line listed => plain line (List.mem_of_mem_take listed)
  have stop : ∀ line ∈ buffer.lines.drop (last.line + 1), '\n' ∉ line :=
    fun line listed => plain line (List.mem_of_mem_drop listed)
  rw [Text.replaceBetween_of_le ordered, before, behind]
  have split := Text.splitLines_linesBefore start
    (firstLine.take first.column ++ newText ++ lastLine.drop last.column
      ++ linesBehind (buffer.lines.drop (last.line + 1)))
  rw [Text.splitLines_linesBehind _ stop] at split
  simpa using split

/-- A point on the lines of a file is on the lines of its text. -/
theorem Holds.of_ofFileText {text : List Char} {point : TextPoint}
    (held : (ofFileText text).Holds point)
    : (ofText text).Holds point := by
  obtain ⟨line, found, within⟩ := held
  rw [TextBuffer.line?, ofFileText, List.getElem?_map] at found
  obtain ⟨whole, listed, rfl⟩ := Option.map_eq_some_iff.mp found
  refine ⟨whole, listed, Nat.le_trans within ?_⟩
  rw [Text.length_withoutReturn]
  split <;> omega

/-- A point on the lines of a text is on them without the carriage returns at their ends, unless it
is behind one.
-/
theorem Holds.ofFileText_iff {text : List Char} {point : TextPoint}
    (held : (ofText text).Holds point)
    : (ofFileText text).Holds point
      ↔ ¬ Text.ReturnEndsLine (text.take ((ofText text).offset point))
          (text.drop ((ofText text).offset point)) := by
  obtain ⟨line, found, within, front, back⟩ := held.cut
  rw [text_ofText] at front back
  have plain : '\n' ∉ line := fun newline =>
    (Text.mem_of_mem_splitLines (List.mem_of_getElem? found) newline).1 rfl
  have line? : (ofFileText text).line? point.line = some (Text.withoutReturn line) := by
    rw [TextBuffer.line?, ofFileText, List.getElem?_map]
    exact congrArg (Option.map _) found
  have reached
      : (ofFileText text).Holds point ↔ point.column ≤ (Text.withoutReturn line).length := by
    simp [Holds, line?]
  rw [reached, front, back, Text.length_withoutReturn, Text.ReturnEndsLine,
    Text.getLast?_linesBefore_append]
  by_cases whole : point.column = line.length
  · have stops := Text.linesBehind_stops ((ofText text).lines.drop (point.line + 1))
    rw [whole, List.take_length, List.drop_length, List.nil_append]
    split
    · rename_i returned
      have some := List.length_pos_of_mem (List.mem_of_getLast? returned)
      exact iff_of_false (by omega) (not_not_intro ⟨returned, stops⟩)
    · rename_i bare
      exact iff_of_true (Nat.le_refl _) fun ends => bare ends.1
  · obtain ⟨char, rest, behind⟩ : ∃ char rest, line.drop point.column = char :: rest :=
      List.exists_cons_of_length_pos (by rw [List.length_drop]; omega)
    have ordinary : char ≠ '\n' := by
      rintro rfl
      exact plain (List.mem_of_mem_drop (behind ▸ List.mem_cons_self))
    refine iff_of_true ?_ fun ends => ?_
    · split <;> omega
    · simpa [behind, ordinary] using ends.2

end TextBuffer

end LanguageClient
