import LanguageClient.Editor.Key
import LanguageClient.Proofs.Text.Points

/-! What the operations of an editor do to its lines, wherever the cursor is on them. -/

namespace LanguageClient.LineEditor

/-- Scrolling changes nothing but what is in view. -/
theorem scrollToCursor_eq (editor : LineEditor)
    : ∃ scrollTop, editor.scrollToCursor = { editor with scrollTop } := by
  unfold scrollToCursor
  dsimp only
  split
  · exact ⟨editor.scrollTop, rfl⟩
  · split
    · exact ⟨_, rfl⟩
    · split
      · exact ⟨_, rfl⟩
      · exact ⟨editor.scrollTop, rfl⟩

variable {editor : LineEditor}

/-- Behind a point on the lines is the rest of its line. -/
theorem holds_line {point : TextPoint} (held : editor.buffer.Holds point)
    : ∃ line,
        editor.buffer.lines[point.line]? = some line
        ∧ editor.buffer.lineLength point.line = line.length
        ∧ point.column ≤ line.length := by
  obtain ⟨line, found, within⟩ := held
  exact ⟨line, found, by rw [TextBuffer.lineLength, found]; rfl, within⟩

/-- Going left leads one character back, to the end of the line before from the start of a line.
From the start of the text it leads nowhere. A backspace removes what it passes.
-/
theorem left_cases (held : editor.buffer.Holds editor.cursor)
    : (editor.buffer.offset editor.cursor = 0
        ∧ editor.pointAfter .left = editor.cursor
        ∧ editor.backspace? = none)
      ∨ (editor.buffer.Holds (editor.pointAfter .left)
        ∧ editor.buffer.offset (editor.pointAfter .left) + 1 = editor.buffer.offset editor.cursor
        ∧ editor.backspace?
          = some
            { editor.replaceRange (editor.pointAfter .left) editor.cursor "" with
              cursor := editor.pointAfter .left }) := by
  obtain ⟨inside, within⟩ := held.lineLength
  by_cases column : editor.cursor.column > 0
  · right
    have point : editor.pointAfter .left
        = { line := editor.cursor.line, column := editor.cursor.column - 1 } :=
      if_pos column
    have reached : editor.buffer.Holds (editor.pointAfter .left) := by
      rw [point]
      exact TextBuffer.holds_of_le inside (Nat.le_trans (Nat.sub_le _ _) within)
    refine ⟨reached, ?_, ?_⟩
    · rw [reached.offset, held.offset, point]
      dsimp only
      omega
    · rw [backspace?, point]
      dsimp only
      rw [if_pos column]
      rfl
  · by_cases line : editor.cursor.line > 0
    · right
      have point : editor.pointAfter .left
          = {
              line := editor.cursor.line - 1
              column := editor.buffer.lineLength (editor.cursor.line - 1)
            } :=
        (if_neg column).trans (if_pos line)
      have reached : editor.buffer.Holds (editor.pointAfter .left) := by
        rw [point]
        exact TextBuffer.holds_of_le (Nat.lt_of_le_of_lt (Nat.sub_le _ _) inside) (Nat.le_refl _)
      refine ⟨reached, ?_, ?_⟩
      · obtain ⟨before, found, length, -⟩ := holds_line reached
        rw [point] at found length
        have passed := Text.lengthOfLines_take_succ found
        rw [show editor.cursor.line - 1 + 1 = editor.cursor.line by omega] at passed
        rw [reached.offset, held.offset, point]
        dsimp only at passed length ⊢
        omega
      · rw [backspace?, point]
        dsimp only
        rw [if_neg column, if_pos line]
        rfl
    · left
      refine ⟨?_, (if_neg column).trans (if_neg line), ?_⟩
      · rw [held.offset, show editor.cursor.line = 0 by omega, List.take_zero,
          TextBuffer.lengthOfLines]
        omega
      · rw [backspace?]
        dsimp only
        rw [if_neg column, if_neg line]
        rfl

/-- Going right leads one character on, to the start of the line behind from the end of a line.
From the end of the text it leads nowhere. A deletion removes what it passes.
-/
theorem right_cases (held : editor.buffer.Holds editor.cursor)
    : (editor.buffer.offset editor.cursor = editor.buffer.text.length
        ∧ editor.pointAfter .right = editor.cursor
        ∧ editor.delete? = none)
      ∨ (editor.buffer.Holds (editor.pointAfter .right)
        ∧ editor.buffer.offset (editor.pointAfter .right)
          = editor.buffer.offset editor.cursor + 1
        ∧ editor.delete?
          = some (editor.replaceRange editor.cursor (editor.pointAfter .right) "")) := by
  obtain ⟨inside, within⟩ := held.lineLength
  obtain ⟨line, found, length, -⟩ := holds_line held
  have passed := Text.lengthOfLines_take_succ found
  by_cases column : editor.cursor.column < editor.buffer.lineLength editor.cursor.line
  · right
    have point : editor.pointAfter .right
        = { line := editor.cursor.line, column := editor.cursor.column + 1 } :=
      if_pos column
    have reached : editor.buffer.Holds (editor.pointAfter .right) := by
      rw [point]
      exact TextBuffer.holds_of_le inside column
    refine ⟨reached, ?_, ?_⟩
    · rw [reached.offset, held.offset, point]
      rfl
    · rw [delete?, point]
      dsimp only
      rw [if_pos column]
      rfl
  · by_cases next : editor.cursor.line + 1 < editor.buffer.lines.length
    · right
      have point : editor.pointAfter .right = { line := editor.cursor.line + 1, column := 0 } :=
        (if_neg column).trans (if_pos next)
      have reached : editor.buffer.Holds (editor.pointAfter .right) := by
        rw [point]
        exact TextBuffer.holds_of_le next (Nat.zero_le _)
      refine ⟨reached, ?_, ?_⟩
      · rw [reached.offset, held.offset, point]
        dsimp only
        omega
      · rw [delete?, point]
        dsimp only
        rw [if_neg column, if_pos next]
        rfl
    · left
      refine ⟨?_, (if_neg column).trans (if_neg next), ?_⟩
      · have inhabited : editor.buffer.lines ≠ [] :=
          List.ne_nil_of_length_pos (Nat.lt_of_le_of_lt (Nat.zero_le _) inside)
        have all := Text.lengthOfLines_eq inhabited
        rw [List.take_of_length_le (by omega)] at passed
        rw [held.offset, TextBuffer.text]
        omega
      · rw [delete?]
        dsimp only
        rw [if_neg column, if_neg next]
        rfl

/-- Every key leaves the cursor on the lines. -/
theorem pointAfter_holds (held : editor.buffer.Holds editor.cursor) (key : Key)
    : editor.buffer.Holds (editor.pointAfter key) := by
  obtain ⟨inside, -⟩ := held.lineLength
  have nearest (point : TextPoint) : editor.buffer.Holds (editor.buffer.clamp point) :=
    TextBuffer.clamp_holds (List.ne_nil_of_length_pos (by omega)) point
  cases key with
  | left =>
      rcases left_cases held with ⟨-, stays, -⟩ | ⟨reached, -⟩
      · exact stays ▸ held
      · exact reached
  | right =>
      rcases right_cases held with ⟨-, stays, -⟩ | ⟨reached, -⟩
      · exact stays ▸ held
      · exact reached
  | up | down | pageUp | pageDown => exact nearest _
  | home => exact TextBuffer.holds_of_le inside (Nat.zero_le _)
  | lineEnd => exact TextBuffer.holds_of_le inside (Nat.le_refl _)
  | char _ | enter | tab | backspace | delete | escape | function _ => exact held

end LanguageClient.LineEditor
