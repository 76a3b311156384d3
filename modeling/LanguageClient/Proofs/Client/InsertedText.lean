import Mathlib.Data.List.Induction
import LanguageClient.Client.Basic
import LanguageClient.Proofs.Editor.FlatText

/-! Where the cursor is after a text has been put in place of another one. The client counts the
newlines of the text from its end, an editor splits it into lines, and both find the point that
a walk over the text leads to.
-/

namespace LanguageClient

open Text (replaceBetween)

/-- The client finds the point behind a text that a walk over it leads to, by induction on the
text from its end.
-/
theorem Client.endOfInsert_eq (start : TextPoint) (text : String)
    : endOfInsert start text = start.behind text.toList := by
  unfold endOfInsert
  induction text.toList using List.reverseRecOn with
  | nil => rfl
  | append_singleton front char ih =>
      rw [TextPoint.behind_append, ← ih]
      by_cases newline : char = '\n'
      · subst newline
        rw [TextPoint.behind_cons, TextPoint.next_newline]
        cases count : front.count '\n' <;> simp [List.count_append, count, Nat.add_assoc]
      · rw [TextPoint.behind_cons, TextPoint.next_ordinary _ newline]
        cases count : front.count '\n' <;>
          simp [List.count_append, count, newline, Nat.add_assoc]

namespace TextBuffer

variable {buffer : TextBuffer} {left right : TextPoint}

/-- All of a line is before the lines behind it. -/
theorem offset_lt_of_line_lt (leftHeld : buffer.Holds left) (rightHeld : buffer.Holds right)
    (above : left.line < right.line)
    : buffer.offset left < buffer.offset right := by
  obtain ⟨line, found, within⟩ := id leftHeld
  have passed := Text.lengthOfLines_take_succ found
  have later := Text.lengthOfLines_take_le (buffer.lines.take right.line) (left.line + 1)
  rw [List.take_take, Nat.min_eq_left (show left.line + 1 ≤ right.line from above)] at later
  rw [leftHeld.offset, rightHeld.offset]
  omega

/-- Points in their order have as many characters before them in this order, unless the last one
is past the last line, the first one is on it, and the columns are the other way round.
-/
theorem offset_le_iff (held : buffer.Holds left) (ordered : left.isLe right = true)
    : buffer.offset left ≤ buffer.offset right
      ↔ right.line < buffer.lines.length
        ∨ left.line + 1 < buffer.lines.length
        ∨ left.column ≤ right.column := by
  obtain ⟨inside, within⟩ := held.lineLength
  have inhabited : buffer.lines ≠ [] := List.ne_nil_of_length_pos (by omega)
  have nearest := clamp_holds inhabited right
  have same := offset_clamp buffer inhabited right
  have line : (buffer.clamp right).line = min right.line (buffer.lines.length - 1) := rfl
  have column
      : (buffer.clamp right).column
        = min right.column (buffer.lineLength (buffer.clamp right).line) :=
    rfl
  simp only [TextPoint.isLe, Bool.or_eq_true, Bool.and_eq_true, decide_eq_true_eq, beq_iff_eq]
    at ordered
  rw [← same]
  rcases Nat.lt_trichotomy left.line (buffer.clamp right).line with above | level | below
  · have before := offset_lt_of_line_lt held nearest above
    omega
  · rw [held.offset, nearest.offset, ← level]
    rw [← level] at column
    omega
  · omega

end TextBuffer

namespace LineEditor

variable {editor : LineEditor} {text : List Char}

/-- A replacement is about the text alone, wherever the cursor has been. -/
theorem buffer_replaceRange_plain (buffer : editor.buffer = .ofText text) (plain : '\r' ∉ text)
    {newText : String} (unread : '\r' ∉ newText.toList) (left right : TextPoint)
    : (editor.replaceRange left right newText).buffer
      = .ofText (replaceBetween text (editor.buffer.offset left) (editor.buffer.offset right)
          newText.toList) := by
  have sound : LineEditor.Sound { editor with cursor := .origin } :=
    sound_of_buffer buffer plain
      (TextBuffer.clamp_holds (TextBuffer.lines_ofText_ne_nil text) .origin)
  have shown : (LineEditor.flat { editor with cursor := .origin }).chars = text :=
    flat_chars_of_buffer buffer
  have replaced := sound.buffer_replaceRange unread left right
  rw [shown] at replaced
  exact replaced

theorem buffer_setCursor (editor : LineEditor) (point : TextPoint)
    : (editor.setCursor point).buffer = editor.buffer := by
  obtain ⟨scrollTop, scrolled⟩ :=
    scrollToCursor_eq { editor with cursor := editor.buffer.clamp point }
  rw [setCursor, scrolled]

/-- The cursor is put behind a text that has taken the place of another one, when it is sent from
the point of the two ends that comes first.
-/
theorem setCursor_behind (buffer : editor.buffer = .ofText text) (plain : '\r' ∉ text)
    {newText : String} (unread : '\r' ∉ newText.toList) {left right front : TextPoint}
    (held : editor.buffer.Holds front)
    (first
      : editor.buffer.offset front
        = min (editor.buffer.offset left) (editor.buffer.offset right))
    : ((editor.replaceRange left right newText).setCursor (front.behind newText.toList)).cursor
        = front.behind newText.toList
      ∧ ((editor.replaceRange left right newText).setCursor
            (front.behind newText.toList)).flat.cursor
        = editor.buffer.offset front + newText.toList.length := by
  have replaced := buffer_replaceRange_plain buffer plain unread left right
  have within : editor.buffer.offset front ≤ text.length := by
    have most := editor.buffer.offset_le_length front
    rwa [buffer, TextBuffer.text_ofText, ← buffer] at most
  have start : TextPoint.origin.behind (text.take (editor.buffer.offset front)) = front := by
    rw [buffer] at held ⊢
    exact held.behind
  have count
      : (text.take (editor.buffer.offset front) ++ newText.toList).length
        = editor.buffer.offset front + newText.toList.length := by
    rw [List.length_append, List.length_take_of_le within]
  have reached
      : TextPoint.origin.behind
          ((replaceBetween text (editor.buffer.offset left) (editor.buffer.offset right)
            newText.toList).take (editor.buffer.offset front + newText.toList.length))
        = front.behind newText.toList := by
    rw [replaceBetween, ← first, List.take_left' count, TextPoint.behind_append, start]
  have most
      : editor.buffer.offset front + newText.toList.length
        ≤ (replaceBetween text (editor.buffer.offset left) (editor.buffer.offset right)
            newText.toList).length := by
    rw [replaceBetween, ← first, List.length_append, count]
    exact Nat.le_add_right _ _
  obtain ⟨behind, offset⟩ := TextBuffer.holds_behind most
  rw [reached, ← replaced] at behind offset
  obtain ⟨scrollTop, scrolled⟩ :=
    scrollToCursor_eq
      { editor.replaceRange left right newText with
        cursor :=
          (editor.replaceRange left right newText).buffer.clamp
            (front.behind newText.toList) }
  rw [setCursor, scrolled, behind.clamp]
  exact ⟨rfl, offset⟩

/-- The cursor lands behind a text that has taken the place of what was between two points in
their order, whatever the text is, if and only if the last point is on a line of the document, or
the first one is above the last line, or their columns are in the order of the points. A text
that is put at the cursor is inserted.
-/
theorem cursor_behind_inserted_iff (buffer : editor.buffer = .ofText text) (plain : '\r' ∉ text)
    {start stop : TextPoint} (held : editor.buffer.Holds start)
    (ordered : start.isLe stop = true)
    : ((∀ newText : String,
          '\r' ∉ newText.toList
          → ((editor.replaceRange start stop newText).setCursor
                (Client.endOfInsert start newText)).flat.cursor
              = editor.buffer.offset start + newText.toList.length)
        ↔ stop.line < editor.buffer.lines.length
          ∨ start.line + 1 < editor.buffer.lines.length
          ∨ start.column ≤ stop.column)
      ∧ (start = editor.cursor
        → ∀ newText : String,
            '\r' ∉ newText.toList
            → let replaced :=
                (editor.replaceRange start start newText).setCursor
                  (Client.endOfInsert start newText)
              replaced.buffer = (editor.insert newText).buffer
              ∧ replaced.cursor = (editor.insert newText).cursor) := by
  have order := TextBuffer.offset_le_iff held ordered
  refine ⟨⟨fun lands => ?_, fun before newText unread => ?_⟩, ?_⟩
  · -- What is removed is then before the first point. A newline shows where its place has been.
    refine Decidable.by_contra fun crossed => ?_
    have less := Nat.lt_of_not_le (mt order.mp crossed)
    obtain ⟨inside, _⟩ := held.lineLength
    have inhabited : editor.buffer.lines ≠ [] := List.ne_nil_of_length_pos (by omega)
    have nearest := TextBuffer.clamp_holds inhabited stop
    have place := editor.buffer.offset_clamp inhabited stop
    have level : (editor.buffer.clamp stop).line = start.line := by
      dsimp only [TextBuffer.clamp]
      omega
    have behind
        : start.behind "\n".toList = (editor.buffer.clamp stop).behind "\n".toList := by
      change TextPoint.next start '\n' = TextPoint.next _ '\n'
      rw [TextPoint.next_newline, TextPoint.next_newline, level]
    have landed
        : ((editor.replaceRange start stop "\n").setCursor
              ((editor.buffer.clamp stop).behind "\n".toList)).flat.cursor
          = editor.buffer.offset (editor.buffer.clamp stop) + "\n".toList.length :=
      (setCursor_behind buffer plain (by decide) nearest (by omega)).2
    have expected := lands "\n" (by decide)
    rw [Client.endOfInsert_eq, behind, landed, place] at expected
    omega
  · rw [Client.endOfInsert_eq]
    exact (setCursor_behind buffer plain unread held
      (Nat.min_eq_left (order.mpr before)).symm).2
  · rintro rfl newText unread
    have landed := (setCursor_behind buffer plain unread held (Nat.min_self _).symm).1
    rw [Client.endOfInsert_eq]
    exact ⟨buffer_setCursor _ _, landed.trans (Text.behind_splitLines _ _)⟩

/-- Two lines are joined around a text of two lines, and the cursor is behind it. -/
theorem cursor_behind_inserted_in_accented
    : let editor := { accentedEditor with cursor := { line := 0, column := 1 } }
      editor.buffer = .ofText "é1\nb".toList
      ∧ '\r' ∉ "é1\nb".toList
      ∧ editor.buffer.Holds { line := 0, column := 1 }
      ∧ TextPoint.isLe { line := 0, column := 1 } { line := 1, column := 0 } = true
      ∧ ((editor.replaceRange { line := 0, column := 1 } { line := 1, column := 0 } "ü\nx").setCursor
            (Client.endOfInsert { line := 0, column := 1 } "ü\nx")).flat.cursor
          = 4
      ∧ ((editor.replaceRange editor.cursor editor.cursor "\n").setCursor
            (Client.endOfInsert editor.cursor "\n")).cursor
          = (editor.insert "\n").cursor := by
  intro editor
  have plain : '\r' ∉ "é1\nb".toList := by decide
  have held : editor.buffer.Holds { line := 0, column := 1 } := ⟨"é1".toList, rfl, by decide⟩
  have ordered : TextPoint.isLe { line := 0, column := 1 } { line := 1, column := 0 } = true := rfl
  obtain ⟨lands, inserts⟩ := cursor_behind_inserted_iff rfl plain held ordered
  exact ⟨rfl, plain, held, ordered, lands.mpr (Or.inl (by decide)) "ü\nx" (by decide),
    (inserts rfl "\n" (by decide)).2⟩

/-- A range that ends past the last line takes more than is in it: the cursor is not behind the
text that has been put in its place.
-/
theorem cursor_misses_inserted
    : ¬∀ (editor : LineEditor) (text : List Char) (start stop : TextPoint) (newText : String),
        editor.buffer = .ofText text
        → '\r' ∉ text
        → editor.buffer.Holds start
        → start.isLe stop = true
        → '\r' ∉ newText.toList
        → ((editor.replaceRange start stop newText).setCursor
              (Client.endOfInsert start newText)).flat.cursor
            = editor.buffer.offset start + newText.toList.length := by
  intro lands
  have missed :=
    lands { accentedEditor with buffer := .ofText "a.".toList } "a.".toList
      { line := 0, column := 2 } { line := 1, column := 0 } "foo" rfl (by decide)
      ⟨"a.".toList, rfl, by decide⟩ rfl (by decide)
  revert missed
  decide +kernel

end LineEditor

end LanguageClient
