import LanguageClient.Proofs.Editor.FlatText
import LanguageClient.Proofs.Text.LineParts

/-! Edits of a text with carriage returns. A replacement splits the whole text into lines once more
and leaves out a carriage return at the end of every line, so that it changes no other text exactly
if none is there, and the cursor may be put behind the end of its line.
-/

namespace LanguageClient

open Text (replaceBetween ReturnEndsLine)

namespace TextPoint

/-- The line behind a text depends on the line where it starts alone. -/
theorem line_behind {left right : TextPoint} (same : left.line = right.line) (text : List Char)
    : (left.behind text).line = (right.behind text).line := by
  rw [Text.behind_splitLines, Text.behind_splitLines text right, same]
  split <;> rfl

/-- Behind a newline, the column where a text starts does not count. -/
theorem behind_of_newline {left right : TextPoint} (same : left.line = right.line)
    {text : List Char} (newline : '\n' ∈ text)
    : left.behind text = right.behind text := by
  have count := List.count_pos_iff.mpr newline
  have lines : ¬ (Text.splitLines text).length ≤ 1 := by
    rw [Text.length_splitLines]
    omega
  rw [Text.behind_splitLines, Text.behind_splitLines text right, if_neg lines, if_neg lines, same]

/-- Without a newline, a text ends on the line where it starts. -/
theorem behind_of_plain (point : TextPoint) {text : List Char} (plain : '\n' ∉ text)
    : point.behind text = { line := point.line, column := point.column + text.length } := by
  rw [Text.behind_splitLines, Text.splitLines_of_plain plain]
  rfl

end TextPoint

namespace TextBuffer

/-- A point on an existing line is nearest to one on the same line. -/
theorem line_clamp {buffer : TextBuffer} {point : TextPoint}
    (inside : point.line < buffer.lines.length)
    : (buffer.clamp point).line = point.line := by
  dsimp only [clamp]
  omega

end TextBuffer

namespace LineEditor

variable {editor : LineEditor}

-----------------------------------------------------------------------------------------
-- Replacing
-----------------------------------------------------------------------------------------

theorem buffer_replaceRange (left right : TextPoint) (text : String)
    : (editor.replaceRange left right text).buffer
      = .ofFileText (replaceBetween editor.buffer.text (editor.buffer.offset left)
          (editor.buffer.offset right) text.toList) :=
  rfl

/-- A replacement leaves the cursor on the lines, nearest to where it was. -/
theorem replaceRange_holds (left right : TextPoint) (text : String)
    : (editor.replaceRange left right text).buffer.Holds
        (editor.replaceRange left right text).cursor := by
  refine TextBuffer.clamp_holds ?_ editor.cursor
  exact mt List.map_eq_nil_iff.mp (List.ne_nil_of_length_pos (Text.length_splitLines_pos _))

/-- A replacement changes no other text exactly if it leaves no carriage return at the end of a
line.
-/
theorem replaceRange_text_iff (left right : TextPoint) (text : String)
    : (editor.replaceRange left right text).flat.chars
        = replaceBetween editor.flat.chars (editor.buffer.offset left)
            (editor.buffer.offset right) text.toList
      ↔ ∀ line ∈ Text.splitLines
            (replaceBetween editor.flat.chars (editor.buffer.offset left)
              (editor.buffer.offset right) text.toList),
          line.getLast? ≠ some '\r' := by
  rw [flat_chars, flat_chars, buffer_replaceRange]
  exact TextBuffer.text_ofFileText_eq_iff _

/-- Inserting moves the cursor behind the text. -/
theorem cursor_insert (text : String)
    : (editor.insert text).cursor = editor.cursor.behind text.toList := by
  rw [Text.behind_splitLines]
  rfl

theorem buffer_insert (text : String)
    : (editor.insert text).buffer
      = .ofFileText (editor.buffer.text.take (editor.buffer.offset editor.cursor) ++ text.toList
          ++ editor.buffer.text.drop (editor.buffer.offset editor.cursor)) := by
  rw [← Text.replaceBetween_of_le (Nat.le_refl _)]
  rfl

-----------------------------------------------------------------------------------------
-- Cursors past the end of their lines
-----------------------------------------------------------------------------------------

/-- The lines of an editor hold no newlines, and its cursor is on one of them, be it past the end.
-/
structure Lined (editor : LineEditor) : Prop where
  buffer : editor.buffer = .ofText editor.buffer.text
  cursor : editor.cursor.line < editor.buffer.lines.length

theorem lined_replaceRange (left right : TextPoint) (text : String)
    : (editor.replaceRange left right text).Lined where
  buffer := TextBuffer.ofFileText_eq_ofText _
  cursor := (replaceRange_holds left right text).lineLength.1

namespace Lined

variable (lined : editor.Lined)

include lined

theorem hasLines : editor.buffer.HasLines := by
  intro line listed newline
  rw [lined.buffer] at listed
  exact (Text.mem_of_mem_splitLines listed newline).1 rfl

/-- There is a nearest point to any point, behind as many characters. -/
theorem clamp (point : TextPoint)
    : editor.buffer.Holds (editor.buffer.clamp point)
      ∧ editor.buffer.offset (editor.buffer.clamp point) = editor.buffer.offset point := by
  have some : editor.buffer.lines ≠ [] :=
    List.ne_nil_of_length_pos (Nat.zero_lt_of_lt lined.cursor)
  exact ⟨TextBuffer.clamp_holds some point, TextBuffer.offset_clamp _ some point⟩

/-- Behind the characters before a point and a new text, a cursor is on the lines unless it is put
behind a carriage return that is left out.
-/
theorem holds_behind {start : TextPoint} (held : editor.buffer.Holds start)
    (newText back : List Char)
    : let front := editor.buffer.text.take (editor.buffer.offset start) ++ newText
      (TextBuffer.ofText (front ++ back)).Holds (start.behind newText)
      ∧ ((TextBuffer.ofFileText (front ++ back)).Holds (start.behind newText)
        ↔ ¬ ReturnEndsLine front back) := by
  intro front
  have lines := lined.buffer
  have walked : TextPoint.origin.behind front = start.behind newText := by
    rw [lines] at held
    have reached := held.behind
    rw [← lines] at reached
    rw [TextPoint.behind_append, reached]
  obtain ⟨reached, offset⟩ :=
    @TextBuffer.holds_behind (front ++ back) front.length (by simp)
  rw [List.take_left, walked] at reached offset
  refine ⟨reached, reached.ofFileText_iff.trans ?_⟩
  rw [offset, List.take_left, List.drop_left]

/-- The lines before and behind a replacement are left as they are, except for a carriage return
at the end of one. Between them is a line more than the new text has newlines.
-/
theorem exists_lines_replaced {first last : TextPoint} (hf : editor.buffer.Holds first)
    (hl : editor.buffer.Holds last)
    (ordered : editor.buffer.offset first ≤ editor.buffer.offset last) (newText : List Char)
    : ∃ middle,
        (TextBuffer.ofFileText (replaceBetween editor.buffer.text (editor.buffer.offset first)
            (editor.buffer.offset last) newText)).lines
          = (editor.buffer.lines.take first.line).map Text.withoutReturn
            ++ middle
            ++ (editor.buffer.lines.drop (last.line + 1)).map Text.withoutReturn
        ∧ middle.length = newText.count '\n' + 1 := by
  obtain ⟨firstLine, lastLine, firstFound, lastFound, split⟩ :=
    TextBuffer.exists_splitLines_replaceBetween lined.hasLines hf hl ordered newText
  have noFirst : '\n' ∉ firstLine.take first.column :=
    mt List.mem_of_mem_take (lined.hasLines firstLine (List.mem_of_getElem? firstFound))
  have noLast : '\n' ∉ lastLine.drop last.column :=
    mt List.mem_of_mem_drop (lined.hasLines lastLine (List.mem_of_getElem? lastFound))
  refine
    ⟨
      (Text.splitLines
          (firstLine.take first.column ++ newText ++ lastLine.drop last.column)).map
        Text.withoutReturn,
      ?_,
      ?_
    ⟩
  · rw [TextBuffer.ofFileText, split, List.map_append, List.map_append]
  · simp [Text.length_splitLines, List.count_eq_zero.mpr noFirst, List.count_eq_zero.mpr noLast]

/-- The points of a replacement may be in whichever order. -/
theorem exists_lines_replaceRange (left right : TextPoint) (text : String)
    : ∃ middle,
        (editor.replaceRange left right text).buffer.lines
          = (editor.buffer.lines.take
                (min (editor.buffer.clamp left).line (editor.buffer.clamp right).line)).map
                Text.withoutReturn
            ++ middle
            ++ (editor.buffer.lines.drop
                (max (editor.buffer.clamp left).line (editor.buffer.clamp right).line + 1)).map
                Text.withoutReturn
        ∧ middle.length = text.toList.count '\n' + 1 := by
  obtain ⟨hl, leftOffset⟩ := lined.clamp left
  obtain ⟨hr, rightOffset⟩ := lined.clamp right
  rw [buffer_replaceRange, ← leftOffset, ← rightOffset]
  rcases Nat.le_total (editor.buffer.offset (editor.buffer.clamp left))
    (editor.buffer.offset (editor.buffer.clamp right)) with ordered | ordered
  · have lines := hl.line_le hr ordered
    rw [Nat.min_eq_left lines, Nat.max_eq_right lines]
    exact lined.exists_lines_replaced hl hr ordered text.toList
  · have lines := hr.line_le hl ordered
    rw [Nat.min_eq_right lines, Nat.max_eq_left lines, replaceBetween, Nat.min_comm, Nat.max_comm]
    exact lined.exists_lines_replaced hr hl ordered text.toList

/-- A cursor stays on the lines where a text is inserted. -/
theorem insert (text : String) : (editor.insert text).Lined where
  buffer := by
    rw [buffer_insert]
    exact TextBuffer.ofFileText_eq_ofText _
  cursor := by
    obtain ⟨held, offset⟩ := lined.clamp editor.cursor
    have reached := (lined.holds_behind held text.toList
      (editor.buffer.text.drop (editor.buffer.offset editor.cursor))).1.lineLength.1
    rw [offset] at reached
    rw [cursor_insert, TextPoint.line_behind (TextBuffer.line_clamp lined.cursor).symm,
      buffer_insert, TextBuffer.ofFileText, List.length_map]
    exact reached

/-- A text without newlines is inserted into the line of the cursor. Past the end of the line it
goes to the end.
-/
theorem exists_line_insert {text : String} (plain : '\n' ∉ text.toList)
    : ∃ line,
        editor.buffer.line? editor.cursor.line = some line
        ∧ (editor.insert text).buffer.line? editor.cursor.line
          = some
              (Text.withoutReturn
                (line.take editor.cursor.column ++ text.toList
                  ++ line.drop editor.cursor.column)) := by
  obtain ⟨held, offset⟩ := lined.clamp editor.cursor
  obtain ⟨line, _, found, same, split⟩ :=
    TextBuffer.exists_splitLines_replaceBetween lined.hasLines held held (Nat.le_refl _) text.toList
  obtain rfl := Option.some.inj (found.symm.trans same)
  rw [TextBuffer.line_clamp lined.cursor] at found
  have here : editor.buffer.line? editor.cursor.line = some line := found
  have column
      : (editor.buffer.clamp editor.cursor).column = min editor.cursor.column line.length := by
    change min _ (editor.buffer.lineLength (editor.buffer.clamp editor.cursor).line) = _
    rw [TextBuffer.line_clamp lined.cursor, TextBuffer.lineLength, here]
    rfl
  have none := lined.hasLines line (List.mem_of_getElem? found)
  have whole : '\n' ∉ line.take editor.cursor.column ++ text.toList
      ++ line.drop editor.cursor.column := by
    simp [plain, mt List.mem_of_mem_take none, mt List.mem_of_mem_drop none]
  rw [column, ← List.take_eq_take_min, ← List.drop_eq_drop_min, Text.splitLines_of_plain whole,
    offset, TextBuffer.line_clamp lined.cursor] at split
  refine ⟨line, here, ?_⟩
  have before : (editor.buffer.lines.take editor.cursor.line).length = editor.cursor.line :=
    List.length_take_of_le (Nat.le_of_lt lined.cursor)
  rw [buffer_insert, ← Text.replaceBetween_of_le (Nat.le_refl _), TextBuffer.line?,
    TextBuffer.ofFileText, split, List.getElem?_map, List.append_assoc,
    List.getElem?_append_right (Nat.le_of_eq before), before, Nat.sub_self]
  rfl

/-- A cursor past the end of its line stays there when a text without newlines is inserted. -/
theorem insert_past {text : String} (past : ¬ editor.buffer.Holds editor.cursor)
    (plain : '\n' ∉ text.toList)
    : ¬ (editor.insert text).buffer.Holds (editor.insert text).cursor := by
  rintro ⟨other, listed, within⟩
  obtain ⟨line, found, inserted⟩ := lined.exists_line_insert plain
  rw [cursor_insert, TextPoint.behind_of_plain _ plain] at listed within
  obtain rfl := Option.some.inj (inserted.symm.trans listed)
  have shorter := Text.length_withoutReturn_le
    (line.take editor.cursor.column ++ text.toList ++ line.drop editor.cursor.column)
  refine past ⟨line, found, ?_⟩
  simp only [List.length_append, List.length_take, List.length_drop] at shorter within
  omega

/-- Inserting leaves the cursor on the lines exactly if it is there before or a newline is
inserted, and it is not put behind a carriage return that ends a line.
-/
theorem insert_holds_iff (text : String)
    : (editor.insert text).buffer.Holds (editor.insert text).cursor
      ↔ (editor.buffer.Holds editor.cursor ∨ '\n' ∈ text.toList)
        ∧ ¬ ReturnEndsLine
            (editor.buffer.text.take (editor.buffer.offset editor.cursor) ++ text.toList)
            (editor.buffer.text.drop (editor.buffer.offset editor.cursor)) := by
  obtain ⟨held, offset⟩ := lined.clamp editor.cursor
  by_cases near : editor.buffer.Holds editor.cursor ∨ '\n' ∈ text.toList
  · have same
        : editor.cursor.behind text.toList
          = (editor.buffer.clamp editor.cursor).behind text.toList := by
      rcases near with held | newline
      · rw [held.clamp]
      · exact TextPoint.behind_of_newline (TextBuffer.line_clamp lined.cursor).symm newline
    have reached := (lined.holds_behind held text.toList
      (editor.buffer.text.drop (editor.buffer.offset editor.cursor))).2
    rw [offset] at reached
    rw [buffer_insert, cursor_insert, same, reached, and_iff_right near]
  · obtain ⟨past, plain⟩ := not_or.mp near
    exact iff_of_false (lined.insert_past past plain) fun both => near both.1

-----------------------------------------------------------------------------------------
-- Removing
-----------------------------------------------------------------------------------------

/-- A backspace removes what is between the point to the left of the cursor and the cursor, which
is nothing where that point is past the end of its line.
-/
theorem backspace_cases
    : editor.backspace? = none
      ∨ editor.backspace?
          = some
            { editor.replaceRange (editor.pointAfter .left) editor.cursor "" with
              cursor := editor.pointAfter .left }
        ∧ (editor.pointAfter .left).line < editor.buffer.lines.length
        ∧ editor.buffer.offset (editor.pointAfter .left) ≤ editor.buffer.offset editor.cursor
        ∧ (editor.buffer.Holds (editor.pointAfter .left)
          ∨ editor.buffer.offset (editor.pointAfter .left)
            = editor.buffer.offset editor.cursor) := by
  by_cases held : editor.buffer.Holds editor.cursor
  · rcases left_cases held with ⟨_, _, nothing⟩ | ⟨reached, apart, erased⟩
    · exact .inl nothing
    · exact .inr ⟨erased, reached.lineLength.1, by omega, .inl reached⟩
  · right
    have past : editor.buffer.lineLength editor.cursor.line < editor.cursor.column :=
      Nat.lt_of_not_le fun within => held (TextBuffer.holds_of_le lined.cursor within)
    have column : editor.cursor.column > 0 := Nat.zero_lt_of_lt past
    have point : editor.pointAfter .left
        = { line := editor.cursor.line, column := editor.cursor.column - 1 } :=
      if_pos column
    have erased : editor.backspace?
        = some
          { editor.replaceRange (editor.pointAfter .left) editor.cursor "" with
            cursor := editor.pointAfter .left } := by
      rw [backspace?, point]
      dsimp only
      rw [if_pos column]
      rfl
    have line := TextBuffer.line_clamp lined.cursor
    have same : editor.buffer.clamp (editor.pointAfter .left)
        = editor.buffer.clamp editor.cursor := by
      rw [point]
      dsimp only [TextBuffer.clamp] at line ⊢
      rw [line]
      congr 1
      omega
    have offset : editor.buffer.offset (editor.pointAfter .left)
        = editor.buffer.offset editor.cursor := by
      rw [TextBuffer.offset, same, TextBuffer.offset]
    exact ⟨erased, by rw [point]; exact lined.cursor, Nat.le_of_eq offset, .inr offset⟩

/-- A backspace leaves the cursor on the lines exactly if the point to the left of the cursor is on
them and is not put behind a carriage return that ends a line.
-/
theorem backspace_holds_iff {after : LineEditor} (erased : editor.backspace? = some after)
    : after.buffer.Holds after.cursor
      ↔ editor.buffer.Holds (editor.pointAfter .left)
        ∧ ¬ ReturnEndsLine
            (editor.buffer.text.take (editor.buffer.offset (editor.pointAfter .left)))
            (editor.buffer.text.drop (editor.buffer.offset editor.cursor)) := by
  rcases lined.backspace_cases with nothing | ⟨same, inside, ordered, near⟩
  · rw [nothing] at erased
    cases erased
  obtain rfl := Option.some.inj (same.symm.trans erased)
  change (editor.replaceRange (editor.pointAfter .left) editor.cursor "").buffer.Holds
    (editor.pointAfter .left) ↔ _
  rw [buffer_replaceRange, Text.replaceBetween_of_le ordered]
  by_cases held : editor.buffer.Holds (editor.pointAfter .left)
  · have reached := (lined.holds_behind held []
      (editor.buffer.text.drop (editor.buffer.offset editor.cursor))).2
    simpa [held] using reached
  · refine iff_of_false (fun reached => held ?_) fun both => held both.1
    rw [near.resolve_left held, String.toList_empty, List.append_nil,
      List.take_append_drop] at reached
    rw [lined.buffer]
    exact reached.of_ofFileText

theorem backspace {after : LineEditor} (erased : editor.backspace? = some after)
    : after.Lined := by
  rcases lined.backspace_cases with nothing | ⟨same, inside, ordered, _⟩
  · rw [nothing] at erased
    cases erased
  obtain rfl := Option.some.inj (same.symm.trans erased)
  refine ⟨TextBuffer.ofFileText_eq_ofText _, ?_⟩
  obtain ⟨held, offset⟩ := lined.clamp (editor.pointAfter .left)
  have reached := (lined.holds_behind held []
    (editor.buffer.text.drop (editor.buffer.offset editor.cursor))).1.lineLength.1
  rw [offset, TextPoint.behind_nil, TextBuffer.line_clamp inside] at reached
  change (editor.pointAfter .left).line
    < (editor.replaceRange (editor.pointAfter .left) editor.cursor "").buffer.lines.length
  rw [buffer_replaceRange, Text.replaceBetween_of_le ordered, TextBuffer.ofFileText,
    List.length_map]
  exact reached

omit lined in
/-- A deletion leaves the cursor on the lines. -/
theorem delete_holds {after : LineEditor} (erased : editor.delete? = some after)
    : after.Lined ∧ after.buffer.Holds after.cursor := by
  obtain ⟨stop, _, rfl⟩ := Option.map_eq_some_iff.mp erased
  exact ⟨lined_replaceRange _ _ _, replaceRange_holds _ _ _⟩

-----------------------------------------------------------------------------------------
-- Runs
-----------------------------------------------------------------------------------------

/-- A cursor that is moved on the lines stays on one of them. -/
theorem moveCursor (key : Key) : (editor.moveCursor key).Lined := by
  refine ⟨lined.buffer, ?_⟩
  have inside := lined.cursor
  have nearest (point : TextPoint)
      : (editor.buffer.clamp point).line < editor.buffer.lines.length :=
    (lined.clamp point).1.lineLength.1
  change (editor.pointAfter key).line < editor.buffer.lines.length
  cases key with
  | left =>
      simp only [pointAfter]
      split
      · exact inside
      · split
        · exact Nat.lt_of_le_of_lt (Nat.sub_le _ _) inside
        · exact inside
  | right =>
      simp only [pointAfter]
      split
      · exact inside
      · split
        · assumption
        · exact inside
  | up | down | pageUp | pageDown => exact nearest _
  | home | lineEnd => exact inside
  | char _ | enter | tab | backspace | delete | escape | function _ => exact inside

theorem scrollToCursor : editor.scrollToCursor.Lined := by
  obtain ⟨scrollTop, scrolled⟩ := editor.scrollToCursor_eq
  rw [scrolled]
  exact ⟨lined.buffer, lined.cursor⟩

/-- What an action leaves has its cursor on a line. -/
theorem run (action : LineAction) : (action.run editor).Lined := by
  cases action with
  | insert text => exact lined.insert text
  | backspace =>
      rw [LineAction.run]
      cases erased : editor.backspace? with
      | none => exact lined
      | some after => exact lined.backspace erased
  | delete =>
      rw [LineAction.run]
      cases erased : editor.delete? with
      | none => exact lined
      | some after => exact (delete_holds erased).1
  | moveCursor key => exact lined.moveCursor key
  | setCursor point =>
      have moved : LineEditor.Lined { editor with cursor := editor.buffer.clamp point } :=
        ⟨lined.buffer, (lined.clamp point).1.lineLength.1⟩
      exact moved.scrollToCursor
  | replaceRange left right text => exact lined_replaceRange left right text
  | fit textArea =>
      have resized : LineEditor.Lined { editor with textArea } := ⟨lined.buffer, lined.cursor⟩
      exact resized.scrollToCursor

/-- What actions leave has its cursor on a line, by induction on them. -/
theorem runAll (actions : List LineAction) : (actions.foldl LineAction.run editor).Lined := by
  induction actions generalizing editor with
  | nil => exact lined
  | cons action rest ih => exact ih (lined.run action)

end Lined

/-- An editor that has been opened has its cursor on the first line. -/
theorem lined_of_opened {files : FileTree} {path language : String} {opened : LineEditor}
    (opening : ofPath files path language = .ok opened)
    : opened.Lined := by
  unfold ofPath at opening
  cases content : (if files.contains path then files.read path else .ok "") with
  | error reason =>
      rw [content] at opening
      cases opening
  | ok text =>
      rw [content] at opening
      obtain rfl := Except.ok.inj opening
      refine ⟨TextBuffer.ofFileText_eq_ofText _, ?_⟩
      change 0 < ((Text.splitLines text.toList).map Text.withoutReturn).length
      rw [List.length_map]
      exact Text.length_splitLines_pos _

/-- However an editor has been opened and changed, a replacement changes no other text exactly if
it leaves no carriage return at the end of a line, and the lines before and behind it are left as
they are except for a carriage return at the end of one. After a deletion the cursor is on the
lines. Inserting and removing backwards leave it on them exactly if the lines have the point from
which it is counted and it is not put behind a carriage return that ends a line; to insert a
newline, any cursor will do.
-/
theorem replacements_keep_text_iff {files : FileTree} {path language : String}
    {opened : LineEditor} (opening : ofPath files path language = .ok opened)
    (actions : List LineAction)
    : let editor := actions.foldl LineAction.run opened
      let buffer := editor.buffer
      (∀ (left right : TextPoint) (text : String),
        let after := editor.replaceRange left right text
        let replaced := replaceBetween editor.flat.chars (buffer.offset left)
          (buffer.offset right) text.toList
        (after.flat.chars = replaced
          ↔ ∀ line ∈ Text.splitLines replaced, line.getLast? ≠ some '\r')
        ∧ ∃ middle,
            after.buffer.lines
              = (buffer.lines.take (min (buffer.clamp left).line (buffer.clamp right).line)).map
                  Text.withoutReturn
                ++ middle
                ++ (buffer.lines.drop
                    (max (buffer.clamp left).line (buffer.clamp right).line + 1)).map
                  Text.withoutReturn
            ∧ middle.length = text.toList.count '\n' + 1)
      ∧ (∀ after, editor.delete? = some after → after.buffer.Holds after.cursor)
      ∧ (∀ after,
          editor.backspace? = some after
          → (after.buffer.Holds after.cursor
            ↔ buffer.Holds (editor.pointAfter .left)
              ∧ ¬ ReturnEndsLine
                  (editor.flat.chars.take (buffer.offset (editor.pointAfter .left)))
                  (editor.flat.chars.drop (buffer.offset editor.cursor))))
      ∧ ∀ text : String,
          (editor.insert text).buffer.Holds (editor.insert text).cursor
          ↔ (buffer.Holds editor.cursor ∨ '\n' ∈ text.toList)
            ∧ ¬ ReturnEndsLine
                (editor.flat.chars.take (buffer.offset editor.cursor) ++ text.toList)
                (editor.flat.chars.drop (buffer.offset editor.cursor)) := by
  intro editor buffer
  have lined : editor.Lined := (lined_of_opened opening).runAll actions
  refine ⟨fun left right text => ⟨?_, ?_⟩, ?_, ?_, ?_⟩
  · exact replaceRange_text_iff left right text
  · exact lined.exists_lines_replaceRange left right text
  · exact fun after erased => (Lined.delete_holds erased).2
  · rw [flat_chars]
    exact fun after erased => lined.backspace_holds_iff erased
  · rw [flat_chars]
    exact lined.insert_holds_iff

/-- A file with a line that ends with a carriage return in front of its line break, and one with a
carriage return within its line.
-/
def returnFiles : FileTree where
  entries :=
    [
      (["ends".toList], .file (Text.Utf8.encode "a\r\r\nb")),
      (["within".toList], .file (Text.Utf8.encode "a\rb"))
    ]

/-- What has been opened on the first of them. -/
def returnAtEnd : LineEditor where
  files := returnFiles
  path := "/ends"
  language := "rust"
  buffer := { lines := [['a', '\r'], ['b']] }

/-- What has been opened on the second of them. -/
def returnWithin : LineEditor where
  files := returnFiles
  path := "/within"
  language := "rust"
  buffer := { lines := [['a', '\r', 'b']] }

/-- A carriage return within a line stays where it is. -/
theorem replacements_keep_text_of_return
    : ofPath returnFiles "/within" "rust" = .ok returnWithin
      ∧ (returnWithin.replaceRange { line := 0, column := 1 } { line := 0, column := 1 }
            "x\n").flat.chars
          = ['a', 'x', '\n', '\r', 'b'] := by
  have opening : ofPath returnFiles "/within" "rust" = .ok returnWithin := rfl
  obtain ⟨replaced, _⟩ := replacements_keep_text_iff opening []
  obtain ⟨keeps, _⟩ := replaced { line := 0, column := 1 } { line := 0, column := 1 } "x\n"
  exact ⟨opening, (keeps.mpr (by decide +kernel)).trans (by decide +kernel)⟩

/-- An insertion on the second line changes the first, and a backspace at the end of a line leaves
the cursor past it.
-/
theorem replacements_lose_returns
    : ofPath returnFiles "/ends" "rust" = .ok returnAtEnd
      ∧ (let start : TextPoint := { line := 1, column := 0 }
        replaceBetween returnAtEnd.flat.chars (returnAtEnd.buffer.offset start)
            (returnAtEnd.buffer.offset start) ['x']
          = ['a', '\r', '\n', 'x', 'b']
        ∧ (returnAtEnd.replaceRange start start "x").flat.chars = ['a', '\n', 'x', 'b'])
      ∧ ofPath returnFiles "/within" "rust" = .ok returnWithin
      ∧ ∃ after,
          (returnWithin.moveCursor .lineEnd).backspace? = some after
          ∧ after.flat.chars = ['a']
          ∧ ¬ after.buffer.Holds after.cursor := by
  refine ⟨rfl, ⟨by decide +kernel, by decide +kernel⟩, rfl, _, rfl, by decide +kernel, ?_⟩
  rintro ⟨line, found, within⟩
  obtain rfl := Option.some.inj found
  exact absurd within (by decide +kernel)

end LineEditor

end LanguageClient
