import LanguageClient.Client.Events
import LanguageClient.Editor.LineEditor
import LanguageClient.Proofs.Edit.Misread
import LanguageClient.Proofs.Text.Points

/-! Formatting in an editor. A client asks the editor to replace one range after another, each
where it is in the text as it is by then, so the text ends up as the edits mean it exactly if
the editor finds each range where it was.
-/

namespace LanguageClient

open Text (editorPlace replaceBetween)

namespace TextBuffer

/-- The places of two points count, not their order. -/
theorem splice_comm (buffer : TextBuffer) (left right : TextPoint) (newText : List Char)
    : buffer.splice left right newText = buffer.splice right left newText := by
  rw [splice, splice, Nat.min_comm, Nat.max_comm]

theorem splice_ofText (text : List Char) (left right : TextPoint) (newText : List Char)
    : (ofText text).splice left right newText
      = replaceBetween text ((ofText text).offset left) ((ofText text).offset right)
          newText := by
  rw [splice, text_ofText, replaceBetween]

end TextBuffer

/-- Of two points that are put in order the places count. -/
theorem TextBuffer.splice_first_last (buffer : TextBuffer) (left right : TextPoint)
    (newText : List Char)
    : buffer.splice (left.first right) (left.last right) newText
      = buffer.splice left right newText := by
  unfold TextPoint.first TextPoint.last
  split
  · rfl
  · exact buffer.splice_comm right left newText

namespace Client

theorem lineChars_eq (editor : LineEditor) (line : Nat)
    : lineChars editor line = (editor.buffer.lines[line]?).getD [] := by
  have read : Host.lineText editor line = (editor.buffer.lines[line]?).map String.ofList := rfl
  rw [lineChars, read]
  cases editor.buffer.lines[line]? with
  | none => rfl
  | some chars => exact String.toList_ofList

/-- The point of a position is where the editor finds the position. -/
theorem offset_pointOf {editor : LineEditor} {text : List Char}
    (shown : editor.buffer = .ofText text) (position : Position)
    : editor.buffer.offset (pointOf editor position) = editorPlace text position := by
  rw [pointOf, lineChars_eq, shown]
  dsimp only [TextBuffer.ofText, TextBuffer.offset, TextBuffer.clamp, TextBuffer.lineLength,
    TextBuffer.line?, Position.column]
  have lines := Text.length_splitLines_pos text
  by_cases inside : position.line.toNat < (Text.splitLines text).length
  · have found : (Text.splitLines text)[position.line.toNat]?
        = some ((Text.splitLines text)[position.line.toNat]) :=
      List.getElem?_eq_getElem inside
    rw [Text.editorPlace_of_lt inside, Nat.min_eq_left (by omega), found]
    dsimp only [Option.getD_some, Option.map_some]
    rw [Nat.min_eq_left (Text.ofUnits_le_length _ _)]
    exact Text.lengthOfLines_add_ofUnits found _
  · have found : (Text.splitLines text)[(Text.splitLines text).length - 1]?
        = some ((Text.splitLines text)[(Text.splitLines text).length - 1]) :=
      List.getElem?_eq_getElem (by omega)
    rw [editorPlace, if_neg inside, Text.lastLineStart, Nat.min_eq_right (by omega),
      List.getElem?_eq_none (Nat.not_lt.mp inside), ← Text.lengthOfLines_add_ofUnits found 0,
      Text.ofUnits_zero]
    dsimp only [Option.getD_none]
    rw [Column.ofUnits, Nat.zero_min]

-----------------------------------------------------------------------------------------
-- Edits
-----------------------------------------------------------------------------------------

/-- Edits without carriage returns are applied one after another, each where the editor finds
its range, by induction on them.
-/
theorem buffer_foldl {edits : List TextEdit}
    (plain : ∀ edit ∈ edits, '\r' ∉ edit.newText.toList) {editor : LineEditor}
    {text : List Char} (plainText : '\r' ∉ text) (shown : editor.buffer = .ofText text)
    : (edits.foldl
        (fun edited edit =>
          let start := pointOf edited edit.range.start
          let stop := pointOf edited edit.range.stop
          Host.replaceRange (start.first stop) (start.last stop) edit.newText edited)
        editor).buffer
      = .ofText (edits.foldl TextEdit.applyCurrent text) := by
  induction edits generalizing editor text with
  | nil => exact shown
  | cons edit rest ih =>
      have plainEdited : '\r' ∉ TextEdit.applyCurrent text edit := by
        intro inside
        rcases List.mem_append.mp inside with inside | after
        · rcases List.mem_append.mp inside with before | new
          · exact plainText (List.mem_of_mem_take before)
          · exact plain edit List.mem_cons_self new
        · exact plainText (List.mem_of_mem_drop after)
      have replaced
          : editor.buffer.splice
              ((pointOf editor edit.range.start).first (pointOf editor edit.range.stop))
              ((pointOf editor edit.range.start).last (pointOf editor edit.range.stop))
              edit.newText.toList
            = TextEdit.applyCurrent text edit := by
        have start := offset_pointOf shown edit.range.start
        have stop := offset_pointOf shown edit.range.stop
        rw [TextBuffer.splice_first_last]
        rw [shown] at start stop ⊢
        rw [TextBuffer.splice_ofText, start, stop]
        rfl
      refine ih (fun later member => plain later (List.mem_cons_of_mem edit member))
        plainEdited ?_
      change TextBuffer.ofFileText (editor.buffer.splice _ _ _) = _
      rw [replaced, TextBuffer.ofFileText_of_plain plainEdited]

/-- Telling a change of the text leaves the text as it is. -/
theorem documentChanged_buffer (client : Client) (editor : LineEditor)
    : (client.documentChanged editor).2.buffer = editor.buffer := by
  have closed (client : Client) : (client.closeCompletion editor).2.buffer = editor.buffer := by
    unfold closeCompletion
    dsimp only
    split <;> rfl
  have rendered (client : Client) : (client.renderCompletion editor).2.buffer = editor.buffer := by
    unfold renderCompletion
    split
    · rfl
    · split
      · rfl
      · split <;> rfl
  unfold documentChanged updateCompletion
  dsimp only
  split
  · rfl
  · split
    · exact rendered _
    · exact closed _

/-- A reply with edits applies them and shows how many there are. -/
theorem handleReply_buffer (client : Client) (editor : LineEditor) (edits : List TextEdit)
    : (client.handleReply editor (.formatting edits)).2.buffer
      = (applyEdits editor edits).buffer := by
  rw [handleReply, applyFormatting]
  split
  · rename_i empty
    rw [List.isEmpty_iff.mp empty, applyEdits, TextEdit.applicationOrder, List.reverse_nil,
      List.mergeSort_nil]
    rfl
  · exact client.documentChanged_buffer _

/-- Formatting leaves the text that an editor makes of the edits. -/
theorem handleReply_text {editor : LineEditor} {text : List Char} (plainText : '\r' ∉ text)
    (shown : editor.buffer = .ofText text) (client : Client) {edits : List TextEdit}
    (plain : ∀ edit ∈ edits, '\r' ∉ edit.newText.toList)
    : (client.handleReply editor (.formatting edits)).2.text
      = String.ofList ((TextEdit.applicationOrder edits).foldl TextEdit.applyCurrent text) := by
  have plainOrder (edit : TextEdit) (member : edit ∈ TextEdit.applicationOrder edits)
      : '\r' ∉ edit.newText.toList :=
    plain edit (TextEdit.mem_applicationOrder.mp member)
  rw [LineEditor.text, handleReply_buffer, applyEdits,
    buffer_foldl plainOrder plainText shown, TextBuffer.text_ofText]

/-- Formatting agrees with the edits of the text exactly if these are alike in an editor. -/
theorem handleReply_text_eq_iff {editor : LineEditor} {text : List Char}
    (plainText : '\r' ∉ text) (shown : editor.buffer = .ofText text) (client : Client)
    {edits : List TextEdit} (valid : ValidRanges (edits.map (·.range)))
    (plain : ∀ edit ∈ edits, '\r' ∉ edit.newText.toList)
    : (client.handleReply editor (.formatting edits)).2.text
        = TextEdit.applyAll edits editor.text
      ↔ TextEdit.Alike text edits := by
  have before : editor.text = String.ofList text := by
    rw [LineEditor.text, shown, TextBuffer.text_ofText]
  rw [handleReply_text plainText shown client plain, before, TextEdit.applyAll_eq plainText valid,
    String.ofList_inj]
  rfl

/-- Formatting leaves the text that edits mean, whatever the new texts of their ranges are,
exactly if the editor finds each range: each ends on the lines, and none ends past the end of a
line where another one behind it starts.
-/
theorem formatting_agrees_iff (client : Client) {editor : LineEditor} {file : List Char}
    {ranges : List Range} (shown : editor.buffer = .ofFileText file)
    (plain : '\r' ∉ editor.text.toList) (valid : ValidRanges ranges)
    : (∀ edits : List TextEdit,
        edits.map (·.range) = ranges
        → (∀ edit ∈ edits, '\r' ∉ edit.newText.toList)
        → (client.handleReply editor (.formatting edits)).2.text
          = TextEdit.applyAll edits editor.text)
      ↔ ReadsAlike editor.text.toList ranges := by
  have text : editor.text.toList = editor.buffer.text := String.toList_ofList
  have buffer : editor.buffer = .ofText editor.text.toList := by
    rw [text, shown]
    exact TextBuffer.ofFileText_eq_ofText file
  constructor
  · intro agrees
    refine TextEdit.readsAlike_of_alike plain valid fun edits same plainEdits => ?_
    subst same
    exact (handleReply_text_eq_iff plain buffer client valid plainEdits).mp
      (agrees edits rfl plainEdits)
  · rintro alike edits rfl plainEdits
    exact (handleReply_text_eq_iff plain buffer client valid plainEdits).mpr
      (TextEdit.alike_of_readsAlike plain valid alike)

/-- An editor with two lines. -/
def twoLines : LineEditor where
  files := {}
  path := "a"
  language := "rust"
  buffer := .ofText "ab\ncd".toList

/-- A range of a text. -/
def rangeOf (startLine start stopLine stop : UInt32) : Range where
  start := { line := startLine, character := start }
  stop := { line := stopLine, character := stop }

/-- The replacement of a range of a text. -/
def replacementOf (range : Range) (newText : String) : TextEdit where
  range
  newText

/-- Four edits of ranges that are found: an insertion where a replacement starts, a line
break, and a range that ends past the end of the last line.
-/
def foundEdits : List TextEdit :=
  [
    replacementOf (rangeOf 0 0 0 0) "u",
    replacementOf (rangeOf 0 0 0 2) "v",
    replacementOf (rangeOf 0 2 1 0) " ",
    replacementOf (rangeOf 1 1 1 9) "w\n"
  ]

theorem formatting_agrees_on_twoLines
    : (handleReply {} twoLines (.formatting foundEdits)).2.text
      = TextEdit.applyAll foundEdits twoLines.text := by
  have shown : twoLines.buffer = .ofFileText "ab\ncd".toList := by decide +kernel
  have plain : '\r' ∉ twoLines.text.toList := by decide +kernel
  have valid : ValidRanges (foundEdits.map (·.range)) :=
    ⟨by decide +kernel, by decide +kernel, by decide +kernel⟩
  have alike : ReadsAlike twoLines.text.toList (foundEdits.map (·.range)) :=
    ⟨by decide +kernel, by decide +kernel⟩
  exact (formatting_agrees_iff {} shown plain valid).mpr alike foundEdits rfl
    (by decide +kernel)

/-- A replacement of the whole text, which ends at the start of the line behind the last. -/
def wholeEdit : TextEdit :=
  replacementOf (rangeOf 0 0 2 0) "x"

/-- Two insertions past the end of the last line. -/
def endEdits : List TextEdit :=
  [replacementOf (rangeOf 1 5 1 5) "x", replacementOf (rangeOf 1 9 1 9) "y"]

/-- What is on the last line stays behind the whole text, and the insertions are swapped. -/
theorem formatting_misreads_ranges
    : ((handleReply {} twoLines (.formatting [wholeEdit])).2.text = "xcd"
        ∧ TextEdit.applyAll [wholeEdit] twoLines.text = "x")
      ∧ (handleReply {} twoLines (.formatting endEdits)).2.text = "ab\ncdyx"
        ∧ TextEdit.applyAll endEdits twoLines.text = "ab\ncdxy" := by
  have plain : '\r' ∉ "ab\ncd".toList := by decide +kernel
  have valid : ValidRanges (endEdits.map (·.range)) :=
    ⟨by decide +kernel, by decide +kernel, by decide +kernel⟩
  have order : TextEdit.applicationOrder endEdits = endEdits.reverse :=
    TextEdit.applicationOrder_pair _ _
  refine ⟨by decide +kernel, ?_, ?_⟩
  · rw [handleReply_text plain rfl {} (by decide +kernel), order]
    decide +kernel
  · have text : twoLines.text = String.ofList "ab\ncd".toList := by decide +kernel
    rw [text, TextEdit.applyAll_eq plain valid, order]
    decide +kernel

end Client

end LanguageClient
