import LanguageClient.Proofs.Client.Formatting
import LanguageClient.Proofs.Editor.LineEditor

/-! An editor of lines is an editor of a flat text with a cursor between its characters. Every
operation on the lines does to the flat text what its name says, and leaves the cursor on the
lines.
-/

namespace LanguageClient

open Text (replaceBetween)

/-- A text with a cursor that has some of its characters before it. -/
@[ext] structure FlatText where
  chars : List Char
  cursor : Nat
  within : cursor ≤ chars.length

namespace FlatText

/-- Insert a text at the cursor, which ends up behind it. -/
def insert (flat : FlatText) (text : List Char) : FlatText where
  chars := flat.chars.take flat.cursor ++ text ++ flat.chars.drop flat.cursor
  cursor := flat.cursor + text.length
  within := by
    have within := flat.within
    simp only [List.length_append, List.length_take, List.length_drop]
    omega

/-- Remove the character before the cursor, unless there is none. -/
def backspace? (flat : FlatText) : Option FlatText :=
  if behind : 0 < flat.cursor then
    some
      {
        chars := flat.chars.eraseIdx (flat.cursor - 1)
        cursor := flat.cursor - 1
        within := by
          have within := flat.within
          rw [List.length_eraseIdx_of_lt (by omega)]
          omega
      }
  else
    none

/-- Remove the character at the cursor, unless there is none. -/
def delete? (flat : FlatText) : Option FlatText :=
  if before : flat.cursor < flat.chars.length then
    some
      {
        chars := flat.chars.eraseIdx flat.cursor
        cursor := flat.cursor
        within := by
          rw [List.length_eraseIdx_of_lt before]
          omega
      }
  else
    none

/-- Move the cursor one character back, unless it is at the start. -/
def left (flat : FlatText) : FlatText where
  chars := flat.chars
  cursor := flat.cursor - 1
  within := Nat.le_trans (Nat.sub_le _ _) flat.within

/-- Move the cursor one character on, unless it is at the end. -/
def right (flat : FlatText) : FlatText where
  chars := flat.chars
  cursor := min (flat.cursor + 1) flat.chars.length
  within := Nat.min_le_right _ _

end FlatText

/-- A change of the lines or of the cursor, or of the part of the screen that shows them. -/
inductive LineAction where
  | insert (text : String)
  | backspace
  | delete
  | moveCursor (key : Key)
  | setCursor (point : TextPoint)
  | replaceRange (left right : TextPoint) (text : String)
  | fit (textArea : ScreenRect)

namespace LineAction

/-- The editor after an action. Where nothing can be removed it stays as it is. -/
def run (editor : LineEditor) : LineAction → LineEditor
  | insert text => editor.insert text
  | backspace => editor.backspace?.getD editor
  | delete => editor.delete?.getD editor
  | moveCursor key => editor.moveCursor key
  | setCursor point => editor.setCursor point
  | replaceRange left right text => editor.replaceRange left right text
  | fit textArea => LineEditor.scrollToCursor { editor with textArea }

/-- No text of an action has carriage returns. -/
def IsPlain : LineAction → Prop
  | insert text | replaceRange _ _ text => '\r' ∉ text.toList
  | _ => True

end LineAction

namespace LineEditor

/-- The text that an editor shows, with the characters before its cursor. -/
def flat (editor : LineEditor) : FlatText where
  chars := editor.text.toList
  cursor := editor.buffer.offset editor.cursor
  within := by
    rw [text, String.toList_ofList]
    exact editor.buffer.offset_le_length editor.cursor

theorem flat_chars (editor : LineEditor) : editor.flat.chars = editor.buffer.text :=
  String.toList_ofList

/-- The lines are those of a text without carriage returns, and the cursor is on one of them. -/
structure Sound (editor : LineEditor) : Prop where
  buffer : editor.buffer = .ofText editor.flat.chars
  plain : '\r' ∉ editor.flat.chars
  cursor : editor.buffer.Holds editor.cursor

/-- An editor shows the text that its lines are those of. -/
theorem flat_chars_of_buffer {editor : LineEditor} {text : List Char}
    (buffer : editor.buffer = .ofText text)
    : editor.flat.chars = text := by
  rw [flat_chars, buffer, TextBuffer.text_ofText]

theorem sound_of_buffer {editor : LineEditor} {text : List Char}
    (buffer : editor.buffer = .ofText text) (plain : '\r' ∉ text)
    (cursor : (TextBuffer.ofText text).Holds editor.cursor)
    : editor.Sound := by
  have chars := flat_chars_of_buffer buffer
  refine ⟨?_, ?_, ?_⟩
  · rw [chars, buffer]
  · rwa [chars]
  · rwa [buffer]

/-- An editor shows a flat text when it has its lines and its cursor. -/
theorem flat_eq {editor : LineEditor} {flat : FlatText} (buffer : editor.buffer = .ofText flat.chars)
    (cursor : (TextBuffer.ofText flat.chars).offset editor.cursor = flat.cursor)
    : editor.flat = flat := by
  refine FlatText.ext (flat_chars_of_buffer buffer) ?_
  rw [← cursor, ← buffer]
  rfl

namespace Sound

variable {editor : LineEditor}

/-- Moving the cursor along the lines keeps an editor sound. -/
theorem moved (sound : editor.Sound) {after : LineEditor} (buffer : after.buffer = editor.buffer)
    (cursor : editor.buffer.Holds after.cursor)
    : after.Sound := by
  have lines := sound.buffer
  refine sound_of_buffer (buffer.trans lines) sound.plain ?_
  rwa [← lines]

-----------------------------------------------------------------------------------------
-- Replacing
-----------------------------------------------------------------------------------------

/-- A replacement brings in the characters of its text only. -/
theorem plain_replaced (sound : editor.Sound) {newText : List Char} (plain : '\r' ∉ newText)
    (left right : Nat)
    : '\r' ∉ replaceBetween editor.flat.chars left right newText := by
  intro inside
  rcases List.mem_append.mp inside with inside | after
  · rcases List.mem_append.mp inside with before | new
    · exact sound.plain (List.mem_of_mem_take before)
    · exact plain new
  · exact sound.plain (List.mem_of_mem_drop after)

/-- A replacement leaves the lines of the text with what is between the two points replaced. -/
theorem buffer_replaceRange (sound : editor.Sound) {newText : String}
    (plain : '\r' ∉ newText.toList) (left right : TextPoint)
    : (editor.replaceRange left right newText).buffer
      = .ofText (replaceBetween editor.flat.chars (editor.buffer.offset left)
          (editor.buffer.offset right) newText.toList) := by
  have replaced : editor.buffer.splice left right newText.toList
      = replaceBetween editor.flat.chars (editor.buffer.offset left)
          (editor.buffer.offset right) newText.toList := by
    rw [flat_chars]
    rfl
  change TextBuffer.ofFileText (editor.buffer.splice left right newText.toList) = _
  rw [replaced, TextBuffer.ofFileText_of_plain (sound.plain_replaced plain _ _)]

theorem replaceRange (sound : editor.Sound) {newText : String} (plain : '\r' ∉ newText.toList)
    (left right : TextPoint)
    : (editor.replaceRange left right newText).Sound := by
  have buffer := sound.buffer_replaceRange plain left right
  refine sound_of_buffer buffer (sound.plain_replaced plain _ _) ?_
  rw [← buffer]
  exact TextBuffer.clamp_holds (buffer ▸ TextBuffer.lines_ofText_ne_nil _) _

/-- The characters before a point on the lines lead to it. -/
theorem behind_take (sound : editor.Sound) {point : TextPoint}
    (held : editor.buffer.Holds point)
    : TextPoint.origin.behind (editor.flat.chars.take (editor.buffer.offset point)) = point := by
  have lines := sound.buffer
  rw [lines] at held
  have walked := held.behind
  rwa [← lines] at walked

/-- After a replacement the cursor may be put to where the first characters lead. -/
theorem replaced (sound : editor.Sound) {newText : String} (plain : '\r' ∉ newText.toList)
    {left right cursor : TextPoint} (flat : FlatText)
    (chars
      : flat.chars
        = replaceBetween editor.flat.chars (editor.buffer.offset left)
            (editor.buffer.offset right) newText.toList)
    (reached : TextPoint.origin.behind (flat.chars.take flat.cursor) = cursor)
    : LineEditor.Sound { editor.replaceRange left right newText with cursor }
      ∧ LineEditor.flat { editor.replaceRange left right newText with cursor } = flat := by
  have buffer := sound.buffer_replaceRange plain left right
  have unread :=
    sound.plain_replaced plain (editor.buffer.offset left) (editor.buffer.offset right)
  rw [← chars] at buffer unread
  obtain ⟨held, offset⟩ := TextBuffer.holds_behind flat.within
  rw [reached] at held offset
  exact ⟨sound_of_buffer buffer unread held, flat_eq buffer offset⟩

/-- Inserting at the cursor inserts behind the characters before it. -/
theorem insert (sound : editor.Sound) {newText : String} (plain : '\r' ∉ newText.toList)
    : (editor.insert newText).Sound
      ∧ (editor.insert newText).flat = editor.flat.insert newText.toList := by
  have front : (editor.flat.chars.take editor.flat.cursor ++ newText.toList).length
      = editor.flat.cursor + newText.toList.length := by
    rw [List.length_append, List.length_take_of_le editor.flat.within]
  refine sound.replaced plain (editor.flat.insert newText.toList) ?_ ?_
  · rw [Text.replaceBetween_of_le (Nat.le_refl _)]
    rfl
  · rw [FlatText.insert, List.take_left' front, TextPoint.behind_append]
    change (TextPoint.origin.behind (List.take (editor.buffer.offset editor.cursor) _)).behind _ = _
    rw [sound.behind_take sound.cursor, Text.behind_splitLines]

-----------------------------------------------------------------------------------------
-- Removing
-----------------------------------------------------------------------------------------

/-- Removing what is between two points that are one character apart removes the character at the
first one, where the cursor may be put.
-/
theorem removed (sound : editor.Sound) {start stop : TextPoint}
    (held : editor.buffer.Holds start)
    (apart : editor.buffer.offset stop = editor.buffer.offset start + 1) (flat : FlatText)
    (chars : flat.chars = editor.flat.chars.eraseIdx (editor.buffer.offset start))
    (cursor : flat.cursor = editor.buffer.offset start)
    : LineEditor.Sound { editor.replaceRange start stop "" with cursor := start }
      ∧ LineEditor.flat { editor.replaceRange start stop "" with cursor := start } = flat := by
  have within := editor.buffer.offset_le_length start
  rw [← flat_chars] at within
  rw [List.eraseIdx_eq_take_drop_succ] at chars
  refine sound.replaced (by decide) flat ?_ ?_
  · rw [chars, apart, Text.replaceBetween_of_le (Nat.le_succ _)]
    simp
  · rw [chars, cursor, List.take_left' (List.length_take_of_le within), sound.behind_take held]

/-- A backspace removes the character before the cursor, unless there is none. -/
theorem backspace? (sound : editor.Sound)
    : (∀ after, editor.backspace? = some after → after.Sound)
      ∧ editor.backspace?.map LineEditor.flat = editor.flat.backspace? := by
  rcases left_cases sound.cursor with ⟨start, -, nothing⟩ | ⟨held, apart, erased⟩
  · have none : ¬ 0 < editor.flat.cursor := Nat.not_lt.mpr (Nat.le_of_eq start)
    rw [nothing, FlatText.backspace?, dif_neg none]
    exact ⟨nofun, rfl⟩
  · have before : editor.flat.cursor - 1 = editor.buffer.offset (editor.pointAfter .left) := by
      change editor.buffer.offset editor.cursor - 1 = _
      omega
    have behind : 0 < editor.flat.cursor := by
      change 0 < editor.buffer.offset editor.cursor
      omega
    rw [erased, FlatText.backspace?, dif_pos behind]
    obtain ⟨kept, shown⟩ :=
      sound.removed held apart.symm ⟨_, editor.flat.cursor - 1, _⟩
        (congrArg editor.flat.chars.eraseIdx before) before
    exact ⟨fun after same => Option.some.inj same ▸ kept, congrArg some shown⟩

/-- A deletion removes the character at the cursor, unless there is none. -/
theorem delete? (sound : editor.Sound)
    : (∀ after, editor.delete? = some after → after.Sound)
      ∧ editor.delete?.map LineEditor.flat = editor.flat.delete? := by
  rcases right_cases sound.cursor with ⟨stop, -, nothing⟩ | ⟨held, apart, erased⟩
  · have behind : ¬ editor.flat.cursor < editor.flat.chars.length := by
      rw [flat_chars]
      exact Nat.not_lt.mpr (Nat.le_of_eq stop.symm)
    rw [nothing, FlatText.delete?, dif_neg behind]
    exact ⟨nofun, rfl⟩
  · have before : editor.flat.cursor < editor.flat.chars.length := by
      have within := editor.buffer.offset_le_length (editor.pointAfter .right)
      rw [apart, ← flat_chars] at within
      exact within
    rw [erased, FlatText.delete?, dif_pos before]
    obtain ⟨kept, shown⟩ :=
      sound.removed sound.cursor apart ⟨_, editor.flat.cursor, _⟩ rfl rfl
    -- The cursor that is put to where it has been is the one that is clamped.
    have clamped := kept.cursor.clamp
    have same
        : editor.replaceRange editor.cursor (editor.pointAfter .right) ""
          = {
              editor.replaceRange editor.cursor (editor.pointAfter .right) "" with
              cursor := editor.cursor
            } :=
      congrArg
        (fun cursor =>
          { editor.replaceRange editor.cursor (editor.pointAfter .right) "" with cursor })
        clamped
    rw [same]
    exact ⟨fun after same => Option.some.inj same ▸ kept, congrArg some shown⟩

-----------------------------------------------------------------------------------------
-- Moving
-----------------------------------------------------------------------------------------

/-- A key moves the cursor along the lines and changes nothing else of the text. -/
theorem moveCursor (sound : editor.Sound) (key : Key) : (editor.moveCursor key).Sound :=
  sound.moved rfl (pointAfter_holds sound.cursor key)

theorem moveCursor_left (sound : editor.Sound)
    : (editor.moveCursor .left).flat = editor.flat.left := by
  refine FlatText.ext rfl ?_
  change editor.buffer.offset (editor.pointAfter .left) = editor.buffer.offset editor.cursor - 1
  rcases left_cases sound.cursor with ⟨start, stays, -⟩ | ⟨-, apart, -⟩
  · rw [stays, start]
  · omega

theorem moveCursor_right (sound : editor.Sound)
    : (editor.moveCursor .right).flat = editor.flat.right := by
  refine FlatText.ext rfl ?_
  have within := editor.buffer.offset_le_length (editor.pointAfter .right)
  have length := congrArg List.length editor.flat_chars
  change editor.buffer.offset (editor.pointAfter .right)
    = min (editor.buffer.offset editor.cursor + 1) editor.flat.chars.length
  rcases right_cases sound.cursor with ⟨stop, stays, -⟩ | ⟨-, apart, -⟩
  · rw [stays]
    omega
  · omega

theorem scrollToCursor (sound : editor.Sound) : editor.scrollToCursor.Sound := by
  obtain ⟨scrollTop, scrolled⟩ := editor.scrollToCursor_eq
  rw [scrolled]
  exact sound.moved rfl sound.cursor

theorem setCursor (sound : editor.Sound) (point : TextPoint)
    : (editor.setCursor point).Sound := by
  have inhabited : editor.buffer.lines ≠ [] :=
    sound.buffer ▸ TextBuffer.lines_ofText_ne_nil _
  have moved : LineEditor.Sound { editor with cursor := editor.buffer.clamp point } :=
    sound.moved rfl (TextBuffer.clamp_holds inhabited point)
  exact moved.scrollToCursor

/-- What an action leaves is sound. -/
theorem run (sound : editor.Sound) {action : LineAction} (plain : action.IsPlain)
    : (action.run editor).Sound := by
  cases action with
  | insert text => exact (sound.insert plain).1
  | backspace =>
      rw [LineAction.run]
      cases erased : editor.backspace? with
      | none => exact sound
      | some after => exact sound.backspace?.1 after erased
  | delete =>
      rw [LineAction.run]
      cases erased : editor.delete? with
      | none => exact sound
      | some after => exact sound.delete?.1 after erased
  | moveCursor key => exact sound.moveCursor key
  | setCursor point => exact sound.setCursor point
  | replaceRange left right text => exact sound.replaceRange plain left right
  | fit textArea =>
      have resized : LineEditor.Sound { editor with textArea } := sound.moved rfl sound.cursor
      exact resized.scrollToCursor

/-- What actions leave is sound, by induction on them. -/
theorem runAll (sound : editor.Sound) {actions : List LineAction}
    (plain : ∀ action ∈ actions, action.IsPlain)
    : (actions.foldl LineAction.run editor).Sound := by
  induction actions generalizing editor with
  | nil => exact sound
  | cons action rest ih =>
      have first := sound.run (plain action List.mem_cons_self)
      exact ih first fun later member => plain later (List.mem_cons_of_mem action member)

end Sound

/-- An editor that has been opened on a text without carriage returns is sound. -/
theorem sound_of_opened {files : FileTree} {path language : String} {opened : LineEditor}
    (opening : ofPath files path language = .ok opened)
    (plain : ∀ text, files.read path = .ok text → '\r' ∉ text.toList)
    : opened.Sound := by
  have shown (text : String) (unread : '\r' ∉ text.toList)
      : LineEditor.Sound { files, path, language, buffer := .ofFileText text.toList } := by
    refine sound_of_buffer (TextBuffer.ofFileText_of_plain unread) unread ?_
    exact TextBuffer.clamp_holds (TextBuffer.lines_ofText_ne_nil _) .origin
  unfold ofPath at opening
  split at opening
  · cases content : files.read path with
    | error reason =>
        rw [content] at opening
        cases opening
    | ok text =>
        rw [content] at opening
        obtain rfl := Except.ok.inj opening
        exact shown text (plain text content)
  · obtain rfl := Except.ok.inj opening
    exact shown "" (by decide)

/-- However an editor has been opened and changed without carriage returns, it has lines, which
hold no newlines, and its cursor is on one of them. Each of its points is nearest to the one that
the characters before it lead to, and inserting, removing, moving by a character and replacing do
that to its text and to the characters before its cursor.
-/
theorem edits_flat_text {files : FileTree} {path language : String} {opened : LineEditor}
    (opening : ofPath files path language = .ok opened)
    (plainFile : ∀ text, files.read path = .ok text → '\r' ∉ text.toList)
    (actions : List LineAction) (plain : ∀ action ∈ actions, action.IsPlain)
    : let editor := actions.foldl LineAction.run opened
      (editor.buffer.lines ≠ []
        ∧ (∀ line ∈ editor.buffer.lines, '\n' ∉ line)
        ∧ editor.buffer.Holds editor.cursor)
      ∧ (∀ point,
        TextPoint.origin.behind (editor.flat.chars.take (editor.buffer.offset point))
        = editor.buffer.clamp point)
      ∧ (∀ text : String,
        '\r' ∉ text.toList → (editor.insert text).flat = editor.flat.insert text.toList)
      ∧ editor.backspace?.map LineEditor.flat = editor.flat.backspace?
      ∧ editor.delete?.map LineEditor.flat = editor.flat.delete?
      ∧ (editor.moveCursor .left).flat = editor.flat.left
      ∧ (editor.moveCursor .right).flat = editor.flat.right
      ∧ (∀ key, (editor.moveCursor key).flat.chars = editor.flat.chars)
      ∧ (∀ point,
        (editor.setCursor point).flat.chars = editor.flat.chars
        ∧ (editor.setCursor point).cursor = editor.buffer.clamp point)
      ∧ ∀ (left right : TextPoint) (text : String),
          '\r' ∉ text.toList
          → (editor.replaceRange left right text).flat.chars
            = replaceBetween editor.flat.chars (editor.buffer.offset left)
                (editor.buffer.offset right) text.toList := by
  intro editor
  have sound : editor.Sound := (sound_of_opened opening plainFile).runAll plain
  have lines : editor.buffer.lines = Text.splitLines editor.flat.chars :=
    congrArg TextBuffer.lines sound.buffer
  have inhabited : editor.buffer.lines ≠ [] :=
    lines ▸ TextBuffer.lines_ofText_ne_nil editor.flat.chars
  refine ⟨⟨inhabited, ?_, sound.cursor⟩, ?_, ?_, sound.backspace?.2, sound.delete?.2,
    sound.moveCursor_left, sound.moveCursor_right, fun key => rfl, ?_, ?_⟩
  · intro line member newline
    exact (Text.mem_of_mem_splitLines (lines ▸ member) newline).1 rfl
  · intro point
    rw [← TextBuffer.offset_clamp _ inhabited]
    exact sound.behind_take (TextBuffer.clamp_holds inhabited point)
  · intro text unread
    exact (sound.insert unread).2
  · intro point
    obtain ⟨scrollTop, scrolled⟩ :=
      LineEditor.scrollToCursor_eq { editor with cursor := editor.buffer.clamp point }
    rw [setCursor, scrolled]
    exact ⟨rfl, rfl⟩
  · intro left right text unread
    exact flat_chars_of_buffer (sound.buffer_replaceRange unread left right)

/-- A file with two lines, the first of which is longer in bytes than in characters. -/
def accentedFiles : FileTree where
  entries := [(["a".toList], .file (Text.Utf8.encode "é1\nb"))]

/-- What has been opened on it. -/
def accentedEditor : LineEditor where
  files := accentedFiles
  path := "/a"
  language := "rust"
  buffer := .ofText "é1\nb".toList

/-- A line break before the last character, which a backspace takes back, and a replacement of
what is between two points, the last of which comes first.
-/
def accentedActions : List LineAction :=
  [
    .setCursor { line := 1, column := 9 },
    .moveCursor .left,
    .insert "x\n",
    .backspace,
    .replaceRange { line := 7, column := 0 } { line := 0, column := 1 } "ü"
  ]

/-- The characters of the file are edited, not its bytes. -/
theorem edits_flat_text_of_accented
    : ofPath accentedFiles "/a" "rust" = .ok accentedEditor
      ∧ (∀ text, accentedFiles.read "/a" = .ok text → '\r' ∉ text.toList)
      ∧ (∀ action ∈ accentedActions, action.IsPlain)
      ∧ let editor := accentedActions.foldl LineAction.run accentedEditor
        editor.flat.chars = "éüxb".toList
        ∧ editor.flat.cursor = 1
        ∧ editor.backspace?.map LineEditor.flat = editor.flat.backspace? := by
  have opening : ofPath accentedFiles "/a" "rust" = .ok accentedEditor := rfl
  have plainFile : ∀ text, accentedFiles.read "/a" = .ok text → '\r' ∉ text.toList := by
    have content : accentedFiles.read "/a" = .ok "é1\nb" := rfl
    intro text read
    obtain rfl := Except.ok.inj (content.symm.trans read)
    decide
  have plain : ∀ action ∈ accentedActions, action.IsPlain := by
    simp [accentedActions, LineAction.IsPlain]
  obtain ⟨-, -, -, erased, -⟩ := edits_flat_text opening plainFile accentedActions plain
  exact ⟨opening, plainFile, plain, by decide +kernel, by decide +kernel, erased⟩

end LineEditor

end LanguageClient
