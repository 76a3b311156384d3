import LanguageClient.Editor.Buffer
import LanguageClient.Text.CellWidth

/-!
An editor of one file: its lines, the cursor, and what of it is in view. The cursor is kept on an
existing line, and every change of the text marks the file as modified.
-/

namespace LanguageClient

structure LineEditor where
  files : FileTree
  path : String
  language : String
  buffer : TextBuffer
  cursor : TextPoint := { line := 0, column := 0 }
  /-- The first line in view. -/
  scrollTop : Nat := 0
  modified : Bool := false
  status : String := ""
  overlay : Option Overlay := none
  /-- The part of the screen that shows the text. -/
  textArea : ScreenRect := { x := 0, y := 0, width := 0, height := 0 }
deriving Repr

namespace LineEditor

/-- Edit the file at a path, which need not exist. -/
def ofPath (files : FileTree) (path language : String) : Except FileError LineEditor :=
  let text := if files.contains path then files.read path else .ok ""
  text.map fun text => { files, path, language, buffer := .ofFileText text.toList }

/-- The text of the document, with lines separated by newlines alone. -/
def text (editor : LineEditor) : String :=
  String.ofList editor.buffer.text

/-- Write the text to the file. -/
def write (editor : LineEditor) : Except FileError LineEditor :=
  (editor.files.write editor.path editor.text).map fun files =>
    { editor with files, modified := false }

/-- Show the file at another path, unless there are changes that it would lose. -/
def openFile (path : String) (editor : LineEditor) : Except String Unit × LineEditor :=
  if editor.modified then
    (.error "unsaved changes", editor)
  else
    match editor.files.read path with
    | .error reason => (.error reason.message, editor)
    | .ok text =>
      (
        .ok (),
        { editor with
          path
          buffer := .ofFileText text.toList
          cursor := { line := 0, column := 0 }
          scrollTop := 0
          overlay := none }
      )

/-- Scroll no further than it takes to have the cursor in view. -/
def scrollToCursor (editor : LineEditor) : LineEditor :=
  let height := editor.textArea.height.toNat
  if height = 0 then
    editor
  else if editor.cursor.line < editor.scrollTop then
    { editor with scrollTop := editor.cursor.line }
  else if editor.cursor.line ≥ editor.scrollTop + height then
    { editor with scrollTop := editor.cursor.line + 1 - height }
  else
    editor

/-- The cells that a tab takes. -/
def tabWidth : Nat :=
  4

/-- The cells that a character of a line takes. -/
def cellsOf (char : Char) : Nat :=
  if char = '\t' then tabWidth else Text.charWidth char

/-- The cells that the start of a line takes. -/
def cellsBefore (line : List Char) (column : Nat) : Nat :=
  (line.take column).foldr (fun char cells => cellsOf char + cells) 0

/-- The cell of a point in view. Those of a line that is too long are in the column behind it. -/
def screenPosition (editor : LineEditor) (point : TextPoint) : Option ScreenPoint :=
  let row := point.line - editor.scrollTop
  if point.line < editor.scrollTop || row ≥ editor.textArea.height.toNat then
    none
  else
    (editor.buffer.line? point.line).map fun line =>
      let cells := min (cellsBefore line point.column) editor.textArea.width.toNat
      { row := editor.textArea.y + .ofNat row, column := editor.textArea.x + .ofNat cells }

/-- Move the cursor to a point, or near it when there is no such point. -/
def setCursor (point : TextPoint) (editor : LineEditor) : LineEditor :=
  { editor with cursor := editor.buffer.clamp point }.scrollToCursor

/-- Replace the text between two points, in whichever order. -/
def replaceRange (left right : TextPoint) (text : String) (editor : LineEditor) : LineEditor :=
  let buffer := TextBuffer.ofFileText (editor.buffer.splice left right text.toList)
  { editor with buffer, cursor := buffer.clamp editor.cursor, modified := true }

/-- Insert a text at the cursor, which ends up behind it. -/
def insert (text : String) (editor : LineEditor) : LineEditor :=
  let lines := Text.splitLines text.toList
  let last := lines.getLastD []
  let cursor :=
    if lines.length ≤ 1 then
      { line := editor.cursor.line, column := editor.cursor.column + last.length }
    else
      { line := editor.cursor.line + lines.length - 1, column := last.length }
  { editor.replaceRange editor.cursor editor.cursor text with cursor }

/-- Remove the character before the cursor, or join its line to the one before. -/
def backspace? (editor : LineEditor) : Option LineEditor :=
  let { line, column } := editor.cursor
  let start :=
    if column > 0 then
      some { line, column := column - 1 }
    else if line > 0 then
      some { line := line - 1, column := editor.buffer.lineLength (line - 1) }
    else
      none
  start.map fun start =>
    { editor.replaceRange start editor.cursor "" with cursor := start }

/-- Remove the character at the cursor, or join the line behind its line to it. -/
def delete? (editor : LineEditor) : Option LineEditor :=
  let { line, column } := editor.cursor
  let stop :=
    if column < editor.buffer.lineLength line then
      some { line, column := column + 1 }
    else if line + 1 < editor.buffer.lines.length then
      some { line := line + 1, column := 0 }
    else
      none
  stop.map fun stop => editor.replaceRange editor.cursor stop ""

instance : Host LineEditor where
  documentPath editor :=
    Path.absolute? (FileTree.pathOf editor.files.current) editor.path
  language := LineEditor.language
  documentText := LineEditor.text
  lineText editor line := (editor.buffer.line? line).map String.ofList
  cursor := LineEditor.cursor
  setCursor := LineEditor.setCursor
  replaceRange := LineEditor.replaceRange
  openFile := LineEditor.openFile
  showStatus status editor := { editor with status }
  showOverlay overlay editor := { editor with overlay := some overlay }
  hideOverlay editor := { editor with overlay := none }
  screenBounds := LineEditor.textArea
  reservedRow editor := editor.textArea.bottom
  screenPosition := LineEditor.screenPosition
  files := LineEditor.files

end LineEditor

end LanguageClient
