import LanguageClient.Editor.Buffer

/-!
An editor in memory that keeps a record of what a client has asked it to do.
-/

namespace LanguageClient

/-- Something that a client has asked an editor to do. -/
inductive HostCall where
  | setCursor (point : TextPoint)
  | replace (start stop : TextPoint) (text : String)
  | openFile (path : String)
  | showStatus (message : String)
  | showOverlay (overlay : Overlay)
  | hideOverlay
deriving DecidableEq, Repr

structure RecordedEditor where
  buffer : TextBuffer
  cursor : TextPoint
  path : Option String
  language : String
  /-- The documents that can be opened, by their paths. -/
  documents : List (String × String)
  screen : ScreenRect
  reserved : UInt16
  /-- The first line in view. -/
  scrollTop : Nat := 0
  /-- What has been asked so far, oldest first. -/
  calls : List HostCall := []
deriving Repr

namespace RecordedEditor

def record (editor : RecordedEditor) (call : HostCall) : RecordedEditor :=
  { editor with calls := editor.calls ++ [call] }

/-- Take the record of what has been asked. -/
def collectCalls (editor : RecordedEditor) : List HostCall × RecordedEditor :=
  (editor.calls, { editor with calls := [] })

/-- Replace the text between two points, without a record of it. -/
def edit (editor : RecordedEditor) (left right : TextPoint) (text : String) : RecordedEditor :=
  { editor with buffer := .ofText (editor.buffer.splice left right text.toList) }

/-- Show another document in place of this one. -/
def openFile (path : String) (editor : RecordedEditor)
    : Except String Unit × RecordedEditor :=
  let recorded := editor.record (.openFile path)
  match editor.documents.lookup path with
  | none => (.error "no such file", recorded)
  | some text =>
    (
      .ok (),
      { recorded with
        buffer := .ofText text.toList
        path := some path
        cursor := { line := 0, column := 0 } }
    )

/-- The cell of a point whose line is in view. -/
def screenPosition (editor : RecordedEditor) (point : TextPoint) : Option ScreenPoint :=
  let row := point.line - editor.scrollTop
  if point.line < editor.scrollTop || row ≥ editor.screen.height.toNat then
    none
  else
    some
      {
        row := editor.screen.y + .ofNat row
        column := editor.screen.x + .ofNat point.column
      }

instance : Host RecordedEditor where
  documentPath := RecordedEditor.path
  language := RecordedEditor.language
  documentText editor := String.ofList editor.buffer.text
  lineText editor line := (editor.buffer.line? line).map String.ofList
  cursor := RecordedEditor.cursor
  setCursor point editor :=
    { editor.record (.setCursor point) with cursor := editor.buffer.clamp point }
  replaceRange start stop text editor :=
    (editor.record (.replace start stop text)).edit start stop text
  openFile := RecordedEditor.openFile
  showStatus message editor := editor.record (.showStatus message)
  showOverlay overlay editor := editor.record (.showOverlay overlay)
  hideOverlay editor := editor.record .hideOverlay
  screenBounds := RecordedEditor.screen
  reservedRow := RecordedEditor.reserved
  screenPosition := RecordedEditor.screenPosition
  files _ := {}

end RecordedEditor

end LanguageClient
