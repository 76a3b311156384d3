import LanguageClient.Editor.Workbench
import LanguageClient.Screen.Canvas

/-!
How a workbench looks: the text in a box, a line with its state and a line with its keys below
that, and an overlay on top.
-/

namespace LanguageClient

/-- The rectangles that the parts of a workbench are drawn in. -/
structure ScreenLayout where
  box : ScreenRect
  state : ScreenRect
  keys : ScreenRect
deriving DecidableEq, Repr

namespace ScreenLayout

/-- The box gets the rows that the two lines leave, but one before either of them. -/
def ofSize (width height : UInt16) : ScreenLayout :=
  let boxHeight := max (height.toNat - 2) (min height.toNat 1)
  let stateHeight := min (height.toNat - boxHeight) 1
  let keysHeight := height.toNat - boxHeight - stateHeight
  {
    box := { x := 0, y := 0, width, height := .ofNat boxHeight }
    state := { x := 0, y := .ofNat boxHeight, width, height := .ofNat stateHeight }
    keys := { x := 0, y := .ofNat (boxHeight + stateHeight), width, height := .ofNat keysHeight }
  }

/-- What is inside a box, which is nothing when the box is too small. -/
def inside (box : ScreenRect) : ScreenRect where
  x := clampCell (min (box.x.toNat + 1) box.right.toNat)
  y := clampCell (min (box.y.toNat + 1) box.bottom.toNat)
  width := clampCell (box.width.toNat - 2)
  height := clampCell (box.height.toNat - 2)

end ScreenLayout

namespace Workbench

/-- Fit the text into a screen of the given size, with the cursor in view. -/
def fitTo (bench : Workbench) (width height : UInt16) : Workbench :=
  let textArea := ScreenLayout.inside (ScreenLayout.ofSize width height).box
  { bench with editor := { bench.editor with textArea }.scrollToCursor }

/-- The path of the document, and a mark when it has changes. -/
def title (bench : Workbench) : String :=
  " " ++ bench.editor.path ++ (if bench.editor.modified then " [+]" else "") ++ " "

/-- A line with blanks in place of tabs. -/
def expandTabs (line : List Char) : List Char :=
  line.flatMap fun char =>
    if char = '\t' then List.replicate LineEditor.tabWidth ' ' else [char]

/-- The lines in view. -/
def visibleLines (bench : Workbench) : List String :=
  let lines := bench.editor.buffer.lines.drop bench.editor.scrollTop
  (lines.take bench.editor.textArea.height.toNat).map (String.ofList <| expandTabs ·)

/-- How far the server has come. -/
def serverState (bench : Workbench) : String :=
  match bench.client.session.serverInfo with
  | some info => info.label?.getD "lsp"
  | none => if bench.hasServer then "starting" else "no server"

/-- The first line of a text that has several. -/
def firstLine (text : String) : String :=
  match Text.splitLines text.toList with
  | [] => text
  | [_] => text
  | line :: _ => String.ofList (Text.withoutReturn line)

/-- The line about the state of everything. -/
def stateLine (bench : Workbench) : String :=
  let { line, column } := bench.editor.cursor
  let position :=
    toString (line + 1) ++ ":" ++ toString (column + 1) ++ " | " ++ bench.serverState
      ++ " | " ++ toString bench.client.session.diagnostics.length ++ " diagnostics"
  if bench.editor.status.isEmpty then
    firstLine position
  else
    firstLine (bench.editor.status ++ " | " ++ position)

/-- The line about keys. -/
def keysLine : String :=
  "Ctrl-Space:complete  F12:definition  Shift-F12:references  Ctrl-F:format"
    ++ "  Ctrl-E:diagnostics  Ctrl-L:restart server  Ctrl-S:save  Ctrl-X:quit"

/-- Draw the box, with the title on its upper edge. -/
def drawBox (bench : Workbench) (box : ScreenRect) (canvas : Canvas) : Canvas :=
  if box.width = 0 || box.height = 0 then
    canvas
  else
    let width := min (Text.width bench.title) (box.width.toNat - 2)
    (canvas.putBox box).putTitle 1 (1 + width) 0 1 (Canvas.measured bench.title)

/-- Draw an overlay on the part of it that is on the screen. -/
def drawOverlay (overlay : Overlay) (width height : UInt16) (canvas : Canvas) : Canvas :=
  let rect := overlay.rect
  let area :=
    { rect with
      width := clampCell (min rect.right.toNat width.toNat - rect.x.toNat : Nat)
      height := clampCell (min rect.bottom.toNat height.toNat - rect.y.toNat : Nat) }
  let lines := overlay.lines.zipIdx.map fun (line, row) => (line, overlay.selectedRow = some row)
  (canvas.clear area).putLines area lines

/-- A workbench on a screen of a size that it has been fitted to. -/
def draw (bench : Workbench) (width height : UInt16) : Canvas :=
  let layout := ScreenLayout.ofSize width height
  let plain := fun (line : String) => (line, false)
  let box := bench.drawBox layout.box (.blank width.toNat height.toNat)
  let text := box.putLines bench.editor.textArea (bench.visibleLines.map plain)
  let overlaid :=
    match bench.editor.overlay with
    | none => text
    | some overlay => drawOverlay overlay width height text
  (overlaid.putLines layout.state [plain bench.stateLine]).putLines layout.keys [plain keysLine]

/-- The cell that shows the cursor, when it is in view. -/
def cursorCell (bench : Workbench) : Option ScreenPoint :=
  bench.editor.screenPosition bench.editor.cursor

end Workbench

end LanguageClient
