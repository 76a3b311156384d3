import LanguageClient.Screen
import LanguageClient.Text.Cluster
import LanguageClient.Text.Lines
import LanguageClient.Text.Width

/-!
A picture of a screen, drawn cell by cell. Text is drawn one cluster at a time, and a wide cluster
stands in the first of the cells that it covers.
-/

namespace LanguageClient

/-- What a cell of a screen shows. -/
structure Cell where
  symbol : List Char := [' ']
  highlighted : Bool := false
deriving DecidableEq, Repr

/-- The rows of a screen, each from left to right. -/
structure Canvas where
  rows : List (List Cell)
deriving DecidableEq, Repr

namespace Canvas

def blank (width height : Nat) : Canvas where
  rows := List.replicate height (List.replicate width {})

/-- Change one cell. Nothing is drawn outside the screen. -/
def change (column row : Nat) (update : Cell → Cell) (canvas : Canvas) : Canvas where
  rows := canvas.rows.modify row (·.modify column update)

/-- Let a cell show a symbol. A highlighted cell stays highlighted. -/
def put (column row : Nat) (symbol : List Char) (highlighted : Bool) (canvas : Canvas)
    : Canvas :=
  canvas.change column row fun cell =>
    { symbol, highlighted := cell.highlighted || highlighted }

/-- Draw on the cells of a row from a column on. -/
def putRow (column row count : Nat) (symbol : Char) (canvas : Canvas) : Canvas :=
  (List.range' column count).foldl (fun drawn next => drawn.put next row [symbol] false) canvas

/-- Make the cells of a rectangle blank. -/
def clear (rect : ScreenRect) (canvas : Canvas) : Canvas where
  rows := canvas.rows.mapIdx fun row cells =>
    cells.mapIdx fun column cell =>
      let inRow := rect.y.toNat ≤ row && row < rect.y.toNat + rect.height.toNat
      let inColumn := rect.x.toNat ≤ column && column < rect.x.toNat + rect.width.toNat
      if inRow && inColumn then {} else cell

/-- A text as clusters with their widths. -/
def measured (text : String) : List (List Char × Nat) :=
  (Text.clusters text.toList).map fun cluster =>
    (cluster, Text.width (String.ofList cluster))

/--
The clusters of a line that are shown in `room` of `width` cells. Those wider than the whole line
and those without width are not, and nothing follows the first one without room.
-/
def shown (width : Nat) : Nat → List (List Char × Nat) → List (List Char × Nat)
  | _, [] => []
  | room, (cluster, cells) :: rest =>
    if width < cells || cells = 0 then
      shown width room rest
    else if room < cells then
      []
    else
      (cluster, cells) :: shown width (room - cells) rest

/-- Draw clusters side by side. -/
def putClusters (row : Nat) (highlighted : Bool)
    : Nat → List (List Char × Nat) → Canvas → Canvas
  | _, [], canvas => canvas
  | column, (cluster, cells) :: rest, canvas =>
    putClusters row highlighted (column + cells) rest
      (canvas.put column row cluster highlighted)

/-- Draw a text on one row of a number of cells. -/
def putLine (column row width : Nat) (text : String) (highlighted : Bool) (canvas : Canvas)
    : Canvas :=
  putClusters row highlighted column (shown width width (measured text)) canvas

/-- Draw lines below each other in a rectangle, each with whether it is highlighted. -/
def putLines (rect : ScreenRect) (lines : List (String × Bool)) (canvas : Canvas) : Canvas :=
  (lines.take rect.height.toNat).zipIdx.foldl
    (fun drawn ((text, highlighted), index) =>
      drawn.putLine rect.x.toNat (rect.y.toNat + index) rect.width.toNat text highlighted)
    canvas

/--
Draw the clusters of a title from a column up to another. Those without width are added to the cell
before them.
-/
def putTitle (start stop row : Nat) : Nat → List (List Char × Nat) → Canvas → Canvas
  | _, [], canvas => canvas
  | column, (cluster, cells) :: rest, canvas =>
    if stop < column + cells then
      canvas
    else
      let drawn :=
        if cells = 0 && start < column then
          canvas.change (column - 1) row fun cell =>
            { cell with symbol := cell.symbol ++ cluster }
        else
          canvas.put column row cluster false
      putTitle start stop row (column + cells) rest
        (drawn.putRow (column + 1) row (cells - 1) ' ')

/-- Draw a box along the edges of a rectangle that has a cell at least. -/
def putBox (rect : ScreenRect) (canvas : Canvas) : Canvas :=
  let left := rect.x.toNat
  let top := rect.y.toNat
  let right := left + rect.width.toNat - 1
  let bottom := top + rect.height.toNat - 1
  let side := fun column (drawn : Canvas) =>
    (List.range' top rect.height.toNat).foldl
      (fun drawn row => drawn.put column row ['│'] false)
      drawn
  (side right (side left canvas)
    |>.putRow left top rect.width.toNat '─'
    |>.putRow left bottom rect.width.toNat '─'
    |>.put right bottom ['┘'] false
    |>.put right top ['┐'] false
    |>.put left bottom ['└'] false
    |>.put left top ['┌'] false)

/-- The text that a row shows after cells that a wide symbol covers. -/
def visibleChars : Nat → List Cell → List Char
  | _, [] => []
  | covered + 1, _ :: rest => visibleChars covered rest
  | 0, cell :: rest =>
    cell.symbol ++ visibleChars (Text.width (String.ofList cell.symbol) - 1) rest

/-- The text that a row shows, without blanks at its end. -/
def rowText (row : List Cell) : String :=
  String.ofList ((visibleChars 0 row).reverse.dropWhile (· == ' ')).reverse

end Canvas

end LanguageClient
