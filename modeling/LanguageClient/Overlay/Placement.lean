import LanguageClient.Screen

/-!
Where an overlay goes: near the cell that it belongs to, below it where there is room, and clear
of the rows kept at the bottom of the screen.
-/

namespace LanguageClient

/-- The cell that an overlay belongs to and the room that it has. -/
structure OverlayArea where
  anchor : ScreenPoint
  /-- The part of the screen that the overlay stays in. -/
  region : ScreenRect
  /-- The first of the rows kept at the bottom. -/
  reserved : UInt16
deriving DecidableEq, Repr

namespace OverlayArea

/-- The first column: that of the anchor, or further left where the overlay would stick out. -/
def left (area : OverlayArea) (width : UInt16) : Int :=
  let right : Int := area.region.right.toNat
  if (area.anchor.column.toNat : Int) + width.toNat ≤ right then
    area.anchor.column.toNat
  else
    right - width.toNat

/-- The rows between the anchor and the margin over the reserved ones. -/
def rowsBelow (area : OverlayArea) (margin : UInt16) : Int :=
  area.reserved.toNat - (area.anchor.row.toNat + 1) - margin.toNat

/-- The rows of the region over the anchor. -/
def rowsAbove (area : OverlayArea) : Int :=
  area.anchor.row.toNat - area.region.y.toNat

/--
The first row and the height: below the anchor where the overlay fits or there is not less room
than above, and else above. The overlay is cut to the rows that there are.
-/
def rows (area : OverlayArea) (height margin : UInt16) : Int × Int :=
  let below : Int := area.anchor.row.toNat + 1
  if area.rowsBelow margin ≥ height.toNat then
    (below, height.toNat)
  else if area.rowsAbove > area.rowsBelow margin then
    let cut := min (height.toNat : Int) area.rowsAbove
    (area.anchor.row.toNat - cut, cut)
  else
    (below, area.rowsBelow margin)

/--
The rectangle of an overlay of the given size. It starts in the region and has a cell at least,
and its width is never cut.
-/
def place (area : OverlayArea) (width height margin : UInt16) : ScreenRect :=
  let (top, rowCount) := area.rows height margin
  {
    x := clampCell (max (area.left width) area.region.x.toNat)
    y := clampCell (max top area.region.y.toNat)
    width := max width 1
    height := clampCell (max rowCount 1)
  }

end OverlayArea

end LanguageClient
