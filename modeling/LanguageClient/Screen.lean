/-!
Cells of a screen: rows from the top and columns from the left, both from zero. Characters and
texts take as many of them as the screen gives them.
-/

namespace LanguageClient

/-- A cell of a screen. -/
structure ScreenPoint where
  row : UInt16
  column : UInt16
deriving DecidableEq, Repr, Inhabited

/-- A rectangle of cells, by its top left cell and its size. -/
structure ScreenRect where
  x : UInt16
  y : UInt16
  width : UInt16
  height : UInt16
deriving DecidableEq, Repr, Inhabited

/--
How many cells of a row characters and texts take. A character may take none, one or more, and a
text need not take as many as its characters do on their own, since some of them join.
-/
structure CellWidths where
  ofChar : Char → Nat
  ofText : String → Nat
  /-- A blank takes one cell. -/
  blank : ofChar ' ' = 1

/-- The nearest cell number to an integer. -/
def clampCell (value : Int) : UInt16 :=
  .ofNat (min value.toNat 65535)

namespace ScreenRect

/-- The column behind the rectangle, or the last one there is. -/
def right (rect : ScreenRect) : UInt16 :=
  clampCell (rect.x.toNat + rect.width.toNat)

/-- The row below the rectangle, or the last one there is. -/
def bottom (rect : ScreenRect) : UInt16 :=
  clampCell (rect.y.toNat + rect.height.toNat)

end ScreenRect

end LanguageClient
