import LanguageClient.Overlay.Placement
import Mathlib.Data.Int.Init

/-! Where overlays go. The rectangle of an overlay starts in its region and keeps its width; it is
below the anchor where it fits there, and otherwise on the side with more rows, cut to them.
-/

namespace LanguageClient

-----------------------------------------------------------------------------------------
-- Cells
-----------------------------------------------------------------------------------------

theorem toNat_clampCell (value : Int) : (clampCell value).toNat = min value.toNat 65535 := by
  exact UInt16.toNat_ofNat_of_lt' (show _ < 65536 by omega)

/-- A number that a cell can have is kept. -/
theorem toNat_clampCell_of_le {value : Int} (start : 0 ≤ value) (stop : value ≤ 65535)
    : ((clampCell value).toNat : Int) = value := by
  rw [toNat_clampCell]
  omega

theorem toNat_max_cell (left right : UInt16)
    : (max left right).toNat = max left.toNat right.toNat := by
  change (if left ≤ right then right else left).toNat = _
  split
  · rename_i below
    exact (Nat.max_eq_right (UInt16.le_iff_toNat_le.mp below)).symm
  · rename_i above
    rw [UInt16.le_iff_toNat_le, Nat.not_le] at above
    exact (Nat.max_eq_left (Nat.le_of_lt above)).symm

theorem toNat_cell_le (cell : UInt16) : cell.toNat ≤ 65535 :=
  Nat.le_of_lt_succ cell.toNat_lt

namespace ScreenRect

theorem toNat_right (rect : ScreenRect)
    : rect.right.toNat = min (rect.x.toNat + rect.width.toNat) 65535 := by
  rw [right, toNat_clampCell]
  omega

/-- Whether a row of the screen is one of the rectangle's. -/
def HasRow (rect : ScreenRect) (row : Nat) : Prop :=
  rect.y.toNat ≤ row ∧ row < rect.y.toNat + rect.height.toNat

end ScreenRect

namespace OverlayArea

variable (area : OverlayArea) (width height margin : UInt16)

-----------------------------------------------------------------------------------------
-- Columns
-----------------------------------------------------------------------------------------

/-- An overlay never starts behind its anchor. -/
theorem left_le : area.left width ≤ area.anchor.column.toNat := by
  rw [left]
  split <;> omega

theorem x_place
    : ((area.place width height margin).x.toNat : Int)
      = max (area.left width) area.region.x.toNat := by
  have before := area.left_le width
  have column := toNat_cell_le area.anchor.column
  have edge := toNat_cell_le area.region.x
  exact toNat_clampCell_of_le (by omega) (by omega)

theorem width_place {width : UInt16} (wide : 1 ≤ width)
    : (area.place width height margin).width = width := by
  refine UInt16.toNat_inj.mp ((toNat_max_cell width 1).trans ?_)
  exact Nat.max_eq_left (UInt16.le_iff_toNat_le.mp wide)

/-- An overlay that is not wider than its region does not stick out of it. -/
theorem right_place_le {width : UInt16} (fits : width ≤ area.region.width)
    : (area.place width height margin).x.toNat + width.toNat
      ≤ area.region.x.toNat + area.region.width.toNat := by
  have x := area.x_place width height margin
  have edge := area.region.toNat_right
  rw [UInt16.le_iff_toNat_le] at fits
  rw [left] at x
  split at x <;> omega

-----------------------------------------------------------------------------------------
-- Rows
-----------------------------------------------------------------------------------------

/-- An overlay that fits below its anchor goes there. -/
theorem rows_of_fits {area : OverlayArea} {height margin : UInt16}
    (fits : height.toNat ≤ area.rowsBelow margin)
    : area.rows height margin = ((area.anchor.row.toNat : Int) + 1, (height.toNat : Int)) :=
  if_pos fits

/-- Otherwise it goes above the anchor where there are more rows. -/
theorem rows_above {area : OverlayArea} {height margin : UInt16}
    (short : area.rowsBelow margin < height.toNat)
    (more : area.rowsBelow margin < area.rowsAbove)
    : area.rows height margin
      = (
          (area.anchor.row.toNat : Int) - min (height.toNat : Int) area.rowsAbove,
          min (height.toNat : Int) area.rowsAbove
        ) :=
  (if_neg (Int.not_le.mpr short)).trans (if_pos more)

/-- Else it takes what there is below. -/
theorem rows_below {area : OverlayArea} {height margin : UInt16}
    (short : area.rowsBelow margin < height.toNat)
    (less : area.rowsAbove ≤ area.rowsBelow margin)
    : area.rows height margin = ((area.anchor.row.toNat : Int) + 1, area.rowsBelow margin) :=
  (if_neg (Int.not_le.mpr short)).trans (if_neg (Int.not_lt.mpr less))

/-- No more rows are chosen than are needed, nor than the side with more of them has. -/
theorem rowCount_le
    : (area.rows height margin).2
      ≤ min (height.toNat : Int) (max (area.rowsBelow margin) area.rowsAbove) := by
  by_cases fits : height.toNat ≤ area.rowsBelow margin
  · have count := congrArg Prod.snd (rows_of_fits fits)
    dsimp only at count
    omega
  have short := Int.not_le.mp fits
  by_cases more : area.rowsBelow margin < area.rowsAbove
  · have count := congrArg Prod.snd (rows_above short more)
    dsimp only at count
    omega
  · have count := congrArg Prod.snd (rows_below short (Int.not_lt.mp more))
    dsimp only at count
    omega

/-- The height is that of the chosen rows, and one where there are none. -/
theorem height_place
    : ((area.place width height margin).height.toNat : Int)
      = max (area.rows height margin).2 1 := by
  change ((clampCell (max (area.rows height margin).2 1)).toNat : Int) = _
  have most := area.rowCount_le height margin
  have cells := toNat_cell_le height
  exact toNat_clampCell_of_le (by omega) (by omega)

/-- An overlay has a row, and no more of them than it needs. -/
theorem height_place_within {height : UInt16} (high : 1 ≤ height.toNat)
    : 1 ≤ (area.place width height margin).height.toNat
      ∧ (area.place width height margin).height.toNat ≤ height.toNat := by
  have rows := area.height_place width height margin
  have most := area.rowCount_le height margin
  omega

theorem y_place
    : (area.place width height margin).y.toNat
      = min (max (area.rows height margin).1 area.region.y.toNat).toNat 65535 :=
  toNat_clampCell _

theorem region_y_le : area.region.y.toNat ≤ (area.place width height margin).y.toNat := by
  have y := area.y_place width height margin
  have edge := toNat_cell_le area.region.y
  omega

/-- Rows that start at a cell below the region's edge stay where they are. -/
theorem y_place_of_within {area : OverlayArea} {width height margin : UInt16} {row : Nat}
    (top : (area.rows height margin).1 = row) (start : area.region.y.toNat ≤ row)
    (stop : row ≤ 65535)
    : (area.place width height margin).y.toNat = row := by
  rw [y_place, top]
  omega

/-- Where there are rows above the anchor they are those right above it. -/
theorem place_above {area : OverlayArea} (width : UInt16) {height margin : UInt16}
    (high : 1 ≤ height.toNat) (short : area.rowsBelow margin < height.toNat)
    (more : area.rowsBelow margin < area.rowsAbove) (room : 1 ≤ area.rowsAbove)
    : let rect := area.place width height margin
      rect.y.toNat + rect.height.toNat = area.anchor.row.toNat
      ∧ (rect.height.toNat : Int) = min (height.toNat : Int) area.rowsAbove := by
  intro rect
  have chosen := rows_above short more
  have count : (rect.height.toNat : Int) = _ := area.height_place width height margin
  have last := toNat_cell_le area.anchor.row
  rw [chosen] at count
  dsimp only at count
  have above : area.rowsAbove = area.anchor.row.toNat - area.region.y.toNat := rfl
  have top : rect.y.toNat = area.anchor.row.toNat - rect.height.toNat := by
    refine y_place_of_within ?_ (by omega) (by omega)
    rw [chosen]
    omega
  omega

/-- Rows below the anchor are those right below it, as many as are needed and free. -/
theorem place_below {area : OverlayArea} (width : UInt16) {height margin : UInt16}
    (high : 1 ≤ height.toNat) (inside : area.region.y.toNat ≤ area.anchor.row.toNat)
    (side : height.toNat ≤ area.rowsBelow margin ∨ area.rowsAbove ≤ area.rowsBelow margin)
    (room : 1 ≤ area.rowsBelow margin)
    : let rect := area.place width height margin
      rect.y.toNat = area.anchor.row.toNat + 1
      ∧ (rect.height.toNat : Int) = min (height.toNat : Int) (area.rowsBelow margin) := by
  intro rect
  have count : (rect.height.toNat : Int) = _ := area.height_place width height margin
  have last := toNat_cell_le area.reserved
  have below : area.rowsBelow margin
      = area.reserved.toNat - (area.anchor.row.toNat + 1) - margin.toNat := rfl
  have chosen : area.rows height margin
      = (
          ((area.anchor.row.toNat + 1 : Nat) : Int),
          min (height.toNat : Int) (area.rowsBelow margin)
        ) := by
    by_cases fits : height.toNat ≤ area.rowsBelow margin
    · rw [rows_of_fits fits, Int.min_eq_left fits]
      rfl
    · have short := Int.not_le.mp fits
      rw [rows_below short (side.resolve_left fits), Int.min_eq_right (Int.le_of_lt short)]
      rfl
  rw [chosen] at count
  dsimp only at count
  refine ⟨y_place_of_within (congrArg Prod.fst chosen) (by omega) (by omega), ?_⟩
  omega

/-- Without any rows the overlay has one nevertheless. -/
theorem height_place_of_none (below : area.rowsBelow margin < 1) (above : area.rowsAbove < 1)
    : (area.place width height margin).height.toNat = 1 := by
  have count := area.height_place width height margin
  have most := area.rowCount_le height margin
  omega

-----------------------------------------------------------------------------------------
-- Rectangles
-----------------------------------------------------------------------------------------

/-- An overlay at an anchor that is not above the region starts in the region, has its width, and
ends in the region if it is not wider. Where it fits below the anchor it takes the rows there.
Otherwise it takes those of the side that has more, which is the lower one on a tie: it ends in
front of the rows that are kept free, or right above the anchor. With rows on neither side it has
a single row. The region may be of any size, as its edge is on the screen.
-/
theorem place_geometry (area : OverlayArea) {width height : UInt16} (margin : UInt16)
    (wide : 1 ≤ width) (high : 1 ≤ height) (inside : area.region.y ≤ area.anchor.row)
    : let rect := area.place width height margin
      let anchor := area.anchor.row.toNat
      let free : Int := area.reserved.toNat - margin.toNat
      let below : Int := free - (anchor + 1)
      let above : Int := anchor - area.region.y.toNat
      area.region.x ≤ rect.x
      ∧ area.region.y ≤ rect.y
      ∧ rect.width = width
      ∧ (1 ≤ rect.height ∧ rect.height ≤ height)
      ∧ (width ≤ area.region.width
        → rect.x.toNat + width.toNat ≤ area.region.x.toNat + area.region.width.toNat)
      ∧ (height.toNat ≤ below
        → ∀ row, rect.HasRow row ↔ anchor + 1 ≤ row ∧ row ≤ anchor + height.toNat)
      ∧ (below < height.toNat
        → 1 ≤ max below above
        → (rect.height.toNat : Int) = min (height.toNat : Int) (max below above)
          ∧ ¬ rect.HasRow anchor
          ∧ (above ≤ below
            → rect.y.toNat = anchor + 1 ∧ ((rect.y.toNat + rect.height.toNat : Nat) : Int) ≤ free)
          ∧ (below < above → rect.y.toNat + rect.height.toNat = anchor))
      ∧ (below < 1 → above < 1 → rect.height = 1) := by
  intro rect anchor free below above
  have high' : 1 ≤ height.toNat := UInt16.le_iff_toNat_le.mp high
  have inside' : area.region.y.toNat ≤ anchor := UInt16.le_iff_toNat_le.mp inside
  have roomBelow : area.rowsBelow margin = below := by rw [rowsBelow]; omega
  have roomAbove : area.rowsAbove = above := rfl
  have within := area.height_place_within width margin high'
  refine ⟨?_, UInt16.le_iff_toNat_le.mpr (area.region_y_le width height margin),
    area.width_place height margin wide,
    ⟨UInt16.le_iff_toNat_le.mpr within.1, UInt16.le_iff_toNat_le.mpr within.2⟩,
    area.right_place_le height margin, fun fits row => ?_, fun short room => ?_,
    fun noneBelow noneAbove => ?_⟩
  · have x : (rect.x.toNat : Int) = _ := area.x_place width height margin
    rw [UInt16.le_iff_toNat_le]
    omega
  · obtain ⟨top, count⟩ := place_below width high' inside' (Or.inl (roomBelow ▸ fits))
      (by omega)
    change rect.y.toNat = anchor + 1 at top
    change (rect.height.toNat : Int) = _ at count
    rw [ScreenRect.HasRow]
    omega
  · by_cases more : below < above
    · obtain ⟨bottom, count⟩ := place_above width high' (roomBelow ▸ short)
        (roomBelow.symm ▸ roomAbove.symm ▸ more) (by omega)
      change rect.y.toNat + rect.height.toNat = anchor at bottom
      change (rect.height.toNat : Int) = _ at count
      rw [ScreenRect.HasRow]
      refine ⟨?_, ?_, ?_, ?_⟩ <;> omega
    · have less : area.rowsAbove ≤ area.rowsBelow margin := by omega
      obtain ⟨top, count⟩ := place_below width high' inside' (Or.inr less) (by omega)
      change rect.y.toNat = anchor + 1 at top
      change (rect.height.toNat : Int) = _ at count
      rw [ScreenRect.HasRow]
      refine ⟨?_, ?_, ?_, ?_⟩ <;> omega
  · refine UInt16.toNat_inj.mp ?_
    exact area.height_place_of_none width height margin (by omega) (by omega)

/-- An anchor with four free rows below it and ten rows above it, near the right edge. -/
def crampedArea : OverlayArea where
  anchor := { row := 12, column := 30 }
  region := { x := 0, y := 2, width := 40, height := 20 }
  reserved := 18

theorem place_geometry_above
    : let rect := crampedArea.place 20 30 1
      (1 : UInt16) ≤ 20
      ∧ (1 : UInt16) ≤ 30
      ∧ crampedArea.region.y ≤ crampedArea.anchor.row
      ∧ rect.x.toNat + 20 ≤ 40
      ∧ rect.height.toNat = 10
      ∧ ¬ rect.HasRow 12
      ∧ rect.y.toNat + rect.height.toNat = 12 := by
  have inside : crampedArea.region.y ≤ crampedArea.anchor.row := by decide
  obtain ⟨-, -, -, -, right, -, cut, -⟩ :=
    place_geometry crampedArea 1 (show (1 : UInt16) ≤ 20 by decide)
      (show (1 : UInt16) ≤ 30 by decide) inside
  obtain ⟨height, apart, -, above⟩ := cut (by decide) (by decide)
  exact ⟨by decide, by decide, inside, right (by decide), Int.ofNat.inj height, apart,
    above (by decide)⟩

end OverlayArea

end LanguageClient
