import LanguageClient.Completion.Menu
import LanguageClient.Overlay.Placement
import LanguageClient.Text.Blank

/-!
Overlays: lines of text in a rectangle over the screen, each line as wide as the rectangle.
-/

namespace LanguageClient

inductive OverlayKind where
  /-- A completion menu. -/
  | completion
  /-- Text to read. -/
  | message
deriving DecidableEq, Repr

structure Overlay where
  kind : OverlayKind
  rect : ScreenRect
  lines : List String
  /-- The line that is highlighted. -/
  selectedRow : Option Nat
deriving DecidableEq, Repr

/-- The limits of overlays. -/
structure OverlayLimits where
  /-- The most rows of a completion menu. -/
  maxItems : UInt16 := 10
  maxWidth : UInt16 := 60
  /-- The least width of a completion menu. -/
  minWidth : UInt16 := 12
  /-- The rows kept free between an overlay and the reserved rows. -/
  safetyMargin : UInt16 := 1
deriving DecidableEq, Repr

namespace Overlay

variable (widths : CellWidths)

/--
The start of a text that fits into cells, and how many of them it takes. A control character is
shown as a blank, and nothing follows the first character that does not fit.
-/
def fitting : Nat → List Char → List Char × Nat
  | _, [] => ([], 0)
  | width, char :: rest =>
    let shown := if Text.isControl char then ' ' else char
    let cells := widths.ofChar shown
    if width < cells then
      ([], 0)
    else
      let (fitted, used) := fitting (width - cells) rest
      (shown :: fitted, cells + used)

/-- A text cut or filled up with blanks to a width. -/
def fitToWidth (text : String) (width : Nat) : String :=
  let (fitted, used) := fitting widths width text.toList
  String.ofList (fitted ++ List.replicate (width - used) ' ')

/-- The width of an overlay for a content, between its limits. The greater limit wins. -/
def clampWidth (content : Nat) (least most : UInt16) : UInt16 :=
  let limit := max most 1
  max (min least limit) (.ofNat (min content limit.toNat))

/-- The width of the widest text, or zero when there is none. -/
def widest (texts : List String) : Nat :=
  (texts.map widths.ofText).max?.getD 0

/-- A candidate in a row: its label, and its detail in a column of its own. -/
def candidateRow (labelWidth : Nat) (candidate : Candidate) : String :=
  match candidate.detail with
  | none => candidate.label
  | some detail =>
    let gap := labelWidth - widths.ofText candidate.label + 1
    candidate.label ++ String.ofList (List.replicate gap ' ') ++ detail

/-- The widths of labels and of rows, where a blank stands before details. -/
def menuWidths (candidates : List Candidate) : Nat × Nat :=
  let labelWidth := widest widths (candidates.map (·.label))
  match candidates.filterMap (·.detail) with
  | [] => (labelWidth, labelWidth)
  | details => (labelWidth, labelWidth + 1 + widest widths details)

/--
The overlay of a menu that is open. The menu's pages take the height that there is room for, so
that a menu with little room scrolls.
-/
def ofMenu? (menu : CompletionMenu) (area : OverlayArea) (limits : OverlayLimits)
    : Option (Overlay × CompletionMenu) :=
  if !menu.isOpen then
    none
  else
    let (labelWidth, contentWidth) := menuWidths widths menu.ranked
    let width := clampWidth contentWidth limits.minWidth limits.maxWidth
    let height := min menu.ranked.length (max limits.maxItems 1).toNat
    let rect := area.place width (.ofNat height) limits.safetyMargin
    let paged := menu.setPageSize rect.height.toNat
    let page := paged.page
    let line := fun candidate =>
      fitToWidth widths (candidateRow widths labelWidth candidate) rect.width.toNat
    some
      (
        {
          kind := .completion
          rect
          lines := page.candidates.map line
          selectedRow := page.selectedRow?
        },
        paged
      )

/-- The overlay of lines of text, unless there are none. Lines without room are left out. -/
def ofLines? (lines : List String) (area : OverlayArea) (limits : OverlayLimits)
    : Option Overlay :=
  if lines.isEmpty then
    none
  else
    let width := clampWidth (widest widths lines) 1 limits.maxWidth
    let rect := area.place width (.ofNat (min lines.length 65535)) limits.safetyMargin
    some
      {
        kind := .message
        rect
        lines := (lines.take rect.height.toNat).map (fitToWidth widths · rect.width.toNat)
        selectedRow := none
      }

end Overlay

end LanguageClient
