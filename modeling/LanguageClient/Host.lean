import LanguageClient.Files.Tree
import LanguageClient.Overlay.Basic

/-!
What a client needs from the editor that it works in.
-/

namespace LanguageClient

/-- A place in a text: a line and a column in characters, both from zero. -/
structure TextPoint where
  line : Nat
  column : Nat
deriving DecidableEq, Repr, Inhabited

namespace TextPoint

/-- Order by line, then by column. -/
def isLe (left right : TextPoint) : Bool :=
  left.line < right.line || (left.line == right.line && left.column ≤ right.column)

/-- The point of two that comes first. -/
def first (left right : TextPoint) : TextPoint :=
  if left.isLe right then left else right

/-- The point of two that comes last. -/
def last (left right : TextPoint) : TextPoint :=
  if left.isLe right then right else left

end TextPoint

/-- An editor that shows one document, by the states that it goes through. -/
class Host (σ : Type) where
  /-- The path of the document from the root, when it has one. -/
  documentPath : σ → Option String
  /-- The language of the document. -/
  language : σ → String
  /-- The lines of the document between newlines. -/
  documentText : σ → String
  lineText : σ → Nat → Option String
  cursor : σ → TextPoint
  /-- Move the cursor to a point, or near it when there is no such point. -/
  setCursor : TextPoint → σ → σ
  /-- Replace the text from one point up to another. -/
  replaceRange : TextPoint → TextPoint → String → σ → σ
  /-- Show the document at a path, or say why that is not possible. -/
  openFile : String → σ → Except String Unit × σ
  /-- Show a short message. -/
  showStatus : String → σ → σ
  /-- Show an overlay in place of any other. -/
  showOverlay : Overlay → σ → σ
  hideOverlay : σ → σ
  screenBounds : σ → ScreenRect
  /-- The first of the rows at the bottom that overlays leave free. -/
  reservedRow : σ → UInt16
  /-- The cell that shows a point, unless it is out of view. -/
  screenPosition : σ → TextPoint → Option ScreenPoint
  /-- The files that paths lead to. -/
  files : σ → FileTree

end LanguageClient
