import LanguageClient.Host
import LanguageClient.Session.Requests

/-!
A client: one session on behalf of one editor, with a completion menu.
-/

namespace LanguageClient

structure Client where
  session : Session := {}
  menu : CompletionMenu := {}
  limits : OverlayLimits := {}
  /-- Where the word that is being completed starts, while it is being completed. -/
  anchor : Option TextPoint := none
  /-- The indentation that formatting requests ask for. -/
  tabSize : UInt32 := 4
  insertSpaces : Bool := true

namespace Client

variable {σ : Type} [Host σ]

/-- A client without a server, whose menu has the most rows that the limits allow. -/
def new (options : SessionOptions) (limits : OverlayLimits) : Client where
  session := { options }
  menu := .ofPageSize (max limits.maxItems 1).toNat
  limits

/-- Whether a completion menu is open or awaited. -/
def isCompleting (client : Client) : Bool :=
  client.anchor.isSome

/-- Set the indentation that formatting requests ask for. -/
def setIndent (client : Client) (tabSize : UInt32) (insertSpaces : Bool) : Client :=
  { client with tabSize, insertSpaces }

/-- Show what went wrong. -/
def report (host : σ) (error : ClientError) : σ :=
  Host.showStatus error.message host

/-- The characters of a line. A line that does not exist has none. -/
def lineChars (host : σ) (line : Nat) : List Char :=
  ((Host.lineText host line).getD "").toList

/-- The position of a point in the document. -/
def positionOf (host : σ) (point : TextPoint) : Position :=
  .ofColumn (lineChars host point.line) point.line point.column

/-- The point of a position in the document. -/
def pointOf (host : σ) (position : Position) : TextPoint where
  line := position.line.toNat
  column := position.column (lineChars host position.line.toNat)

/-- The area of an overlay that belongs to a point in view. -/
def overlayArea? (host : σ) (point : TextPoint) : Option OverlayArea :=
  (Host.screenPosition host point).map fun anchor =>
    { anchor, region := Host.screenBounds host, reserved := Host.reservedRow host }

/-- The point behind a text that is inserted at another point. -/
def endOfInsert (start : TextPoint) (text : String) : TextPoint :=
  let behind := (text.toList.reverse.takeWhile (· != '\n')).length
  match text.toList.count '\n' with
  | 0 => { line := start.line, column := start.column + behind }
  | newlines => { line := start.line + newlines, column := behind }

end Client

end LanguageClient
