import LanguageClient.Position
import LanguageClient.Text.Affix
import LanguageClient.Text.Lines
import LanguageClient.Text.Utf8

/-!
Text edits. The ranges of a list of edits all refer to the text before any of them, so they are
applied from the end of the text to its start.
-/

namespace LanguageClient

open Json (Value ShapeError)

/-- The replacement of a range by a text. -/
structure TextEdit where
  range : Range
  newText : String
deriving DecidableEq, Repr

namespace TextEdit

/-- Read an edit. One without a new text removes its range. -/
def ofValue (value : Value) : Except ShapeError TextEdit := do
  let range ← Range.ofValue (← value.field "range")
  return { range, newText := (value.getText? "newText").getD "" }

/-- Read a list of edits, or null for none. Unreadable entries are skipped. -/
def listOfValue (value : Value) : Except ShapeError (List TextEdit) :=
  if value.isNull then
    .ok []
  else
    value.expectArray.map (·.filterMap fun item => (ofValue item).toOption)

/--
The edits from the last start to the first. Of edits with one start the last listed comes first,
so that insertions at one place end up in the order of the list.
-/
def applicationOrder (edits : List TextEdit) : List TextEdit :=
  edits.reverse.mergeSort fun left right => right.range.start.isLe left.range.start

/--
The byte of a text at a position. A column past the end of its line is at the line's end, before
a carriage return, and a line past the last is at the end of the text.
-/
def byteOffset (text : List Char) (position : Position) : Nat :=
  let lines := Text.splitLines text
  match lines.drop position.line.toNat with
  | [] => Text.Utf8.size text
  | current :: _ =>
    let line := Text.withoutReturn current
    Text.Utf8.sizeOfLines (lines.take position.line.toNat)
      + Text.Utf8.size (line.take (position.column line))

/-- Split a text at a byte. -/
def splitAtByte : List Char → Nat → List Char × List Char
  | [], _ => ([], [])
  | char :: rest, byte =>
    if char.utf8Size ≤ byte then
      let split := splitAtByte rest (byte - char.utf8Size)
      (char :: split.1, split.2)
    else
      ([], char :: rest)

/-- A replacement of the bytes from `start` up to `stop`. -/
structure Splice where
  start : Nat
  stop : Nat
  newText : List Char
deriving DecidableEq, Repr

def Splice.apply (splice : Splice) (text : List Char) : List Char :=
  (splitAtByte text splice.start).1 ++ splice.newText ++ (splitAtByte text splice.stop).2

/-- Whether a byte of a text stands between two characters, or at either end of the text. -/
def isBoundary : List Char → Nat → Bool
  | _, 0 => true
  | [], _ + 1 => false
  | char :: rest, byte => char.utf8Size ≤ byte && isBoundary rest (byte - char.utf8Size)

/-- Whether a splice replaces whole characters of a text. -/
def Splice.fits (splice : Splice) (text : List Char) : Bool :=
  splice.start ≤ splice.stop && isBoundary text splice.start && isBoundary text splice.stop

/-- Whether each of some splices fits the text that those before it leave. -/
def Splice.allFit : List Splice → List Char → Bool
  | [], _ => true
  | splice :: rest, text => splice.fits text && allFit rest (splice.apply text)

/-- The bytes that an edit of a text replaces, whichever end of its range comes first. -/
def resolve (text : List Char) (edit : TextEdit) : Splice :=
  let start := byteOffset text edit.range.start
  let stop := byteOffset text edit.range.stop
  { start := min start stop, stop := max start stop, newText := edit.newText.toList }

/-- The splices of edits of a text, from the end of the text to its start. -/
def splices (text : List Char) (edits : List TextEdit) : List Splice :=
  ((applicationOrder edits).map (resolve text)).mergeSort fun left right =>
    right.start ≤ left.start

/-- The text after edits. -/
def applyAll (edits : List TextEdit) (text : String) : String :=
  String.ofList
    ((splices text.toList edits).foldl (fun edited splice => splice.apply edited) text.toList)

/--
The text after edits, if there is one. A splice of bytes that the edited text does not have by
then, or of a part of a character, ends the program.
-/
def applyAll? (edits : List TextEdit) (text : String) : Option String :=
  if Splice.allFit (splices text.toList edits) text.toList then some (applyAll edits text)
  else none

end TextEdit

end LanguageClient
