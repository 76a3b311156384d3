import LanguageClient.Json.Shape

/-!
Positions in a document. Messages count columns in UTF-16 units and an editor counts characters;
the two are converted within a line.
-/

namespace LanguageClient

open Json (Value ShapeError)

namespace Column

/-- How many UTF-16 units a character takes. -/
def unitsOf (char : Char) : Nat :=
  if char.toNat < 0x10000 then 1 else 2

/-- How many UTF-16 units a text takes. -/
def units : List Char → Nat
  | [] => 0
  | char :: rest => unitsOf char + units rest

/-- The UTF-16 column of a character column. -/
def toUnits (line : List Char) (column : Nat) : Nat :=
  units (line.take column)

/--
The character column of a UTF-16 column. One inside a surrogate pair goes to the next character
and one past the end to the end.
-/
def ofUnits : List Char → Nat → Nat
  | [], _ => 0
  | char :: rest, column =>
    if column = 0 then 0 else 1 + ofUnits rest (column - unitsOf char)

end Column

/-- A line and a column in UTF-16 units, both from zero. -/
structure Position where
  line : UInt32
  character : UInt32
deriving DecidableEq, Repr, Inhabited

namespace Position

/-- Order by line, then by column. -/
def isLe (left right : Position) : Bool :=
  left.line < right.line || (left.line == right.line && left.character ≤ right.character)

/-- The position of a character column of a line. -/
def ofColumn (lineText : List Char) (line column : Nat) : Position where
  line := .ofNat line
  character := .ofNat (Column.toUnits lineText column)

/-- The character column of a position in its line. -/
def column (lineText : List Char) (position : Position) : Nat :=
  Column.ofUnits lineText position.character.toNat

/-- Read a position. Numbers are taken modulo 2^32. -/
def ofValue (value : Value) : Except ShapeError Position := do
  let line ← (← value.field "line").expectNat
  let character ← (← value.field "character").expectNat
  return { line := .ofNat line, character := .ofNat character }

def toValue (position : Position) : Value :=
  .ofFields
    [
      ("line", .ofNat position.line.toNat),
      ("character", .ofNat position.character.toNat)
    ]

end Position

/-- The text from one position up to another. -/
structure Range where
  start : Position
  stop : Position
deriving DecidableEq, Repr, Inhabited

namespace Range

def ofValue (value : Value) : Except ShapeError Range := do
  let start ← Position.ofValue (← value.field "start")
  let stop ← Position.ofValue (← value.field "end")
  return { start, stop }

def toValue (range : Range) : Value :=
  .ofFields [("start", range.start.toValue), ("end", range.stop.toValue)]

end Range

end LanguageClient
