import LanguageClient.Edit
import LanguageClient.Text.Alphanumeric

/-!
The word that is being typed, in the characters of its line and in the bytes of it.
-/

namespace LanguageClient.Word

open TextEdit (isBoundary splitAtByte)

/-- The word characters before a column of a line, which is cut to the line's length. -/
def before (line : List Char) (column : Nat) : List Char :=
  ((line.take column).reverse.takeWhile Text.isWordChar).reverse

/-- The column where the word before a column starts. -/
def start (line : List Char) (column : Nat) : Nat :=
  (line.take column).length - (before line column).length

theorem start_le_length (line : List Char) (column : Nat)
    : start line column ≤ (line.take column).length :=
  Nat.sub_le _ _

/-- The word before a column does not start behind it. -/
theorem start_le (line : List Char) (column : Nat) : start line column ≤ column :=
  Nat.le_trans (start_le_length line column) (List.length_take_le _ _)

/-- The characters of a line with the bytes where they start, counted on from a byte. -/
def indexed : Nat → List Char → List (Nat × Char)
  | _, [] => []
  | byte, char :: rest => (byte, char) :: indexed (byte + char.utf8Size) rest

/-- A part of a line: the column and the byte where it starts, and the byte behind it. -/
structure Span where
  column : Nat
  start : Nat
  stop : Nat
deriving DecidableEq, Repr

/-- The span of the word before a column, from the bytes where the characters before it start. -/
def span (line : List Char) (column : Nat) : Span :=
  let front := (indexed 0 line).take column
  let stop := front.getLast?.elim 0 fun last => last.1 + last.2.utf8Size
  let letters := (front.reverse.takeWhile fun item => Text.isWordChar item.2).length
  let first := front.length - letters
  { column := first, start := front[first]?.elim stop (·.1), stop }

/-- What is between two bytes of a line, if they are in order and between its characters. -/
def slice? (line : List Char) (start stop : Nat) : Option (List Char) :=
  if start ≤ stop && isBoundary line start && isBoundary line stop then
    some (splitAtByte (splitAtByte line stop).1 start).2
  else
    none

/-- The word before a column and where it starts, cut out of the bytes of the line. -/
def cut? (line : List Char) (column : Nat) : Option (Nat × List Char) :=
  let span := span line column
  (slice? line span.start span.stop).map (span.column, ·)

end LanguageClient.Word
