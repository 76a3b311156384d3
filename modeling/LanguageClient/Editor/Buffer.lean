import LanguageClient.Host
import LanguageClient.Text.Affix
import LanguageClient.Text.Lines

/-!
The text that an editor works on, as its lines.
-/

namespace LanguageClient

structure TextBuffer where
  lines : List (List Char)
deriving DecidableEq, Repr

namespace TextBuffer

/-- The buffer of a text. -/
def ofText (text : List Char) : TextBuffer where
  lines := Text.splitLines text

/-- The buffer of a text whose lines may end with carriage returns, which are left out. -/
def ofFileText (text : List Char) : TextBuffer where
  lines := (Text.splitLines text).map Text.withoutReturn

/-- The text of a buffer. -/
def text (buffer : TextBuffer) : List Char :=
  Text.joinLines buffer.lines

/-- A line of a buffer. -/
def line? (buffer : TextBuffer) (line : Nat) : Option (List Char) :=
  buffer.lines[line]?

/-- The length of a line. A line that does not exist is empty. -/
def lineLength (buffer : TextBuffer) (line : Nat) : Nat :=
  ((buffer.line? line).map List.length).getD 0

/-- The point of a buffer that is nearest to any point: the last line, and then its end. -/
def clamp (buffer : TextBuffer) (point : TextPoint) : TextPoint :=
  let line := min point.line (buffer.lines.length - 1)
  { line, column := min point.column (buffer.lineLength line) }

/-- How many characters lines have together with their newlines. -/
def lengthOfLines : List (List Char) → Nat
  | [] => 0
  | line :: rest => line.length + 1 + lengthOfLines rest

/-- How many characters are before a point. -/
def offset (buffer : TextBuffer) (point : TextPoint) : Nat :=
  let clamped := buffer.clamp point
  lengthOfLines (buffer.lines.take clamped.line) + clamped.column

/-- The text of a buffer with what is between two points replaced, in whichever order. -/
def splice (buffer : TextBuffer) (left right : TextPoint) (newText : List Char) : List Char :=
  let start := min (buffer.offset left) (buffer.offset right)
  let stop := max (buffer.offset left) (buffer.offset right)
  buffer.text.take start ++ newText ++ buffer.text.drop stop

end TextBuffer

end LanguageClient
