/-!
Texts without a known start or end.
-/

namespace LanguageClient.Text

/-- What follows a known start, when the text has it. -/
def withoutStart? : List Char → List Char → Option (List Char)
  | [], text => some text
  | _ :: _, [] => none
  | expected :: start, char :: rest =>
    if char = expected then withoutStart? start rest else none

/-- A line without the carriage return at its end. -/
def withoutReturn (line : List Char) : List Char :=
  if line.getLast? = some '\r' then line.dropLast else line

end LanguageClient.Text
