/-!
Texts as parts between separators, such as lines between newlines.
-/

namespace LanguageClient.Text

/-- The parts of a text between separators, of which there is always one at least. -/
def splitOn (separator : Char) : List Char → List (List Char)
  | [] => [[]]
  | char :: rest =>
    if char = separator then
      [] :: splitOn separator rest
    else
      match splitOn separator rest with
      | [] => [[char]]
      | part :: parts => (char :: part) :: parts

/-- The text of parts with separators between them. -/
def joinOn (separator : Char) : List (List Char) → List Char
  | [] => []
  | [part] => part
  | part :: next :: parts => part ++ separator :: joinOn separator (next :: parts)

/-- The lines of a text, of which there is always one at least. -/
def splitLines (text : List Char) : List (List Char) :=
  splitOn '\n' text

/-- The text that lines make up. -/
def joinLines (lines : List (List Char)) : List Char :=
  joinOn '\n' lines

end LanguageClient.Text
