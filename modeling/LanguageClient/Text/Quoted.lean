import LanguageClient.Text.Printable

/-!
Characters and texts in quotes, as they stand in error messages: what would not show as itself is
given by its code point.
-/

namespace LanguageClient.Text

/-- The code point of a character in an escape. -/
def codeEscape (char : Char) : List Char :=
  ['\\', 'u', '\x7b'] ++ Nat.toDigits 16 char.toNat ++ ['\x7d']

/-- A character between the given quotes. -/
def escapedChar (quote char : Char) : List Char :=
  if char == quote || char == '\\' then
    ['\\', char]
  else if char == '\x00' then
    ['\\', '0']
  else if char == '\t' then
    ['\\', 't']
  else if char == '\r' then
    ['\\', 'r']
  else if char == '\n' then
    ['\\', 'n']
  else if isExtending char || !isPrintable char then
    codeEscape char
  else
    [char]

/-- A character in single quotes. -/
def quotedChar (char : Char) : String :=
  String.ofList ('\'' :: escapedChar '\'' char ++ ['\''])

/-- A text in double quotes. -/
def quoted (text : String) : String :=
  String.ofList ('"' :: text.toList.flatMap (escapedChar '"') ++ ['"'])

end LanguageClient.Text
