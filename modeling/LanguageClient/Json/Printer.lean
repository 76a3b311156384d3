import LanguageClient.Json.Decimal
import LanguageClient.Json.Value

/-!
The compact written form of a value, without blanks between its tokens.
-/

namespace LanguageClient.Json.Value

/-- The four digits of a code below 256 in an escape. -/
def escapeDigits (code : Nat) : List Char :=
  ['0', '0', Nat.digitChar (code / 16), Nat.digitChar (code % 16)]

/-- A character inside quotes. Quotes, backslashes and control characters are escaped. -/
def quotedChar (char : Char) : List Char :=
  match char with
  | '"' => ['\\', '"']
  | '\\' => ['\\', '\\']
  | '\n' => ['\\', 'n']
  | '\r' => ['\\', 'r']
  | '\t' => ['\\', 't']
  | '\x08' => ['\\', 'b']
  | '\x0c' => ['\\', 'f']
  | other => if other.toNat < 32 then '\\' :: 'u' :: escapeDigits other.toNat else [other]

def quoted (text : String) : List Char :=
  '"' :: text.toList.flatMap quotedChar ++ ['"']

mutual

/-- The characters of the written form. -/
def chars : Value → List Char
  | .null => ['n', 'u', 'l', 'l']
  | .boolean true => ['t', 'r', 'u', 'e']
  | .boolean false => ['f', 'a', 'l', 's', 'e']
  | .number value => value.chars
  | .text value => quoted value
  | .array items => '[' :: itemsChars items ++ [']']
  | .object fields => '\x7b' :: fieldsChars fields ++ ['\x7d']

/-- Items with commas between them. -/
def itemsChars : List Value → List Char
  | [] => []
  | [item] => chars item
  | item :: next :: rest => chars item ++ ',' :: itemsChars (next :: rest)

/-- Fields with commas between them. -/
def fieldsChars : List (String × Value) → List Char
  | [] => []
  | [(name, value)] => quoted name ++ ':' :: chars value
  | (name, value) :: next :: rest =>
    quoted name ++ ':' :: chars value ++ ',' :: fieldsChars (next :: rest)

end

/-- The written form of a value. -/
def print (value : Value) : String :=
  String.ofList value.chars

end LanguageClient.Json.Value
