/-!
UTF-8: the bytes of a text, the text of bytes, and where bytes stop being text.
-/

namespace LanguageClient.Text.Utf8

/-- How many bytes characters take. -/
def size : List Char → Nat
  | [] => 0
  | char :: rest => char.utf8Size + size rest

/-- How many bytes lines take together with their newlines. -/
def sizeOfLines : List (List Char) → Nat
  | [] => 0
  | line :: rest => size line + 1 + sizeOfLines rest

/-- The bytes of a text. -/
def encode (text : String) : List UInt8 :=
  text.toList.flatMap String.utf8EncodeChar

/--
A character of which the first bytes have been read: their bits, how many bytes are owed, and
which the next one may be.
-/
structure Partial where
  code : Nat
  owed : Nat
  low : UInt8 := 0x80
  high : UInt8 := 0xBF

/-- What a byte between characters is. -/
inductive Lead where
  | char (char : Char)
  | first (begun : Partial)
  | malformed

/--
A first byte announces the length of its character. The second bytes that would spell a shorter
form, a surrogate or a code point past the last are excluded.
-/
def lead (byte : UInt8) : Lead :=
  if byte < 0x80 then
    .char (Char.ofNat byte.toNat)
  else if byte < 0xC2 then
    .malformed
  else if byte < 0xE0 then
    .first { code := byte.toNat - 0xC0, owed := 1 }
  else if byte < 0xF0 then
    .first
      {
        code := byte.toNat - 0xE0
        owed := 2
        low := if byte == 0xE0 then 0xA0 else 0x80
        high := if byte == 0xED then 0x9F else 0xBF
      }
  else if byte < 0xF5 then
    .first
      {
        code := byte.toNat - 0xF0
        owed := 3
        low := if byte == 0xF0 then 0x90 else 0x80
        high := if byte == 0xF4 then 0x8F else 0xBF
      }
  else
    .malformed

/--
The characters of bytes that follow a character's first bytes, or none of it. `none` stands for
bytes that are no text: a byte that starts nothing, or the start of a character that does not go
on. The byte that ends the latter is read afresh.
-/
def decodeAfter : Option Partial → List UInt8 → List (Option Char)
  | none, [] => []
  | some _, [] => [none]
  | none, byte :: rest =>
    match lead byte with
    | .char char => some char :: decodeAfter none rest
    | .first begun => decodeAfter (some begun) rest
    | .malformed => none :: decodeAfter none rest
  | some begun, byte :: rest =>
    if begun.low ≤ byte && byte ≤ begun.high then
      let code := begun.code * 64 + byte.toNat % 64
      if begun.owed ≤ 1 then
        some (Char.ofNat code) :: decodeAfter none rest
      else
        decodeAfter (some { code, owed := begun.owed - 1 }) rest
    else
      none ::
        match lead byte with
        | .char char => some char :: decodeAfter none rest
        | .first next => decodeAfter (some next) rest
        | .malformed => none :: decodeAfter none rest

/-- The replacement character, which stands for what is no text. -/
def replacement : Char :=
  Char.ofNat 0xFFFD

/-- The text of bytes, with a replacement character for every stretch that is no text. -/
def decodeLossy (bytes : List UInt8) : String :=
  String.ofList ((decodeAfter none bytes).map (·.getD replacement))

/-- The characters before the first stretch that is no text, and whether there is none. -/
def splitValid : List (Option Char) → List Char × Bool
  | [] => ([], true)
  | none :: _ => ([], false)
  | some char :: rest =>
    let (chars, complete) := splitValid rest
    (char :: chars, complete)

/-- The text of bytes, or how many bytes are text before the first that are not. -/
def decode (bytes : List UInt8) : Except Nat String :=
  match splitValid (decodeAfter none bytes) with
  | (chars, true) => .ok (String.ofList chars)
  | (chars, false) => .error (size chars)

end LanguageClient.Text.Utf8
