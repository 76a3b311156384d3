import LanguageClient.Json.Decimal
import LanguageClient.Json.SyntaxError
import LanguageClient.Json.Value
import LanguageClient.Text.Hexadecimal
import LanguageClient.Text.Utf8

/-!
Reading values from text. What remains of the text is passed along with the byte at which it
starts, so that a value is read alike wherever it stands.
-/

namespace LanguageClient.Json

/-- The unread end of a text and the byte of the text at which it starts. -/
structure Input where
  chars : List Char
  position : Nat
deriving DecidableEq, Repr

/-- How a value at the start of an input is read: the value and the input after it. -/
abbrev ValueReader :=
  Input → Except SyntaxError (Value × Input)

/-- White space between tokens. -/
def isSpace (char : Char) : Bool :=
  char == ' ' || char == '\t' || char == '\n' || char == '\r'

namespace Input

/-- The input after some of its characters. -/
def after (input : Input) (taken rest : List Char) : Input where
  chars := rest
  position := input.position + Text.Utf8.size taken

/-- The input after its first character. -/
def advance (input : Input) : Input :=
  input.after (input.chars.take 1) (input.chars.drop 1)

def skipSpaces (input : Input) : Input :=
  input.after (input.chars.takeWhile isSpace) (input.chars.dropWhile isSpace)

/-- The error of an input that does not start with what is expected. -/
def unexpected (input : Input) (expected : String) : SyntaxError :=
  match input.chars with
  | [] => .unexpectedEnd input.position
  | found :: _ => .unexpectedChar expected found input.position

end Input

-----------------------------------------------------------------------------------------
-- Strings
-----------------------------------------------------------------------------------------

/--
Split what follows an opening quote at the closing one, which is not part of either side. A
character after a backslash closes nothing.
-/
def splitAtQuote : List Char → Option (List Char × List Char)
  | [] => none
  | '"' :: rest => some ([], rest)
  | '\\' :: char :: rest =>
    (splitAtQuote rest).map fun split => ('\\' :: char :: split.1, split.2)
  | char :: rest => (splitAtQuote rest).map fun split => (char :: split.1, split.2)

/-- What one spelling inside quotes stands for. -/
inductive StringUnit where
  | char (char : Char)
  /-- A UTF-16 unit given by four digits. -/
  | code (code : Nat)

/-- The character that an escaped character stands for: itself, unless it has a meaning. -/
def escapedMeaning : Char → Char
  | 'b' => '\x08'
  | 'f' => '\x0c'
  | 'n' => '\n'
  | 'r' => '\r'
  | 't' => '\t'
  | char => char

/-- The units of the text between quotes. A `\u` without four digits stands for its letter. -/
def stringUnits : List Char → List StringUnit
  | [] => []
  | '\\' :: 'u' :: first :: second :: third :: fourth :: rest =>
    match Text.hexValue? [first, second, third, fourth] with
    | some code => .code code :: stringUnits rest
    | none => .char 'u' :: stringUnits (first :: second :: third :: fourth :: rest)
  | '\\' :: escaped :: rest => .char (escapedMeaning escaped) :: stringUnits rest
  | char :: rest => .char char :: stringUnits rest

def isHighSurrogate (code : Nat) : Bool :=
  0xD800 ≤ code && code < 0xDC00

def isLowSurrogate (code : Nat) : Bool :=
  0xDC00 ≤ code && code < 0xE000

/-- The character of a UTF-16 unit that stands alone. -/
def loneUnit (code : Nat) : Char :=
  if isHighSurrogate code || isLowSurrogate code then
    Text.Utf8.replacement
  else
    Char.ofNat code

/-- The character of two UTF-16 units. -/
def pairedUnits (high low : Nat) : Char :=
  Char.ofNat (0x10000 + (high - 0xD800) * 0x400 + (low - 0xDC00))

/-- The characters of units, where a high and a low surrogate in a row are one character. -/
def joinUnits : List StringUnit → List Char
  | [] => []
  | .char char :: rest => char :: joinUnits rest
  | .code high :: .code low :: rest =>
    if isHighSurrogate high && isLowSurrogate low then
      pairedUnits high low :: joinUnits rest
    else
      loneUnit high :: joinUnits (.code low :: rest)
  | .code code :: rest => loneUnit code :: joinUnits rest

/-- Read a string whose opening quote starts the input. -/
def readString (input : Input) : Except SyntaxError (String × Input) :=
  match splitAtQuote (input.chars.drop 1) with
  | none => .error (.unterminatedString input.position)
  | some (body, rest) =>
    .ok (String.ofList (joinUnits (stringUnits body)), input.after ('"' :: '"' :: body) rest)

-----------------------------------------------------------------------------------------
-- Numbers and literals
-----------------------------------------------------------------------------------------

/-- The parts of a number's spelling: sign, digits, digits after the point, exponent. -/
structure NumberToken where
  sign : List Char
  whole : List Char
  point : List Char
  fraction : List Char
  exponentMark : List Char
  exponentSign : List Char
  exponent : List Char

namespace NumberToken

/-- The spelling that the parts make up. -/
def chars (token : NumberToken) : List Char :=
  token.sign ++ token.whole ++ token.point ++ token.fraction
    ++ token.exponentMark ++ token.exponentSign ++ token.exponent

def toDecimal (token : NumberToken) : Decimal where
  negative := !token.sign.isEmpty
  coefficient := Decimal.digitsValue (token.whole ++ token.fraction)
  exponent :=
    (if token.exponentSign == ['-'] then
      -(Decimal.digitsValue token.exponent : Int)
    else
      Decimal.digitsValue token.exponent)
    - token.fraction.length

end NumberToken

/-- The digits after a point. A point without digits is not part of the number. -/
def scanFraction (chars : List Char) : (List Char × List Char) × List Char :=
  match chars with
  | '.' :: rest =>
    match rest.takeWhile Decimal.isDigit with
    | [] => (([], []), chars)
    | digits => ((['.'], digits), rest.dropWhile Decimal.isDigit)
  | _ => (([], []), chars)

/-- Split off the sign of an exponent. -/
def scanSign : List Char → List Char × List Char
  | '+' :: rest => (['+'], rest)
  | '-' :: rest => (['-'], rest)
  | chars => ([], chars)

/-- An exponent. Its mark without digits behind it is not part of the number. -/
def scanExponent (chars : List Char) : (List Char × List Char × List Char) × List Char :=
  match chars with
  | mark :: rest =>
    if mark == 'e' || mark == 'E' then
      let (sign, unsigned) := scanSign rest
      match unsigned.takeWhile Decimal.isDigit with
      | [] => (([], [], []), chars)
      | digits => (([mark], sign, digits), unsigned.dropWhile Decimal.isDigit)
    else
      (([], [], []), chars)
  | [] => (([], [], []), chars)

/-- The longest spelling of a number at the start of a text, and what follows it. -/
def scanNumber (chars : List Char) : NumberToken × List Char :=
  let (sign, unsigned) :=
    match chars with
    | '-' :: rest => (['-'], rest)
    | _ => ([], chars)
  let whole := unsigned.takeWhile Decimal.isDigit
  let afterWhole := unsigned.dropWhile Decimal.isDigit
  if whole.isEmpty then
    (⟨sign, [], [], [], [], [], []⟩, afterWhole)
  else
    let ((point, fraction), afterFraction) := scanFraction afterWhole
    let ((exponentMark, exponentSign, exponent), rest) := scanExponent afterFraction
    (⟨sign, whole, point, fraction, exponentMark, exponentSign, exponent⟩, rest)

/-- Read a number. It must have digits and be finite. -/
def readNumber (input : Input) : Except SyntaxError (Value × Input) :=
  let (token, rest) := scanNumber input.chars
  let number := token.toDecimal.toNumber
  if token.whole.isEmpty || !number.isFinite then
    .error (.invalidNumber (String.ofList token.chars) input.position)
  else
    .ok (.number number, input.after token.chars rest)

/-- Read one of the words that are values. -/
def readLiteral (input : Input) : Except SyntaxError (Value × Input) :=
  match input.chars with
  | 't' :: 'r' :: 'u' :: 'e' :: rest =>
    .ok (.boolean true, input.after ['t', 'r', 'u', 'e'] rest)
  | 'f' :: 'a' :: 'l' :: 's' :: 'e' :: rest =>
    .ok (.boolean false, input.after ['f', 'a', 'l', 's', 'e'] rest)
  | 'n' :: 'u' :: 'l' :: 'l' :: rest =>
    .ok (.null, input.after ['n', 'u', 'l', 'l'] rest)
  | _ => .error (.unknownLiteral input.position)

-----------------------------------------------------------------------------------------
-- Arrays and objects
-----------------------------------------------------------------------------------------

/--
Read the items of an array up to its closing bracket. Each item takes a character at least, so
the number of characters bounds the number of items.
-/
def readItems (readItem : ValueReader)
    : Nat → Input → Except SyntaxError (List Value × Input)
  | 0, input => .error (.unexpectedEnd input.position)
  | bound + 1, input => do
    let (item, behindItem) ← readItem input
    let next := behindItem.skipSpaces
    match next.chars with
    | ',' :: _ =>
      let (items, last) ← readItems readItem bound next.advance
      return (item :: items, last)
    | ']' :: _ => return ([item], next.advance)
    | _ => .error (next.unexpected "',' or ']'")

/-- Read an array whose opening bracket has been read. -/
def readArray (readItem : ValueReader) (input : Input) : Except SyntaxError (Value × Input) :=
  let first := input.skipSpaces
  match first.chars with
  | ']' :: _ => .ok (.array [], first.advance)
  | _ => do
    let (items, last) ← readItems readItem first.chars.length first
    return (.array items, last)

/-- Read a field: a string, a colon and a value. -/
def readField (readItem : ValueReader) (input : Input)
    : Except SyntaxError ((String × Value) × Input) :=
  let start := input.skipSpaces
  match start.chars with
  | '"' :: _ => do
    let (name, behindName) ← readString start
    let next := behindName.skipSpaces
    match next.chars with
    | ':' :: _ =>
      let (value, last) ← readItem next.advance
      return ((name, value), last)
    | _ => .error (next.unexpected "':' after object key")
  | _ => .error (start.unexpected "string key")

/-- Read the fields of an object up to its closing brace, at most `bound` of them. -/
def readFields (readItem : ValueReader)
    : Nat → Input → Except SyntaxError (List (String × Value) × Input)
  | 0, input => .error (.unexpectedEnd input.position)
  | bound + 1, input => do
    let (field, behindField) ← readField readItem input
    let next := behindField.skipSpaces
    match next.chars with
    | ',' :: _ =>
      let (fields, last) ← readFields readItem bound next.advance
      return (field :: fields, last)
    | '\x7d' :: _ => return ([field], next.advance)
    | _ => .error (next.unexpected "',' or '\x7d'")

/-- Read an object whose opening brace has been read. The last field of a name is kept. -/
def readObject (readItem : ValueReader) (input : Input) : Except SyntaxError (Value × Input) :=
  let first := input.skipSpaces
  match first.chars with
  | '\x7d' :: _ => .ok (.object [], first.advance)
  | _ => do
    let (fields, last) ← readFields readItem first.chars.length first
    return (.ofFields fields, last)

-----------------------------------------------------------------------------------------
-- Values
-----------------------------------------------------------------------------------------

/-- How many arrays and objects may be inside one another. -/
def nestingLimit : Nat :=
  512

/-- Read a value, given how to read the values inside it unless no more nesting is allowed. -/
def readValueWith (readItem : Option ValueReader) (input : Input)
    : Except SyntaxError (Value × Input) :=
  let start := input.skipSpaces
  match start.chars with
  | [] => .error (.unexpectedEnd start.position)
  | first :: _ =>
    if first == '\x7b' || first == '[' then
      match readItem with
      | none => .error (.tooDeep nestingLimit start.position)
      | some readItem =>
        if first == '[' then readArray readItem start.advance
        else readObject readItem start.advance
    else if first == '"' then
      (readString start).map fun read => (.text read.1, read.2)
    else if first == '-' || Decimal.isDigit first then
      readNumber start
    else
      readLiteral start

/-- Read a value in which at most so many arrays and objects are inside one another. -/
def readNested : Nat → Input → Except SyntaxError (Value × Input)
  | 0 => readValueWith none
  | levels + 1 => readValueWith (some (readNested levels))

/-- Read a value after any white space. -/
def readValue (input : Input) : Except SyntaxError (Value × Input) :=
  readNested nestingLimit input

/-- The characters from a byte on, when a character starts there or the text ends there. -/
def charsFromByte? : List Char → Nat → Option (List Char)
  | chars, 0 => some chars
  | [], _ + 1 => none
  | char :: rest, byte + 1 =>
    if char.utf8Size ≤ byte + 1 then charsFromByte? rest (byte + 1 - char.utf8Size) else none

namespace Value

/--
Read the value that follows a byte of a text, and give the byte after it. Nothing starts inside
a character.
-/
def readFrom (text : String) (start : Nat) : Except SyntaxError (Value × Nat) :=
  if start > text.utf8ByteSize then
    .error (.unexpectedEnd text.utf8ByteSize)
  else
    match charsFromByte? text.toList start with
    | none => .error (.unknownLiteral start)
    | some chars => (readValue ⟨chars, start⟩).map fun read => (read.1, read.2.position)

/-- Read a text that is one value between white space. -/
def read (text : String) : Except SyntaxError Value := do
  let (value, behindValue) ← readValue ⟨text.toList, 0⟩
  let rest := behindValue.skipSpaces
  if rest.chars.isEmpty then
    return value
  else
    .error (.trailingCharacters rest.position)

/-- Read bytes that are the text of one value. -/
def readBytes (bytes : List UInt8) : Except SyntaxError Value :=
  match Text.Utf8.decode bytes with
  | .error position => .error (.invalidUtf8 position)
  | .ok decoded => read decoded

end Value

end LanguageClient.Json
