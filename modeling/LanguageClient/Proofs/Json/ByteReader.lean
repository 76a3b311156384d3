import LanguageClient.Json.Reader

/-! Reading values off the bytes of a text, with a position in them that moves on byte by byte.
Every slice that is taken, every move and every change of the depth is checked first: what must
not be done is a fault, and a reading without a fault has kept to the text.
-/

namespace LanguageClient.Json

open Text

/-- What a reader must not do. -/
inductive Fault where
  /-- Take a slice that is not in the text, or that does not start and end between characters. -/
  | slice (start stop : Nat)
  /-- Move to before where the reading has started, or past the end of the text. -/
  | move (position : Nat)
  /-- Leave more containers than have been entered, or fewer. -/
  | depth (depth : Nat)
  /-- Go on longer than there are bytes. -/
  | endless
deriving DecidableEq, Repr

/-- Why nothing is read: the text is none, or the reader is at fault. -/
inductive Failure where
  | rejected (error : SyntaxError)
  | fault (fault : Fault)

/-- A text and the byte at which reading it starts. -/
structure Source where
  chars : List Char
  start : Nat

/-- Where a reader is: the byte that comes next, and how many containers it is inside. -/
structure Cursor where
  position : Nat
  depth : Nat

/-- How something is read at a place: what it is, and the place behind it. -/
abbrev ByteReader (α : Type) :=
  Cursor → Except Failure (α × Cursor)

/-- A byte as the character with its number. -/
def charOfByte (byte : UInt8) : Char :=
  Char.ofNat byte.toNat

/-- The bytes of a text, each as the character with its number. -/
def bytewise (chars : List Char) : List Char :=
  (chars.flatMap String.utf8EncodeChar).map charOfByte

namespace Source

variable (source : Source)

-----------------------------------------------------------------------------------------
-- Bytes, slices and moves
-----------------------------------------------------------------------------------------

/-- How many bytes there are. -/
def size : Nat :=
  Utf8.size source.chars

def bytes : List UInt8 :=
  source.chars.flatMap String.utf8EncodeChar

/-- The byte at a position. -/
def peek (position : Nat) : Option Char :=
  (bytewise source.chars)[position]?

/-- The character at a position, unless none starts there. -/
def charAt? (position : Nat) : Option Char :=
  (charsFromByte? source.chars position).bind List.head?

/-- The text from one position up to another. -/
def slice (start stop : Nat) : Except Failure (List Char) :=
  match charsFromByte? source.chars start, charsFromByte? source.chars stop with
  | some front, some back =>
    if start ≤ stop then
      .ok (front.take (front.length - back.length))
    else
      .error (.fault (.slice start stop))
  | _, _ => .error (.fault (.slice start stop))

/-- The bytes from a position on. -/
def bytesFrom (start : Nat) : Except Failure (List UInt8) :=
  if start ≤ source.size then
    .ok (source.bytes.drop start)
  else
    .error (.fault (.slice start source.size))

def moveTo (position : Nat) (cursor : Cursor) : Except Failure Cursor :=
  if source.start ≤ position ∧ position ≤ source.size then
    .ok { cursor with position }
  else
    .error (.fault (.move position))

/-- Move over some of the next bytes. -/
def advance (count : Nat) (cursor : Cursor) : Except Failure Cursor :=
  source.moveTo (cursor.position + count) cursor

/-- Move on byte by byte as long as they are of a kind. -/
def skipWhile (kind : Char → Bool) : Nat → Cursor → Except Failure Cursor
  | 0, _ => .error (.fault .endless)
  | fuel + 1, cursor =>
    if (source.peek cursor.position).any kind then do
      skipWhile kind fuel (← source.advance 1 cursor)
    else
      .ok cursor

/-- A loop goes round no more often than there are bytes, and ends. -/
def fuel : Nat :=
  source.size + 1

def skipSpaces (cursor : Cursor) : Except Failure Cursor :=
  source.skipWhile isSpace source.fuel cursor

def skipDigits (cursor : Cursor) : Except Failure Cursor :=
  source.skipWhile Decimal.isDigit source.fuel cursor

/-- Something else stands where one thing is expected. -/
def unexpected (expected : String) (cursor : Cursor) : Failure :=
  .rejected
    (if source.size ≤ cursor.position then
      .unexpectedEnd cursor.position
    else
      .unexpectedChar expected ((source.charAt? cursor.position).getD Utf8.replacement)
        cursor.position)

/-- Enter the container whose opening delimiter comes next. -/
def enter (cursor : Cursor) : Except Failure Cursor :=
  if nestingLimit < cursor.depth + 1 then
    .error (.rejected (.tooDeep nestingLimit cursor.position))
  else
    source.advance 1 { cursor with depth := cursor.depth + 1 }

/-- Leave a container whose closing delimiter has been read. -/
def leave (cursor : Cursor) : Except Failure Cursor :=
  if cursor.depth = 0 then
    .error (.fault (.depth cursor.depth))
  else
    .ok { cursor with depth := cursor.depth - 1 }

-----------------------------------------------------------------------------------------
-- Strings
-----------------------------------------------------------------------------------------

/-- The code that the next four bytes spell. -/
def hexCode? (position : Nat) : Option Nat :=
  if position + 4 ≤ source.size then
    Text.hexValue? (((bytewise source.chars).drop position).take 4)
  else
    none

/-- The second half of a surrogate pair, when it is escaped next. -/
def lowSurrogate? (position : Nat) : Option Nat :=
  if source.peek position = some '\\' ∧ source.peek (position + 1) = some 'u' then
    (source.hexCode? (position + 2)).filter isLowSurrogate
  else
    none

/-- Read the digits of an escaped code, if there are four, and those of the other half with it. -/
def escapedCode : ByteReader (Option Char) := fun cursor =>
  match source.hexCode? cursor.position with
  | none => .ok (none, cursor)
  | some code => do
    let behind ← source.advance 4 cursor
    match if isHighSurrogate code then source.lowSurrogate? behind.position else none with
    | some low => return (some (pairedUnits code low), ← source.advance 6 behind)
    | none => return (some (loneUnit code), behind)

/-- Read what is behind a backslash. -/
def escaped (opened : Nat) : ByteReader Char := fun cursor =>
  match source.charAt? cursor.position with
  | none => .error (.rejected (.unterminatedString opened))
  | some char => do
    let behind ← source.advance char.utf8Size cursor
    if char = 'u' then do
      let (code, last) ← source.escapedCode behind
      return (code.getD 'u', last)
    else
      return (escapedMeaning char, behind)

/-- Read a string up to its closing quote. What stands for itself is kept in segments. -/
def quoted (opened : Nat) (segment : Nat) : Nat → List Char → ByteReader (List Char)
  | 0, _, _ => .error (.fault .endless)
  | fuel + 1, front, cursor =>
    match source.peek cursor.position with
    | none => .error (.rejected (.unterminatedString opened))
    | some byte =>
      if byte = '"' then do
        let run ← source.slice segment cursor.position
        return (front ++ run, ← source.advance 1 cursor)
      else if byte = '\\' then do
        let run ← source.slice segment cursor.position
        let (char, behind) ← source.escaped opened (← source.advance 1 cursor)
        quoted opened behind.position fuel (front ++ run ++ [char]) behind
      else do
        quoted opened segment fuel front (← source.advance 1 cursor)

/-- Read a string whose opening quote comes next. -/
def string : ByteReader String := fun cursor => do
  let behind ← source.advance 1 cursor
  let (chars, last) ← source.quoted cursor.position behind.position source.fuel [] behind
  return (String.ofList chars, last)

-----------------------------------------------------------------------------------------
-- Numbers and literals
-----------------------------------------------------------------------------------------

/-- Move over a byte if it is of a kind. -/
def skipOne (kind : Char → Bool) (cursor : Cursor) : Except Failure Cursor :=
  if (source.peek cursor.position).any kind then source.advance 1 cursor else .ok cursor

/-- Move over a point with digits behind it. -/
def skipFraction (cursor : Cursor) : Except Failure Cursor :=
  if source.peek cursor.position = some '.'
      ∧ (source.peek (cursor.position + 1)).any Decimal.isDigit then do
    source.skipDigits (← source.advance 1 cursor)
  else
    .ok cursor

/-- Move over an exponent, and back to its mark when no digits are behind it. -/
def skipExponent (cursor : Cursor) : Except Failure Cursor :=
  if (source.peek cursor.position).any fun mark => mark == 'e' || mark == 'E' then do
    let marked ← source.advance 1 cursor
    let signed ← source.skipOne (fun sign => sign == '+' || sign == '-') marked
    let behind ← source.skipDigits signed
    if behind.position = signed.position then
      source.moveTo cursor.position behind
    else
      .ok behind
  else
    .ok cursor

/-- Read a number from the slice that it is written in. -/
def finiteNumber (start : Nat) : ByteReader Value := fun cursor => do
  let token ← source.slice start cursor.position
  let number := (scanNumber token).1.toDecimal.toNumber
  if number.isFinite then
    return (.number number, cursor)
  else
    .error (.rejected (.invalidNumber (String.ofList token) start))

def number : ByteReader Value := fun cursor => do
  let unsigned ← source.skipOne (· == '-') cursor
  let whole ← source.skipDigits unsigned
  if whole.position = unsigned.position then do
    let token ← source.slice cursor.position whole.position
    .error (.rejected (.invalidNumber (String.ofList token) cursor.position))
  else do
    source.finiteNumber cursor.position (← source.skipExponent (← source.skipFraction whole))

/-- The words that are values. -/
def literals : List (String × Value) :=
  [("true", .boolean true), ("false", .boolean false), ("null", .null)]

def literal : ByteReader Value := fun cursor => do
  let rest ← source.bytesFrom cursor.position
  match literals.find? fun named => (Utf8.encode named.1).isPrefixOf rest with
  | some (word, value) => return (value, ← source.advance (Utf8.encode word).length cursor)
  | none => .error (.rejected (.unknownLiteral cursor.position))

-----------------------------------------------------------------------------------------
-- Arrays and objects
-----------------------------------------------------------------------------------------

section

variable (item : ByteReader Value)

/-- Read the items of an array up to its closing bracket. -/
def items : Nat → ByteReader (List Value)
  | 0, _ => .error (.fault .endless)
  | fuel + 1, cursor => do
    let (value, behind) ← item cursor
    let next ← source.skipSpaces behind
    if source.peek next.position = some ',' then do
      let (values, last) ← items fuel (← source.advance 1 next)
      return (value :: values, last)
    else if source.peek next.position = some ']' then
      return ([value], ← source.advance 1 next)
    else
      .error (source.unexpected "',' or ']'" next)

/-- Read an array whose opening bracket comes next. -/
def array : ByteReader Value := fun cursor => do
  let first ← source.skipSpaces (← source.enter cursor)
  if source.peek first.position = some ']' then
    return (.array [], ← leave (← source.advance 1 first))
  else do
    let (values, last) ← source.items item source.fuel first
    return (.array values, ← leave last)

/-- Read a field: a string, a colon and a value. -/
def field : ByteReader (String × Value) := fun cursor => do
  let start ← source.skipSpaces cursor
  if source.peek start.position = some '"' then do
    let (name, behind) ← source.string start
    let next ← source.skipSpaces behind
    if source.peek next.position = some ':' then do
      let (value, last) ← item (← source.advance 1 next)
      return ((name, value), last)
    else
      .error (source.unexpected "':' after object key" next)
  else
    .error (source.unexpected "string key" start)

/-- Read the fields of an object up to its closing brace. -/
def fields : Nat → ByteReader (List (String × Value))
  | 0, _ => .error (.fault .endless)
  | fuel + 1, cursor => do
    let (named, behind) ← source.field item cursor
    let next ← source.skipSpaces behind
    if source.peek next.position = some ',' then do
      let (others, last) ← fields fuel (← source.advance 1 next)
      return (named :: others, last)
    else if source.peek next.position = some '\x7d' then
      return ([named], ← source.advance 1 next)
    else
      .error (source.unexpected "',' or '\x7d'" next)

/-- Read an object whose opening brace comes next. -/
def object : ByteReader Value := fun cursor => do
  let first ← source.skipSpaces (← source.enter cursor)
  if source.peek first.position = some '\x7d' then
    return (.object [], ← leave (← source.advance 1 first))
  else do
    let (named, last) ← source.fields item source.fuel first
    return (.ofFields named, ← leave last)

/-- Read the value that the next byte announces. -/
def announced : ByteReader Value := fun cursor =>
  match source.peek cursor.position with
  | none => .error (.rejected (.unexpectedEnd cursor.position))
  | some first =>
    if first = '\x7b' then source.object item cursor
    else if first = '[' then source.array item cursor
    else if first = '"' then
      (source.string cursor).map fun read => (.text read.1, read.2)
    else if first = '-' ∨ Decimal.isDigit first then source.number cursor
    else source.literal cursor

/-- Read a value after any white space. It is left by as many containers as it has entered. -/
def valueWith : ByteReader Value := fun cursor => do
  let (value, behind) ← source.announced item (← source.skipSpaces cursor)
  if behind.depth = cursor.depth then
    return (value, behind)
  else
    .error (.fault (.depth behind.depth))

end

/-- Read a value, with so many levels of values inside one another. -/
def value : Nat → ByteReader Value
  | 0 => fun _ => .error (.fault .endless)
  | levels + 1 => source.valueWith (value levels)

end Source

namespace Value

/-- Read the value that follows a byte of a text, and give the byte behind it. -/
def readBytesFrom (text : String) (start : Nat) : Except Failure (Value × Nat) :=
  let source : Source := { chars := text.toList, start }
  if source.size < start then
    .error (.rejected (.unexpectedEnd source.size))
  else
    (source.value (nestingLimit + 1) { position := start, depth := 0 }).map fun read =>
      (read.1, read.2.position)

/-- Read a text that is one value between white space. -/
def readWholeBytes (text : String) : Except Failure Value := do
  let source : Source := { chars := text.toList, start := 0 }
  let (value, next) ← readBytesFrom text 0
  let rest ← source.bytesFrom next
  let spaces := rest.takeWhile fun byte => isSpace (charOfByte byte)
  if next + spaces.length < source.size then
    .error (.rejected (.trailingCharacters (next + spaces.length)))
  else
    return value

end Value

end LanguageClient.Json
