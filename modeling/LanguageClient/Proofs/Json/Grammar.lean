import LanguageClient.Json.Reader
import LanguageClient.Proofs.Keyed

/-! The grammar of documents and what its spellings mean. Every relation is between a text and
what follows a spelling at its start, because numbers and escapes are as long as the text
behind them allows.
-/

namespace LanguageClient.Json

/-- White space at the start of a text, up to what follows it. -/
inductive Blanks : List Char → List Char → Prop where
  | none (rest : List Char) : Blanks rest rest
  | cons {char : Char} {text rest : List Char} (blank : char ∈ [' ', '\t', '\n', '\r'])
      (more : Blanks text rest) : Blanks (char :: text) rest

/-- The decimal digits, each in the place of its value. -/
def decimalDigits : List Char :=
  ['0', '1', '2', '3', '4', '5', '6', '7', '8', '9']

-----------------------------------------------------------------------------------------
-- Strings
-----------------------------------------------------------------------------------------

/-- The value of a hexadecimal digit, in either case. -/
def HexDigit (char : Char) (value : Nat) : Prop :=
  (decimalDigits ++ ['a', 'b', 'c', 'd', 'e', 'f'])[value]? = some char
  ∨ (decimalDigits ++ ['A', 'B', 'C', 'D', 'E', 'F'])[value]? = some char

instance (char : Char) (value : Nat) : Decidable (HexDigit char value) :=
  inferInstanceAs (Decidable (_ ∨ _))

/-- A text that starts with the four hexadecimal digits of a code, up to what follows them. -/
inductive HexCode : List Char → Nat → List Char → Prop where
  | digits {first second third fourth : Char} {high upper lower low : Nat} (rest : List Char)
      (thousands : HexDigit first high) (hundreds : HexDigit second upper)
      (tens : HexDigit third lower) (ones : HexDigit fourth low)
      : HexCode (first :: second :: third :: fourth :: rest)
          (16 * (16 * (16 * high + upper) + lower) + low) rest

/-- What an escaped character means, other than the one that starts a code. -/
inductive Escape : Char → Char → Prop where
  | backspace : Escape 'b' '\x08'
  | formFeed : Escape 'f' '\x0c'
  | lineFeed : Escape 'n' '\n'
  | carriageReturn : Escape 'r' '\r'
  | tab : Escape 't' '\t'
  | itself {char : Char} (plain : char ∉ ['b', 'f', 'n', 'r', 't', 'u']) : Escape char char

/-- A text that starts with an escaped code from the second half of a surrogate pair. -/
def StartsLow (text : List Char) : Prop :=
  ∃ digits low rest,
    text = '\\' :: 'u' :: digits ∧ HexCode digits low rest ∧ 0xDC00 ≤ low ∧ low < 0xE000

/-- What follows an opening quote: the text that it stands for, and what follows the closing
quote.
-/
inductive Quoted : List Char → List Char → List Char → Prop where
  | close (rest : List Char) : Quoted ('"' :: rest) [] rest
  | raw {char : Char} {text chars rest : List Char} (unquoted : char ≠ '"') (plain : char ≠ '\\')
      (more : Quoted text chars rest) : Quoted (char :: text) (char :: chars) rest
  | escape {char meaning : Char} {text chars rest : List Char} (means : Escape char meaning)
      (more : Quoted text chars rest) : Quoted ('\\' :: char :: text) (meaning :: chars) rest
  /-- Without four digits behind it, the start of a code is a letter like others. -/
  | letter {text chars rest : List Char} (none : ∀ code behind, ¬ HexCode text code behind)
      (more : Quoted text chars rest) : Quoted ('\\' :: 'u' :: text) ('u' :: chars) rest
  | code {char : Char} {digits text chars rest : List Char}
      (given : HexCode digits char.toNat text) (more : Quoted text chars rest)
      : Quoted ('\\' :: 'u' :: digits) (char :: chars) rest
  | pair {char : Char} {high low : Nat} {digits second text chars rest : List Char}
      (first : HexCode digits high ('\\' :: 'u' :: second)) (isHigh : 0xD800 ≤ high ∧ high < 0xDC00)
      (next : HexCode second low text) (isLow : 0xDC00 ≤ low ∧ low < 0xE000)
      (joined : char.toNat = 0x10000 + (high - 0xD800) * 0x400 + (low - 0xDC00))
      (more : Quoted text chars rest)
      : Quoted ('\\' :: 'u' :: digits) (char :: chars) rest
  /-- Half of a pair stands for no character of its own. -/
  | lone {code : Nat} {digits text chars rest : List Char} (given : HexCode digits code text)
      (half : 0xD800 ≤ code ∧ code < 0xE000) (single : ¬ (code < 0xDC00 ∧ StartsLow text))
      (more : Quoted text chars rest)
      : Quoted ('\\' :: 'u' :: digits) ('\uFFFD' :: chars) rest

-----------------------------------------------------------------------------------------
-- Numbers
-----------------------------------------------------------------------------------------

/-- Decimal digits, one at least. -/
def Digits (chars : List Char) : Prop :=
  chars ≠ [] ∧ ∀ char ∈ chars, char ∈ decimalDigits

/-- Nothing, or a point and digits: `(.digits)?`. -/
def WrittenFraction (point fraction : List Char) : Prop :=
  point = [] ∧ fraction = [] ∨ point = ['.'] ∧ Digits fraction

/-- Nothing, or a mark, a sign if any and digits: `([eE][+-]?digits)?`. -/
def WrittenExponent (mark sign exponent : List Char) : Prop :=
  mark = [] ∧ sign = [] ∧ exponent = []
  ∨ (mark = ['e'] ∨ mark = ['E'])
    ∧ (sign = [] ∨ sign = ['+'] ∨ sign = ['-'])
    ∧ Digits exponent

/-- The parts of a number are as they are written: `-?digits(.digits)?([eE][+-]?digits)?`. -/
structure NumberToken.Written (token : NumberToken) : Prop where
  sign : token.sign = [] ∨ token.sign = ['-']
  whole : Digits token.whole
  fraction : WrittenFraction token.point token.fraction
  exponent : WrittenExponent token.exponentMark token.exponentSign token.exponent

/-- No number that is written at the start of a text is longer than this one. -/
def NumberToken.Longest (token : NumberToken) (text : List Char) : Prop :=
  ∀ other : NumberToken,
    other.Written → other.chars <+: text → other.chars.length ≤ token.chars.length

-----------------------------------------------------------------------------------------
-- Values
-----------------------------------------------------------------------------------------

/-- The fields of an object that is written with some fields: in the order of the names, the
last one of every name.
-/
def KeepsLast (written : List (String × Value)) (fields : Fields) : Prop :=
  fields.Sorted ∧ ∀ name, fields.get? name = Keyed.get? name written.reverse

mutual

/-- A text that starts with a value in which at most so many arrays and objects are inside one
another, and what follows the value.
-/
inductive Spells : Nat → List Char → Value → List Char → Prop where
  | null (levels : Nat) (rest : List Char)
      : Spells levels ('n' :: 'u' :: 'l' :: 'l' :: rest) .null rest
  | truth (levels : Nat) (rest : List Char)
      : Spells levels ('t' :: 'r' :: 'u' :: 'e' :: rest) (.boolean true) rest
  | falsity (levels : Nat) (rest : List Char)
      : Spells levels ('f' :: 'a' :: 'l' :: 's' :: 'e' :: rest) (.boolean false) rest
  | number (levels : Nat) {token : NumberToken} {rest : List Char} (written : token.Written)
      (longest : token.Longest (token.chars ++ rest))
      (finite : token.toDecimal.toNumber.isFinite)
      : Spells levels (token.chars ++ rest) (.number token.toDecimal.toNumber) rest
  | text (levels : Nat) {text chars rest : List Char} (quoted : Quoted text chars rest)
      : Spells levels ('"' :: text) (.text (String.ofList chars)) rest
  | emptyArray (levels : Nat) {text rest : List Char} (blanks : Blanks text (']' :: rest))
      : Spells (levels + 1) ('[' :: text) (.array []) rest
  | array {levels : Nat} {text : List Char} {items : List Value} {rest : List Char}
      (spelled : SpellsItems levels text items rest)
      : Spells (levels + 1) ('[' :: text) (.array items) rest
  | emptyObject (levels : Nat) {text rest : List Char} (blanks : Blanks text ('\x7d' :: rest))
      : Spells (levels + 1) ('\x7b' :: text) (.object []) rest
  | object {levels : Nat} {text : List Char} {written : List (String × Value)}
      {fields : Fields} {rest : List Char} (spelled : SpellsFields levels text written rest)
      (kept : KeepsLast written fields)
      : Spells (levels + 1) ('\x7b' :: text) (.object fields) rest

/-- Items with commas between them, up to what follows the closing bracket. -/
inductive SpellsItems : Nat → List Char → List Value → List Char → Prop where
  | last {levels : Nat} {text start behind rest : List Char} {item : Value}
      (before : Blanks text start) (spelled : Spells levels start item behind)
      (after : Blanks behind (']' :: rest)) : SpellsItems levels text [item] rest
  | more {levels : Nat} {text start behind next rest : List Char} {item : Value}
      {items : List Value} (before : Blanks text start) (spelled : Spells levels start item behind)
      (after : Blanks behind (',' :: next)) (others : SpellsItems levels next items rest)
      : SpellsItems levels text (item :: items) rest

/-- A field, which is a quoted name, a colon and a value. -/
inductive SpellsField : Nat → List Char → String × Value → List Char → Prop where
  | field {levels : Nat} {text name chars colon start value rest : List Char} {item : Value}
      (beforeName : Blanks text ('"' :: name)) (quoted : Quoted name chars colon)
      (beforeColon : Blanks colon (':' :: start)) (before : Blanks start value)
      (spelled : Spells levels value item rest)
      : SpellsField levels text (String.ofList chars, item) rest

/-- Fields with commas between them, up to what follows the closing brace. -/
inductive SpellsFields : Nat → List Char → List (String × Value) → List Char → Prop where
  | last {levels : Nat} {text behind rest : List Char} {field : String × Value}
      (spelled : SpellsField levels text field behind) (after : Blanks behind ('\x7d' :: rest))
      : SpellsFields levels text [field] rest
  | more {levels : Nat} {text behind next rest : List Char} {field : String × Value}
      {fields : List (String × Value)} (spelled : SpellsField levels text field behind)
      (after : Blanks behind (',' :: next)) (others : SpellsFields levels next fields rest)
      : SpellsFields levels text (field :: fields) rest

end

end LanguageClient.Json
