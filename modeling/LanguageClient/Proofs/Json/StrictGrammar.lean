import LanguageClient.Proofs.Json.Grammar

/-! The strict grammar of documents. Strings hold no control characters and only the escapes that
have a meaning, and no zeros stand in front of the other digits of a number. Every rule is between
a whole text and what it stands for, with the fields of an object as they are in the text.
-/

namespace LanguageClient.Json

-----------------------------------------------------------------------------------------
-- Strings and numbers
-----------------------------------------------------------------------------------------

/-- The characters that may be escaped, other than the one that starts a code, and what they mean.
-/
def strictEscapes : List (Char × Char) :=
  [('"', '"'), ('\\', '\\'), ('/', '/'), ('b', '\x08'), ('f', '\x0c'), ('n', '\n'), ('r', '\r'),
    ('t', '\t')]

/-- A text between quotes, and its units. -/
inductive StrictUnits : List Char → List StringUnit → Prop where
  | nothing : StrictUnits [] []
  | unescaped {char : Char} {text : List Char} {units : List StringUnit}
      (printable : 0x20 ≤ char.toNat) (unquoted : char ≠ '"') (plain : char ≠ '\\')
      (more : StrictUnits text units) : StrictUnits (char :: text) (.char char :: units)
  | escape {char meaning : Char} {text : List Char} {units : List StringUnit}
      (means : (char, meaning) ∈ strictEscapes) (more : StrictUnits text units)
      : StrictUnits ('\\' :: char :: text) (.char meaning :: units)
  | code {code : Nat} {digits text : List Char} {units : List StringUnit}
      (given : HexCode digits code text) (more : StrictUnits text units)
      : StrictUnits ('\\' :: 'u' :: digits) (.code code :: units)

/-- A number of which only a single digit before the point may start with zero. -/
structure NumberToken.Strict (token : NumberToken) : Prop where
  written : token.Written
  leading : token.whole.head? = some '0' → token.whole = ['0']

-----------------------------------------------------------------------------------------
-- Values
-----------------------------------------------------------------------------------------

mutual

/-- A value without white space around it. -/
inductive StrictValue : List Char → Value → Prop where
  | null : StrictValue ['n', 'u', 'l', 'l'] .null
  | truth : StrictValue ['t', 'r', 'u', 'e'] (.boolean true)
  | falsity : StrictValue ['f', 'a', 'l', 's', 'e'] (.boolean false)
  | number {token : NumberToken} (strict : token.Strict)
      : StrictValue token.chars (.number token.toDecimal.toNumber)
  | text {body : List Char} {units : List StringUnit} (strict : StrictUnits body units)
      : StrictValue ('"' :: (body ++ ['"'])) (.text (String.ofList (joinUnits units)))
  | emptyArray {blanks : List Char} (blank : ∀ char ∈ blanks, isSpace char = true)
      : StrictValue ('[' :: (blanks ++ [']'])) (.array [])
  | array {body : List Char} {items : List Value} (inside : StrictItems body items)
      : StrictValue ('[' :: (body ++ [']'])) (.array items)
  | emptyObject {blanks : List Char} (blank : ∀ char ∈ blanks, isSpace char = true)
      : StrictValue ('\x7b' :: (blanks ++ ['\x7d'])) (.object [])
  | object {body : List Char} {fields : List (String × Value)} (inside : StrictFields body fields)
      : StrictValue ('\x7b' :: (body ++ ['\x7d'])) (.object fields)

/-- A value with white space around it, which is also what a document is. -/
inductive StrictSpaced : List Char → Value → Prop where
  | spaced {before body after : List Char} {value : Value}
      (front : ∀ char ∈ before, isSpace char = true) (strict : StrictValue body value)
      (back : ∀ char ∈ after, isSpace char = true) : StrictSpaced (before ++ (body ++ after)) value

/-- Items with commas between them. -/
inductive StrictItems : List Char → List Value → Prop where
  | last {text : List Char} {item : Value} (spaced : StrictSpaced text item)
      : StrictItems text [item]
  | more {text others : List Char} {item : Value} {items : List Value}
      (spaced : StrictSpaced text item) (later : StrictItems others items)
      : StrictItems (text ++ ',' :: others) (item :: items)

/-- A name in quotes with white space around it, a colon and a value. -/
inductive StrictField : List Char → String × Value → Prop where
  | field {before body after text : List Char} {units : List StringUnit} {value : Value}
      (front : ∀ char ∈ before, isSpace char = true) (strict : StrictUnits body units)
      (back : ∀ char ∈ after, isSpace char = true) (spaced : StrictSpaced text value)
      : StrictField (before ++ '"' :: (body ++ '"' :: (after ++ ':' :: text)))
          (String.ofList (joinUnits units), value)

/-- Fields with commas between them. -/
inductive StrictFields : List Char → List (String × Value) → Prop where
  | last {text : List Char} {field : String × Value} (strict : StrictField text field)
      : StrictFields text [field]
  | more {text others : List Char} {field : String × Value} {fields : List (String × Value)}
      (strict : StrictField text field) (later : StrictFields others fields)
      : StrictFields (text ++ ',' :: others) (field :: fields)

end

-----------------------------------------------------------------------------------------
-- What stands outside strings
-----------------------------------------------------------------------------------------

/-- The characters of a text that are not between quotes, for a text that starts there or not. A
character behind a backslash closes no quotes.
-/
def outsideStrings : Bool → List Char → List Char
  | _, [] => []
  | false, '"' :: rest => outsideStrings true rest
  | false, char :: rest => char :: outsideStrings false rest
  | true, '"' :: rest => outsideStrings false rest
  | true, '\\' :: _ :: rest => outsideStrings true rest
  | true, _ :: rest => outsideStrings true rest

end LanguageClient.Json
