import LanguageClient.Text.Quoted

/-!
Why a text is not a document. Every cause names the byte of the text where reading stopped.
-/

namespace LanguageClient.Json

inductive SyntaxError where
  /-- The text ends where more was needed. -/
  | unexpectedEnd (position : Nat)
  /-- The text ends inside quotes; the position is that of the opening quote. -/
  | unterminatedString (position : Nat)
  /-- Another character stands where the expected one was needed. -/
  | unexpectedChar (expected : String) (found : Char) (position : Nat)
  /-- A number without digits, or one too large to be finite. -/
  | invalidNumber (text : String) (position : Nat)
  /-- No value starts with this character. -/
  | unknownLiteral (position : Nat)
  /-- More than blanks follows the value. -/
  | trailingCharacters (position : Nat)
  /-- The bytes are no text from this position on. -/
  | invalidUtf8 (position : Nat)
  /-- An array or object is inside too many others. -/
  | tooDeep (limit : Nat) (position : Nat)
deriving DecidableEq, Repr

namespace SyntaxError

/-- The byte at which reading stopped. -/
def position : SyntaxError → Nat
  | .unexpectedEnd position
  | .unterminatedString position
  | .unexpectedChar _ _ position
  | .invalidNumber _ position
  | .unknownLiteral position
  | .trailingCharacters position
  | .invalidUtf8 position
  | .tooDeep _ position => position

def message : SyntaxError → String
  | .unexpectedEnd position => "unexpected end of input at byte " ++ toString position
  | .unterminatedString position =>
    "unterminated string starting at byte " ++ toString position
  | .unexpectedChar expected found position =>
    "expected " ++ expected ++ " at byte " ++ toString position
      ++ ", found " ++ Text.quotedChar found
  | .invalidNumber text position =>
    "malformed number " ++ Text.quoted text ++ " at byte " ++ toString position
  | .unknownLiteral position => "unrecognized token at byte " ++ toString position
  | .trailingCharacters position =>
    "trailing characters after JSON value at byte " ++ toString position
  | .invalidUtf8 position => "invalid UTF-8 at byte " ++ toString position
  | .tooDeep limit position =>
    "nesting deeper than " ++ toString limit ++ " levels at byte " ++ toString position

end SyntaxError

end LanguageClient.Json
