import LanguageClient.Text.CodeRange

/-!
Characters that show nothing: control characters and those with the property White_Space. Texts
without white space at their ends.
-/

namespace LanguageClient.Text

/-- Whether a character is a control character. -/
def isControl (char : Char) : Bool :=
  char.toNat < 0x20 || (0x7F ≤ char.toNat && char.toNat < 0xA0)

/-- The code points with the property White_Space. -/
def blankRanges : List CodeRange :=
  [⟨0x9, 0xD⟩, ⟨0x20, 0x20⟩, ⟨0x85, 0x85⟩, ⟨0xA0, 0xA0⟩, ⟨0x1680, 0x1680⟩, ⟨0x2000, 0x200A⟩,
   ⟨0x2028, 0x2029⟩, ⟨0x202F, 0x202F⟩, ⟨0x205F, 0x205F⟩, ⟨0x3000, 0x3000⟩]

/-- Whether a character is white space in any script. -/
def isBlank (char : Char) : Bool :=
  inRanges blankRanges char

/-- The text without blanks at either end. -/
def trimBlanks (text : List Char) : List Char :=
  ((text.dropWhile isBlank).reverse.dropWhile isBlank).reverse

/-- The words between blanks. -/
def words (text : List Char) : List (List Char) :=
  (text.splitBy fun left right => isBlank left == isBlank right).filter
    fun run => !run.any isBlank

end LanguageClient.Text
