/-!
Hexadecimal digits of either case and the numbers that they spell.
-/

namespace LanguageClient.Text

def hexDigit? (char : Char) : Option Nat :=
  if '0' ≤ char && char ≤ '9' then
    some (char.toNat - '0'.toNat)
  else if 'a' ≤ char && char ≤ 'f' then
    some (char.toNat - 'a'.toNat + 10)
  else if 'A' ≤ char && char ≤ 'F' then
    some (char.toNat - 'A'.toNat + 10)
  else
    none

/-- The value of hexadecimal digits. -/
def hexValue? (digits : List Char) : Option Nat :=
  digits.foldlM (fun value char => (hexDigit? char).map (16 * value + ·)) 0

end LanguageClient.Text
