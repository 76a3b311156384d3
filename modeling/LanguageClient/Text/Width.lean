import LanguageClient.Screen
import LanguageClient.Text.CellWidth
import LanguageClient.Text.EmojiStyle

/-!
The width of a text in terminal cells. It is the sum of the widths of its characters except where
characters join, which is decided from the end of the text to its start: what follows a character
says whether the character joins it.
-/

namespace LanguageClient.Text

-----------------------------------------------------------------------------------------
-- What follows a character
-----------------------------------------------------------------------------------------

/-- How a variation selector asks for the character before it to be shown. -/
inductive Style where
  | emoji
  | plain
deriving DecidableEq, Repr

/-- What a character can join. -/
inductive Joint where
  | none
  | lineFeed
  | emoji
  | tone
  /-- One half of a flag. -/
  | flagHalf
  /-- Two halves of a flag, or more. -/
  | flagHalves
  /-- An emoji behind a joiner. -/
  | joinedEmoji
  /-- A key cap that is joined to an emoji. -/
  | joinedKeycap
  /-- An odd number of flag halves that are joined to an emoji. -/
  | joinedOddHalves
  /-- An even number of flag halves that are joined to an emoji. -/
  | joinedEvenHalves
  /-- The tags of a flag that is joined to an emoji. -/
  | joinedTags
  | arabicAlef
  | hebrewLamed
  | bugineseYa
  | bugineseYaWithSign
  | khmerLetter
  | lisuTone
  | turkicLetter
  | tifinaghLetter
  | tifinaghJoiner
deriving DecidableEq, Repr

/-- What follows a character in its text. -/
structure Following where
  joint : Joint := .none
  style : Option Style := none
  /-- A joiner stands before the joint. -/
  joiner : Bool := false
deriving DecidableEq, Repr

namespace Joint

/-- Whether the joint is a letter of a script whose letters join. -/
def isLetter : Joint → Bool
  | .hebrewLamed | .bugineseYa | .bugineseYaWithSign | .khmerLetter | .lisuTone
  | .turkicLetter | .tifinaghLetter | .tifinaghJoiner => true
  | _ => false

/-- Whether the joint is part of a sequence that a joiner makes one emoji. -/
def isJoined : Joint → Bool
  | .joinedEmoji | .joinedKeycap => true
  | _ => false

end Joint

-----------------------------------------------------------------------------------------
-- Joining
-----------------------------------------------------------------------------------------

def isArabicAlef (code : Nat) : Bool :=
  code == 0x622 || code == 0x623 || code == 0x625 || code == 0x627
    || (0x671 ≤ code && code ≤ 0x673) || code == 0x675
    || code == 0x773 || code == 0x774 || (0x870 ≤ code && code ≤ 0x882)

def isArabicLam (code : Nat) : Bool :=
  code == 0x644 || (0x6B5 ≤ code && code ≤ 0x6B8) || code == 0x76A || code == 0x8A6
    || code == 0x8C7

def isTifinaghLetter (code : Nat) : Bool :=
  (0x2D31 ≤ code && code ≤ 0x2D65) || code == 0x2D6F

def isKhmerLetter (code : Nat) : Bool :=
  (0x1780 ≤ code && code ≤ 0x1782) || (0x1784 ≤ code && code ≤ 0x1787)
    || (0x1789 ≤ code && code ≤ 0x178C) || (0x178E ≤ code && code ≤ 0x1793)
    || (0x1795 ≤ code && code ≤ 0x1798) || (0x179B ≤ code && code ≤ 0x179D)
    || code == 0x17A0 || code == 0x17A2 || code == 0x17A7 || code == 0x17AB || code == 0x17AC
    || code == 0x17AF

/-- Marks that may stand between letters that join. -/
def isTransparentMark (code : Nat) : Bool :=
  code == 0x34F || code == 0x17B4 || code == 0x17B5 || (0x180B ≤ code && code ≤ 0x180D)
    || code == 0x180F || (0xFE00 ≤ code && code ≤ 0xFE0F)
    || (0xE0100 ≤ code && code ≤ 0xE01EF)

def zeroWidthJoiner : Nat :=
  0x200D

/-- What a character on its own lets the one before it join. -/
def jointOf (char : Char) : Joint :=
  let code := char.toNat
  if isFlagHalf char then .flagHalf
  else if isTone char then .tone
  else if isEmoji char then .emoji
  else if isArabicAlef code then .arabicAlef
  else if code == 0x5DC then .hebrewLamed
  else if code == 0x1A10 then .bugineseYa
  else if isKhmerLetter code then .khmerLetter
  else if code == 0xA4FC || code == 0xA4FD then .lisuTone
  else if code == 0x10C03 then .turkicLetter
  else if isTifinaghLetter code then .tifinaghLetter
  else .none

/-- The width that a character adds before what follows it when the two join. -/
def joinedWidth? (char : Char) (following : Following) : Option (Int × Following) :=
  let code := char.toNat
  match following.joint, following.joiner with
  | .arabicAlef, _ =>
    if isArabicLam code then
      some (0, {})
    else if cellWidth char = 0 && code != 0x200C && code != zeroWidthJoiner then
      some (0, following)
    else
      none
  | .hebrewLamed, true => if code == 0x5D0 then some (0, {}) else none
  | .khmerLetter, _ => if code == 0x17D2 then some (-1, {}) else none
  | .bugineseYa, true =>
    if code == 0x1A17 then some (0, { joint := .bugineseYaWithSign }) else none
  | .bugineseYaWithSign, _ => if code == 0x1A15 then some (0, {}) else none
  | .tifinaghLetter, joiner =>
    if code == 0x2D7F then
      some (1, { joint := .tifinaghJoiner })
    else if joiner && isTifinaghLetter code then
      some (0, {})
    else
      none
  | .tifinaghJoiner, _ => if isTifinaghLetter code then some (-1, {}) else none
  | .lisuTone, _ => if 0xA4F8 ≤ code && code ≤ 0xA4FB then some (0, {}) else none
  | .turkicLetter, true => if code == 0x10C32 then some (0, {}) else none
  | .tone, _ =>
    if takesTone char then
      some (0, { joint := .emoji })
    else if code == zeroWidthJoiner then
      some (0, { joint := .joinedEmoji })
    else
      none
  | .flagHalf, _ => if isFlagHalf char then some (1, { joint := .flagHalves }) else none
  | .flagHalves, _ =>
    if isFlagHalf char then
      some (1, { joint := .flagHalves })
    else if code == zeroWidthJoiner then
      some (0, { joint := .joinedEmoji })
    else
      none
  | .emoji, _ => if code == zeroWidthJoiner then some (0, { joint := .joinedEmoji }) else none
  | .joinedEmoji, _ =>
    if code == 0x20E3 then
      some (0, { joint := .joinedKeycap })
    else if isFlagHalf char then
      some (1, { joint := .joinedOddHalves })
    else if isTone char then
      some (0, { joint := .tone })
    else if code == 0xE007F then
      some (0, { joint := .joinedTags })
    else if isEmoji char then
      some (0, { joint := .emoji })
    else
      none
  | .joinedOddHalves, _ =>
    if isFlagHalf char then
      some (-1, { joint := .joinedEvenHalves })
    else if code == zeroWidthJoiner then
      some (0, { joint := .joinedEmoji })
    else
      none
  | .joinedEvenHalves, _ =>
    if isFlagHalf char then
      some (3, { joint := .joinedOddHalves })
    else if code == zeroWidthJoiner then
      some (0, { joint := .joinedEmoji })
    else
      none
  | .joinedTags, _ =>
    if 0xE0020 ≤ code && code ≤ 0xE007E then
      some (0, following)
    else if code == 0x1F3F4 then
      some (0, { joint := .emoji })
    else
      none
  | _, _ => none

/-- What follows a variation selector, with the style that it asks for. -/
def styled (following : Following) (style : Style) : Following :=
  if following.joint.isLetter || following.joint.isJoined then
    { following with style := some style }
  else
    { style := some style }

/-- The width that a character adds before what follows it, and what the two are together. -/
def stepWidth (char : Char) (following : Following) : Int × Following :=
  let code := char.toNat
  let bare := { following with style := none }
  if following.style = some .emoji && startsEmoji char then
    (if following.joint.isJoined then 0 else 2, { joint := .emoji })
  else if code ≤ 0xA0 then
    if char = '\n' then
      (1, { joint := .lineFeed })
    else if char = '\r' && following.joint = .lineFeed then
      (0, {})
    else
      (1, {})
  else if code == 0xFE0F then
    (0, styled bare .emoji)
  else if code == 0xFE0E then
    (0, styled bare .plain)
  else if following.style = some .plain && startsPlain char then
    (1, {})
  else if bare.joint.isLetter && code == zeroWidthJoiner then
    (0, { bare with joiner := true })
  else if bare.joint.isLetter && isTransparentMark code then
    (0, bare)
  else
    (joinedWidth? char bare).getD (cellWidth char, { joint := jointOf char })

/-- The width of a text and what its start can join. -/
def measure : List Char → Int × Following
  | [] => (0, {})
  | char :: rest =>
    let (width, following) := measure rest
    let (added, whole) := stepWidth char following
    (width + added, whole)

/-- The width of a text. Control characters take a cell, and a line break takes one. -/
def width (text : String) : Nat :=
  (measure text.toList).1.toNat

end LanguageClient.Text

/-- The cells that a terminal gives to characters and texts. -/
def LanguageClient.CellWidths.terminal : CellWidths where
  ofChar := Text.charWidth
  ofText := Text.width
  blank := rfl
