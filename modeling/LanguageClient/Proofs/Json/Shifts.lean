import LanguageClient.Proofs.Json.Input

/-! A value is read alike wherever it stands. With more text in front of it the same is read, or
reading stops for the same reason, and only the positions are as many bytes further on.
-/

namespace LanguageClient.Json

open Text (Utf8.size)

-----------------------------------------------------------------------------------------
-- Inputs, errors and outcomes further on
-----------------------------------------------------------------------------------------

/-- The error of a text that starts so many bytes further on. -/
def SyntaxError.shift (bytes : Nat) : SyntaxError → SyntaxError
  | .unexpectedEnd position => .unexpectedEnd (bytes + position)
  | .unterminatedString position => .unterminatedString (bytes + position)
  | .unexpectedChar expected found position => .unexpectedChar expected found (bytes + position)
  | .invalidNumber text position => .invalidNumber text (bytes + position)
  | .unknownLiteral position => .unknownLiteral (bytes + position)
  | .trailingCharacters position => .trailingCharacters (bytes + position)
  | .invalidUtf8 position => .invalidUtf8 (bytes + position)
  | .tooDeep limit position => .tooDeep limit (bytes + position)

theorem SyntaxError.position_shift (bytes : Nat) (error : SyntaxError)
    : (error.shift bytes).position = bytes + error.position := by
  cases error <;> rfl

namespace Input

/-- The input of a text that starts so many bytes further on. -/
def shift (bytes : Nat) (input : Input) : Input where
  chars := input.chars
  position := bytes + input.position

variable (bytes : Nat) (input : Input)

@[simp]
theorem chars_shift : (input.shift bytes).chars = input.chars :=
  rfl

@[simp]
theorem position_shift : (input.shift bytes).position = bytes + input.position :=
  rfl

@[simp]
theorem after_shift (taken rest : List Char)
    : (input.shift bytes).after taken rest = (input.after taken rest).shift bytes := by
  simp only [after, shift, Nat.add_assoc]

@[simp]
theorem advance_shift : (input.shift bytes).advance = input.advance.shift bytes :=
  after_shift bytes input _ _

@[simp]
theorem skipSpaces_shift : (input.shift bytes).skipSpaces = input.skipSpaces.shift bytes :=
  after_shift bytes input _ _

@[simp]
theorem unexpected_shift (expected : String)
    : (input.shift bytes).unexpected expected = (input.unexpected expected).shift bytes := by
  unfold unexpected
  rw [chars_shift]
  split <;> rfl

end Input

/-- What reading gives in a text that starts so many bytes further on. -/
def shiftOutcome {α : Type} (bytes : Nat)
    : Except SyntaxError (α × Input) → Except SyntaxError (α × Input)
  | .error error => .error (error.shift bytes)
  | .ok (value, last) => .ok (value, last.shift bytes)

/-- What reads by the characters alone: further on it reads the same. -/
def ReadsByChars {α : Type} (read : Input → Except SyntaxError (α × Input)) : Prop :=
  ∀ bytes input, read (input.shift bytes) = shiftOutcome bytes (read input)

/-- A second step that reads the same further on does so behind the first one. -/
theorem bind_shiftOutcome {α β : Type} {bytes : Nat} (first : Except SyntaxError (α × Input))
    {next : α × Input → Except SyntaxError (β × Input)}
    (alike
      : ∀ value last, next (value, last.shift bytes) = shiftOutcome bytes (next (value, last)))
    : (shiftOutcome bytes first >>= next) = shiftOutcome bytes (first >>= next) := by
  cases first with
  | error error => rfl
  | ok read => exact alike read.1 read.2

-----------------------------------------------------------------------------------------
-- Strings, numbers and literals
-----------------------------------------------------------------------------------------

theorem readString_shift : ReadsByChars readString := by
  intro bytes input
  unfold readString
  rw [Input.chars_shift]
  split
  · rfl
  · rw [Input.after_shift]
    rfl

theorem readNumber_shift : ReadsByChars readNumber := by
  intro bytes input
  unfold readNumber
  rw [Input.chars_shift]
  dsimp only
  split
  · rfl
  · rw [Input.after_shift]
    rfl

theorem readLiteral_shift : ReadsByChars readLiteral := by
  intro bytes input
  unfold readLiteral
  rw [Input.chars_shift]
  split
  · rw [Input.after_shift]
    rfl
  · rw [Input.after_shift]
    rfl
  · rw [Input.after_shift]
    rfl
  · rfl

-----------------------------------------------------------------------------------------
-- Arrays and objects
-----------------------------------------------------------------------------------------

section

variable {readItem : ValueReader}

/-- Items are read the same further on, by induction on the bound of their number. -/
theorem readItems_shift (inside : ReadsByChars readItem) (bound : Nat)
    : ReadsByChars (readItems readItem bound) := by
  induction bound with
  | zero => exact fun bytes input => rfl
  | succ bound ih =>
      intro bytes input
      rw [readItems, readItems, inside]
      refine bind_shiftOutcome _ fun item last => ?_
      dsimp only
      rw [Input.skipSpaces_shift, Input.chars_shift]
      split
      · rw [Input.advance_shift, ih]
        exact bind_shiftOutcome _ fun items last => rfl
      · rw [Input.advance_shift]
        rfl
      · rw [Input.unexpected_shift]
        rfl

theorem readArray_shift (inside : ReadsByChars readItem) : ReadsByChars (readArray readItem) := by
  intro bytes input
  unfold readArray
  rw [Input.skipSpaces_shift]
  dsimp only
  rw [Input.chars_shift]
  split
  · rw [Input.advance_shift]
    rfl
  · rw [readItems_shift inside]
    exact bind_shiftOutcome _ fun items last => rfl

theorem readField_shift (inside : ReadsByChars readItem) : ReadsByChars (readField readItem) := by
  intro bytes input
  unfold readField
  rw [Input.skipSpaces_shift]
  dsimp only
  rw [Input.chars_shift]
  split
  · rw [readString_shift]
    refine bind_shiftOutcome _ fun name last => ?_
    dsimp only
    rw [Input.skipSpaces_shift, Input.chars_shift]
    split
    · rw [Input.advance_shift, inside]
      exact bind_shiftOutcome _ fun value last => rfl
    · rw [Input.unexpected_shift]
      rfl
  · rw [Input.unexpected_shift]
    rfl

/-- Fields are read the same further on, by induction on the bound of their number. -/
theorem readFields_shift (inside : ReadsByChars readItem) (bound : Nat)
    : ReadsByChars (readFields readItem bound) := by
  induction bound with
  | zero => exact fun bytes input => rfl
  | succ bound ih =>
      intro bytes input
      rw [readFields, readFields, readField_shift inside]
      refine bind_shiftOutcome _ fun field last => ?_
      dsimp only
      rw [Input.skipSpaces_shift, Input.chars_shift]
      split
      · rw [Input.advance_shift, ih]
        exact bind_shiftOutcome _ fun fields last => rfl
      · rw [Input.advance_shift]
        rfl
      · rw [Input.unexpected_shift]
        rfl

theorem readObject_shift (inside : ReadsByChars readItem)
    : ReadsByChars (readObject readItem) := by
  intro bytes input
  unfold readObject
  rw [Input.skipSpaces_shift]
  dsimp only
  rw [Input.chars_shift]
  split
  · rw [Input.advance_shift]
    rfl
  · rw [readFields_shift inside]
    exact bind_shiftOutcome _ fun fields last => rfl

end

-----------------------------------------------------------------------------------------
-- Values
-----------------------------------------------------------------------------------------

/-- A value is read the same further on, given that for the values inside it. -/
theorem readValueWith_shift {readItem : Option ValueReader}
    (inside : ∀ reader, readItem = some reader → ReadsByChars reader)
    : ReadsByChars (readValueWith readItem) := by
  intro bytes input
  unfold readValueWith
  rw [Input.skipSpaces_shift]
  dsimp only
  rw [Input.chars_shift]
  split
  · rfl
  · split
    · split
      · rfl
      · rename_i reader
        rw [Input.advance_shift]
        split
        · exact readArray_shift (inside reader rfl) bytes _
        · exact readObject_shift (inside reader rfl) bytes _
    · split
      · rw [readString_shift]
        cases readString input.skipSpaces <;> rfl
      · split
        · exact readNumber_shift bytes _
        · exact readLiteral_shift bytes _

/-- A value is read the same further on, by induction on the levels of nesting. -/
theorem readNested_shift (levels : Nat) : ReadsByChars (readNested levels) := by
  induction levels with
  | zero => exact readValueWith_shift fun reader none => nomatch none
  | succ levels ih =>
      refine readValueWith_shift fun reader same => ?_
      rw [← Option.some.inj same]
      exact ih

-----------------------------------------------------------------------------------------
-- Texts
-----------------------------------------------------------------------------------------

/-- Behind the bytes of some characters is what follows them, by induction on them. -/
theorem charsFromByte?_append (front back : List Char)
    : charsFromByte? (front ++ back) (Utf8.size front) = some back := by
  induction front with
  | nil =>
      rw [List.nil_append, Utf8.size]
      cases back <;> rfl
  | cons char rest ih =>
      have positive := char.utf8Size_pos
      obtain ⟨byte, size⟩ : ∃ byte, Utf8.size (char :: rest) = byte + 1 :=
        ⟨char.utf8Size - 1 + Utf8.size rest, by rw [Utf8.size]; omega⟩
      have left : byte + 1 - char.utf8Size = Utf8.size rest := by
        rw [← size, Utf8.size]
        omega
      rw [size, List.cons_append, charsFromByte?, left, ih, if_pos]
      rw [← size, Utf8.size]
      omega

end LanguageClient.Json
