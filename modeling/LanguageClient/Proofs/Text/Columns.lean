import Mathlib.Order.Monotone.Basic
import LanguageClient.Proofs.Text.Boundaries

/-! The two ways to count the columns of a line. A UTF-16 column is at or before a character
exactly if it is at most that character's own UTF-16 column, and what else the two maps between
the columns do follows from that: they keep the order, lose no character column, and take the
middle of a surrogate pair to the character behind it.
-/

namespace LanguageClient.Column

-----------------------------------------------------------------------------------------
-- Units of the start of a line
-----------------------------------------------------------------------------------------

@[simp]
theorem units_append (front back : List Char)
    : units (front ++ back) = units front + units back := by
  induction front with
  | nil => simp [units]
  | cons char rest ih => simp [units, ih, Nat.add_assoc]

/-- The next column is behind the units of the character between the two. -/
theorem toUnits_succ {chars : List Char} {column : Nat} {char : Char}
    (found : chars[column]? = some char)
    : toUnits chars (column + 1) = toUnits chars column + unitsOf char := by
  simp [toUnits, List.take_add_one, found, units]

/-- Past the end of a line all columns are at its end. -/
theorem toUnits_of_past {line : List Char} {column : Nat} (past : line.length ≤ column)
    : toUnits line column = units line := by
  rw [toUnits, List.take_of_length_le past]

theorem toUnits_mono (line : List Char) : Monotone (toUnits line) := by
  apply monotone_nat_of_le_succ
  intro column
  rcases Nat.lt_or_ge column line.length with within | past
  · rw [toUnits_succ (List.getElem?_eq_getElem within)]
    exact Nat.le_add_right _ _
  · rw [toUnits_of_past past, toUnits_of_past (Nat.le_succ_of_le past)]

theorem toUnits_le_units (line : List Char) (column : Nat)
    : toUnits line column ≤ units line := by
  rcases Nat.le_total column line.length with within | past
  · exact (toUnits_mono line within).trans_eq (toUnits_of_past (Nat.le_refl _))
  · exact (toUnits_of_past past).le

-----------------------------------------------------------------------------------------
-- The adjoint pair
-----------------------------------------------------------------------------------------

/-- A UTF-16 column is at or before a character if it is at most that character's UTF-16 column,
by induction on the line with both columns generalized.
-/
theorem ofUnits_le_iff {line : List Char} {column count : Nat} (within : count < line.length)
    : ofUnits line column ≤ count ↔ column ≤ toUnits line count := by
  induction line generalizing column count with
  | nil => exact absurd within (Nat.not_lt_zero count)
  | cons char rest ih =>
      by_cases zero : column = 0
      · simp [ofUnits, zero]
      · cases count with
        | zero => simp [ofUnits, toUnits, units, zero]
        | succ count =>
            have later
                : ofUnits rest (column - unitsOf char) ≤ count
                  ↔ column - unitsOf char ≤ toUnits rest count :=
              ih (Nat.lt_of_succ_lt_succ within)
            have first
                : toUnits (char :: rest) (count + 1) = unitsOf char + toUnits rest count := by
              simp [toUnits, units]
            rw [ofUnits, if_neg zero, first]
            omega

/-- Every UTF-16 column behind a character, up to the end of that character, is taken to the
next one.
-/
theorem ofUnits_of_inside {line : List Char} {column count : Nat}
    (behind : toUnits line count < column) (upTo : column ≤ toUnits line (count + 1))
    : ofUnits line column = count + 1 := by
  have within : count < line.length := by
    by_contra past
    have same := toUnits_of_past (Nat.not_lt.mp past)
    have bounded := toUnits_le_units line (count + 1)
    omega
  apply Nat.le_antisymm
  · rcases Nat.lt_or_ge (count + 1) line.length with next | last
    · exact (ofUnits_le_iff next).mpr upTo
    · exact (Text.ofUnits_le_length line column).trans last
  · by_contra early
    have reached := (ofUnits_le_iff within).mp (Nat.le_of_lt_succ (Nat.not_le.mp early))
    omega

theorem unitsOf_le_two (char : Char) : unitsOf char ≤ 2 := by
  unfold unitsOf
  split <;> omega

/-- A UTF-16 column two units before that of a character column is taken to an earlier one. -/
theorem ofUnits_lt {chars : List Char} {column count : Nat} (within : count ≤ chars.length)
    (before : column + 2 ≤ toUnits chars count)
    : ofUnits chars column < count := by
  cases count with
  | zero => simp [toUnits, units] at before
  | succ count =>
      have next := toUnits_succ (List.getElem?_eq_getElem within)
      have short := unitsOf_le_two chars[count]
      exact Nat.lt_succ_of_le ((ofUnits_le_iff within).mpr (by omega))

/-- A character outside the first 2^16 code points takes two units, a surrogate pair. -/
theorem unitsOf_of_pair {char : Char} (pair : 0x10000 ≤ char.toNat) : unitsOf char = 2 :=
  if_neg (Nat.not_lt.mpr pair)

/-- The UTF-16 columns and the character columns of a line: a UTF-16 column is at or before a
character exactly if it is at most the character's UTF-16 column, and neither map leaves the line.
So both keep the order, a character column comes back from its UTF-16 column, and the column
between the two surrogates of a character is taken to the next character.
-/
theorem columns_adjoint (chars : List Char)
    : (∀ column count,
        count < chars.length → (ofUnits chars column ≤ count ↔ column ≤ toUnits chars count))
      ∧ (∀ column, ofUnits chars column ≤ chars.length)
      ∧ (∀ count, toUnits chars count ≤ units chars)
      ∧ Monotone (ofUnits chars)
      ∧ Monotone (toUnits chars)
      ∧ (∀ count, count ≤ chars.length → ofUnits chars (toUnits chars count) = count)
      ∧ (∀ count char,
        chars[count]? = some char
        → 0x10000 ≤ char.toNat
        → toUnits chars (count + 1) = toUnits chars count + 2
          ∧ ofUnits chars (toUnits chars count + 1) = count + 1) := by
  refine ⟨
    fun column count within => ofUnits_le_iff within,
    Text.ofUnits_le_length chars,
    toUnits_le_units chars,
    fun column column' ordered => Text.ofUnits_mono chars ordered,
    toUnits_mono chars,
    fun count within => Text.ofUnits_toUnits within,
    ?_
  ⟩
  intro count char found pair
  have next := toUnits_succ found
  rw [unitsOf_of_pair pair] at next
  refine ⟨next, ofUnits_of_inside ?_ ?_⟩ <;> omega

/-- A line of one letter and one character outside the first 2^16 code points. -/
theorem columns_adjoint_of_pair
    : (0 < ['a', '😀'].length ∧ (ofUnits ['a', '😀'] 1 ≤ 0 ↔ 1 ≤ toUnits ['a', '😀'] 0))
      ∧ (2 ≤ ['a', '😀'].length ∧ ofUnits ['a', '😀'] (toUnits ['a', '😀'] 2) = 2)
      ∧ (['a', '😀'][1]? = some '😀'
        ∧ 0x10000 ≤ '😀'.toNat
        ∧ ofUnits ['a', '😀'] (toUnits ['a', '😀'] 1 + 1) = 2) := by
  obtain ⟨adjoint, -, -, -, -, back, inside⟩ := columns_adjoint ['a', '😀']
  exact ⟨
    ⟨by decide, adjoint 1 0 (by decide)⟩,
    ⟨by decide, back 2 (by decide)⟩,
    ⟨rfl, by decide, (inside 1 '😀' rfl (by decide)).2⟩
  ⟩

end LanguageClient.Column
