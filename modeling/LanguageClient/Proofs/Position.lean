import LanguageClient.Position
import LanguageClient.Proofs.Json.Fields
import LanguageClient.Proofs.Json.Reading
import LanguageClient.Proofs.Json.WholeNumbers

/-! Positions and ranges in messages. A message gives numbers of any size and a position keeps them
modulo 2^32, so positions come back from what is written of them, and the numbers of a message are
kept exactly if they are below 2^32.
-/

namespace LanguageClient

open Json (Value)

-----------------------------------------------------------------------------------------
-- Coordinates
-----------------------------------------------------------------------------------------

/-- A line and a column as numbers of a message, which may be of any size. -/
structure Coordinates where
  line : Nat
  character : Nat

/-- The numbers of a position. -/
def Position.coordinates (position : Position) : Coordinates where
  line := position.line.toNat
  character := position.character.toNat

namespace Coordinates

/-- What is left of the numbers in a position. -/
def position (coordinates : Coordinates) : Position where
  line := .ofNat coordinates.line
  character := .ofNat coordinates.character

/-- Both numbers are below a bound. -/
structure Below (coordinates : Coordinates) (bound : Nat) : Prop where
  line : coordinates.line < bound
  character : coordinates.character < bound

theorem below_iff {coordinates : Coordinates} {bound : Nat}
    : coordinates.Below bound
      ↔ coordinates.line < bound ∧ coordinates.character < bound :=
  ⟨fun below => ⟨below.line, below.character⟩, fun ⟨line, character⟩ => ⟨line, character⟩⟩

/-- A value has the numbers in its fields. -/
structure GivenBy (coordinates : Coordinates) (value : Value) : Prop where
  line : value.Holds "line" (·.StandsFor coordinates.line)
  character : value.Holds "character" (·.StandsFor coordinates.character)

/-- The value that the numbers are written as. -/
def value (coordinates : Coordinates) : Value :=
  .ofFields
    [("line", .ofNat coordinates.line), ("character", .ofNat coordinates.character)]

theorem givenBy_value {coordinates : Coordinates} (small : coordinates.Below (2 ^ 53 + 1))
    : coordinates.GivenBy coordinates.value where
  line := Value.holds_ofFields rfl (Value.standsFor_ofNat (Nat.le_of_lt_succ small.line))
  character :=
    Value.holds_ofFields rfl (Value.standsFor_ofNat (Nat.le_of_lt_succ small.character))

/-- A value has one pair of coordinates at most. -/
theorem GivenBy.unique {left right : Coordinates} {value : Value} (hl : left.GivenBy value)
    (hr : right.GivenBy value)
    : left = right := by
  obtain ⟨_, _, lineLeft, lineRight⟩ := hl.line.both hr.line
  obtain ⟨_, _, characterLeft, characterRight⟩ := hl.character.both hr.character
  cases left
  cases right
  obtain rfl := lineLeft.unique lineRight
  obtain rfl := characterLeft.unique characterRight
  rfl

/-- A position keeps the numbers that are below 2^32, and no others. -/
theorem position_coordinates_iff (coordinates : Coordinates)
    : coordinates.position.coordinates = coordinates ↔ coordinates.Below (2 ^ 32) := by
  have reduced (number : Nat) : (UInt32.ofNat number).toNat = number ↔ number < 2 ^ 32 := by
    rw [UInt32.toNat_ofNat']
    exact Nat.mod_eq_iff_lt (by decide)
  rw [below_iff, ← reduced, ← reduced]
  cases coordinates
  simp only [position, Position.coordinates, Coordinates.mk.injEq]

end Coordinates

-----------------------------------------------------------------------------------------
-- Positions
-----------------------------------------------------------------------------------------

namespace Position

@[simp]
theorem coordinates_position (position : Position)
    : position.coordinates.position = position := by
  simp [coordinates, Coordinates.position]

theorem coordinates_below (position : Position) : position.coordinates.Below (2 ^ 32) :=
  ⟨UInt32.toNat_lt _, UInt32.toNat_lt _⟩

/-- The numbers of a position are small enough to be read back. -/
theorem coordinates_readable (position : Position)
    : position.coordinates.Below (2 ^ 53 + 1) :=
  ⟨Nat.lt_trans position.coordinates_below.line (by decide),
    Nat.lt_trans position.coordinates_below.character (by decide)⟩

/-- A value is read as a position if it has two numbers up to 2^53, and then as these numbers
modulo 2^32.
-/
theorem ofValue_eq_ok_iff {value : Value} {position : Position}
    : ofValue value = .ok position
      ↔ ∃ given : Coordinates,
          given.GivenBy value ∧ given.Below (2 ^ 53 + 1) ∧ given.position = position := by
  have fieldIff {name : String} {count : Nat}
      : (∃ field, value.field name = .ok field ∧ field.expectNat = .ok count)
        ↔ value.Holds name (·.StandsFor count) ∧ count < 2 ^ 53 + 1 := by
    simp only [Value.Holds, Value.field_eq_ok_iff, Value.expectNat_eq_ok_iff, ← and_assoc,
      exists_and_right, Nat.lt_succ_iff]
    rfl
  constructor
  · intro read
    obtain ⟨lineField, lineFound, read⟩ := Json.exists_of_bind_ok read
    obtain ⟨line, lineRead, read⟩ := Json.exists_of_bind_ok read
    obtain ⟨characterField, characterFound, read⟩ := Json.exists_of_bind_ok read
    obtain ⟨character, characterRead, read⟩ := Json.exists_of_bind_ok read
    obtain ⟨lineGiven, lineSmall⟩ := fieldIff.mp ⟨lineField, lineFound, lineRead⟩
    obtain ⟨characterGiven, characterSmall⟩ :=
      fieldIff.mp ⟨characterField, characterFound, characterRead⟩
    exact ⟨⟨line, character⟩, ⟨lineGiven, characterGiven⟩, ⟨lineSmall, characterSmall⟩,
      Except.ok.inj read⟩
  · rintro ⟨given, ⟨lineGiven, characterGiven⟩, ⟨lineSmall, characterSmall⟩, rfl⟩
    obtain ⟨lineField, lineFound, lineRead⟩ := fieldIff.mpr ⟨lineGiven, lineSmall⟩
    obtain ⟨characterField, characterFound, characterRead⟩ :=
      fieldIff.mpr ⟨characterGiven, characterSmall⟩
    simp only [ofValue, bind, Except.bind, lineFound, lineRead, characterFound, characterRead]
    rfl

end Position

-----------------------------------------------------------------------------------------
-- Ranges
-----------------------------------------------------------------------------------------

namespace Range

/-- A value has the numbers of both ends of a range. -/
structure Given (value : Value) (start stop : Coordinates) : Prop where
  start : value.Holds "start" start.GivenBy
  stop : value.Holds "end" stop.GivenBy

theorem Given.unique {value : Value} {start stop start' stop' : Coordinates}
    (hl : Given value start stop) (hr : Given value start' stop')
    : start = start' ∧ stop = stop' := by
  obtain ⟨_, _, startLeft, startRight⟩ := hl.start.both hr.start
  obtain ⟨_, _, stopLeft, stopRight⟩ := hl.stop.both hr.stop
  exact ⟨startLeft.unique startRight, stopLeft.unique stopRight⟩

/-- The value that the numbers of two ends are written as. -/
def valueOf (start stop : Coordinates) : Value :=
  .ofFields [("start", start.value), ("end", stop.value)]

theorem given_valueOf {start stop : Coordinates} (hs : start.Below (2 ^ 53 + 1))
    (ht : stop.Below (2 ^ 53 + 1))
    : Given (valueOf start stop) start stop :=
  ⟨Value.holds_ofFields rfl (Coordinates.givenBy_value hs),
    Value.holds_ofFields rfl (Coordinates.givenBy_value ht)⟩

/-- A value is read as a range if it has four numbers up to 2^53, and then as these numbers modulo
2^32.
-/
theorem ofValue_eq_ok_iff {value : Value} {range : Range}
    : ofValue value = .ok range
      ↔ ∃ start stop : Coordinates,
          Given value start stop
          ∧ start.Below (2 ^ 53 + 1)
          ∧ stop.Below (2 ^ 53 + 1)
          ∧ range = { start := start.position, stop := stop.position } := by
  constructor
  · intro read
    obtain ⟨startField, startFound, read⟩ := Json.exists_of_bind_ok read
    obtain ⟨start, startRead, read⟩ := Json.exists_of_bind_ok read
    obtain ⟨stopField, stopFound, read⟩ := Json.exists_of_bind_ok read
    obtain ⟨stop, stopRead, read⟩ := Json.exists_of_bind_ok read
    obtain ⟨first, firstGiven, firstSmall, rfl⟩ := Position.ofValue_eq_ok_iff.mp startRead
    obtain ⟨last, lastGiven, lastSmall, rfl⟩ := Position.ofValue_eq_ok_iff.mp stopRead
    refine ⟨first, last, ⟨?_, ?_⟩, firstSmall, lastSmall, (Except.ok.inj read).symm⟩
    · exact ⟨startField, Value.field_eq_ok_iff.mp startFound, firstGiven⟩
    · exact ⟨stopField, Value.field_eq_ok_iff.mp stopFound, lastGiven⟩
  · rintro ⟨start, stop, ⟨⟨startField, startFound, startGiven⟩, stopField, stopFound, stopGiven⟩,
      startSmall, stopSmall, rfl⟩
    have startRead : Position.ofValue startField = .ok start.position :=
      Position.ofValue_eq_ok_iff.mpr ⟨start, startGiven, startSmall, rfl⟩
    have stopRead : Position.ofValue stopField = .ok stop.position :=
      Position.ofValue_eq_ok_iff.mpr ⟨stop, stopGiven, stopSmall, rfl⟩
    simp only [ofValue, bind, Except.bind, Value.field_eq_ok_iff.mpr startFound, startRead,
      Value.field_eq_ok_iff.mpr stopFound, stopRead]
    rfl

/-- Numbers up to 2^53 are read modulo 2^32. -/
theorem ofValue_valueOf {start stop : Coordinates} (hs : start.Below (2 ^ 53 + 1))
    (ht : stop.Below (2 ^ 53 + 1))
    : ofValue (valueOf start stop) = .ok { start := start.position, stop := stop.position } :=
  ofValue_eq_ok_iff.mpr ⟨start, stop, given_valueOf hs ht, hs, ht, rfl⟩

/-- A range is read back from what is written of it. -/
theorem ofValue_toValue (range : Range) : ofValue range.toValue = .ok range := by
  have written : range.toValue = valueOf range.start.coordinates range.stop.coordinates := rfl
  rw [written, ofValue_valueOf range.start.coordinates_readable range.stop.coordinates_readable]
  simp

/-- A range that is read has the numbers of the value exactly if they are all below 2^32. -/
theorem kept_iff {value : Value} {range : Range} {start stop : Coordinates}
    (read : ofValue value = .ok range) (given : Given value start stop)
    : range.start.coordinates = start ∧ range.stop.coordinates = stop
      ↔ start.Below (2 ^ 32) ∧ stop.Below (2 ^ 32) := by
  obtain ⟨first, last, own, _, _, rfl⟩ := ofValue_eq_ok_iff.mp read
  obtain ⟨rfl, rfl⟩ := own.unique given
  exact and_congr first.position_coordinates_iff last.position_coordinates_iff

end Range

end LanguageClient
