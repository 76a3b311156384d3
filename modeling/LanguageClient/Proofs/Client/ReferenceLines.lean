import LanguageClient.Client.Events
import LanguageClient.Editor.Recorded
import LanguageClient.Proofs.Position

/-! The numbers of lines and columns that go between a server and the user. Ranges that are sent
come back as they are, and the ranges that a server gives are taken, and shown counting from one, as
the numbers that they are only up to 2^32.
-/

namespace LanguageClient

open Json (Value)

variable {σ : Type} [Host σ]

-----------------------------------------------------------------------------------------
-- Locations of an answer
-----------------------------------------------------------------------------------------

namespace Location

/-- The parts of an answer that each stand for a location. -/
def items : Value → List Value
  | .null => []
  | .array items => items
  | single => [single]

theorem listOfValue_eq (result : Value)
    : listOfValue result = (items result).filterMap ofValue? := by
  cases result with
  | null => rfl
  | array items => rfl
  | _ =>
      simp only [listOfValue, items, List.filterMap_cons, List.filterMap_nil]
      cases ofValue? _ <;> rfl

/-- An item names a document and has the value of a range in it. In a link, the range of what is
selected goes before the whole range.
-/
inductive Names (item : Value) (uri : String) : Value → Prop where
  | own {range : Value} (named : item.getText? "uri" = some uri)
      (placed : item.get? "range" = some range)
      : Names item uri range
  | selection {range : Value} (named : item.getText? "targetUri" = some uri)
      (placed : item.get? "targetSelectionRange" = some range)
      : Names item uri range
  | whole {range : Value} (named : item.getText? "targetUri" = some uri)
      (unselected : item.get? "targetSelectionRange" = none)
      (placed : item.get? "targetRange" = some range)
      : Names item uri range

/-- A location that is made of two fields has what stands in them. -/
theorem exists_of_fields {item : Value} {uriName rangeName : String} {location : Location}
    (read
      : (do
            let uri ← item.getText? uriName
            let range ← range? item rangeName
            return ({ uri, range } : Location))
        = some location)
    : item.getText? uriName = some location.uri
      ∧ ∃ range,
          item.get? rangeName = some range ∧ Range.ofValue range = .ok location.range := by
  obtain ⟨uri, named, placed⟩ := Option.bind_eq_some_iff.mp read
  obtain ⟨range, placed, made⟩ := Option.bind_eq_some_iff.mp placed
  obtain ⟨field, found, accepted⟩ := Option.bind_eq_some_iff.mp placed
  cases made
  refine ⟨named, field, found, ?_⟩
  cases outcome : Range.ofValue field with
  | error error => simp [outcome, Except.toOption] at accepted
  | ok other => simpa [outcome, Except.toOption] using accepted

/-- A location has the document and the range that its item gives. -/
theorem names_of_ofValue? {item : Value} {location : Location}
    (read : ofValue? item = some location)
    : ∃ range, Names item location.uri range ∧ Range.ofValue range = .ok location.range := by
  unfold ofValue? at read
  rw [Option.orElse_eq_orElse, Option.orElse_eq_or] at read
  rcases Option.or_eq_some_iff.mp read with own | ⟨_, link⟩
  · obtain ⟨named, range, found, accepted⟩ := exists_of_fields own
    exact ⟨range, .own named found, accepted⟩
  · unfold ofLink? at link
    cases selected : item.get? "targetSelectionRange" with
    | none =>
        rw [selected] at link
        obtain ⟨named, range, found, accepted⟩ := exists_of_fields link
        exact ⟨range, .whole named selected found, accepted⟩
    | some _ =>
        rw [selected] at link
        obtain ⟨named, range, found, accepted⟩ := exists_of_fields link
        exact ⟨range, .selection named found, accepted⟩

/-- An item that gives a document and a range by its own fields. -/
def itemOf (uri : String) (range : Value) : Value :=
  .ofFields [("uri", .text uri), ("range", range)]

theorem getText?_itemOf (uri : String) (range : Value)
    : (itemOf uri range).getText? "uri" = some uri := by
  rw [itemOf, Value.getText?_ofFields]
  rfl

theorem get?_itemOf (uri : String) (range : Value)
    : (itemOf uri range).get? "range" = some range := by
  rw [itemOf, Value.get?_ofFields]
  rfl

theorem ofValue?_itemOf {uri : String} {value : Value} {range : Range}
    (read : Range.ofValue value = .ok range)
    : ofValue? (itemOf uri value) = some { uri, range } := by
  have own : ofFields? (itemOf uri value) = some { uri, range } := by
    simp [ofFields?, range?, getText?_itemOf, get?_itemOf, read, Except.toOption]
  simp [ofValue?, own]

/-- An item without the fields of a link gives no other range than its own. -/
theorem Names.of_itemOf {uri other : String} {range value : Value}
    (names : Names (itemOf uri range) other value)
    : value = range := by
  have unlinked : (itemOf uri range).getText? "targetUri" = none := by
    rw [itemOf, Value.getText?_ofFields]
    rfl
  cases names with
  | own _ placed => exact Option.some.inj (placed.symm.trans (get?_itemOf uri range))
  | selection named _ => exact absurd (named.symm.trans unlinked) nofun
  | whole named _ _ => exact absurd (named.symm.trans unlinked) nofun

end Location

-----------------------------------------------------------------------------------------
-- Numbers from one
-----------------------------------------------------------------------------------------

namespace Coordinates

/-- The same line and column, counted from one. -/
def fromOne (coordinates : Coordinates) : Coordinates where
  line := coordinates.line + 1
  character := coordinates.character + 1

/-- How a place in a document is shown. -/
def shownIn (coordinates : Coordinates) (name : String) : String :=
  name ++ ":" ++ toString coordinates.line ++ ":" ++ toString coordinates.character

/-- The numbers can be told from what is shown, because no digit is a colon. -/
theorem shownIn_inj {left right : Coordinates} {name : String}
    : left.shownIn name = right.shownIn name ↔ left = right := by
  refine ⟨fun same => ?_, fun same => same ▸ rfl⟩
  have noColon (number : Nat) : ':' ∉ Nat.toDigits 10 number := fun listed =>
    absurd (Nat.isDigit_of_mem_toDigits (by decide) (by decide) listed) (by decide)
  have numberOf {first second : Nat} (same : Nat.toDigits 10 first = Nat.toDigits 10 second)
      : first = second := by
    have read := congrArg (Nat.ofDigitChars 10 · 0) same
    simpa only [Nat.ofDigitChars_ten_toDigits] using read
  have digits
      : Nat.toDigits 10 left.line ++ ':' :: Nat.toDigits 10 left.character
        = Nat.toDigits 10 right.line ++ ':' :: Nat.toDigits 10 right.character := by
    have texts := congrArg String.toList same
    simpa [shownIn, toString, List.append_assoc, Nat.toList_repr] using texts
  obtain ⟨lines, _, characters⟩ :=
    (List.append_cons_inj_of_notMem (noColon _) (noColon _)).mp digits
  cases left
  cases right
  exact congrArg₂ Coordinates.mk (numberOf lines) (numberOf characters)

end Coordinates

namespace Client

/-- The line about a location has the numbers of the server, counted from one, exactly if 32 bits
can hold these.
-/
theorem referenceLine_iff {value : Value} {location : Location} {start stop : Coordinates}
    (read : Range.ofValue value = .ok location.range) (given : Range.Given value start stop)
    : referenceLine location = start.fromOne.shownIn (location.path?.getD location.uri)
      ↔ start.fromOne.Below (2 ^ 32) := by
  obtain ⟨first, _, own, _, _, range⟩ := Range.ofValue_eq_ok_iff.mp read
  obtain ⟨rfl, rfl⟩ := own.unique given
  have shown
      : referenceLine location
        = Coordinates.shownIn
            {
              line := (UInt32.ofNat first.line + 1).toNat
              character := (UInt32.ofNat first.character + 1).toNat
            }
            (location.path?.getD location.uri) := by
    rw [referenceLine, range]
    rfl
  have counted (number : Nat)
      : (UInt32.ofNat number + 1).toNat = number + 1 ↔ number + 1 < 2 ^ 32 := by
    have sum : (UInt32.ofNat number + 1).toNat = (number + 1) % 2 ^ 32 := by
      simp [UInt32.toNat_add]
    rw [sum]
    exact Nat.mod_eq_iff_lt (by decide)
  rw [shown, Coordinates.shownIn_inj, Coordinates.below_iff]
  simp only [Coordinates.fromOne, Coordinates.mk.injEq, counted]

/-- Locations of references are shown one on a line, below a message about how many they are. -/
theorem handleReply_references (client : Client) (host : σ) {locations : List Location}
    (some : locations ≠ [])
    : let counted := Host.showStatus (toString locations.length ++ " references") host
      client.handleReply host (.references locations)
      = client.showLines counted (Host.cursor counted) (locations.map referenceLine) := by
  cases locations with
  | nil => exact absurd rfl some
  | cons location others => rfl

/-- Ranges that are sent come back as they are. A range that is read has the numbers of its value
exactly if they are all below 2^32. The user is shown every location of an answer about
references that can be read, and the numbers shown are those of the server, counted from one,
exactly if they are below 2^32 then.
-/
theorem numbers_kept_iff (client : Client) (host : σ)
    : (∀ range : Range, Range.ofValue range.toValue = .ok range)
      ∧ (∀ (value : Value) (range : Range), Range.ofValue value = .ok range
        → ∃ start stop : Coordinates,
            Range.Given value start stop
            ∧ (range.start.coordinates = start ∧ range.stop.coordinates = stop
              ↔ start.Below (2 ^ 32) ∧ stop.Below (2 ^ 32)))
      ∧ ∀ result : Value,
          let locations := (Location.items result).filterMap Location.ofValue?
          Reply.ofResult .references result = .ok (.references locations)
          ∧ (locations ≠ []
            → let counted :=
                Host.showStatus (toString locations.length ++ " references") host
              client.handleReply host (.references locations)
              = client.showLines counted (Host.cursor counted) (locations.map referenceLine))
          ∧ ∀ item ∈ Location.items result, ∀ location, Location.ofValue? item = some location
            → ∃ (value : Value) (start stop : Coordinates),
                Location.Names item location.uri value
                ∧ Range.ofValue value = .ok location.range
                ∧ Range.Given value start stop
                ∧ (referenceLine location
                    = start.fromOne.shownIn (location.path?.getD location.uri)
                  ↔ start.fromOne.Below (2 ^ 32)) := by
  refine ⟨Range.ofValue_toValue, ?_, ?_⟩
  · intro value range read
    obtain ⟨start, stop, given, _⟩ := Range.ofValue_eq_ok_iff.mp read
    exact ⟨start, stop, given, Range.kept_iff read given⟩
  · intro result locations
    refine ⟨?_, client.handleReply_references host, ?_⟩
    · rw [Reply.ofResult, Location.listOfValue_eq]
    · intro item _ location read
      obtain ⟨value, names, placed⟩ := Location.names_of_ofValue? read
      obtain ⟨start, stop, given, _⟩ := Range.ofValue_eq_ok_iff.mp placed
      exact ⟨value, start, stop, names, placed, given, referenceLine_iff placed given⟩

/-- An editor with an empty document and room for a few lines. -/
def emptyEditor : RecordedEditor where
  buffer := .ofText []
  cursor := { line := 0, column := 0 }
  path := none
  language := "rust"
  documents := []
  screen := { x := 0, y := 0, width := 80, height := 20 }
  reserved := 19

/-- A server gives one reference, and the user sees its line and column counted from one. -/
theorem numbers_kept_iff_of_reference
    : let start : Coordinates := { line := 1, character := 2 }
      let stop : Coordinates := { line := 3, character := 4 }
      let location : Location :=
        { uri := "file:///a.rs", range := { start := start.position, stop := stop.position } }
      let value := Range.valueOf start stop
      let result := Value.array [Location.itemOf "file:///a.rs" value]
      Range.ofValue value = .ok location.range
      ∧ location.range.start.coordinates = start
      ∧ location.range.stop.coordinates = stop
      ∧ Reply.ofResult .references result = .ok (.references [location])
      ∧ (({} : Client).handleReply emptyEditor (.references [location])).2.calls
        = [
          .showStatus "1 references",
          .showOverlay
            {
              kind := .message
              rect := { x := 0, y := 1, width := 9, height := 1 }
              lines := ["/a.rs:2:3"]
              selectedRow := none
            }
        ] := by
  intro start stop location value result
  have startSmall : start.Below (2 ^ 53 + 1) := ⟨by decide, by decide⟩
  have stopSmall : stop.Below (2 ^ 53 + 1) := ⟨by decide, by decide⟩
  have given : Range.Given value start stop := Range.given_valueOf startSmall stopSmall
  have read : Range.ofValue value = .ok location.range :=
    Range.ofValue_valueOf startSmall stopSmall
  have itemRead : Location.ofValue? (Location.itemOf "file:///a.rs" value) = some location :=
    Location.ofValue?_itemOf read
  obtain ⟨_, kept, answered⟩ := numbers_kept_iff ({} : Client) emptyEditor
  obtain ⟨_, _, given', numbers⟩ := kept value location.range read
  obtain ⟨rfl, rfl⟩ := given.unique given'
  obtain ⟨startKept, stopKept⟩ := numbers.mpr ⟨⟨by decide, by decide⟩, ⟨by decide, by decide⟩⟩
  obtain ⟨replied, handled, items⟩ := answered result
  have locations : (Location.items result).filterMap Location.ofValue? = [location] := by
    simp [result, Location.items, itemRead]
  rw [locations] at replied handled
  refine ⟨read, startKept, stopKept, replied, ?_⟩
  obtain ⟨_, _, _, names, _, shownGiven, shown⟩ :=
    items _ (List.mem_singleton_self _) location itemRead
  obtain rfl := names.of_itemOf
  obtain ⟨rfl, rfl⟩ := given.unique shownGiven
  have line : referenceLine location = "/a.rs:2:3" :=
    (shown.mpr ⟨by decide, by decide⟩).trans (by decide +kernel)
  rw [handled (List.cons_ne_nil _ _), List.map_singleton, line]
  decide +kernel

/-- Numbers from 2^32 up are read as small ones, and so a reference in the line 2^32 is shown in the
first line.
-/
theorem large_numbers_change
    : let start : Coordinates := { line := 4294967296, character := 4294967297 }
      let stop : Coordinates := { line := 4294967296, character := 4294967298 }
      let value := Range.valueOf start stop
      let range : Range :=
        { start := { line := 0, character := 1 }, stop := { line := 0, character := 2 } }
      let result := Value.array [Location.itemOf "file:///a.rs" value]
      Range.Given value start stop
      ∧ Range.ofValue value = .ok range
      ∧ Reply.ofResult .references result
        = .ok (.references [{ uri := "file:///a.rs", range }])
      ∧ referenceLine { uri := "file:///a.rs", range } = "/a.rs:1:2"
      ∧ start.fromOne.shownIn "/a.rs" = "/a.rs:4294967297:4294967298" := by
  intro start stop value range result
  have startSmall : start.Below (2 ^ 53 + 1) := ⟨by decide, by decide⟩
  have stopSmall : stop.Below (2 ^ 53 + 1) := ⟨by decide, by decide⟩
  have wrapped : range = { start := start.position, stop := stop.position } := by decide +kernel
  have read : Range.ofValue value = .ok range :=
    wrapped ▸ Range.ofValue_valueOf startSmall stopSmall
  refine ⟨Range.given_valueOf startSmall stopSmall, read, ?_, by decide +kernel, by decide +kernel⟩
  rw [Reply.ofResult, Location.listOfValue_eq]
  simp [result, Location.items, Location.ofValue?_itemOf read]

end Client

end LanguageClient
