import LanguageClient.Json.Printer
import LanguageClient.Proofs.Json.Behind
import LanguageClient.Proofs.Json.Decimals

/-! What is written of a value spells the value, as long as it is not nested too deeply. Numbers
that are not finite are written as null, and zero loses its sign.
-/

namespace LanguageClient.Json

-----------------------------------------------------------------------------------------
-- Strings
-----------------------------------------------------------------------------------------

/-- The digits of an escape are those of its code. -/
theorem hexCode_escapeDigits {code : Nat} (small : code < 256) (text : List Char)
    : HexCode (Value.escapeDigits code ++ text) code text := by
  have digits : ∀ value < 16, HexDigit (Nat.digitChar value) value := by decide
  have spelled := HexCode.digits text (digits 0 (by decide)) (digits 0 (by decide))
    (digits (code / 16) (by omega)) (digits (code % 16) (by omega))
  rwa [show 16 * (16 * (16 * 0 + 0) + code / 16) + code % 16 = code by omega] at spelled

/-- Whatever character is written inside quotes is read as itself. -/
theorem Quoted.quotedChar {text chars rest : List Char} (char : Char)
    (more : Quoted text chars rest)
    : Quoted (Value.quotedChar char ++ text) (char :: chars) rest := by
  unfold Value.quotedChar
  split
  · exact .escape (.itself (by decide)) more
  · exact .escape (.itself (by decide)) more
  · exact .escape .lineFeed more
  · exact .escape .carriageReturn more
  · exact .escape .tab more
  · exact .escape .backspace more
  · exact .escape .formFeed more
  · split
    · rename_i control
      exact .code (hexCode_escapeDigits (by omega) text) more
    · rename_i quote escape _ _ _ _ _ _
      exact .raw quote escape more

/-- A text in quotes is read as itself, by induction on its characters. -/
theorem quoted_flatMap (chars rest : List Char)
    : Quoted (chars.flatMap Value.quotedChar ++ '"' :: rest) chars rest := by
  induction chars with
  | nil => exact .close rest
  | cons char more ih =>
      rw [List.flatMap_cons, List.append_assoc]
      exact ih.quotedChar char

-----------------------------------------------------------------------------------------
-- Numbers
-----------------------------------------------------------------------------------------

/-- A text that ends or goes on with what may follow a value inside another. -/
def Ends (rest : List Char) : Prop :=
  ∀ char more, rest = char :: more → char ∈ [',', ']', '\x7d']

/-- No number goes on with what may follow a value inside another. -/
theorem Ends.stopsNumbers {rest : List Char} (ends : Ends rest) : StopsNumbers rest := by
  have apart : ∀ char ∈ [',', ']', '\x7d'], char ∉ numberChars := by
    simp [numberChars, decimalDigits]
  exact fun char more same => apart char (ends char more same)

/-- What is left of a number when it is written and read: nothing of one that is not finite, and
no sign of zero.
-/
def Number.readBack (number : Number) : Value :=
  if number.isFinite then .number number.unsignedZero else .null

/-- A number is written as what is left of it. -/
theorem spells_number (levels : Nat) (number : Number) {rest : List Char} (ends : Ends rest)
    : Spells levels (number.chars ++ rest) number.readBack rest := by
  unfold Number.readBack
  split
  · rename_i finite
    obtain ⟨token, written, same, reads⟩ := Number.exists_token finite
    rw [same, ← reads]
    refine .number levels written (NumberToken.longest_of_stops ends.stopsNumbers) ?_
    rw [reads]
    exact Number.isFinite_unsignedZero finite
  · rename_i infinite
    have null : number.chars = ['n', 'u', 'l', 'l'] := by
      rw [Number.chars]
      exact if_pos (by simpa using infinite)
    rw [null]
    exact .null levels rest

-----------------------------------------------------------------------------------------
-- Values
-----------------------------------------------------------------------------------------

namespace Value

mutual

/-- How many arrays and objects are inside one another at most. -/
def depth : Value → Nat
  | .array items => depthOfItems items + 1
  | .object fields => depthOfFields fields + 1
  | _ => 0

def depthOfItems : List Value → Nat
  | [] => 0
  | item :: rest => max (depth item) (depthOfItems rest)

def depthOfFields : List (String × Value) → Nat
  | [] => 0
  | (_, value) :: rest => max (depth value) (depthOfFields rest)

end

mutual

/-- The fields of all objects are in the order of their names. -/
def Ordered : Value → Prop
  | .array items => OrderedItems items
  | .object fields => Keyed.Sorted fields ∧ OrderedFields fields
  | _ => True

def OrderedItems : List Value → Prop
  | [] => True
  | item :: rest => Ordered item ∧ OrderedItems rest

def OrderedFields : List (String × Value) → Prop
  | [] => True
  | (_, value) :: rest => Ordered value ∧ OrderedFields rest

end

mutual

/-- The value with other values in place of its numbers. -/
def mapNumbers (change : Number → Value) : Value → Value
  | .number value => change value
  | .array items => .array (mapItems change items)
  | .object fields => .object (mapFields change fields)
  | value => value

def mapItems (change : Number → Value) : List Value → List Value
  | [] => []
  | item :: rest => mapNumbers change item :: mapItems change rest

def mapFields (change : Number → Value) : List (String × Value) → List (String × Value)
  | [] => []
  | (name, value) :: rest => (name, mapNumbers change value) :: mapFields change rest

end

theorem mapFields_eq (change : Number → Value) (fields : List (String × Value))
    : mapFields change fields = fields.map fun named => (named.1, named.2.mapNumbers change) := by
  induction fields with
  | nil => rfl
  | cons field rest ih => rw [mapFields, ih, List.map_cons]

theorem chars_array (items : List Value) (rest : List Char)
    : chars (.array items) ++ rest = '[' :: (itemsChars items ++ ']' :: rest) := by
  simp [chars]

theorem chars_object (fields : List (String × Value)) (rest : List Char)
    : chars (.object fields) ++ rest = '\x7b' :: (fieldsChars fields ++ '\x7d' :: rest) := by
  simp [chars]

theorem itemsChars_cons (item : Value) {items : List Value} (some : items ≠ [])
    : itemsChars (item :: items) = item.chars ++ ',' :: itemsChars items := by
  cases items with
  | nil => exact absurd rfl some
  | cons next rest => rfl

theorem fieldsChars_cons (name : String) (value : Value) {fields : List (String × Value)}
    (some : fields ≠ [])
    : fieldsChars ((name, value) :: fields)
      = quoted name ++ ':' :: (value.chars ++ ',' :: fieldsChars fields) := by
  cases fields with
  | nil => exact absurd rfl some
  | cons next rest => simp [fieldsChars]

theorem quoted_append (name : String) (rest : List Char)
    : quoted name ++ rest = '"' :: (name.toList.flatMap quotedChar ++ '"' :: rest) := by
  simp [quoted]

/-- The value that is left of one when it is written and read. -/
def readBack (value : Value) : Value :=
  value.mapNumbers Number.readBack

end Value

/-- Fields in the order of their names are kept as they are. -/
theorem keepsLast_of_sorted {fields : Fields} (sorted : fields.Sorted)
    : KeepsLast fields fields :=
  ⟨sorted, fun name => (sorted.get?_reverse name).symm⟩

open Value

theorem ends_nil : Ends [] :=
  fun _ _ same => nomatch same

/-- What closes arrays or objects or separates their items ends a value. -/
theorem ends_cons {char : Char} (closing : char ∈ [',', ']', '\x7d']) (rest : List Char)
    : Ends (char :: rest) := by
  intro other more same
  obtain ⟨rfl, _⟩ := List.cons.inj same
  exact closing

mutual

/-- A value is written as what is left of it. -/
theorem spells_chars (value : Value) {levels : Nat} {rest : List Char}
    (ordered : value.Ordered) (shallow : value.depth ≤ levels) (ends : Ends rest)
    : Spells levels (value.chars ++ rest) value.readBack rest := by
  cases value with
  | null => exact .null levels rest
  | boolean value =>
      cases value with
      | true => exact .truth levels rest
      | false => exact .falsity levels rest
  | number number => exact spells_number levels number ends
  | text text =>
      have spelled := Spells.text levels (quoted_flatMap text.toList rest)
      simpa [chars, quoted, readBack, mapNumbers] using spelled
  | array items =>
      rw [depth] at shallow
      obtain ⟨levels, rfl⟩ : ∃ inner, levels = inner + 1 := ⟨levels - 1, by omega⟩
      rw [chars_array, readBack, mapNumbers]
      by_cases none : items = []
      · rw [none]
        exact .emptyArray levels (.none _)
      · exact .array (spellsItems_chars items none ordered (by omega))
  | object fields =>
      rw [depth] at shallow
      obtain ⟨levels, rfl⟩ : ∃ inner, levels = inner + 1 := ⟨levels - 1, by omega⟩
      rw [chars_object, readBack, mapNumbers]
      obtain ⟨sorted, ordered⟩ := ordered
      by_cases none : fields = []
      · rw [none]
        exact .emptyObject levels (.none _)
      · refine .object (spellsFields_chars fields none ordered (by omega)) ?_
        rw [mapFields_eq]
        exact keepsLast_of_sorted (sorted.map _)
termination_by sizeOf value

/-- Items are written as what is left of them. -/
theorem spellsItems_chars (items : List Value) {levels : Nat} {rest : List Char}
    (some : items ≠ []) (ordered : OrderedItems items) (shallow : depthOfItems items ≤ levels)
    : SpellsItems levels (itemsChars items ++ ']' :: rest) (mapItems Number.readBack items)
        rest := by
  cases items with
  | nil => exact absurd rfl some
  | cons item items =>
      obtain ⟨first, others⟩ := ordered
      rw [depthOfItems] at shallow
      have here {char : Char} (closing : char ∈ [',', ']', '\x7d']) (more : List Char)
          : Spells levels (item.chars ++ char :: more) item.readBack (char :: more) :=
        spells_chars item first (by omega) (ends_cons closing more)
      rw [mapItems]
      by_cases none : items = []
      · rw [none]
        exact .last (.none _) (here (by decide) _) (.none _)
      · rw [itemsChars_cons item none, List.append_assoc, List.cons_append]
        refine .more (.none _) (here (by decide) _) (.none _) ?_
        exact spellsItems_chars items none others (by omega)
termination_by sizeOf items

/-- Fields are written as what is left of them. -/
theorem spellsFields_chars (fields : List (String × Value)) {levels : Nat} {rest : List Char}
    (some : fields ≠ []) (ordered : OrderedFields fields)
    (shallow : depthOfFields fields ≤ levels)
    : SpellsFields levels (fieldsChars fields ++ '\x7d' :: rest)
        (mapFields Number.readBack fields) rest := by
  match fields with
  | [] => exact absurd rfl some
  | (name, value) :: fields =>
      obtain ⟨first, others⟩ := ordered
      rw [depthOfFields] at shallow
      rw [mapFields]
      have here {char : Char} (closing : char ∈ [',', ']', '\x7d']) (more : List Char)
          : SpellsField levels (quoted name ++ ':' :: (value.chars ++ char :: more))
              (name, value.readBack) (char :: more) := by
        have spelled : Spells levels (value.chars ++ char :: more) value.readBack (char :: more) :=
          spells_chars value first (by omega) (ends_cons closing more)
        have field := SpellsField.field (.none _) (quoted_flatMap name.toList _) (.none _)
          (.none _) spelled
        rwa [String.ofList_toList, ← quoted_append] at field
      by_cases none : fields = []
      · rw [none, fieldsChars, List.append_assoc, List.cons_append]
        exact .last (here (by decide) _) (.none _)
      · rw [fieldsChars_cons name value none, List.append_assoc, List.cons_append,
          List.append_assoc, List.cons_append]
        refine .more (here (by decide) _) (.none _) ?_
        exact spellsFields_chars fields none others (by omega)
termination_by sizeOf fields

end

end LanguageClient.Json
