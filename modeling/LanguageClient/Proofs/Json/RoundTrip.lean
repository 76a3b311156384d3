import LanguageClient.Proofs.Json.Printing

/-! A value that is written and read comes back, unless it is nested too deeply. Then the first
array or object that is inside too many others is where reading stops.
-/

namespace LanguageClient.Json

open Text (Utf8.size Utf8.size_append)

-----------------------------------------------------------------------------------------
-- What comes back
-----------------------------------------------------------------------------------------

namespace Value

/-- The value with null in place of every number that is not finite. -/
def withoutNonFinite (value : Value) : Value :=
  value.mapNumbers fun number => if number.isFinite then .number number else .null

end Value

namespace Number

theorem isNaN_of_finite {number : Number} (finite : number.isFinite) : number.isNaN = false := by
  have below : number.magnitude < infinityMagnitude := of_decide_eq_true finite
  exact decide_eq_false (Nat.not_lt.mpr (Nat.le_of_lt below))

/-- Zero equals itself with any sign. -/
theorem unsignedZero_equals {number : Number} (finite : number.isFinite)
    : number.unsignedZero.equals number = true := by
  have notNaN := isNaN_of_finite finite
  have notNaN' := isNaN_of_finite (isFinite_unsignedZero finite)
  unfold equals
  rw [notNaN, notNaN']
  unfold unsignedZero
  split
  · rename_i zero
    rw [zero, magnitude_ofMagnitude false (by decide)]
    simp
  · simp

end Number

mutual

/-- Values that differ in equal numbers are equal. -/
theorem Value.equals_mapNumbers {left right : Number → Value}
    (same : ∀ number, (left number).equals (right number) = true) (value : Value)
    : (value.mapNumbers left).equals (value.mapNumbers right) = true := by
  cases value with
  | null => rfl
  | boolean value => exact beq_self_eq_true value
  | number number => exact same number
  | text text => exact beq_self_eq_true text
  | array items => exact equalsItems_mapItems same items
  | object fields => exact equalsFields_mapFields same fields
termination_by sizeOf value

theorem Value.equalsItems_mapItems {left right : Number → Value}
    (same : ∀ number, (left number).equals (right number) = true) (items : List Value)
    : equalsItems (mapItems left items) (mapItems right items) = true := by
  match items with
  | [] => rfl
  | item :: rest =>
      rw [mapItems, mapItems, equalsItems, equals_mapNumbers same item,
        equalsItems_mapItems same rest]
      rfl
termination_by sizeOf items

theorem Value.equalsFields_mapFields {left right : Number → Value}
    (same : ∀ number, (left number).equals (right number) = true)
    (fields : List (String × Value))
    : equalsFields (mapFields left fields) (mapFields right fields) = true := by
  match fields with
  | [] => rfl
  | (name, value) :: rest =>
      rw [mapFields, mapFields, equalsFields, equals_mapNumbers same value,
        equalsFields_mapFields same rest, beq_self_eq_true]
      rfl
termination_by sizeOf fields

end

/-- What comes back equals the value without the numbers that are not finite. -/
theorem Value.readBack_equals (value : Value)
    : value.readBack.equals value.withoutNonFinite = true := by
  refine value.equals_mapNumbers fun number => ?_
  unfold Number.readBack
  split
  · rename_i finite
    exact Number.unsignedZero_equals finite
  · rfl

-----------------------------------------------------------------------------------------
-- Openings
-----------------------------------------------------------------------------------------

/-- Where an array or object opens in what is written. -/
structure Opening where
  /-- How many arrays and objects it is inside, with itself. -/
  level : Nat
  /-- The byte of its bracket or brace. -/
  position : Nat
deriving DecidableEq, Repr

namespace Value

mutual

/-- The arrays and objects of a value in the order in which they open, for a value that is
written at a byte and inside so many others.
-/
def openings (level position : Nat) : Value → List Opening
  | .array items => ⟨level + 1, position⟩ :: openingsOfItems (level + 1) (position + 1) items
  | .object fields => ⟨level + 1, position⟩ :: openingsOfFields (level + 1) (position + 1) fields
  | _ => []

def openingsOfItems (level position : Nat) : List Value → List Opening
  | [] => []
  | item :: rest =>
    openings level position item
      ++ openingsOfItems level (position + Utf8.size item.chars + 1) rest

def openingsOfFields (level position : Nat) : List (String × Value) → List Opening
  | [] => []
  | (name, value) :: rest =>
    openings level (position + Utf8.size (quoted name) + 1) value
      ++ openingsOfFields level
        (position + Utf8.size (quoted name) + 1 + Utf8.size value.chars + 1) rest

end

mutual

/-- No array or object opens at a level beyond the depth of the value. -/
theorem level_le_of_mem_openings {level position : Nat} (value : Value) {opening : Opening}
    (member : opening ∈ value.openings level position)
    : opening.level ≤ level + value.depth := by
  cases value with
  | null | boolean _ | number _ | text _ => cases member
  | array items =>
      rw [depth]
      rcases List.mem_cons.mp member with rfl | inside
      · dsimp only
        omega
      · have := level_le_of_mem_openingsOfItems items inside
        omega
  | object fields =>
      rw [depth]
      rcases List.mem_cons.mp member with rfl | inside
      · dsimp only
        omega
      · have := level_le_of_mem_openingsOfFields fields inside
        omega
termination_by sizeOf value

theorem level_le_of_mem_openingsOfItems {level position : Nat} (items : List Value)
    {opening : Opening} (member : opening ∈ openingsOfItems level position items)
    : opening.level ≤ level + depthOfItems items := by
  match items with
  | [] => cases member
  | item :: rest =>
      rw [depthOfItems]
      rcases List.mem_append.mp member with here | later
      · have := level_le_of_mem_openings item here
        omega
      · have := level_le_of_mem_openingsOfItems rest later
        omega
termination_by sizeOf items

theorem level_le_of_mem_openingsOfFields {level position : Nat}
    (fields : List (String × Value)) {opening : Opening}
    (member : opening ∈ openingsOfFields level position fields)
    : opening.level ≤ level + depthOfFields fields := by
  match fields with
  | [] => cases member
  | (name, value) :: rest =>
      rw [depthOfFields]
      rcases List.mem_append.mp member with here | later
      · have := level_le_of_mem_openings value here
        omega
      · have := level_le_of_mem_openingsOfFields rest later
        omega
termination_by sizeOf fields

end

/-- An array or object is written at the byte of an opening, in characters that start at another
byte.
-/
def OpensIn (written : List Char) (start : Nat) (opening : Opening) : Prop :=
  ∃ front container back,
    written = front ++ chars container ++ back
    ∧ 0 < container.depth
    ∧ opening.position = start + Utf8.size front

/-- Characters on both sides move an opening by those in front. -/
theorem OpensIn.between {written : List Char} {inner : Nat} {opening : Opening}
    (opens : OpensIn written inner opening) (start : Nat) (front back : List Char)
    (moved : inner = start + Utf8.size front)
    : OpensIn (front ++ written ++ back) start opening := by
  obtain ⟨before, container, after, rfl, deep, position⟩ := opens
  refine ⟨front ++ before, container, after ++ back, ?_, deep, ?_⟩
  · simp only [List.append_assoc]
  · rw [position, moved, Utf8.size_append, Nat.add_assoc]

mutual

/-- Every opening is where an array or object is written. -/
theorem openings_opensIn {level position : Nat} (value : Value) {opening : Opening}
    (member : opening ∈ value.openings level position)
    : OpensIn value.chars position opening := by
  cases value with
  | null | boolean _ | number _ | text _ => cases member
  | array items =>
      rcases List.mem_cons.mp member with rfl | inside
      · exact ⟨[], .array items, [], by simp, by simp [depth], rfl⟩
      · exact (openingsOfItems_opensIn items inside).between position ['['] [']'] rfl
  | object fields =>
      rcases List.mem_cons.mp member with rfl | inside
      · exact ⟨[], .object fields, [], by simp, by simp [depth], rfl⟩
      · exact (openingsOfFields_opensIn fields inside).between position ['\x7b'] ['\x7d'] rfl
termination_by sizeOf value

theorem openingsOfItems_opensIn {level position : Nat} (items : List Value)
    {opening : Opening} (member : opening ∈ openingsOfItems level position items)
    : OpensIn (itemsChars items) position opening := by
  match items with
  | [] => cases member
  | item :: rest =>
      by_cases none : rest = []
      · subst none
        have here := openings_opensIn item ((List.mem_append.mp member).resolve_right nofun)
        rwa [itemsChars]
      · rw [itemsChars_cons item none]
        rcases List.mem_append.mp member with here | later
        · exact (openings_opensIn item here).between position [] _ rfl
        · have opens := (openingsOfItems_opensIn rest later).between position
            (item.chars ++ [',']) [] (by rw [Utf8.size_append, ← Nat.add_assoc]; rfl)
          simpa using opens
termination_by sizeOf items

theorem openingsOfFields_opensIn {level position : Nat} (fields : List (String × Value))
    {opening : Opening} (member : opening ∈ openingsOfFields level position fields)
    : OpensIn (fieldsChars fields) position opening := by
  match fields with
  | [] => cases member
  | (name, value) :: rest =>
      have named (back : List Char)
          (here : opening ∈ value.openings level (position + Utf8.size (quoted name) + 1))
          : OpensIn (quoted name ++ ':' :: (value.chars ++ back)) position opening := by
        have opens := (openings_opensIn value here).between position (quoted name ++ [':']) back
          (by rw [Utf8.size_append, ← Nat.add_assoc]; rfl)
        simpa using opens
      by_cases none : rest = []
      · subst none
        have here := named [] ((List.mem_append.mp member).resolve_right nofun)
        rwa [List.append_nil] at here
      · rw [fieldsChars_cons name value none]
        rcases List.mem_append.mp member with here | later
        · exact named _ here
        · have opens := (openingsOfFields_opensIn rest later).between position
            (quoted name ++ ':' :: (value.chars ++ [','])) [] (by
              simp only [Utf8.size_append, Utf8.size, Nat.add_assoc]
              rfl)
          simpa using opens
termination_by sizeOf fields

end

end Value

-----------------------------------------------------------------------------------------
-- Reading what is written
-----------------------------------------------------------------------------------------

open Value

/-- What is left after some characters that have been read. -/
theorem Input.eq_of_append {written rest : List Char} {position : Nat} {last : Input}
    (chars : last.chars = rest) (stop : last.stop = Input.stop ⟨written ++ rest, position⟩)
    : last = ⟨rest, position + Utf8.size written⟩ := by
  refine Input.eq_of_stop chars (stop.trans ?_)
  rw [Input.stop, Input.stop, Utf8.size_append, Nat.add_assoc]

/-- Nothing is skipped in front of a token. -/
theorem Input.skipSpaces_token {first : Char} (token : isSpace first = false)
    (rest : List Char) (position : Nat)
    : Input.skipSpaces ⟨first :: rest, position⟩ = ⟨first :: rest, position⟩ := by
  unfold Input.skipSpaces
  dsimp only
  rw [List.takeWhile_cons, List.dropWhile_cons, token]
  rfl

/-- What is written of a value that is not nested too deeply is read up to its end. -/
theorem readNested_chars {value : Value} {levels : Nat} (ordered : value.Ordered)
    (shallow : value.depth ≤ levels) {rest : List Char} (ends : Ends rest) (position : Nat)
    : readNested levels ⟨value.chars ++ rest, position⟩
      = .ok (value.readBack, ⟨rest, position + Utf8.size value.chars⟩) := by
  obtain ⟨last, read, chars⟩ := readNested_complete levels ⟨value.chars ++ rest, position⟩ _ _ _
    (.none _) (spells_chars value ordered shallow ends)
  have stop := (readNested_sound levels _ _ _ read).2
  rw [read, Input.eq_of_append chars stop]

theorem readString_quoted (name : String) (rest : List Char) (position : Nat)
    : readString ⟨quoted name ++ rest, position⟩
      = .ok (name, ⟨rest, position + Utf8.size (quoted name)⟩) := by
  have starts := quoted_append name rest
  obtain ⟨last, read, chars⟩ := @readString_complete ⟨quoted name ++ rest, position⟩ _ _ _ starts
    (quoted_flatMap name.toList rest)
  have stop := (readString_sound starts read).2
  rw [read, Input.eq_of_append chars stop, String.ofList_toList]

/-- What is written of a value starts with neither white space nor a closing bracket. -/
theorem Value.exists_chars_cons {value : Value} (ordered : value.Ordered)
    : ∃ first more, value.chars = first :: more ∧ isSpace first = false ∧ first ≠ ']' := by
  have spelled := spells_chars value ordered (Nat.le_refl _) ends_nil
  rw [List.append_nil] at spelled
  exact spelled.head

theorem itemsChars_head {items : List Value} (some : items ≠ []) (ordered : OrderedItems items)
    (rest : List Char)
    : ∃ first more,
        itemsChars items ++ rest = first :: more ∧ isSpace first = false ∧ first ≠ ']' := by
  cases items with
  | nil => exact absurd rfl some
  | cons item items =>
      obtain ⟨first, more, starts, plain⟩ := Value.exists_chars_cons ordered.1
      by_cases none : items = []
      · subst none
        exact ⟨first, more ++ rest, by rw [itemsChars, starts]; rfl, plain⟩
      · rw [itemsChars_cons item none, starts]
        exact ⟨first, _, rfl, plain⟩

theorem fieldsChars_head {fields : List (String × Value)} (some : fields ≠ [])
    (rest : List Char)
    : ∃ more, fieldsChars fields ++ rest = '"' :: more := by
  cases fields with
  | nil => exact absurd rfl some
  | cons field fields =>
      obtain ⟨name, value⟩ := field
      by_cases none : fields = []
      · subst none
        rw [fieldsChars, List.append_assoc, quoted_append]
        exact ⟨_, rfl⟩
      · rw [fieldsChars_cons name value none, List.append_assoc, quoted_append]
        exact ⟨_, rfl⟩

/-- Where some items are written, an array is read by reading them. -/
theorem readArray_itemsChars (readItem : ValueReader) {items : List Value} (some : items ≠ [])
    (ordered : OrderedItems items) (rest : List Char) (position : Nat)
    : readArray readItem ⟨itemsChars items ++ rest, position⟩
      = (readItems readItem (itemsChars items ++ rest).length
          ⟨itemsChars items ++ rest, position⟩
        >>= fun read => return (.array read.1, read.2)) := by
  obtain ⟨first, more, starts, token, opens⟩ := itemsChars_head some ordered rest
  unfold readArray
  rw [starts, Input.skipSpaces_token token]
  dsimp only
  split
  · rename_i same
    exact absurd (List.cons.inj same).1 opens
  · rfl

/-- Where some fields are written, an object is read by reading them. -/
theorem readObject_fieldsChars (readItem : ValueReader) {fields : List (String × Value)}
    (some : fields ≠ []) (rest : List Char) (position : Nat)
    : readObject readItem ⟨fieldsChars fields ++ rest, position⟩
      = (readFields readItem (fieldsChars fields ++ rest).length
          ⟨fieldsChars fields ++ rest, position⟩
        >>= fun read => return (.ofFields read.1, read.2)) := by
  obtain ⟨more, starts⟩ := fieldsChars_head some rest
  unfold readObject
  rw [starts, Input.skipSpaces_token (by decide)]
  rfl

/-- Where a field is written, it is read by reading its value. -/
theorem readField_quoted (readItem : ValueReader) (name : String) (text : List Char)
    (position : Nat)
    : readField readItem ⟨quoted name ++ ':' :: text, position⟩
      = (readItem ⟨text, position + Utf8.size (quoted name) + 1⟩
        >>= fun read => return ((name, read.1), read.2)) := by
  have starts := quoted_append name (':' :: text)
  have skipped : Input.skipSpaces ⟨quoted name ++ ':' :: text, position⟩
      = ⟨quoted name ++ ':' :: text, position⟩ := by
    rw [starts]
    exact Input.skipSpaces_token (by decide) _ position
  have named := readString_quoted name (':' :: text) position
  unfold readField
  rw [skipped]
  rw [starts] at named ⊢
  dsimp only
  rw [named]
  dsimp only [Bind.bind, Except.bind]
  rw [Input.skipSpaces_token (by decide)]
  rfl

/-- Where an array opens, what follows is read with one level less. -/
theorem readNested_bracket (levels : Nat) (text : List Char) (position : Nat)
    : readNested (levels + 1) ⟨'[' :: text, position⟩
      = readArray (readNested levels) ⟨text, position + 1⟩ := by
  rw [readNested, readValueWith, Input.skipSpaces_token (by decide)]
  rfl

theorem readNested_brace (levels : Nat) (text : List Char) (position : Nat)
    : readNested (levels + 1) ⟨'\x7b' :: text, position⟩
      = readObject (readNested levels) ⟨text, position + 1⟩ := by
  rw [readNested, readValueWith, Input.skipSpaces_token (by decide)]
  rfl

-----------------------------------------------------------------------------------------
-- Too deep nesting
-----------------------------------------------------------------------------------------

/-- An outcome is the error that the first opening of some level is too deep. -/
def StopsAt {α : Type} (level : Nat) (openings : List Opening)
    (outcome : Except SyntaxError α) : Prop :=
  ∃ opening,
    openings.find? (·.level = level) = some opening
    ∧ outcome = .error (.tooDeep nestingLimit opening.position)

namespace StopsAt

variable {α β : Type} {level : Nat} {openings : List Opening} {outcome : Except SyntaxError α}

theorem bind (stops : StopsAt level openings outcome) (next : α → Except SyntaxError β)
    : StopsAt level openings (outcome >>= next) := by
  obtain ⟨opening, found, rfl⟩ := stops
  exact ⟨opening, found, rfl⟩

theorem append_left (stops : StopsAt level openings outcome) (later : List Opening)
    : StopsAt level (openings ++ later) outcome := by
  obtain ⟨opening, found, error⟩ := stops
  exact ⟨opening, by rw [List.find?_append, found]; rfl, error⟩

theorem append_right (stops : StopsAt level openings outcome) {earlier : List Opening}
    (below : ∀ opening ∈ earlier, opening.level < level)
    : StopsAt level (earlier ++ openings) outcome := by
  obtain ⟨opening, found, error⟩ := stops
  have none : earlier.find? (·.level = level) = none := by
    rw [List.find?_eq_none]
    intro other member
    have := below other member
    simp
    omega
  exact ⟨opening, by rw [List.find?_append, none, found]; rfl, error⟩

end StopsAt

/-- An array or object that is not too deep itself stops reading where its inside does. -/
theorem StopsAt.inside {α : Type} {level : Nat} {openings : List Opening}
    {outcome : Except SyntaxError α} (stops : StopsAt level openings outcome) {outer : Opening}
    (above : outer.level ≠ level)
    : StopsAt level (outer :: openings) outcome := by
  obtain ⟨opening, found, error⟩ := stops
  exact ⟨opening, by rw [List.find?_cons_of_neg (by simpa using above), found], error⟩

mutual

/-- A value that is nested too deeply stops reading at its first opening that is. -/
theorem readNested_tooDeep (value : Value) {levels : Nat} (level position : Nat)
    (rest : List Char) (ordered : value.Ordered) (deep : levels < value.depth)
    : StopsAt (level + levels + 1) (value.openings level position)
        (readNested levels ⟨value.chars ++ rest, position⟩) := by
  cases value with
  | null | boolean _ | number _ | text _ => exact absurd deep (Nat.not_lt_zero _)
  | array items =>
      rw [depth] at deep
      rw [chars_array, openings]
      cases levels with
      | zero =>
          refine ⟨_, List.find?_cons_of_pos (by simp), ?_⟩
          rw [readNested, readValueWith, Input.skipSpaces_token (by decide)]
          rfl
      | succ levels =>
          have some : items ≠ [] := by
            rintro rfl
            simp [depthOfItems] at deep
          have stops := readItems_tooDeep items some (level + 1) (position + 1) rest ordered
            (show levels < depthOfItems items by omega) (Nat.le_refl _)
          rw [readNested_bracket, readArray_itemsChars _ some ordered,
            show level + (levels + 1) + 1 = level + 1 + levels + 1 by omega]
          exact (stops.bind _).inside (by dsimp only; omega)
  | object fields =>
      rw [depth] at deep
      rw [chars_object, openings]
      cases levels with
      | zero =>
          refine ⟨_, List.find?_cons_of_pos (by simp), ?_⟩
          rw [readNested, readValueWith, Input.skipSpaces_token (by decide)]
          rfl
      | succ levels =>
          have some : fields ≠ [] := by
            rintro rfl
            simp [depthOfFields] at deep
          have stops := readFields_tooDeep fields some (level + 1) (position + 1) rest ordered.2
            (show levels < depthOfFields fields by omega) (Nat.le_refl _)
          rw [readNested_brace, readObject_fieldsChars _ some,
            show level + (levels + 1) + 1 = level + 1 + levels + 1 by omega]
          exact (stops.bind _).inside (by dsimp only; omega)
termination_by sizeOf value

/-- Items in front of the first that is nested too deeply are read. -/
theorem readItems_tooDeep (items : List Value) (some : items ≠ []) {levels : Nat}
    (level position : Nat) {bound : Nat} (rest : List Char) (ordered : OrderedItems items)
    (deep : levels < depthOfItems items)
    (covered : (itemsChars items ++ ']' :: rest).length ≤ bound)
    : StopsAt (level + levels + 1) (openingsOfItems level position items)
        (readItems (readNested levels) bound ⟨itemsChars items ++ ']' :: rest, position⟩) := by
  match items with
  | [] => exact absurd rfl some
  | item :: others =>
      obtain ⟨first, ordered⟩ := ordered
      rw [depthOfItems] at deep
      obtain ⟨bound, rfl⟩ : ∃ left, bound = left + 1 := by
        simp only [List.length_append, List.length_cons] at covered
        exact ⟨bound - 1, by omega⟩
      rw [openingsOfItems, readItems]
      by_cases here : levels < item.depth
      · obtain ⟨behind, same⟩
            : ∃ behind, itemsChars (item :: others) ++ ']' :: rest = item.chars ++ behind := by
          by_cases none : others = []
          · exact ⟨']' :: rest, by rw [none, itemsChars]⟩
          · exact ⟨_, by rw [itemsChars_cons item none, List.append_assoc]⟩
        rw [same]
        exact ((readNested_tooDeep item level position behind first here).bind _).append_left _
      · have more : others ≠ [] := by
          rintro rfl
          simp [depthOfItems] at deep
          omega
        rw [itemsChars_cons item more, List.append_assoc, List.cons_append] at covered ⊢
        rw [readNested_chars first (by omega) (ends_cons (by decide) _) position]
        dsimp only [Bind.bind, Except.bind]
        rw [Input.skipSpaces_token (by decide)]
        have stops := readItems_tooDeep others more level
          (position + Utf8.size item.chars + 1) rest ordered
          (show levels < depthOfItems others by omega)
          (show (itemsChars others ++ ']' :: rest).length ≤ bound by
            simp only [List.length_append, List.length_cons] at covered ⊢
            omega)
        refine (stops.bind _).append_right fun opening member => ?_
        have := level_le_of_mem_openings item member
        omega
termination_by sizeOf items

/-- Fields in front of the first that is nested too deeply are read. -/
theorem readFields_tooDeep (fields : List (String × Value)) (some : fields ≠ [])
    {levels : Nat} (level position : Nat) {bound : Nat} (rest : List Char)
    (ordered : OrderedFields fields) (deep : levels < depthOfFields fields)
    (covered : (fieldsChars fields ++ '\x7d' :: rest).length ≤ bound)
    : StopsAt (level + levels + 1) (openingsOfFields level position fields)
        (readFields (readNested levels) bound
          ⟨fieldsChars fields ++ '\x7d' :: rest, position⟩) := by
  match fields with
  | [] => exact absurd rfl some
  | (name, value) :: others =>
      obtain ⟨first, ordered⟩ := ordered
      rw [depthOfFields] at deep
      obtain ⟨bound, rfl⟩ : ∃ left, bound = left + 1 := by
        simp only [List.length_append, List.length_cons] at covered
        exact ⟨bound - 1, by omega⟩
      rw [openingsOfFields, readFields]
      by_cases here : levels < value.depth
      · obtain ⟨behind, same⟩
            : ∃ behind,
                fieldsChars ((name, value) :: others) ++ '\x7d' :: rest
                  = quoted name ++ ':' :: (value.chars ++ behind) := by
          by_cases none : others = []
          · exact ⟨'\x7d' :: rest, by simp [none, fieldsChars]⟩
          · exact ⟨',' :: (fieldsChars others ++ '\x7d' :: rest), by
              simp [fieldsChars_cons name value none]⟩
        rw [same, readField_quoted]
        have stops := readNested_tooDeep value level (position + Utf8.size (quoted name) + 1)
          behind first here
        exact ((stops.bind _).bind _).append_left _
      · have more : others ≠ [] := by
          rintro rfl
          simp [depthOfFields] at deep
          omega
        rw [fieldsChars_cons name value more, List.append_assoc, List.cons_append,
          List.append_assoc, List.cons_append] at covered ⊢
        rw [readField_quoted, readNested_chars first (by omega) (ends_cons (by decide) _)]
        dsimp only [Bind.bind, Except.bind, Pure.pure, Except.pure]
        rw [Input.skipSpaces_token (by decide)]
        have stops := readFields_tooDeep others more level
          (position + Utf8.size (quoted name) + 1 + Utf8.size value.chars + 1) rest ordered
          (show levels < depthOfFields others by omega)
          (show (fieldsChars others ++ '\x7d' :: rest).length ≤ bound by
            simp only [List.length_append, List.length_cons] at covered ⊢
            omega)
        refine (stops.bind _).append_right fun opening member => ?_
        have := level_le_of_mem_openings value member
        omega
termination_by sizeOf fields

end

-----------------------------------------------------------------------------------------
-- Round trips
-----------------------------------------------------------------------------------------

namespace Value

theorem read_print_of_shallow {value : Value} (ordered : value.Ordered)
    (shallow : value.depth ≤ 512)
    : Value.read value.print = .ok value.readBack := by
  have spelled := spells_chars value ordered shallow ends_nil
  rw [List.append_nil] at spelled
  refine Value.read_of_spells ?_ spelled (.none _)
  rw [print, String.toList_ofList]
  exact .none _

theorem read_print_of_deep {value : Value} (ordered : value.Ordered)
    (deep : 512 < value.depth)
    : StopsAt 513 (value.openings 0 0) (Value.read value.print) := by
  have stops := readNested_tooDeep value 0 0 [] ordered (show nestingLimit < value.depth from deep)
  rw [List.append_nil, show 0 + nestingLimit + 1 = 513 from rfl] at stops
  have text : Value.read value.print
      = readNested nestingLimit ⟨value.chars, 0⟩ >>= fun found =>
          if found.2.skipSpaces.chars.isEmpty then return found.1
          else .error (.trailingCharacters found.2.skipSpaces.position) := by
    rw [Value.read, print, String.toList_ofList]
    rfl
  rw [text]
  exact stops.bind _

/-- A value that is written and read comes back with null in place of every number that is not
finite, unless more than 512 arrays and objects are inside one another. Then reading stops where
the first one that is inside 512 others opens.
-/
theorem read_print (value : Value) (ordered : value.Ordered)
    : (value.depth ≤ 512
        → ∃ result,
            Value.read value.print = .ok result
            ∧ result.equals value.withoutNonFinite = true)
      ∧ (512 < value.depth
        → ∃ opening,
            (value.openings 0 0).find? (·.level = 513) = some opening
            ∧ OpensIn value.chars 0 opening
            ∧ Value.read value.print = .error (.tooDeep 512 opening.position)) := by
  constructor
  · intro shallow
    exact ⟨value.readBack, read_print_of_shallow ordered shallow, value.readBack_equals⟩
  · intro deep
    obtain ⟨opening, found, error⟩ := read_print_of_deep ordered deep
    exact ⟨opening, found, openings_opensIn value (List.mem_of_find?_eq_some found), error⟩

/-- Arrays inside one another. -/
def nestedArrays : Nat → Value
  | 0 => .null
  | levels + 1 => .array [nestedArrays levels]

theorem depth_nestedArrays (levels : Nat) : (nestedArrays levels).depth = levels := by
  induction levels with
  | zero => rfl
  | succ levels ih => simp [nestedArrays, depth, depthOfItems, ih]

theorem ordered_nestedArrays (levels : Nat) : (nestedArrays levels).Ordered := by
  induction levels with
  | zero => trivial
  | succ levels ih => exact ⟨ih, trivial⟩

/-- The innermost of some arrays opens behind the brackets of the others. -/
theorem openings_nestedArrays (levels level position : Nat)
    : ((nestedArrays (levels + 1)).openings level position).find?
          (·.level = level + levels + 1)
        = some ⟨level + levels + 1, position + levels⟩ := by
  induction levels generalizing level position with
  | zero => exact List.find?_cons_of_pos (by simp)
  | succ levels ih =>
      have next := ih (level + 1) (position + 1)
      rw [show level + 1 + levels + 1 = level + (levels + 1) + 1 by omega,
        show position + 1 + levels = position + (levels + 1) by omega] at next
      rw [nestedArrays, openings, List.find?_cons_of_neg (by simp), openingsOfItems,
        openingsOfItems, List.append_nil, next]

/-- A number that is not finite. -/
def infinity : Value :=
  .number (.ofMagnitude false Number.infinityMagnitude)

/-- An object of a text that needs escapes and of numbers that change, and arrays that are one too
many.
-/
theorem read_print_of_object_and_arrays
    : (∃ result,
        Value.read
            (print (.object
              [("\n", .text "\"\\\x01"), ("zero", .number (.ofMagnitude true 0)),
                ("\u00fc", .array [infinity, .boolean true])]))
          = .ok result
        ∧ result.equals
            (.object
              [("\n", .text "\"\\\x01"), ("zero", .number (.ofMagnitude true 0)),
                ("\u00fc", .array [.null, .boolean true])])
          = true)
      ∧ Value.read (nestedArrays 513).print = .error (.tooDeep 512 512) := by
  constructor
  · have ordered : Ordered (.object
        [("\n", .text "\"\\\x01"), ("zero", .number (.ofMagnitude true 0)),
          ("\u00fc", .array [infinity, .boolean true])]) := by
      refine ⟨?_, trivial, trivial, ⟨trivial, trivial, trivial⟩, trivial⟩
      unfold Keyed.Sorted
      decide
    exact (read_print _ ordered).1 (by decide)
  · obtain ⟨opening, found, _, error⟩ :=
      (read_print (nestedArrays 513) (ordered_nestedArrays 513)).2
        (by rw [depth_nestedArrays]; decide)
    rw [openings_nestedArrays 512 0 0] at found
    obtain rfl := Option.some.inj found
    exact error

end Value

end LanguageClient.Json
