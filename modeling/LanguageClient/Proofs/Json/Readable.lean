import LanguageClient.Proofs.Frame.Chunks
import LanguageClient.Proofs.Json.RoundTrip
import LanguageClient.Proofs.Text.Utf8

/-! What reading can give. Such a value can be written and read once more, and what comes back
equals it.
-/

namespace LanguageClient.Json

/-- The fields that are kept are among those that are written. -/
theorem KeepsLast.mem {written : List (String × Value)} {fields : Fields}
    (kept : KeepsLast written fields) {field : String × Value} (listed : field ∈ fields)
    : field ∈ written := by
  obtain ⟨name, value⟩ := field
  have found := (kept.2 name).symm.trans (kept.1.get?_of_mem listed)
  exact List.mem_reverse.mp (Keyed.mem_of_get? found)

namespace Value

-----------------------------------------------------------------------------------------
-- Items and fields
-----------------------------------------------------------------------------------------

theorem orderedItems_iff (items : List Value)
    : OrderedItems items ↔ ∀ item ∈ items, item.Ordered := by
  induction items with
  | nil => simp [OrderedItems]
  | cons item rest ih => rw [OrderedItems, ih, List.forall_mem_cons]

theorem orderedFields_iff (fields : List (String × Value))
    : OrderedFields fields ↔ ∀ field ∈ fields, field.2.Ordered := by
  induction fields with
  | nil => simp [OrderedFields]
  | cons field rest ih => rw [OrderedFields, ih, List.forall_mem_cons]

theorem depthOfItems_le_iff {levels : Nat} (items : List Value)
    : depthOfItems items ≤ levels ↔ ∀ item ∈ items, item.depth ≤ levels := by
  induction items with
  | nil => simp [depthOfItems]
  | cons item rest ih => rw [depthOfItems, Nat.max_le, ih, List.forall_mem_cons]

theorem depthOfFields_le_iff {levels : Nat} (fields : List (String × Value))
    : depthOfFields fields ≤ levels ↔ ∀ field ∈ fields, field.2.depth ≤ levels := by
  induction fields with
  | nil => simp [depthOfFields]
  | cons field rest ih => rw [depthOfFields, Nat.max_le, ih, List.forall_mem_cons]

theorem mapItems_eq (change : Number → Value) (items : List Value)
    : mapItems change items = items.map (·.mapNumbers change) := by
  induction items with
  | nil => rfl
  | cons item rest ih => rw [mapItems, ih, List.map_cons]

/-- A change of the numbers is seen in every field. -/
theorem get?_mapNumbers {change : Number → Value} (value : Value) (name : String)
    (plain : ∀ number, (change number).asObject? = none)
    : (value.mapNumbers change).get? name = (value.get? name).map (·.mapNumbers change) := by
  cases value with
  | number number =>
      rw [mapNumbers, get?, plain]
      rfl
  | object fields =>
      rw [mapNumbers, mapFields_eq]
      exact Keyed.get?_map _ fields name
  | null | boolean _ | text _ | array _ => rfl

/-- What comes back of a field is the field of what comes back. -/
theorem get?_readBack (value : Value) (name : String)
    : value.readBack.get? name = (value.get? name).map readBack := by
  refine value.get?_mapNumbers name fun number => ?_
  unfold Number.readBack
  split <;> rfl

-----------------------------------------------------------------------------------------
-- Readable values
-----------------------------------------------------------------------------------------

/-- A value as reading gives it: with its fields in order, not nested too deeply, and without
numbers that are not finite.
-/
structure Readable (levels : Nat) (value : Value) : Prop where
  ordered : value.Ordered
  shallow : value.depth ≤ levels
  finite : value.withoutNonFinite = value

namespace Readable

variable {levels : Nat}

theorem null (levels : Nat) : Readable levels .null :=
  ⟨trivial, Nat.zero_le _, rfl⟩

theorem text (levels : Nat) (content : String) : Readable levels (.text content) :=
  ⟨trivial, Nat.zero_le _, rfl⟩

theorem number (levels : Nat) {number : Number} (finite : number.isFinite = true)
    : Readable levels (.number number) :=
  ⟨trivial, Nat.zero_le _, by rw [withoutNonFinite, mapNumbers, if_pos finite]⟩

theorem array {items : List Value} (readable : ∀ item ∈ items, item.Readable levels)
    : Readable (levels + 1) (.array items) where
  ordered := (orderedItems_iff items).mpr fun item listed => (readable item listed).ordered
  shallow := by
    refine Nat.succ_le_succ ((depthOfItems_le_iff items).mpr fun item listed => ?_)
    exact (readable item listed).shallow
  finite := by
    rw [withoutNonFinite, mapNumbers, mapItems_eq]
    refine congrArg Value.array ((List.map_congr_left fun item listed => ?_).trans
      (List.map_id items))
    exact (readable item listed).finite

theorem object {fields : Fields} (sorted : fields.Sorted)
    (readable : ∀ field ∈ fields, field.2.Readable levels)
    : Readable (levels + 1) (.object fields) where
  ordered := by
    refine ⟨sorted, (orderedFields_iff fields).mpr fun field listed => ?_⟩
    exact (readable field listed).ordered
  shallow := by
    refine Nat.succ_le_succ ((depthOfFields_le_iff fields).mpr fun field listed => ?_)
    exact (readable field listed).shallow
  finite := by
    rw [withoutNonFinite, mapNumbers, mapFields_eq]
    refine congrArg Value.object ((List.map_congr_left fun field listed => ?_).trans
      (List.map_id fields))
    exact Prod.ext rfl (readable field listed).finite

/-- An object may be written down with its fields in any order. -/
theorem ofFields {written : List (String × Value)}
    (readable : ∀ field ∈ written, field.2.Readable levels)
    : Readable (levels + 1) (.ofFields written) := by
  have kept := (keepsLast_iff written (Keyed.ofList written)).mpr rfl
  exact .object kept.1 fun field listed => readable field (kept.mem listed)

/-- A field is inside one object less. -/
theorem field {value inner : Value} (readable : value.Readable (levels + 1)) {name : String}
    (found : value.get? name = some inner)
    : inner.Readable levels := by
  cases value with
  | object fields =>
      have listed : (name, inner) ∈ fields := Keyed.mem_of_get? found
      refine ⟨?_, ?_, ?_⟩
      · exact (orderedFields_iff fields).mp readable.ordered.2 _ listed
      · exact (depthOfFields_le_iff fields).mp (Nat.le_of_succ_le_succ readable.shallow) _ listed
      · have kept := Value.object.inj readable.finite
        rw [mapFields_eq] at kept
        have same := List.map_inj_left.mp (kept.trans (List.map_id fields).symm) _ listed
        exact (Prod.mk.inj same).2
  | null | boolean _ | number _ | text _ | array _ => cases found

/-- What is written of a readable value is read again. -/
theorem readBytes_print {value : Value} (readable : value.Readable nestingLimit)
    : Value.readBytes (Text.Utf8.encode value.print) = .ok value.readBack := by
  rw [readBytes, Text.Utf8.decode_encode]
  exact read_print_of_shallow readable.ordered readable.shallow

/-- What comes back equals the value. -/
theorem readBack_equals {value : Value} (readable : value.Readable levels)
    : value.readBack.equals value = true := by
  have equal := value.readBack_equals
  rwa [readable.finite] at equal

end Readable

end Value

-----------------------------------------------------------------------------------------
-- What is read
-----------------------------------------------------------------------------------------

open Value

/-- What is spelled in so many levels is readable in them. -/
def SpellsReadable (levels : Nat) : Prop :=
  ∀ text value rest, Spells levels text value rest → value.Readable levels

theorem SpellsItems.readable {levels : Nat} (inside : SpellsReadable levels)
    {items : List Value} {text rest : List Char} (spelled : SpellsItems levels text items rest)
    : ∀ item ∈ items, item.Readable levels := by
  induction items generalizing text with
  | nil => nofun
  | cons item items ih =>
      cases spelled with
      | last before spelled after => exact List.forall_mem_singleton.mpr (inside _ _ _ spelled)
      | more before spelled after others =>
          exact List.forall_mem_cons.mpr ⟨inside _ _ _ spelled, ih others⟩

theorem SpellsField.readable {levels : Nat} (inside : SpellsReadable levels)
    {field : String × Value} {text rest : List Char}
    (spelled : SpellsField levels text field rest)
    : field.2.Readable levels := by
  cases spelled with
  | field beforeName quoted beforeColon before spelled => exact inside _ _ _ spelled

theorem SpellsFields.readable {levels : Nat} (inside : SpellsReadable levels)
    {fields : List (String × Value)} {text rest : List Char}
    (spelled : SpellsFields levels text fields rest)
    : ∀ field ∈ fields, field.2.Readable levels := by
  induction fields generalizing text with
  | nil => nofun
  | cons field fields ih =>
      cases spelled with
      | last spelled after => exact List.forall_mem_singleton.mpr (spelled.readable inside)
      | more spelled after others =>
          exact List.forall_mem_cons.mpr ⟨spelled.readable inside, ih others⟩

/-- What is spelled is readable, by induction on the levels of nesting. -/
theorem spellsReadable (levels : Nat) : SpellsReadable levels := by
  induction levels using Nat.strongRecOn with
  | ind levels ih =>
      intro text value rest spelled
      cases spelled with
      | null => exact .null levels
      | truth | falsity => exact ⟨trivial, Nat.zero_le _, rfl⟩
      | number _ written longest finite => exact ⟨trivial, Nat.zero_le _, if_pos finite⟩
      | text _ quoted => exact .text levels _
      | emptyArray _ blanks => exact .array nofun
      | emptyObject _ blanks => exact .object Keyed.Sorted.nil nofun
      | @array inner _ _ _ spelled =>
          exact .array (spelled.readable (ih inner (Nat.lt_succ_self inner)))
      | @object inner _ _ _ _ spelled kept =>
          refine .object kept.1 fun field listed => ?_
          exact spelled.readable (ih inner (Nat.lt_succ_self inner)) field (kept.mem listed)

theorem Value.readable_of_readBytes {bytes : List UInt8} {value : Value}
    (read : Value.readBytes bytes = .ok value)
    : value.Readable nestingLimit := by
  unfold Value.readBytes at read
  split at read
  · cases read
  · obtain ⟨start, rest, _, spelled, _⟩ := (Value.read_ok_iff _ value).mp read
    exact spellsReadable nestingLimit start value rest spelled

end Json

open Json (Value)

/-- The messages of a stream are readable. -/
theorem Framer.feed_readable (framer : Framer) (chunk : List UInt8)
    : ∀ message ∈ (framer.feed chunk).1, message.Readable Json.nestingLimit := by
  intro message listed
  obtain ⟨body, _, read⟩ := List.mem_filterMap.mp listed
  cases decoded : Value.readBytes body with
  | error error =>
      rw [decoded] at read
      cases read
  | ok value =>
      rw [decoded] at read
      obtain rfl := Option.some.inj read
      exact Value.readable_of_readBytes decoded

end LanguageClient
