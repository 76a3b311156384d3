import LanguageClient.Proofs.Edit.Simultaneous
import LanguageClient.Proofs.Text.Utf8

/-! Edits that overlap. Their bytes are those of the original text, so a range that reaches into
one that has been replaced before it ends somewhere in the new text, and that may be in the middle
of a character. Ranges that do not overlap are the only ones that can always be replaced.
-/

namespace LanguageClient.TextEdit

-----------------------------------------------------------------------------------------
-- The bytes of ranges
-----------------------------------------------------------------------------------------

/-- The bytes from which and up to which a splice replaces. -/
def Splice.bytes (splice : Splice) : Nat × Nat :=
  (splice.start, splice.stop)

/-- The bytes of a range of a text, whichever end comes first. -/
def bytesOf (text : List Char) (range : Range) : Nat × Nat :=
  let start := byteOffset text range.start
  let stop := byteOffset text range.stop
  (min start stop, max start stop)

/-- The bytes of ranges of a text in the order in which they are replaced. -/
def replacedBytes (text : List Char) (ranges : List Range) : List (Nat × Nat) :=
  ((Range.lastFirst ranges).map (bytesOf text)).mergeSort fun left right => right.1 ≤ left.1

/-- The new texts of edits make no difference to the bytes that are replaced. -/
theorem map_bytes_splices (text : List Char) (edits : List TextEdit)
    : (splices text edits).map Splice.bytes = replacedBytes text (edits.map (·.range)) := by
  rw [replacedBytes, ← map_applicationOrder, List.map_map]
  have keys
      : ((applicationOrder edits).map (resolve text)).map Splice.bytes
        = (applicationOrder edits).map (bytesOf text ∘ (·.range)) := List.map_map
  rw [← keys, splices]
  exact List.map_mergeSort fun _ _ _ _ => rfl

/-- There are edits for any splices of the bytes of ranges, by induction on the ranges. -/
theorem exists_resolve_eq (text : List Char) (ranges : List Range) {made : List Splice}
    (bytes : made.map Splice.bytes = ranges.map (bytesOf text))
    : ∃ edits : List TextEdit,
        edits.map (·.range) = ranges ∧ edits.map (resolve text) = made := by
  induction ranges generalizing made with
  | nil => exact ⟨[], rfl, (List.map_eq_nil_iff.mp bytes).symm⟩
  | cons range ranges ih =>
      obtain ⟨splice, rest, rfl, here, later⟩ := List.map_eq_cons_iff.mp bytes
      obtain ⟨edits, same, resolved⟩ := ih later
      obtain ⟨start, stop⟩ := Prod.mk.inj here
      refine ⟨{ range, newText := String.ofList splice.newText } :: edits, ?_, ?_⟩
      · rw [List.map_cons, same]
      · rw [List.map_cons, resolved, resolve, String.toList_ofList]
        dsimp only
        rw [← start, ← stop]

/-- Whatever new texts the splices of ranges have in their order, there are edits with these. -/
theorem exists_splices_eq (text : List Char) (ranges : List Range) {made : List Splice}
    (bytes : made.map Splice.bytes = replacedBytes text ranges)
    : ∃ edits : List TextEdit, edits.map (·.range) = ranges ∧ splices text edits = made := by
  have trans (a b c : Nat × Nat) (first : decide (b.1 ≤ a.1) = true)
      (second : decide (c.1 ≤ b.1) = true) : decide (c.1 ≤ a.1) = true := by
    rw [decide_eq_true_eq] at *
    exact Nat.le_trans second first
  have total (a b : Nat × Nat) : (decide (b.1 ≤ a.1) || decide (a.1 ≤ b.1)) = true := by
    rw [Bool.or_eq_true, decide_eq_true_eq, decide_eq_true_eq]
    exact Nat.le_total _ _
  obtain ⟨unsorted, keys, sorted⟩ := exists_mergeSort_eq trans total Splice.bytes _ bytes
  obtain ⟨ordered, ranged, resolved⟩ := exists_resolve_eq text _ keys
  obtain ⟨edits, same, order⟩ := exists_applicationOrder_eq ranged
  refine ⟨edits, same, ?_⟩
  rw [splices, order, resolved]
  exact sorted

/-- The bytes of a range are between characters. -/
theorem fits_of_mem_splices {text : List Char} {edits : List TextEdit} {splice : Splice}
    (member : splice ∈ splices text edits)
    : splice.fits text = true := by
  obtain ⟨edit, -, rfl⟩ := List.mem_map.mp ((List.mergeSort_perm _ _).mem_iff.mp member)
  have start := Text.byteOffset_isBoundary text edit.range.start
  have stop := Text.byteOffset_isBoundary text edit.range.stop
  rw [Splice.fits, Bool.and_eq_true, Bool.and_eq_true, decide_eq_true_eq, resolve]
  dsimp only
  rcases Nat.le_total (byteOffset text edit.range.start) (byteOffset text edit.range.stop)
    with ordered | reversed
  · rw [Nat.min_eq_left ordered, Nat.max_eq_right ordered]
    exact ⟨⟨ordered, start⟩, stop⟩
  · rw [Nat.min_eq_right reversed, Nat.max_eq_left reversed]
    exact ⟨⟨reversed, stop⟩, start⟩

-----------------------------------------------------------------------------------------
-- Ranges that do not overlap
-----------------------------------------------------------------------------------------

/-- Splices that never reach behind the start of one made before can all be made. -/
theorem applyAll?_isSome_of_apart {edits : List TextEdit} {text : String}
    (apart
      : (replacedBytes text.toList (edits.map (·.range))).Pairwise fun first second =>
          second.2 ≤ first.1)
    : (applyAll? edits text).isSome = true := by
  rw [← map_bytes_splices, List.pairwise_map] at apart
  have sound : Ascending text.toList (splices text.toList edits).reverse := by
    refine ⟨fun splice member => ?_, List.pairwise_reverse.mpr apart⟩
    exact fits_of_mem_splices (List.mem_reverse.mp member)
  rw [applyAll?_of_ascending (List.reverse_reverse _).symm sound]
  rfl

-----------------------------------------------------------------------------------------
-- Ranges that overlap
-----------------------------------------------------------------------------------------

/-- Places behind the first characters of a text are found behind their bytes, by induction on
these characters.
-/
theorem isBoundary_append (front back : List Char) (byte : Nat)
    : isBoundary (front ++ back) (Text.Utf8.size front + byte) = isBoundary back byte := by
  induction front with
  | nil => rw [List.nil_append, Text.Utf8.size, Nat.zero_add]
  | cons char front ih =>
      have positive := char.utf8Size_pos
      have some : char.utf8Size + Text.Utf8.size front + byte ≠ 0 := by omega
      have rest
          : char.utf8Size + Text.Utf8.size front + byte - char.utf8Size
            = Text.Utf8.size front + byte := by omega
      have fits : decide (char.utf8Size ≤ char.utf8Size + Text.Utf8.size front + byte) = true :=
        decide_eq_true (by omega)
      rw [List.cons_append, Text.Utf8.size, isBoundary, rest, ih, fits, Bool.true_and]
      exact some

theorem size_replicate (count : Nat)
    : Text.Utf8.size (List.replicate count 'a') = count := by
  induction count with
  | zero => rfl
  | succ count ih =>
      have one : 'a'.utf8Size = 1 := rfl
      rw [List.replicate_succ, Text.Utf8.size, ih, one, Nat.add_comm]

/-- A new text with a character of two bytes in the middle of which some byte behind its start
ends up.
-/
def straddling (splice : Splice) (byte : Nat) : Splice :=
  { splice with newText := List.replicate (byte - splice.start - 1) 'a' ++ ['é'] }

/-- Behind such a splice the byte is no place between characters. -/
theorem not_isBoundary_of_straddling {splice : Splice} {text : List Char} {byte : Nat}
    (fits : (straddling splice byte).fits text = true) (inside : splice.start < byte)
    : isBoundary ((straddling splice byte).apply text) byte = false := by
  obtain ⟨first, last, ordered, within, start, -⟩ := fits_iff.mp fits
  have front : (splitAtByte text splice.start).1 = text.take first := by
    have cut := Text.splitAtByte_size text first
    rw [start] at cut
    exact congrArg Prod.fst cut
  let padding := List.replicate (byte - splice.start - 1) 'a'
  have size : Text.Utf8.size (text.take first ++ padding) + 1 = byte := by
    rw [Text.Utf8.size_append, size_replicate]
    change Text.Utf8.size (text.take first) = splice.start at start
    omega
  have made
      : (straddling splice byte).apply text
        = text.take first ++ padding ++ 'é' :: (splitAtByte text splice.stop).2 := by
    change (splitAtByte text splice.start).1 ++ (padding ++ ['é']) ++ _ = _
    rw [front, ← List.append_assoc, List.append_assoc]
    rfl
  rw [made, ← size, isBoundary_append]
  rfl

/-- If one of some splices reaches behind the start of one before, there are new texts that
keep them from being made. By induction on the splices: the first one that reaches too far
reaches into the one just before it.
-/
theorem exists_not_allFit {made : List Splice}
    (ordered : ∀ splice ∈ made, splice.start ≤ splice.stop)
    (overlap : ¬made.Pairwise fun first second => second.stop ≤ first.start)
    (text : List Char)
    : ∃ other : List Splice,
        other.map Splice.bytes = made.map Splice.bytes
        ∧ Splice.allFit other text = false := by
  induction made generalizing text with
  | nil => exact absurd List.Pairwise.nil overlap
  | cons splice rest ih =>
      have later (other : Splice) (member : other ∈ rest) : other.start ≤ other.stop :=
        ordered other (List.mem_cons_of_mem splice member)
      -- Starts and ends go backwards along `rest` if it does not overlap, so that only the splice
      -- next to this one can reach into it.
      by_cases apart : rest.Pairwise fun first second => second.stop ≤ first.start
      · cases rest with
        | nil => exact absurd (List.pairwise_singleton _ _) overlap
        | cons next rest =>
            have reaches : splice.start < next.stop := by
              refine Nat.lt_of_not_le fun before => overlap ?_
              refine List.pairwise_cons.mpr ⟨fun other member => ?_, apart⟩
              rcases List.mem_cons.mp member with rfl | member
              · exact before
              · have behind := (List.pairwise_cons.mp apart).1 other member
                have start := later next List.mem_cons_self
                omega
            refine ⟨straddling splice next.stop :: next :: rest, rfl, ?_⟩
            cases fits : (straddling splice next.stop).fits text with
            | false => rw [Splice.allFit, fits, Bool.false_and]
            | true =>
                have stuck := not_isBoundary_of_straddling fits reaches
                rw [Splice.allFit, Splice.allFit, Splice.fits.eq_def next, stuck, Bool.and_false,
                  Bool.false_and, Bool.and_false]
      · obtain ⟨other, bytes, stuck⟩ := ih later apart (splice.apply text)
        refine ⟨splice :: other, ?_, ?_⟩
        · rw [List.map_cons, List.map_cons, bytes]
        · rw [Splice.allFit, stuck, Bool.and_false]

/-- Edits of some ranges can be made, whatever their new texts are, exactly if each range ends
no later than any range that is replaced before it starts. Otherwise there are new texts with
which one of them is no longer of whole characters when its turn comes.
-/
theorem applies_whatever_texts_iff (text : String) (ranges : List Range)
    : (∀ edits : List TextEdit,
        edits.map (·.range) = ranges → (applyAll? edits text).isSome = true)
      ↔ (replacedBytes text.toList ranges).Pairwise fun first second =>
          second.2 ≤ first.1 := by
  constructor
  · intro applies
    let removals := ranges.map fun range => ({ range, newText := "" } : TextEdit)
    have same : removals.map (·.range) = ranges := by
      rw [List.map_map]
      exact List.map_id ranges
    have bytes := map_bytes_splices text.toList removals
    rw [same] at bytes
    rw [← bytes, List.pairwise_map]
    refine Classical.byContradiction fun overlap => ?_
    have ordered (splice : Splice) (member : splice ∈ splices text.toList removals)
        : splice.start ≤ splice.stop := by
      have fits := fits_of_mem_splices member
      rw [Splice.fits, Bool.and_eq_true, Bool.and_eq_true, decide_eq_true_eq] at fits
      exact fits.1.1
    obtain ⟨other, otherBytes, stuck⟩ := exists_not_allFit ordered overlap text.toList
    obtain ⟨edits, ranged, made⟩ :=
      exists_splices_eq text.toList ranges (otherBytes.trans bytes)
    have applied := applies edits ranged
    rw [applyAll?, made, stuck] at applied
    cases applied
  · rintro apart edits rfl
    exact applyAll?_isSome_of_apart apart

/-- Two removals, the second one of a part of the first one, as they arrive. -/
def nestedRemovals : Json.Value :=
  .array
    [
      .ofFields [("range", (ofPlaces 0 0 0 6 "").range.toValue)],
      .ofFields [("range", (ofPlaces 0 3 0 6 "").range.toValue)]
    ]

/-- The removal of a part of a range comes before that of the range, which then is longer than
the text.
-/
theorem nestedRemovals_do_not_apply
    : (listOfValue nestedRemovals).toOption = some [ofPlaces 0 0 0 6 "", ofPlaces 0 3 0 6 ""]
      ∧ applyAll? [ofPlaces 0 0 0 6 "", ofPlaces 0 3 0 6 ""] "abcdef" = none := by
  refine ⟨by decide +kernel, ?_⟩
  have order
      : splices "abcdef".toList [ofPlaces 0 0 0 6 "", ofPlaces 0 3 0 6 ""]
        = [{ start := 3, stop := 6, newText := [] }, { start := 0, stop := 6, newText := [] }] := by
    rw [splices, applicationOrder_pair, if_pos (by decide)]
    exact List.mergeSort_of_pairwise (by decide +kernel)
  rw [applyAll?, order]
  rfl

end LanguageClient.TextEdit
