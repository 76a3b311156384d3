import LanguageClient.Proofs.Uri

/-! Paths in URIs, however they are spelled. Every character but the percent sign may stand for
itself and every byte may be given by its value; what is read is the path that has been spelled.
-/

namespace LanguageClient.Uri

open Json (HexDigit)

-----------------------------------------------------------------------------------------
-- Spellings
-----------------------------------------------------------------------------------------

/-- Bytes that are all given by their values, in hexadecimal digits of either case. -/
inductive Values : List UInt8 → List Char → Prop where
  | none : Values [] []
  | value {byte : UInt8} {bytes : List UInt8} {written : List Char} {high low : Char}
      (first : HexDigit high (byte.toNat / 16)) (second : HexDigit low (byte.toNat % 16))
      (more : Values bytes written)
      : Values (byte :: bytes) ('%' :: high :: low :: written)

/-- A text and a spelling of it: a character is left as it is, unless it is a percent sign, or all
of its bytes are given by their values.
-/
inductive Spelling : List Char → List Char → Prop where
  | none : Spelling [] []
  | itself {char : Char} {text written : List Char} (stands : char ≠ '%')
      (more : Spelling text written)
      : Spelling (char :: text) (char :: written)
  | values {char : Char} {text values written : List Char}
      (spelled : Values (String.utf8EncodeChar char) values) (more : Spelling text written)
      : Spelling (char :: text) (values ++ written)

-----------------------------------------------------------------------------------------
-- Reading
-----------------------------------------------------------------------------------------

/-- Values are read as their bytes, whatever follows them. -/
theorem Values.decodeBytes_append {bytes : List UInt8} {values : List Char}
    (spelled : Values bytes values) (rest : List Char)
    : decodeBytes (values ++ rest) = bytes ++ decodeBytes rest := by
  induction spelled with
  | none => rfl
  | value first second more ih =>
      rw [List.cons_append, List.cons_append, List.cons_append, decodeBytes,
        encodedByte?_of_digits first second, ih, List.cons_append]

/-- A character that is no percent sign is read as its bytes. -/
theorem decodeBytes_cons {char : Char} (stands : char ≠ '%') (rest : List Char)
    : decodeBytes (char :: rest) = String.utf8EncodeChar char ++ decodeBytes rest :=
  decodeBytes.eq_3 char rest fun _ _ _ percent => absurd percent stands

/-- The bytes of a text are read from every spelling of it. -/
theorem Spelling.decodeBytes_eq {text written : List Char} (spelling : Spelling text written)
    : decodeBytes written = text.flatMap String.utf8EncodeChar := by
  induction spelling with
  | none => rfl
  | itself stands more ih => rw [decodeBytes_cons stands, ih, List.flatMap_cons]
  | values spelled more ih => rw [spelled.decodeBytes_append, ih, List.flatMap_cons]

/-- A path from the root is spelled without a host: it starts with its slash or a percent sign. -/
theorem Spelling.head {path : String} (absolute : Path.isAbsolute path = true)
    {written : List Char} (spelling : Spelling path.toList written)
    : ∃ first rest, written = first :: rest ∧ first ≠ 'l' := by
  obtain ⟨names, slash⟩ := List.head?_eq_some_iff.mp (beq_iff_eq.mp absolute)
  rw [slash] at spelling
  cases spelling with
  | itself stands more => exact ⟨_, _, rfl, by decide⟩
  | values spelled more =>
      cases spelled with
      | value first second others => exact ⟨_, _, rfl, by decide⟩

/-- A spelling of a path from the root names it, behind no host or behind this one. -/
theorem Spelling.names {path : String} (absolute : Path.isAbsolute path = true)
    {written host : List Char} (spelling : Spelling path.toList written)
    (either : host = [] ∨ host = localHost)
    : toPath? (.ofList (scheme ++ host ++ written)) = some path := by
  have bytes : decodeBytes written = Text.Utf8.encode path := spelling.decodeBytes_eq
  rw [toPath?_of_host either (spelling.head absolute) String.toList_ofList, bytes,
    Text.Utf8.decodeLossy_encode]

/-- Whatever spelling of a path from the root stands in a URI, and whether the host is left out or
is this one, the path is what the URI names. So it is with the spelling that is the client's own.
-/
theorem spelling_names_path (path : String) (absolute : Path.isAbsolute path = true)
    : (∀ written,
        Spelling path.toList written
        → toPath? (.ofList (scheme ++ written)) = some path
          ∧ toPath? (.ofList (scheme ++ localHost ++ written)) = some path)
      ∧ toPath? (ofAbsolutePath path) = some path := by
  refine ⟨fun written spelling => ⟨?_, ?_⟩, (spells_ofAbsolutePath absolute).toPath?_eq⟩
  · have named := spelling.names absolute (Or.inl rfl)
    rwa [List.append_nil] at named
  · exact spelling.names absolute (Or.inr rfl)

/-- A path with a character of two bytes in both spellings, its slash given by its value. -/
theorem spelling_names_path_of_mixed
    : Path.isAbsolute "/é é%" = true
      ∧ Spelling "/é é%".toList "%2fé %c3%A9%25".toList
      ∧ toPath? "file://%2fé %c3%A9%25" = some "/é é%"
      ∧ toPath? "file://localhost%2fé %c3%A9%25" = some "/é é%" := by
  have absolute : Path.isAbsolute "/é é%" = true := by decide +kernel
  have slash : Values (String.utf8EncodeChar '/') ['%', '2', 'f'] :=
    .value (by decide) (by decide) .none
  have accented : Values (String.utf8EncodeChar 'é') ['%', 'c', '3', '%', 'A', '9'] :=
    .value (by decide) (by decide) (.value (by decide) (by decide) .none)
  have percent : Values (String.utf8EncodeChar '%') ['%', '2', '5'] :=
    .value (by decide) (by decide) .none
  have spelling : Spelling "/é é%".toList "%2fé %c3%A9%25".toList :=
    .values slash
      (.itself (by decide) (.itself (by decide) (.values accented (.values percent .none))))
  obtain ⟨named, _⟩ := spelling_names_path "/é é%" absolute
  exact ⟨absolute, spelling, named _ spelling⟩

end LanguageClient.Uri
