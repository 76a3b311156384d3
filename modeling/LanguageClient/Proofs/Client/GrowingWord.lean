import LanguageClient.Editor.Workbench
import LanguageClient.Proofs.Client.CompletionRequests
import LanguageClient.Proofs.Client.FormattedText
import LanguageClient.Proofs.Completion.Words
import LanguageClient.Proofs.Editor.CarriageReturns
import LanguageClient.Proofs.Text.LineBytes

/-! The word before the cursor while text is typed behind it. A completion menu stays at the start
of the word exactly as long as word characters are typed, whatever the editor, and so it does while
they are typed key by key.
-/

namespace LanguageClient

open Text (isWordChar)

namespace Client

variable {σ : Type} [Host σ]

/-- What is on the line of the cursor before it. -/
def beforeCursor (host : σ) : List Char :=
  (lineChars host (Host.cursor host).line).take (Host.cursor host).column

/-- A text has been added at the cursor, which is on the same line, and behind the text. -/
structure Typed (before after : σ) (added : List Char) : Prop where
  line : (Host.cursor after).line = (Host.cursor before).line
  front : beforeCursor after = beforeCursor before ++ added

namespace Typed

variable {before after : σ} {added : List Char}

/-- The typed word starts where it did exactly if word characters have been added. -/
theorem start_iff (typed : Typed before after added)
    : (typedWord after).1 = (typedWord before).1
      ↔ ∀ char ∈ added, isWordChar char = true := by
  rw [← Word.start_append_iff typed.front, TextPoint.mk.injEq]
  exact and_iff_right typed.line

theorem word (typed : Typed before after added)
    (isWord : ∀ char ∈ added, isWordChar char = true)
    : (typedWord after).2 = (typedWord before).2 ++ String.ofList added := by
  rw [typedWord, typedWord, ← String.ofList_append, Word.before_append typed.front isWord]

end Typed

/-- A menu stays at its word as long as the typed word starts there, and else it is closed. -/
theorem updateCompletion_anchor {client : Client} {anchor : TextPoint}
    (completing : client.anchor = some anchor) (host : σ)
    : (client.updateCompletion host).1.anchor
      = if (typedWord host).1 = anchor then some anchor else none := by
  unfold updateCompletion
  rw [completing]
  dsimp only
  split
  · exact renderCompletion_anchor _ host
  · exact client.closeCompletion_anchor host

theorem documentChanged_anchor {client : Client} {anchor : TextPoint}
    (completing : client.anchor = some anchor) (host : σ)
    : (client.documentChanged host).1.anchor
      = if (typedWord host).1 = anchor then some anchor else none := by
  unfold documentChanged
  dsimp only
  split
  · refine updateCompletion_anchor ?_ host
    exact completing
  · exact updateCompletion_anchor completing host

theorem documentChanged_displayed (client : Client) (host : σ)
    : Displayed host (client.documentChanged host).2 :=
  (updateCompletion_displays _ host).host

/-- A menu at the typed word stays where it is exactly if word characters are added. -/
theorem Typed.anchor_iff {client : Client} {before after : σ} {added : List Char}
    (typed : Typed before after added) (atWord : client.anchor = some (typedWord before).1)
    : (client.updateCompletion after).1.anchor = client.anchor
      ↔ ∀ char ∈ added, isWordChar char = true := by
  rw [updateCompletion_anchor atWord, ← typed.start_iff, atWord]
  split
  · rename_i same
    exact iff_of_true rfl same
  · rename_i moved
    exact iff_of_false nofun moved

end Client

-----------------------------------------------------------------------------------------
-- Typing in an editor
-----------------------------------------------------------------------------------------

namespace Text

/-- Line breaks are no part of a word. -/
theorem ordinary_of_isWordChar {char : Char} (isWord : isWordChar char = true)
    : char ≠ '\n' ∧ char ≠ '\r' := by
  constructor
  all_goals
    rintro rfl
    exact absurd isWord (by decide +kernel)

/-- A line keeps what is before a column and an inserted character, as a carriage return is only
left out behind them.
-/
theorem take_inserted (line : List Char) (column : Nat) {char : Char} (ordinary : char ≠ '\r')
    : (withoutReturn (line.take column ++ [char] ++ line.drop column)).take (column + 1)
      = line.take column ++ [char] := by
  by_cases inside : column < line.length
  · have front : (line.take column ++ [char]).length = column + 1 := by
      simp [Nat.min_eq_left (Nat.le_of_lt inside)]
    have within
        : column + 1
          ≤ (withoutReturn (line.take column ++ [char] ++ line.drop column)).length := by
      rw [length_withoutReturn, List.length_append, front, List.length_drop]
      -- Even without a carriage return, one character less is behind the inserted one.
      split <;> omega
    rw [take_withoutReturn within, List.take_left' front]
  · -- The inserted character is the last one, and it is no carriage return.
    have past : line.length ≤ column := Nat.le_of_not_lt inside
    have kept : withoutReturn (line ++ [char]) = line ++ [char] :=
      (withoutReturn_eq_iff _).mpr (by simpa using ordinary)
    rw [List.take_of_length_le past, List.drop_of_length_le past, List.append_nil, kept]
    exact List.take_of_length_le (by simpa using past)

end Text

namespace LineEditor

variable {editor : LineEditor}

theorem lineChars_eq (editor : LineEditor) (line : Nat)
    : Client.lineChars editor line = (editor.buffer.line? line).getD [] := by
  change (((editor.buffer.line? line).map String.ofList).getD "").toList = _
  cases editor.buffer.line? line with
  | none => rfl
  | some chars => exact String.toList_ofList

/-- A character is inserted behind what is before the cursor, be the cursor past the end of its
line.
-/
theorem Lined.insert_typed (lined : editor.Lined) {char : Char}
    (ordinary : char ≠ '\n' ∧ char ≠ '\r')
    : Client.Typed editor (editor.insert (String.singleton char)) [char] := by
  have chars : (String.singleton char).toList = [char] := String.toList_singleton char
  have plain : '\n' ∉ (String.singleton char).toList := by
    rw [chars, List.mem_singleton]
    exact ordinary.1.symm
  have cursor : (editor.insert (String.singleton char)).cursor
      = { line := editor.cursor.line, column := editor.cursor.column + 1 } := by
    rw [cursor_insert, TextPoint.behind_of_plain _ plain, chars]
    rfl
  obtain ⟨line, found, inserted⟩ := lined.exists_line_insert plain
  constructor
  · change (editor.insert (String.singleton char)).cursor.line = editor.cursor.line
    rw [cursor]
  · change (Client.lineChars _ (editor.insert (String.singleton char)).cursor.line).take
        (editor.insert (String.singleton char)).cursor.column
      = (Client.lineChars editor editor.cursor.line).take editor.cursor.column ++ [char]
    rw [cursor, lineChars_eq, lineChars_eq, inserted, found, chars]
    exact Text.take_inserted line editor.cursor.column ordinary.2

/-- The lines of an editor and its cursor. -/
def place (editor : LineEditor) : TextBuffer × TextPoint :=
  (editor.buffer, editor.cursor)

theorem place_scrollToCursor (editor : LineEditor)
    : editor.scrollToCursor.place = editor.place := by
  obtain ⟨scrollTop, scrolled⟩ := editor.scrollToCursor_eq
  rw [scrolled]
  rfl

theorem place_displayed {shown : LineEditor} (displayed : Displayed editor shown)
    : shown.place = editor.place :=
  displayed.keeps (fun _ _ => rfl) (fun _ _ => rfl) (fun _ => rfl)

theorem typedWord_of_place {other : LineEditor} (same : other.place = editor.place)
    : Client.typedWord other = Client.typedWord editor := by
  obtain ⟨buffer, cursor⟩ := Prod.mk.inj same
  have lines (line : Nat) : Client.lineChars other line = Client.lineChars editor line := by
    rw [lineChars_eq, lineChars_eq, buffer]
  have point : Host.cursor other = Host.cursor editor := cursor
  rw [Client.typedWord, Client.typedWord, point, lines]

theorem Lined.of_place (lined : editor.Lined) {other : LineEditor}
    (same : other.place = editor.place)
    : other.Lined := by
  obtain ⟨buffer, cursor⟩ := Prod.mk.inj same
  exact ⟨by rw [buffer]; exact lined.buffer, by rw [buffer, cursor]; exact lined.cursor⟩

end LineEditor

-----------------------------------------------------------------------------------------
-- Keys
-----------------------------------------------------------------------------------------

namespace Workbench

open Client (typedWord)

variable {bench : Workbench}

/-- The cursor is on a line, and a completion menu at the word before it. -/
structure AtWord (bench : Workbench) : Prop where
  lined : bench.editor.Lined
  anchor : bench.client.anchor = some (typedWord bench.editor).1

/-- A menu has stayed at its word, and the word has got longer. -/
structure Grows (before after : Workbench) (added : List Char) : Prop where
  atWord : after.AtWord
  anchor : after.client.anchor = before.client.anchor
  word : (typedWord after.editor).2 = (typedWord before.editor).2 ++ String.ofList added

theorem dismissMessage_client (bench : Workbench) : bench.dismissMessage.client = bench.client := by
  unfold dismissMessage
  split <;> rfl

theorem dismissMessage_place (bench : Workbench)
    : bench.dismissMessage.editor.place = bench.editor.place := by
  unfold dismissMessage
  split <;> rfl

/-- A key that types a character does so whether a menu is open or not. -/
theorem press_char (bench : Workbench) {press : KeyPress} {char : Char}
    (key : press.key = .char char) (plain : press.control = false)
    : bench.press press = bench.dismissMessage.insert (String.singleton char) := by
  obtain ⟨_, _, shift⟩ := press
  obtain rfl := key
  obtain rfl := plain
  have typed (bench : Workbench)
      : bench.pressInText { key := .char char, shift } = bench.insert (String.singleton char) :=
    rfl
  unfold Workbench.press
  -- An open menu leaves such a key to the text.
  dsimp only [pressInMenu]
  rw [typed, ite_self]

/-- A word character makes the word longer: the client follows it to a cursor that the overlay of
the menu leaves where it is.
-/
theorem AtWord.insert (atWord : bench.AtWord) {char : Char} (isWord : isWordChar char = true)
    : bench.Grows (bench.insert (String.singleton char)) [char] := by
  let edited := bench.editor.insert (String.singleton char)
  let followed := bench.client.documentChanged edited.scrollToCursor
  have typed : Client.Typed bench.editor edited [char] :=
    atWord.lined.insert_typed (Text.ordinary_of_isWordChar isWord)
  have added : ∀ other ∈ [char], isWordChar other = true :=
    fun other listed => List.mem_singleton.mp listed ▸ isWord
  have start : (typedWord edited).1 = (typedWord bench.editor).1 := typed.start_iff.mpr added
  have scrolled : edited.scrollToCursor.place = edited.place := edited.place_scrollToCursor
  have shown : followed.2.place = edited.place :=
    (LineEditor.place_displayed (bench.client.documentChanged_displayed _)).trans scrolled
  have word : typedWord followed.2 = typedWord edited := LineEditor.typedWord_of_place shown
  have anchor : followed.1.anchor = bench.client.anchor := by
    rw [Client.documentChanged_anchor atWord.anchor, LineEditor.typedWord_of_place scrolled, start,
      if_pos rfl, atWord.anchor]
  have lined : followed.2.Lined := (atWord.lined.insert _).of_place shown
  have inserted
      : bench.insert (String.singleton char)
        = { bench with client := followed.1, editor := followed.2 } :=
    rfl
  rw [inserted]
  refine ⟨⟨lined, ?_⟩, anchor, ?_⟩
  · dsimp only
    rw [anchor, word, start, atWord.anchor]
  · dsimp only
    rw [word, typed.word added]

theorem AtWord.dismissMessage (atWord : bench.AtWord) : bench.dismissMessage.AtWord where
  lined := atWord.lined.of_place bench.dismissMessage_place
  anchor := by
    rw [bench.dismissMessage_client, LineEditor.typedWord_of_place bench.dismissMessage_place,
      atWord.anchor]

/-- A key that types a word character makes the word longer by it. -/
theorem AtWord.press (atWord : bench.AtWord) {press : KeyPress} {char : Char}
    (key : press.key = .char char) (plain : press.control = false)
    (isWord : isWordChar char = true)
    : bench.Grows (bench.press press) [char] := by
  obtain ⟨after, anchor, word⟩ := atWord.dismissMessage.insert isWord
  rw [bench.dismissMessage_client] at anchor
  rw [LineEditor.typedWord_of_place bench.dismissMessage_place] at word
  rw [press_char bench key plain]
  exact ⟨after, anchor, word⟩

/-- Keys that type word characters make the word longer by all of them, by induction on the keys.
-/
theorem AtWord.pressAll (atWord : bench.AtWord) {presses : List KeyPress} {word : List Char}
    (keys : presses.map (·.key) = word.map .char)
    (plain : ∀ press ∈ presses, press.control = false)
    (isWord : ∀ char ∈ word, isWordChar char = true)
    : bench.Grows (presses.foldl Workbench.press bench) word := by
  induction presses generalizing bench word with
  | nil =>
      obtain rfl := List.map_eq_nil_iff.mp keys.symm
      exact ⟨atWord, rfl, by simp⟩
  | cons press rest ih =>
      obtain ⟨char, others, rfl, key, keys⟩ := List.map_eq_cons_iff.mp keys.symm
      obtain ⟨plainFirst, plainRest⟩ := List.forall_mem_cons.mp plain
      obtain ⟨isWordFirst, isWordRest⟩ := List.forall_mem_cons.mp isWord
      have first := atWord.press key.symm plainFirst isWordFirst
      have later := ih first.atWord keys.symm plainRest isWordRest
      refine ⟨later.atWord, later.anchor.trans first.anchor, ?_⟩
      rw [List.foldl_cons, later.word, first.word, String.append_assoc, ← String.ofList_append,
        List.singleton_append]

end Workbench

namespace Client

/-- The word before a column is the longest one that ends there, in a line of any characters and at
any column, be it past the end: nothing else is a longest word, and the bytes that cut the word out
of the line are in order, within the line and between characters. Two columns have words that start
in one place exactly if word characters alone are between them. So a completion menu stays at its
word exactly if word characters are added, and keys that type them leave it where it is.
-/
theorem menu_keeps_to_longest_word
    : (∀ (line : String) (column : Nat),
        let chars := line.toList
        let span := Word.span chars column
        Word.Longest chars column (Word.start chars column) (Word.before chars column)
        ∧ (∀ start word,
            Word.Longest chars column start word
            → start = Word.start chars column ∧ word = Word.before chars column)
        ∧ Word.cut? chars column = some (Word.start chars column, Word.before chars column)
        ∧ span.start ≤ span.stop
        ∧ span.stop ≤ line.utf8ByteSize
        ∧ String.Pos.Raw.IsValid line ⟨span.start⟩
        ∧ String.Pos.Raw.IsValid line ⟨span.stop⟩)
      ∧ (∀ (line : String) (column behind : Nat),
        column ≤ behind
        → (Word.start line.toList behind = Word.start line.toList column
          ↔ ∀ char ∈ (line.toList.take behind).drop column, isWordChar char = true))
      ∧ (∀ (σ : Type) [Host σ] (client : Client) (before after : σ) (added : List Char),
        Typed before after added
        → client.anchor = some (typedWord before).1
        → ((client.updateCompletion after).1.anchor = client.anchor
          ↔ ∀ char ∈ added, isWordChar char = true))
      ∧ (∀ (bench : Workbench) (presses : List KeyPress) (word : List Char),
        bench.AtWord
        → presses.map (·.key) = word.map .char
        → (∀ press ∈ presses, press.control = false)
        → (∀ char ∈ word, isWordChar char = true)
        → bench.Grows (presses.foldl Workbench.press bench) word) := by
  refine ⟨fun line column => ?_, fun line column behind => Word.start_eq_iff, ?_, ?_⟩
  · have longest := Word.longest_before line.toList column
    have cut := Word.cut?_eq line.toList column
    exact ⟨longest, fun start word => Word.Longest.unique, cut, Word.span_between line column⟩
  · exact fun σ _ client before after added typed => typed.anchor_iff
  · exact fun bench presses word atWord keys plain isWord => atWord.pressAll keys plain isWord

/-- The editor of a word, with more of the word behind what has been typed. -/
def longerWordEditor : RecordedEditor :=
  { wordEditor with
    buffer := .ofText "foé_\nbar\nbaz".toList
    cursor := { line := 0, column := 4 } }

/-- An editor at work on the same word, for which a server has been asked. -/
def wordBench : Workbench where
  editor :=
    {
      files := {}
      path := "/a"
      language := "rust"
      buffer := .ofText "fo\nbar\nbaz".toList
      cursor := { line := 0, column := 2 }
    }
  client := triggeredState.1
  launch := none

/-- A word with accents behind a space, with columns in it and past it, and one that gets longer.
-/
theorem menu_keeps_to_longest_word_of_accents
    : (Word.Longest "let été".toList 99 4 "été".toList
        ∧ Word.start "let été".toList 99 = 4
        ∧ Word.cut? "let été".toList 99 = some (4, "été".toList))
      ∧ (5 ≤ 7 ∧ Word.start "let été".toList 7 = Word.start "let été".toList 5)
      ∧ (Typed wordEditor longerWordEditor ['é', '_']
        ∧ triggeredState.1.anchor = some (typedWord wordEditor).1
        ∧ (triggeredState.1.updateCompletion longerWordEditor).1.anchor
          = triggeredState.1.anchor)
      ∧ (wordBench.AtWord
        ∧ wordBench.Grows
            ([{ key := .char 'é' }, { key := .char 'T', shift := true }].foldl Workbench.press
              wordBench)
            ['é', 'T']) := by
  obtain ⟨words, columns, followed, pressed⟩ := menu_keeps_to_longest_word
  obtain ⟨_, unique, cut, _⟩ := words "let été" 99
  have longest : Word.Longest "let été".toList 99 4 "été".toList :=
    ⟨by decide, by decide, List.all_eq_true.mp (by decide +kernel),
      .inr ⟨' ', by decide, by decide +kernel⟩⟩
  obtain ⟨start, word⟩ := unique 4 "été".toList longest
  have typed : Typed wordEditor longerWordEditor ['é', '_'] := ⟨rfl, by decide⟩
  have completing : triggeredState.1.anchor = some (typedWord wordEditor).1 := by
    decide +kernel
  have atWord : wordBench.AtWord := ⟨⟨by decide, by decide⟩, by decide +kernel⟩
  refine ⟨⟨longest, start.symm, ?_⟩, ⟨by decide, ?_⟩, ⟨typed, completing, ?_⟩, atWord, ?_⟩
  · rw [cut, ← start, ← word]
  · exact (columns "let été" 5 7 (by decide)).mpr (List.all_eq_true.mp (by decide +kernel))
  · exact (followed _ _ _ _ _ typed completing).mpr (List.all_eq_true.mp (by decide +kernel))
  · exact pressed wordBench _ _ atWord (by decide) (by decide)
      (List.all_eq_true.mp (by decide +kernel))

end Client

end LanguageClient
