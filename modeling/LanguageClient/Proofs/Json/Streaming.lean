import LanguageClient.Proofs.Json.Behind
import LanguageClient.Proofs.Json.Readable
import LanguageClient.Proofs.Json.Shifts

/-! Documents one after the other. Reading from a byte of a text depends on nothing in front of
that byte and gives up what it does not need of what follows, so that a stream of documents is
read by starting over where the one before ended.
-/

namespace LanguageClient.Json

open Text (Utf8.size utf8ByteSize_eq utf8ByteSize_ofList)

-----------------------------------------------------------------------------------------
-- Texts inside texts
-----------------------------------------------------------------------------------------

/-- What reading from a byte gives in a text that starts so many bytes further on. -/
def Value.shiftRead (bytes : Nat)
    : Except SyntaxError (Value × Nat) → Except SyntaxError (Value × Nat)
  | .error error => .error (error.shift bytes)
  | .ok (value, stop) => .ok (value, bytes + stop)

/-- From the byte behind some characters on, what follows them is read. -/
theorem Value.readFrom_append (front back : List Char)
    : Value.readFrom (String.ofList (front ++ back)) (Utf8.size front)
      = (readValue ⟨back, Utf8.size front⟩).map fun read => (read.1, read.2.position) := by
  have inside : ¬ Utf8.size front > (String.ofList (front ++ back)).utf8ByteSize := by
    rw [utf8ByteSize_ofList, Text.Utf8.size_append]
    omega
  rw [readFrom, if_neg inside, String.toList_ofList, charsFromByte?_append]

theorem Value.readFrom_zero (text : String)
    : Value.readFrom text 0
      = (readValue ⟨text.toList, 0⟩).map fun read => (read.1, read.2.position) := by
  simpa [Utf8.size] using readFrom_append [] text.toList

/-- With more text in front the same is read. -/
theorem Value.readFrom_behind (before text : String)
    : Value.readFrom (before ++ text) before.utf8ByteSize
      = Value.shiftRead before.utf8ByteSize (Value.readFrom text 0) := by
  have behind := readFrom_append before.toList text.toList
  have shifted := readNested_shift nestingLimit before.utf8ByteSize ⟨text.toList, 0⟩
  rw [← String.toList_append, String.ofList_toList, ← utf8ByteSize_eq] at behind
  rw [behind, readFrom_zero]
  change readValue ⟨text.toList, before.utf8ByteSize⟩
    = shiftOutcome _ (readValue ⟨text.toList, 0⟩) at shifted
  rw [shifted]
  cases readValue ⟨text.toList, 0⟩ <;> rfl

/-- The part of a text that a value takes is read alike on its own. -/
theorem Value.readFrom_taken {text : String} {value : Value} {stop : Nat}
    (read : Value.readFrom text 0 = .ok (value, stop))
    : ∃ taken rest,
        text = taken ++ rest
        ∧ stop = taken.utf8ByteSize
        ∧ Value.readFrom taken 0 = .ok (value, stop) := by
  rw [readFrom_zero] at read
  obtain ⟨⟨_, last⟩, given, same⟩ := exists_of_map_ok read
  obtain ⟨rfl, rfl⟩ := Prod.mk.inj same
  obtain ⟨taken, split, kept⟩ := readNested_exchange given
  have reached := (readNested_sound _ _ _ _ given).2
  have stops : last.position = Utf8.size taken := by
    have whole := congrArg Utf8.size split
    simp only [Input.stop, Text.Utf8.size_append] at reached whole
    omega
  refine ⟨.ofList taken, .ofList last.chars, ?_, ?_, ?_⟩
  · rw [← String.ofList_append, ← split, String.ofList_toList]
  · rw [utf8ByteSize_ofList, stops]
  · have alone := kept [] 0 stopsNumbers_nil
    rw [List.append_nil, Nat.zero_add] at alone
    rw [readFrom_zero, String.toList_ofList, readValue, alone, stops]
    rfl

/-- What is read depends on what is left after white space. -/
theorem readNested_skipSpaces (levels : Nat) {left right : Input}
    (same : left.skipSpaces = right.skipSpaces)
    : readNested levels left = readNested levels right := by
  cases levels <;> simp only [readNested, readValueWith, same]

-----------------------------------------------------------------------------------------
-- Streams of documents
-----------------------------------------------------------------------------------------

namespace Value

/-- Read so many documents of a text from a byte on, each where the one before ended, and give
the byte behind the last.
-/
def readEach (text : String) : Nat → Nat → Except SyntaxError (List Value × Nat)
  | 0, start => .ok ([], start)
  | count + 1, start => do
    let (value, stop) ← readFrom text start
    let (values, last) ← readEach text count stop
    return (value :: values, last)

/-- The written forms of values, with white space between any two of them. -/
inductive WrittenStream : List Char → List Value → Prop where
  | nothing : WrittenStream [] []
  | last (value : Value) : WrittenStream value.chars [value]
  | more (value : Value) {blanks later : List Char} {next : Value} {values : List Value}
      (some : blanks ≠ []) (blank : ∀ char ∈ blanks, isSpace char = true)
      (others : WrittenStream later (next :: values))
      : WrittenStream (value.chars ++ (blanks ++ later)) (value :: next :: values)

/-- A written value is read up to where it ends, whatever stands in front of it and whatever
follows that no number goes on with.
-/
theorem readFrom_chars {value : Value} (readable : value.Readable nestingLimit)
    (before : List Char) {rest : List Char} (stops : StopsNumbers rest)
    : Value.readFrom (String.ofList (before ++ (value.chars ++ rest))) (Utf8.size before)
      = .ok (value.readBack, Utf8.size (before ++ value.chars)) := by
  have spelled := spells_chars value readable.ordered readable.shallow ends_nil
  rw [List.append_nil] at spelled
  obtain ⟨last, read, ended⟩ := readNested_complete nestingLimit ⟨value.chars, Utf8.size before⟩
    value.chars value.readBack [] (.none _) spelled
  obtain ⟨taken, split, kept⟩ := readNested_exchange read
  rw [ended, List.append_nil] at split
  subst split
  rw [readFrom_append, readValue, kept rest _ stops, Text.Utf8.size_append]
  rfl

/-- White space in front of a value is passed over. -/
theorem readFrom_blanks {before blanks : List Char} (rest : List Char)
    (blank : ∀ char ∈ blanks, isSpace char = true)
    : Value.readFrom (String.ofList (before ++ (blanks ++ rest))) (Utf8.size before)
      = Value.readFrom (String.ofList (before ++ (blanks ++ rest)))
          (Utf8.size (before ++ blanks)) := by
  have skipped
      : Input.skipSpaces ⟨blanks ++ rest, Utf8.size before⟩
        = Input.skipSpaces ⟨rest, Utf8.size (before ++ blanks)⟩ := by
    simp [Input.skipSpaces, Input.after, List.takeWhile_append_of_pos blank,
      List.dropWhile_append_of_pos blank, Text.Utf8.size_append, Nat.add_assoc]
  have behind := readFrom_append (before ++ blanks) rest
  rw [List.append_assoc] at behind
  rw [readFrom_append, behind]
  exact congrArg (Except.map _) (readNested_skipSpaces nestingLimit skipped)

theorem readEach_succ {text : String} {start stop count last : Nat} {value : Value}
    {values : List Value} (first : readFrom text start = .ok (value, stop))
    (others : readEach text count stop = .ok (values, last))
    : readEach text (count + 1) start = .ok (value :: values, last) := by
  simp only [readEach, first, others, bind, Except.bind, pure, Except.pure]

/-- A stream is read document by document wherever it stands, by induction on the stream. -/
theorem readEach_written {text : List Char} {values : List Value}
    (written : WrittenStream text values)
    (readable : ∀ value ∈ values, value.Readable nestingLimit) (before : List Char)
    : readEach (String.ofList (before ++ text)) values.length (Utf8.size before)
      = .ok (values.map readBack, Utf8.size (before ++ text)) := by
  induction written generalizing before with
  | nothing => simp [readEach]
  | last value =>
      have read := readFrom_chars (readable value (by simp)) before stopsNumbers_nil
      rw [List.append_nil] at read
      exact readEach_succ read rfl
  | @more value blanks later next values some blank _ ih =>
      obtain ⟨first, behind⟩ := List.forall_mem_cons.mp readable
      have read := readFrom_chars first before (stopsNumbers_blanks some blank later)
      have reads := ih behind (before ++ value.chars ++ blanks)
      rw [List.append_assoc (before ++ value.chars), List.length_cons, readEach,
        ← readFrom_blanks later blank, ← readEach, List.append_assoc before] at reads
      refine readEach_succ read ?_
      simpa using reads

end Value

/-- A value is read alike wherever it stands: more text in front of it only moves the byte at which
it ends or reading fails, and nothing is needed of what follows the byte at which it ends. Written
values with white space between them are read one after the other, up to the end of the last.
-/
theorem Value.readFrom_anywhere (text : String)
    : (∀ before : String,
        readFrom (before ++ text) before.utf8ByteSize
          = shiftRead before.utf8ByteSize (readFrom text 0))
      ∧ (∀ value stop,
          readFrom text 0 = .ok (value, stop)
          → ∃ taken rest,
              text = taken ++ rest
              ∧ stop = taken.utf8ByteSize
              ∧ readFrom taken 0 = .ok (value, stop))
      ∧ (∀ values,
          WrittenStream text.toList values
          → (∀ value ∈ values, value.Readable nestingLimit)
          → ∃ results,
              readEach text values.length 0 = .ok (results, text.utf8ByteSize)
              ∧ List.Forall₂ (fun result value => result.equals value = true) results
                  values) := by
  refine ⟨fun before => readFrom_behind before text, fun _ _ read => readFrom_taken read, ?_⟩
  intro values written readable
  refine ⟨values.map readBack, ?_, ?_⟩
  · simpa [utf8ByteSize_eq, Utf8.size] using readEach_written written readable []
  · refine List.forall₂_map_left_iff.mpr (List.forall₂_same.mpr fun value listed => ?_)
    exact (readable value listed).readBack_equals

/-- A number with a fraction, a text and a whole number. -/
def mixedValues : List Value :=
  [.number ⟨0xBFF8000000000000⟩, .text "é", .ofNat 20]

theorem written_mixedValues
    : Value.WrittenStream "-1.5 \"é\"\t\n20".toList mixedValues := by
  have numbers
      : Value.chars (.number ⟨0xBFF8000000000000⟩) = "-1.5".toList
        ∧ Value.chars (.ofNat 20) = "20".toList := by
    decide +kernel
  have second :=
    Value.WrittenStream.more (.text "é") (List.cons_ne_nil '\t' ['\n']) (by simp [isSpace])
      (.last (.ofNat 20))
  have first :=
    Value.WrittenStream.more (.number ⟨0xBFF8000000000000⟩) (List.cons_ne_nil ' ' [])
      (by simp [isSpace]) second
  rwa [numbers.1, numbers.2] at first

theorem readable_mixedValues : ∀ value ∈ mixedValues, value.Readable nestingLimit := by
  intro value listed
  simp only [mixedValues, List.mem_cons, List.not_mem_nil, or_false] at listed
  rcases listed with rfl | rfl | rfl
  · exact .number nestingLimit (by decide +kernel)
  · exact .text nestingLimit "é"
  · exact .number nestingLimit (by decide +kernel)

/-- Where reading has to look ahead: a number before a mark without an exponent, a lone surrogate
before another escape, and numbers that only end with the white space or the text behind them.
-/
theorem Value.readFrom_anywhere_of_lookahead
    : (∃ number taken rest,
        readFrom ("é[" ++ "-1.5e+") 3 = .ok (number, 7)
        ∧ number.print = "-1.5"
        ∧ "-1.5e+" = taken ++ rest
        ∧ taken.utf8ByteSize = 4
        ∧ readFrom taken 0 = .ok (number, 4))
      ∧ (∃ text taken rest,
          readFrom ("é[" ++ "\"\\ud83d\\u0041\" 1") 3 = .ok (text, 17)
          ∧ text.print = "\"\uFFFDA\""
          ∧ "\"\\ud83d\\u0041\" 1" = taken ++ rest
          ∧ taken.utf8ByteSize = 14
          ∧ readFrom taken 0 = .ok (text, 14))
      ∧ readFrom ("é" ++ "[-1.5e+x]") 2 = .error (.unexpectedChar "',' or ']'" 'e' 7)
      ∧ ∃ results,
          readEach "-1.5 \"é\"\t\n20" 3 0 = .ok (results, 13)
          ∧ List.Forall₂ (fun result value => result.equals value = true) results mixedValues
          ∧ results.map print = ["-1.5", "\"é\"", "20"] := by
  have shifted {text printed : String} {stop : Nat}
      (read : (readFrom text 0).map (fun read => (read.1.print, read.2)) = .ok (printed, stop))
      (before : String)
      : ∃ value taken rest,
          readFrom (before ++ text) before.utf8ByteSize
            = .ok (value, before.utf8ByteSize + stop)
          ∧ value.print = printed
          ∧ text = taken ++ rest
          ∧ taken.utf8ByteSize = stop
          ∧ readFrom taken 0 = .ok (value, stop) := by
    obtain ⟨⟨value, _⟩, given, same⟩ := exists_of_map_ok read
    obtain ⟨rfl, rfl⟩ := Prod.mk.inj same
    obtain ⟨moves, cuts, -⟩ := readFrom_anywhere text
    obtain ⟨taken, rest, split, stops, alone⟩ := cuts _ _ given
    exact ⟨value, taken, rest, by rw [moves, given, shiftRead], rfl, split, stops.symm, alone⟩
  have mark
      : (readFrom "-1.5e+" 0).map (fun read => (read.1.print, read.2)) = .ok ("-1.5", 4) := by
    decide +kernel
  have surrogate
      : (readFrom "\"\\ud83d\\u0041\" 1" 0).map (fun read => (read.1.print, read.2))
        = .ok ("\"\uFFFDA\"", 14) := by
    decide +kernel
  have misread
      : (readFrom "[-1.5e+x]" 0).map (fun _ => ())
        = .error (.unexpectedChar "',' or ']'" 'e' 5) := by
    decide +kernel
  have moved := (readFrom_anywhere "[-1.5e+x]").1 "é"
  obtain ⟨results, streamed, equal⟩ :=
    (readFrom_anywhere _).2.2 _ written_mixedValues readable_mixedValues
  have printed
      : (readEach "-1.5 \"é\"\t\n20" 3 0).map (fun read => read.1.map print)
        = .ok ["-1.5", "\"é\"", "20"] := by
    decide +kernel
  refine ⟨shifted mark "é[", shifted surrogate "é[", ?_, results, streamed, equal, ?_⟩
  · cases given : readFrom "[-1.5e+x]" 0 with
    | ok read => rw [given] at misread; cases misread
    | error error =>
        rw [given] at misread moved
        obtain rfl := Except.error.inj misread
        exact moved
  · have same := congrArg (Except.map fun read => read.1.map print) streamed
    exact Except.ok.inj (same.symm.trans printed)

end LanguageClient.Json
