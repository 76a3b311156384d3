import LanguageClient.Proofs.Frame.Chunks
import Mathlib.Data.List.Basic
import Mathlib.Data.List.TakeWhile

/-! Every body comes out of a stream, whatever stands between the frames, as long as it does
not name the length header. Such noise is header blocks, which are dropped, and a last part
without an end, which the next frame turns into a header block of its own.
-/

namespace LanguageClient

namespace Frame

-----------------------------------------------------------------------------------------
-- Terminators
-----------------------------------------------------------------------------------------

/-- A byte that is no carriage return is passed over. -/
theorem splitAtTerminator_cons {byte : UInt8} (plain : byte ≠ 13) (rest : List UInt8)
    : splitAtTerminator (byte :: rest)
      = (splitAtTerminator rest).map fun split => (byte :: split.1, split.2) := by
  rw [splitAtTerminator]
  intro _ first
  exact absurd first plain

/-- A terminator is found unless there is none, by induction on the bytes. -/
theorem splitAtTerminator_eq_none_iff (bytes : List UInt8)
    : splitAtTerminator bytes = none ↔ ¬terminator <:+: bytes := by
  constructor
  · intro unended ⟨front, back, whole⟩
    fun_induction splitAtTerminator bytes generalizing front with
    | case1 => simp [terminator] at whole
    | case2 rest => cases unended
    | case3 byte rest other ih =>
        cases front with
        | nil =>
            obtain ⟨first, behind⟩ := List.cons.inj whole
            exact other back first.symm behind.symm
        | cons _ front =>
            exact ih (Option.map_eq_none_iff.mp unended) front (List.cons.inj whole).2
  · intro absent
    cases found : splitAtTerminator bytes with
    | none => rfl
    | some split => exact absurd ⟨split.1, split.2, (eq_of_splitAtTerminator found).symm⟩ absent

/-- Behind bytes without a terminator and a name, the next terminator is the first one: the
name has no byte that could be part of one. By induction on the bytes.
-/
theorem splitAtTerminator_named {bytes name : List UInt8}
    (unended : splitAtTerminator bytes = none) (named : name ≠ [])
    (plain : ∀ byte ∈ name, byte ≠ 13 ∧ byte ≠ 10) (rest : List UInt8)
    : splitAtTerminator (bytes ++ name ++ terminator ++ rest) = some (bytes ++ name, rest) := by
  fun_induction splitAtTerminator bytes with
  | case1 =>
      clear named unended
      induction name with
      | nil => rfl
      | cons byte name ih =>
          have first := plain byte List.mem_cons_self
          have behind := ih fun other member => plain other (List.mem_cons_of_mem _ member)
          simp only [List.nil_append, List.cons_append] at behind ⊢
          rw [splitAtTerminator_cons first.1, behind]
          rfl
  | case2 => cases unended
  | case3 byte behind other ih =>
      simp only [List.cons_append, List.append_assoc] at ih ⊢
      rw [splitAtTerminator, ih (Option.map_eq_none_iff.mp unended)]
      · rfl
      -- A terminator that starts here would be in the bytes or would reach into the name.
      intro tail first joined
      obtain ⟨head, name, rfl⟩ := List.exists_cons_of_ne_nil named
      have outside := plain head List.mem_cons_self
      rcases behind with _ | ⟨second, _ | ⟨third, _ | ⟨fourth, more⟩⟩⟩
      · exact outside.2 (List.cons.inj joined).1
      · exact outside.1 (List.cons.inj (List.cons.inj joined).2).1
      · exact outside.2 (List.cons.inj (List.cons.inj (List.cons.inj joined).2).2).1
      · simp only [List.cons_append, List.cons.injEq] at joined
        obtain ⟨rfl, rfl, rfl, _⟩ := joined
        exact other more first rfl

/-- What is left of bytes once every header block has been taken off them, from the left. -/
def afterBlocks : List UInt8 → List UInt8
  | [] => []
  | 13 :: 10 :: 13 :: 10 :: rest => afterBlocks rest
  | byte :: rest =>
    if (splitAtTerminator rest).isSome then afterBlocks rest else byte :: rest

/-- One header block after another is taken off, by induction on the bytes. -/
theorem afterBlocks_eq (bytes : List UInt8)
    : afterBlocks bytes
      = match splitAtTerminator bytes with
        | none => bytes
        | some (_, rest) => afterBlocks rest := by
  fun_induction splitAtTerminator bytes with
  | case1 => rfl
  | case2 rest => rfl
  | case3 byte rest other ih =>
      rw [afterBlocks]
      · cases found : splitAtTerminator rest with
        | none => rfl
        | some split =>
            rw [found] at ih
            exact ih
      · exact other

/-- A terminator reaches from the one in front of bytes without any into these bytes exactly
if they start with a line break, which the two share.
-/
theorem terminator_straddles_iff {rest : List UInt8} (unended : ¬terminator <:+: rest)
    : terminator <:+: terminator.tail ++ rest ↔ [13, 10] <+: rest := by
  constructor
  · rintro ⟨front, back, whole⟩
    match front with
    | [] => cases (List.cons.inj whole).1
    | [_] => exact ⟨back, (List.cons.inj (List.cons.inj (List.cons.inj whole).2).2).2⟩
    | [_, _] => cases (List.cons.inj (List.cons.inj (List.cons.inj whole).2).2).1
    | _ :: _ :: _ :: front =>
        have inside : front ++ terminator ++ back = rest :=
          (List.cons.inj (List.cons.inj (List.cons.inj whole).2).2).2
        exact absurd ⟨front, back, inside⟩ unended
  · rintro ⟨back, rfl⟩
    exact ⟨[10], back, rfl⟩

/-- What is left has no terminator, and one stands in front of it unless it is all there was.
By induction on the bytes.
-/
theorem afterBlocks_spec (bytes : List UInt8)
    : ¬terminator <:+: afterBlocks bytes
      ∧ (afterBlocks bytes = bytes ∨ ∃ front, bytes = front ++ terminator ++ afterBlocks bytes) := by
  induction size : bytes.length using Nat.strongRecOn generalizing bytes with
  | ind count ih =>
      subst size
      rw [afterBlocks_eq]
      cases found : splitAtTerminator bytes with
      | none => exact ⟨(splitAtTerminator_eq_none_iff bytes).mp found, Or.inl rfl⟩
      | some split =>
          obtain ⟨header, rest⟩ := split
          have whole := eq_of_splitAtTerminator found
          obtain ⟨unended, behind⟩ :=
            ih rest.length (length_lt_of_splitAtTerminator found) rest rfl
          refine ⟨unended, Or.inr ?_⟩
          dsimp only
          rcases behind with all | ⟨front, split⟩
          · exact ⟨header, all.symm ▸ whole⟩
          · refine ⟨header ++ terminator ++ front, ?_⟩
            calc bytes = header ++ terminator ++ rest := whole
              _ = header ++ terminator ++ (front ++ terminator ++ afterBlocks rest) :=
                congrArg _ split
              _ = header ++ terminator ++ front ++ terminator ++ afterBlocks rest := by
                simp only [List.append_assoc]

-----------------------------------------------------------------------------------------
-- Headers
-----------------------------------------------------------------------------------------

/-- Bytes in which the name of the length header does not occur, in any case. -/
def Stray (bytes : List UInt8) : Prop :=
  ¬lengthName <:+: bytes.map lowerByte

instance (bytes : List UInt8) : Decidable (Stray bytes) :=
  inferInstanceAs (Decidable (¬_))

/-- Nothing in stray bytes names a length. -/
theorem Stray.of_infix {bytes part : List UInt8} (stray : Stray bytes) (within : part <:+: bytes)
    : Stray part :=
  fun named => stray (named.trans (within.map lowerByte))

/-- No length is found in stray bytes, by induction on them. -/
theorem Stray.afterLengthName {bytes : List UInt8} (stray : Stray bytes)
    : afterLengthName bytes = none := by
  induction bytes with
  | nil => rfl
  | cons byte rest ih =>
      rw [Frame.afterLengthName, if_neg]
      · exact ih (stray.of_infix (List.suffix_cons byte rest).isInfix)
      · rw [List.isPrefixOf_iff_prefix]
        exact fun named => stray named.isInfix

theorem Stray.bodyLength? {bytes : List UInt8} (stray : Stray bytes)
    : bodyLength? bytes = none := by
  rw [Frame.bodyLength?, stray.afterLengthName]
  rfl

/-- The name of the length header as it is written, with the blank behind it. -/
def writtenName : List UInt8 :=
  Text.Utf8.encode "Content-Length: "

/-- The digits of a length. -/
def writtenLength (length : Nat) : List UInt8 :=
  Text.Utf8.encode (toString length)

theorem encode_eq (body : List UInt8)
    : encode body = writtenName ++ writtenLength body.length ++ terminator ++ body := by
  simp only [encode, Text.Utf8.encode, String.toList_append, List.flatMap_append, writtenName,
    writtenLength]

/-- The name that is written is found behind stray bytes: no other one reaches into it, since
its colon comes last. By induction on the stray bytes.
-/
theorem Stray.afterLengthName_written {bytes : List UInt8} (stray : Stray bytes)
    (rest : List UInt8)
    : Frame.afterLengthName (bytes ++ (writtenName ++ rest)) = some (32 :: rest) := by
  have lowered : writtenName.map lowerByte = lengthName ++ [32] := by decide
  induction bytes with
  | nil =>
      have written : writtenName = 67 :: writtenName.tail := by decide
      rw [List.nil_append, written, List.cons_append, Frame.afterLengthName, if_pos]
      · rfl
      · rw [List.isPrefixOf_iff_prefix, ← List.cons_append, ← written, List.map_append, lowered,
          List.append_assoc]
        exact List.prefix_append _ _
  | cons byte bytes ih =>
      rw [List.cons_append, Frame.afterLengthName, if_neg]
      · exact ih (stray.of_infix (List.suffix_cons byte bytes).isInfix)
      rw [List.isPrefixOf_iff_prefix, ← List.cons_append, List.map_append, List.map_append,
        lowered]
      intro named
      have size : lengthName.length = 15 := by decide
      by_cases short : bytes.length < 14
      · -- The colon would have to be one of the bytes of the name in front of its colon.
        have colon := List.prefix_iff_getElem?.mp named 14 (by rw [size]; omega)
        rw [List.getElem?_append_right (by rw [List.length_map, List.length_cons]; omega),
          List.length_map, List.length_cons, List.append_assoc,
          List.getElem?_append_left (by rw [size]; omega)] at colon
        have only : ∀ place < 14, lengthName[place]? ≠ lengthName[14]? := by decide
        exact only (14 - (bytes.length + 1)) (by omega) colon
      · have within : lengthName <+: (byte :: bytes).map lowerByte := by
          refine List.prefix_of_prefix_length_le named (List.prefix_append _ _) ?_
          rw [size, List.length_map, List.length_cons]
          omega
        exact stray within.isInfix

/-- A digit is one byte, and that is a digit, too. -/
theorem utf8EncodeChar_digit {length : Nat} {digit : Char}
    (listed : digit ∈ Nat.toDigits 10 length)
    : String.utf8EncodeChar digit = [.ofNat digit.toNat]
      ∧ (UInt8.ofNat digit.toNat).toNat = digit.toNat
      ∧ isDigitByte (.ofNat digit.toNat) = true := by
  have isDigit := Nat.isDigit_of_mem_toDigits (by decide) (by decide) listed
  have bounds : 48 ≤ digit.toNat ∧ digit.toNat ≤ 57 := by
    rw [Char.isDigit, Bool.and_eq_true, decide_eq_true_eq, decide_eq_true_eq] at isDigit
    exact isDigit
  have small : digit.val.toNat ≤ 127 := Nat.le_trans bounds.2 (by decide)
  have byte : (UInt8.ofNat digit.toNat).toNat = digit.toNat := by
    rw [UInt8.toNat_ofNat']
    omega
  refine ⟨if_pos small, byte, ?_⟩
  rw [isDigitByte, Bool.and_eq_true, decide_eq_true_eq, decide_eq_true_eq,
    UInt8.le_iff_toNat_le, UInt8.le_iff_toNat_le, byte]
  exact bounds

/-- The bytes of a length are those of its digits, one by one. -/
theorem writtenLength_eq (length : Nat)
    : writtenLength length
      = (Nat.toDigits 10 length).map fun digit => .ofNat digit.toNat := by
  have bytes
      : ∀ digit ∈ Nat.toDigits 10 length,
          String.utf8EncodeChar digit = [.ofNat digit.toNat] :=
    fun digit listed => (utf8EncodeChar_digit listed).1
  change (toString length).toList.flatMap String.utf8EncodeChar = _
  rw [show (toString length).toList = Nat.toDigits 10 length from Nat.toList_repr,
    List.flatMap_congr bytes]
  exact List.flatMap_pure_eq_map (fun digit : Char => UInt8.ofNat digit.toNat) _

theorem isDigitByte_of_mem_writtenLength {length : Nat} {byte : UInt8}
    (member : byte ∈ writtenLength length)
    : isDigitByte byte = true := by
  rw [writtenLength_eq] at member
  obtain ⟨digit, listed, rfl⟩ := List.mem_map.mp member
  exact (utf8EncodeChar_digit listed).2.2

theorem writtenLength_ne_nil (length : Nat) : writtenLength length ≠ [] := by
  rw [writtenLength_eq]
  exact fun none => Nat.toDigits_ne_nil (List.map_eq_nil_iff.mp none)

/-- The digits of a length spell it. -/
theorem digitsValue_writtenLength (length : Nat)
    : digitsValue (writtenLength length) = length := by
  have spelled := Nat.ofDigitChars_ten_toDigits (n := length)
  rw [Nat.ofDigitChars] at spelled
  rw [writtenLength_eq, digitsValue, List.foldl_map]
  refine Eq.trans (List.foldl_ext _ _ _ fun value digit listed => ?_) spelled
  rw [(utf8EncodeChar_digit listed).2.1]
  rfl

/-- The length that is written is read, whatever stray bytes stand in front of its header. -/
theorem Stray.bodyLength?_written {bytes : List UInt8} (stray : Stray bytes) {length : Nat}
    (counted : length ≤ lengthLimit)
    : Frame.bodyLength? (bytes ++ (writtenName ++ writtenLength length)) = some length := by
  rw [Frame.bodyLength?, stray.afterLengthName_written, Option.bind_some]
  have digits
      : (((32 : UInt8) :: writtenLength length).dropWhile fun byte => byte == 32 || byte == 9)
        = writtenLength length := by
    obtain ⟨digit, rest, whole⟩ := List.exists_cons_of_ne_nil (writtenLength_ne_nil length)
    have isDigit : isDigitByte digit = true :=
      isDigitByte_of_mem_writtenLength (whole ▸ List.mem_cons_self)
    rw [List.dropWhile_cons_of_pos (by decide), whole, List.dropWhile_cons_of_neg]
    intro blank
    simp only [Bool.or_eq_true, beq_iff_eq] at blank
    rcases blank with rfl | rfl <;> cases isDigit
  have taken : (writtenLength length).takeWhile isDigitByte = writtenLength length :=
    List.takeWhile_eq_self_iff.mpr fun _ => isDigitByte_of_mem_writtenLength
  have unlimited : ¬length > lengthLimit := Nat.not_lt.mpr counted
  dsimp only
  rw [digits, taken, digitsValue_writtenLength]
  simp [writtenLength_ne_nil, unlimited]

end Frame

namespace Framer

open Frame

-----------------------------------------------------------------------------------------
-- Bodies
-----------------------------------------------------------------------------------------

/-- Header blocks without a length are dropped, by induction on the bytes. -/
theorem nextBody_stray {bytes : List UInt8} (stray : Stray bytes)
    : nextBody { buffer := bytes } = (none, { buffer := afterBlocks bytes }) := by
  induction size : bytes.length using Nat.strongRecOn generalizing bytes with
  | ind count ih =>
      subst size
      rw [nextBody_eq, afterBlocks_eq]
      cases found : splitAtTerminator bytes with
      | none => rfl
      | some split =>
          obtain ⟨header, rest⟩ := split
          have whole := eq_of_splitAtTerminator found
          have unnamed : Stray header :=
            stray.of_infix ⟨[], terminator ++ rest, by rw [whole, List.nil_append, List.append_assoc]⟩
          have behind : Stray rest :=
            stray.of_infix ⟨header ++ terminator, [], by rw [whole, List.append_nil]⟩
          dsimp only
          rw [unnamed.bodyLength?]
          exact ih rest.length (length_lt_of_splitAtTerminator found) behind rfl

/-- The body of a frame is taken, whatever stray bytes stand in front of the frame and
whatever follows it, by induction on the stray bytes.
-/
theorem nextBody_frame {bytes body : List UInt8} (stray : Stray bytes)
    (counted : body.length ≤ lengthLimit) (rest : List UInt8)
    : nextBody { buffer := bytes ++ encode body ++ rest } = (some body, { buffer := rest }) := by
  induction size : bytes.length using Nat.strongRecOn generalizing bytes with
  | ind count ih =>
      subst size
      cases found : splitAtTerminator bytes with
      | some split =>
          obtain ⟨header, behind⟩ := split
          have whole := eq_of_splitAtTerminator found
          have unnamed : Stray header :=
            stray.of_infix
              ⟨[], terminator ++ behind, by rw [whole, List.nil_append, List.append_assoc]⟩
          have later : Stray behind :=
            stray.of_infix ⟨header ++ terminator, [], by rw [whole, List.append_nil]⟩
          rw [nextBody_eq, List.append_assoc, splitAtTerminator_append found]
          dsimp only
          rw [unnamed.bodyLength?]
          dsimp only
          rw [← List.append_assoc]
          exact ih behind.length (length_lt_of_splitAtTerminator found) later rfl
      | none =>
          have plain
              : ∀ byte ∈ writtenName ++ writtenLength body.length, byte ≠ 13 ∧ byte ≠ 10 := by
            intro byte member
            rcases List.mem_append.mp member with named | digit
            · have written : ∀ byte ∈ writtenName, byte ≠ 13 ∧ byte ≠ 10 := by
                decide +kernel
              exact written byte named
            · have isDigit := isDigitByte_of_mem_writtenLength digit
              constructor <;> rintro rfl <;> cases isDigit
          have named : writtenName ++ writtenLength body.length ≠ [] :=
            List.append_ne_nil_of_right_ne_nil _ (writtenLength_ne_nil _)
          have first := splitAtTerminator_named found named plain (body ++ rest)
          have framed
              : bytes ++ encode body ++ rest
                = bytes ++ (writtenName ++ writtenLength body.length) ++ terminator
                    ++ (body ++ rest) := by
            rw [encode_eq]
            simp only [List.append_assoc]
          rw [framed, nextBody_eq, first]
          dsimp only
          rw [stray.bodyLength?_written counted]
          dsimp only
          rw [if_neg (by rw [List.length_append]; omega), List.take_left, List.drop_left]

/-- Take the bodies that chunks complete, in their order. -/
def feedAllBodies (framer : Framer) : List (List UInt8) → List (List UInt8) × Framer
  | [] => ([], framer)
  | chunk :: rest =>
    let (bodies, fed) := framer.feedBodies chunk
    let (more, last) := fed.feedAllBodies rest
    (bodies ++ more, last)

/-- Chunks give what their bytes give as one chunk, by induction on the chunks. -/
theorem Settled.feedAllBodies_eq {framer : Framer} (settled : framer.Settled)
    (chunks : List (List UInt8))
    : framer.feedAllBodies chunks = framer.feedBodies chunks.flatten := by
  induction chunks generalizing framer with
  | nil =>
      rw [feedAllBodies, List.flatten_nil, feedBodies_eq, List.append_nil, settled]
  | cons chunk rest ih =>
      rw [List.flatten_cons, feedBodies_append, ← ih (framer.feedBodies_settled chunk)]
      rfl

/-- One frame after another, by induction on them. -/
theorem feedBodies_frames (framed : List (List UInt8 × List UInt8)) {last : List UInt8}
    (stray : ∀ pair ∈ framed, Stray pair.1) (strayLast : Stray last)
    (counted : ∀ pair ∈ framed, pair.2.length ≤ lengthLimit)
    : feedBodies { buffer := framed.flatMap (fun pair => pair.1 ++ encode pair.2) ++ last } []
      = (framed.map Prod.snd, { buffer := afterBlocks last }) := by
  induction framed with
  | nil =>
      rw [feedBodies_eq, List.append_nil, List.flatMap_nil, List.nil_append,
        nextBody_stray strayLast]
      rfl
  | cons pair rest ih =>
      have later := ih (fun other member => stray other (List.mem_cons_of_mem _ member))
        fun other member => counted other (List.mem_cons_of_mem _ member)
      rw [feedBodies_eq, List.append_nil, List.flatMap_cons, List.append_assoc,
        nextBody_frame (stray pair List.mem_cons_self) (counted pair List.mem_cons_self)]
      dsimp only
      rw [later]
      rfl

/-- However a stream of frames is cut, and whatever stray bytes stand between them, exactly the
bodies come out, in their order. What is left is the end of the last stray bytes, once every
header block has been taken off them: it has no terminator, and it follows one unless it is all
of them. That is the last terminator that occurs there at all, unless another one shares a line
break with it, and then what is left starts with the other line break.
-/
theorem bodies_through_noise (framed : List (List UInt8 × List UInt8)) (last : List UInt8)
    (chunks : List (List UInt8)) (stray : ∀ pair ∈ framed, Stray pair.1)
    (strayLast : Stray last) (counted : ∀ pair ∈ framed, pair.2.length ≤ lengthLimit)
    (cut
      : chunks.flatten = framed.flatMap (fun pair => pair.1 ++ encode pair.2) ++ last)
    : let rest := afterBlocks last
      ({} : Framer).feedAllBodies chunks = (framed.map Prod.snd, { buffer := rest })
      ∧ ¬terminator <:+: rest
      ∧ (rest = last ∨ ∃ front, last = front ++ terminator ++ rest)
      ∧ (terminator <:+: terminator.tail ++ rest ↔ [13, 10] <+: rest) := by
  intro rest
  have waits : ({} : Framer).Settled := rfl
  obtain ⟨unended, behind⟩ := afterBlocks_spec last
  refine ⟨?_, unended, behind, terminator_straddles_iff unended⟩
  rw [waits.feedAllBodies_eq, cut, feedBodies_buffer]
  exact feedBodies_frames framed stray strayLast counted

/-- A body with a terminator in it comes out behind a header block and half a name. -/
theorem bodies_through_noise_of_cut_header
    : let noise := [120, 13, 10, 13, 10] ++ lengthName.dropLast
      let body := [123, 13, 10, 13, 10, 125]
      let stream := noise ++ encode body ++ [13, 10, 13]
      (Stray noise ∧ Stray [13, 10, 13])
      ∧ ({} : Framer).feedAllBodies [stream.take 25, stream.drop 25]
        = ([body], { buffer := [13, 10, 13] }) := by
  intro noise body stream
  have stray : Stray noise := by decide +kernel
  have strayLast : Stray [13, 10, 13] := by decide +kernel
  refine ⟨⟨stray, strayLast⟩, ?_⟩
  refine (bodies_through_noise [(noise, body)] [13, 10, 13] [stream.take 25, stream.drop 25]
    ?_ strayLast ?_ ?_).1
  · exact fun pair member => List.mem_singleton.mp member ▸ stray
  · exact fun pair member => List.mem_singleton.mp member ▸ (by decide +kernel : body.length ≤ _)
  · decide +kernel

/-- Behind three line breaks nothing follows the last terminator that occurs, and yet one line
break is left: the first two are the terminator of a header block.
-/
theorem bodies_before_three_line_breaks
    : let last := [13, 10, 13, 10, 13, 10]
      Stray last
      ∧ last = [13, 10] ++ terminator
      ∧ ({} : Framer).feedAllBodies [encode [123, 125] ++ last]
        = ([[123, 125]], { buffer := [13, 10] }) := by
  decide +kernel

end Framer

end LanguageClient
