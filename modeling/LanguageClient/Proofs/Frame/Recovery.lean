import LanguageClient.Proofs.Frame.Noise

/-! Whether a framer gets over what it has received. It waits for a header block or for a body,
and there are bytes that end the wait unless the end of the body is further away than a framer
can count. Then nothing comes out of it any more.
-/

namespace LanguageClient

namespace Frame

/-- How many bytes a header block takes together with the body that it announces. -/
def blockLength (header : List UInt8) : Nat :=
  header.length + terminator.length + (bodyLength? header).getD 0

/-- Whatever comes behind bytes, their first header block and its body take more bytes than can
be counted.
-/
def Overlong (bytes : List UInt8) : Prop :=
  ∀ more header rest,
    splitAtTerminator (bytes ++ more) = some (header, rest)
    → lengthLimit < blockLength header

/-- More bytes do not help. -/
theorem Overlong.append {bytes : List UInt8} (overlong : Overlong bytes) (chunk : List UInt8)
    : Overlong (bytes ++ chunk) :=
  fun more header rest found =>
    overlong (chunk ++ more) header rest (List.append_assoc bytes chunk more ▸ found)

/-- A terminator alone makes a header block. -/
theorem Overlong.ne_nil {bytes : List UInt8} (overlong : Overlong bytes) : bytes ≠ [] := by
  rintro rfl
  have short : ¬lengthLimit < blockLength [] := by decide
  exact short (overlong terminator [] [] rfl)

/-- Once the first header block has arrived it decides, whatever follows. -/
theorem overlong_iff_of_header {bytes header rest : List UInt8}
    (found : splitAtTerminator bytes = some (header, rest))
    : Overlong bytes ↔ lengthLimit < blockLength header := by
  constructor
  · exact fun overlong => overlong [] header rest (by rw [List.append_nil, found])
  · intro long more header' rest' found'
    rw [splitAtTerminator_append found] at found'
    obtain ⟨rfl, -⟩ := Prod.mk.inj (Option.some.inj found')
    exact long

/-- Where the first header block ends does not depend on what is behind it. -/
theorem splitAtTerminator_replace {bytes header rest : List UInt8}
    (found : splitAtTerminator bytes = some (header, rest)) (other : List UInt8)
    : splitAtTerminator (header ++ terminator ++ other) = some (header, other) := by
  have whole := eq_of_splitAtTerminator found
  cases alone : splitAtTerminator (header ++ terminator) with
  | none =>
      exact absurd (List.suffix_append header terminator).isInfix
        ((splitAtTerminator_eq_none_iff _).mp alone)
  | some split =>
      obtain ⟨header', rest'⟩ := split
      have same := splitAtTerminator_append alone rest
      rw [← whole, found] at same
      obtain ⟨rfl, behind⟩ := Prod.mk.inj (Option.some.inj same)
      have nothing : rest' = [] := List.append_left_eq_self.mp behind.symm
      rw [splitAtTerminator_append alone, nothing, List.nil_append]

end Frame

namespace Framer

open Frame

-----------------------------------------------------------------------------------------
-- Waiting
-----------------------------------------------------------------------------------------

/-- Of bytes that can be counted no body is taken whose end cannot be counted: it has not
arrived.
-/
theorem nextBody_of_counted {bytes : List UInt8} (counted : bytes.length ≤ lengthLimit)
    : nextBody { buffer := bytes }
      = match splitAtTerminator bytes with
        | none => (none, { buffer := bytes })
        | some (header, rest) =>
          match bodyLength? header with
          | none => nextBody { buffer := rest }
          | some length =>
            if lengthLimit < header.length + terminator.length + length then
              (none, { buffer := bytes })
            else if rest.length < length then
              (none, { buffer := bytes })
            else
              (some (rest.take length), { buffer := rest.drop length }) := by
  rw [nextBody_eq]
  cases found : splitAtTerminator bytes with
  | none => rfl
  | some split =>
      obtain ⟨header, rest⟩ := split
      dsimp only
      cases bodyLength? header with
      | none => rfl
      | some length =>
          have sizes := congrArg List.length (eq_of_splitAtTerminator found)
          rw [List.length_append, List.length_append] at sizes
          dsimp only
          by_cases long : lengthLimit < header.length + terminator.length + length
          · rw [if_pos long, if_pos (by omega)]
          · rw [if_neg long]

/-- A framer waits for a body that is too far away. -/
theorem nextBody_of_overlong {bytes : List UInt8} (overlong : Overlong bytes)
    (counted : bytes.length ≤ lengthLimit)
    : nextBody { buffer := bytes } = (none, { buffer := bytes }) := by
  rw [nextBody_of_counted counted]
  cases found : splitAtTerminator bytes with
  | none => rfl
  | some split =>
      obtain ⟨header, rest⟩ := split
      have long := (overlong_iff_of_header found).mp overlong
      rw [blockLength] at long
      dsimp only
      cases given : bodyLength? header with
      | none =>
          have sizes := congrArg List.length (eq_of_splitAtTerminator found)
          rw [List.length_append, List.length_append] at sizes
          rw [given, Option.getD_none] at long
          omega
      | some length =>
          rw [given, Option.getD_some] at long
          exact if_pos long

/-- What is left of bytes is not more than they are, by induction on them. -/
theorem length_nextBody_le (bytes : List UInt8)
    : (nextBody { buffer := bytes }).2.buffer.length ≤ bytes.length := by
  induction size : bytes.length using Nat.strongRecOn generalizing bytes with
  | ind count ih =>
      subst size
      rw [nextBody_eq]
      cases found : splitAtTerminator bytes with
      | none => exact Nat.le_refl _
      | some split =>
          obtain ⟨header, rest⟩ := split
          have shorter := length_lt_of_splitAtTerminator found
          dsimp only
          cases bodyLength? header with
          | none => exact Nat.le_trans (ih rest.length shorter rest rfl) (Nat.le_of_lt shorter)
          | some length =>
              dsimp only
              split
              · exact Nat.le_refl _
              · dsimp only
                rw [List.length_drop]
                omega

/-- What a framer that waits may wait for: a terminator, or the rest of a body. -/
theorem Settled.waits {bytes : List UInt8} (settled : Settled { buffer := bytes })
    : splitAtTerminator bytes = none
      ∨ ∃ header rest length,
          splitAtTerminator bytes = some (header, rest)
          ∧ bodyLength? header = some length
          ∧ rest.length < length := by
  cases found : splitAtTerminator bytes with
  | none => exact Or.inl rfl
  | some split =>
      obtain ⟨header, rest⟩ := split
      refine Or.inr ?_
      rw [Settled, nextBody_eq, found] at settled
      dsimp only at settled
      cases given : bodyLength? header with
      | none =>
          rw [given] at settled
          dsimp only at settled
          have fewer := length_nextBody_le rest
          rw [settled] at fewer
          exact absurd (length_lt_of_splitAtTerminator found) (Nat.not_lt.mpr fewer)
      | some length =>
          rw [given] at settled
          dsimp only at settled
          by_cases short : rest.length < length
          · exact ⟨header, rest, length, rfl, given, short⟩
          · rw [if_neg short] at settled
            cases (Prod.mk.inj settled).1

-----------------------------------------------------------------------------------------
-- Chunks that a framer can hold
-----------------------------------------------------------------------------------------

/-- A framer can hold chunks when the bytes that it has can be counted each time one arrives. -/
def CanHold (framer : Framer) : List (List UInt8) → Prop
  | [] => True
  | chunk :: rest =>
    (framer.buffer ++ chunk).length ≤ lengthLimit ∧ (framer.feedBodies chunk).2.CanHold rest

/-- There are chunks that leave nothing behind, so that the next frame is read again. -/
def Recovers (framer : Framer) : Prop :=
  ∃ ending,
    framer.CanHold ending
    ∧ (framer.feedAllBodies ending).2 = {}
    ∧ ∀ body,
        (encode body).length ≤ lengthLimit
        → framer.feedAllBodies (ending ++ [encode body])
          = ((framer.feedAllBodies ending).1 ++ [body], {})

/-- A framer that waits for a body that is too far away only collects bytes, by induction on the
chunks.
-/
theorem feedAllBodies_of_overlong {framer : Framer} (overlong : Overlong framer.buffer)
    {chunks : List (List UInt8)} (held : framer.CanHold chunks)
    : framer.feedAllBodies chunks = ([], { buffer := framer.buffer ++ chunks.flatten }) := by
  induction chunks generalizing framer with
  | nil =>
      rw [List.flatten_nil, List.append_nil]
      rfl
  | cons chunk rest ih =>
      obtain ⟨counted, later⟩ := held
      have waits : framer.feedBodies chunk = ([], { buffer := framer.buffer ++ chunk }) := by
        rw [feedBodies_eq, nextBody_of_overlong (overlong.append chunk) counted]
      rw [waits] at later
      rw [feedAllBodies, waits]
      dsimp only
      rw [ih (overlong.append chunk) later, List.flatten_cons, ← List.append_assoc]
      rfl

/-- Such a framer does not recover: what it waits for stays in its buffer. -/
theorem not_recovers_of_overlong {framer : Framer} (overlong : Overlong framer.buffer)
    : ¬framer.Recovers := by
  rintro ⟨ending, held, empties, -⟩
  rw [feedAllBodies_of_overlong overlong held] at empties
  exact overlong.ne_nil (List.append_eq_nil_iff.mp (Framer.mk.inj empties)).1

/-- A header block and the whole body that it announces leave nothing behind. -/
theorem feedBodies_block {framer : Framer} {ending header body : List UInt8}
    (found : splitAtTerminator (framer.buffer ++ ending) = some (header, body))
    (whole : body.length = (bodyLength? header).getD 0)
    : (framer.feedBodies ending).2 = {} := by
  rw [feedBodies_eq, nextBody_eq, found]
  dsimp only
  cases given : bodyLength? header with
  | none =>
      rw [given, Option.getD_none] at whole
      rw [List.length_eq_zero_iff.mp whole]
      rfl
  | some length =>
      rw [given, Option.getD_some] at whole
      subst whole
      dsimp only
      rw [if_neg (Nat.lt_irrefl _), List.drop_length]
      rfl

/-- The bytes that a framer waits for, unless they are too far away: the rest of the header
block, with the body that it announces then, or the rest of the body.
-/
theorem Settled.exists_ending {framer : Framer} (settled : framer.Settled)
    (reachable : ¬Overlong framer.buffer)
    : ∃ ending,
        (framer.buffer ++ ending).length ≤ lengthLimit ∧ (framer.feedBodies ending).2 = {} := by
  obtain ⟨bytes⟩ := framer
  simp only [Overlong, not_forall, Nat.not_lt] at reachable
  obtain ⟨more, header, rest, found, counted⟩ := reachable
  have enough (ending body : List UInt8)
      (split : bytes ++ ending = header ++ terminator ++ body)
      (whole : body.length = (bodyLength? header).getD 0)
      : (bytes ++ ending).length ≤ lengthLimit
        ∧ (feedBodies { buffer := bytes } ending).2 = {} := by
    constructor
    · rw [split, List.length_append, List.length_append, whole]
      exact counted
    · exact feedBodies_block (split ▸ splitAtTerminator_replace found body) whole
  rcases settled.waits with unended | ⟨header', begun, length, ended, given, short⟩
  · have joined := eq_of_splitAtTerminator found
    rcases List.append_eq_append_iff.mp joined with ⟨back, split, -⟩ | ⟨back, split, -⟩
    · -- The terminator ends behind what has arrived.
      let body := List.replicate ((bodyLength? header).getD 0) (0 : UInt8)
      refine ⟨back ++ body, enough _ body ?_ List.length_replicate⟩
      rw [split, List.append_assoc]
    · have inside : terminator <:+: bytes := ⟨header, back, split.symm⟩
      exact absurd inside ((splitAtTerminator_eq_none_iff bytes).mp unended)
  · rw [splitAtTerminator_append ended] at found
    obtain ⟨rfl, -⟩ := Prod.mk.inj (Option.some.inj found)
    let missing := List.replicate (length - begun.length) (0 : UInt8)
    refine ⟨missing, enough missing (begun ++ missing) ?_ ?_⟩
    · rw [eq_of_splitAtTerminator ended, List.append_assoc]
    · rw [given, Option.getD_some, List.length_append, List.length_replicate]
      omega

/-- A framer with nothing left reads the next frame. -/
theorem feedBodies_encode {body : List UInt8} (counted : (encode body).length ≤ lengthLimit)
    : ({} : Framer).feedBodies (encode body) = ([body], {}) := by
  have fits : body.length ≤ lengthLimit := by
    rw [encode, List.length_append] at counted
    omega
  have next := nextBody_frame (show Stray [] by decide) fits []
  rw [List.nil_append, List.append_nil] at next
  rw [feedBodies_eq]
  dsimp only
  rw [List.nil_append, next]
  rfl

/-- Chunks one after another are fed like those in front and then those behind, by induction on
the ones in front.
-/
theorem feedAllBodies_append (framer : Framer) (front back : List (List UInt8))
    : framer.feedAllBodies (front ++ back)
      = (
          (framer.feedAllBodies front).1 ++ ((framer.feedAllBodies front).2.feedAllBodies back).1,
          ((framer.feedAllBodies front).2.feedAllBodies back).2
        ) := by
  induction front generalizing framer with
  | nil => rfl
  | cons chunk rest ih =>
      rw [List.cons_append, feedAllBodies, feedAllBodies]
      dsimp only
      rw [ih, List.append_assoc]

/-- A framer that waits for what it can reach recovers. -/
theorem Settled.recovers {framer : Framer} (settled : framer.Settled)
    (reachable : ¬Overlong framer.buffer)
    : framer.Recovers := by
  obtain ⟨ending, counted, empties⟩ := settled.exists_ending reachable
  have after : (framer.feedAllBodies [ending]).2 = {} := empties
  refine ⟨[ending], ⟨counted, trivial⟩, after, fun body fits => ?_⟩
  have next : ({} : Framer).feedAllBodies [encode body] = ([body], {}) := by
    rw [feedAllBodies, feedBodies_encode fits]
    rfl
  rw [feedAllBodies_append, after, next]

/-- The framer that has been fed chunks, one after the other. -/
def fed (chunks : List (List UInt8)) : Framer :=
  (({} : Framer).feedAllBodies chunks).2

theorem fed_settled (chunks : List (List UInt8)) : (fed chunks).Settled := by
  have start : ({} : Framer).Settled := rfl
  rw [fed, start.feedAllBodies_eq]
  exact feedBodies_settled {} _

/-- A framer that has been fed recovers unless what it waits for is too far away. In that case
nothing comes out of it any more, whatever it is fed.
-/
theorem recovers_iff (chunks : List (List UInt8))
    : ((fed chunks).Recovers ↔ ¬Overlong (fed chunks).buffer)
      ∧ (Overlong (fed chunks).buffer
        → ∀ more,
            (fed chunks).CanHold more
            → (fed chunks).feedAllBodies more
              = ([], { buffer := (fed chunks).buffer ++ more.flatten })) := by
  refine ⟨⟨fun recovers overlong => ?_, (fed_settled chunks).recovers⟩, ?_⟩
  · exact not_recovers_of_overlong overlong recovers
  · exact fun overlong more held => feedAllBodies_of_overlong overlong held

/-- A header block that announces the longest body that a number can count. -/
def longestHeader : List UInt8 :=
  writtenName ++ writtenLength lengthLimit ++ terminator

/-- The end of the longest body is past what can be counted, and the header block is not
dropped: a framer that has read it waits for ever.
-/
theorem stuck_on_longestHeader
    : ({} : Framer).CanHold [longestHeader]
      ∧ (fed [longestHeader]).buffer = longestHeader
      ∧ (∀ more,
          (fed [longestHeader]).CanHold more
          → (fed [longestHeader]).feedAllBodies more
            = ([], { buffer := longestHeader ++ more.flatten }))
      ∧ ¬(fed [longestHeader]).Recovers := by
  have header
      : splitAtTerminator longestHeader
        = some (writtenName ++ writtenLength lengthLimit, []) := by
    decide +kernel
  have overlong : Overlong longestHeader :=
    (overlong_iff_of_header header).mpr (by decide +kernel)
  have waits : fed [longestHeader] = { buffer := longestHeader } := by
    decide +kernel
  rw [waits]
  refine ⟨⟨by decide +kernel, trivial⟩, rfl, fun more held => ?_, ?_⟩
  · exact feedAllBodies_of_overlong overlong held
  · exact not_recovers_of_overlong overlong

end Framer

end LanguageClient
