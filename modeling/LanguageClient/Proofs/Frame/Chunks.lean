import LanguageClient.Frame

/-! Where a stream is cut into chunks does not matter. A decision is only made on a whole
header block or a whole body, so more bytes behind it change nothing, and what is left over
is what the next chunk is put behind.
-/

namespace LanguageClient

open Json (Value)

namespace Frame

/-- Splitting at a terminator takes the bytes apart, by induction on the bytes in front. -/
theorem eq_of_splitAtTerminator {bytes header rest : List UInt8}
    (found : splitAtTerminator bytes = some (header, rest))
    : bytes = header ++ terminator ++ rest := by
  fun_induction splitAtTerminator bytes generalizing header rest with
  | case1 => cases found
  | case2 behind =>
      obtain ⟨rfl, rfl⟩ := Prod.mk.inj (Option.some.inj found)
      rfl
  | case3 byte behind _ ih =>
      obtain ⟨split, later, same⟩ := Option.map_eq_some_iff.mp found
      obtain ⟨rfl, rfl⟩ := Prod.mk.inj same
      rw [ih later, List.cons_append, List.cons_append]

/-- The first terminator stays the first one when more bytes arrive, by induction on the
bytes in front of it.
-/
theorem splitAtTerminator_append {bytes header rest : List UInt8}
    (found : splitAtTerminator bytes = some (header, rest)) (more : List UInt8)
    : splitAtTerminator (bytes ++ more) = some (header, rest ++ more) := by
  fun_induction splitAtTerminator bytes generalizing header rest with
  | case1 => cases found
  | case2 behind =>
      obtain ⟨rfl, rfl⟩ := Prod.mk.inj (Option.some.inj found)
      rfl
  | case3 byte behind other ih =>
      obtain ⟨split, later, same⟩ := Option.map_eq_some_iff.mp found
      obtain ⟨rfl, rfl⟩ := Prod.mk.inj same
      rw [List.cons_append, splitAtTerminator, ih later, Option.map_some]
      -- Three bytes have arrived behind this one, so a terminator would have started at it.
      intro tail first joined
      have arrived : 3 ≤ behind.length := by
        rw [eq_of_splitAtTerminator later]
        simp [terminator]
        omega
      have front : behind.take 3 = [10, 13, 10] := by
        rw [← List.take_append_of_le_length arrived, joined]
        rfl
      refine other (behind.drop 3) first ?_
      rw [← List.take_append_drop 3 behind, front]
      simp

/-- What follows a terminator is shorter than what it is in. -/
theorem length_lt_of_splitAtTerminator {bytes header rest : List UInt8}
    (found : splitAtTerminator bytes = some (header, rest))
    : rest.length < bytes.length := by
  rw [eq_of_splitAtTerminator found]
  simp [terminator]
  omega

end Frame

namespace Framer

-----------------------------------------------------------------------------------------
-- One body
-----------------------------------------------------------------------------------------

/-- Any bound will do that covers the bytes, by induction on the bound: every dropped header
block takes bytes.
-/
theorem takeBody_bound {bound : Nat} {bytes : List UInt8} (covered : bytes.length ≤ bound)
    : takeBody bound bytes = takeBody bytes.length bytes := by
  induction bound using Nat.strongRecOn generalizing bytes with
  | ind bound ih =>
      cases bound with
      | zero => rw [Nat.le_zero.mp covered]
      | succ bound =>
          cases bytes with
          | nil => rfl
          | cons byte behind =>
              rw [List.length_cons] at covered
              rw [List.length_cons, takeBody, takeBody]
              cases split : Frame.splitAtTerminator (byte :: behind) with
              | none => rfl
              | some parts =>
                  obtain ⟨header, rest⟩ := parts
                  have shorter := Frame.length_lt_of_splitAtTerminator split
                  rw [List.length_cons] at shorter
                  dsimp only
                  cases Frame.bodyLength? header with
                  | some length => rfl
                  | none =>
                      dsimp only
                      rw [ih bound (by omega) (by omega), ih behind.length (by omega) (by omega)]

/-- What a framer does with the first header block: wait for the rest of it, drop it, wait
for its body, or take the body.
-/
theorem nextBody_eq (bytes : List UInt8)
    : nextBody { buffer := bytes }
      = match Frame.splitAtTerminator bytes with
        | none => (none, { buffer := bytes })
        | some (header, rest) =>
          match Frame.bodyLength? header with
          | none => nextBody { buffer := rest }
          | some length =>
            if rest.length < length then
              (none, { buffer := bytes })
            else
              (some (rest.take length), { buffer := rest.drop length }) := by
  cases bytes with
  | nil => rfl
  | cons byte behind =>
      unfold nextBody
      dsimp only [List.length_cons]
      rw [takeBody]
      cases split : Frame.splitAtTerminator (byte :: behind) with
      | none => rfl
      | some parts =>
          obtain ⟨header, rest⟩ := parts
          have shorter := Frame.length_lt_of_splitAtTerminator split
          rw [List.length_cons] at shorter
          dsimp only
          cases Frame.bodyLength? header with
          | none =>
              dsimp only
              rw [takeBody_bound (by omega)]
          | some length =>
              dsimp only
              split <;> rfl

/-- Everything that a framer can do: wait, drop a header block, or take a body. It goes on
like that when more bytes arrive, unless it has been waiting.
-/
theorem nextBody_cases (bytes : List UInt8)
    : nextBody { buffer := bytes } = (none, { buffer := bytes })
      ∨ (∃ rest,
          rest.length < bytes.length
          ∧ ∀ more, nextBody { buffer := bytes ++ more } = nextBody { buffer := rest ++ more })
      ∨ ∃ body rest,
          rest.length < bytes.length
          ∧ ∀ more,
              nextBody { buffer := bytes ++ more } = (some body, { buffer := rest ++ more }) := by
  cases split : Frame.splitAtTerminator bytes with
  | none => exact Or.inl (by rw [nextBody_eq, split])
  | some parts =>
      obtain ⟨header, rest⟩ := parts
      have shorter := Frame.length_lt_of_splitAtTerminator split
      cases given : Frame.bodyLength? header with
      | none =>
          refine Or.inr (Or.inl ⟨rest, shorter, fun more => ?_⟩)
          rw [nextBody_eq, Frame.splitAtTerminator_append split]
          dsimp only
          rw [given]
      | some length =>
          by_cases short : rest.length < length
          · refine Or.inl ?_
            rw [nextBody_eq, split]
            dsimp only
            rw [given]
            exact if_pos short
          · have whole : length ≤ rest.length := Nat.le_of_not_lt short
            refine Or.inr (Or.inr ⟨rest.take length, rest.drop length, ?_, fun more => ?_⟩)
            · rw [List.length_drop]
              omega
            · have enough : ¬ (rest ++ more).length < length := by
                rw [List.length_append]
                omega
              rw [nextBody_eq, Frame.splitAtTerminator_append split]
              dsimp only
              rw [given]
              dsimp only
              rw [if_neg enough, List.take_append_of_le_length whole,
                List.drop_append_of_le_length whole]

/-- A framer is settled when it waits: nothing more can be taken or dropped. -/
def Settled (framer : Framer) : Prop :=
  framer.nextBody = (none, framer)

/-- A body that has been taken is taken alike when more bytes arrive, by induction on the
bytes.
-/
theorem nextBody_append_some {bytes body : List UInt8} {after : Framer}
    (taken : nextBody { buffer := bytes } = (some body, after)) (more : List UInt8)
    : after.buffer.length < bytes.length
      ∧ nextBody { buffer := bytes ++ more }
        = (some body, { buffer := after.buffer ++ more }) := by
  induction size : bytes.length using Nat.strongRecOn generalizing bytes with
  | ind count ih =>
      subst size
      rcases nextBody_cases bytes with
        waits | ⟨rest, shorter, drops⟩ | ⟨other, rest, shorter, takes⟩
      · rw [waits] at taken
        cases (Prod.mk.inj taken).1
      · have dropped := drops []
        rw [List.append_nil, List.append_nil] at dropped
        obtain ⟨fewer, later⟩ := ih rest.length shorter (dropped.symm.trans taken) rfl
        exact ⟨Nat.lt_trans fewer shorter, (drops more).trans later⟩
      · have took := takes []
        rw [List.append_nil, List.append_nil, taken] at took
        obtain ⟨same, rfl⟩ := Prod.mk.inj took
        obtain rfl := Option.some.inj same
        exact ⟨shorter, takes more⟩

/-- A framer that takes no body comes to wait, and more bytes are put behind what it waits
with, by induction on the bytes.
-/
theorem nextBody_append_none {bytes : List UInt8} {after : Framer}
    (nothing : nextBody { buffer := bytes } = (none, after)) (more : List UInt8)
    : after.Settled
      ∧ nextBody { buffer := bytes ++ more } = nextBody { buffer := after.buffer ++ more } := by
  induction size : bytes.length using Nat.strongRecOn generalizing bytes with
  | ind count ih =>
      subst size
      rcases nextBody_cases bytes with
        waits | ⟨rest, shorter, drops⟩ | ⟨other, rest, shorter, takes⟩
      · rw [waits] at nothing
        obtain ⟨_, rfl⟩ := Prod.mk.inj nothing
        exact ⟨waits, rfl⟩
      · have dropped := drops []
        rw [List.append_nil, List.append_nil] at dropped
        obtain ⟨settled, later⟩ := ih rest.length shorter (dropped.symm.trans nothing) rfl
        exact ⟨settled, (drops more).trans later⟩
      · have took := takes []
        rw [List.append_nil, nothing] at took
        cases (Prod.mk.inj took).1

-----------------------------------------------------------------------------------------
-- All bodies
-----------------------------------------------------------------------------------------

/-- Any bound will do that covers the buffer: every body takes bytes. -/
theorem takeBodies_bound {bound : Nat} {framer : Framer}
    (covered : framer.buffer.length ≤ bound)
    : takeBodies bound framer = takeBodies framer.buffer.length framer := by
  induction bound using Nat.strongRecOn generalizing framer with
  | ind bound ih =>
      obtain ⟨bytes⟩ := framer
      cases bound with
      | zero => rw [Nat.le_zero.mp covered]
      | succ bound =>
          cases bytes with
          | nil => rfl
          | cons byte behind =>
              dsimp only [List.length_cons] at covered ⊢
              rw [takeBodies, takeBodies]
              cases next : nextBody { buffer := byte :: behind } with
              | mk body rest =>
                  cases body with
                  | none => rfl
                  | some body =>
                      have shorter := (nextBody_append_some next []).1
                      rw [List.length_cons] at shorter
                      dsimp only
                      rw [ih bound (by omega) (by omega), ih behind.length (by omega) (by omega)]

/-- Every whole body is taken in its turn. -/
theorem feedBodies_eq (framer : Framer) (chunk : List UInt8)
    : framer.feedBodies chunk
      = match nextBody { buffer := framer.buffer ++ chunk } with
        | (none, rest) => ([], rest)
        | (some body, rest) => (body :: (rest.feedBodies []).1, (rest.feedBodies []).2) := by
  unfold feedBodies
  dsimp only
  cases bytes : framer.buffer ++ chunk with
  | nil => rfl
  | cons byte behind =>
      rw [List.length_cons, takeBodies]
      cases next : nextBody { buffer := byte :: behind } with
      | mk body rest =>
          cases body with
          | none => rfl
          | some body =>
              have shorter := (nextBody_append_some next []).1
              rw [List.length_cons] at shorter
              simp only [List.append_nil]
              rw [takeBodies_bound (by omega)]

/-- Only the bytes count, not which of them have been in the buffer. -/
theorem feedBodies_buffer (framer : Framer) (chunk : List UInt8)
    : framer.feedBodies chunk = feedBodies { buffer := framer.buffer ++ chunk } [] := by
  unfold feedBodies
  rw [List.append_nil]

/-- A chunk in two parts gives the same bodies as its parts one after the other, by induction
on the bytes.
-/
theorem feedBodies_append (framer : Framer) (first second : List UInt8)
    : framer.feedBodies (first ++ second)
      = (
          (framer.feedBodies first).1 ++ ((framer.feedBodies first).2.feedBodies second).1,
          ((framer.feedBodies first).2.feedBodies second).2
        ) := by
  induction size : (framer.buffer ++ first).length using Nat.strongRecOn
      generalizing framer first with
  | ind count ih =>
      subst size
      rw [feedBodies_eq framer first, feedBodies_eq framer (first ++ second),
        ← List.append_assoc]
      cases next : nextBody { buffer := framer.buffer ++ first } with
      | mk body rest =>
          cases body with
          | none =>
              rw [(nextBody_append_none next second).2]
              dsimp only
              rw [List.nil_append, ← feedBodies_eq]
          | some body =>
              obtain ⟨shorter, later⟩ := nextBody_append_some next second
              rw [later]
              dsimp only
              rw [← feedBodies_buffer, List.cons_append]
              have rest' := ih rest.buffer.length shorter rest [] (by rw [List.append_nil])
              rw [List.nil_append] at rest'
              rw [rest']

/-- A framer that has been fed waits. -/
theorem feedBodies_settled (framer : Framer) (chunk : List UInt8)
    : (framer.feedBodies chunk).2.Settled := by
  induction size : (framer.buffer ++ chunk).length using Nat.strongRecOn
      generalizing framer chunk with
  | ind count ih =>
      subst size
      rw [feedBodies_eq framer chunk]
      cases next : nextBody { buffer := framer.buffer ++ chunk } with
      | mk body rest =>
          cases body with
          | none => exact (nextBody_append_none next []).1
          | some body =>
              have shorter := (nextBody_append_some next []).1
              exact ih rest.buffer.length shorter rest [] (by rw [List.append_nil])

-----------------------------------------------------------------------------------------
-- Messages
-----------------------------------------------------------------------------------------

theorem feed_append (framer : Framer) (first second : List UInt8)
    : framer.feed (first ++ second)
      = (
          (framer.feed first).1 ++ ((framer.feed first).2.feed second).1,
          ((framer.feed first).2.feed second).2
        ) := by
  simp only [feed, feedBodies_append, List.filterMap_append]

theorem feed_settled (framer : Framer) (chunk : List UInt8)
    : (framer.feed chunk).2.Settled :=
  framer.feedBodies_settled chunk

/-- An empty chunk leaves a framer that waits as it is. -/
theorem Settled.feed_nil {framer : Framer} (settled : framer.Settled)
    : framer.feed [] = ([], framer) := by
  have waits : framer.feedBodies [] = ([], framer) := by
    rw [feedBodies_eq, List.append_nil, settled]
  rw [feed, waits]
  rfl

/-- Take the messages of chunks in their order. -/
def feedAll (framer : Framer) : List (List UInt8) → List Value × Framer
  | [] => ([], framer)
  | chunk :: rest =>
    let (messages, fed) := framer.feed chunk
    let (more, last) := fed.feedAll rest
    (messages ++ more, last)

/-- Chunks give what their bytes give as one chunk, by induction on the chunks. Without any
chunk this only holds of a framer that waits.
-/
theorem feedAll_eq_feed {framer : Framer} {chunks : List (List UInt8)}
    (given : framer.Settled ∨ chunks ≠ [])
    : framer.feedAll chunks = framer.feed chunks.flatten := by
  induction chunks generalizing framer with
  | nil =>
      rcases given with settled | absent
      · exact settled.feed_nil.symm
      · exact absurd rfl absent
  | cons chunk rest ih =>
      have later := ih (Or.inl (framer.feed_settled chunk))
      rw [List.flatten_cons, feed_append, ← later]
      rfl

/-- A framer that waits does so again after any chunks. -/
theorem Settled.feedAll {framer : Framer} (settled : framer.Settled) (chunks : List (List UInt8))
    : (framer.feedAll chunks).2.Settled := by
  rw [feedAll_eq_feed (Or.inl settled)]
  exact framer.feed_settled _

end Framer

end LanguageClient
