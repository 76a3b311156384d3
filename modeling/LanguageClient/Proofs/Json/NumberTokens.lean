import LanguageClient.Proofs.Json.Input

/-! The number at the start of a text is scanned to its end. Part by part, a written number
either stops where the scan goes on, and is shorter, or has the scanned part: a part that has
been left out is followed by nothing that continues it.
-/

namespace LanguageClient.Json

open Decimal (isDigit)

-----------------------------------------------------------------------------------------
-- Digits
-----------------------------------------------------------------------------------------

theorem isDigit_iff (char : Char) : isDigit char = true ↔ char ∈ decimalDigits := by
  constructor
  · have listed : ∀ code < 58, 48 ≤ code → Char.ofNat code ∈ decimalDigits := by decide
    intro digit
    have within : 48 ≤ char.toNat ∧ char.toNat ≤ 57 := by
      simpa [isDigit, Char.le_def, UInt32.le_iff_toNat_le] using digit
    rw [← Char.ofNat_toNat char]
    exact listed _ (Nat.lt_succ_of_le within.2) within.1
  · have digits : ∀ char ∈ decimalDigits, isDigit char = true := by
      simp [decimalDigits, isDigit]
    exact digits char

theorem Digits.isDigit {chars : List Char} (digits : Digits chars)
    : ∀ char ∈ chars, isDigit char = true :=
  fun char member => (isDigit_iff char).mpr (digits.2 char member)

/-- Digits start with a digit. -/
theorem Digits.exists_cons {chars : List Char} (digits : Digits chars)
    : ∃ first rest, chars = first :: rest ∧ Decimal.isDigit first = true := by
  cases chars with
  | nil => exact absurd rfl digits.1
  | cons first rest => exact ⟨first, rest, rfl, digits.isDigit first List.mem_cons_self⟩

theorem digits_takeWhile {chars : List Char} (some : chars.takeWhile isDigit ≠ [])
    : Digits (chars.takeWhile isDigit) :=
  ⟨some, fun char member =>
    (isDigit_iff char).mp (List.all_eq_true.mp List.all_takeWhile char member)⟩

/-- Digits in front of a text that goes on without one are all its digits, or there are more of
them.
-/
theorem digits_of_isPrefix {digits tail chars : List Char}
    (all : ∀ char ∈ digits, isDigit char = true)
    (ends : ∀ char rest, tail = char :: rest → isDigit char = false)
    (starts : digits ++ tail <+: chars)
    : (tail = [] ∧ digits.length < (chars.takeWhile isDigit).length)
      ∨ (digits = chars.takeWhile isDigit ∧ tail <+: chars.dropWhile isDigit) := by
  obtain ⟨more, rfl⟩ := starts
  rw [List.append_assoc, List.takeWhile_append_of_pos all, List.dropWhile_append_of_pos all]
  cases tail with
  | nil =>
      rw [List.nil_append]
      cases next : more.takeWhile isDigit with
      | nil => exact Or.inr ⟨(List.append_nil _).symm, List.nil_prefix⟩
      | cons first rest =>
          refine Or.inl ⟨rfl, ?_⟩
          simp
  | cons char rest =>
      have stop := ends char rest rfl
      rw [List.cons_append, List.takeWhile_cons, List.dropWhile_cons, stop]
      exact Or.inr ⟨(List.append_nil _).symm, more, rfl⟩

-----------------------------------------------------------------------------------------
-- Fractions
-----------------------------------------------------------------------------------------

/-- Everything that scanning a fraction can do: nothing, when no digit follows a point, or take
the point and the digits behind it.
-/
theorem scanFraction_cases (chars : List Char)
    : (scanFraction chars = (([], []), chars)
        ∧ ∀ rest, chars = '.' :: rest → rest.takeWhile isDigit = [])
      ∨ ∃ rest,
          chars = '.' :: rest
          ∧ rest.takeWhile isDigit ≠ []
          ∧ scanFraction chars
            = ((['.'], rest.takeWhile isDigit), rest.dropWhile isDigit) := by
  unfold scanFraction
  split
  · rename_i rest
    cases digits : rest.takeWhile isDigit with
    | nil =>
        refine Or.inl ⟨rfl, fun other same => ?_⟩
        obtain rfl := (List.cons.inj same).2
        exact digits
    | cons first more =>
        exact Or.inr ⟨rest, rfl, by simp [digits], by rw [digits]⟩
  · rename_i different
    exact Or.inl ⟨rfl, fun rest same => (different rest same).elim⟩

/-- A scanned fraction is one that is written, in front of what is left. -/
theorem scanFraction_written (chars : List Char)
    : WrittenFraction (scanFraction chars).1.1 (scanFraction chars).1.2
      ∧ (scanFraction chars).1.1 ++ (scanFraction chars).1.2 ++ (scanFraction chars).2
        = chars := by
  rcases scanFraction_cases chars with ⟨scanned, _⟩ | ⟨rest, rfl, some, scanned⟩
  · rw [scanned]
    exact ⟨Or.inl ⟨rfl, rfl⟩, rfl⟩
  · rw [scanned]
    refine ⟨Or.inr ⟨rfl, digits_takeWhile some⟩, ?_⟩
    exact congrArg ('.' :: ·) List.takeWhile_append_dropWhile

/-- A written fraction is the scanned one, or it is shorter and nothing is written behind it. -/
theorem scanFraction_dominates {point fraction tail chars : List Char}
    (written : WrittenFraction point fraction)
    (ends : ∀ char rest, tail = char :: rest → isDigit char = false ∧ char ≠ '.')
    (starts : point ++ fraction ++ tail <+: chars)
    : (tail = []
        ∧ (point ++ fraction).length
          < ((scanFraction chars).1.1 ++ (scanFraction chars).1.2).length)
      ∨ (point = (scanFraction chars).1.1
        ∧ fraction = (scanFraction chars).1.2
        ∧ tail <+: (scanFraction chars).2) := by
  rcases scanFraction_cases chars with ⟨scanned, absent⟩ | ⟨rest, rfl, some, scanned⟩
  · rw [scanned]
    rcases written with ⟨rfl, rfl⟩ | ⟨rfl, digits⟩
    · exact Or.inr ⟨rfl, rfl, starts⟩
    · obtain ⟨first, others, rfl, digit⟩ := digits.exists_cons
      obtain ⟨more, rfl⟩ := starts
      have none := absent (first :: (others ++ tail ++ more)) rfl
      rw [List.takeWhile_cons_of_pos digit] at none
      cases none
  · rw [scanned]
    rcases written with ⟨rfl, rfl⟩ | ⟨rfl, digits⟩
    · cases tail with
      | nil => exact Or.inl ⟨rfl, by simp⟩
      | cons char behind =>
          have same := (List.cons_prefix_cons.mp starts).1
          exact absurd same (ends char behind rfl).2
    · have behind := (List.cons_prefix_cons.mp starts).2
      rcases digits_of_isPrefix digits.isDigit (fun char rest same => (ends char rest same).1)
          behind with ⟨nothing, shorter⟩ | ⟨same, left⟩
      · exact Or.inl ⟨nothing, Nat.succ_lt_succ shorter⟩
      · exact Or.inr ⟨rfl, same, left⟩

-----------------------------------------------------------------------------------------
-- Exponents
-----------------------------------------------------------------------------------------

/-- Everything that scanning an exponent can do: nothing, when no digit follows a mark, or take
the mark and its sign and digits.
-/
theorem scanExponent_cases (chars : List Char)
    : (scanExponent chars = (([], [], []), chars)
        ∧ ∀ mark rest,
            chars = mark :: rest
            → mark = 'e' ∨ mark = 'E'
            → (scanSign rest).2.takeWhile isDigit = [])
      ∨ ∃ mark rest,
          chars = mark :: rest
          ∧ (mark = 'e' ∨ mark = 'E')
          ∧ (scanSign rest).2.takeWhile isDigit ≠ []
          ∧ scanExponent chars
            = (
                ([mark], (scanSign rest).1, (scanSign rest).2.takeWhile isDigit),
                (scanSign rest).2.dropWhile isDigit
              ) := by
  unfold scanExponent
  split
  · rename_i mark rest
    split
    · rename_i marked
      have named : mark = 'e' ∨ mark = 'E' := by simpa using marked
      dsimp only
      cases digits : (scanSign rest).2.takeWhile isDigit with
      | nil =>
          refine Or.inl ⟨rfl, fun other behind same _ => ?_⟩
          obtain ⟨_, rfl⟩ := List.cons.inj same
          exact digits
      | cons first more =>
          exact Or.inr ⟨mark, rest, rfl, named, by simp [digits], by rw [digits]⟩
    · rename_i unmarked
      refine Or.inl ⟨rfl, fun other behind same named => ?_⟩
      obtain ⟨rfl, _⟩ := List.cons.inj same
      exact absurd (by simpa using named) unmarked
  · exact Or.inl ⟨rfl, fun mark rest same => nomatch same⟩

/-- A sign in front of digits is scanned. -/
theorem scanSign_append {sign digits : List Char}
    (signed : sign = [] ∨ sign = ['+'] ∨ sign = ['-']) (digits' : Digits digits)
    (more : List Char)
    : scanSign (sign ++ (digits ++ more)) = (sign, digits ++ more) := by
  obtain ⟨first, rest, rfl, digit⟩ := digits'.exists_cons
  rcases signed with rfl | rfl | rfl
  · rw [List.nil_append, List.cons_append, scanSign]
    · intro _ same
      obtain ⟨rfl, _⟩ := List.cons.inj same
      exact absurd digit (by decide)
    · intro _ same
      obtain ⟨rfl, _⟩ := List.cons.inj same
      exact absurd digit (by decide)
  · rfl
  · rfl

theorem scanSign_written (chars : List Char)
    : ((scanSign chars).1 = [] ∨ (scanSign chars).1 = ['+'] ∨ (scanSign chars).1 = ['-'])
      ∧ (scanSign chars).1 ++ (scanSign chars).2 = chars := by
  unfold scanSign
  split <;> simp

/-- A scanned exponent is one that is written, in front of what is left. -/
theorem scanExponent_written (chars : List Char)
    : WrittenExponent (scanExponent chars).1.1 (scanExponent chars).1.2.1
          (scanExponent chars).1.2.2
      ∧ (scanExponent chars).1.1 ++ (scanExponent chars).1.2.1 ++ (scanExponent chars).1.2.2
          ++ (scanExponent chars).2
        = chars := by
  rcases scanExponent_cases chars with ⟨scanned, _⟩ | ⟨mark, rest, rfl, marked, some, scanned⟩
  · rw [scanned]
    exact ⟨Or.inl ⟨rfl, rfl, rfl⟩, rfl⟩
  · rw [scanned]
    obtain ⟨signed, split⟩ := scanSign_written rest
    refine ⟨Or.inr ⟨?_, signed, digits_takeWhile some⟩, ?_⟩
    · rcases marked with rfl | rfl
      · exact Or.inl rfl
      · exact Or.inr rfl
    · dsimp only
      rw [List.append_assoc, List.takeWhile_append_dropWhile, List.append_assoc, split]
      rfl

/-- A written exponent is the scanned one, or it is shorter. -/
theorem scanExponent_dominates {mark sign exponent chars : List Char}
    (written : WrittenExponent mark sign exponent) (starts : mark ++ sign ++ exponent <+: chars)
    : (mark ++ sign ++ exponent).length
        < ((scanExponent chars).1.1 ++ (scanExponent chars).1.2.1
          ++ (scanExponent chars).1.2.2).length
      ∨ mark = (scanExponent chars).1.1
        ∧ sign = (scanExponent chars).1.2.1
        ∧ exponent = (scanExponent chars).1.2.2 := by
  rcases written with ⟨rfl, rfl, rfl⟩ | ⟨marked, signed, digits⟩
  · rcases scanExponent_cases chars with ⟨scanned, _⟩ | ⟨mark, rest, rfl, marked, some, scanned⟩
    · rw [scanned]
      exact Or.inr ⟨rfl, rfl, rfl⟩
    · rw [scanned]
      exact Or.inl (by simp)
  · obtain ⟨char, rfl, named⟩ : ∃ char, mark = [char] ∧ (char = 'e' ∨ char = 'E') := by
      rcases marked with rfl | rfl
      · exact ⟨'e', rfl, Or.inl rfl⟩
      · exact ⟨'E', rfl, Or.inr rfl⟩
    obtain ⟨more, rfl⟩ := starts
    have signSplit := scanSign_append signed digits more
    rcases scanExponent_cases ([char] ++ sign ++ exponent ++ more) with
      ⟨_, absent⟩ | ⟨other, rest, same, _, some, scanned⟩
    · have none := absent char (sign ++ (exponent ++ more)) (by simp) named
      obtain ⟨first, others, rfl, digit⟩ := digits.exists_cons
      rw [signSplit, List.cons_append, List.takeWhile_cons_of_pos digit] at none
      cases none
    · obtain ⟨rfl, rfl⟩ : char = other ∧ sign ++ (exponent ++ more) = rest := by simpa using same
      rw [scanned, signSplit]
      dsimp only
      rw [List.takeWhile_append_of_pos digits.isDigit]
      cases behind : more.takeWhile isDigit with
      | nil => exact Or.inr ⟨rfl, rfl, (List.append_nil _).symm⟩
      | cons first others => exact Or.inl (by simp)

-----------------------------------------------------------------------------------------
-- Numbers
-----------------------------------------------------------------------------------------

namespace NumberToken.Written

theorem exists_cons {token : NumberToken} (written : token.Written)
    : ∃ first rest, token.chars = first :: rest ∧ (first = '-' ∨ isDigit first = true) := by
  obtain ⟨first, others, whole, digit⟩ := written.whole.exists_cons
  unfold NumberToken.chars
  rcases written.sign with sign | sign
  · rw [sign, whole]
    exact ⟨first, _, rfl, Or.inr digit⟩
  · rw [sign]
    exact ⟨'-', _, rfl, Or.inl rfl⟩

/-- An exponent is not taken for digits or a fraction. -/
theorem exponent_head {token : NumberToken} (written : token.Written)
    : ∀ char rest,
        token.exponentMark ++ token.exponentSign ++ token.exponent = char :: rest
        → isDigit char = false ∧ char ≠ '.' := by
  intro char rest starts
  rcases written.exponent with ⟨mark, sign, exponent⟩ | ⟨marked, _, _⟩
  · rw [mark, sign, exponent] at starts
    cases starts
  · rcases marked with mark | mark
    · rw [mark] at starts
      obtain ⟨rfl, _⟩ := List.cons.inj starts
      decide
    · rw [mark] at starts
      obtain ⟨rfl, _⟩ := List.cons.inj starts
      decide

/-- What is written behind the whole digits does not go on with a digit. -/
theorem fraction_head {token : NumberToken} (written : token.Written)
    : ∀ char rest,
        token.point ++ token.fraction
          ++ (token.exponentMark ++ token.exponentSign ++ token.exponent)
          = char :: rest
        → isDigit char = false := by
  intro char rest starts
  rcases written.fraction with ⟨point, fraction⟩ | ⟨point, _⟩
  · rw [point, fraction] at starts
    exact (written.exponent_head char rest starts).1
  · rw [point] at starts
    obtain ⟨rfl, _⟩ := List.cons.inj starts
    decide

end NumberToken.Written

theorem NumberToken.chars_eq (token : NumberToken)
    : token.chars
      = token.sign
          ++ (token.whole
            ++ (token.point ++ token.fraction
              ++ (token.exponentMark ++ token.exponentSign ++ token.exponent))) := by
  simp [NumberToken.chars]

theorem NumberToken.length_chars (token : NumberToken)
    : token.chars.length
      = token.sign.length + token.whole.length + (token.point ++ token.fraction).length
        + (token.exponentMark ++ token.exponentSign ++ token.exponent).length := by
  simp only [NumberToken.chars_eq, List.length_append]
  omega

/-- A number whose first digit is known to follow its sign is scanned part by part. -/
theorem scanNumber_eq {sign unsigned : List Char}
    (signed : sign = ['-'] ∨ sign = [] ∧ ∀ rest, unsigned ≠ '-' :: rest)
    (some : unsigned.takeWhile isDigit ≠ [])
    : let fraction := scanFraction (unsigned.dropWhile isDigit)
      let exponent := scanExponent fraction.2
      scanNumber (sign ++ unsigned)
      = (
          {
            sign,
            whole := unsigned.takeWhile isDigit
            point := fraction.1.1
            fraction := fraction.1.2
            exponentMark := exponent.1.1
            exponentSign := exponent.1.2.1
            exponent := exponent.1.2.2
          },
          exponent.2
        ) := by
  have someDigit : ¬ (unsigned.takeWhile isDigit).isEmpty = true := by simpa using some
  rcases signed with rfl | ⟨rfl, positive⟩
  · exact if_neg someDigit
  · rw [List.nil_append]
    unfold scanNumber
    split
    rename_i sign rest split
    split at split
    · exact absurd rfl (positive _)
    · obtain ⟨rfl, rfl⟩ := Prod.mk.inj split
      exact if_neg someDigit

/-- Without a digit behind it, a sign is all that is scanned. -/
theorem scanNumber_none {sign unsigned : List Char}
    (signed : sign = ['-'] ∨ sign = [] ∧ ∀ rest, unsigned ≠ '-' :: rest)
    (none : unsigned.takeWhile isDigit = [])
    : (scanNumber (sign ++ unsigned)).1 = ⟨sign, [], [], [], [], [], []⟩ := by
  have noDigit : (unsigned.takeWhile isDigit).isEmpty = true := by simpa using none
  rcases signed with rfl | ⟨rfl, positive⟩
  · exact congrArg Prod.fst (if_pos noDigit)
  · rw [List.nil_append]
    unfold scanNumber
    split
    rename_i sign rest split
    split at split
    · exact absurd rfl (positive _)
    · obtain ⟨rfl, rfl⟩ := Prod.mk.inj split
      exact congrArg Prod.fst (if_pos noDigit)

/-- Every text is a sign or none and what follows it. -/
theorem exists_sign (text : List Char)
    : ∃ sign unsigned,
        text = sign ++ unsigned
        ∧ (sign = ['-'] ∨ sign = [] ∧ ∀ rest, unsigned ≠ '-' :: rest) := by
  by_cases negative : ∃ rest, text = '-' :: rest
  · obtain ⟨rest, rfl⟩ := negative
    exact ⟨['-'], rest, rfl, Or.inl rfl⟩
  · exact ⟨[], text, rfl, Or.inr ⟨rfl, fun rest same => negative ⟨rest, same⟩⟩⟩

/-- A number that is written behind its sign is the scanned one, or it is shorter. -/
theorem scanNumber_dominates_unsigned {token : NumberToken} {unsigned : List Char}
    (written : token.Written)
    (starts
      : token.whole
          ++ (token.point ++ token.fraction
            ++ (token.exponentMark ++ token.exponentSign ++ token.exponent))
        <+: unsigned)
    : token = (scanNumber (token.sign ++ unsigned)).1
      ∨ token.chars.length < (scanNumber (token.sign ++ unsigned)).1.chars.length := by
  obtain ⟨first, others, whole, digit⟩ := written.whole.exists_cons
  obtain ⟨rest, headed⟩ : ∃ rest, unsigned = first :: rest := by
    obtain ⟨more, rfl⟩ := starts
    exact ⟨_, by rw [whole]; rfl⟩
  have signed : token.sign = ['-'] ∨ token.sign = [] ∧ ∀ rest, unsigned ≠ '-' :: rest := by
    refine written.sign.symm.imp_right fun none => ⟨none, fun rest same => ?_⟩
    obtain ⟨rfl, _⟩ := List.cons.inj (headed.symm.trans same)
    exact absurd digit (by decide)
  have some : unsigned.takeWhile isDigit ≠ [] := by
    rw [headed, List.takeWhile_cons_of_pos digit]
    exact List.cons_ne_nil _ _
  rw [scanNumber_eq signed some, NumberToken.length_chars, NumberToken.length_chars]
  rcases digits_of_isPrefix written.whole.isDigit written.fraction_head starts with
    ⟨nothing, shorter⟩ | ⟨sameWhole, left⟩
  · right
    simp only [List.append_eq_nil_iff] at nothing
    simp only [nothing, List.length_append, List.length_nil]
    omega
  · rcases scanFraction_dominates written.fraction written.exponent_head left with
      ⟨nothing, shorter⟩ | ⟨samePoint, sameFraction, left⟩
    · right
      rw [nothing, ← sameWhole]
      simp only [List.length_nil]
      omega
    · rcases scanExponent_dominates written.exponent left with shorter | ⟨sameMark, sameSign, same⟩
      · right
        dsimp only
        rw [← sameWhole, ← samePoint, ← sameFraction]
        omega
      · left
        rw [← sameWhole, ← samePoint, ← sameFraction, ← sameMark, ← sameSign, ← same]

/-- A written number is the scanned one, or it is shorter. -/
theorem scanNumber_dominates {token : NumberToken} {text : List Char} (written : token.Written)
    (starts : token.chars <+: text)
    : token = (scanNumber text).1 ∨ token.chars.length < (scanNumber text).1.chars.length := by
  obtain ⟨more, rfl⟩ := starts
  rw [token.chars_eq, List.append_assoc, ← token.chars_eq]
  exact scanNumber_dominates_unsigned written (List.prefix_append _ more)

/-- A scanned number with digits is one that is written, in front of what is left. -/
theorem scanNumber_written {text : List Char} (some : (scanNumber text).1.whole ≠ [])
    : (scanNumber text).1.Written
      ∧ (scanNumber text).1.chars ++ (scanNumber text).2 = text := by
  obtain ⟨sign, unsigned, rfl, signed⟩ := exists_sign text
  have digits : unsigned.takeWhile isDigit ≠ [] :=
    fun none => some (congrArg NumberToken.whole (scanNumber_none signed none))
  rw [scanNumber_eq signed digits]
  obtain ⟨fraction, fractionSplit⟩ := scanFraction_written (unsigned.dropWhile isDigit)
  obtain ⟨exponent, exponentSplit⟩ :=
    scanExponent_written (scanFraction (unsigned.dropWhile isDigit)).2
  refine ⟨⟨signed.symm.imp_left And.left, digits_takeWhile digits, fraction, exponent⟩, ?_⟩
  rw [NumberToken.chars_eq]
  simp only [List.append_assoc] at fractionSplit exponentSplit ⊢
  rw [exponentSplit, fractionSplit, List.takeWhile_append_dropWhile]

/-- Where a number is written, digits are scanned. -/
theorem scanNumber_whole {token : NumberToken} {text : List Char} (written : token.Written)
    (starts : token.chars <+: text)
    : (scanNumber text).1.whole ≠ [] := by
  rcases scanNumber_dominates written starts with same | shorter
  · rw [← same]
    exact written.whole.1
  · obtain ⟨sign, unsigned, rfl, signed⟩ := exists_sign text
    by_cases none : unsigned.takeWhile isDigit = []
    · obtain ⟨first, rest, headed, _⟩ := written.exists_cons
      have short : sign.length ≤ 1 := by
        rcases signed with rfl | ⟨rfl, _⟩ <;> simp
      rw [scanNumber_none signed none, headed] at shorter
      simp [NumberToken.chars] at shorter
      omega
    · rw [scanNumber_eq signed none]
      exact none

/-- The longest number that is written at the start of a text is the scanned one. -/
theorem scanNumber_of_longest {token : NumberToken} {rest : List Char}
    (written : token.Written) (longest : token.Longest (token.chars ++ rest))
    : scanNumber (token.chars ++ rest) = (token, rest) := by
  have starts : token.chars <+: token.chars ++ rest := List.prefix_append _ rest
  obtain ⟨scanned, split⟩ := scanNumber_written (scanNumber_whole written starts)
  rcases scanNumber_dominates written starts with same | shorter
  · rw [← same] at split
    exact Prod.ext same.symm (List.append_cancel_left split)
  · exact absurd (longest _ scanned ⟨_, split⟩) (Nat.not_le.mpr shorter)

/-- No number that is written at the start of a text is longer than the scanned one. -/
theorem scanNumber_longest (text : List Char) : (scanNumber text).1.Longest text := by
  intro other written starts
  rcases scanNumber_dominates written starts with same | shorter
  · exact Nat.le_of_eq (congrArg (List.length ∘ NumberToken.chars) same)
  · exact Nat.le_of_lt shorter

-----------------------------------------------------------------------------------------
-- Reading
-----------------------------------------------------------------------------------------

/-- A number that is read is one of the grammar. -/
theorem readNumber_sound {input last : Input} {value : Value}
    (read : readNumber input = .ok (value, last))
    : ∃ token : NumberToken,
        input.chars = token.chars ++ last.chars
        ∧ token.Written
        ∧ token.Longest input.chars
        ∧ token.toDecimal.toNumber.isFinite
        ∧ value = .number token.toDecimal.toNumber
        ∧ last.stop = input.stop := by
  unfold readNumber at read
  dsimp only at read
  split at read
  · cases read
  · rename_i accepted
    obtain ⟨rfl, rfl⟩ := Prod.mk.inj (Except.ok.inj read)
    simp only [Bool.or_eq_true, List.isEmpty_iff, Bool.not_eq_true', not_or,
      Bool.not_eq_false] at accepted
    obtain ⟨some, finite⟩ := accepted
    obtain ⟨written, split⟩ := scanNumber_written some
    exact ⟨_, split.symm, written, scanNumber_longest _, finite, rfl, Input.stop_after split.symm⟩

/-- A number of the grammar is read. -/
theorem readNumber_complete {input : Input} {token : NumberToken} {rest : List Char}
    (starts : input.chars = token.chars ++ rest) (written : token.Written)
    (longest : token.Longest (token.chars ++ rest))
    (finite : token.toDecimal.toNumber.isFinite)
    : ∃ last,
        readNumber input = .ok (.number token.toDecimal.toNumber, last)
        ∧ last.chars = rest := by
  have someDigit : token.whole.isEmpty = false := by simpa using written.whole.1
  unfold readNumber
  rw [starts, scanNumber_of_longest written longest]
  dsimp only
  rw [someDigit, finite]
  exact ⟨_, rfl, rfl⟩

end LanguageClient.Json
