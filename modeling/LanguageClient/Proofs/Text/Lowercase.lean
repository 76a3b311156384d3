import LanguageClient.Text.Lowercase
import Mathlib.Logic.Basic

/-! The lowercase of a part of a text. Besides the part it depends on the case of what stands on
both sides, and on that only where the part has a capital sigma of which it does not settle itself
whether it ends a word.
-/

namespace LanguageClient.Text

-----------------------------------------------------------------------------------------
-- The case of a side
-----------------------------------------------------------------------------------------

/-- Whether a character has a case, unless case ignores it. -/
def charCase? (char : Char) : Option Bool :=
  if inRanges caseIgnorableRanges char then none else some (inRanges casedRanges char)

/-- Whether the first character that case does not ignore has a case, if there is one. -/
def startCase? (text : List Char) : Option Bool :=
  text.findSome? charCase?

theorem startCase?_cons (char : Char) (rest : List Char)
    : startCase? (char :: rest) = (charCase? char).or (startCase? rest) := by
  rw [startCase?, List.findSome?_cons]
  cases charCase? char <;> rfl

theorem startCase?_singleton (char : Char) : startCase? [char] = charCase? char := by
  rw [startCase?_cons]
  exact Option.or_none

theorem startCase?_append (front back : List Char)
    : startCase? (front ++ back) = (startCase? front).or (startCase? back) :=
  List.findSome?_append

theorem startsCased_iff (text : List Char)
    : startsCased text = true ↔ startCase? text = some true := by
  induction text with
  | nil => exact ⟨nofun, nofun⟩
  | cons char rest ih =>
      rw [startCase?_cons, startsCased, charCase?]
      by_cases ignored : inRanges caseIgnorableRanges char = true
      · rw [List.dropWhile_cons_of_pos ignored, if_pos ignored]
        exact ih
      · rw [List.dropWhile_cons_of_neg ignored, if_neg ignored]
        simp

-----------------------------------------------------------------------------------------
-- Parts of a text
-----------------------------------------------------------------------------------------

def isSigma (char : Char) : Bool :=
  char.toNat == 0x3A3

/-- The lowercase of a capital sigma between sides with a case: final at the end of a word. -/
def lowercaseSigma (before behind : Option Bool) : Char :=
  Char.ofNat (if before = some true ∧ behind ≠ some true then 0x3C2 else 0x3C3)

/-- The lowercase of a part of a text, given the cases on both sides of it. -/
def lowercaseBetween (before : Option Bool) (part : List Char) (behind : Option Bool) : List Char :=
  match part with
  | [] => []
  | char :: rest =>
    let lowered :=
      if isSigma char then
        [lowercaseSigma before ((startCase? rest).or behind)]
      else
        lowercaseChar char
    lowered ++ lowercaseBetween ((charCase? char).or before) rest behind

theorem lowercaseBetween_append (before behind : Option Bool) (front back : List Char)
    : lowercaseBetween before (front ++ back) behind
      = lowercaseBetween before front ((startCase? back).or behind)
        ++ lowercaseBetween ((startCase? front.reverse).or before) back behind := by
  induction front generalizing before with
  | nil => rfl
  | cons char front ih =>
      rw [List.cons_append, lowercaseBetween, lowercaseBetween, ih, List.append_assoc,
        startCase?_append, Option.or_assoc, List.reverse_cons, startCase?_append, Option.or_assoc,
        startCase?_singleton]

theorem lowercaseSigma_eq (before rest : List Char)
    : Char.ofNat (if startsCased before && !startsCased rest then 0x3C2 else 0x3C3)
      = lowercaseSigma (startCase? before) (startCase? rest) := by
  have final
      : (startsCased before && !startsCased rest) = true
        ↔ startCase? before = some true ∧ startCase? rest ≠ some true := by
    rw [Bool.and_eq_true, startsCased_iff, Bool.not_eq_true', ← Bool.not_eq_true, startsCased_iff]
  simp only [lowercaseSigma, final]

/-- A whole text stands between sides without a case. -/
theorem lowercaseAfter_eq (before text : List Char)
    : lowercaseAfter before text = lowercaseBetween (startCase? before) text none := by
  induction text generalizing before with
  | nil => rfl
  | cons char rest ih =>
      rw [lowercaseAfter, lowercaseBetween, ih, startCase?_cons, lowercaseSigma_eq, Option.or_none,
        isSigma]
      simp only [beq_iff_eq]

theorem toList_lowercase (text : String)
    : (lowercase text).toList = lowercaseBetween none text.toList none := by
  rw [lowercase, String.toList_ofList, lowercaseAfter_eq]
  rfl

-----------------------------------------------------------------------------------------
-- Parts that are lowercased alike
-----------------------------------------------------------------------------------------

/-- Whether the cases next to a capital sigma settle how it is written, whatever stands beyond
them: it is not final behind a character without a case or before one that has a case, and it is
final between one that has a case and one that has none.
-/
def Settled (before behind : Option Bool) : Prop :=
  before = some false ∨ behind = some true ∨ before = some true ∧ behind = some false

/-- All capital sigmas of a text are settled within it. -/
def SigmasSettled (text : List Char) : Prop :=
  ∀ before sigma behind,
    text = before ++ sigma :: behind
    → isSigma sigma = true
    → Settled (startCase? before.reverse) (startCase? behind)

theorem Settled.lowercaseSigma_eq {before behind : Option Bool} (settled : Settled before behind)
    (outer outer' : Option Bool)
    : lowercaseSigma (before.or outer) (behind.or outer') = lowercaseSigma before behind := by
  rcases settled with rfl | rfl | ⟨rfl, rfl⟩
  · rfl
  · simp [lowercaseSigma]
  · rfl

/-- A text whose capital sigmas are settled has one lowercase, wherever it stands. The induction is
on what remains of the text behind a start of it.
-/
theorem SigmasSettled.lowercaseBetween_eq {text : List Char} (settled : SigmasSettled text)
    (before behind : Option Bool)
    : lowercaseBetween before text behind = lowercaseBetween none text none := by
  suffices alike
      : ∀ passed rest,
          text = passed ++ rest
          → lowercaseBetween ((startCase? passed.reverse).or before) rest behind
            = lowercaseBetween (startCase? passed.reverse) rest none from
    alike [] text rfl
  intro passed rest
  induction rest generalizing passed with
  | nil => exact fun _ => rfl
  | cons char rest ih =>
      intro same
      have later := ih (passed ++ [char]) (by rw [same, List.append_assoc]; rfl)
      rw [List.reverse_append, List.reverse_singleton, List.singleton_append, startCase?_cons,
        Option.or_assoc] at later
      rw [lowercaseBetween, lowercaseBetween, later]
      congr 1
      split
      · rename_i sigma
        rw [(settled passed char rest same sigma).lowercaseSigma_eq, Option.or_none]
      · rfl

-----------------------------------------------------------------------------------------
-- Parts that are not
-----------------------------------------------------------------------------------------

theorem charCase?_of_isSigma {char : Char} (sigma : isSigma char = true)
    : charCase? char = some true := by
  have code : char.toNat = 0x3A3 := beq_iff_eq.mp sigma
  rw [← Char.ofNat_toNat char, code]
  decide +kernel

/-- Without capital sigmas every character has its own lowercase. -/
theorem lowercaseBetween_of_none {text : List Char} (none : ∀ char ∈ text, charCase? char = none)
    (before behind : Option Bool)
    : lowercaseBetween before text behind = text.flatMap lowercaseChar := by
  induction text generalizing before with
  | nil => rfl
  | cons char rest ih =>
      obtain ⟨ignored, none⟩ := List.forall_mem_cons.mp none
      have notSigma : ¬ isSigma char = true := fun sigma => by
        rw [charCase?_of_isSigma sigma] at ignored
        cases ignored
      rw [lowercaseBetween, if_neg notSigma, ih none, List.flatMap_cons]

theorem lowercaseBetween_sigma {sigma : Char} (isSigma : isSigma sigma = true)
    (before behind : Option Bool) (front back : List Char)
    : lowercaseBetween before (front ++ sigma :: back) behind
      = lowercaseBetween before front (some true)
        ++ lowercaseSigma ((startCase? front.reverse).or before) ((startCase? back).or behind)
          :: lowercaseBetween (some true) back behind := by
  rw [lowercaseBetween_append, lowercaseBetween, if_pos isSigma, startCase?_cons,
    charCase?_of_isSigma isSigma]
  rfl

/-- A character is missing where another one has been put in its place. -/
theorem not_infix_of_replaced {char char' : Char} (differs : char' ≠ char)
    {front back start stop : List Char} (outside : char ∉ start) (outside' : char ∉ stop)
    : ¬ front ++ char :: back <:+: start ++ (front ++ char' :: back) ++ stop := by
  intro within
  have fewer := within.sublist.count_le char
  rw [List.count_append, List.count_append, List.count_append, List.count_append,
    List.count_cons_self, List.count_cons_of_ne differs, List.count_eq_zero.mpr outside,
    List.count_eq_zero.mpr outside'] at fewer
  omega

theorem lowercaseBetween_letter (before behind : Option Bool)
    : lowercaseBetween before ['a'] behind = ['a'] := by
  have itself : lowercaseChar 'a' = ['a'] := by decide +kernel
  rw [lowercaseBetween, if_neg (by decide), itself]
  rfl

theorem startCase?_letter : startCase? ['a'] = some true := by
  decide +kernel

theorem lowercaseBetween_behind_letter (text : List Char)
    : lowercaseBetween none (['a'] ++ text) none
      = ['a'] ++ lowercaseBetween (some true) text none := by
  rw [lowercaseBetween_append, lowercaseBetween_letter, List.reverse_singleton, startCase?_letter,
    Option.or_none]

theorem lowercaseBetween_before_letter (text : List Char)
    : lowercaseBetween none (text ++ ['a']) none
      = lowercaseBetween none text (some true) ++ ['a'] := by
  rw [lowercaseBetween_append, lowercaseBetween_letter, startCase?_letter, Option.or_none]

/-- A text with a capital sigma that is not settled has another lowercase next to a letter: behind
the letter the sigma becomes final, before the letter it is final no longer.
-/
theorem exists_not_infix_of_unsettled {text : List Char} (unsettled : ¬ SigmasSettled text)
    : ∃ front back,
        ¬ lowercaseBetween none text none
          <:+: lowercaseBetween none (front ++ text ++ back) none := by
  simp only [SigmasSettled, not_forall] at unsettled
  obtain ⟨before, sigma, behind, rfl, isSigma, unsettled⟩ := unsettled
  simp only [Settled, not_or, not_and] at unsettled
  obtain ⟨cased, uncased, unsettled⟩ := unsettled
  have outside (char : Char) (differs : 'a' ≠ char) : char ∉ ['a'] :=
    fun inside => differs (List.mem_singleton.mp inside).symm
  cases side : startCase? before.reverse with
  | none =>
      have ignored : ∀ char ∈ before, charCase? char = none := fun char inside =>
        List.findSome?_eq_none_iff.mp side char (List.mem_reverse.mpr inside)
      have medial : lowercaseSigma none (startCase? behind) = Char.ofNat 0x3C3 := rfl
      have final : lowercaseSigma (some true) (startCase? behind) = Char.ofNat 0x3C2 := by
        rw [lowercaseSigma, if_pos ⟨rfl, uncased⟩]
      refine ⟨['a'], [], ?_⟩
      rw [List.append_nil, lowercaseBetween_behind_letter, lowercaseBetween_sigma isSigma,
        lowercaseBetween_sigma isSigma, side, Option.or_none, Option.or_none, Option.none_or,
        medial, final, lowercaseBetween_of_none ignored, lowercaseBetween_of_none ignored,
        ← List.append_nil (['a'] ++ _)]
      exact not_infix_of_replaced (by decide) (outside _ (by decide)) List.not_mem_nil
  | some isCased =>
      obtain rfl : isCased = true := by
        cases isCased with
        | false => exact absurd side cased
        | true => rfl
      have bare : startCase? behind = none := by
        cases other : startCase? behind with
        | none => rfl
        | some isCased' =>
            cases isCased' with
            | false => exact absurd other (unsettled side)
            | true => exact absurd other uncased
      have ignored : ∀ char ∈ behind, charCase? char = none :=
        List.findSome?_eq_none_iff.mp bare
      have final : lowercaseSigma (some true) none = Char.ofNat 0x3C2 := rfl
      have medial : lowercaseSigma (some true) (some true) = Char.ofNat 0x3C3 := rfl
      refine ⟨[], ['a'], ?_⟩
      rw [List.nil_append, lowercaseBetween_before_letter, lowercaseBetween_sigma isSigma,
        lowercaseBetween_sigma isSigma, side, bare, Option.or_none, Option.or_none, Option.none_or,
        final, medial, lowercaseBetween_of_none ignored, lowercaseBetween_of_none ignored,
        ← List.nil_append (_ ++ _)]
      exact not_infix_of_replaced (by decide) List.not_mem_nil (outside _ (by decide))

end LanguageClient.Text
