import LanguageClient.Proofs.Completion.Snippets

/-! Tab stops without braces, choices and defaults, with their texts escaped as little as the
protocol asks for. A tab stop takes the name characters behind it along, a choice is not read
back where it is escaped, and braces that are no part of a place have to pair up; apart from that
every place is at its default.
-/

namespace LanguageClient.Snippet

-----------------------------------------------------------------------------------------
-- Braces that are open
-----------------------------------------------------------------------------------------

/-- How many braces are open behind a text, given how many are before it, unless one is closed
that is not open.
-/
def openBehind? : Nat → List Char → Option Nat
  | depth, [] => some depth
  | depth, char :: rest =>
    if char = '\x7b' then
      openBehind? (depth + 1) rest
    else if char = '\x7d' then
      if depth = 0 then none else openBehind? (depth - 1) rest
    else
      openBehind? depth rest

theorem openBehind?_append (depth : Nat) (front back : List Char)
    : openBehind? depth (front ++ back) = (openBehind? depth front).bind (openBehind? · back) := by
  induction front generalizing depth with
  | nil => rfl
  | cons char front ih =>
      rw [List.cons_append, openBehind?, openBehind?]
      split
      · exact ih (depth + 1)
      · split
        · split
          · rfl
          · exact ih (depth - 1)
        · exact ih depth

/-- Characters that are no braces make no difference. -/
theorem openBehind?_filter {kept : Char → Bool} (opening : kept '\x7b' = true)
    (closing : kept '\x7d' = true) (depth : Nat) (text : List Char)
    : openBehind? depth (text.filter kept) = openBehind? depth text := by
  induction text generalizing depth with
  | nil => rfl
  | cons char text ih =>
      rw [List.filter_cons]
      split
      · rw [openBehind?, openBehind?, ih, ih, ih]
      · rename_i dropped
        have notOpening : char ≠ '\x7b' := by
          rintro rfl
          exact dropped opening
        have notClosing : char ≠ '\x7d' := by
          rintro rfl
          exact dropped closing
        rw [openBehind?, if_neg notOpening, if_neg notClosing, ih]

/-- Where nothing is closed, all that has been opened is open. -/
theorem openBehind?_of_unclosed {text : List Char} (unclosed : '\x7d' ∉ text) (depth : Nat)
    : openBehind? depth text = some (depth + text.count '\x7b') := by
  induction text generalizing depth with
  | nil => rfl
  | cons char text ih =>
      have notClosing : char ≠ '\x7d' := (List.ne_of_not_mem_cons unclosed).symm
      have inner := ih (List.not_mem_of_not_mem_cons unclosed)
      by_cases opening : char = '\x7b'
      · rw [openBehind?, if_pos opening, inner, opening, List.count_cons_self, Nat.add_right_comm,
          Nat.add_assoc]
      · rw [openBehind?, if_neg opening, if_neg notClosing, inner, List.count_cons_of_ne opening]

/-- What is closed without being open is the first such brace of the text. -/
theorem exists_stray {depth : Nat} {text : List Char} (stray : openBehind? depth text = none)
    : ∃ before behind,
        text = before ++ '\x7d' :: behind ∧ openBehind? depth before = some 0 := by
  induction text generalizing depth with
  | nil => cases stray
  | cons char text ih =>
      have later {depth' : Nat}
          (step : ∀ rest, openBehind? depth (char :: rest) = openBehind? depth' rest)
          : ∃ before behind,
              char :: text = before ++ '\x7d' :: behind ∧ openBehind? depth before = some 0 := by
        rw [step] at stray
        obtain ⟨before, behind, same, closed⟩ := ih stray
        exact ⟨char :: before, behind, by rw [same, List.cons_append], (step before).trans closed⟩
      by_cases opening : char = '\x7b'
      · exact later fun rest => by rw [openBehind?, if_pos opening]
      · by_cases closing : char = '\x7d'
        · by_cases none : depth = 0
          · exact ⟨[], text, by rw [closing]; rfl, by rw [none]; rfl⟩
          · exact later fun rest => by
              rw [openBehind?, if_neg opening, if_pos closing, if_neg none]
        · exact later fun rest => by rw [openBehind?, if_neg opening, if_neg closing]

theorem Balanced.passes {text : List Char} (balanced : Balanced text) (depth : Nat)
    : Passes (depth + 1) (depth + 1) text :=
  balanced (depth + 1) (Nat.succ_pos depth)

/-- Where the text ends with braces to close, the search fails. -/
theorem Passes.split_none {depth depth' : Nat} {text : List Char}
    (passes : Passes depth depth' text)
    : splitAtBrace depth text = none := by
  have whole := passes []
  rwa [List.append_nil, splitAtBrace, Option.map_none] at whole

-----------------------------------------------------------------------------------------
-- Escaped texts
-----------------------------------------------------------------------------------------

/-- The characters that are escaped in a text. -/
def isTextMark (char : Char) : Bool :=
  char == '\\' || char == '$' || char == '\x7d'

/-- The characters that are escaped in a choice. -/
def isChoiceMark (char : Char) : Bool :=
  char == '\\' || char == ',' || char == '|'

theorem length_le_quote (marked : Char → Bool) (text : List Char)
    : text.length ≤ (quote marked text).length := by
  induction text with
  | nil => exact Nat.le_refl 0
  | cons char text ih =>
      rw [quote_cons, List.length_append, List.length_cons]
      split <;> simp only [List.length_cons, List.length_nil] <;> omega

/-- Escapes go by in pairs, so the search meets the braces that are not escaped. -/
theorem passes_quote {marked : Char → Bool} (escapes : marked '\\' = true) {depth depth' : Nat}
    {text : List Char}
    (opens : openBehind? depth (text.filter fun char => !marked char) = some depth')
    : Passes (depth + 1) (depth' + 1) (quote marked text) := by
  induction text generalizing depth with
  | nil =>
      obtain rfl := Option.some.inj opens
      exact Balanced.nil.passes depth
  | cons char text ih =>
      rw [quote_cons]
      by_cases isMarked : marked char = true
      · rw [List.filter_cons_of_neg (by rw [isMarked]; decide)] at opens
        rw [if_pos isMarked]
        exact ((Balanced.escaped char).passes depth).append (ih opens)
      · have notEscape : char ≠ '\\' := by
          rintro rfl
          exact isMarked escapes
        rw [List.filter_cons_of_pos (by simpa using isMarked), openBehind?] at opens
        rw [if_neg isMarked]
        split at opens
        · rename_i opening
          rw [opening]
          exact (passes_opening (depth + 1)).append (ih opens)
        · rename_i notOpening
          split at opens
          · rename_i closing
            split at opens
            · cases opens
            · rename_i inside
              obtain ⟨less, rfl⟩ := Nat.exists_eq_succ_of_ne_zero inside
              rw [closing]
              exact (passes_closing less).append (ih opens)
          · rename_i notClosing
            exact ((Balanced.plain notEscape notOpening notClosing).passes depth).append (ih opens)

/-- Name characters are not escaped, so as many of them stand at the start of an escaped text. -/
theorem dropWhile_quote {marked : Char → Bool}
    (unnamed : ∀ char, marked char = true → isNameChar char = false) (text : List Char)
    : (quote marked text).dropWhile isNameChar = quote marked (text.dropWhile isNameChar) := by
  have escape : isNameChar '\\' = false := by decide
  induction text with
  | nil => rfl
  | cons char text ih =>
      by_cases named : isNameChar char = true
      · have plain : ¬ marked char = true := fun isMarked =>
          absurd named (Bool.eq_false_iff.mp (unnamed char isMarked))
        rw [quote_cons, if_neg plain, List.singleton_append, List.dropWhile_cons_of_pos named,
          List.dropWhile_cons_of_pos named, ih]
      · rw [List.dropWhile_cons_of_neg named, quote_cons]
        split
        · exact List.dropWhile_cons_of_neg (Bool.eq_false_iff.mp escape)
        · exact List.dropWhile_cons_of_neg named

-----------------------------------------------------------------------------------------
-- Tab stops
-----------------------------------------------------------------------------------------

/-- A tab stop without braces. -/
def bareTabStop (number : Nat) : List Char :=
  '$' :: Nat.toDigits 10 number

/-- A name without braces is passed over. -/
theorem inserted_name {char : Char} (named : isNameChar char = true) (rest : List Char)
    : inserted ('$' :: char :: rest) = inserted (rest.dropWhile isNameChar) := by
  have notPlace : char = '\x7b' → False := by
    rintro rfl
    exact absurd named (by decide)
  have shorter := (List.dropWhile_sublist isNameChar (l := rest)).length_le
  rw [inserted, List.length_cons, List.length_cons, expand.eq_5 _ char rest notPlace, if_pos named]
  exact expand_eq_inserted (by omega)

/-- The name characters behind a tab stop go with it. -/
theorem inserted_bareTabStop (number : Nat) (rest : List Char)
    : inserted (bareTabStop number ++ rest) = inserted (rest.dropWhile isNameChar) := by
  have named : ∀ char ∈ Nat.toDigits 10 number, isNameChar char = true := fun _ =>
    isNameChar_of_mem_toDigits
  obtain ⟨digit, digits, written⟩ := List.exists_cons_of_ne_nil
    (Nat.toDigits_ne_nil : Nat.toDigits 10 number ≠ [])
  rw [bareTabStop, written]
  rw [written] at named
  obtain ⟨first, others⟩ := List.forall_mem_cons.mp named
  rw [List.cons_append, List.cons_append, inserted_name first,
    List.dropWhile_append_of_pos others]

-----------------------------------------------------------------------------------------
-- Choices
-----------------------------------------------------------------------------------------

/-- Choices with commas between them. -/
def writtenChoices (first : List Char) (others : List (List Char)) : List Char :=
  quote isChoiceMark first ++ others.flatMap fun choice => ',' :: quote isChoiceMark choice

/-- A place with choices. -/
def choicePlace (number : Nat) (first : List Char) (others : List (List Char)) : List Char :=
  '$' :: '\x7b'
    :: (Nat.toDigits 10 number ++ '|' :: writtenChoices first others ++ ['|', '\x7d'])

/-- Whether the first choice goes on with a character. -/
def goesOn (char : Char) : Bool :=
  char != ',' && char != '|'

/-- What is taken of a choice as it is written. -/
def chosen (choice : List Char) : List Char :=
  (quote isChoiceMark choice).takeWhile goesOn

theorem quote_append (marked : Char → Bool) (front back : List Char)
    : quote marked (front ++ back) = quote marked front ++ quote marked back :=
  List.flatMap_append

/-- The braces of a written choice are those of the choice. -/
theorem passes_choice {depth depth' : Nat} {choice : List Char}
    (opens : openBehind? depth choice = some depth')
    : Passes (depth + 1) (depth' + 1) (quote isChoiceMark choice) := by
  refine passes_quote (by decide) ?_
  rw [openBehind?_filter (by decide) (by decide), opens]

theorem passes_comma (depth : Nat) : Passes (depth + 1) (depth + 1) [','] :=
  (Balanced.plain (by decide) (by decide) (by decide)).passes depth

theorem passes_others {depth left : Nat} {others : List (List Char)}
    (opens : openBehind? depth others.flatten = some left)
    : Passes (depth + 1) (left + 1)
        (others.flatMap fun choice => ',' :: quote isChoiceMark choice) := by
  induction others generalizing depth with
  | nil =>
      obtain rfl := Option.some.inj opens
      exact Balanced.nil.passes depth
  | cons choice others ih =>
      rw [List.flatten_cons, openBehind?_append] at opens
      obtain ⟨inner, here, later⟩ := Option.bind_eq_some_iff.mp opens
      exact ((passes_comma depth).append (passes_choice here)).append (ih later)

theorem passes_writtenChoices {left : Nat} {first : List Char} {others : List (List Char)}
    (opens : openBehind? 0 (first :: others).flatten = some left)
    : Passes 1 (left + 1) (writtenChoices first others) := by
  rw [List.flatten_cons, openBehind?_append] at opens
  obtain ⟨inner, here, later⟩ := Option.bind_eq_some_iff.mp opens
  exact (passes_choice here).append (passes_others later)

/-- The name of a place is passed over, together with the mark that ends it. -/
theorem passes_label (number : Nat) (mark : Char) (plain : ¬ isMarked mark = true)
    : Passes 1 1 (Nat.toDigits 10 number ++ [mark]) :=
  ((balanced_label fun _ => isNameChar_of_mem_toDigits).append (.unmarked plain)).passes 0

theorem passes_choices {left : Nat} {first : List Char} {others : List (List Char)}
    (opens : openBehind? 0 (first :: others).flatten = some left) (number : Nat)
    : Passes 1 (left + 1)
        (Nat.toDigits 10 number ++ ['|'] ++ writtenChoices first others ++ ['|']) :=
  ((passes_label number '|' (by decide)).append (passes_writtenChoices opens)).append
    ((Balanced.unmarked (by decide)).passes left)

theorem choicePlace_append (number : Nat) (first : List Char) (others : List (List Char))
    (rest : List Char)
    : choicePlace number first others ++ rest
      = '$' :: '\x7b'
        :: (Nat.toDigits 10 number ++ ['|'] ++ writtenChoices first others ++ ['|']
          ++ '\x7d' :: rest) := by
  simp only [choicePlace, List.cons_append, List.append_assoc, List.nil_append]

/-- What is behind a choice is not taken with it. -/
theorem defaultOf_choices (number : Nat) (first : List Char) {behind : List Char}
    (stops : behind.takeWhile goesOn = [])
    : defaultOf inserted (Nat.toDigits 10 number ++ '|' :: (quote isChoiceMark first ++ behind))
      = chosen first := by
  have taken : (quote isChoiceMark first ++ behind).takeWhile goesOn = chosen first := by
    rw [List.takeWhile_append, stops, List.append_nil]
    split
    · rename_i whole
      exact (List.takeWhile_prefix goesOn).eq_of_length whole |>.symm
    · rfl
  rw [defaultOf, List.dropWhile_append_of_pos fun _ => isNameChar_of_mem_toDigits, ← taken]
  rfl

/-- A place with choices whose braces pair up inserts what is taken of the first one. -/
theorem inserted_choicePlace {first : List Char} {others : List (List Char)}
    (paired : openBehind? 0 (first :: others).flatten = some 0) (number : Nat) (rest : List Char)
    : inserted (choicePlace number first others ++ rest) = chosen first ++ inserted rest := by
  have stops
      : ((others.flatMap fun choice => ',' :: quote isChoiceMark choice) ++ ['|']).takeWhile goesOn
        = [] := by
    cases others <;> rfl
  rw [choicePlace_append, inserted_place ((passes_choices paired number).split_some rest),
    ← defaultOf_choices number first stops, writtenChoices]
  simp only [List.append_assoc, List.cons_append, List.nil_append]

/-- Without the brace that closes a place the rest is kept as it is. -/
theorem inserted_open {rest : List Char} (unclosed : splitAtBrace 1 rest = none)
    : inserted ('$' :: '\x7b' :: rest) = '$' :: '\x7b' :: rest := by
  rw [inserted, List.length_cons, List.length_cons, expand, unclosed]

/-- An escaped text closes no brace. -/
theorem passes_text (depth : Nat) (text : List Char)
    : Passes (depth + 1) (depth + text.count '\x7b' + 1) (quote isTextMark text) := by
  refine passes_quote (by decide) ?_
  rw [openBehind?_of_unclosed, List.count_filter (by decide)]
  intro closing
  exact absurd (List.mem_filter.mp closing).2 (by decide)

/-- Choices with a brace that is open are kept as they are, and so is the text behind them. -/
theorem inserted_choicePlace_open {first : List Char} {others : List (List Char)} {left : Nat}
    (opens : openBehind? 0 (first :: others).flatten = some (left + 1)) (number : Nat)
    (text : List Char)
    : inserted (choicePlace number first others ++ quote isTextMark text)
      = choicePlace number first others ++ quote isTextMark text := by
  have passes := ((passes_choices opens number).append (passes_closing left)).append
    (passes_text left text)
  have unclosed := passes.split_none
  rw [List.append_assoc _ ['\x7d'], List.singleton_append] at unclosed
  rw [choicePlace_append, inserted_open unclosed]

-----------------------------------------------------------------------------------------
-- Braces that are closed too early
-----------------------------------------------------------------------------------------

/-- Choices without places are read back with their commas. -/
theorem inserted_others {others : List (List Char)} (noPlace : '$' ∉ others.flatten)
    (rest : List Char)
    : inserted ((others.flatMap fun choice => ',' :: quote isChoiceMark choice) ++ rest)
      = (others.flatMap fun choice => ',' :: choice) ++ inserted rest := by
  induction others with
  | nil => rfl
  | cons choice others ih =>
      rw [List.flatten_cons, List.mem_append, not_or] at noPlace
      rw [List.flatMap_cons, List.flatMap_cons, List.cons_append, List.cons_append,
        List.append_assoc, inserted_plain (by decide) (by decide), List.append_assoc,
        inserted_quote (by decide) (Or.inr noPlace.1), ih noPlace.2]
      rfl

/-- Written choices from some point on, with the brace that ends the place among them. -/
structure EndsEarly (depth : Nat) (written inside behind more : List Char) : Prop where
  same : written = inside ++ '\x7d' :: behind
  passes : Passes (depth + 1) 1 inside
  insertedEq : ∀ rest, inserted (behind ++ rest) = more ++ inserted rest

theorem EndsEarly.append {depth depth' : Nat} {front written inside behind more : List Char}
    (passes : Passes (depth + 1) (depth' + 1) front)
    (early : EndsEarly depth' written inside behind more)
    : EndsEarly depth (front ++ written) (front ++ inside) behind more where
  same := by rw [early.same, List.append_assoc]
  passes := passes.append early.passes
  insertedEq := early.insertedEq

/-- A place ends at the first brace that is closed in a choice without being open. -/
theorem exists_endsEarly_choice {depth : Nat} {choice : List Char} {others : List (List Char)}
    (stray : openBehind? depth choice = none) (noPlace : '$' ∉ (choice :: others).flatten)
    : ∃ taken left,
        choice = taken ++ '\x7d' :: left
        ∧ EndsEarly depth (writtenChoices choice others) (quote isChoiceMark taken)
            (writtenChoices left others) (left ++ others.flatMap fun choice => ',' :: choice) := by
  obtain ⟨taken, left, rfl, closed⟩ := exists_stray stray
  simp only [List.flatten_cons, List.mem_append, List.mem_cons, not_or] at noPlace
  obtain ⟨⟨-, -, noPlaceLeft⟩, noPlaceOthers⟩ := noPlace
  refine ⟨taken, left, rfl, ?_, passes_choice closed, ?_⟩
  · rw [writtenChoices, quote_append, quote_cons, List.append_assoc]
    rfl
  · intro rest
    rw [writtenChoices, List.append_assoc, inserted_quote (by decide) (Or.inr noPlaceLeft),
      inserted_others noPlaceOthers, List.append_assoc]

theorem exists_endsEarly_others {depth : Nat} {others : List (List Char)}
    (stray : openBehind? depth others.flatten = none) (noPlace : '$' ∉ others.flatten)
    : ∃ inside behind more,
        EndsEarly depth (others.flatMap fun choice => ',' :: quote isChoiceMark choice)
          (',' :: inside) behind more := by
  induction others generalizing depth with
  | nil => cases stray
  | cons choice others ih =>
      have comma {written inside behind more : List Char}
          (early : EndsEarly depth written inside behind more)
          : EndsEarly depth (',' :: written) (',' :: inside) behind more :=
        early.append (passes_comma depth)
      cases here : openBehind? depth choice with
      | none =>
          obtain ⟨taken, left, -, early⟩ := exists_endsEarly_choice here noPlace
          exact ⟨_, _, _, comma early⟩
      | some inner =>
          rw [List.flatten_cons, openBehind?_append, here, Option.bind_some] at stray
          rw [List.flatten_cons, List.mem_append, not_or] at noPlace
          obtain ⟨inside, behind, more, early⟩ := ih stray noPlace.2
          exact ⟨_, _, _, comma (early.append (passes_choice here))⟩

/-- A place that ends early inserts what is taken of the first choice up to there, and behind it
the rest of the choices with the marks that should have ended the place.
-/
theorem EndsEarly.inserted_choicePlace {first behind more tail : List Char}
    {others : List (List Char)} {taken : List Char}
    (early
      : EndsEarly 0 (writtenChoices first others) (quote isChoiceMark taken ++ tail) behind more)
    (stops : tail.takeWhile goesOn = []) (number : Nat) (rest : List Char)
    : inserted (choicePlace number first others ++ rest)
      = chosen taken ++ (more ++ ['|', '\x7d']) ++ inserted rest := by
  have passes := (passes_label number '|' (by decide)).append early.passes
  have marks : inserted ('|' :: '\x7d' :: rest) = ['|', '\x7d'] ++ inserted rest := by
    rw [inserted_plain (by decide) (by decide), inserted_plain (by decide) (by decide)]
    rfl
  have split := passes.split_some (behind ++ '|' :: '\x7d' :: rest)
  have written
      : choicePlace number first others ++ rest
        = '$' :: '\x7b'
          :: (Nat.toDigits 10 number ++ ['|'] ++ (quote isChoiceMark taken ++ tail)
            ++ '\x7d' :: (behind ++ '|' :: '\x7d' :: rest)) := by
    rw [choicePlace_append, early.same]
    simp only [List.append_assoc, List.cons_append, List.nil_append]
  have filled
      : defaultOf inserted (Nat.toDigits 10 number ++ ['|'] ++ (quote isChoiceMark taken ++ tail))
        = chosen taken := by
    rw [List.append_assoc]
    exact defaultOf_choices number taken stops
  rw [written, inserted_place split, filled, early.insertedEq, marks]
  simp only [List.append_assoc]

-----------------------------------------------------------------------------------------
-- What is taken of a choice
-----------------------------------------------------------------------------------------

theorem chosen_escape (text : List Char) : chosen ('\\' :: text) = '\\' :: '\\' :: chosen text :=
  rfl

theorem chosen_plain {char : Char} (plain : isChoiceMark char = false) (text : List Char)
    : chosen (char :: text) = char :: chosen text := by
  have stays : goesOn char = true := by
    simp only [isChoiceMark, Bool.or_eq_false_iff] at plain
    rw [goesOn, bne, bne, plain.1.2, plain.2]
    rfl
  rw [chosen, quote_cons, plain, if_neg Bool.false_ne_true, List.singleton_append,
    List.takeWhile_cons_of_pos stays]
  rfl

/-- Of a mark that would end the choice only the backslash is taken. -/
theorem chosen_end {char : Char} (ends : char = ',' ∨ char = '|') (text : List Char)
    : chosen (char :: text) = ['\\'] := by
  rcases ends with rfl | rfl <;> rfl

/-- Backslashes are doubled, so that there are too many of them for what is taken to be a text
again.
-/
theorem chosen_ne {text rest : List Char} (plain : rest.head? ≠ some '\\') (count : Nat)
    (more : List Char)
    : List.replicate (count + 1) '\\' ++ (chosen text ++ more) ≠ text ++ rest := by
  induction text generalizing count with
  | nil =>
      rintro rfl
      exact plain rfl
  | cons char text ih =>
      intro same
      rw [List.replicate_succ, List.cons_append, List.cons_append] at same
      obtain ⟨rfl, same⟩ := List.cons.inj same
      refine ih (count + 1) ?_
      rw [← same, chosen_escape, Nat.add_assoc, ← List.replicate_append_replicate,
        List.append_assoc]
      rfl

/-- What is taken of a choice is the choice only if nothing in it is escaped. -/
theorem plain_of_chosen {text more rest : List Char} (plain : rest.head? ≠ some '\\')
    (same : chosen text ++ more = text ++ rest)
    : ∀ char ∈ text, isChoiceMark char = false := by
  induction text with
  | nil => exact fun _ inside => absurd inside List.not_mem_nil
  | cons char text ih =>
      cases marked : isChoiceMark char with
      | false =>
          rw [chosen_plain marked, List.cons_append, List.cons_append] at same
          exact List.forall_mem_cons.mpr ⟨marked, ih (List.cons.inj same).2⟩
      | true =>
          simp only [isChoiceMark, Bool.or_eq_true, beq_iff_eq, or_assoc] at marked
          rcases marked with rfl | ends
          · rw [chosen_escape] at same
            exact absurd (List.cons.inj same).2 (chosen_ne plain 0 more)
          · rw [chosen_end ends] at same
            have isEscape := (List.cons.inj same).1
            subst isEscape
            exact absurd ends (by decide)

theorem chosen_of_plain {text : List Char} (plain : ∀ char ∈ text, isChoiceMark char = false)
    : chosen text = text := by
  induction text with
  | nil => rfl
  | cons char text ih =>
      obtain ⟨first, others⟩ := List.forall_mem_cons.mp plain
      rw [chosen_plain first, ih others]

-----------------------------------------------------------------------------------------
-- When places are at their defaults
-----------------------------------------------------------------------------------------

theorem inserted_text (text rest : List Char)
    : inserted (quote isTextMark text ++ rest) = text ++ inserted rest :=
  inserted_quote (by decide) (Or.inl (by decide)) rest

theorem inserted_text_nil (text : List Char) : inserted (quote isTextMark text) = text := by
  have whole := inserted_text text []
  rwa [List.append_nil, show inserted [] = [] from rfl, List.append_nil] at whole

/-- The text behind a tab stop is kept if it starts with no name character. -/
theorem inserted_bareTabStop_iff (number : Nat) (text : List Char)
    : inserted (bareTabStop number ++ quote isTextMark text) = text
      ↔ ∀ char ∈ text.head?, isNameChar char = false := by
  have unnamed : ∀ char, isTextMark char = true → isNameChar char = false := by
    intro char marked
    simp only [isTextMark, Bool.or_eq_true, beq_iff_eq, or_assoc] at marked
    rcases marked with rfl | rfl | rfl <;> rfl
  rw [inserted_bareTabStop, dropWhile_quote unnamed, inserted_text_nil,
    List.dropWhile_eq_self_iff]
  cases text with
  | nil =>
      exact iff_of_true (fun inside => absurd inside (Nat.lt_irrefl 0)) (fun _ none => nomatch none)
  | cons char text => simp

/-- A place that ends early does not insert the first choice: behind the part that is taken there
is more than the other part.
-/
theorem EndsEarly.inserted_ne {first taken left tail behind more : List Char}
    {others : List (List Char)}
    (early
      : EndsEarly 0 (writtenChoices first others) (quote isChoiceMark taken ++ tail) behind more)
    (stops : tail.takeWhile goesOn = []) (same : first = taken ++ left)
    (plain : left.head? ≠ some '\\') (longer : left.length ≤ more.length + 1) (number : Nat)
    (text : List Char)
    : inserted (choicePlace number first others ++ quote isTextMark text) ≠ first ++ text := by
  rw [early.inserted_choicePlace stops, inserted_text_nil, same]
  intro equal
  have begun := List.append_cancel_right equal
  have whole : chosen taken = taken := chosen_of_plain (plain_of_chosen plain begun)
  rw [whole] at begun
  have size := congrArg List.length (List.append_cancel_left begun)
  rw [List.length_append, List.length_cons, List.length_singleton] at size
  omega

theorem inserted_choicePlace_ne_of_stray {first : List Char} {others : List (List Char)}
    (noPlace : '$' ∉ (first :: others).flatten)
    (stray : openBehind? 0 (first :: others).flatten = none) (number : Nat) (text : List Char)
    : inserted (choicePlace number first others ++ quote isTextMark text) ≠ first ++ text := by
  cases here : openBehind? 0 first with
  | none =>
      obtain ⟨taken, left, same, early⟩ := exists_endsEarly_choice here noPlace
      rw [← List.append_nil (quote isChoiceMark taken)] at early
      have plain : ('\x7d' :: left).head? ≠ some '\\' := by
        rw [List.head?_cons]
        decide
      refine early.inserted_ne rfl same plain ?_ number text
      rw [List.length_cons, List.length_append]
      omega
  | some inner =>
      rw [List.flatten_cons, openBehind?_append, here, Option.bind_some] at stray
      rw [List.flatten_cons, List.mem_append, not_or] at noPlace
      obtain ⟨inside, behind, more, early⟩ := exists_endsEarly_others stray noPlace.2
      exact (early.append (passes_choice here)).inserted_ne rfl (List.append_nil first).symm
        (by decide) (Nat.zero_le _) number text

/-- A place with choices whose braces pair up, or that start no place, has the first choice for
its default if and only if the braces do pair up and nothing of the choice is escaped.
-/
theorem inserted_choicePlace_iff {first : List Char} {others : List (List Char)}
    (unambiguous
      : '$' ∉ (first :: others).flatten ∨ openBehind? 0 (first :: others).flatten ≠ none)
    (number : Nat) (text : List Char)
    : inserted (choicePlace number first others ++ quote isTextMark text) = first ++ text
      ↔ openBehind? 0 (first :: others).flatten = some 0
        ∧ ∀ char ∈ first, isChoiceMark char = false := by
  cases opens : openBehind? 0 (first :: others).flatten with
  | none =>
      have noPlace := unambiguous.resolve_right fun some => some opens
      exact iff_of_false (inserted_choicePlace_ne_of_stray noPlace opens number text) (nomatch ·.1)
  | some left =>
      cases left with
      | zero =>
          rw [inserted_choicePlace opens, inserted_text_nil, List.append_cancel_right_eq]
          constructor
          · intro whole
            have plain : ([] : List Char).head? ≠ some '\\' := by decide
            have begun : chosen first ++ [] = first ++ [] := congrArg (· ++ []) whole
            exact ⟨rfl, plain_of_chosen plain begun⟩
          · exact fun plain => chosen_of_plain plain.2
      | succ left =>
          refine iff_of_false ?_ fun paired => Nat.succ_ne_zero left (Option.some.inj paired.1)
          rw [inserted_choicePlace_open opens]
          intro equal
          have size := congrArg List.length equal
          have longer := length_le_quote isTextMark text
          have longer' := length_le_quote isChoiceMark first
          simp only [choicePlace, writtenChoices, List.length_append, List.length_cons] at size
          omega

/-- A default is the text of its place if and only if no brace opens in it. -/
theorem inserted_default_iff (number : Nat) (text : List Char)
    : inserted (filledPlace (Nat.toDigits 10 number) (quote isTextMark text)) = text
      ↔ '\x7b' ∉ text := by
  rw [← List.count_eq_zero]
  have passes (depth : Nat) := passes_text depth text
  cases opened : text.count '\x7b' with
  | zero =>
      rw [opened] at passes
      have balanced : Balanced (quote isTextMark text) := by
        intro depth inside
        obtain ⟨depth, rfl⟩ := Nat.exists_eq_succ_of_ne_zero (Nat.ne_of_gt inside)
        exact passes depth
      have named : ∀ char ∈ Nat.toDigits 10 number, isNameChar char = true := fun _ =>
        isNameChar_of_mem_toDigits
      have filled := inserted_filledPlace named balanced []
      rw [List.append_nil, inserted_text_nil, show inserted [] = [] from rfl,
        List.append_nil] at filled
      exact iff_of_true filled rfl
  | succ left =>
      refine iff_of_false ?_ (Nat.succ_ne_zero left)
      have inside := (passes_label number ':' (by decide)).append (passes 0)
      rw [opened, Nat.zero_add] at inside
      have unclosed := (inside.append (passes_closing left)).split_none
      have written
          : filledPlace (Nat.toDigits 10 number) (quote isTextMark text)
            = '$' :: '\x7b'
              :: (Nat.toDigits 10 number ++ [':'] ++ quote isTextMark text ++ ['\x7d']) := by
        simp only [filledPlace, List.append_assoc, List.cons_append, List.nil_append]
      rw [written, inserted_open unclosed]
      intro equal
      have size := congrArg List.length equal
      have longer := length_le_quote isTextMark text
      simp only [List.length_append, List.length_cons] at size
      omega

/-- What a snippet inserts when its places stand among texts that are escaped as the protocol
prescribes. The text behind a tab stop without braces is complete if and only if it starts with no
name character. The first choice is inserted if and only if nothing of it is escaped and the
braces of the choices pair up, where choices that close a brace too many must start no place, as
its default could happen to restore the choice. A default is inserted if and only if no brace
opens in it.
-/
theorem plainText_defaults_iff (front back : List Char) (number : Nat) (first : List Char)
    (others : List (List Char))
    : (plainText (.ofList (quote isTextMark front ++ (bareTabStop number ++ quote isTextMark back)))
          = .ofList (front ++ back)
        ↔ ∀ char ∈ back.head?, isNameChar char = false)
      ∧ ('$' ∉ (first :: others).flatten ∨ openBehind? 0 (first :: others).flatten ≠ none
        → (plainText
              (.ofList
                (quote isTextMark front
                  ++ (choicePlace number first others ++ quote isTextMark back)))
            = .ofList (front ++ (first ++ back))
          ↔ openBehind? 0 (first :: others).flatten = some 0
            ∧ ∀ char ∈ first, isChoiceMark char = false))
      ∧ (plainText (.ofList (filledPlace (Nat.toDigits 10 number) (quote isTextMark front)))
          = .ofList front
        ↔ '\x7b' ∉ front) := by
  refine ⟨?_, ?_, ?_⟩
  · rw [plainText_ofList, String.ofList_inj, inserted_text, List.append_cancel_left_eq]
    exact inserted_bareTabStop_iff number back
  · intro unambiguous
    rw [plainText_ofList, String.ofList_inj, inserted_text, List.append_cancel_left_eq]
    exact inserted_choicePlace_iff unambiguous number back
  · rw [plainText_ofList, String.ofList_inj]
    exact inserted_default_iff number front

/-- A first choice with braces of its own, between texts with marks that are escaped. -/
theorem plainText_defaults_iff_of_braces
    : ('$' ∉ ["f\x7b$\x7d".toList, ")".toList].flatten
        ∨ openBehind? 0 ["f\x7b$\x7d".toList, ")".toList].flatten ≠ none)
      ∧ plainText "\\$$\x7b1|f\x7b$\x7d,)|\x7d\\\x7d" = "$f\x7b$\x7d\x7d" := by
  have unambiguous
      : '$' ∉ ["f\x7b$\x7d".toList, ")".toList].flatten
        ∨ openBehind? 0 ["f\x7b$\x7d".toList, ")".toList].flatten ≠ none := by
    decide +kernel
  have paired : openBehind? 0 ["f\x7b$\x7d".toList, ")".toList].flatten = some 0 := by
    decide +kernel
  have plain : "f\x7b$\x7d".toList.all (!isChoiceMark ·) = true := by decide +kernel
  have unescaped : ∀ char ∈ "f\x7b$\x7d".toList, isChoiceMark char = false := fun char inside =>
    (Bool.not_eq_true' _).mp (List.all_eq_true.mp plain char inside)
  have inserts := ((plainText_defaults_iff "$".toList "\x7d".toList 1 "f\x7b$\x7d".toList
    [")".toList]).2.1 unambiguous).mpr ⟨paired, unescaped⟩
  have written
      : String.ofList
          (quote isTextMark "$".toList
            ++ (choicePlace 1 "f\x7b$\x7d".toList [")".toList] ++ quote isTextMark "\x7d".toList))
        = "\\$$\x7b1|f\x7b$\x7d,)|\x7d\\\x7d" := by
    decide +kernel
  rw [written] at inserts
  exact ⟨unambiguous, inserts.trans (by decide +kernel)⟩

/-- A word behind a tab stop is lost, so is what follows a comma of a choice, and a default with a
brace is not found.
-/
theorem plainText_loses_texts
    : String.ofList (bareTabStop 1 ++ quote isTextMark "foo".toList) = "$1foo"
      ∧ plainText "$1foo" = ""
      ∧ String.ofList (choicePlace 1 "a,b".toList ["c".toList]) = "$\x7b1|a\\,b,c|\x7d"
      ∧ plainText "$\x7b1|a\\,b,c|\x7d" = "a\\"
      ∧ String.ofList (filledPlace (Nat.toDigits 10 1) (quote isTextMark "\x7b".toList))
        = "$\x7b1:\x7b\x7d"
      ∧ plainText "$\x7b1:\x7b\x7d" = "$\x7b1:\x7b\x7d" := by
  decide +kernel

/-- The brace that is closed too early lets the rest of the choices make up a place without text. -/
example
    : String.ofList (choicePlace 1 "x".toList ["\x7d$\x7b".toList]) = "$\x7b1|x,\x7d$\x7b|\x7d"
      ∧ plainText "$\x7b1|x,\x7d$\x7b|\x7d" = "x" := by
  decide +kernel

end LanguageClient.Snippet
