import LanguageClient.Completion.Snippet
import Mathlib.Data.List.TakeWhile

/-! Snippets that are written out of their parts. Whatever the parts are and however deep they
nest, what the snippet inserts is the text of the parts with every place at its default.
-/

namespace LanguageClient.Snippet

-----------------------------------------------------------------------------------------
-- What a snippet inserts, without a bound
-----------------------------------------------------------------------------------------

/-- Only texts that are no longer than the inside are asked for. -/
theorem defaultOf_congr {left right : List Char → List Char} {content : List Char}
    (same : ∀ text, text.length ≤ content.length → left text = right text)
    : defaultOf left content = defaultOf right content := by
  have shorter := (List.dropWhile_sublist isNameChar (l := content)).length_le
  unfold defaultOf
  split
  · rename_i text named
    rw [named, List.length_cons] at shorter
    exact same text (Nat.le_of_succ_le shorter)
  · rfl
  · rfl

theorem expand_nil (bound : Nat) : expand bound [] = [] := by
  cases bound <;> rfl

/-- A greater bound makes no difference, by induction on the smaller calls of an expansion. -/
theorem expand_add {bound : Nat} {text : List Char} (extra : Nat) (long : text.length ≤ bound)
    : expand (bound + extra) text = expand bound text := by
  induction bound, text using expand.induct with
  | case1 text =>
      obtain rfl : text = [] := List.eq_nil_of_length_eq_zero (Nat.le_zero.mp long)
      exact expand_nil _
  | case2 bound _ => rw [expand_nil, expand_nil]
  | case3 bound escaped rest ih =>
      simp only [List.length_cons] at long
      rw [Nat.succ_add]
      exact congrArg (escaped :: ·) (ih (by omega))
  | case4 bound rest none => rw [Nat.succ_add, expand, expand, none]
  | case5 bound rest content behind split inside after =>
      have size := congrArg List.length (eq_of_splitAtBrace split)
      simp only [List.length_cons, List.length_append] at long size
      have filled : defaultOf (expand (bound + extra)) content = defaultOf (expand bound) content :=
        defaultOf_congr fun text shorter => inside text (by omega)
      rw [Nat.succ_add, expand_place _ split, expand_place bound split, filled,
        after (by omega)]
  | case6 bound char rest notPlace named ih =>
      have shorter := (List.dropWhile_sublist isNameChar (l := rest)).length_le
      simp only [List.length_cons] at long
      rw [Nat.succ_add, expand.eq_5 _ char rest notPlace, expand.eq_5 bound char rest notPlace,
        if_pos named, if_pos named]
      exact ih (by omega)
  | case7 bound char rest notPlace notNamed ih =>
      simp only [List.length_cons] at long ih
      rw [Nat.succ_add, expand.eq_5 _ char rest notPlace, expand.eq_5 bound char rest notPlace,
        if_neg notNamed, if_neg notNamed]
      exact congrArg ('$' :: ·) (ih (by omega))
  | case8 bound char rest notEscape notPlace notNamed ih =>
      simp only [List.length_cons] at long
      rw [Nat.succ_add, expand.eq_6 _ char rest notEscape notPlace notNamed,
        expand.eq_6 bound char rest notEscape notPlace notNamed]
      exact congrArg (char :: ·) (ih (by omega))

/-- The text that a snippet inserts. -/
def inserted (snippet : List Char) : List Char :=
  expand snippet.length snippet

theorem expand_eq_inserted {bound : Nat} {text : List Char} (long : text.length ≤ bound)
    : expand bound text = inserted text := by
  obtain ⟨extra, rfl⟩ := Nat.exists_eq_add_of_le long
  exact expand_add extra (Nat.le_refl _)

theorem plainText_ofList (snippet : List Char)
    : plainText (.ofList snippet) = .ofList (inserted snippet) := by
  rw [plainText, ← String.length_toList, String.toList_ofList]
  rfl

/-- A character after a backslash is inserted. -/
theorem inserted_escaped (char : Char) (rest : List Char)
    : inserted ('\\' :: char :: rest) = char :: inserted rest :=
  congrArg (char :: ·) (expand_eq_inserted (Nat.le_succ _))

/-- So is any character that starts neither an escape nor a place. -/
theorem inserted_plain {char : Char} (notEscape : char ≠ '\\') (notPlace : char ≠ '$')
    (rest : List Char)
    : inserted (char :: rest) = char :: inserted rest := by
  rw [inserted, List.length_cons, expand.eq_6 rest.length char rest]
  · rfl
  · exact fun _ _ isEscape => absurd isEscape notEscape
  · exact fun _ isPlace => absurd isPlace notPlace
  · exact fun _ _ isPlace => absurd isPlace notPlace

/-- A place inserts its default. -/
theorem inserted_place {rest content behind : List Char}
    (split : splitAtBrace 1 rest = some (content, behind))
    : inserted ('$' :: '\x7b' :: rest) = defaultOf inserted content ++ inserted behind := by
  have size := congrArg List.length (eq_of_splitAtBrace split)
  rw [List.length_append, List.length_cons] at size
  have filled : defaultOf (expand (rest.length + 1)) content = defaultOf inserted content :=
    defaultOf_congr fun text shorter => expand_eq_inserted (by omega)
  rw [inserted, List.length_cons, List.length_cons, expand_place _ split, filled,
    expand_eq_inserted (by omega)]

-----------------------------------------------------------------------------------------
-- Texts between braces
-----------------------------------------------------------------------------------------

/-- The search for a closing brace passes over a text, and has another number of braces to close
behind it.
-/
def Passes (depth depth' : Nat) (text : List Char) : Prop :=
  ∀ rest,
    splitAtBrace depth (text ++ rest)
    = (splitAtBrace depth' rest).map fun parts => (text ++ parts.1, parts.2)

theorem Passes.append {depth depth' depth'' : Nat} {front back : List Char}
    (passes : Passes depth depth' front) (passes' : Passes depth' depth'' back)
    : Passes depth depth'' (front ++ back) := by
  intro rest
  rw [List.append_assoc, passes, passes', Option.map_map]
  simp only [Function.comp_def, List.append_assoc]

theorem passes_opening (depth : Nat) : Passes depth (depth + 1) ['\x7b'] := by
  intro rest
  rw [List.singleton_append, splitAtBrace]
  rfl

theorem passes_closing (depth : Nat) : Passes (depth + 2) (depth + 1) ['\x7d'] := by
  intro rest
  rw [List.singleton_append, splitAtBrace, if_neg (by omega)]
  rfl

/-- The brace behind a text closes the last one that is open. -/
theorem Passes.split_some {depth : Nat} {text : List Char} (passes : Passes depth 1 text)
    (rest : List Char)
    : splitAtBrace depth (text ++ '\x7d' :: rest) = some (text, rest) := by
  rw [passes, splitAtBrace, if_pos (Nat.le_refl 1), Option.map_some, List.append_nil]

/-- A text in which every brace has its partner: the search for a closing brace passes over it at
any depth.
-/
def Balanced (text : List Char) : Prop :=
  ∀ depth,
    1 ≤ depth
    → ∀ rest,
        splitAtBrace depth (text ++ rest)
        = (splitAtBrace depth rest).map fun parts => (text ++ parts.1, parts.2)

theorem Balanced.nil : Balanced [] := by
  intro depth _ rest
  exact Option.map_id'.symm

theorem Balanced.append {front back : List Char} (balanced : Balanced front)
    (balanced' : Balanced back)
    : Balanced (front ++ back) :=
  fun depth inside => Passes.append (balanced depth inside) (balanced' depth inside)

theorem Balanced.plain {char : Char} (notEscape : char ≠ '\\') (notOpening : char ≠ '\x7b')
    (notClosing : char ≠ '\x7d')
    : Balanced [char] := by
  intro depth _ rest
  exact splitAtBrace.eq_5 depth char rest (fun _ _ isEscape => absurd isEscape notEscape)
    notOpening notClosing

/-- A character after a backslash is no brace. -/
theorem Balanced.escaped (char : Char) : Balanced ['\\', char] := by
  intro depth _ rest
  exact splitAtBrace.eq_2 depth char rest

theorem Balanced.braces {text : List Char} (balanced : Balanced text)
    : Balanced ('\x7b' :: (text ++ ['\x7d'])) := by
  intro depth inside
  obtain ⟨depth, rfl⟩ := Nat.exists_eq_add_of_le' inside
  have inner : Passes (depth + 2) (depth + 2) text := balanced (depth + 2) (Nat.succ_pos _)
  exact ((passes_opening (depth + 1)).append inner).append (passes_closing depth)

/-- The brace that closes a balanced text is the one behind it. -/
theorem Balanced.split {text : List Char} (balanced : Balanced text) (rest : List Char)
    : splitAtBrace 1 (text ++ '\x7d' :: rest) = some (text, rest) :=
  Passes.split_some (balanced 1 (Nat.le_refl 1)) rest

-----------------------------------------------------------------------------------------
-- Parts of a snippet
-----------------------------------------------------------------------------------------

/-- The name of a variable. -/
structure Name where
  chars : List Char
  valid : ∀ char ∈ chars, isNameChar char = true

/-- What a snippet is made of. -/
inductive Piece where
  | text (text : String)
  | tabStop (number : Nat)
  /-- A variable. -/
  | value (name : Name)
  /-- A tab stop with a default. -/
  | placeholder (number : Nat) (default : List Piece)
  /-- A variable with a default. -/
  | valueOr (name : Name) (default : List Piece)

/-- A text with a backslash before every character of a kind. -/
def quote (marked : Char → Bool) (text : List Char) : List Char :=
  text.flatMap fun char => if marked char then ['\\', char] else [char]

/-- Whether a character stands for itself only behind a backslash. -/
def isMarked (char : Char) : Bool :=
  char == '\\' || char == '$' || char == '\x7b' || char == '\x7d'

/-- A text with a backslash before every marked character. -/
def escape (text : List Char) : List Char :=
  quote isMarked text

/-- A place without a default. -/
def emptyPlace (label : List Char) : List Char :=
  '$' :: '\x7b' :: (label ++ ['\x7d'])

/-- A place with a default. -/
def filledPlace (label default : List Char) : List Char :=
  '$' :: '\x7b' :: (label ++ ':' :: default ++ ['\x7d'])

mutual

/-- How a piece is written. -/
def Piece.print : Piece → List Char
  | .text text => escape text.toList
  | .tabStop number => emptyPlace (Nat.toDigits 10 number)
  | .value name => emptyPlace name.chars
  | .placeholder number default => filledPlace (Nat.toDigits 10 number) (printAll default)
  | .valueOr name default => filledPlace name.chars (printAll default)

def printAll : List Piece → List Char
  | [] => []
  | piece :: rest => piece.print ++ printAll rest

end

mutual

/-- The text of a piece with every place at its default, which is empty if it has none. -/
def Piece.defaultText : Piece → List Char
  | .text text => text.toList
  | .tabStop _ => []
  | .value _ => []
  | .placeholder _ default => defaultTextAll default
  | .valueOr _ default => defaultTextAll default

def defaultTextAll : List Piece → List Char
  | [] => []
  | piece :: rest => piece.defaultText ++ defaultTextAll rest

end

-----------------------------------------------------------------------------------------
-- Written texts
-----------------------------------------------------------------------------------------

theorem quote_cons (marked : Char → Bool) (char : Char) (text : List Char)
    : quote marked (char :: text)
      = (if marked char then ['\\', char] else [char]) ++ quote marked text :=
  List.flatMap_cons

theorem escape_cons (char : Char) (text : List Char)
    : escape (char :: text)
      = (if isMarked char then ['\\', char] else [char]) ++ escape text :=
  quote_cons isMarked char text

theorem ne_of_not_isMarked {char : Char} (plain : ¬ isMarked char = true)
    : char ≠ '\\' ∧ char ≠ '$' ∧ char ≠ '\x7b' ∧ char ≠ '\x7d' := by
  refine ⟨?_, ?_, ?_, ?_⟩ <;>
  · rintro rfl
    exact plain rfl

theorem not_isMarked_of_isNameChar {char : Char} (named : isNameChar char = true)
    : ¬ isMarked char = true := by
  intro marked
  simp only [isMarked, Bool.or_eq_true, beq_iff_eq] at marked
  rcases marked with ((rfl | rfl) | rfl) | rfl <;> exact absurd named (by decide)

theorem isNameChar_of_mem_toDigits {number : Nat} {char : Char}
    (digit : char ∈ Nat.toDigits 10 number)
    : isNameChar char = true := by
  have isDigit := Nat.isDigit_of_mem_toDigits (by decide) (by decide) digit
  rw [isNameChar, Char.isAlphanum, isDigit, Bool.or_true, Bool.true_or]

theorem Balanced.unmarked {char : Char} (plain : ¬ isMarked char = true) : Balanced [char] := by
  obtain ⟨notEscape, -, notOpening, notClosing⟩ := ne_of_not_isMarked plain
  exact .plain notEscape notOpening notClosing

theorem balanced_escape (text : List Char) : Balanced (escape text) := by
  induction text with
  | nil => exact .nil
  | cons char text ih =>
      rw [escape_cons]
      refine Balanced.append ?_ ih
      split
      · exact .escaped char
      · rename_i plain
        exact .unmarked plain

theorem balanced_label {label : List Char} (valid : ∀ char ∈ label, isNameChar char = true)
    : Balanced label := by
  induction label with
  | nil => exact .nil
  | cons char label ih =>
      obtain ⟨named, valid⟩ := List.forall_mem_cons.mp valid
      exact Balanced.append (.unmarked (not_isMarked_of_isNameChar named)) (ih valid)

theorem balanced_emptyPlace {label : List Char} (valid : ∀ char ∈ label, isNameChar char = true)
    : Balanced (emptyPlace label) :=
  (Balanced.plain (by decide) (by decide) (by decide)).append (balanced_label valid).braces

theorem balanced_filledPlace {label default : List Char}
    (valid : ∀ char ∈ label, isNameChar char = true) (balanced : Balanced default)
    : Balanced (filledPlace label default) := by
  have colon : Balanced [':'] := .plain (by decide) (by decide) (by decide)
  exact (Balanced.plain (by decide) (by decide) (by decide)).append
    ((balanced_label valid).append (colon.append balanced)).braces

mutual

/-- The braces of a written piece are those of its places. -/
theorem Piece.balanced_print (piece : Piece) : Balanced piece.print := by
  cases piece with
  | text text => exact balanced_escape text.toList
  | tabStop number => exact balanced_emptyPlace fun _ => isNameChar_of_mem_toDigits
  | value name => exact balanced_emptyPlace name.valid
  | placeholder number default =>
      exact balanced_filledPlace (fun _ => isNameChar_of_mem_toDigits)
        (balanced_printAll default)
  | valueOr name default =>
      exact balanced_filledPlace name.valid (balanced_printAll default)
termination_by sizeOf piece

theorem balanced_printAll (pieces : List Piece) : Balanced (printAll pieces) := by
  match pieces with
  | [] => exact .nil
  | piece :: rest => exact piece.balanced_print.append (balanced_printAll rest)
termination_by sizeOf pieces

end

-----------------------------------------------------------------------------------------
-- What written pieces insert
-----------------------------------------------------------------------------------------

/-- Characters behind backslashes are read back, if all backslashes are and nothing else starts a
place.
-/
theorem inserted_quote {marked : Char → Bool} (escapes : marked '\\' = true) {text : List Char}
    (places : marked '$' = true ∨ '$' ∉ text) (rest : List Char)
    : inserted (quote marked text ++ rest) = text ++ inserted rest := by
  induction text with
  | nil => rfl
  | cons char text ih =>
      have inner := ih (places.imp id List.not_mem_of_not_mem_cons)
      rw [quote_cons, List.append_assoc, List.cons_append, ← inner]
      split
      · exact inserted_escaped char _
      · rename_i plain
        have notEscape : char ≠ '\\' := by
          rintro rfl
          exact plain escapes
        have notPlace : char ≠ '$' := by
          rintro rfl
          exact places.elim plain (List.ne_of_not_mem_cons · rfl)
        exact inserted_plain notEscape notPlace _

theorem inserted_escape (text rest : List Char)
    : inserted (escape text ++ rest) = text ++ inserted rest :=
  inserted_quote (by decide) (Or.inl (by decide)) rest

theorem inserted_emptyPlace {label : List Char} (valid : ∀ char ∈ label, isNameChar char = true)
    (rest : List Char)
    : inserted (emptyPlace label ++ rest) = inserted rest := by
  have split := (balanced_label valid).split rest
  have none : defaultOf inserted label = [] := by
    rw [defaultOf, List.dropWhile_eq_nil_iff.mpr valid]
  rw [emptyPlace, List.cons_append, List.cons_append, List.append_assoc, List.singleton_append,
    inserted_place split, none, List.nil_append]

theorem inserted_filledPlace {label default : List Char}
    (valid : ∀ char ∈ label, isNameChar char = true) (balanced : Balanced default)
    (rest : List Char)
    : inserted (filledPlace label default ++ rest) = inserted default ++ inserted rest := by
  have colon : Balanced [':'] := .plain (by decide) (by decide) (by decide)
  have split := ((balanced_label valid).append (colon.append balanced)).split rest
  have filled : defaultOf inserted (label ++ ([':'] ++ default)) = inserted default := by
    rw [defaultOf, List.dropWhile_append_of_pos valid]
    rfl
  rw [filledPlace, List.cons_append, List.cons_append, List.append_assoc, List.singleton_append]
  exact (inserted_place split).trans (by rw [filled])

mutual

/-- A written piece inserts its text, whatever follows it: inside a place nothing follows but the
end, as the brace that closes the place has been found already.
-/
theorem Piece.inserted_print (piece : Piece) (rest : List Char)
    : inserted (piece.print ++ rest) = piece.defaultText ++ inserted rest := by
  cases piece with
  | text text => exact inserted_escape text.toList rest
  | tabStop number => exact inserted_emptyPlace (fun _ => isNameChar_of_mem_toDigits) rest
  | value name => exact inserted_emptyPlace name.valid rest
  | placeholder number default =>
      rw [Piece.print, Piece.defaultText, ← inserted_printAll default]
      exact inserted_filledPlace (fun _ => isNameChar_of_mem_toDigits)
        (balanced_printAll default) rest
  | valueOr name default =>
      rw [Piece.print, Piece.defaultText, ← inserted_printAll default]
      exact inserted_filledPlace name.valid (balanced_printAll default) rest
termination_by sizeOf piece

theorem inserted_printAll (pieces : List Piece)
    : inserted (printAll pieces) = defaultTextAll pieces := by
  match pieces with
  | [] => rfl
  | piece :: rest =>
      rw [printAll, piece.inserted_print, inserted_printAll rest, defaultTextAll]
termination_by sizeOf pieces

end

/-- A snippet that is written out of pieces inserts their text, however deep they nest. So a text
that is escaped inserts itself.
-/
theorem plainText_print
    : (∀ pieces : List Piece,
        plainText (.ofList (printAll pieces)) = .ofList (defaultTextAll pieces))
      ∧ ∀ text : String, plainText (.ofList (escape text.toList)) = text := by
  constructor
  · intro pieces
    rw [plainText_ofList, inserted_printAll]
  · intro text
    have whole := inserted_escape text.toList []
    rw [List.append_nil, show inserted [] = [] from rfl, List.append_nil] at whole
    rw [plainText_ofList, whole, String.ofList_toList]

/-- A place in the default of another one, next to marked characters. -/
example
    : printAll
        [
          .placeholder 1 [.text "a$", .placeholder 2 [.text "\x7d"]],
          .tabStop 0
        ]
      = "$\x7b1:a\\$$\x7b2:\\\x7d\x7d\x7d$\x7b0\x7d".toList := by
  decide +kernel

end LanguageClient.Snippet
