/-!
Snippets: texts with places to fill in. What a snippet inserts is its text with every place at
its default.
-/

namespace LanguageClient.Snippet

/-- Whether a character can be part of the name of a place. -/
def isNameChar (char : Char) : Bool :=
  char.isAlphanum || char == '_'

/--
Split a text after the brace that closes the given number of open ones. A character after a
backslash is no brace.
-/
def splitAtBrace : Nat → List Char → Option (List Char × List Char)
  | _, [] => none
  | depth, '\\' :: escaped :: rest =>
    (splitAtBrace depth rest).map fun split => ('\\' :: escaped :: split.1, split.2)
  | depth, '\x7b' :: rest =>
    (splitAtBrace (depth + 1) rest).map fun split => ('\x7b' :: split.1, split.2)
  | depth, '\x7d' :: rest =>
    if depth ≤ 1 then
      some ([], rest)
    else
      (splitAtBrace (depth - 1) rest).map fun split => ('\x7d' :: split.1, split.2)
  | depth, char :: rest => (splitAtBrace depth rest).map fun split => (char :: split.1, split.2)

/--
The text that a snippet inserts, given a bound on its length. A backslash keeps the character
after it, `$name` disappears, and `${name:text}` inserts what the text does and `${name|a,b|}`
its first choice. With no closing brace, the rest is kept as it is.
-/
def expand : Nat → List Char → List Char
  | 0, _ => []
  | _, [] => []
  | bound + 1, '\\' :: escaped :: rest => escaped :: expand bound rest
  | bound + 1, '$' :: '\x7b' :: rest =>
    match splitAtBrace 1 rest with
    | none => '$' :: '\x7b' :: rest
    | some (content, behind) =>
      let default :=
        match content.dropWhile isNameChar with
        | ':' :: text => expand bound text
        | '|' :: choices => choices.takeWhile fun char => char != ',' && char != '|'
        | _ => []
      default ++ expand bound behind
  | bound + 1, '$' :: char :: rest =>
    if isNameChar char then
      expand bound (rest.dropWhile isNameChar)
    else
      '$' :: expand bound (char :: rest)
  | bound + 1, char :: rest => char :: expand bound rest

/-- The text that a snippet inserts. -/
def plainText (snippet : String) : String :=
  String.ofList (expand snippet.length snippet.toList)

-----------------------------------------------------------------------------------------
-- What closing braces and places are read as
-----------------------------------------------------------------------------------------

/-- A split of a rest splits the text with what has been passed over before it. -/
theorem eq_of_split_map (passed : List Char) {rest content behind : List Char}
    {split : Option (List Char × List Char)}
    (mapped : split.map (fun parts => (passed ++ parts.1, parts.2)) = some (content, behind))
    (restEq
      : ∀ {content behind}, split = some (content, behind) → rest = content ++ '\x7d' :: behind)
    : passed ++ rest = content ++ '\x7d' :: behind := by
  obtain ⟨⟨front, back⟩, inner, pair⟩ := Option.map_eq_some_iff.mp mapped
  obtain ⟨rfl, rfl⟩ := Prod.mk.inj pair
  rw [restEq inner, List.append_assoc]

/-- A split leaves a closing brace out and nothing else. -/
theorem eq_of_splitAtBrace {depth : Nat} {text content behind : List Char}
    (split : splitAtBrace depth text = some (content, behind))
    : text = content ++ '\x7d' :: behind := by
  induction depth, text using splitAtBrace.induct generalizing content behind with
  | case1 depth => cases split
  | case2 depth escaped rest ih => exact eq_of_split_map ['\\', escaped] split ih
  | case3 depth rest ih => exact eq_of_split_map ['\x7b'] split ih
  | case4 depth rest last =>
      rw [splitAtBrace, if_pos last] at split
      obtain ⟨rfl, rfl⟩ := Prod.mk.inj (Option.some.inj split)
      rfl
  | case5 depth rest more ih =>
      rw [splitAtBrace, if_neg more] at split
      exact eq_of_split_map ['\x7d'] split ih
  | case6 depth char rest notEscape notOpening notClosing ih =>
      rw [splitAtBrace.eq_5 depth char rest notEscape notOpening notClosing] at split
      exact eq_of_split_map [char] split ih

/-- What the inside of a place inserts, given what snippets insert. -/
def defaultOf (inserted : List Char → List Char) (content : List Char) : List Char :=
  match content.dropWhile isNameChar with
  | ':' :: text => inserted text
  | '|' :: choices => choices.takeWhile fun char => char != ',' && char != '|'
  | _ => []

theorem expand_place {rest content behind : List Char} (bound : Nat)
    (split : splitAtBrace 1 rest = some (content, behind))
    : expand (bound + 1) ('$' :: '\x7b' :: rest)
      = defaultOf (expand bound) content ++ expand bound behind := by
  rw [expand, split]
  rfl

end LanguageClient.Snippet
