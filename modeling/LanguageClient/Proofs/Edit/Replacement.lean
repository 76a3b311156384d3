/-! Replacing a part of a text. What is before the part is kept, and a replacement whose ends are
mistaken is another one.
-/

namespace LanguageClient.Text

/-- A text with what is between two places replaced, in whichever order. -/
def replaceBetween (text : List Char) (left right : Nat) (newText : List Char) : List Char :=
  text.take (min left right) ++ newText ++ text.drop (max left right)

theorem replaceBetween_of_le {text : List Char} {start stop : Nat} (ordered : start ≤ stop)
    (newText : List Char)
    : replaceBetween text start stop newText
      = text.take start ++ newText ++ text.drop stop := by
  rw [replaceBetween, Nat.min_eq_left ordered, Nat.max_eq_right ordered]

/-- Texts that agree up to some place agree up to any place before it. -/
theorem take_of_take {text edited : List Char} {count bound : Nat} (before : count ≤ bound)
    (kept : edited.take bound = text.take bound)
    : edited.take count = text.take count := by
  have cut := congrArg (List.take count) kept
  rwa [List.take_take, List.take_take, Nat.min_eq_left before] at cut

/-- What is before some place of a text only depends on the characters up to there. -/
theorem take_front_append {text : List Char} {count bound : Nat} (before : count ≤ bound)
    (within : count ≤ text.length) (more : List Char)
    : (text.take bound ++ more).take count = text.take count := by
  have inside : count ≤ (text.take bound).length := by
    rw [List.length_take]
    omega
  rw [List.take_append_of_le_length inside, List.take_take, Nat.min_eq_left before]

/-- A replacement keeps what is before it. -/
theorem take_replaceBetween_of_le {text : List Char} {left right count : Nat}
    (within : count ≤ text.length) (before : count ≤ min left right) (newText : List Char)
    : (replaceBetween text left right newText).take count = text.take count := by
  rw [replaceBetween, List.append_assoc]
  exact take_front_append before within _

/-- A replacement keeps what has been kept before it. -/
theorem take_replaceBetween {text edited newText : List Char} {start stop count : Nat}
    (ordered : start ≤ stop) (within : stop ≤ text.length) (before : count ≤ start)
    (kept : edited.take stop = text.take stop)
    : (replaceBetween edited start stop newText).take count = text.take count := by
  have long : stop ≤ edited.length := by
    have lengths := congrArg List.length kept
    rw [List.length_take, List.length_take] at lengths
    omega
  rw [take_replaceBetween_of_le (by omega) (by omega)]
  exact take_of_take (by omega) kept

theorem length_replaceBetween (text newText : List Char) (left right : Nat)
    : (replaceBetween text left right newText).length
      = min (min left right) text.length + newText.length
        + (text.length - max left right) := by
  rw [replaceBetween, List.length_append, List.length_append, List.length_take,
    List.length_drop]

/-- A replacement keeps the characters before it. -/
theorem getElem?_replaceBetween {text : List Char} {left right index : Nat}
    (within : index < text.length) (before : index < min left right) (newText : List Char)
    : (replaceBetween text left right newText)[index]? = text[index]? := by
  have inside : index < (text.take (min left right)).length := by
    rw [List.length_take]
    omega
  rw [replaceBetween, List.append_assoc, List.getElem?_append_left inside,
    List.getElem?_take_of_lt before]

/-- A replacement starts with the new text. -/
theorem getElem?_replaceBetween_self {text : List Char} {left right : Nat}
    (within : min left right ≤ text.length) (char : Char)
    : (replaceBetween text left right [char])[min left right]? = some char := by
  have cut : (text.take (min left right)).length = min left right :=
    List.length_take_of_le within
  rw [replaceBetween, List.append_assoc, List.getElem?_append_right (Nat.le_of_eq cut), cut,
    Nat.sub_self]
  rfl

/-- A replacement whose end is read too far behind is another one: it removes more, or it
starts behind another character.
-/
theorem replaceBetween_ne_of_behind {text : List Char} {start stop start' stop' : Nat}
    {first second : Char} (ordered : start ≤ stop) (behind : stop < stop')
    (here : text[stop]? = some first) (differ : first ≠ second)
    (startRead : start' = start ∨ start = stop ∧ stop < start')
    : replaceBetween text start' stop' [second] ≠ replaceBetween text start stop [second] := by
  intro same
  obtain ⟨within, -⟩ := List.getElem?_eq_some_iff.mp here
  rcases startRead with rfl | ⟨rfl, startBehind⟩
  · have lengths := congrArg List.length same
    rw [length_replaceBetween, length_replaceBetween] at lengths
    omega
  · have before : start < min start' stop' := by omega
    have atStart : min start start ≤ text.length := by omega
    have kept := getElem?_replaceBetween within before [second]
    have inserted := getElem?_replaceBetween_self atStart second
    rw [Nat.min_self] at inserted
    rw [same, inserted, here] at kept
    exact differ (Option.some.inj kept).symm

/-- A replacement with a newline at its end that is read up to some place before the end of the
text, on the last line, leaves a newline where it starts. What it would remove in front of there
is put back with it.
-/
theorem replaceBetween_early {text : List Char} {start start' early : Nat}
    (remains : early < text.length) (startRead : start' = start ∨ start' = early ∧ start = text.length)
    : replaceBetween text start' early ((text.take start).drop early ++ ['\n'])
      = text.take start ++ '\n' :: text.drop (max start' early) := by
  rcases Nat.lt_or_ge early start with ahead | behind
  · have first : min start' early = early := by omega
    have front : text.take early ++ (text.take start).drop early = text.take start := by
      have cut := List.take_append_drop early (text.take start)
      rwa [List.take_take, Nat.min_eq_left (Nat.le_of_lt ahead)] at cut
    rw [replaceBetween, first, ← List.append_assoc, front, List.append_assoc]
    rfl
  · have read : start' = start := by omega
    have nothing : (text.take start).drop early = [] :=
      List.drop_of_length_le (Nat.le_trans (List.length_take_le _ _) behind)
    rw [replaceBetween, nothing, read, Nat.min_eq_left behind, List.nil_append,
      List.append_assoc]
    rfl

/-- Such a replacement shows that its end has been read too early: what is behind its start
begins with the last line's first character, or ends behind the newline.
-/
theorem replaceBetween_early_ne {text : List Char} {start start' early : Nat} {char : Char}
    (within : start ≤ text.length) (here : text[early]? = some char) (ordinary : char ≠ '\n')
    (startRead : start' = start ∨ start' = early ∧ start = text.length)
    : replaceBetween text start' early ((text.take start).drop early ++ ['\n'])
      ≠ replaceBetween text start text.length ((text.take start).drop early ++ ['\n']) := by
  obtain ⟨remains, -⟩ := List.getElem?_eq_some_iff.mp here
  rw [replaceBetween_early remains startRead, replaceBetween_of_le within, List.drop_length,
    List.append_nil]
  intro same
  have rest := List.append_cancel_left same
  rcases Nat.lt_or_ge early start with ahead | behind
  · have first := congrArg (fun chars : List Char => chars[0]?) rest
    have kept : ((text.take start).drop early)[0]? = some char := by
      rw [List.getElem?_drop, Nat.add_zero, List.getElem?_take_of_lt ahead, here]
    have inside : 0 < ((text.take start).drop early).length :=
      (List.getElem?_eq_some_iff.mp kept).1
    rw [List.getElem?_append_left inside, kept] at first
    exact ordinary (Option.some.inj first).symm
  · have lengths := congrArg List.length rest
    simp only [List.length_cons, List.length_drop, List.length_append, List.length_take,
      List.length_nil] at lengths
    omega

end LanguageClient.Text
