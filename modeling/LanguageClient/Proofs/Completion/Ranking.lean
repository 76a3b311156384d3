import LanguageClient.Proofs.Completion.MenuPages
import LanguageClient.Proofs.Text.ByteOrder
import Mathlib.Data.List.Infix

/-! The order of candidates in a menu. The candidates that match are ranked by the bytes of their
sort keys and in no other respect: there is one such ranking, and ranking it again changes nothing.
-/

namespace LanguageClient

/-- The search in a text finds what is a part of it. -/
theorem Text.isWithin_iff (part text : List Char) : isWithin part text = true ↔ part <:+: text := by
  induction text with
  | nil => rw [isWithin, List.isEmpty_iff, List.infix_nil]
  | cons char text ih =>
      rw [isWithin, Bool.or_eq_true, List.isPrefixOf_iff_prefix, ih, List.infix_cons_iff]

namespace Candidate

variable {candidates result other : List Candidate} {typed : String}

-----------------------------------------------------------------------------------------
-- Candidates that match
-----------------------------------------------------------------------------------------

/-- A candidate's key has the typed text in it, both in lowercase. -/
def Matches (typed : String) (candidate : Candidate) : Prop :=
  (Text.lowercase typed).toList <:+: (Text.lowercase candidate.filterKey).toList

instance (typed : String) : DecidablePred (Matches typed) := fun _ =>
  inferInstanceAs (Decidable (_ <:+: _))

/-- The candidates that are shown for a typed text: those that match, or all if none does. -/
def shown (candidates : List Candidate) (typed : String) : List Candidate :=
  if ∃ candidate ∈ candidates, Matches typed candidate then
    candidates.filter (Matches typed ·)
  else
    candidates

theorem matchesTyped_eq (typed : String) (candidate : Candidate)
    : matchesTyped typed candidate = decide (Matches typed candidate) := by
  rw [Bool.eq_iff_iff, decide_eq_true_iff]
  exact Text.isWithin_iff _ _

theorem matching_eq_shown (candidates : List Candidate) (typed : String)
    : matching candidates typed = shown candidates typed := by
  have same : candidates.filter (matchesTyped typed) = candidates.filter (Matches typed ·) :=
    List.filter_congr fun candidate _ => matchesTyped_eq typed candidate
  rw [matching, shown, same]
  by_cases some : ∃ candidate ∈ candidates, Matches typed candidate
  · rw [if_pos some, if_neg]
    intro empty
    obtain ⟨candidate, inside, matched⟩ := some
    have none := List.filter_eq_nil_iff.mp (List.isEmpty_iff.mp empty) candidate inside
    exact none (decide_eq_true matched)
  · rw [if_neg some, if_pos]
    refine List.isEmpty_iff.mpr (List.filter_eq_nil_iff.mpr fun candidate inside matched => ?_)
    exact some ⟨candidate, inside, of_decide_eq_true matched⟩

/-- Shown candidates match all or none of them does. -/
theorem matches_shown (candidates : List Candidate) (typed : String)
    : (∀ candidate ∈ shown candidates typed, Matches typed candidate)
      ∨ ∀ candidate ∈ shown candidates typed, ¬ Matches typed candidate := by
  rw [shown]
  split
  · exact Or.inl fun candidate inside => of_decide_eq_true (List.mem_filter.mp inside).2
  · rename_i none
    exact Or.inr fun candidate inside matched => none ⟨candidate, inside, matched⟩

theorem shown_of_alike
    (alike
      : (∀ candidate ∈ candidates, Matches typed candidate)
        ∨ ∀ candidate ∈ candidates, ¬ Matches typed candidate)
    : shown candidates typed = candidates := by
  rw [shown]
  split
  · rename_i some
    obtain ⟨candidate, inside, matched⟩ := some
    have all := alike.resolve_right fun none => none candidate inside matched
    exact List.filter_eq_self.mpr fun candidate inside => decide_eq_true (all candidate inside)
  · rfl

-----------------------------------------------------------------------------------------
-- Rankings
-----------------------------------------------------------------------------------------

/-- The candidates with a sort key, in their order. -/
def ofKey (key : String) (candidates : List Candidate) : List Candidate :=
  candidates.filter fun candidate => candidate.sortKey == key

/-- The same candidates in the order of the bytes of their sort keys, and in the order that they
had where these are equal.
-/
structure Ranking (candidates result : List Candidate) : Prop where
  perm : result.Perm candidates
  ascending
    : result.Pairwise fun left right =>
        Text.Utf8.encode left.sortKey ≤ Text.Utf8.encode right.sortKey
  stable : ∀ key, ofKey key result = ofKey key candidates

theorem ofKey_cons (key : String) (candidate : Candidate) (rest : List Candidate)
    : ofKey key (candidate :: rest)
      = if candidate.sortKey = key then candidate :: ofKey key rest else ofKey key rest := by
  simp only [ofKey, List.filter_cons, beq_iff_eq]

theorem mem_ofKey_sortKey {candidate : Candidate}
    : candidate ∈ ofKey candidate.sortKey candidates ↔ candidate ∈ candidates := by
  rw [ofKey, List.mem_filter]
  exact and_iff_left (beq_self_eq_true _)

theorem sortKey_head_le {first candidate : Candidate} {rest : List Candidate}
    (sorted : (first :: rest).Pairwise fun left right => left.sortKey ≤ right.sortKey)
    (inside : candidate ∈ first :: rest)
    : first.sortKey ≤ candidate.sortKey := by
  rcases List.mem_cons.mp inside with rfl | inside
  · exact String.le_refl _
  · exact List.rel_of_pairwise_cons sorted inside

/-- Lists in order that agree on every key are equal: the first ones have the same key, as each is
least in its list.
-/
theorem eq_of_sorted
    (sorted : result.Pairwise fun left right => left.sortKey ≤ right.sortKey)
    (sorted' : other.Pairwise fun left right => left.sortKey ≤ right.sortKey)
    (same : ∀ key, ofKey key result = ofKey key other)
    : result = other := by
  have mem_iff (candidate : Candidate) : candidate ∈ result ↔ candidate ∈ other := by
    rw [← mem_ofKey_sortKey, same, mem_ofKey_sortKey]
  induction result generalizing other with
  | nil =>
      refine (List.eq_nil_iff_forall_not_mem.mpr fun candidate inside => ?_).symm
      exact List.not_mem_nil ((mem_iff candidate).mpr inside)
  | cons first rest ih =>
      cases other with
      | nil => exact absurd ((mem_iff first).mp List.mem_cons_self) List.not_mem_nil
      | cons first' rest' =>
          have key : first.sortKey = first'.sortKey :=
            String.le_antisymm (sortKey_head_le sorted ((mem_iff first').mpr List.mem_cons_self))
              (sortKey_head_le sorted' ((mem_iff first).mp List.mem_cons_self))
          have begins := same first.sortKey
          rw [ofKey_cons, ofKey_cons, if_pos rfl, if_pos key.symm] at begins
          obtain ⟨rfl, -⟩ := List.cons.inj begins
          have later (key : String) : ofKey key rest = ofKey key rest' := by
            have whole := same key
            rw [ofKey_cons, ofKey_cons] at whole
            split at whole
            · exact (List.cons.inj whole).2
            · exact whole
          refine congrArg (first :: ·) (ih sorted.of_cons sorted'.of_cons later fun candidate => ?_)
          rw [← mem_ofKey_sortKey, later, mem_ofKey_sortKey]

theorem Ranking.unique (ranking : Ranking candidates result) (ranking' : Ranking candidates other)
    : result = other := by
  refine eq_of_sorted ?_ ?_ fun key => (ranking.stable key).trans (ranking'.stable key).symm
  · exact ranking.ascending.imp (Text.Utf8.encode_le_iff _ _).mp
  · exact ranking'.ascending.imp (Text.Utf8.encode_le_iff _ _).mp

/-- The order that candidates are sorted by. -/
def isBefore (left right : Candidate) : Bool :=
  !decide (right.sortKey < left.sortKey)

theorem isBefore_iff (left right : Candidate)
    : isBefore left right = true ↔ left.sortKey ≤ right.sortKey := by
  rw [isBefore, Bool.not_eq_true', decide_eq_false_iff_not, String.not_lt]

theorem isBefore_trans (first second third : Candidate) (before : isBefore first second = true)
    (before' : isBefore second third = true)
    : isBefore first third = true := by
  rw [isBefore_iff] at before before' ⊢
  exact String.le_trans before before'

theorem isBefore_total (left right : Candidate)
    : (isBefore left right || isBefore right left) = true := by
  rw [Bool.or_eq_true, isBefore_iff, isBefore_iff]
  exact String.le_total _ _

/-- Those of one key are in order already, so sorting leaves them as they are to each other. -/
theorem ranking_mergeSort (candidates : List Candidate)
    : Ranking candidates (candidates.mergeSort isBefore) := by
  have perm := List.mergeSort_perm candidates isBefore
  refine ⟨perm, ?_, fun key => ?_⟩
  · refine (List.pairwise_mergeSort isBefore_trans isBefore_total candidates).imp fun before => ?_
    exact (Text.Utf8.encode_le_iff _ _).mpr ((isBefore_iff _ _).mp before)
  · have alike : (ofKey key candidates).Pairwise fun left right => isBefore left right = true := by
      refine List.pairwise_of_forall_mem_list fun left inside right inside' => ?_
      have same : left.sortKey = key := beq_iff_eq.mp (List.mem_filter.mp inside).2
      have same' : right.sortKey = key := beq_iff_eq.mp (List.mem_filter.mp inside').2
      exact (isBefore_iff left right).mpr (same ▸ same' ▸ String.le_refl key)
    have kept := (List.sublist_mergeSort isBefore_trans isBefore_total alike
      List.filter_sublist).filter fun candidate => candidate.sortKey == key
    rw [ofKey, List.filter_filter] at kept
    simp only [Bool.and_self] at kept
    exact (kept.eq_of_length (perm.filter _).length_eq.symm).symm

theorem ranking_ranked (candidates : List Candidate) (typed : String)
    : Ranking (shown candidates typed) (ranked candidates typed) := by
  rw [← matching_eq_shown]
  exact ranking_mergeSort (matching candidates typed)

/-- A ranking shows the same candidates again: those that match do, and if none does none is
filtered out.
-/
theorem shown_ranked (candidates : List Candidate) (typed : String)
    : shown (ranked candidates typed) typed = ranked candidates typed := by
  have perm := (ranking_ranked candidates typed).perm
  refine shown_of_alike ((matches_shown candidates typed).imp ?_ ?_)
  · exact fun all candidate inside => all candidate (perm.mem_iff.mp inside)
  · exact fun none candidate inside => none candidate (perm.mem_iff.mp inside)

theorem ranked_ranked (candidates : List Candidate) (typed : String)
    : ranked (ranked candidates typed) typed = ranked candidates typed := by
  have again := ranking_ranked (ranked candidates typed) typed
  rw [shown_ranked] at again
  exact again.unique
    ⟨List.Perm.refl _, (ranking_ranked candidates typed).ascending, fun _ => rfl⟩

/-- The candidates that match, or all if none does, have one ranking, which is the one that a menu
shows. It is empty only if there are no candidates, and is ranked already.
-/
theorem ranked_iff (candidates : List Candidate) (typed : String)
    : (∀ result, Ranking (shown candidates typed) result ↔ result = ranked candidates typed)
      ∧ (ranked candidates typed = [] ↔ candidates = [])
      ∧ ranked (ranked candidates typed) typed = ranked candidates typed := by
  refine ⟨fun result => ⟨?_, ?_⟩, ?_, ranked_ranked candidates typed⟩
  · exact fun ranking => ranking.unique (ranking_ranked candidates typed)
  · rintro rfl
    exact ranking_ranked candidates typed
  · rw [← List.isEmpty_iff, ranked_isEmpty, List.isEmpty_iff]

end Candidate

end LanguageClient
