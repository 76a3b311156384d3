import LanguageClient.Proofs.Completion.Ranking
import LanguageClient.Proofs.Text.Lowercase

/-! Candidates with the typed text in their keys as it has been typed. They are shown whatever
other candidates there are, unless a capital sigma is written otherwise in the lowercase of the key.
-/

namespace LanguageClient.Candidate

variable {candidates : List Candidate} {typed : String}

theorem mem_ranked_of_matches {candidate : Candidate} (inside : candidate ∈ candidates)
    (matched : Matches typed candidate)
    : candidate ∈ ranked candidates typed := by
  rw [(ranking_ranked candidates typed).perm.mem_iff, shown, if_pos ⟨candidate, inside, matched⟩]
  exact List.mem_filter.mpr ⟨inside, decide_eq_true matched⟩

/-- Where some candidate matches, those that do not are not shown. -/
theorem not_mem_ranked {candidate other : Candidate} (inside : other ∈ candidates)
    (matched : Matches typed other) (missed : ¬ Matches typed candidate)
    : candidate ∉ ranked candidates typed := by
  rw [(ranking_ranked candidates typed).perm.mem_iff, shown, if_pos ⟨other, inside, matched⟩]
  exact fun kept => missed (of_decide_eq_true (List.mem_filter.mp kept).2)

/-- The lowercase of a key has that of each of its parts in which all capital sigmas are settled. -/
theorem matches_of_settled {candidate : Candidate} (settled : Text.SigmasSettled typed.toList)
    (literal : typed.toList <:+: candidate.filterKey.toList)
    : Matches typed candidate := by
  obtain ⟨front, back, key⟩ := literal
  have alike := settled.lowercaseBetween_eq ((Text.startCase? front.reverse).or none)
    ((Text.startCase? back).or none)
  rw [Matches, Text.toList_lowercase, Text.toList_lowercase, ← key, List.append_assoc,
    Text.lowercaseBetween_append, Text.lowercaseBetween_append, alike]
  exact List.infix_append' _ _ _

/-- Every candidate whose key has the typed text in it is shown, whatever the other candidates are,
if and only if the typed text settles its capital sigmas. Otherwise there are two candidates of
which one is hidden by the other.
-/
theorem literal_matches_ranked_iff (typed : String)
    : (∀ candidates, ∀ candidate ∈ candidates,
        typed.toList <:+: candidate.filterKey.toList → candidate ∈ ranked candidates typed)
      ↔ Text.SigmasSettled typed.toList := by
  constructor
  · intro kept
    by_contra unsettled
    obtain ⟨front, back, apart⟩ := Text.exists_not_infix_of_unsettled unsettled
    let itself : Candidate := { label := typed }
    let longer : Candidate := { label := .ofList (front ++ typed.toList ++ back) }
    have key : longer.filterKey.toList = front ++ typed.toList ++ back := String.toList_ofList
    have matched : Matches typed itself := List.infix_refl _
    have missed : ¬ Matches typed longer := by
      rwa [Matches, Text.toList_lowercase, Text.toList_lowercase, key]
    have literal : typed.toList <:+: longer.filterKey.toList := by
      rw [key]
      exact List.infix_append front typed.toList back
    exact not_mem_ranked (List.mem_cons_of_mem longer List.mem_cons_self) matched missed
      (kept [longer, itself] longer List.mem_cons_self literal)
  · intro settled candidates candidate inside literal
    exact mem_ranked_of_matches inside (matches_of_settled settled literal)

/-- The sigma is final in the typed text and in the other candidate, not in this one. -/
theorem literal_match_hidden
    : "ΑΣ".toList <:+: (filterKey { label := "ΑΣΑ" }).toList
      ∧ { label := "ΑΣΑ" } ∉ ranked [{ label := "ΑΣΑ" }, { label := "ας" }] "ΑΣ" := by
  have matched : Matches "ΑΣ" { label := "ας" } := by decide +kernel
  have missed : ¬ Matches "ΑΣ" { label := "ΑΣΑ" } := by decide +kernel
  exact ⟨by decide +kernel, not_mem_ranked (by decide) matched missed⟩

end LanguageClient.Candidate
