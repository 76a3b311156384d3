import LanguageClient.Keyed

/-! Lookup after every change of values under names. Increasing names make lookup and
membership agree, which is what removal needs: only the first value of a name is erased.
-/

namespace LanguageClient.Keyed

variable {α β : Type}

-----------------------------------------------------------------------------------------
-- Insertion
-----------------------------------------------------------------------------------------

/-- An insertion is seen under its own name only, by induction on the names passed over.
No order is needed, because the new value goes before any older one of its name.
-/
theorem get?_insert (name other : String) (value : α) (values : Keyed α)
    : get? other (insert name value values)
      = if name = other then some value else get? other values := by
  induction values with
  | nil => simp [insert, get?]
  | cons first rest ih =>
      obtain ⟨key, old⟩ := first
      unfold insert
      split
      · rename_i same
        subst same
        by_cases found : name = other <;> simp [get?, found]
      · split
        · simp only [get?]
        · rename_i differs _
          by_cases passed : key = other
          · have unequal : name ≠ other := fun same => differs (same.trans passed.symm)
            simp [get?, passed, unequal]
          · simp only [get?, if_neg passed, ih]

@[simp]
theorem get?_insert_self (name : String) (value : α) (values : Keyed α)
    : get? name (insert name value values) = some value := by
  rw [get?_insert, if_pos rfl]

/-- Lookup in joined values prefers the ones in front. -/
theorem get?_append (front back : List (String × α)) (name : String)
    : get? name (front ++ back) = (get? name front).or (get? name back) := by
  induction front with
  | nil => rfl
  | cons first rest ih =>
      rw [List.cons_append, get?, get?, ih]
      split <;> rfl

/-- A fold of insertions looks a name up in the inserted list from its end, and in the
starting values when the list does not have it.
-/
theorem get?_foldl_insert (inserted : List (String × α)) (values : Keyed α) (name : String)
    : get? name
          (inserted.foldl (fun kept named => insert named.1 named.2 kept) values)
      = (get? name inserted.reverse).or (get? name values) := by
  induction inserted generalizing values with
  | nil => rfl
  | cons first rest ih =>
      rw [List.foldl_cons, ih, get?_insert, List.reverse_cons, get?_append, Option.or_assoc]
      congr 1
      rw [get?]
      split <;> rfl

/-- Values set one after another: the last one of a name is found. -/
theorem get?_ofList (values : List (String × α)) (name : String)
    : get? name (ofList values) = get? name values.reverse := by
  rw [ofList, get?_foldl_insert]
  simp [get?]

-----------------------------------------------------------------------------------------
-- Order and removal
-----------------------------------------------------------------------------------------

/-- The names increase, so that no name has two values. -/
def Sorted (values : Keyed α) : Prop :=
  values.Pairwise fun left right => left.1 < right.1

theorem Sorted.nil : Sorted ([] : Keyed α) :=
  List.Pairwise.nil

/-- The names of an insertion are the new one and the old ones. -/
theorem mem_insert {name : String} {value : α} {values : Keyed α} {entry : String × α}
    (member : entry ∈ insert name value values)
    : entry = (name, value) ∨ entry ∈ values := by
  induction values with
  | nil => exact Or.inl (List.mem_singleton.mp member)
  | cons first rest ih =>
      obtain ⟨key, old⟩ := first
      unfold insert at member
      split at member
      · exact (List.mem_cons.mp member).imp_right (List.mem_cons_of_mem _)
      · split at member
        · exact List.mem_cons.mp member
        · rcases List.mem_cons.mp member with same | later
          · exact Or.inr (same ▸ List.mem_cons_self)
          · exact (ih later).imp_right (List.mem_cons_of_mem _)

/-- Insertion keeps the order: the new name goes before the first larger one. -/
theorem Sorted.insert {values : Keyed α} (sorted : Sorted values) (name : String)
    (value : α)
    : Sorted (insert name value values) := by
  induction values with
  | nil => exact List.pairwise_singleton _ _
  | cons first rest ih =>
      obtain ⟨key, old⟩ := first
      obtain ⟨above, tail⟩ := List.pairwise_cons.mp sorted
      unfold Keyed.insert
      split
      · rename_i same
        exact List.pairwise_cons.mpr ⟨same ▸ above, tail⟩
      · split
        · rename_i less
          refine List.pairwise_cons.mpr ⟨?_, sorted⟩
          intro entry member
          rcases List.mem_cons.mp member with same | later
          · exact same ▸ less
          · exact String.lt_trans less (above entry later)
        · rename_i differs notLess
          refine List.pairwise_cons.mpr ⟨?_, ih tail⟩
          intro entry member
          rcases mem_insert member with same | old
          · subst same
            -- Of two different names neither of which is below the other, none exist.
            apply Decidable.by_contra
            intro notBelow
            exact differs (String.le_antisymm notBelow notLess)
          · exact above entry old

/-- A name below all others has no value. -/
theorem get?_eq_none_of_above {name : String} {values : Keyed α}
    (above : ∀ entry ∈ values, name < entry.1)
    : get? name values = none := by
  induction values with
  | nil => rfl
  | cons first rest ih =>
      have differs : first.1 ≠ name :=
        fun same => String.ne_of_lt (above first List.mem_cons_self) same.symm
      rw [get?, if_neg differs]
      exact ih fun entry member => above entry (List.mem_cons_of_mem _ member)

/-- Removal keeps a part of the values in their order. -/
theorem erase_sublist (name : String) (values : Keyed α)
    : (erase name values).Sublist values := by
  induction values with
  | nil => exact List.Sublist.refl _
  | cons first rest ih =>
      unfold erase
      split
      · exact List.sublist_cons_self _ _
      · exact ih.cons_cons _

theorem Sorted.erase {values : Keyed α} (sorted : Sorted values) (name : String)
    : Sorted (erase name values) :=
  List.Pairwise.sublist (erase_sublist name values) sorted

/-- A removal is seen under its own name only. The order excludes a second value. -/
theorem Sorted.get?_erase {values : Keyed α} (sorted : Sorted values)
    (name other : String)
    : get? other (Keyed.erase name values)
      = if name = other then none else get? other values := by
  induction values with
  | nil => simp [Keyed.erase, get?]
  | cons first rest ih =>
      obtain ⟨key, old⟩ := first
      obtain ⟨above, tail⟩ := List.pairwise_cons.mp sorted
      unfold Keyed.erase
      split
      · rename_i same
        subst same
        by_cases removed : key = other
        · subst removed
          rw [if_pos rfl, get?_eq_none_of_above above]
        · simp [get?, removed]
      · rename_i differs
        by_cases passed : key = other
        · have unequal : name ≠ other := fun same => differs (passed.trans same.symm)
          simp [get?, passed, unequal]
        · simp only [get?, if_neg passed, ih tail]

-----------------------------------------------------------------------------------------
-- Values as they are, as they are mapped and as they are picked out
-----------------------------------------------------------------------------------------

/-- Lookup after the same change of every value. -/
theorem get?_map (change : α → β) (values : Keyed α) (name : String)
    : get? name (values.map fun named => (named.1, change named.2))
      = (get? name values).map change := by
  induction values with
  | nil => rfl
  | cons first rest ih =>
      rw [List.map_cons, get?, get?, ih]
      split <;> rfl

theorem Sorted.map {values : Keyed α} (sorted : Sorted values) (change : α → β)
    : Sorted (values.map fun named => (named.1, change named.2)) :=
  List.pairwise_map.mpr sorted

/-- A value that is found stands under its name. -/
theorem mem_of_get? {name : String} {value : α} {values : Keyed α}
    (found : get? name values = some value)
    : (name, value) ∈ values := by
  induction values with
  | nil => simp [get?] at found
  | cons first rest ih =>
      rw [get?] at found
      split at found
      · rename_i same
        obtain rfl := Option.some.inj found
        exact same ▸ List.mem_cons_self
      · exact List.mem_cons_of_mem _ (ih found)

/-- With increasing names every value is found. -/
theorem Sorted.get?_of_mem {values : Keyed α} (sorted : Sorted values) {name : String}
    {value : α} (member : (name, value) ∈ values)
    : get? name values = some value := by
  induction values with
  | nil => cases member
  | cons first rest ih =>
      obtain ⟨above, tail⟩ := List.pairwise_cons.mp sorted
      rw [get?]
      rcases List.mem_cons.mp member with same | later
      · subst same
        rw [if_pos rfl]
      · rw [if_neg (String.ne_of_lt (above _ later))]
        exact ih tail later

/-- With increasing names no name is repeated. -/
theorem Sorted.names_nodup {values : Keyed α} (sorted : Sorted values)
    : (values.map Prod.fst).Nodup :=
  List.pairwise_map.mpr (sorted.imp String.ne_of_lt)

/-- Some of the values, changed, under their old names. -/
def pick (choose : α → Option β) (values : Keyed α) : Keyed β :=
  values.filterMap fun named => (choose named.2).map fun value => (named.1, value)

/-- A picked value comes from a value of the same name. -/
theorem mem_pick {choose : α → Option β} {values : Keyed α} {name : String} {value : β}
    : (name, value) ∈ pick choose values
      ↔ ∃ old, (name, old) ∈ values ∧ choose old = some value := by
  unfold pick
  rw [List.mem_filterMap]
  constructor
  · rintro ⟨⟨key, old⟩, member, chosen⟩
    obtain ⟨result, found, same⟩ := Option.map_eq_some_iff.mp chosen
    obtain ⟨rfl, rfl⟩ := Prod.mk.inj same
    exact ⟨old, member, found⟩
  · rintro ⟨old, member, found⟩
    exact ⟨(name, old), member, by rw [found]; rfl⟩

theorem Sorted.pick {values : Keyed α} (sorted : Sorted values) (choose : α → Option β)
    : Sorted (pick choose values) := by
  refine List.Pairwise.filterMap _ ?_ sorted
  intro left right less first firstPicked second secondPicked
  obtain ⟨_, _, rfl⟩ := Option.map_eq_some_iff.mp firstPicked
  obtain ⟨_, _, rfl⟩ := Option.map_eq_some_iff.mp secondPicked
  exact less

/-- Lookup among picked values is lookup followed by the choice. -/
theorem Sorted.get?_pick {values : Keyed α} (sorted : Sorted values)
    (choose : α → Option β) (name : String)
    : get? name (Keyed.pick choose values) = (get? name values).bind choose := by
  apply Option.ext
  intro value
  rw [Option.bind_eq_some_iff]
  constructor
  · intro found
    obtain ⟨old, member, chosen⟩ := mem_pick.mp (mem_of_get? found)
    exact ⟨old, sorted.get?_of_mem member, chosen⟩
  · rintro ⟨old, found, chosen⟩
    exact (sorted.pick choose).get?_of_mem (mem_pick.mpr ⟨old, mem_of_get? found, chosen⟩)

end LanguageClient.Keyed
