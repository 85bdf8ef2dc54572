import Mathlib.Tactic.Common
import Mathlib.Data.List.Sort

/-!
# Stable sorting

A list that is kept sorted by a comparison of its items takes a new item behind
all those that do not have to come after it, so items that compare equal stay in
the order in which they came.  Sorting a whole list by merging does the same: of
two items that compare equal the one that came first comes first.
-/

namespace StableList

variable {α : Type} (before : α → α → Bool)

/-- Insert an item in front of the first one it comes before. -/
def insert (item : α) : List α → List α
  | [] => [item]
  | first :: rest =>
      if before item first then item :: first :: rest
      else first :: insert item rest

variable {before}

theorem insert_perm (item : α) (items : List α) :
    (insert before item items).Perm (item :: items) := by
  induction items with
  | nil => exact .refl _
  | cons first rest ih =>
      unfold insert
      split
      · exact .refl _
      · exact (ih.cons first).trans (.swap item first rest)

@[simp]
theorem mem_insert {item other : α} {items : List α} :
    other ∈ insert before item items ↔ other = item ∨ other ∈ items := by
  rw [(insert_perm item items).mem_iff, List.mem_cons]

/-- A list stays sorted when the comparison decides, against every item, on which
side of it the new one belongs. -/
theorem pairwise_insert {order : α → α → Prop} {item : α} {items : List α}
    (sorted : items.Pairwise order)
    (inFront : ∀ other ∈ items, before item other → order item other)
    (behind : ∀ other ∈ items, before item other = false → order other item)
    (carriesOver : ∀ first ∈ items, ∀ other ∈ items, before item first →
      order first other → before item other) :
    (insert before item items).Pairwise order := by
  induction items with
  | nil => exact List.pairwise_singleton order item
  | cons first rest ih =>
      rw [List.pairwise_cons] at sorted
      unfold insert
      split
      · next comesBefore =>
          refine List.pairwise_cons.mpr ⟨?_, List.pairwise_cons.mpr sorted⟩
          intro other member
          apply inFront other member
          rcases List.mem_cons.mp member with rfl | inRest
          · exact comesBefore
          · exact carriesOver first List.mem_cons_self other member comesBefore
              (sorted.1 other inRest)
      · next comesAfter =>
          have restSorted := ih sorted.2
            (fun other member => inFront other (List.mem_cons_of_mem _ member))
            (fun other member => behind other (List.mem_cons_of_mem _ member))
            (fun first member other otherMember =>
              carriesOver first (List.mem_cons_of_mem _ member) other
                (List.mem_cons_of_mem _ otherMember))
          refine List.pairwise_cons.mpr ⟨?_, restSorted⟩
          intro other member
          rcases mem_insert.mp member with rfl | inRest
          · exact behind first List.mem_cons_self (by simpa using comesAfter)
          · exact sorted.1 other inRest

section MergeSort

variable {comesFirst : α → α → Bool} {order : α → α → Prop} {first second : α}
  {items : List α}

theorem pair_sublist_or_swap (apart : first ≠ second) (firstMem : first ∈ items)
    (secondMem : second ∈ items) :
    [first, second].Sublist items ∨ [second, first].Sublist items := by
  obtain ⟨before, after, rfl⟩ := List.append_of_mem firstMem
  rcases List.mem_append.mp secondMem with inBefore | inRest
  · right
    exact (List.singleton_sublist.mpr inBefore).append
      (List.singleton_sublist.mpr List.mem_cons_self)
  · left
    have inAfter : second ∈ after :=
      (List.mem_cons.mp inRest).resolve_left apart.symm
    exact ((List.singleton_sublist.mpr inAfter).cons_cons first).trans
      (List.sublist_append_right before _)

/-- In a list without repetitions two items stand in one order only. -/
theorem not_pair_sublist_swap (nodup : items.Nodup)
    (inOrder : [first, second].Sublist items) :
    ¬[second, first].Sublist items := by
  induction items with
  | nil => cases inOrder
  | cons head rest ih =>
      rw [List.nodup_cons] at nodup
      intro swapped
      cases inOrder with
      | cons _ inRest =>
          cases swapped with
          | cons _ swappedRest => exact ih nodup.2 inRest swappedRest
          | cons_cons _ _ => exact nodup.1 (inRest.subset (by simp))
      | cons_cons _ secondInRest =>
          cases swapped with
          | cons _ swappedRest => exact nodup.1 (swappedRest.subset (by simp))
          | cons_cons _ _ =>
              exact nodup.1 (List.singleton_sublist.mp secondInRest)

/-- Items that come in an order and are sorted by a comparison come in the order
of the comparison, and those that tie in the order in which they came. -/
theorem pairwise_mergeSort
    (trans : ∀ first second third, comesFirst first second →
      comesFirst second third → comesFirst first third)
    (total : ∀ first second,
      (comesFirst first second || comesFirst second first) = true)
    (irrefl : ∀ item, ¬order item item) (ordered : items.Pairwise order) :
    (items.mergeSort comesFirst).Pairwise fun first second =>
      comesFirst first second = true ∧
        (comesFirst second first = true → order first second) := by
  have nodup : items.Nodup := by
    apply ordered.imp
    rintro first second related rfl
    exact irrefl first related
  have sortedNodup : (items.mergeSort comesFirst).Nodup :=
    (List.mergeSort_perm items comesFirst).nodup_iff.mpr nodup
  rw [List.pairwise_iff_forall_sublist]
  intro first second inSorted
  have sorted : comesFirst first second = true :=
    List.pairwise_iff_forall_sublist.mp
      (List.pairwise_mergeSort trans total items) inSorted
  refine ⟨sorted, fun tied => ?_⟩
  have apart : first ≠ second := by
    rintro rfl
    exact not_pair_sublist_swap sortedNodup inSorted inSorted
  have firstMem : first ∈ items :=
    List.mem_mergeSort.mp (inSorted.subset (by simp))
  have secondMem : second ∈ items :=
    List.mem_mergeSort.mp (inSorted.subset (by simp))
  rcases pair_sublist_or_swap apart firstMem secondMem with asBefore | swapped
  · exact List.pairwise_iff_forall_sublist.mp ordered asBefore
  · exact absurd (List.pair_sublist_mergeSort trans total tied swapped)
      (not_pair_sublist_swap sortedNodup inSorted)

end MergeSort

end StableList
