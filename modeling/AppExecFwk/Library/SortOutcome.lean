import Mathlib.Data.List.Sort
import Mathlib.Order.Defs.Unbundled

/-!
# Outcomes of a sort that is not stable

A sort that is told only which of two items comes before the other may leave
items that tie in any order.  All that holds of its outcome is that it has the
same items and that none of them comes before one in front of it.  When the
comparison is a strict weak order there are outcomes, and of two items that tie
either may stand in front.
-/

namespace List

variable {α : Type*} {before : α → α → Bool} {items sorted : List α}

/-- A list is an outcome of sorting another one by a comparison. -/
structure SortsTo (before : α → α → Bool) (items sorted : List α) : Prop where
  perm : sorted.Perm items
  ordered : sorted.Pairwise fun first second => before second first = false

namespace SortsTo

theorem mem_iff (sorts : SortsTo before items sorted) {item : α} :
    item ∈ sorted ↔ item ∈ items :=
  sorts.perm.mem_iff

/-- Where one item comes before another, it stands in front of it. -/
theorem mem_front (sorts : SortsTo before items sorted) {front behind : List α}
    {item other : α} (splits : sorted = front ++ item :: behind)
    (member : other ∈ items) (comes : before other item = true)
    (irrefl : before item item = false) : other ∈ front := by
  have ordered := sorts.ordered
  rw [← sorts.mem_iff, splits, mem_append, mem_cons] at member
  rw [splits, pairwise_append, pairwise_cons] at ordered
  rcases member with inFront | rfl | inBehind
  · exact inFront
  · rw [irrefl] at comes
    cases comes
  · rw [ordered.2.1.1 other inBehind] at comes
    cases comes

end SortsTo

/-- A pair that is not met in a first part stands in the rest. -/
theorem pair_sublist_of_notMem {first second : α} {front behind : List α}
    (pair : [first, second].Sublist (front ++ behind)) (absent : first ∉ front) :
    [first, second].Sublist behind := by
  induction front with
  | nil => exact pair
  | cons head front ih =>
      rw [mem_cons, not_or] at absent
      cases pair with
      | cons _ inRest => exact ih inRest absent.2
      | cons_cons _ _ => exact absurd rfl absent.1

section Existence

variable [IsStrictWeakOrder α fun first second => before first second = true]

private theorem notBehind_trans (first second third : α)
    (leads : (!before second first) = true)
    (follows : (!before third second) = true) :
    (!before third first) = true := by
  have incomp := ‹IsStrictWeakOrder α fun first second =>
    before first second = true›.incomp_trans
  rw [Bool.not_eq_true'] at leads follows ⊢
  by_contra behind
  rw [Bool.not_eq_false] at behind
  by_cases backward : before first second = true
  · have := IsTrans.trans (r := fun first second => before first second = true)
      third first second behind backward
    rw [follows] at this
    cases this
  · by_cases ahead : before second third = true
    · have := IsTrans.trans (r := fun first second => before first second = true)
        second third first ahead behind
      rw [leads] at this
      cases this
    · have notLeads : ¬before second first = true := by
        rw [leads]
        exact Bool.false_ne_true
      have notFollows : ¬before third second = true := by
        rw [follows]
        exact Bool.false_ne_true
      have tied : ¬before first third = true ∧ ¬before third first = true :=
        incomp first second third ⟨backward, notLeads⟩ ⟨ahead, notFollows⟩
      exact tied.2 behind

private theorem notBehind_total (first second : α) :
    ((!before second first) || (!before first second)) = true := by
  by_contra both
  rw [Bool.not_eq_true, Bool.or_eq_false_iff, Bool.not_eq_false',
    Bool.not_eq_false'] at both
  exact Std.Asymm.asymm (r := fun first second => before first second = true)
    first second both.2 both.1

/-- Of two items that do not have to stand the other way round, the one may
stand in front of the other in an outcome. -/
theorem exists_sortsTo_pair {first second : α} (firstMem : first ∈ items)
    (secondMem : second ∈ items) (apart : first ≠ second)
    (free : before second first = false) :
    ∃ sorted, SortsTo before items sorted ∧ [first, second].Sublist sorted := by
  obtain ⟨front, behind, rfl⟩ := append_of_mem firstMem
  have moved : (first :: (front ++ behind)).Perm (front ++ first :: behind) :=
    perm_middle.symm
  have inRest : second ∈ front ++ behind := by
    rcases mem_cons.mp (moved.mem_iff.mpr secondMem) with rfl | inRest
    · exact absurd rfl apart
    · exact inRest
  refine ⟨(first :: (front ++ behind)).mergeSort
    fun first second => !before second first, ⟨?_, ?_⟩, ?_⟩
  · exact (mergeSort_perm _ _).trans moved
  · apply (pairwise_mergeSort notBehind_trans notBehind_total _).imp
    intro first second leads
    exact Bool.not_eq_true' _ |>.mp leads
  · apply pair_sublist_mergeSort notBehind_trans notBehind_total
    · rw [free]
      rfl
    · exact (singleton_sublist.mpr inRest).cons_cons first

end Existence

end List
