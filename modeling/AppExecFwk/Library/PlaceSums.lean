import Mathlib.Algebra.BigOperators.Group.Finset.Basic
import AppExecFwk.Library.DirectoryTree

/-!
# Sums over the places of a tree

What stands strictly below a place of a tree stands at its children or strictly
below one of them, and below one only.  A sum over all of it is therefore the sum
over the children of what each one adds and of the sum below it.
-/

namespace DirectoryTree

open Finset

section Ancestors

variable {α : Type} {place other : Place α} {places : Finset (Place α)}

/-- The child of a place that another one is at or below. -/
def childTowards (place other : Place α) : Place α :=
  other.drop (other.length - (place.length + 1))

theorem childTowards_append (names : List (List α)) (name : List α) :
    childTowards place (names ++ name :: place) = name :: place := by
  unfold childTowards
  rw [List.length_append, List.length_cons, Nat.add_sub_cancel]
  exact List.drop_left

theorem suffix_iff_append : place <:+ other ∧ other ≠ place ↔
    ∃ names name, other = names ++ name :: place := by
  constructor
  · rintro ⟨⟨names, rfl⟩, apart⟩
    rcases List.eq_nil_or_concat names with rfl | ⟨front, name, rfl⟩
    · exact absurd rfl apart
    · exact ⟨front, name, by simp⟩
  · rintro ⟨names, name, rfl⟩
    constructor
    · exact (List.suffix_cons name place).trans (List.suffix_append names _)
    · intro same
      have lengths := congrArg List.length same
      simp only [List.length_append, List.length_cons] at lengths
      omega

/-- With a place the set has all the places it is in, but maybe the root. -/
def IsRooted (places : Finset (Place α)) : Prop :=
  ∀ name place, name :: place ∈ places → place ∈ places ∨ place = []

theorem IsRooted.mem_of_append (rooted : IsRooted places) {names : List (List α)}
    (nonempty : place ≠ []) (member : names ++ place ∈ places) : place ∈ places := by
  induction names with
  | nil => exact member
  | cons name names ih =>
      rcases rooted name (names ++ place) member with above | none
      · exact ih above
      · exact absurd (List.append_eq_nil_iff.mp none).2 nonempty

end Ancestors

section Below

variable {α : Type} [DecidableEq α] (places : Finset (Place α)) (place : Place α)

/-- The places strictly below a place. -/
def below : Finset (Place α) :=
  places.filter fun other => place <:+ other ∧ other ≠ place

/-- The places directly below a place. -/
def children : Finset (Place α) :=
  places.filter fun other => other ≠ [] ∧ other.tail = place

variable {places place} {other child : Place α}

@[simp]
theorem mem_below : other ∈ below places place ↔
    other ∈ places ∧ place <:+ other ∧ other ≠ place := by
  simp [below]

theorem mem_children : child ∈ children places place ↔
    child ∈ places ∧ ∃ name, child = name :: place := by
  simp only [children, mem_filter]
  refine and_congr_right fun _ => ?_
  cases child with
  | nil => simp
  | cons name above => simp

/-- The places below that lead to one child are the child and those below it. -/
theorem filter_childTowards (member : child ∈ children places place) :
    ((below places place).filter fun other => childTowards place other = child) =
      insert child (below places child) := by
  obtain ⟨inPlaces, name, rfl⟩ := mem_children.mp member
  ext other
  simp only [mem_filter, mem_below, mem_insert]
  constructor
  · rintro ⟨⟨otherMem, strictly⟩, towards⟩
    obtain ⟨names, first, rfl⟩ := suffix_iff_append.mp strictly
    rw [childTowards_append] at towards
    cases towards
    by_cases same : names ++ name :: place = name :: place
    · exact .inl same
    · exact .inr ⟨otherMem, List.suffix_append _ _, same⟩
  · rintro (rfl | ⟨otherMem, inside, apart⟩)
    · exact ⟨⟨inPlaces, suffix_iff_append.mpr ⟨[], name, rfl⟩⟩,
        childTowards_append [] name⟩
    · obtain ⟨names, rfl⟩ := inside
      exact ⟨⟨otherMem, suffix_iff_append.mpr ⟨names, name, rfl⟩⟩,
        childTowards_append names name⟩

/-- A sum over all that stands below a place. -/
theorem sum_below {β : Type*} [AddCommMonoid β] (rooted : IsRooted places)
    (place : Place α) (weight : Place α → β) :
    ∑ other ∈ below places place, weight other =
      ∑ child ∈ children places place,
        (weight child + ∑ other ∈ below places child, weight other) := by
  have leads : ∀ other ∈ below places place,
      childTowards place other ∈ children places place := by
    intro other member
    obtain ⟨otherMem, strictly⟩ := mem_below.mp member
    obtain ⟨names, name, rfl⟩ := suffix_iff_append.mp strictly
    rw [childTowards_append]
    exact mem_children.mpr
      ⟨rooted.mem_of_append (List.cons_ne_nil name place) otherMem, name, rfl⟩
  rw [← sum_fiberwise_of_maps_to leads weight]
  apply sum_congr rfl
  intro child member
  rw [filter_childTowards member, sum_insert]
  simp

end Below

section Inside

variable {α : Type}

/-- There is a place of the given name strictly between two places. -/
def IsInside (name : List α) (place other : Place α) : Prop :=
  ∃ above ∈ other.tails, above.head? = some name ∧ above ≠ other ∧
    place <:+ above ∧ above ≠ place

variable {place other : Place α} {name : List α}

/-- Nothing stands between a place and its child. -/
theorem not_isInside_child (first : List α) : ¬IsInside name place (first :: place) := by
  rintro ⟨above, isAbove, -, notOther, inside, notPlace⟩
  rcases List.suffix_cons_iff.mp ((List.mem_tails _ _).mp isAbove) with same | below
  · exact notOther same
  · exact notPlace (List.IsSuffix.eq_of_length below
      (Nat.le_antisymm below.length_le inside.length_le))

/-- What is below a child is inside a place of the name when the child has the name, or
when such a place is below the child. -/
theorem isInside_below_child {first : List α} (below : first :: place <:+ other)
    (apart : other ≠ first :: place) :
    IsInside name place other ↔ first = name ∨ IsInside name (first :: place) other := by
  constructor
  · rintro ⟨above, isAbove, named, notOther, inside, notPlace⟩
    obtain ⟨names, last, rfl⟩ := suffix_iff_append.mp ⟨inside, notPlace⟩
    have sameChild : last :: place = first :: place := by
      have isSuffix : last :: place <:+ other :=
        (List.suffix_append names _).trans ((List.mem_tails _ _).mp isAbove)
      rcases List.suffix_or_suffix_of_suffix isSuffix below with shorter | shorter
      · exact shorter.eq_of_length rfl
      · exact (shorter.eq_of_length rfl).symm
    rw [sameChild] at isAbove named notOther
    by_cases atChild : names = []
    · subst atChild
      exact .inl (Option.some_inj.mp named)
    · right
      refine ⟨names ++ first :: place, isAbove, named, notOther,
        List.suffix_append names _, ?_⟩
      intro same
      exact atChild (List.append_left_eq_self.mp same)
  · rintro (rfl | ⟨above, isAbove, named, notOther, inside, notPlace⟩)
    · exact ⟨first :: place, (List.mem_tails _ _).mpr below, rfl, apart.symm,
        List.suffix_cons first place, List.cons_ne_self first place⟩
    · refine ⟨above, isAbove, named, notOther,
        (List.suffix_cons first place).trans inside, ?_⟩
      rintro rfl
      have lengths := inside.length_le
      rw [List.length_cons] at lengths
      omega

variable [DecidableEq α]

instance (name : List α) (place other : Place α) :
    Decidable (IsInside name place other) :=
  inferInstanceAs (Decidable (∃ above ∈ other.tails, _ ∧ _))

/-- The sum over what stands inside places of the name. -/
theorem sum_inside {β : Type*} [AddCommMonoid β] {places : Finset (Place α)} (rooted : IsRooted places)
    (name : List α) (place : Place α) (weight : Place α → β) :
    ∑ other ∈ below places place with IsInside name place other, weight other =
      ∑ child ∈ children places place,
        if child.head? = some name then ∑ other ∈ below places child, weight other
        else ∑ other ∈ below places child with IsInside name child other,
          weight other := by
  rw [sum_filter, sum_below rooted]
  apply sum_congr rfl
  intro child member
  obtain ⟨-, first, rfl⟩ := mem_children.mp member
  rw [if_neg (not_isInside_child first), zero_add, sum_filter, List.head?_cons]
  by_cases named : first = name
  · rw [if_pos (congrArg some named)]
    apply sum_congr rfl
    intro other otherMem
    obtain ⟨-, isBelow, apart⟩ := mem_below.mp otherMem
    rw [if_pos ((isInside_below_child isBelow apart).mpr (.inl named))]
  · rw [if_neg (fun same => named (Option.some_inj.mp same))]
    apply sum_congr rfl
    intro other otherMem
    obtain ⟨-, isBelow, apart⟩ := mem_below.mp otherMem
    simp only [isInside_below_child isBelow apart, named, false_or]

end Inside

end DirectoryTree
