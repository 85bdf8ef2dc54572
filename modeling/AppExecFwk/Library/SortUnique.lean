import Mathlib.Data.List.Sort
import Mathlib.Order.Defs.LinearOrder

/-!
# Sorting and removing duplicates

A list that is sorted by a key and whose runs of one key are cut down to their
first element has the same keys as before, each of them once.
-/

namespace List

variable {α κ : Type*} [LinearOrder κ] (key : α → κ)

/-- Drop what repeats the key of the element before it, the first of which has
the key `last`. -/
def uniqueAfter (last : κ) : List α → List α
  | [] => []
  | first :: rest =>
      if key first = last then uniqueAfter last rest
      else first :: uniqueAfter (key first) rest

/-- Keep the first element of each run of one key. -/
def uniqueBy : List α → List α
  | [] => []
  | first :: rest => first :: rest.uniqueAfter key (key first)

/-- Sort by the key, and keep one element of each key. -/
def sortUnique (list : List α) : List α :=
  (list.insertionSort fun first second => key first ≤ key second).uniqueBy key

variable {key} {list : List α} {last wanted : κ}

theorem mem_last_or_map_uniqueAfter :
    (wanted = last ∨ wanted ∈ (list.uniqueAfter key last).map key) ↔
      (wanted = last ∨ wanted ∈ list.map key) := by
  induction list generalizing last with
  | nil => rfl
  | cons first rest ih =>
      rw [uniqueAfter]
      split
      case isTrue same =>
        rw [ih, map_cons, mem_cons, same]
        tauto
      case isFalse apart =>
        simp only [map_cons, mem_cons, ih]

theorem mem_map_uniqueBy :
    wanted ∈ (list.uniqueBy key).map key ↔ wanted ∈ list.map key := by
  cases list with
  | nil => rfl
  | cons first rest =>
      simp only [uniqueBy, map_cons, mem_cons]
      exact mem_last_or_map_uniqueAfter

/-- In a sorted list each key remains once, and above the one before. -/
theorem pairwise_lt_uniqueAfter (above : ∀ item ∈ list, last ≤ key item)
    (sorted : (list.map key).Pairwise (· ≤ ·)) :
    (∀ item ∈ list.uniqueAfter key last, last < key item) ∧
      ((list.uniqueAfter key last).map key).Pairwise (· < ·) := by
  induction list generalizing last with
  | nil => simp [uniqueAfter]
  | cons first rest ih =>
      rw [map_cons, pairwise_cons] at sorted
      obtain ⟨least, sorted⟩ := sorted
      have atLeast : ∀ item ∈ rest, key first ≤ key item := by
        intro item member
        exact least _ (mem_map_of_mem member)
      rw [uniqueAfter]
      split
      case isTrue same =>
        exact ih (fun item member => same ▸ atLeast item member) sorted
      case isFalse apart =>
        have below : last < key first :=
          lt_of_le_of_ne (above first mem_cons_self) (Ne.symm apart)
        obtain ⟨greater, increasing⟩ := ih atLeast sorted
        constructor
        · intro item member
          rcases mem_cons.mp member with rfl | later
          · exact below
          · exact below.trans (greater item later)
        · rw [map_cons, pairwise_cons]
          refine ⟨fun other member => ?_, increasing⟩
          obtain ⟨item, later, rfl⟩ := mem_map.mp member
          exact greater item later

theorem nodup_map_uniqueBy (sorted : (list.map key).Pairwise (· ≤ ·)) :
    ((list.uniqueBy key).map key).Nodup := by
  cases list with
  | nil => exact nodup_nil
  | cons first rest =>
      rw [map_cons, pairwise_cons] at sorted
      have atLeast : ∀ item ∈ rest, key first ≤ key item := by
        intro item member
        exact sorted.1 _ (mem_map_of_mem member)
      obtain ⟨greater, increasing⟩ := pairwise_lt_uniqueAfter atLeast sorted.2
      rw [uniqueBy, map_cons, nodup_cons]
      constructor
      · intro member
        obtain ⟨item, later, same⟩ := mem_map.mp member
        exact (greater item later).ne' same
      · exact increasing.imp ne_of_lt

theorem mem_map_sortUnique :
    wanted ∈ (list.sortUnique key).map key ↔ wanted ∈ list.map key := by
  rw [sortUnique, mem_map_uniqueBy]
  exact ((perm_insertionSort _ _).map key).mem_iff

theorem nodup_map_sortUnique : ((list.sortUnique key).map key).Nodup := by
  apply nodup_map_uniqueBy
  rw [pairwise_map]
  have : Std.Total fun first second : α => key first ≤ key second :=
    ⟨fun first second => le_total _ _⟩
  have : IsTrans α fun first second : α => key first ≤ key second :=
    ⟨fun _ _ _ => le_trans⟩
  exact pairwise_insertionSort _ list

end List
