import Mathlib.Algebra.GroupWithZero.Nat
import Mathlib.Logic.Relation
import Mathlib.Data.List.Nodup

/-!
# Work lists

A traversal of a graph that keeps what is still to be visited in a queue and
what it has found in a list.  Only finitely many vertices have successors, so it
ends, and what it finds are the vertices that can be reached.  One that keeps no
list ends when every item leads to items of lower ranks only.
-/

namespace AppExecFwk

/-- A graph in which only finitely many vertices have successors. -/
structure FiniteGraph (α : Type) where
  successors : α → List α
  sources : List α
  mem_sources : ∀ vertex, successors vertex ≠ [] → vertex ∈ sources

namespace FiniteGraph

variable {α : Type} (graph : FiniteGraph α)

/-- There is an edge between two vertices. -/
def Edge (vertex next : α) : Prop :=
  next ∈ graph.successors vertex

section Traversal

variable [DecidableEq α]

/-- How many vertices with successors are not yet found. -/
def unvisited (found : List α) : Nat :=
  (graph.sources.filter (· ∉ found)).length

theorem unvisited_append_le (found : List α) (vertex : α) :
    graph.unvisited (found ++ [vertex]) ≤ graph.unvisited found := by
  unfold unvisited
  rw [← List.countP_eq_length_filter, ← List.countP_eq_length_filter]
  apply List.countP_mono_left
  intro other _ absent
  simp only [List.mem_append, not_or, decide_eq_true_eq] at absent ⊢
  exact absent.1

theorem unvisited_append_lt {found : List α} {vertex : α}
    (fresh : vertex ∉ found) (source : graph.successors vertex ≠ []) :
    graph.unvisited (found ++ [vertex]) < graph.unvisited found := by
  unfold unvisited
  have shrinks : graph.sources.filter (· ∉ found ++ [vertex]) =
      (graph.sources.filter (· ∉ found)).filter (· ≠ vertex) := by
    rw [List.filter_filter]
    apply List.filter_congr
    intro other _
    simp [and_comm]
  rw [shrinks]
  apply List.length_filter_lt_length_iff_exists.mpr
  refine ⟨vertex, ?_, by simp⟩
  exact List.mem_filter.mpr
    ⟨graph.mem_sources vertex source, decide_eq_true fresh⟩

/-- Visit the vertices in a queue, and those they lead to. -/
def traverse : List α → List α → List α
  | [], found => found
  | vertex :: queue, found =>
      if vertex ∈ found then traverse queue found
      else traverse (queue ++ graph.successors vertex) (found ++ [vertex])
termination_by queue found => (graph.unvisited found, queue.length)
decreasing_by
  · exact Prod.Lex.right _ (Nat.lt_succ_self _)
  · next fresh =>
      -- A vertex without successors shortens the queue, any other one is new.
      by_cases source : graph.successors vertex = []
      · rw [source, List.append_nil]
        rcases Nat.lt_or_eq_of_le (graph.unvisited_append_le found vertex) with
          fewer | same
        · exact Prod.Lex.left _ _ fewer
        · rw [same]
          exact Prod.Lex.right _ (Nat.lt_succ_self _)
      · exact Prod.Lex.left _ _ (graph.unvisited_append_lt fresh source)

theorem nodup_traverse (queue : List α) {found : List α}
    (nodup : found.Nodup) : (graph.traverse queue found).Nodup := by
  induction queue, found using traverse.induct graph with
  | case1 found =>
      rw [traverse]
      exact nodup
  | case2 vertex queue found visited ih =>
      rw [traverse, if_pos visited]
      exact ih nodup
  | case3 vertex queue found fresh ih =>
      rw [traverse, if_neg fresh]
      apply ih
      rw [List.nodup_append]
      refine ⟨nodup, List.nodup_singleton vertex, ?_⟩
      intro other member last single
      rw [List.mem_singleton.mp single]
      exact fun same => fresh (same ▸ member)

/-- A property that the edges carry on holds of all that is found. -/
theorem of_mem_traverse {property : α → Prop}
    (carried : ∀ vertex next, property vertex → graph.Edge vertex next →
      property next) (queue found : List α)
    (queued : ∀ vertex ∈ queue, property vertex)
    (visited : ∀ vertex ∈ found, property vertex) :
    ∀ vertex ∈ graph.traverse queue found, property vertex := by
  induction queue, found using traverse.induct graph with
  | case1 found =>
      rw [traverse]
      exact visited
  | case2 vertex queue found old ih =>
      rw [traverse, if_pos old]
      exact ih (fun other member =>
        queued other (List.mem_cons_of_mem _ member)) visited
  | case3 vertex queue found fresh ih =>
      rw [traverse, if_neg fresh]
      have holds := queued vertex List.mem_cons_self
      apply ih
      · intro other member
        rcases List.mem_append.mp member with waiting | next
        · exact queued other (List.mem_cons_of_mem _ waiting)
        · exact carried vertex other holds next
      · intro other member
        rcases List.mem_append.mp member with old | last
        · exact visited other old
        · rw [List.mem_singleton.mp last]
          exact holds

/-- The vertices that were visited lead to visited or to queued ones only. -/
def Covers (queue found : List α) : Prop :=
  ∀ vertex ∈ found, ∀ next, graph.Edge vertex next →
    next ∈ found ∨ next ∈ queue

/-- All that was found or queued is found in the end, and so is everything it
leads to. -/
theorem traverse_closed {queue found : List α}
    (covers : graph.Covers queue found) :
    (∀ vertex, vertex ∈ found ∨ vertex ∈ queue →
      vertex ∈ graph.traverse queue found) ∧
      graph.Covers [] (graph.traverse queue found) := by
  induction queue, found using traverse.induct graph with
  | case1 found =>
      rw [traverse]
      exact ⟨by simp, covers⟩
  | case2 vertex queue found old ih =>
      rw [traverse, if_pos old]
      have remaining : ∀ other, other ∈ found ∨ other ∈ vertex :: queue →
          other ∈ found ∨ other ∈ queue := by
        rintro other (visited | waiting)
        · exact .inl visited
        · rcases List.mem_cons.mp waiting with rfl | waiting
          · exact .inl old
          · exact .inr waiting
      have ends := ih fun other visited next edge =>
        remaining next (covers other visited next edge)
      exact ⟨fun other member => ends.1 other (remaining other member), ends.2⟩
  | case3 vertex queue found fresh ih =>
      rw [traverse, if_neg fresh]
      have remaining : ∀ other, other ∈ found ∨ other ∈ vertex :: queue →
          other ∈ found ++ [vertex] ∨ other ∈ queue ++ graph.successors vertex := by
        rintro other (visited | waiting)
        · exact .inl (List.mem_append_left _ visited)
        · rcases List.mem_cons.mp waiting with rfl | waiting
          · exact .inl (List.mem_append_right _ (List.mem_singleton_self other))
          · exact .inr (List.mem_append_left _ waiting)
      have ends := ih (by
        intro other visited next edge
        rcases List.mem_append.mp visited with old | last
        · exact remaining next (covers other old next edge)
        · rw [List.mem_singleton.mp last] at edge
          exact .inr (List.mem_append_right _ edge))
      exact ⟨fun other member => ends.1 other (remaining other member), ends.2⟩

/-- A traversal finds the vertices that can be reached from its queue. -/
theorem mem_traverse_iff (queue : List α) (vertex : α) :
    vertex ∈ graph.traverse queue [] ↔
      ∃ root ∈ queue, Relation.ReflTransGen graph.Edge root vertex := by
  constructor
  · intro member
    have carried : ∀ other next,
        (∃ root ∈ queue, Relation.ReflTransGen graph.Edge root other) →
        graph.Edge other next →
        ∃ root ∈ queue, Relation.ReflTransGen graph.Edge root next := by
      rintro other next ⟨root, queued, path⟩ edge
      exact ⟨root, queued, path.tail edge⟩
    apply graph.of_mem_traverse carried queue [] _ (by simp) vertex member
    intro root queued
    exact ⟨root, queued, .refl⟩
  · rintro ⟨root, queued, path⟩
    have start : graph.Covers queue [] := by simp [Covers]
    obtain ⟨reached, closed⟩ := graph.traverse_closed start
    induction path with
    | refl => exact reached root (.inr queued)
    | tail before edge ih =>
        rcases closed _ ih _ edge with found | impossible
        · exact found
        · cases impossible

end Traversal

end FiniteGraph

/-- Items that lead to items of lower ranks only. -/
structure Descent (α : Type) where
  successors : α → List α
  rank : α → Nat
  descends : ∀ item, ∀ next ∈ successors item, rank next < rank item

namespace Descent

variable {α : Type} (descent : Descent α)

/-- How many items there are below an item, with the item itself. -/
def weight (item : α) : Nat :=
  1 + ((descent.successors item).map weight).sum
termination_by descent.rank item
decreasing_by
  next member => exact descent.descends item _ member

/-- What a queue of items still has to do. -/
def work (queue : List α) : Nat :=
  (queue.map descent.weight).sum

theorem work_lt_cons (item : α) (queue : List α) :
    descent.work queue < descent.work (item :: queue) := by
  unfold work
  rw [List.map_cons, List.sum_cons, weight]
  omega

/-- An item may be replaced by its successors. -/
theorem work_append_lt (item : α) (queue : List α) :
    descent.work (queue ++ descent.successors item) <
      descent.work (item :: queue) := by
  unfold work
  rw [List.map_append, List.sum_append, List.map_cons, List.sum_cons, weight]
  omega

end Descent

end AppExecFwk
