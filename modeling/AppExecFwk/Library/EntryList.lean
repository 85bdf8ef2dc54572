import AppExecFwk.Library.OrderedMap
import Mathlib.Data.Finset.Card

/-!
# Maps that are filled from a list

Entries are added to a map in turn, and a key that is there keeps its value.  No
entry is lost exactly if no key stands twice in the list.
-/

namespace Std.ExtTreeMap

variable {α β : Type} {cmp : α → α → Ordering} [TransCmp cmp]

/-- Add the entries of which the key is new. -/
def storeAll (map : ExtTreeMap α β cmp) (entries : List (α × β)) :
    ExtTreeMap α β cmp :=
  entries.foldl (fun map entry => map.insertIfNew entry.1 entry.2) map

@[simp]
theorem storeAll_nil (map : ExtTreeMap α β cmp) : map.storeAll [] = map :=
  rfl

theorem storeAll_append (map : ExtTreeMap α β cmp)
    (first second : List (α × β)) :
    map.storeAll (first ++ second) = (map.storeAll first).storeAll second :=
  List.foldl_append

variable [LawfulEqCmp cmp]

theorem mem_storeAll {map : ExtTreeMap α β cmp} {entries : List (α × β)}
    {key : α} :
    key ∈ map.storeAll entries ↔ key ∈ map ∨ key ∈ entries.map Prod.fst := by
  induction entries generalizing map with
  | nil => simp
  | cons head tail ih =>
      rw [storeAll, List.foldl_cons]
      change key ∈ (map.insertIfNew head.1 head.2).storeAll tail ↔ _
      rw [ih, mem_insertIfNew, List.map_cons, List.mem_cons,
        LawfulEqCmp.compare_eq_iff_eq]
      tauto

/-- With distinct keys every entry is found again. -/
theorem getElem?_storeAll_of_nodup {entries : List (α × β)} {key : α}
    {value : β} (distinct : (entries.map Prod.fst).Nodup)
    (listed : (key, value) ∈ entries) :
    ((∅ : ExtTreeMap α β cmp).storeAll entries)[key]? = some value := by
  classical
  rw [storeAll, getElem?_foldl_insertIfNew, getElem?_empty, Option.none_or]
  induction entries with
  | nil => simp at listed
  | cons head tail ih =>
      obtain ⟨name, other⟩ := head
      rw [List.map_cons, List.nodup_cons] at distinct
      rcases List.mem_cons.mp listed with same | later
      · cases same
        exact List.lookup_cons_self
      · have apart : (key == name) = false := by
          rw [beq_eq_false_iff_ne]
          rintro rfl
          exact distinct.1 (List.mem_map.mpr ⟨(key, value), later, rfl⟩)
        rw [List.lookup_cons, apart]
        exact ih distinct.2 later

/-- Nothing but the entries is stored. -/
theorem mem_of_getElem?_storeAll {entries : List (α × β)} {key : α} {value : β}
    (found : ((∅ : ExtTreeMap α β cmp).storeAll entries)[key]? = some value) :
    (key, value) ∈ entries := by
  classical
  rw [storeAll, getElem?_foldl_insertIfNew, getElem?_empty, Option.none_or,
    List.lookup_eq_some_iff] at found
  obtain ⟨before, after, split, -⟩ := found
  simp [split]

/-- A map with the keys of a list is as large as the list exactly if no key
stands there twice. -/
theorem size_eq_length_iff_nodup {map : ExtTreeMap α β cmp} {keys : List α}
    (same : ∀ key, key ∈ map ↔ key ∈ keys) :
    map.size = keys.length ↔ keys.Nodup := by
  classical
  have distinct : map.keys.Nodup := map.nodup_keys
  have sets : map.keys.toFinset = keys.toFinset := by
    ext key
    rw [List.mem_toFinset, List.mem_toFinset, mem_keys, same]
  rw [← length_keys, ← List.toFinset_card_of_nodup distinct, sets]
  exact Multiset.toFinset_card_eq_card_iff_nodup

end Std.ExtTreeMap
