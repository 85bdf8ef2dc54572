import Mathlib.Tactic.Common

/-!
# Ordered maps

Facts about `Std.ExtTreeMap` that are missing from the library: the list of a
map's entries determines the map, and can be read like one.
-/

namespace Std.ExtTreeMap

variable {α β : Type} {cmp : α → α → Ordering} [TransCmp cmp]
  [LawfulEqCmp cmp] [BEq α] [LawfulBEq α]

/-- Adding entries one by one keeps the first value of every key. -/
theorem getElem?_foldl_insertIfNew (entries : List (α × β))
    (start : ExtTreeMap α β cmp) (key : α) :
    (entries.foldl (fun map entry => map.insertIfNew entry.1 entry.2)
      start)[key]? = start[key]?.or (entries.lookup key) := by
  induction entries generalizing start with
  | nil => simp
  | cons head tail ih =>
      obtain ⟨name, value⟩ := head
      rw [List.foldl_cons, ih, getElem?_insertIfNew]
      by_cases same : key = name
      · subst same
        by_cases present : key ∈ start
        · simp [present]
        · simp [present]
      · have other : (key == name) = false := by simpa using same
        simp [List.lookup_cons, other, Ne.symm same]

theorem lookup_toList (map : ExtTreeMap α β cmp) (key : α) :
    map.toList.lookup key = map[key]? := by
  apply Option.ext
  intro value
  rw [List.lookup_eq_some_iff, ← mem_toList_iff_getElem?_eq_some]
  constructor
  · rintro ⟨before, after, split, -⟩
    simp [split]
  · intro member
    obtain ⟨before, after, split⟩ := List.append_of_mem member
    refine ⟨before, after, split, fun entry inBefore => ?_⟩
    have distinct := map.distinct_keys_toList
    rw [split, List.pairwise_append] at distinct
    have apart := distinct.2.2 entry inBefore (key, value) (by simp)
    simp only [LawfulEqCmp.compare_eq_iff_eq] at apart
    simpa using Ne.symm apart

/-- Entries with distinct keys make up the map they were listed from. -/
theorem foldl_insertIfNew_toList (map : ExtTreeMap α β cmp) :
    map.toList.foldl (fun rest entry => rest.insertIfNew entry.1 entry.2) ∅ =
      map := by
  classical
  apply ext_getElem?
  intro key
  rw [getElem?_foldl_insertIfNew, lookup_toList]
  simp

theorem foldl_insert_toList (map : ExtTreeMap α β cmp) :
    map.toList.foldl (fun rest entry => rest.insert entry.1 entry.2) ∅ =
      map := by
  classical
  have asMany (entries : List (α × β)) (start : ExtTreeMap α β cmp) :
      entries.foldl (fun rest entry => rest.insert entry.1 entry.2) start =
        start.insertMany entries := by
    induction entries generalizing start with
    | nil => rfl
    | cons head tail ih => rw [List.foldl_cons, ih, insertMany_cons]
  rw [asMany]
  apply ext_getElem?
  intro key
  cases found : map[key]? with
  | none =>
      rw [getElem?_insertMany_list_of_contains_eq_false]
      · rfl
      · rw [List.contains_eq_mem, decide_eq_false_iff_not]
        intro member
        obtain ⟨⟨name, value⟩, inside, rfl⟩ := List.mem_map.mp member
        rw [mem_toList_iff_getElem?_eq_some, found] at inside
        cases inside
  | some value =>
      exact getElem?_insertMany_list_of_mem ReflCmp.compare_self
        map.distinct_keys_toList
        (mem_toList_iff_getElem?_eq_some.mpr found)

omit [BEq α] [LawfulBEq α]

/-- An entry and the entries under the other keys make up the map. -/
theorem toList_perm_of_getElem? {map : ExtTreeMap α β cmp} {key : α} {value : β}
    (found : map[key]? = some value) :
    map.toList.Perm ((key, value) :: (map.erase key).toList) := by
  have nodup (rest : ExtTreeMap α β cmp) : rest.toList.Nodup :=
    rest.distinct_keys_toList.imp fun apart same => apart (by
      rw [same]
      exact ReflCmp.compare_self)
  have absent : (key, value) ∉ (map.erase key).toList := by
    rw [mem_toList_iff_getElem?_eq_some, getElem?_erase_self]
    exact Option.some_ne_none value ∘ Eq.symm
  rw [List.perm_ext_iff_of_nodup (nodup map)
    (List.nodup_cons.mpr ⟨absent, nodup _⟩)]
  rintro ⟨name, other⟩
  rw [List.mem_cons, mem_toList_iff_getElem?_eq_some,
    mem_toList_iff_getElem?_eq_some, getElem?_erase]
  by_cases same : key = name
  · subst same
    simp [found, eq_comm]
  · simp [same, Ne.symm same]

/-- A new entry joins the others. -/
theorem toList_insert_perm {map : ExtTreeMap α β cmp} {key : α} {value : β}
    (absent : map[key]? = none) :
    (map.insert key value).toList.Perm ((key, value) :: map.toList) := by
  have others : (map.insert key value).erase key = map := by
    apply ext_getElem?
    intro other
    rw [getElem?_erase, getElem?_insert]
    split
    · next same =>
        rw [← LawfulEqCmp.eq_of_compare same, absent]
    · rfl
  have found : (map.insert key value)[key]? = some value :=
    getElem?_insert_self
  have perm := toList_perm_of_getElem? found
  rwa [others] at perm

/-- The only entry of a map. -/
theorem toList_insert_empty (key : α) (value : β) :
    ((∅ : ExtTreeMap α β cmp).insert key value).toList = [(key, value)] := by
  have absent : (∅ : ExtTreeMap α β cmp)[key]? = none := getElem?_empty
  have perm : ((∅ : ExtTreeMap α β cmp).insert key value).toList.Perm
      ((key, value) :: (∅ : ExtTreeMap α β cmp).toList) :=
    toList_insert_perm absent
  have noEntries : (∅ : ExtTreeMap α β cmp).toList = [] := rfl
  rwa [noEntries, List.perm_singleton] at perm

omit [LawfulEqCmp cmp] in
theorem exists_of_contains {map : ExtTreeMap α β cmp} {key : α}
    (present : map.contains key = true) :
    ∃ value, map[key]? = some value := by
  rw [contains_eq_isSome_getElem?] at present
  exact Option.isSome_iff_exists.mp present

/-- Storing a value changes nothing exactly when it was there. -/
theorem insert_eq_self_iff {map : ExtTreeMap α β cmp} {key : α} {value : β} :
    map.insert key value = map ↔ map[key]? = some value := by
  classical
  constructor
  · intro same
    rw [← same, getElem?_insert_self]
  · intro present
    apply ext_getElem?
    intro other
    rw [getElem?_insert]
    split
    · next equal =>
        rw [← LawfulEqCmp.eq_of_compare equal, present]
    · rfl

/-- Dropping a key changes nothing exactly when it was not there. -/
theorem erase_eq_self_iff {map : ExtTreeMap α β cmp} {key : α} :
    map.erase key = map ↔ map[key]? = none := by
  classical
  constructor
  · intro same
    rw [← same, getElem?_erase_self]
  · intro absent
    apply ext_getElem?
    intro other
    rw [getElem?_erase]
    split
    · next equal =>
        rw [← LawfulEqCmp.eq_of_compare equal, absent]
    · rfl

/-- A map's image does not see a value replaced by one with the same image. -/
theorem map_insert_of_same {γ : Type} {map : ExtTreeMap α β cmp} {key : α}
    {old new : β} {image : β → γ} (present : map[key]? = some old)
    (same : image new = image old) :
    (map.insert key new).map (fun _ => image) = map.map fun _ => image := by
  classical
  apply ext_getElem?
  intro other
  rw [getElem?_map, getElem?_map, getElem?_insert]
  split
  · next equal =>
      rw [← LawfulEqCmp.eq_of_compare equal, present]
      exact congrArg some same
  · rfl

/-- A key that was not there is inserted. -/
theorem getElem?_insertIfNew_of_absent {map : ExtTreeMap α β cmp} {key : α}
    {value : β} (absent : map.contains key = false) :
    (map.insertIfNew key value)[key]? = some value := by
  have notMem : key ∉ map := by
    intro member
    rw [mem_iff_contains, absent] at member
    cases member
  rw [getElem?_insertIfNew, if_pos ⟨ReflCmp.compare_self, notMem⟩]

/-- A key that is there keeps its value. -/
theorem insertIfNew_of_none {map : ExtTreeMap α β cmp} {key : α} {value : β}
    (absent : map[key]? = none) :
    map.insertIfNew key value = map.insert key value := by
  have notMem : key ∉ map := by
    intro member
    rw [mem_iff_isSome_getElem?, absent] at member
    cases member
  apply ext_getElem?
  intro other
  rw [getElem?_insertIfNew, getElem?_insert]
  by_cases same : cmp key other = .eq
  · simp [same, notMem]
  · simp [same]

theorem insertIfNew_of_contains {map : ExtTreeMap α β cmp} {key : α}
    {value : β} (present : map.contains key = true) :
    map.insertIfNew key value = map := by
  apply ext_getElem?
  intro other
  rw [getElem?_insertIfNew, if_neg]
  rintro ⟨equal, absent⟩
  exact absent (mem_iff_contains.mpr present)

/-- Changing every value after one is inserted. -/
theorem map_insert {γ : Type} (map : ExtTreeMap α β cmp) (key : α) (value : β)
    (change : β → γ) :
    (map.insert key value).map (fun _ value => change value) =
      (map.map fun _ value => change value).insert key (change value) := by
  apply ExtTreeMap.ext_getElem?
  intro other
  simp only [ExtTreeMap.getElem?_map, ExtTreeMap.getElem?_insert]
  split <;> rfl

theorem modify_eq_insert {map : ExtTreeMap α β cmp} {key : α} {value : β}
    {change : β → β} (present : map[key]? = some value) :
    map.modify key change = map.insert key (change value) := by
  classical
  apply ext_getElem?
  intro other
  rw [getElem?_modify, getElem?_insert, present]
  rfl

theorem modify_of_none {map : ExtTreeMap α β cmp} {key : α} {change : β → β}
    (absent : map[key]? = none) : map.modify key change = map := by
  classical
  apply ext_getElem?
  intro other
  rw [getElem?_modify]
  split
  · next equal =>
      rw [← LawfulEqCmp.eq_of_compare equal, absent]
      rfl
  · rfl

omit [LawfulEqCmp cmp] in
/-- Whether any entry has a property is seen in the list of the entries. -/
theorem any_eq_any_toList (map : ExtTreeMap α β cmp) (p : α → β → Bool) :
    map.any p = map.toList.any fun entry => p entry.1 entry.2 := by
  obtain ⟨inner⟩ := map
  refine inner.inductionOn fun tree => ?_
  change tree.inner.any p = (DTreeMap.Internal.Impl.Const.toList tree.inner).any _
  rw [DTreeMap.Internal.Impl.Const.toList_eq_toListModel_map, List.any_map]
  simp only [DTreeMap.Internal.Impl.any, ForIn.forIn, Id.run_bind]
  rw [DTreeMap.Internal.Impl.forIn_eq_forIn_toListModel]
  generalize tree.inner.toListModel = entries
  induction entries with
  | nil => rfl
  | cons entry rest ih =>
      simp only [List.any_cons, Function.comp_apply]
      cases found : p entry.1 entry.2 with
      | false => simp [found, ← ih]
      | true => simp [found]

omit [LawfulEqCmp cmp] in
theorem any_map {γ : Type} (map : ExtTreeMap α β cmp) (f : α → β → γ)
    (p : α → γ → Bool) :
    (map.map f).any p = map.any fun key value => p key (f key value) := by
  rw [any_eq_any_toList, any_eq_any_toList, ExtTreeMap.toList_map, List.any_map]
  rfl

/-- A search through the entries finds the first one that has the property. -/
theorem find?_toList_of_first {map : ExtTreeMap α β cmp} {p : β → Bool} {key : α}
    {value : β} (found : map[key]? = some value) (holds : p value = true)
    (first : ∀ other earlier, map[other]? = some earlier →
      cmp other key = .lt → p earlier = false) :
    map.toList.find? (fun entry => p entry.2) = some (key, value) := by
  rw [List.find?_eq_some_iff_append]
  refine ⟨holds, ?_⟩
  obtain ⟨before, after, split⟩ := List.append_of_mem
    (mem_toList_iff_getElem?_eq_some.mpr found)
  refine ⟨before, after, split, ?_⟩
  intro entry member
  have ordered := map.ordered_keys_toList
  rw [split, List.pairwise_append] at ordered
  have stored : map[entry.1]? = some entry.2 := by
    apply mem_toList_iff_getElem?_eq_some.mp
    rw [split]
    exact List.mem_append_left _ member
  have earlier := ordered.2.2 entry member (key, value) List.mem_cons_self
  simp [first entry.1 entry.2 stored earlier]

omit [LawfulEqCmp cmp] in
/-- The values are those of the entries. -/
theorem values_eq_map_toList (map : ExtTreeMap α β cmp) :
    map.values = map.toList.map Prod.snd := by
  obtain ⟨inner⟩ := map
  refine inner.inductionOn fun tree => ?_
  change tree.inner.values =
    (DTreeMap.Internal.Impl.Const.toList tree.inner).map Prod.snd
  rw [DTreeMap.Internal.Impl.values_eq_map_snd,
    DTreeMap.Internal.Impl.Const.toList_eq_toListModel_map, List.map_map]
  rfl

theorem mem_values {map : ExtTreeMap α β cmp} {value : β} :
    value ∈ map.values ↔ ∃ key : α, map[key]? = some value := by
  rw [values_eq_map_toList, List.mem_map]
  constructor
  · rintro ⟨entry, member, rfl⟩
    exact ⟨entry.1, mem_toList_iff_getElem?_eq_some.mp member⟩
  · rintro ⟨key, found⟩
    exact ⟨(key, value), mem_toList_iff_getElem?_eq_some.mpr found, rfl⟩

/-- An entry that adds nothing to a list can be erased. -/
theorem flatMap_toList_erase {γ : Type} {map : ExtTreeMap α β cmp} {key : α}
    {items : α × β → List γ}
    (nothing : ∀ value, map[key]? = some value → items (key, value) = []) :
    (map.erase key).toList.flatMap items = map.toList.flatMap items := by
  classical
  have erased : map.erase key = map.filter fun other _ => decide (other ≠ key) := by
    apply ext_getElem?
    intro other
    rw [getElem?_erase, getElem?_filter]
    by_cases same : other = key
    · simp [same]
    · have apart : cmp key other ≠ .eq := fun equal =>
        same (LawfulEqCmp.eq_of_compare equal).symm
      rw [if_neg apart]
      simp only [getKey_eq, Option.pfilter_eq_filter, ne_eq, same,
        not_false_eq_true, decide_true]
      cases map[other]? <;> rfl
  have kept (entries : List (α × β))
      (found : ∀ entry ∈ entries, map[entry.1]? = some entry.2) :
      (entries.filter fun entry => decide (entry.1 ≠ key)).flatMap items =
        entries.flatMap items := by
    induction entries with
    | nil => rfl
    | cons entry rest ih =>
        have inRest := ih fun other member =>
          found other (List.mem_cons_of_mem _ member)
        by_cases same : entry.1 = key
        · have empty : items entry = [] := by
            obtain ⟨name, value⟩ := entry
            subst same
            exact nothing value (found _ List.mem_cons_self)
          rw [List.filter_cons_of_neg (by simp [same]), List.flatMap_cons, empty,
            List.nil_append, inRest]
        · rw [List.filter_cons_of_pos (by simp [same]), List.flatMap_cons,
            List.flatMap_cons, inRest]
  rw [erased, toList_filter]
  exact kept _ fun entry member => mem_toList_iff_getElem?_eq_some.mp member

/-- Two maps that differ in one entry, which adds nothing in either of them,
make the same list. -/
theorem flatMap_toList_of_differ {γ : Type} {first second : ExtTreeMap α β cmp}
    {key : α} {items : α × β → List γ}
    (others : ∀ other, other ≠ key → first[other]? = second[other]?)
    (nothingInFirst : ∀ value, first[key]? = some value →
      items (key, value) = [])
    (nothingInSecond : ∀ value, second[key]? = some value →
      items (key, value) = []) :
    first.toList.flatMap items = second.toList.flatMap items := by
  have erased : first.erase key = second.erase key := by
    apply ext_getElem?
    intro other
    rw [getElem?_erase, getElem?_erase]
    split
    · rfl
    · next apart =>
        apply others
        rintro rfl
        exact apart ReflCmp.compare_self
  rw [← flatMap_toList_erase nothingInFirst, erased,
    flatMap_toList_erase nothingInSecond]

end Std.ExtTreeMap
