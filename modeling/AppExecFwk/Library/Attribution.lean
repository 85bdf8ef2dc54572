import AppExecFwk.Library.EntryList

/-!
# Reading the parts of a merged map

The entries of several parts are merged into one map, where the first entry of
every key stays.  A part is read from the map by a mark on the keys.  If each
key carries the mark of its own part, this gives back every part exactly if no
part has a key twice and no key carries the mark of another part.
-/

namespace Attribution

variable {ι ν α β γ : Type} {cmp : α → α → Ordering} [Std.TransCmp cmp]
  [Std.LawfulEqCmp cmp] [BEq α] [LawfulBEq α]

/-- The map is merged from the entries of the parts.  Every key is marked by the
name of its part, and the part can be told from what is seen of a value. -/
structure IsMerged (parts : List ι) (name : ι → ν)
    (entries : ι → List (α × γ)) (marks : ν → α → Bool) (tag : γ → ν)
    (whole : Std.ExtTreeMap α β cmp) (view : β → γ) : Prop where
  distinct : (parts.map name).Nodup
  whole : ∀ key, whole[key]?.map view =
    parts.findSome? fun part => (entries part).lookup key
  marked : ∀ part ∈ parts, ∀ entry ∈ entries part,
    marks (name part) entry.1 = true
  tagged : ∀ part ∈ parts, ∀ entry ∈ entries part, tag entry.2 = name part

/-- What is seen under the marked keys. -/
def seen (whole : Std.ExtTreeMap α β cmp) (view : β → γ)
    (marks : α → Bool) : List (α × γ) :=
  (whole.toList.filter fun entry => marks entry.1).map fun entry =>
    (entry.1, view entry.2)

omit [BEq α] [LawfulBEq α] in
theorem mem_seen {whole : Std.ExtTreeMap α β cmp} {view : β → γ}
    {marks : α → Bool} {key : α} {value : γ} :
    (key, value) ∈ seen whole view marks ↔
      whole[key]?.map view = some value ∧ marks key = true := by
  simp only [seen, List.mem_map, List.mem_filter, Option.map_eq_some_iff]
  constructor
  · rintro ⟨⟨_, stored⟩, ⟨listed, marked⟩, same⟩
    cases same
    exact ⟨⟨stored, Std.ExtTreeMap.mem_toList_iff_getElem?_eq_some.mp listed,
      rfl⟩, marked⟩
  · rintro ⟨⟨stored, found, rfl⟩, marked⟩
    exact ⟨(key, stored),
      ⟨Std.ExtTreeMap.mem_toList_iff_getElem?_eq_some.mpr found, marked⟩, rfl⟩

omit [Std.LawfulEqCmp cmp] [BEq α] [LawfulBEq α] in
/-- No key is seen twice. -/
theorem nodup_keys_seen {whole : Std.ExtTreeMap α β cmp} {view : β → γ}
    {marks : α → Bool} : ((seen whole view marks).map Prod.fst).Nodup := by
  have distinct : (whole.toList.map Prod.fst).Nodup := by
    rw [Std.ExtTreeMap.map_fst_toList_eq_keys]
    exact whole.nodup_keys
  have sublist : ((whole.toList.filter fun entry =>
      marks entry.1).map Prod.fst).Sublist (whole.toList.map Prod.fst) :=
    List.filter_sublist.map Prod.fst
  rw [seen, List.map_map]
  exact distinct.sublist sublist

namespace IsMerged

variable {parts : List ι} {name : ι → ν} {entries : ι → List (α × γ)}
  {marks : ν → α → Bool} {tag : γ → ν} {whole : Std.ExtTreeMap α β cmp}
  {view : β → γ} (merged : IsMerged parts name entries marks tag whole view)

include merged

/-- An entry that is seen is one of the part that its value tells. -/
theorem mem_of_seen {marked : α → Bool} {key : α} {value : γ}
    (inside : (key, value) ∈ seen whole view marked) :
    ∃ part ∈ parts, (key, value) ∈ entries part := by
  have found := (mem_seen.mp inside).1
  rw [merged.whole] at found
  obtain ⟨part, member, stored⟩ := List.exists_of_findSome?_eq_some found
  obtain ⟨before, after, split, -⟩ := List.lookup_eq_some_iff.mp stored
  exact ⟨part, member, by simp [split]⟩

omit [Std.LawfulEqCmp cmp] in
/-- Under every key of a part something is found, of whatever part. -/
theorem exists_seen {part : ι} (member : part ∈ parts) {entry : α × γ}
    (listed : entry ∈ entries part) :
    ∃ value, whole[entry.1]?.map view = some value := by
  rw [merged.whole, ← Option.isSome_iff_exists, List.findSome?_isSome_iff]
  refine ⟨part, member, ?_⟩
  rw [List.lookup_isSome_iff]
  exact ⟨entry, listed, by simp⟩

omit [Std.LawfulEqCmp cmp] [LawfulBEq α] in
theorem eq_of_name {part other : ι} (member : part ∈ parts)
    (member' : other ∈ parts) (same : name other = name part) : other = part :=
  List.inj_on_of_nodup_map merged.distinct member' member same

/-- With no key twice and no mark of another part the entries are seen. -/
theorem seen_perm {part : ι} (member : part ∈ parts)
    (distinct : ((entries part).map Prod.fst).Nodup)
    (apart : ∀ other ∈ parts, name other ≠ name part →
      ∀ entry ∈ entries other, marks (name part) entry.1 = false) :
    (seen whole view (marks (name part))).Perm (entries part) := by
  -- An entry with the mark of the part is one of the part.
  have own {other : ι} (inside : other ∈ parts) {entry : α × γ}
      (listed : entry ∈ entries other)
      (marked : marks (name part) entry.1 = true) : entry ∈ entries part := by
    by_cases same : name other = name part
    · rwa [merged.eq_of_name member inside same] at listed
    · rw [apart other inside same entry listed] at marked
      cases marked
  rw [List.perm_ext_iff_of_nodup nodup_keys_seen.of_map distinct.of_map]
  rintro ⟨key, value⟩
  constructor
  · intro inside
    obtain ⟨other, inside', listed⟩ := merged.mem_of_seen inside
    exact own inside' listed (mem_seen.mp inside).2
  · intro listed
    have marked := merged.marked part member _ listed
    obtain ⟨found, present⟩ := merged.exists_seen member listed
    have inside : (key, found) ∈ seen whole view (marks (name part)) :=
      mem_seen.mpr ⟨present, marked⟩
    obtain ⟨other, inside', listed'⟩ := merged.mem_of_seen inside
    have same := List.inj_on_of_nodup_map distinct
      (own inside' listed' marked) listed rfl
    rwa [same] at inside

variable (faithful : ∀ part ∈ parts,
  ((seen whole view (marks (name part))).map Prod.snd).Perm
    ((entries part).map Prod.snd))

include faithful

/-- If the values are seen as they were, what is seen of a part is its own. -/
theorem mem_own_of_exact {part : ι} (member : part ∈ parts) {key : α}
    {value : γ} (inside : (key, value) ∈ seen whole view (marks (name part))) :
    tag value = name part ∧ (key, value) ∈ entries part := by
  have shown : value ∈ (entries part).map Prod.snd :=
    (faithful part member).mem_iff.mp (List.mem_map_of_mem inside)
  obtain ⟨entry, listed, rfl⟩ := List.mem_map.mp shown
  have tagged := merged.tagged part member entry listed
  obtain ⟨other, inside', listed'⟩ := merged.mem_of_seen inside
  have tagged' := merged.tagged other inside' _ listed'
  rw [merged.eq_of_name member inside' (tagged'.symm.trans tagged)] at listed'
  exact ⟨tagged, listed'⟩

theorem nodup_of_exact {part : ι} (member : part ∈ parts) :
    ((entries part).map Prod.fst).Nodup := by
  have subset : (seen whole view (marks (name part))).map Prod.fst ⊆
      (entries part).map Prod.fst := by
    intro key inside
    obtain ⟨entry, listed, rfl⟩ := List.mem_map.mp inside
    exact List.mem_map_of_mem (merged.mem_own_of_exact faithful member listed).2
  have counted : ((entries part).map Prod.fst).length ≤
      ((seen whole view (marks (name part))).map Prod.fst).length := by
    simpa using (faithful part member).length_eq.ge
  have perm := (nodup_keys_seen.subperm subset).perm_of_length_le counted
  exact perm.nodup_iff.mp nodup_keys_seen

theorem apart_of_exact {part other : ι} (member : part ∈ parts)
    (member' : other ∈ parts) (different : name other ≠ name part)
    {entry : α × γ} (listed : entry ∈ entries other) :
    marks (name part) entry.1 = false := by
  rw [Bool.eq_false_iff]
  intro marked
  -- Whatever is found there would be of both parts.
  obtain ⟨value, found⟩ := merged.exists_seen member' listed
  have own := merged.mem_own_of_exact faithful member
    (mem_seen.mpr ⟨found, marked⟩)
  have others := merged.mem_own_of_exact faithful member'
    (mem_seen.mpr ⟨found, merged.marked other member' entry listed⟩)
  exact different (others.1.symm.trans own.1)

omit faithful in
/-- Every part is read back exactly if no part has a key twice and no key is
marked by another part. -/
theorem exact_iff :
    (∀ part ∈ parts, ((seen whole view (marks (name part))).map Prod.snd).Perm
        ((entries part).map Prod.snd)) ↔
      ∀ part ∈ parts, ((entries part).map Prod.fst).Nodup ∧
        ∀ other ∈ parts, name other ≠ name part →
          ∀ entry ∈ entries other, marks (name part) entry.1 = false := by
  constructor
  · intro faithful part member
    exact ⟨merged.nodup_of_exact faithful member, fun other inside different _ =>
      merged.apart_of_exact faithful member inside different⟩
  · intro distinct part member
    obtain ⟨nodup, apart⟩ := distinct part member
    exact (merged.seen_perm member nodup apart).map Prod.snd

end IsMerged

end Attribution
