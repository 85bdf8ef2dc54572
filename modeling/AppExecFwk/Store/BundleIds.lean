import AppExecFwk.Store.BundleDataMgr

/-!
# Bundle ids

Every bundle has an id, which the uids of its users are made of.  The ids in use
are a map from ids to names: a new bundle gets the first free id, a bundle that
goes gives its id back, and at the start of the service the ids are read from the
stored records.  What is read is not checked, so the map is in order as long as
the records are.
-/

namespace AppExecFwk

/-- The id that the first user of a record has, with the name of the bundle. -/
def InnerBundleInfo.ownId (info : InnerBundleInfo) : Option (Int32 × String) :=
  info.innerBundleUserInfos.begin?.map fun userInfo =>
    (userInfo.uid - userInfo.bundleUserInfo.userId * baseUserRange,
      userInfo.bundleName)

namespace BundleDataMgr

/-- The ids in use and the users, with those of one record. -/
def restoreRecord (mgr : BundleDataMgr) (info : InnerBundleInfo) :
    BundleDataMgr :=
  let mgr := info.innerBundleUserInfos.values.foldl
    (fun mgr userInfo => mgr.addUserId userInfo.bundleUserInfo.userId) mgr
  match info.ownId with
  | none => mgr
  | some (bundleId, bundleName) =>
      { mgr with bundleIdMap := mgr.bundleIdMap.insert bundleId bundleName }

def restoreUidAndGid (mgr : BundleDataMgr) : BundleDataMgr :=
  mgr.bundleInfos.values.foldl restoreRecord mgr

/-- The ids that records bring back, in the order of the records. -/
def restoredIds (bundleInfos : StringMap InnerBundleInfo) :
    List (Int32 × String) :=
  bundleInfos.values.filterMap (·.ownId)

theorem restoreRecord_bundleIdMap (mgr : BundleDataMgr)
    (info : InnerBundleInfo) :
    (mgr.restoreRecord info).bundleIdMap =
      info.ownId.toList.foldl (fun ids entry => ids.insert entry.1 entry.2)
        mgr.bundleIdMap := by
  have users (userInfos : List InnerBundleUserInfo) (start : BundleDataMgr) :
      (userInfos.foldl (fun mgr userInfo =>
        mgr.addUserId userInfo.bundleUserInfo.userId) start).bundleIdMap =
        start.bundleIdMap := by
    induction userInfos generalizing start with
    | nil => rfl
    | cons userInfo rest ih => exact ih _
  unfold restoreRecord
  cases info.ownId with
  | none => exact users _ mgr
  | some entry =>
      change Std.ExtTreeMap.insert _ _ _ = _
      rw [users]
      rfl

theorem restoreUidAndGid_bundleIdMap (mgr : BundleDataMgr) :
    mgr.restoreUidAndGid.bundleIdMap =
      (restoredIds mgr.bundleInfos).foldl
        (fun ids entry => ids.insert entry.1 entry.2) mgr.bundleIdMap := by
  unfold restoreUidAndGid restoredIds
  generalize mgr.bundleInfos.values = infos
  induction infos generalizing mgr with
  | nil => rfl
  | cons info rest ih =>
      rw [List.foldl_cons, ih, restoreRecord_bundleIdMap, List.filterMap_cons]
      cases info.ownId <;> rfl

end BundleDataMgr

/-- The ids in use, and whose they are. -/
abbrev BundleIdMap := Std.ExtTreeMap Int32 String

namespace BundleIdMap

open BundleDataMgr

variable {ids : BundleIdMap} {bundleName : String}

/-- No two ids stand for one bundle. -/
def IsInjective (ids : BundleIdMap) : Prop :=
  ∀ (id other : Int32) (bundleName : String),
    ids[id]? = some bundleName → ids[other]? = some bundleName → id = other

/-- The least id that is not in use. -/
structure IsLeastFree (ids : BundleIdMap) (id : Int32) : Prop where
  base_le : baseAppUid ≤ id
  free : ids.contains id = false
  least : ∀ other, baseAppUid ≤ other → other < id → ids.contains other = true

/-- What is asked of an id for a bundle: the one the bundle has, or else the
least free one; there is none only if all are in use. -/
structure GeneratesRight (ids : BundleIdMap) (bundleName : String) : Prop where
  again : ∀ id, ids[id]? = some bundleName →
    generateBundleId ids bundleName = some (id, ids)
  fresh : (∀ id : Int32, ids[id]? ≠ some bundleName) →
    ∀ id after, generateBundleId ids bundleName = some (id, after) →
      ids.IsLeastFree id ∧ after = ids.insert id bundleName
  fails : generateBundleId ids bundleName = none →
    ∀ id, baseAppUid ≤ id → id ≤ maxAppUid → ids.contains id = true

/-- What the search for an id relies on: some id in use is not below the first
one but one, and some id is free. -/
def CanGenerate (ids : BundleIdMap) (bundleName : String) : Prop :=
  (∃ id : Int32, ids[id]? = some bundleName) ∨ ids.keys = [] ∨
    (∃ id, ids.contains id = true ∧ baseAppUid - 1 ≤ id) ∧
      ∃ id, baseAppUid ≤ id ∧ ids.contains id = false

section Largest

theorem toInt_baseAppUid : baseAppUid.toInt = 10000 := by
  decide

theorem contains_of_getLast? {largest : Int32}
    (last : ids.keys.getLast? = some largest) : ids.contains largest = true := by
  rw [Std.ExtTreeMap.contains_iff_mem, ← Std.ExtTreeMap.mem_keys]
  exact List.mem_of_getLast? last

theorem le_of_getLast? {largest id : Int32}
    (last : ids.keys.getLast? = some largest) (used : ids.contains id = true) :
    id ≤ largest := by
  rw [Std.ExtTreeMap.contains_iff_mem, ← Std.ExtTreeMap.mem_keys] at used
  obtain ⟨before, keys⟩ := List.getLast?_eq_some_iff.mp last
  have ordered := ids.ordered_keys
  rw [keys] at used ordered
  rcases List.mem_append.mp used with earlier | same
  · have less := (List.pairwise_append.mp ordered).2.2 id earlier largest
      (List.mem_singleton_self largest)
    exact Int32.le_of_lt (Std.compare_eq_lt.mp less)
  · rw [List.mem_singleton.mp same]
    exact Int32.le_refl _

theorem toInt_succ {id bound : Int32} (below : id < bound) :
    (id + 1).toInt = id.toInt + 1 := by
  have less := Int32.lt_iff_toInt_lt.mp below
  have low := id.le_toInt
  have high := bound.toInt_lt
  rw [Int32.toInt_add, Int32.toInt_one, Int.bmod_eq_of_le] <;> omega

/-- The search finds the first free id from where it starts, or all ids up to
the last one it looks at are in use. -/
theorem firstFreeBundleId_spec (ids : BundleIdMap) (fuel : Nat)
    (candidate last : Int32)
    (reaches : candidate.toInt + fuel = last.toInt) :
    match firstFreeBundleId ids fuel candidate with
    | some id => candidate ≤ id ∧ id < last ∧ ids.contains id = false ∧
        ∀ other, candidate ≤ other → other < id → ids.contains other = true
    | none => ∀ other, candidate ≤ other → other < last →
        ids.contains other = true := by
  induction fuel generalizing candidate with
  | zero =>
      intro other low high
      rw [Int32.le_iff_toInt_le] at low
      rw [Int32.lt_iff_toInt_lt] at high
      omega
  | succ fuel ih =>
      have below : candidate < last := by
        rw [Int32.lt_iff_toInt_lt]
        omega
      have next := toInt_succ below
      unfold firstFreeBundleId
      by_cases used : ids.contains candidate = true
      · have rest := ih (candidate + 1) (by omega)
        -- An id from the candidate on is the candidate or comes after it.
        have split {other : Int32} (low : candidate ≤ other) :
            other = candidate ∨ candidate + 1 ≤ other := by
          rw [Int32.le_iff_toInt_le] at low ⊢
          rw [← Int32.toInt_inj]
          omega
        rw [if_pos used]
        cases found : firstFreeBundleId ids fuel (candidate + 1) with
        | none =>
            rw [found] at rest
            intro other low high
            rcases split low with rfl | later
            · exact used
            · exact rest other later high
        | some id =>
            rw [found] at rest
            obtain ⟨low, high, free, least⟩ := rest
            refine ⟨?_, high, free, ?_⟩
            · rw [Int32.le_iff_toInt_le] at low ⊢
              omega
            · intro other from' before
              rcases split from' with rfl | later
              · exact used
              · exact least other later before
      · rw [if_neg used]
        refine ⟨Int32.le_refl _, below, Bool.eq_false_iff.mpr used, ?_⟩
        intro other low before
        exact absurd low (Int32.not_le.mpr before)

end Largest

section Generating

theorem find?_of_new (isNew : ∀ id : Int32, ids[id]? ≠ some bundleName) :
    ids.toList.find? (·.2 = bundleName) = none := by
  rw [List.find?_eq_none]
  intro entry member same
  apply isNew entry.1
  rw [Std.ExtTreeMap.mem_toList_iff_getElem?_eq_some] at member
  simpa using member ▸ congrArg some (of_decide_eq_true same)

/-- A name that has an id is given one of its ids again. -/
theorem exists_generateBundleId_known {id : Int32}
    (known : ids[id]? = some bundleName) :
    ∃ place : Int32, ids[place]? = some bundleName ∧
      generateBundleId ids bundleName = some (place, ids) := by
  have used : ids.contains id = true := by
    rw [Std.ExtTreeMap.contains_eq_isSome_getElem?, known]
    rfl
  have nonempty : ids.keys ≠ [] := by
    rw [Std.ExtTreeMap.contains_iff_mem, ← Std.ExtTreeMap.mem_keys] at used
    exact List.ne_nil_of_mem used
  have last := List.getLast?_eq_some_getLast nonempty
  have member := Std.ExtTreeMap.mem_toList_iff_getElem?_eq_some.mpr known
  obtain ⟨entry, found⟩ := Option.isSome_iff_exists.mp
    (List.find?_isSome.mpr ⟨(id, bundleName), member, decide_eq_true rfl⟩ :
      (ids.toList.find? (·.2 = bundleName)).isSome = true)
  obtain ⟨place, name⟩ := entry
  have named : name = bundleName := by simpa using List.find?_some found
  have stored := Std.ExtTreeMap.mem_toList_iff_getElem?_eq_some.mp
    (List.mem_of_find?_eq_some found)
  subst named
  refine ⟨place, stored, ?_⟩
  unfold generateBundleId
  rw [last, found]

/-- A bundle keeps the id it has. -/
theorem generateBundleId_known (injective : ids.IsInjective) {id : Int32}
    (known : ids[id]? = some bundleName) :
    generateBundleId ids bundleName = some (id, ids) := by
  obtain ⟨place, stored, generated⟩ := exists_generateBundleId_known known
  rw [generated, injective place id bundleName stored known]

theorem generateBundleId_first (empty : ids.keys = []) :
    generateBundleId ids bundleName =
      some (baseAppUid, ids.insert baseAppUid bundleName) := by
  unfold generateBundleId
  rw [empty]
  rfl

/-- A new bundle gets an id that is free below the largest one in use, or the one
after it. -/
theorem generateBundleId_new (isNew : ∀ id : Int32, ids[id]? ≠ some bundleName)
    {largest : Int32} (last : ids.keys.getLast? = some largest) :
    generateBundleId ids bundleName =
      match firstFreeBundleId ids (largest.toInt - baseAppUid.toInt).toNat
          baseAppUid with
      | some id => some (id, ids.insert id bundleName)
      | none =>
          if largest = maxAppUid then none
          else some (largest + 1, ids.insert (largest + 1) bundleName) := by
  have unknown := find?_of_new isNew
  unfold generateBundleId
  rw [last]
  dsimp only
  generalize ids.toList.find? _ = found at unknown ⊢
  subst unknown
  exact (rfl :)

/-- What is generated for a new name is added to the ids. -/
theorem generateBundleId_adds (isNew : ∀ id : Int32, ids[id]? ≠ some bundleName)
    {bundleId : Int32} {ids' : BundleIdMap}
    (generated : generateBundleId ids bundleName = some (bundleId, ids')) :
    ids' = ids.insert bundleId bundleName := by
  cases last : ids.keys.getLast? with
  | none =>
      rw [generateBundleId_first (List.getLast?_eq_none_iff.mp last)]
        at generated
      cases generated
      rfl
  | some largest =>
      rw [generateBundleId_new isNew last] at generated
      split at generated
      · cases generated
        rfl
      · split at generated
        · cases generated
        · cases generated
          rfl

/-- The ids stay as they are exactly if the name has one. -/
theorem generateBundleId_keeps_iff {bundleId : Int32} {ids' : BundleIdMap}
    (generated : generateBundleId ids bundleName = some (bundleId, ids')) :
    ids' = ids ↔ ∃ id : Int32, ids[id]? = some bundleName := by
  constructor
  · rintro rfl
    by_contra isNew
    rw [not_exists] at isNew
    have added := generateBundleId_adds isNew generated
    apply isNew bundleId
    rw [added]
    exact Std.ExtTreeMap.getElem?_insert_self
  · rintro ⟨id, known⟩
    obtain ⟨place, _, again⟩ := exists_generateBundleId_known known
    rw [again] at generated
    cases generated
    rfl

/-- The search below the largest id: it finds the least free one, or all from
the first one on are in use. -/
theorem search_spec {largest : Int32}
    (last : ids.keys.getLast? = some largest) :
    match firstFreeBundleId ids (largest.toInt - baseAppUid.toInt).toNat
        baseAppUid with
    | some id => ids.IsLeastFree id ∧ baseAppUid ≤ largest
    | none => ∀ other, baseAppUid ≤ other → other ≤ largest →
        ids.contains other = true := by
  have used := contains_of_getLast? last
  rcases Int32.lt_or_le largest baseAppUid with below | above
  · have less := Int32.lt_iff_toInt_lt.mp below
    rw [Int.toNat_of_nonpos (by omega)]
    intro other low high
    exact absurd (Int32.le_trans low high) (Int32.not_le.mpr below)
  · have least := Int32.le_iff_toInt_le.mp above
    have spec := firstFreeBundleId_spec ids (largest.toInt - baseAppUid.toInt).toNat
      baseAppUid largest (by omega)
    cases found : firstFreeBundleId ids
        (largest.toInt - baseAppUid.toInt).toNat baseAppUid with
    | some id =>
        rw [found] at spec
        exact ⟨⟨spec.1, spec.2.2.1, spec.2.2.2⟩, above⟩
    | none =>
        rw [found] at spec
        intro other low high
        by_cases same : other = largest
        · rw [same]
          exact used
        · exact spec other low (Int32.lt_of_le_of_ne high same)

theorem generatesRight_of_known (injective : ids.IsInjective) {id : Int32}
    (known : ids[id]? = some bundleName) : ids.GeneratesRight bundleName where
  again _ otherKnown := generateBundleId_known injective otherKnown
  fresh isNew := absurd known (isNew id)
  fails failed := by
    rw [generateBundleId_known injective known] at failed
    cases failed

theorem generatesRight_of_empty (empty : ids.keys = []) :
    ids.GeneratesRight bundleName := by
  have unused (id : Int32) : ids.contains id = false := by
    rw [Bool.eq_false_iff, ne_eq, Std.ExtTreeMap.contains_iff_mem,
      ← Std.ExtTreeMap.mem_keys, empty]
    exact List.not_mem_nil
  have generated := @generateBundleId_first ids bundleName empty
  constructor
  case again =>
    intro id found
    have used := unused id
    rw [Std.ExtTreeMap.contains_eq_isSome_getElem?, found] at used
    cases used
  case fresh =>
    intro _ id after same
    rw [generated] at same
    cases same
    refine ⟨⟨Int32.le_refl _, unused _, ?_⟩, rfl⟩
    intro other low before
    exact absurd low (Int32.not_le.mpr before)
  case fails =>
    intro failed
    rw [generated] at failed
    cases failed

/-- A new bundle next to others gets the right id exactly if the largest id is
not below the first one but one, and some id is free. -/
theorem generatesRight_new_iff (isNew : ∀ id : Int32, ids[id]? ≠ some bundleName)
    {largest : Int32} (last : ids.keys.getLast? = some largest) :
    ids.GeneratesRight bundleName ↔ baseAppUid - 1 ≤ largest ∧
      ∃ id, baseAppUid ≤ id ∧ ids.contains id = false := by
  have generated := generateBundleId_new isNew last
  have search := search_spec last
  have beyond {id : Int32} (later : largest < id) : ids.contains id = false := by
    rw [Bool.eq_false_iff]
    exact fun used => Int32.not_le.mpr later (le_of_getLast? last used)
  cases found : firstFreeBundleId ids
      (largest.toInt - baseAppUid.toInt).toNat baseAppUid with
  | some id =>
      rw [found] at generated search
      simp only at generated search
      refine iff_of_true ⟨?_, ?_, ?_⟩
        ⟨Int32.le_trans (by decide) search.2, id, search.1.base_le, search.1.free⟩
      · exact fun other otherFound => absurd otherFound (isNew other)
      · intro _ other after same
        rw [generated] at same
        cases same
        exact ⟨search.1, rfl⟩
      · intro failed
        rw [generated] at failed
        cases failed
  | none =>
      rw [found] at generated search
      simp only at generated search
      by_cases full : largest = maxAppUid
      · rw [if_pos full] at generated
        subst full
        refine iff_of_true ⟨?_, ?_, fun _ => search⟩
          ⟨by decide, maxAppUid + 1, by decide, beyond (by decide)⟩
        · exact fun other otherFound => absurd otherFound (isNew other)
        · intro _ other after same
          rw [generated] at same
          cases same
      · rw [if_neg full] at generated
        constructor
        · intro right
          have least := (right.fresh isNew _ _ generated).1
          refine ⟨?_, largest + 1, least.base_le, least.free⟩
          rcases Int32.lt_or_le largest Int32.maxValue with below | atEnd
          · have low := Int32.le_iff_toInt_le.mp least.base_le
            rw [toInt_succ below, toInt_baseAppUid] at low
            rw [Int32.le_iff_toInt_le]
            have beforeBase : (baseAppUid - 1).toInt = 9999 := by decide
            omega
          · exact Int32.le_trans (by decide) atEnd
        · rintro ⟨low, free, fromBase, isFree⟩
          have later : largest < free := by
            rw [← Int32.not_le]
            intro within
            rw [search free fromBase within] at isFree
            cases isFree
          have next := toInt_succ later
          have beforeBase : (baseAppUid - 1).toInt = 9999 := by decide
          rw [Int32.le_iff_toInt_le] at low
          refine ⟨?_, ?_, ?_⟩
          · exact fun other otherFound => absurd otherFound (isNew other)
          · intro _ other after same
            rw [generated] at same
            cases same
            refine ⟨⟨?_, beyond ?_, ?_⟩, rfl⟩
            · rw [Int32.le_iff_toInt_le, toInt_baseAppUid]
              omega
            · rw [Int32.lt_iff_toInt_lt]
              omega
            · intro other otherLow before
              apply search other otherLow
              rw [Int32.lt_iff_toInt_lt] at before
              rw [Int32.le_iff_toInt_le]
              omega
          · intro failed
            rw [generated] at failed
            cases failed

/-- An id for a bundle is right exactly if the search can rely on the ids in
use. -/
theorem generatesRight_iff (injective : ids.IsInjective) :
    ids.GeneratesRight bundleName ↔ ids.CanGenerate bundleName := by
  by_cases known : ∃ id : Int32, ids[id]? = some bundleName
  · obtain ⟨id, known⟩ := known
    exact iff_of_true (generatesRight_of_known injective known) (.inl ⟨id, known⟩)
  · rcases last : ids.keys.getLast? with _ | largest
    · rw [List.getLast?_eq_none_iff] at last
      exact iff_of_true (generatesRight_of_empty last) (.inr (.inl last))
    · have nonempty : ids.keys ≠ [] := by
        rintro empty
        rw [empty] at last
        cases last
      have atLargest : (∃ id, ids.contains id = true ∧ baseAppUid - 1 ≤ id) ↔
          baseAppUid - 1 ≤ largest := by
        constructor
        · rintro ⟨id, used, low⟩
          exact Int32.le_trans low (le_of_getLast? last used)
        · intro low
          exact ⟨largest, contains_of_getLast? last, low⟩
      rw [generatesRight_new_iff (not_exists.mp known) last, CanGenerate, atLargest]
      simp only [known, nonempty, false_or]

theorem isInjective_insert (injective : ids.IsInjective)
    (isNew : ∀ id : Int32, ids[id]? ≠ some bundleName) (id : Int32) :
    IsInjective (ids.insert id bundleName) := by
  intro first second name firstFound secondFound
  rw [Std.ExtTreeMap.getElem?_insert] at firstFound secondFound
  split at firstFound <;> split at secondFound
  case isTrue.isTrue isFirst isSecond =>
    rw [Std.compare_eq_iff_eq] at isFirst isSecond
    exact isFirst.symm.trans isSecond
  case isTrue.isFalse =>
    cases firstFound
    exact absurd secondFound (isNew second)
  case isFalse.isTrue =>
    cases secondFound
    exact absurd firstFound (isNew first)
  case isFalse.isFalse => exact injective first second name firstFound secondFound

/-- Whatever id a bundle gets, no bundle gets a second one. -/
theorem isInjective_generateBundleId (injective : ids.IsInjective) {id : Int32}
    {after : BundleIdMap}
    (generated : generateBundleId ids bundleName = some (id, after)) :
    after.IsInjective := by
  by_cases known : ∃ id : Int32, ids[id]? = some bundleName
  · obtain ⟨own, known⟩ := known
    rw [generateBundleId_known injective known] at generated
    cases generated
    exact injective
  · have isNew := not_exists.mp known
    rcases last : ids.keys.getLast? with _ | largest
    · rw [generateBundleId_first (List.getLast?_eq_none_iff.mp last)] at generated
      cases generated
      exact isInjective_insert injective isNew baseAppUid
    · rw [generateBundleId_new isNew last] at generated
      split at generated
      case h_1 =>
        cases generated
        exact isInjective_insert injective isNew _
      case h_2 =>
        split at generated
        · cases generated
        · cases generated
          exact isInjective_insert injective isNew _

theorem isInjective_erase (injective : ids.IsInjective) (id : Int32) :
    IsInjective (ids.erase id) := by
  intro first second name firstFound secondFound
  rw [Std.ExtTreeMap.getElem?_erase] at firstFound secondFound
  split at firstFound
  · cases firstFound
  · split at secondFound
    · cases secondFound
    · exact injective first second name firstFound secondFound

end Generating

section Restoring

variable {entries : List (Int32 × String)}

/-- A record brings an id back for a bundle, and no later record for another. -/
def BroughtBack (entries : List (Int32 × String)) (id : Int32)
    (bundleName : String) : Prop :=
  ∃ before after, entries = before ++ (id, bundleName) :: after ∧
    ∀ entry ∈ after, entry.1 ≠ id

/-- The records bring no bundle back under two ids, nor under one when another
that is in use for it stays. -/
structure RestoresApart (ids : BundleIdMap) (entries : List (Int32 × String)) :
    Prop where
  records : ∀ id other bundleName, BroughtBack entries id bundleName →
    BroughtBack entries other bundleName → id = other
  inUse : ∀ id other bundleName, BroughtBack entries id bundleName →
    ids[other]? = some bundleName → id ≠ other → ∃ entry ∈ entries, entry.1 = other

theorem broughtBack_nil (id : Int32) (bundleName : String) :
    ¬ BroughtBack [] id bundleName := by
  rintro ⟨before, after, split, -⟩
  cases before <;> cases split

theorem broughtBack_cons (head : Int32 × String) (id : Int32)
    (bundleName : String) :
    BroughtBack (head :: entries) id bundleName ↔
      BroughtBack entries id bundleName ∨
        head = (id, bundleName) ∧ ∀ entry ∈ entries, entry.1 ≠ id := by
  constructor
  · rintro ⟨before, after, split, later⟩
    cases before with
    | nil =>
        cases split
        exact .inr ⟨rfl, later⟩
    | cons first before =>
        cases split
        exact .inl ⟨before, after, rfl, later⟩
  · rintro (⟨before, after, rfl, later⟩ | ⟨rfl, later⟩)
    · exact ⟨head :: before, after, rfl, later⟩
    · exact ⟨[], entries, rfl, later⟩

/-- After the records are read, an id stands for the bundle of the last record
that brings it back, or else for the one it stood for. -/
theorem getElem?_restored_iff (ids : BundleIdMap)
    (entries : List (Int32 × String)) (id : Int32) (bundleName : String) :
    (entries.foldl (fun ids entry => ids.insert entry.1 entry.2) ids)[id]? =
        some bundleName ↔
      BroughtBack entries id bundleName ∨
        ids[id]? = some bundleName ∧ ∀ entry ∈ entries, entry.1 ≠ id := by
  induction entries generalizing ids with
  | nil => simp [broughtBack_nil]
  | cons head rest ih =>
      rw [List.foldl_cons, ih, broughtBack_cons, Std.ExtTreeMap.getElem?_insert]
      rcases head with ⟨place, name⟩
      by_cases same : place = id
      · subst same
        simp
      · simp [same]

/-- After the records are read, no two ids stand for one bundle exactly if the
records keep them apart. -/
theorem isInjective_restored_iff (injective : ids.IsInjective) :
    IsInjective
        (entries.foldl (fun ids entry => ids.insert entry.1 entry.2) ids) ↔
      ids.RestoresApart entries := by
  constructor
  · intro after
    constructor
    case records =>
      intro id other name first second
      apply after id other name
      · exact (getElem?_restored_iff ..).mpr (.inl first)
      · exact (getElem?_restored_iff ..).mpr (.inl second)
    case inUse =>
      intro id other name first known different
      by_contra untouched
      push Not at untouched
      apply different
      apply after id other name
      · exact (getElem?_restored_iff ..).mpr (.inl first)
      · exact (getElem?_restored_iff ..).mpr (.inr ⟨known, untouched⟩)
  · intro apart id other name first second
    rw [getElem?_restored_iff] at first second
    rcases first with first | ⟨first, firstStays⟩ <;>
      rcases second with second | ⟨second, secondStays⟩
    · exact apart.records id other name first second
    · by_contra different
      obtain ⟨entry, member, same⟩ :=
        apart.inUse id other name first second different
      exact secondStays entry member same
    · by_contra different
      obtain ⟨entry, member, same⟩ :=
        apart.inUse other id name second first (Ne.symm different)
      exact firstStays entry member same
    · exact injective id other name first second

end Restoring

end BundleIdMap

/-- A step that changes the ids in use. -/
inductive IdStep
  | generate (bundleName : String)
  | recycle (info : InnerBundleInfo)
  | restore (bundleInfos : StringMap InnerBundleInfo)

namespace IdStep

open BundleIdMap

/-- The manager after a step; at the start of the service the records come from
the storage. -/
def run (mgr : BundleDataMgr) : IdStep → BundleDataMgr
  | generate bundleName =>
      match BundleDataMgr.generateBundleId mgr.bundleIdMap bundleName with
      | none => mgr
      | some (_, bundleIdMap) => { mgr with bundleIdMap := bundleIdMap }
  | recycle info => mgr.recycleUidAndGid info
  | restore bundleInfos =>
      BundleDataMgr.restoreUidAndGid { mgr with bundleInfos := bundleInfos }

/-- A bundle that asks for an id gets the right one. -/
def IsRight (mgr : BundleDataMgr) : IdStep → Prop
  | generate bundleName => GeneratesRight mgr.bundleIdMap bundleName
  | recycle _ | restore _ => True

/-- What a step relies on. -/
def IsSafe (mgr : BundleDataMgr) : IdStep → Prop
  | generate bundleName => CanGenerate mgr.bundleIdMap bundleName
  | recycle _ => True
  | restore bundleInfos =>
      RestoresApart mgr.bundleIdMap (BundleDataMgr.restoredIds bundleInfos)

/-- Every step gives the right id, and no two ids ever stand for one bundle. -/
def KeepIds : BundleDataMgr → List IdStep → Prop
  | mgr, [] => IsInjective mgr.bundleIdMap
  | mgr, step :: steps =>
      IsInjective mgr.bundleIdMap ∧ step.IsRight mgr ∧ KeepIds (step.run mgr) steps

/-- Every step finds what it relies on. -/
def AreSafe : BundleDataMgr → List IdStep → Prop
  | _, [] => True
  | mgr, step :: steps => step.IsSafe mgr ∧ AreSafe (step.run mgr) steps

variable {mgr : BundleDataMgr}

theorem KeepIds.isInjective {steps : List IdStep} (keeps : KeepIds mgr steps) :
    IsInjective mgr.bundleIdMap := by
  cases steps with
  | nil => exact keeps
  | cons step steps => exact keeps.1

/-- One step: it gives the right id and keeps the ids apart exactly if it finds
what it relies on. -/
theorem isSafe_iff (injective : IsInjective mgr.bundleIdMap) (step : IdStep) :
    step.IsSafe mgr ↔
      step.IsRight mgr ∧ IsInjective (step.run mgr).bundleIdMap := by
  cases step with
  | generate bundleName =>
      have kept : IsInjective ((generate bundleName).run mgr).bundleIdMap := by
        simp only [run]
        split
        case h_1 => exact injective
        case h_2 _ _ _ generated =>
          exact isInjective_generateBundleId injective generated
      exact (generatesRight_iff injective).symm.trans
        (and_iff_left kept).symm
  | recycle info =>
      refine iff_of_true trivial ⟨trivial, ?_⟩
      simp only [run, BundleDataMgr.recycleUidAndGid]
      split
      · exact injective
      · exact isInjective_erase injective _
  | restore bundleInfos =>
      have restored := @isInjective_restored_iff mgr.bundleIdMap
        (BundleDataMgr.restoredIds bundleInfos) injective
      simp only [run, BundleDataMgr.restoreUidAndGid_bundleIdMap, IsSafe, IsRight,
        true_and]
      exact restored.symm

theorem keepIds_iff (injective : IsInjective mgr.bundleIdMap)
    (steps : List IdStep) : KeepIds mgr steps ↔ AreSafe mgr steps := by
  induction steps generalizing mgr with
  | nil => exact iff_of_true injective trivial
  | cons step steps ih =>
      constructor
      · rintro ⟨-, right, rest⟩
        have kept := rest.isInjective
        exact ⟨(isSafe_iff injective step).mpr ⟨right, kept⟩, (ih kept).mp rest⟩
      · rintro ⟨safe, rest⟩
        obtain ⟨right, kept⟩ := (isSafe_iff injective step).mp safe
        exact ⟨injective, right, (ih kept).mpr rest⟩

end IdStep

/-- From the start of the service on, no bundle has two ids and every bundle that
asks gets its own id or the least free one, exactly if the records that are read
keep the bundles apart and the search for an id can always rely on the ids in
use. -/
theorem bundleIds_kept_iff (steps : List IdStep) :
    IdStep.KeepIds {} steps ↔ IdStep.AreSafe {} steps := by
  apply IdStep.keepIds_iff
  intro id other bundleName found
  exact absurd found (by simp)

/-- The record of a bundle whose installation stopped before it got an id. -/
def unfinishedRecord : InnerBundleInfo :=
  { ({} : InnerBundleInfo) with
    innerBundleUserInfos := Std.ExtTreeMap.ofList [("com.a_100",
      { ({} : InnerBundleUserInfo) with
        bundleName := "com.a"
        bundleUserInfo := { userId := 100 } })] }

/-- The uid of a user that never got one is read as an id, and the next bundle
gets the id after it. -/
theorem unfinishedRecord_misleads :
    ¬ IdStep.KeepIds {} [.restore (Std.ExtTreeMap.ofList
        [("com.a", unfinishedRecord)]), .generate "com.b"] := by
  rintro ⟨-, -, -, right, -⟩
  simp only [IdStep.IsRight, IdStep.run,
    BundleDataMgr.restoreUidAndGid_bundleIdMap] at right
  have brought : BundleDataMgr.restoredIds (Std.ExtTreeMap.ofList
      [("com.a", unfinishedRecord)]) = [(-20000001, "com.a")] := by
    decide +kernel
  rw [brought] at right
  have isNew (id : Int32) : (Std.ExtTreeMap.insert (∅ : BundleIdMap) (-20000001)
      "com.a")[id]? ≠ some "com.b" := by
    rw [Std.ExtTreeMap.getElem?_insert]
    split <;> simp
  have given : (BundleDataMgr.generateBundleId (Std.ExtTreeMap.insert
      (∅ : BundleIdMap) (-20000001) "com.a") "com.b").map (·.1) =
        some (-20000000) := by
    decide +kernel
  obtain ⟨⟨id, after⟩, generated, rfl⟩ := Option.map_eq_some_iff.mp given
  have low := (right.fresh isNew _ _ generated).1.base_le
  exact absurd low (by decide)

end AppExecFwk
