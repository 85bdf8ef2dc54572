import AppExecFwk.Library.Text
import AppExecFwk.Info.ErrCode
import AppExecFwk.Info.InnerBundleInfo

/-!
# The sandbox store

`BundleSandboxDataMgr` keeps the records of the sandbox applications, under the
name of the bundle and an index, and for every bundle the set of the indices in
use.
-/

namespace AppExecFwk

/-- The index of an application that is not in a sandbox. -/
def initialAppIndex : Int32 := 0

/-- The largest index of a sandbox application. -/
def maxAppIndex : Int32 := 100

/-- The key of a sandbox application. -/
def sandboxKey (bundleName : String) (appIndex : Int32) : String :=
  bundleName ++ "_" ++ toString appIndex

/-- The maps of the sandbox data manager. -/
structure BundleSandboxDataMgr where
  sandboxAppInfos : StringMap InnerBundleInfo := ∅
  sandboxAppIndexMap : StringMap (Std.ExtTreeSet Int32) := ∅

namespace BundleSandboxDataMgr

variable (mgr : BundleSandboxDataMgr)

def saveSandboxAppInfo (info : InnerBundleInfo) (appIndex : Int32) :
    BundleSandboxDataMgr :=
  if info.getBundleName = "" then mgr
  else
    { mgr with
      sandboxAppInfos := mgr.sandboxAppInfos.insert
        (sandboxKey info.getBundleName appIndex) info }

def deleteSandboxAppInfo (bundleName : String) (appIndex : Int32) :
    BundleSandboxDataMgr :=
  if bundleName = "" then mgr
  else
    { mgr with
      sandboxAppInfos :=
        mgr.sandboxAppInfos.erase (sandboxKey bundleName appIndex) }

def getSandboxAppInfo (bundleName : String) (appIndex userId : Int32) :
    Except ErrCode InnerBundleInfo :=
  if bundleName = "" then .error .sandboxInstallParamError
  else if appIndex ≤ initialAppIndex then .error .sandboxInstallParamError
  else if userId < defaultUserId then .error .sandboxInstallParamError
  else
    match mgr.sandboxAppInfos[sandboxKey bundleName appIndex]? with
    | none => .error .sandboxInstallNoSandboxAppInfo
    | some info =>
        if (info.getInnerBundleUserInfo userId).isSome then .ok info
        else .error .sandboxInstallNotInstalledAtSpecifiedUserid

/-- The last index of the run of indices that follows `previous`. -/
def lastConsecutive (previous : Int32) : List Int32 → Int32
  | [] => previous
  | appIndex :: rest =>
      if appIndex = previous + 1 then lastConsecutive (previous + 1) rest
      else previous

/-- Reserve the smallest index of a bundle that is free, `initialAppIndex` if
there is none. -/
def generateSandboxAppIndex (bundleName : String) :
    Int32 × BundleSandboxDataMgr :=
  if bundleName = "" then (initialAppIndex, mgr)
  else
    let reserve (appIndices : Std.ExtTreeSet Int32) (appIndex : Int32) :=
      (appIndex, { mgr with
        sandboxAppIndexMap :=
          mgr.sandboxAppIndexMap.insert bundleName (appIndices.insert appIndex) })
    match mgr.sandboxAppIndexMap[bundleName]? with
    | none => reserve ∅ (initialAppIndex + 1)
    | some appIndices =>
        if appIndices.isEmpty then reserve appIndices (initialAppIndex + 1)
        else
          let newAppIndex := lastConsecutive initialAppIndex appIndices.toList + 1
          if newAppIndex > maxAppIndex then (initialAppIndex, mgr)
          else reserve appIndices newAppIndex

/-- Give an index back. -/
def deleteSandboxAppIndex (bundleName : String) (appIndex : Int32) :
    Bool × BundleSandboxDataMgr :=
  if bundleName = "" then (false, mgr)
  else
    match mgr.sandboxAppIndexMap[bundleName]? with
    | none => (false, mgr)
    | some appIndices =>
        if appIndices.contains appIndex then
          let appIndices := appIndices.erase appIndex
          (true, { mgr with
            sandboxAppIndexMap :=
              if appIndices.isEmpty then mgr.sandboxAppIndexMap.erase bundleName
              else mgr.sandboxAppIndexMap.insert bundleName appIndices })
        else (false, mgr)

/-- An index is recorded for a bundle. -/
def HasIndex (bundleName : String) (appIndex : Int32) : Prop :=
  ∃ appIndices, mgr.sandboxAppIndexMap[bundleName]? = some appIndices ∧
    appIndex ∈ appIndices

/-- Only indices in the range of indices are recorded. -/
def IsBounded : Prop :=
  ∀ bundleName appIndex, mgr.HasIndex bundleName appIndex →
    initialAppIndex < appIndex ∧ appIndex ≤ maxAppIndex

/-- Below the largest index the next one is one more. -/
theorem toInt_add_one {appIndex : Int32} (nonnegative : 0 ≤ appIndex.toInt)
    (bounded : appIndex.toInt ≤ 100) :
    (appIndex + 1).toInt = appIndex.toInt + 1 := by
  rw [Int32.toInt_add, Int32.toInt_one]
  exact Int.bmod_eq_of_le (by omega) (by omega)

/-- The index after a run of indices is none of them, and follows them all. -/
theorem lastConsecutive_spec {previous : Int32} {appIndices : List Int32}
    (nonnegative : initialAppIndex ≤ previous)
    (bounded : previous ≤ maxAppIndex)
    (ascending : appIndices.Pairwise (· < ·))
    (between : ∀ appIndex ∈ appIndices,
      previous < appIndex ∧ appIndex ≤ maxAppIndex) :
    previous ≤ lastConsecutive previous appIndices ∧
      lastConsecutive previous appIndices ≤ maxAppIndex ∧
      lastConsecutive previous appIndices + 1 ∉ appIndices := by
  have limit : maxAppIndex.toInt = 100 := rfl
  have zero : initialAppIndex.toInt = 0 := rfl
  induction appIndices generalizing previous with
  | nil => exact ⟨Int32.le_refl previous, bounded, List.not_mem_nil⟩
  | cons first rest ih =>
      have firstBetween := between first List.mem_cons_self
      rw [Int32.lt_iff_toInt_lt, Int32.le_iff_toInt_le] at firstBetween
      rw [Int32.le_iff_toInt_le] at nonnegative bounded
      have previousNext := toInt_add_one nonnegative bounded
      rw [List.pairwise_cons] at ascending
      unfold lastConsecutive
      split
      · next follows =>
          subst follows
          have restBetween : ∀ appIndex ∈ rest,
              previous + 1 < appIndex ∧ appIndex ≤ maxAppIndex :=
            fun appIndex inRest => ⟨ascending.1 appIndex inRest,
              (between appIndex (List.mem_cons_of_mem _ inRest)).2⟩
          obtain ⟨atLeast, atMost, fresh⟩ := ih
            (Int32.le_iff_toInt_le.mpr (by omega))
            (Int32.le_iff_toInt_le.mpr (by omega)) ascending.2 restBetween
          have lower := Int32.le_iff_toInt_le.mp atLeast
          have upper := Int32.le_iff_toInt_le.mp atMost
          refine ⟨Int32.le_iff_toInt_le.mpr (by omega), atMost, ?_⟩
          intro member
          rcases List.mem_cons.mp member with same | inRest
          · have lastNext := @toInt_add_one
              (lastConsecutive (previous + 1) rest) (by omega) (by omega)
            have := congrArg Int32.toInt same
            omega
          · exact fresh inRest
      · next apart =>
          refine ⟨Int32.le_refl previous, Int32.le_iff_toInt_le.mpr bounded, ?_⟩
          intro member
          rcases List.mem_cons.mp member with same | inRest
          · exact apart same.symm
          · have later := ascending.1 _ inRest
            rw [Int32.lt_iff_toInt_lt] at later
            omega

theorem hasIndex_insert_iff {bundleName : String} {appIndex : Int32}
    {appIndices : Std.ExtTreeSet Int32}
    (recorded : ∀ other, mgr.HasIndex bundleName other ↔ other ∈ appIndices)
    (otherName : String) (other : Int32) :
    { mgr with
      sandboxAppIndexMap := mgr.sandboxAppIndexMap.insert bundleName
        (appIndices.insert appIndex) }.HasIndex otherName other ↔
      mgr.HasIndex otherName other ∨
        otherName = bundleName ∧ other = appIndex := by
  by_cases same : otherName = bundleName
  · subst same
    rw [recorded other]
    have inserted : other ∈ appIndices.insert appIndex ↔
        other = appIndex ∨ other ∈ appIndices := by
      rw [Std.ExtTreeSet.mem_insert, Std.LawfulEqCmp.compare_eq_iff_eq,
        @eq_comm _ appIndex]
    simp [HasIndex, inserted, or_comm]
  · simp [HasIndex, Std.ExtTreeMap.getElem?_insert, Ne.symm same, same]

/-- A reserved index was free, and is the only one that is recorded newly. -/
theorem generateSandboxAppIndex_spec (isBounded : mgr.IsBounded)
    (bundleName : String) :
    let generated := mgr.generateSandboxAppIndex bundleName
    generated = (initialAppIndex, mgr) ∨
      (initialAppIndex < generated.1 ∧ generated.1 ≤ maxAppIndex) ∧
        ¬mgr.HasIndex bundleName generated.1 ∧
        generated.2.sandboxAppInfos = mgr.sandboxAppInfos ∧
        ∀ otherName other, generated.2.HasIndex otherName other ↔
          mgr.HasIndex otherName other ∨
            otherName = bundleName ∧ other = generated.1 := by
  have firstBounded : initialAppIndex < initialAppIndex + 1 ∧
      initialAppIndex + 1 ≤ maxAppIndex := by decide
  unfold generateSandboxAppIndex
  split
  · exact .inl rfl
  · simp only
    split
    · next absent =>
        have unrecorded : ∀ other, ¬mgr.HasIndex bundleName other := by
          rintro other ⟨appIndices, present, -⟩
          rw [absent] at present
          cases present
        refine .inr ⟨firstBounded, unrecorded _, rfl, ?_⟩
        exact mgr.hasIndex_insert_iff fun other => by
          simp [unrecorded other]
    · next appIndices present =>
        have recorded : ∀ other,
            mgr.HasIndex bundleName other ↔ other ∈ appIndices := by
          simp [HasIndex, present]
        split
        · next empty =>
            refine .inr ⟨firstBounded, ?_, rfl,
              mgr.hasIndex_insert_iff recorded⟩
            rw [recorded, Std.ExtTreeSet.isEmpty_iff.mp empty]
            exact Std.ExtTreeSet.not_mem_empty
        · have ascending : appIndices.toList.Pairwise (· < ·) :=
            appIndices.ordered_toList.imp Std.compare_eq_lt.mp
          have between : ∀ appIndex ∈ appIndices.toList,
              initialAppIndex < appIndex ∧ appIndex ≤ maxAppIndex := by
            intro appIndex member
            exact isBounded bundleName appIndex
              ((recorded appIndex).mpr (Std.ExtTreeSet.mem_toList.mp member))
          obtain ⟨atLeast, atMost, fresh⟩ := lastConsecutive_spec
            (by decide) (by decide) ascending between
          split
          · exact .inl rfl
          · next small =>
              refine .inr ⟨⟨?_, ?_⟩, ?_, rfl, mgr.hasIndex_insert_iff recorded⟩
              · rw [Int32.le_iff_toInt_le] at atLeast atMost
                have limit : maxAppIndex.toInt = 100 := rfl
                have zero : initialAppIndex.toInt = 0 := rfl
                rw [Int32.lt_iff_toInt_lt, toInt_add_one (by omega) (by omega)]
                omega
              · exact Int32.not_lt.mp small
              · rw [recorded, ← Std.ExtTreeSet.mem_toList]
                exact fresh

/-- Giving an index back succeeds when it is recorded, and then removes it and
no other. -/
theorem deleteSandboxAppIndex_spec {bundleName : String} (appIndex : Int32)
    (named : bundleName ≠ "") :
    let deleted := mgr.deleteSandboxAppIndex bundleName appIndex
    deleted.2.sandboxAppInfos = mgr.sandboxAppInfos ∧
      (deleted.1 = true ↔ mgr.HasIndex bundleName appIndex) ∧
      ∀ otherName other, deleted.2.HasIndex otherName other ↔
        mgr.HasIndex otherName other ∧
          ¬(otherName = bundleName ∧ other = appIndex) := by
  unfold deleteSandboxAppIndex
  rw [if_neg named]
  split
  · next absent =>
      have unrecorded : ∀ other, ¬mgr.HasIndex bundleName other := by
        rintro other ⟨appIndices, present, -⟩
        rw [absent] at present
        cases present
      refine ⟨rfl, by simp [unrecorded], fun otherName other => ?_⟩
      refine ⟨fun has => ⟨has, ?_⟩, And.left⟩
      rintro ⟨rfl, rfl⟩
      exact unrecorded other has
  · next appIndices present =>
      have recorded : ∀ other,
          mgr.HasIndex bundleName other ↔ other ∈ appIndices := by
        simp [HasIndex, present]
      split
      · next contained =>
          simp only
          refine ⟨trivial, by simp [recorded, ← Std.ExtTreeSet.contains_iff_mem,
            contained], fun otherName other => ?_⟩
          have remaining : other ∈ appIndices.erase appIndex ↔
              other ∈ appIndices ∧ other ≠ appIndex := by
            rw [Std.ExtTreeSet.mem_erase, Ne, Ne,
              Std.LawfulEqCmp.compare_eq_iff_eq, @eq_comm _ appIndex, and_comm]
          by_cases same : otherName = bundleName
          · subst same
            rw [recorded]
            split
            · next empty =>
                have none : other ∉ appIndices.erase appIndex := by
                  rw [Std.ExtTreeSet.isEmpty_iff.mp empty]
                  exact Std.ExtTreeSet.not_mem_empty
                rw [remaining] at none
                simpa [HasIndex] using none
            · simp [HasIndex, remaining]
          · split <;>
              simp [HasIndex, Std.ExtTreeMap.getElem?_insert,
                Std.ExtTreeMap.getElem?_erase, Ne.symm same, same]
      · next uncontained =>
          have unrecorded : ¬mgr.HasIndex bundleName appIndex := by
            rw [recorded, ← Std.ExtTreeSet.contains_iff_mem]
            exact uncontained
          refine ⟨rfl, by simp [unrecorded], fun otherName other => ?_⟩
          refine ⟨fun has => ⟨has, ?_⟩, And.left⟩
          rintro ⟨rfl, rfl⟩
          exact unrecorded has

end BundleSandboxDataMgr

/-- The key of a sandbox application determines the bundle and the index. -/
theorem sandboxKey_inj {first second : String} {appIndex other : Int32}
    (same : sandboxKey first appIndex = sandboxKey second other) :
    first = second ∧ appIndex = other :=
  nameAndUserIdToKey_inj same

end AppExecFwk
