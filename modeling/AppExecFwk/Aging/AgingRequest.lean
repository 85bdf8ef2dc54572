import Mathlib.Algebra.Ring.Int.Defs
import Std.Data.ExtTreeMap
import AppExecFwk.Library.SortOutcome

/-!
# Aging requests

When free-install bundles take too much space, `BundleAgingMgr` lists the
removable ones with the time of their last use, their data size and their uid,
sorts the list and hands it to a chain of handlers.  Times and sizes are
integers, the clock stands still while a request is worked on.
-/

namespace AppExecFwk

/-- A removable bundle, as aging looks at it. -/
structure AgingBundleInfo where
  bundleName : String
  recentlyUsedTime : Int := 0
  dataBytes : Int := 0
  bundleUid : Int := -1
  deriving DecidableEq

namespace AgingConstants

def time30Days : Int := 30
def time20Days : Int := 20
def time10Days : Int := 10
def oneDaysMs : Nat := 24 * (60 * 60 * 1000)

end AgingConstants

/-- The time of the system clock and the length of a day, for which a system
parameter may give another one than `oneDaysMs`. -/
structure AgingClock where
  nowSysTimeMs : Int
  oneDayTimeMs : Nat := AgingConstants.oneDaysMs

namespace AgingClock

open AgingConstants

variable (clock : AgingClock)

def unusedTimeMsBaseOnCurrentTime (days : Int) : Int :=
  clock.nowSysTimeMs - days * clock.oneDayTimeMs

/-- The comparison of `SortAgingBundles`: two bundles last used 10 to 20 days ago
compare by size, the larger one first, all others by the time of their last
use. -/
def sortTwoAgingBundleInfos (bundle1 bundle2 : AgingBundleInfo) : Bool :=
  let time10DaysAgo := clock.unusedTimeMsBaseOnCurrentTime time10Days
  let time20DaysAgo := clock.unusedTimeMsBaseOnCurrentTime time20Days
  if bundle1.recentlyUsedTime ≤ time10DaysAgo ∧
      bundle1.recentlyUsedTime > time20DaysAgo ∧
      bundle2.recentlyUsedTime ≤ time10DaysAgo ∧
      bundle2.recentlyUsedTime > time20DaysAgo then
    bundle1.dataBytes > bundle2.dataBytes
  else
    bundle1.recentlyUsedTime < bundle2.recentlyUsedTime

variable {clock} {bundle1 bundle2 : AgingBundleInfo}

theorem sortTwoAgingBundleInfos_iff :
    clock.sortTwoAgingBundleInfos bundle1 bundle2 = true ↔
      if bundle1.recentlyUsedTime ≤ clock.nowSysTimeMs - 10 * clock.oneDayTimeMs ∧
          bundle1.recentlyUsedTime > clock.nowSysTimeMs - 20 * clock.oneDayTimeMs ∧
          bundle2.recentlyUsedTime ≤ clock.nowSysTimeMs - 10 * clock.oneDayTimeMs ∧
          bundle2.recentlyUsedTime > clock.nowSysTimeMs - 20 * clock.oneDayTimeMs then
        bundle2.dataBytes < bundle1.dataBytes
      else bundle1.recentlyUsedTime < bundle2.recentlyUsedTime := by
  simp only [sortTwoAgingBundleInfos, unusedTimeMsBaseOnCurrentTime, time10Days,
    time20Days, gt_iff_lt]
  split <;> rw [decide_eq_true_iff]

/-- The comparison is one that bundles can be sorted by. -/
instance : IsStrictWeakOrder AgingBundleInfo
    fun bundle1 bundle2 => clock.sortTwoAgingBundleInfos bundle1 bundle2 = true where
  irrefl := by
    intro bundle
    rw [sortTwoAgingBundleInfos_iff]
    split <;> omega
  trans := by
    intro bundle1 bundle2 bundle3
    simp only [sortTwoAgingBundleInfos_iff]
    split <;> split <;> split <;> omega
  incomp_trans := by
    intro bundle1 bundle2 bundle3
    simp only [sortTwoAgingBundleInfos_iff]
    split <;> split <;> split <;> split <;> split <;> split <;> omega

/-- A bundle used after the last 10 days began stands behind all bundles with an
earlier last use. -/
theorem sortTwoAgingBundleInfos_of_recent
    (recent : clock.nowSysTimeMs - 10 * clock.oneDayTimeMs <
      bundle2.recentlyUsedTime)
    (earlier : bundle1.recentlyUsedTime < bundle2.recentlyUsedTime) :
    clock.sortTwoAgingBundleInfos bundle1 bundle2 = true := by
  rw [sortTwoAgingBundleInfos_iff]
  split <;> omega

@[simp]
theorem sortTwoAgingBundleInfos_self :
    clock.sortTwoAgingBundleInfos bundle1 bundle1 = false := by
  rw [← Bool.not_eq_true, sortTwoAgingBundleInfos_iff]
  split <;> omega

end AgingClock

/-- What the request keeps: the bundles that are still to be looked at, and the
data size of all free-install bundles. -/
structure AgingRequest where
  agingBundles : List AgingBundleInfo := []
  tatalDataBytes : Int := 0

namespace AgingRequest

variable (request : AgingRequest)

/-- The end threshold is the fraction of the start threshold that is computed in
floating point; here it is a given number. -/
def isReachEndAgingThreshold (endAgingThreshold : Int) : Bool :=
  request.tatalDataBytes < endAgingThreshold

def addAgingBundle (bundleInfo : AgingBundleInfo) : AgingRequest :=
  { request with agingBundles := request.agingBundles ++ [bundleInfo] }

def updateTotalDataBytesAfterUninstalled (dataBytes : Int) : AgingRequest :=
  { request with tatalDataBytes := request.tatalDataBytes - dataBytes }

def setTotalDataBytes (allBundleDataBytes : Int) : AgingRequest :=
  { request with tatalDataBytes := allBundleDataBytes }

end AgingRequest

/-- When a module of a bundle was last used. -/
structure BundleActiveModuleRecord where
  bundleName : String
  lastModuleUsedTime : Int

/-- The last use that the records tell of a bundle, 0 when they tell none. -/
def lastBundleUsedTime (bundleName : String)
    (activeModuleRecord : List BundleActiveModuleRecord) : Int :=
  activeModuleRecord.foldl (fun time moduleRecord =>
    if moduleRecord.bundleName = bundleName ∧ time < moduleRecord.lastModuleUsedTime then
      moduleRecord.lastModuleUsedTime
    else time) 0

/-- The entry that `ReInitAgingRequest` makes for a bundle.  One without a record
counts as used just now. -/
def reInitAgingBundle (clock : AgingClock)
    (activeModuleRecord : List BundleActiveModuleRecord)
    (bundleSpaceSize : String → Int) (bundleName : String) (uid : Int) :
    AgingBundleInfo :=
  let lastUsed := lastBundleUsedTime bundleName activeModuleRecord
  { bundleName
    recentlyUsedTime := if lastUsed ≠ 0 then lastUsed else clock.nowSysTimeMs
    dataBytes := bundleSpaceSize bundleName
    bundleUid := uid }

/-- `ReInitAgingRequest` up to the sort. -/
def reInitAgingRequest (clock : AgingClock)
    (bundleNamesAndUid : Std.ExtTreeMap String Int)
    (activeModuleRecord : List BundleActiveModuleRecord)
    (bundleSpaceSize : String → Int) (allFreeInstallBundleSpaceSize : Int) :
    AgingRequest :=
  let request := bundleNamesAndUid.toList.foldl
    (fun (request : AgingRequest) (bundleName, uid) =>
      request.addAgingBundle
        (reInitAgingBundle clock activeModuleRecord bundleSpaceSize bundleName uid)) {}
  request.setTotalDataBytes allFreeInstallBundleSpaceSize

section ReInit

variable {clock : AgingClock} {bundleNamesAndUid : Std.ExtTreeMap String Int}
  {activeModuleRecord : List BundleActiveModuleRecord}
  {bundleSpaceSize : String → Int} {allFreeInstallBundleSpaceSize : Int}

theorem AgingRequest.agingBundles_foldl_addAgingBundle {α : Type}
    (info : α → AgingBundleInfo) (items : List α) (request : AgingRequest) :
    (items.foldl (fun request item => request.addAgingBundle (info item))
      request).agingBundles = request.agingBundles ++ items.map info := by
  induction items generalizing request with
  | nil => simp
  | cons item items ih =>
      rw [List.foldl_cons, ih]
      simp [addAgingBundle]

theorem agingBundles_reInitAgingRequest :
    (reInitAgingRequest clock bundleNamesAndUid activeModuleRecord bundleSpaceSize
      allFreeInstallBundleSpaceSize).agingBundles =
      bundleNamesAndUid.toList.map fun entry =>
        reInitAgingBundle clock activeModuleRecord bundleSpaceSize entry.1 entry.2 := by
  simp only [reInitAgingRequest, AgingRequest.setTotalDataBytes]
  exact AgingRequest.agingBundles_foldl_addAgingBundle _ _ {}

/-- The request has one entry for each removable bundle. -/
theorem map_bundleName_reInitAgingRequest :
    (reInitAgingRequest clock bundleNamesAndUid activeModuleRecord bundleSpaceSize
      allFreeInstallBundleSpaceSize).agingBundles.map (·.bundleName) =
      bundleNamesAndUid.keys := by
  rw [agingBundles_reInitAgingRequest, List.map_map]
  exact Std.ExtTreeMap.map_fst_toList_eq_keys

theorem nodup_map_bundleName_reInitAgingRequest :
    ((reInitAgingRequest clock bundleNamesAndUid activeModuleRecord bundleSpaceSize
      allFreeInstallBundleSpaceSize).agingBundles.map (·.bundleName)).Nodup := by
  rw [map_bundleName_reInitAgingRequest]
  exact bundleNamesAndUid.nodup_keys

theorem lastBundleUsedTime_nonneg (bundleName : String) :
    0 ≤ lastBundleUsedTime bundleName activeModuleRecord := by
  unfold lastBundleUsedTime
  have grows : ∀ time : Int, 0 ≤ time → 0 ≤ activeModuleRecord.foldl
      (fun time moduleRecord =>
        if moduleRecord.bundleName = bundleName ∧
            time < moduleRecord.lastModuleUsedTime then
          moduleRecord.lastModuleUsedTime
        else time) time := by
    induction activeModuleRecord with
    | nil => exact fun _ start => start
    | cons moduleRecord rest ih =>
        intro time start
        rw [List.foldl_cons]
        apply ih
        split <;> omega
  exact grows 0 le_rfl

/-- A time in the request is the clock's or after the epoch, so its distance to
the clock's time is one that 64 bits hold. -/
theorem recentlyUsedTime_reInitAgingBundle (bundleName : String) (uid : Int) :
    let info :=
      reInitAgingBundle clock activeModuleRecord bundleSpaceSize bundleName uid
    info.recentlyUsedTime = clock.nowSysTimeMs ∨ 0 < info.recentlyUsedTime := by
  have nonneg : 0 ≤ lastBundleUsedTime bundleName activeModuleRecord :=
    lastBundleUsedTime_nonneg bundleName
  simp only [reInitAgingBundle]
  split
  · right
    omega
  · left
    rfl

end ReInit

end AppExecFwk
