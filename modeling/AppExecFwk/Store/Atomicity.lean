import AppExecFwk.Store.Commands

/-!
# Memory and storage

The bundle data manager keeps every record twice.  Six of its methods change a
record in both places; this file finds out when such a call changes both or
neither, and when the two places agree after any number of calls of any
clients.
-/

namespace AppExecFwk

open CommandProgram

/-- The calls that change the record of a bundle in memory and in the
storage. -/
inductive Mutator where
  | addInnerBundleInfo (bundleName : String) (info : InnerBundleInfo)
  | addNewModuleInfo (bundleName : String) (newInfo oldInfo : InnerBundleInfo)
  | removeModuleInfo (bundleName modulePackage : String)
      (oldInfo : InnerBundleInfo)
  | updateInnerBundleInfo (bundleName : String)
      (newInfo oldInfo : InnerBundleInfo)
  | addInnerBundleUserInfo (bundleName : String)
      (newUserInfo : InnerBundleUserInfo)
  | removeInnerBundleUserInfo (bundleName : String) (userId : Int32)

namespace Mutator

def bundleName : Mutator → String
  | addInnerBundleInfo bundleName _ | addNewModuleInfo bundleName _ _
  | removeModuleInfo bundleName _ _ | updateInnerBundleInfo bundleName _ _
  | addInnerBundleUserInfo bundleName _
  | removeInnerBundleUserInfo bundleName _ => bundleName

/-- What the call returns and the store it leaves behind. -/
def apply (mgr : BundleDataMgr) (accepted : Bool) :
    Mutator → Bool × BundleDataMgr
  | addInnerBundleInfo bundleName info =>
      mgr.addInnerBundleInfo bundleName info accepted
  | addNewModuleInfo bundleName newInfo oldInfo =>
      let (added, _, mgr) :=
        mgr.addNewModuleInfo bundleName newInfo oldInfo accepted
      (added, mgr)
  | removeModuleInfo bundleName modulePackage oldInfo =>
      let (removed, _, mgr) :=
        mgr.removeModuleInfo bundleName modulePackage oldInfo accepted
      (removed, mgr)
  | updateInnerBundleInfo bundleName newInfo oldInfo =>
      let (updated, _, mgr) :=
        mgr.updateInnerBundleInfo bundleName newInfo oldInfo accepted
      (updated, mgr)
  | addInnerBundleUserInfo bundleName newUserInfo =>
      mgr.addInnerBundleUserInfo bundleName newUserInfo accepted
  | removeInnerBundleUserInfo bundleName userId =>
      mgr.removeInnerBundleUserInfo bundleName userId accepted

/-- The record the call asks the storage to save, if it comes to that. -/
def recordToSave (mgr : BundleDataMgr) : Mutator → Option InnerBundleInfo
  | addInnerBundleInfo bundleName info =>
      if bundleName ≠ "" ∧ mgr.bundleInfos.contains bundleName = false ∧
          mgr.installStates[bundleName]? = some .installStart then some info
      else none
  | addNewModuleInfo bundleName newInfo oldInfo =>
      if mgr.bundleInfos.contains bundleName ∧
          mgr.installStates[bundleName]? = some .updatingSuccess then
        some (BundleDataMgr.withNewModule newInfo oldInfo)
      else none
  | removeModuleInfo bundleName modulePackage oldInfo =>
      if mgr.bundleInfos.contains bundleName ∧
          (mgr.installStates[bundleName]? = some .uninstallStart ∨
            mgr.installStates[bundleName]? = some .rollBack) then
        some ((oldInfo.removeModuleInfo modulePackage).setBundleStatus .enabled)
      else none
  | updateInnerBundleInfo bundleName newInfo oldInfo =>
      if mgr.bundleInfos.contains bundleName ∧
          (mgr.installStates[bundleName]? = some .updatingSuccess ∨
            mgr.installStates[bundleName]? = some .rollBack ∨
            mgr.installStates[bundleName]? = some .userChange) then
        some (BundleDataMgr.withUpdatedModule newInfo oldInfo)
      else none
  | addInnerBundleUserInfo bundleName newUserInfo =>
      mgr.bundleInfos[bundleName]?.map fun info =>
        (info.addInnerBundleUserInfo newUserInfo).setBundleStatus .enabled
  | removeInnerBundleUserInfo bundleName userId =>
      mgr.bundleInfos[bundleName]?.map fun info =>
        (info.removeInnerBundleUserInfo userId).setBundleStatus .enabled

end Mutator

/-- The record of a bundle in memory is the one in the storage. -/
def BundleDataMgr.IsSaved (mgr : BundleDataMgr) (bundleName : String) : Prop :=
  ∃ info, mgr.bundleInfos[bundleName]? = some info ∧
    mgr.dataStorage[info.getBundleName]? = some info.toJson

/-- Both places change or neither does: a call whose record the storage refuses
fails and leaves memory as it is, and after a call that succeeds the storage
has the record memory has. -/
def Mutator.IsAtomic (mutator : Mutator) (mgr : BundleDataMgr)
    (accepted : Bool) : Prop :=
  ((mutator.recordToSave mgr).isSome → accepted = false →
    (mutator.apply mgr accepted).1 = false ∧
      (mutator.apply mgr accepted).2.bundleInfos = mgr.bundleInfos) ∧
  ((mutator.apply mgr accepted).1 = true →
    (mutator.apply mgr accepted).2.IsSaved mutator.bundleName)

/-- When a call is atomic.  Three of them always are.  Removing a module needs a
storage that accepts the record, or a bundle that is saved already when there
is nothing to save; changing a user needs a storage that accepts, or no
change. -/
def Mutator.AtomicWhen (mutator : Mutator) (mgr : BundleDataMgr)
    (accepted : Bool) : Prop :=
  match mutator with
  | addInnerBundleInfo _ _ | addNewModuleInfo _ _ _
  | updateInnerBundleInfo _ _ _ => True
  | removeModuleInfo bundleName _ _ =>
      ((mutator.recordToSave mgr).isSome → accepted = true) ∧
      (mutator.recordToSave mgr = none → mgr.bundleInfos.contains bundleName →
        mgr.installStates.contains bundleName → mgr.IsSaved bundleName)
  | addInnerBundleUserInfo bundleName _
  | removeInnerBundleUserInfo bundleName _ =>
      accepted = true ∨
        mutator.recordToSave mgr = mgr.bundleInfos[bundleName]?

namespace BundleDataMgr

variable (mgr : BundleDataMgr)

/-- The store after a record has been changed in memory and in the storage. -/
def keep (bundleName : String) (info : InnerBundleInfo) : BundleDataMgr :=
  { mgr with
    bundleInfos := mgr.bundleInfos.insert bundleName info
    dataStorage := mgr.dataStorage.insert info.getBundleName info.toJson }

theorem isSaved_keep (bundleName : String) (info : InnerBundleInfo) :
    (mgr.keep bundleName info).IsSaved bundleName :=
  ⟨info, by simp [keep], by simp [keep]⟩

end BundleDataMgr

namespace Mutator

variable (mutator : Mutator) (mgr : BundleDataMgr)

/-- The calls that change memory before they ask the storage. -/
def isInPlace : Mutator → Bool
  | addInnerBundleUserInfo _ _ | removeInnerBundleUserInfo _ _ => true
  | _ => false

/-- The call that reports success although the storage has refused. -/
def ignoresRefusal : Mutator → Bool
  | removeModuleInfo _ _ _ => true
  | _ => false

/-- What a call returns when there is nothing to save. -/
def returnsUnsaved : Mutator → Bool
  | removeModuleInfo bundleName _ _ =>
      mgr.bundleInfos.contains bundleName &&
        mgr.installStates.contains bundleName
  | _ => false

theorem apply_of_none (accepted : Bool)
    (nothing : mutator.recordToSave mgr = none) :
    mutator.apply mgr accepted = (mutator.returnsUnsaved mgr, mgr) := by
  cases mutator with
  | addInnerBundleInfo bundleName info =>
      simp only [apply, returnsUnsaved, recordToSave,
        BundleDataMgr.addInnerBundleInfo] at nothing ⊢
      grind
  | addNewModuleInfo bundleName newInfo oldInfo =>
      simp only [apply, returnsUnsaved, recordToSave,
        BundleDataMgr.addNewModuleInfo] at nothing ⊢
      grind
  | removeModuleInfo bundleName modulePackage oldInfo =>
      simp only [apply, returnsUnsaved, recordToSave,
        BundleDataMgr.removeModuleInfo] at nothing ⊢
      grind
  | updateInnerBundleInfo bundleName newInfo oldInfo =>
      simp only [apply, returnsUnsaved, recordToSave,
        BundleDataMgr.updateInnerBundleInfo] at nothing ⊢
      grind
  | addInnerBundleUserInfo bundleName newUserInfo =>
      simp only [recordToSave, Option.map_eq_none_iff] at nothing
      simp [apply, returnsUnsaved, BundleDataMgr.addInnerBundleUserInfo,
        BundleDataMgr.changeInPlace, nothing]
  | removeInnerBundleUserInfo bundleName userId =>
      simp only [recordToSave, Option.map_eq_none_iff] at nothing
      simp [apply, returnsUnsaved, BundleDataMgr.removeInnerBundleUserInfo,
        BundleDataMgr.changeInPlace, nothing]

theorem apply_of_accepted {info : InnerBundleInfo}
    (something : mutator.recordToSave mgr = some info) :
    mutator.apply mgr true = (true, mgr.keep mutator.bundleName info) := by
  cases mutator with
  | addInnerBundleInfo bundleName info =>
      simp only [apply, recordToSave, BundleDataMgr.addInnerBundleInfo,
        BundleDataMgr.saveStorageBundleInfo, BundleDataMgr.putInfo,
        BundleDataMgr.keep, Mutator.bundleName] at something ⊢
      grind
  | addNewModuleInfo bundleName newInfo oldInfo =>
      simp only [apply, recordToSave, BundleDataMgr.addNewModuleInfo,
        BundleDataMgr.saveStorageBundleInfo, BundleDataMgr.putInfo,
        BundleDataMgr.keep, Mutator.bundleName] at something ⊢
      grind
  | removeModuleInfo bundleName modulePackage oldInfo =>
      simp only [apply, recordToSave, BundleDataMgr.removeModuleInfo,
        BundleDataMgr.saveStorageBundleInfo, BundleDataMgr.putInfo,
        BundleDataMgr.keep, Mutator.bundleName] at something ⊢
      grind
  | updateInnerBundleInfo bundleName newInfo oldInfo =>
      simp only [apply, recordToSave, BundleDataMgr.updateInnerBundleInfo,
        BundleDataMgr.saveStorageBundleInfo, BundleDataMgr.putInfo,
        BundleDataMgr.keep, Mutator.bundleName] at something ⊢
      grind
  | addInnerBundleUserInfo bundleName newUserInfo =>
      simp only [recordToSave, Option.map_eq_some_iff] at something
      obtain ⟨old, present, rfl⟩ := something
      simp [apply, BundleDataMgr.addInnerBundleUserInfo, BundleDataMgr.putInfo,
        BundleDataMgr.changeInPlace, BundleDataMgr.saveStorageBundleInfo,
        BundleDataMgr.keep, Mutator.bundleName, present]
  | removeInnerBundleUserInfo bundleName userId =>
      simp only [recordToSave, Option.map_eq_some_iff] at something
      obtain ⟨old, present, rfl⟩ := something
      simp [apply, BundleDataMgr.removeInnerBundleUserInfo,
        BundleDataMgr.putInfo, BundleDataMgr.changeInPlace,
        BundleDataMgr.saveStorageBundleInfo, BundleDataMgr.keep,
        Mutator.bundleName, present]

theorem apply_of_refused {info : InnerBundleInfo}
    (something : mutator.recordToSave mgr = some info) :
    mutator.apply mgr false = (mutator.ignoresRefusal,
      if mutator.isInPlace then mgr.putInfo mutator.bundleName info
      else mgr) := by
  cases mutator with
  | addInnerBundleInfo bundleName info =>
      simp only [apply, recordToSave, BundleDataMgr.addInnerBundleInfo,
        BundleDataMgr.saveStorageBundleInfo, ignoresRefusal,
        isInPlace] at something ⊢
      grind
  | addNewModuleInfo bundleName newInfo oldInfo =>
      simp only [apply, recordToSave, BundleDataMgr.addNewModuleInfo,
        BundleDataMgr.saveStorageBundleInfo, ignoresRefusal,
        isInPlace] at something ⊢
      grind
  | removeModuleInfo bundleName modulePackage oldInfo =>
      simp only [apply, recordToSave, BundleDataMgr.removeModuleInfo,
        BundleDataMgr.saveStorageBundleInfo, ignoresRefusal,
        isInPlace] at something ⊢
      grind
  | updateInnerBundleInfo bundleName newInfo oldInfo =>
      simp only [apply, recordToSave, BundleDataMgr.updateInnerBundleInfo,
        BundleDataMgr.saveStorageBundleInfo, ignoresRefusal,
        isInPlace] at something ⊢
      grind
  | addInnerBundleUserInfo bundleName newUserInfo =>
      simp only [recordToSave, Option.map_eq_some_iff] at something
      obtain ⟨old, present, rfl⟩ := something
      simp [apply, BundleDataMgr.addInnerBundleUserInfo, BundleDataMgr.putInfo,
        BundleDataMgr.changeInPlace, BundleDataMgr.saveStorageBundleInfo,
        ignoresRefusal, isInPlace, Mutator.bundleName, present]
  | removeInnerBundleUserInfo bundleName userId =>
      simp only [recordToSave, Option.map_eq_some_iff] at something
      obtain ⟨old, present, rfl⟩ := something
      simp [apply, BundleDataMgr.removeInnerBundleUserInfo,
        BundleDataMgr.putInfo, BundleDataMgr.changeInPlace,
        BundleDataMgr.saveStorageBundleInfo, ignoresRefusal, isInPlace,
        Mutator.bundleName, present]

theorem isAtomic_of_accepted {info : InnerBundleInfo}
    (something : mutator.recordToSave mgr = some info) :
    mutator.IsAtomic mgr true := by
  refine ⟨fun _ refused => (Bool.noConfusion refused), fun _ => ?_⟩
  rw [apply_of_accepted mutator mgr something]
  exact mgr.isSaved_keep mutator.bundleName info

theorem isAtomic_of_none_iff (accepted : Bool)
    (nothing : mutator.recordToSave mgr = none) :
    mutator.IsAtomic mgr accepted ↔
      (mutator.returnsUnsaved mgr = true → mgr.IsSaved mutator.bundleName) := by
  simp [IsAtomic, nothing, apply_of_none mutator mgr accepted nothing]

theorem isAtomic_of_refused_iff {info : InnerBundleInfo}
    (something : mutator.recordToSave mgr = some info) :
    mutator.IsAtomic mgr false ↔
      mutator.ignoresRefusal = false ∧
        (mutator.isInPlace = true →
          mgr.bundleInfos[mutator.bundleName]? = some info) := by
  simp only [IsAtomic, something, apply_of_refused mutator mgr something]
  cases mutator <;>
    simp [ignoresRefusal, isInPlace, BundleDataMgr.putInfo,
      Std.ExtTreeMap.insert_eq_self_iff]

/-- A call is atomic exactly in the cases named. -/
theorem isAtomic_iff_atomicWhen (accepted : Bool) :
    mutator.IsAtomic mgr accepted ↔ mutator.AtomicWhen mgr accepted := by
  cases record : mutator.recordToSave mgr with
  | none =>
      rw [isAtomic_of_none_iff mutator mgr accepted record]
      cases mutator <;>
        simp_all [AtomicWhen, returnsUnsaved, recordToSave, bundleName]
  | some info =>
      cases accepted with
      | true =>
          have atomic := isAtomic_of_accepted mutator mgr record
          cases mutator <;> simp_all [AtomicWhen]
      | false =>
          rw [isAtomic_of_refused_iff mutator mgr record]
          cases mutator <;>
            simp [AtomicWhen, ignoresRefusal, isInPlace, bundleName, record,
              @eq_comm _ (some info)]

end Mutator

end AppExecFwk
