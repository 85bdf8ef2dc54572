import AppExecFwk.Store.Atomicity

/-!
# What a call does to the records

Any clients may call the bundle data manager in any order.  Whatever the call,
its effect on the records in memory and in the storage is one of five, and only
one call moves a bundle from state to state.
-/

namespace AppExecFwk

open CommandProgram

/-- The bundle data manager as a system of its own. -/
def bundleStore : System StoreCommand StoreCommand.Result where
  World := BundleDataMgr
  Answer _ := Bool
  perform := StoreCommand.perform

/-- What a call does to the records in memory and in the storage. -/
inductive RecordEffect where
  | nothing
  /-- Memory alone gets the record. -/
  | changes (bundleName : String) (info : InnerBundleInfo)
  /-- Both get the record. -/
  | saves (bundleName : String) (info : InnerBundleInfo)
  /-- The storage alone gets the record. -/
  | marks (info : InnerBundleInfo)
  /-- Memory drops the record, and so does a storage that accepts. -/
  | forgets (bundleName : String) (info : InnerBundleInfo) (accepted : Bool)

namespace RecordEffect

/-- The store an effect leaves behind, as far as the records go. -/
def infos (mgr : BundleDataMgr) : RecordEffect → StringMap InnerBundleInfo
  | nothing | marks _ => mgr.bundleInfos
  | changes bundleName info | saves bundleName info =>
      mgr.bundleInfos.insert bundleName info
  | forgets bundleName _ _ => mgr.bundleInfos.erase bundleName

def stored (mgr : BundleDataMgr) : RecordEffect → StringMap Json
  | nothing | changes _ _ => mgr.dataStorage
  | saves _ info | marks info =>
      mgr.dataStorage.insert info.getBundleName info.toJson
  | forgets _ info accepted =>
      if accepted then mgr.dataStorage.erase info.getBundleName
      else mgr.dataStorage

end RecordEffect

namespace BundleDataMgr

variable (mgr : BundleDataMgr)

/-- No installer is working on the bundle. -/
def IsQuiet (bundleName : String) : Prop :=
  mgr.installStates[bundleName]? = none ∨
    mgr.installStates[bundleName]? = some .installSuccess

/-- The effect of a change that is made in place. -/
def inPlaceEffect (bundleName : String)
    (change : InnerBundleInfo → InnerBundleInfo) (accepted : Bool) :
    RecordEffect :=
  match mgr.bundleInfos[bundleName]? with
  | none => .nothing
  | some info =>
      if accepted then .saves bundleName (change info)
      else .changes bundleName (change info)

/-- The effect of a mutator. -/
def mutatorEffect (mutator : Mutator) (accepted : Bool) : RecordEffect :=
  match mutator.recordToSave mgr with
  | none => .nothing
  | some info =>
      if accepted then .saves mutator.bundleName info
      else if mutator.isInPlace then .changes mutator.bundleName info
      else .nothing

end BundleDataMgr

/-- What a call does to the records. -/
def StoreCommand.effect (mgr : BundleDataMgr) (accepted : Bool) :
    StoreCommand → RecordEffect
  | getInnerBundleInfo bundleName | disableBundle bundleName =>
      if bundleName = "" then .nothing
      else mgr.inPlaceEffect bundleName (·.setBundleStatus .disabled) false
  | enableBundle bundleName =>
      if bundleName = "" then .nothing
      else mgr.inPlaceEffect bundleName (·.setBundleStatus .enabled) false
  | updateBundleInstallState bundleName state =>
      match mgr.bundleInfos[bundleName]? with
      | none => .nothing
      | some info =>
          if mgr.mayEnter bundleName state && state.isDeleteDataState &&
              state ≠ .installFail then .forgets bundleName info accepted
          else .nothing
  | addInnerBundleInfo bundleName info =>
      mgr.mutatorEffect (.addInnerBundleInfo bundleName info) accepted
  | saveNewInfoToDB bundleName info time =>
      if bundleName ≠ "" ∧
          mgr.bundleInfos.contains info.getDBKeyBundleName = false ∧
          accepted then
        .saves info.getDBKeyBundleName
          (info.setBundleInstallTime time unspecifiedUserId)
      else .nothing
  | addNewModuleInfo bundleName newInfo oldInfo =>
      mgr.mutatorEffect (.addNewModuleInfo bundleName newInfo oldInfo) accepted
  | removeModuleInfo bundleName modulePackage oldInfo =>
      mgr.mutatorEffect (.removeModuleInfo bundleName modulePackage oldInfo)
        accepted
  | updateInnerBundleInfo bundleName newInfo oldInfo =>
      mgr.mutatorEffect (.updateInnerBundleInfo bundleName newInfo oldInfo)
        accepted
  | addInnerBundleUserInfo bundleName newUserInfo =>
      mgr.mutatorEffect (.addInnerBundleUserInfo bundleName newUserInfo)
        accepted
  | removeInnerBundleUserInfo bundleName userId =>
      mgr.mutatorEffect (.removeInnerBundleUserInfo bundleName userId) accepted
  | saveInnerBundleInfo info => if accepted then .marks info else .nothing
  | setApplicationEnabled bundleName isEnable userId callingUserId =>
      if bundleName = "" ∨
          mgr.getUserId userId callingUserId = invalidUserId then .nothing
      else mgr.inPlaceEffect bundleName
        (·.setApplicationEnabled isEnable (mgr.getUserId userId callingUserId))
        false
  | setAbilityEnabled bundleName moduleName abilityName isEnabled userId
      callingUserId =>
      if mgr.getUserId userId callingUserId = invalidUserId then .nothing
      else
        match (mgr.bundleInfos[bundleName]?).bind
          (·.setAbilityEnabled bundleName moduleName abilityName isEnabled
            (mgr.getUserId userId callingUserId)) with
        | none => .nothing
        | some info => .changes bundleName info
  | storeSandboxPersistentInfo bundleName info =>
      if bundleName = "" then .nothing
      else mgr.inPlaceEffect bundleName (·.addSandboxPersistentInfo info)
        accepted
  | deleteSandboxPersistentInfo bundleName info =>
      if bundleName = "" then .nothing
      else mgr.inPlaceEffect bundleName (·.removeSandboxPersistentInfo info)
        accepted
  | removeClonedBundleInfo bundleName =>
      match mgr.bundleInfos[bundleName]? with
      | none => .nothing
      | some info => if accepted then .forgets bundleName info true else .nothing
  | hasUserId _ | addUserId _ | removeUserId _ | generateUidAndGid _
  | recycleUidAndGid _ | getClonedBundleName _ | getAllUriPrefix _ _
  | getPreInstallBundleInfo _ | savePreInstallBundleInfo _ => .nothing

/-- A store has the records an effect on another one leaves behind. -/
def RecordEffect.Leads (effect : RecordEffect) (before after : BundleDataMgr) :
    Prop :=
  after.bundleInfos = effect.infos before ∧
    after.dataStorage = effect.stored before

namespace BundleDataMgr

variable (mgr : BundleDataMgr)

theorem changeInPlace_leads (bundleName : String)
    (change : InnerBundleInfo → InnerBundleInfo) (accepted : Bool) :
    (mgr.inPlaceEffect bundleName change accepted).Leads mgr
      (mgr.changeInPlace bundleName change accepted).2 := by
  unfold inPlaceEffect changeInPlace RecordEffect.Leads
  cases mgr.bundleInfos[bundleName]? with
  | none => exact ⟨rfl, rfl⟩
  | some info => cases accepted <;> exact ⟨rfl, rfl⟩

theorem setStatus_leads (bundleName : String) (status : BundleStatus) :
    (if bundleName = "" then RecordEffect.nothing
      else mgr.inPlaceEffect bundleName (·.setBundleStatus status) false).Leads
      mgr (mgr.setStatus bundleName status).2 := by
  unfold setStatus
  split
  · exact ⟨rfl, rfl⟩
  · unfold inPlaceEffect RecordEffect.Leads
    cases mgr.bundleInfos[bundleName]? <;> exact ⟨rfl, rfl⟩

theorem mutator_leads (mutator : Mutator) (accepted : Bool) :
    (mgr.mutatorEffect mutator accepted).Leads mgr
      (mutator.apply mgr accepted).2 := by
  unfold mutatorEffect RecordEffect.Leads
  cases record : mutator.recordToSave mgr with
  | none =>
      rw [mutator.apply_of_none mgr accepted record]
      exact ⟨rfl, rfl⟩
  | some info =>
      cases accepted with
      | true =>
          rw [mutator.apply_of_accepted mgr record]
          exact ⟨rfl, rfl⟩
      | false =>
          rw [mutator.apply_of_refused mgr record]
          cases mutator <;> exact ⟨rfl, rfl⟩

theorem updateBundleInstallState_leads (bundleName : String)
    (state : InstallState) (accepted : Bool) :
    ((StoreCommand.updateBundleInstallState bundleName state).effect mgr
      accepted).Leads mgr
      (mgr.updateBundleInstallState bundleName state accepted).2 := by
  simp only [StoreCommand.effect, RecordEffect.Leads]
  cases enters : mgr.mayEnter bundleName state with
  | false =>
      rw [mgr.updateBundleInstallState_of_not_mayEnter accepted enters]
      cases mgr.bundleInfos[bundleName]? <;> split <;> exact ⟨rfl, rfl⟩
  | true =>
      rw [mgr.updateBundleInstallState_of_mayEnter accepted enters]
      cases deletes : state.isDeleteDataState with
      | false =>
          cases mgr.bundleInfos[bundleName]? <;>
            simp [RecordEffect.infos, RecordEffect.stored]
      | true =>
          by_cases failed : state = .installFail
          · cases mgr.bundleInfos[bundleName]? <;>
              simp [failed, deleteBundleInfo, RecordEffect.infos,
                RecordEffect.stored]
          · cases present : mgr.bundleInfos[bundleName]? with
            | none =>
                simp [failed, deleteBundleInfo, present, RecordEffect.infos,
                  RecordEffect.stored]
            | some info =>
                cases accepted <;>
                  simp [failed, deleteBundleInfo, present, RecordEffect.infos,
                    RecordEffect.stored, deleteStorageBundleInfo]

theorem generateUidAndGid_frame (userInfo : InnerBundleUserInfo) :
    (mgr.generateUidAndGid userInfo).2.bundleInfos = mgr.bundleInfos ∧
      (mgr.generateUidAndGid userInfo).2.dataStorage = mgr.dataStorage ∧
      (mgr.generateUidAndGid userInfo).2.installStates =
        mgr.installStates := by
  unfold generateUidAndGid
  grind

theorem saveNewInfoToDB_leads (bundleName : String) (info : InnerBundleInfo)
    (time : Int64) (accepted : Bool) :
    ((StoreCommand.saveNewInfoToDB bundleName info time).effect mgr
      accepted).Leads mgr
      ((StoreCommand.saveNewInfoToDB bundleName info time).perform accepted
        mgr).2 := by
  simp only [StoreCommand.effect, StoreCommand.perform, saveNewInfoToDB,
    saveStorageBundleInfo, putInfo, RecordEffect.Leads]
  by_cases unnamed : bundleName = ""
  · simp [unnamed, RecordEffect.infos, RecordEffect.stored]
  · cases taken : mgr.bundleInfos.contains info.getDBKeyBundleName <;>
      cases accepted <;>
        simp [unnamed, taken, RecordEffect.infos, RecordEffect.stored]
    rfl

theorem setApplicationEnabled_leads (bundleName : String) (isEnable : Bool)
    (userId callingUserId : Int32) (accepted : Bool) :
    ((StoreCommand.setApplicationEnabled bundleName isEnable userId
      callingUserId).effect mgr accepted).Leads mgr
      (mgr.setApplicationEnabled bundleName isEnable userId
        callingUserId).2 := by
  simp only [StoreCommand.effect, setApplicationEnabled, inPlaceEffect,
    RecordEffect.Leads]
  cases mgr.bundleInfos[bundleName]? <;>
    grind [RecordEffect.infos, RecordEffect.stored, putInfo]

theorem setAbilityEnabled_leads (bundleName moduleName abilityName : String)
    (isEnabled : Bool) (userId callingUserId : Int32) (accepted : Bool) :
    ((StoreCommand.setAbilityEnabled bundleName moduleName abilityName isEnabled
      userId callingUserId).effect mgr accepted).Leads mgr
      (mgr.setAbilityEnabled bundleName moduleName abilityName isEnabled userId
        callingUserId).2 := by
  simp only [StoreCommand.effect, setAbilityEnabled, RecordEffect.Leads]
  cases mgr.bundleInfos[bundleName]? <;>
    grind [RecordEffect.infos, RecordEffect.stored, putInfo]

theorem removeClonedBundleInfo_leads (bundleName : String) (accepted : Bool) :
    ((StoreCommand.removeClonedBundleInfo bundleName).effect mgr
      accepted).Leads mgr
      (mgr.removeClonedBundleInfo bundleName accepted).2 := by
  simp only [StoreCommand.effect, removeClonedBundleInfo,
    deleteStorageBundleInfo, RecordEffect.Leads]
  cases mgr.bundleInfos[bundleName]? <;> cases accepted <;>
    simp [RecordEffect.infos, RecordEffect.stored]

theorem changeSandboxPersistentInfo_leads (bundleName : String)
    (change : InnerBundleInfo → InnerBundleInfo) (accepted : Bool) :
    (if bundleName = "" then RecordEffect.nothing
      else mgr.inPlaceEffect bundleName change accepted).Leads mgr
      (mgr.changeSandboxPersistentInfo bundleName change accepted) := by
  unfold changeSandboxPersistentInfo
  split
  · exact ⟨rfl, rfl⟩
  · exact mgr.changeInPlace_leads bundleName change accepted

end BundleDataMgr

/-- Every call has its effect, and no other, on the records. -/
theorem StoreCommand.perform_leads (command : StoreCommand) (accepted : Bool)
    (mgr : BundleDataMgr) :
    (command.effect mgr accepted).Leads mgr (command.perform accepted mgr).2 := by
  cases command with
  | getInnerBundleInfo bundleName | disableBundle bundleName =>
      exact mgr.setStatus_leads bundleName .disabled
  | enableBundle bundleName => exact mgr.setStatus_leads bundleName .enabled
  | updateBundleInstallState bundleName state =>
      exact mgr.updateBundleInstallState_leads bundleName state accepted
  | addInnerBundleInfo bundleName info =>
      exact mgr.mutator_leads (.addInnerBundleInfo bundleName info) accepted
  | saveNewInfoToDB bundleName info time =>
      exact mgr.saveNewInfoToDB_leads bundleName info time accepted
  | addNewModuleInfo bundleName newInfo oldInfo =>
      exact mgr.mutator_leads (.addNewModuleInfo bundleName newInfo oldInfo)
        accepted
  | removeModuleInfo bundleName modulePackage oldInfo =>
      exact mgr.mutator_leads
        (.removeModuleInfo bundleName modulePackage oldInfo) accepted
  | updateInnerBundleInfo bundleName newInfo oldInfo =>
      exact mgr.mutator_leads
        (.updateInnerBundleInfo bundleName newInfo oldInfo) accepted
  | addInnerBundleUserInfo bundleName newUserInfo =>
      exact mgr.mutator_leads (.addInnerBundleUserInfo bundleName newUserInfo)
        accepted
  | removeInnerBundleUserInfo bundleName userId =>
      exact mgr.mutator_leads (.removeInnerBundleUserInfo bundleName userId)
        accepted
  | saveInnerBundleInfo info => cases accepted <;> exact ⟨rfl, rfl⟩
  | setApplicationEnabled bundleName isEnable userId callingUserId =>
      exact mgr.setApplicationEnabled_leads bundleName isEnable userId
        callingUserId accepted
  | setAbilityEnabled bundleName moduleName abilityName isEnabled userId
      callingUserId =>
      exact mgr.setAbilityEnabled_leads bundleName moduleName abilityName
        isEnabled userId callingUserId accepted
  | storeSandboxPersistentInfo bundleName info =>
      exact mgr.changeSandboxPersistentInfo_leads bundleName _ accepted
  | deleteSandboxPersistentInfo bundleName info =>
      exact mgr.changeSandboxPersistentInfo_leads bundleName _ accepted
  | removeClonedBundleInfo bundleName =>
      exact mgr.removeClonedBundleInfo_leads bundleName accepted
  | generateUidAndGid userInfo =>
      have frame := mgr.generateUidAndGid_frame userInfo
      exact ⟨frame.1, frame.2.1⟩
  | recycleUidAndGid info =>
      exact ⟨mgr.recycleUidAndGid_bundleInfos info,
        mgr.recycleUidAndGid_dataStorage info⟩
  | savePreInstallBundleInfo info => cases accepted <;> exact ⟨rfl, rfl⟩
  | hasUserId userId | addUserId userId | removeUserId userId
  | getClonedBundleName bundleName | getAllUriPrefix userId excludeModule
  | getPreInstallBundleInfo bundleName => exact ⟨rfl, rfl⟩

/-- Only one call moves bundles from state to state. -/
theorem StoreCommand.perform_installStates (command : StoreCommand)
    (accepted : Bool) (mgr : BundleDataMgr)
    (other : ∀ bundleName state,
      command ≠ .updateBundleInstallState bundleName state) :
    (command.perform accepted mgr).2.installStates = mgr.installStates := by
  cases command with
  | updateBundleInstallState bundleName state =>
      exact absurd rfl (other bundleName state)
  | generateUidAndGid userInfo => exact (mgr.generateUidAndGid_frame userInfo).2.2
  | recycleUidAndGid info => exact mgr.recycleUidAndGid_installStates info
  | hasUserId userId | addUserId userId | removeUserId userId
  | getClonedBundleName bundleName | getAllUriPrefix userId excludeModule
  | getPreInstallBundleInfo bundleName => rfl
  | _ =>
      simp only [StoreCommand.perform, BundleDataMgr.getInnerBundleInfo,
        BundleDataMgr.disableBundle, BundleDataMgr.enableBundle,
        BundleDataMgr.setStatus, BundleDataMgr.putInfo,
        BundleDataMgr.addInnerBundleInfo, BundleDataMgr.saveStorageBundleInfo,
        BundleDataMgr.saveNewInfoToDB, BundleDataMgr.addNewModuleInfo,
        BundleDataMgr.removeModuleInfo, BundleDataMgr.updateInnerBundleInfo,
        BundleDataMgr.addInnerBundleUserInfo, BundleDataMgr.changeInPlace,
        BundleDataMgr.removeInnerBundleUserInfo,
        BundleDataMgr.saveInnerBundleInfo, BundleDataMgr.setApplicationEnabled,
        BundleDataMgr.setAbilityEnabled,
        BundleDataMgr.storeSandboxPersistentInfo,
        BundleDataMgr.deleteSandboxPersistentInfo,
        BundleDataMgr.changeSandboxPersistentInfo, BundleDataMgr.addUserId,
        BundleDataMgr.removeUserId, BundleDataMgr.removeClonedBundleInfo,
        BundleDataMgr.deleteStorageBundleInfo,
        BundleDataMgr.savePreInstallBundleInfo]
      grind [BundleDataMgr.recycleUidAndGid_installStates]

namespace InnerBundleInfo

variable (info : InnerBundleInfo)

@[simp]
theorem setBundleStatus_getBundleName (status : BundleStatus) :
    (info.setBundleStatus status).getBundleName = info.getBundleName :=
  rfl

@[simp]
theorem addInnerBundleUserInfo_getBundleName
    (userInfo : InnerBundleUserInfo) :
    (info.addInnerBundleUserInfo userInfo).getBundleName =
      info.getBundleName :=
  rfl

@[simp]
theorem deleteModuleRemovable_getBundleName (moduleName : String)
    (userId : Int32) :
    (info.deleteModuleRemovable moduleName userId).getBundleName =
      info.getBundleName := by
  unfold deleteModuleRemovable modifyModuleNamed
  split <;> rfl

@[simp]
theorem removeInnerBundleUserInfo_getBundleName (userId : Int32) :
    (info.removeInnerBundleUserInfo userId).getBundleName =
      info.getBundleName := by
  have removals (names : List String) (start : InnerBundleInfo) :
      (names.foldl (fun rest moduleName =>
        rest.deleteModuleRemovable moduleName userId) start).getBundleName =
        start.getBundleName := by
    induction names generalizing start with
    | nil => rfl
    | cons moduleName rest ih => rw [List.foldl_cons, ih]; simp
  unfold removeInnerBundleUserInfo
  simp only
  split
  · rw [removals]; rfl
  · rfl

@[simp]
theorem removeModuleInfo_getBundleName (modulePackage : String) :
    (info.removeModuleInfo modulePackage).getBundleName =
      info.getBundleName := by
  unfold removeModuleInfo
  split <;> rfl

theorem setAbilityEnabled_getBundleName {changed : InnerBundleInfo}
    {bundleName moduleName abilityName : String} {isEnabled : Bool}
    {userId : Int32}
    (switched : info.setAbilityEnabled bundleName moduleName abilityName
      isEnabled userId = some changed) :
    changed.getBundleName = info.getBundleName := by
  unfold setAbilityEnabled at switched
  grind [getBundleName]

end InnerBundleInfo

end AppExecFwk
