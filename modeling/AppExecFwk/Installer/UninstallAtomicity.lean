import AppExecFwk.Installer.BundleUninstall
import AppExecFwk.Store.RecordEffect

/-!
# Uninstalling, all or nothing

An uninstallation that fails should leave the bundle as it was, and one that
succeeds should leave nothing of what was to go.  By design a bundle is given up
when a directory that goes with its last user cannot be removed: the error is
returned and the bundle is gone.  This file says what all of that means in the
store and finds out at which steps it depends on the storage.
-/

namespace AppExecFwk

open CommandProgram

/-- What a record says about a user apart from the switches, which the storage
of the records does not follow. -/
def InnerBundleUserInfo.identity (user : InnerBundleUserInfo) :
    InnerBundleUserInfo :=
  { user with bundleUserInfo := { userId := user.bundleUserInfo.userId } }

namespace InnerBundleInfo

/-- The users of a record. -/
def identities (info : InnerBundleInfo) : StringMap InnerBundleUserInfo :=
  info.innerBundleUserInfos.map fun _ user => user.identity

/-- The modules of a record apart from what users may remove. -/
def bareModules (info : InnerBundleInfo) : StringMap InnerModuleInfo :=
  info.innerModuleInfos.map fun _ module => { module with isRemovable := ∅ }

/-- Two records of the same modules and users. -/
def SameContents (info other : InnerBundleInfo) : Prop :=
  info.innerModuleInfos = other.innerModuleInfos ∧
    info.identities = other.identities

/-- The record of the same bundle without one of its users. -/
def LacksUser (userId : Int32) (other info : InnerBundleInfo) : Prop :=
  info.bareModules = other.bareModules ∧
    info.identities = other.identities.erase
      (nameAndUserIdToKey other.getBundleName userId)

/-- The record of the same bundle without one of its modules. -/
def LacksModule (modulePackage : String) (other info : InnerBundleInfo) : Prop :=
  info.innerModuleInfos = other.innerModuleInfos.erase modulePackage ∧
    info.identities = other.identities

end InnerBundleInfo

namespace BundleDataMgr

variable (mgr : BundleDataMgr) (bundleName : String)

/-- Memory and the storage have a record of the bundle of that kind. -/
def Holds (isRight : InnerBundleInfo → Prop) : Prop :=
  (∃ info, mgr.bundleInfos[bundleName]? = some info ∧ isRight info) ∧
    ∃ info : InnerBundleInfo,
      mgr.dataStorage[bundleName]? = some info.toJson ∧ isRight info

/-- The bundle is as it was and can be uninstalled. -/
def IsRestored (info : InnerBundleInfo) : Prop :=
  mgr.Holds bundleName (·.SameContents info) ∧
    mgr.mayEnter bundleName .uninstallStart = true

/-- Nothing is left of the bundle. -/
def IsRemoved : Prop :=
  mgr.bundleInfos[bundleName]? = none ∧ mgr.dataStorage[bundleName]? = none ∧
    ∀ bundleId : Int32, mgr.bundleIdMap[bundleId]? ≠ some bundleName

/-- An installed bundle: its record is kept under its name, in memory and in the
storage, and no operation is under way. -/
structure IsInstalled (info : InnerBundleInfo) : Prop where
  name : info.getBundleName = bundleName
  present : mgr.bundleInfos[bundleName]? = some info
  stored : ∃ stored : InnerBundleInfo,
    mgr.dataStorage[bundleName]? = some stored.toJson ∧ stored.SameContents info
  ready : mgr.mayEnter bundleName .uninstallStart = true

end BundleDataMgr

/-- Whether the request, for a whole bundle or for one module, takes everything
a user has of the bundle. -/
def takesAll (modulePackage : Option String) (info : InnerBundleInfo) : Bool :=
  modulePackage.all info.isOnlyModule

/-- What was asked for is gone, and the rest is there. -/
def IsUninstalled (bundleName : String) (modulePackage : Option String)
    (userId : Int32) (info : InnerBundleInfo) (mgr : BundleDataMgr) : Prop :=
  if takesAll modulePackage info then
    if info.innerBundleUserInfos.size = 1 then mgr.IsRemoved bundleName
    else mgr.Holds bundleName (InnerBundleInfo.LacksUser userId info)
  else
    mgr.Holds bundleName
      (InnerBundleInfo.LacksModule (modulePackage.getD "") info)

/-- An uninstallation that ended with `result` did everything or nothing. -/
def IsAllOrNothing (bundleName : String) (modulePackage : Option String)
    (userId : Int32) (info : InnerBundleInfo) (result : ErrCode)
    (mgr : BundleDataMgr) : Prop :=
  (result ≠ .ok → mgr.IsRestored bundleName info) ∧
    (result = .ok → IsUninstalled bundleName modulePackage userId info mgr)

/-- An uninstallation that ended with `result` did everything or nothing, or has
given the bundle up with its last user. -/
def IsSettled (bundleName : String) (modulePackage : Option String)
    (userId : Int32) (info : InnerBundleInfo) (result : ErrCode)
    (mgr : BundleDataMgr) : Prop :=
  (result ≠ .ok → mgr.IsRestored bundleName info ∨
    takesAll modulePackage info = true ∧ info.innerBundleUserInfos.size = 1 ∧
      mgr.IsRemoved bundleName) ∧
    (result = .ok → IsUninstalled bundleName modulePackage userId info mgr)

/-- The only id a bundle holds is that of its first user. -/
def BundleDataMgr.HasOwnId (mgr : BundleDataMgr) (bundleName : String) : Prop :=
  ∀ bundleId : Int32, mgr.bundleIdMap[bundleId]? = some bundleName →
    ∃ info user, mgr.bundleInfos[bundleName]? = some info ∧
      info.innerBundleUserInfos.begin? = some user ∧
      bundleId = user.uid - user.bundleUserInfo.userId * baseUserRange

/-- What the steps of an uninstallation have to be like.  The storage saves what
a user or a module less has left and lets go what is gone; for a whole bundle it
also saves the mark.  The data of one user of several can be removed once the
state says that something is going. -/
def Obeyed (bundleName : String) (modulePackage : Option String)
    (step : Step bundleService) : Prop :=
  match step with
  | ⟨.store (.saveInnerBundleInfo _), _, accepted⟩ =>
      modulePackage = none → accepted = true
  | ⟨.store (.removeInnerBundleUserInfo _ _), _, accepted⟩ => accepted = true
  | ⟨.store (.removeModuleInfo _ _ _), _, accepted⟩ => accepted = true
  | ⟨.store (.updateBundleInstallState _ .uninstallSuccess), world, accepted⟩
  | ⟨.store (.updateBundleInstallState _ .uninstallFail), world, accepted⟩ =>
      (accepted = true ∨ world.dataMgr.dataStorage[bundleName]? = none) ∧
        world.dataMgr.HasOwnId bundleName
  | ⟨.external (.removeBundleDataDir _ _), world, reply⟩ =>
      world.dataMgr.installStates[bundleName]? = some .uninstallStart →
        (∃ info, world.dataMgr.bundleInfos[bundleName]? = some info ∧
          info.innerBundleUserInfos.size ≠ 1) → reply = ErrCode.ok
  | _ => True

/-- A directory cannot be removed. -/
def refusesDirectory (step : Step bundleService) : Bool :=
  match step with
  | ⟨.external (.removeDir _), _, reply⟩
  | ⟨.external (.removeBundleDataDir _ _), _, reply⟩ => reply ≠ ErrCode.ok
  | _ => false

/-- Uninstall a bundle, or one module of it. -/
def uninstall (bundleName : String) (modulePackage : Option String)
    (param : InstallParam) : Operation ErrCode :=
  match modulePackage with
  | none => BaseBundleInstaller.processBundleUninstall bundleName param
  | some modulePackage =>
      BaseBundleInstaller.processModuleUninstall bundleName modulePackage param

namespace InnerBundleInfo

variable {info : InnerBundleInfo}

theorem identities_erase (info : InnerBundleInfo) (key : String) :
    ({ info with
      innerBundleUserInfos := info.innerBundleUserInfos.erase key }
      : InnerBundleInfo).identities = info.identities.erase key := by
  apply Std.ExtTreeMap.ext_getElem?
  intro other
  simp only [identities, Std.ExtTreeMap.getElem?_map,
    Std.ExtTreeMap.getElem?_erase]
  split <;> rfl

theorem deleteModuleRemovable_bareModules (moduleName : String)
    (userId : Int32) :
    (info.deleteModuleRemovable moduleName userId).bareModules =
      info.bareModules := by
  unfold deleteModuleRemovable modifyModuleNamed
  split
  · rfl
  · apply Std.ExtTreeMap.ext_getElem?
    intro key
    simp only [bareModules, Std.ExtTreeMap.getElem?_map,
      Std.ExtTreeMap.getElem?_modify]
    split
    · rename_i equal
      cases Std.LawfulEqCmp.eq_of_compare equal
      simp [Function.comp_def]
    · rfl

theorem deleteModuleRemovable_identities (moduleName : String)
    (userId : Int32) :
    (info.deleteModuleRemovable moduleName userId).identities =
      info.identities := by
  unfold deleteModuleRemovable modifyModuleNamed
  split <;> rfl

theorem foldl_deleteModuleRemovable (userId : Int32)
    (moduleNames : List String) :
    let left := moduleNames.foldl
      (fun rest moduleName => rest.deleteModuleRemovable moduleName userId) info
    left.bareModules = info.bareModules ∧ left.identities = info.identities := by
  induction moduleNames generalizing info with
  | nil => exact ⟨rfl, rfl⟩
  | cons moduleName rest ih =>
      have later := @ih (info.deleteModuleRemovable moduleName userId)
      rw [deleteModuleRemovable_bareModules,
        deleteModuleRemovable_identities] at later
      exact later

/-- The record that a removed user leaves. -/
theorem removeInnerBundleUserInfo_lacksUser {userId : Int32}
    (has : info.innerBundleUserInfos.contains
      (nameAndUserIdToKey info.getBundleName userId) = true) :
    LacksUser userId info (info.removeInnerBundleUserInfo userId) := by
  unfold removeInnerBundleUserInfo
  rw [if_pos has]
  obtain ⟨modules, users⟩ := @foldl_deleteModuleRemovable { info with
    innerBundleUserInfos := info.innerBundleUserInfos.erase
      (nameAndUserIdToKey info.getBundleName userId) } userId
    info.getModuleNames
  exact ⟨modules, users.trans (info.identities_erase _)⟩

/-- The record that a removed module leaves. -/
theorem removeModuleInfo_lacksModule (modulePackage : String) :
    LacksModule modulePackage info (info.removeModuleInfo modulePackage) := by
  cases present : info.innerModuleInfos[modulePackage]? with
  | none =>
      have same : info.removeModuleInfo modulePackage = info := by
        simp only [removeModuleInfo, present]
      rw [same]
      refine ⟨?_, rfl⟩
      apply Std.ExtTreeMap.ext_getElem?
      intro key
      rw [Std.ExtTreeMap.getElem?_erase]
      split
      · rename_i equal
        cases Std.LawfulEqCmp.eq_of_compare equal
        exact present
      · rfl
  | some module =>
      simp only [removeModuleInfo, present]
      exact ⟨rfl, rfl⟩

end InnerBundleInfo

namespace BundleDataMgr

/-- The record of the bundle is in memory, and what the installer is doing with
the bundle. -/
structure IsTracked (mgr : BundleDataMgr) (bundleName : String)
    (info : InnerBundleInfo) (state : InstallState) : Prop where
  named : bundleName ≠ ""
  name : info.getBundleName = bundleName
  present : ∃ status,
    mgr.bundleInfos[bundleName]? = some (info.setBundleStatus status)
  state : mgr.installStates[bundleName]? = some state

/-- The storage has the modules and the users of the record. -/
def IsStored (mgr : BundleDataMgr) (bundleName : String)
    (info : InnerBundleInfo) : Prop :=
  ∃ stored : InnerBundleInfo, mgr.dataStorage[bundleName]? = some stored.toJson ∧
    stored.SameContents info

variable {mgr : BundleDataMgr} {bundleName : String} {info : InnerBundleInfo}
  {state : InstallState}

theorem IsTracked.mayEnter (tracked : mgr.IsTracked bundleName info state)
    {next : InstallState} (allowed : state ∈ next.transferStates) :
    mgr.mayEnter bundleName next = true := by
  simp [BundleDataMgr.mayEnter, tracked.named, tracked.state, allowed]

theorem IsTracked.isRestored (tracked : mgr.IsTracked bundleName info state)
    (stored : mgr.IsStored bundleName info)
    (ready : state ∈ InstallState.uninstallStart.transferStates) :
    mgr.IsRestored bundleName info := by
  obtain ⟨status, present⟩ := tracked.present
  exact ⟨⟨⟨_, present, rfl, rfl⟩, stored⟩, tracked.mayEnter ready⟩

/-- A bundle of any name is enabled or disabled. -/
theorem IsTracked.setStatus (tracked : mgr.IsTracked bundleName info state)
    (other : String) (status : BundleStatus) :
    (mgr.setStatus other status).2.IsTracked bundleName info state := by
  obtain ⟨before, present⟩ := tracked.present
  refine ⟨tracked.named, tracked.name, ?_, by simp [tracked.state]⟩
  rw [setStatus_bundleInfos, present]
  split
  · exact ⟨status, rfl⟩
  · exact ⟨before, rfl⟩

/-- The state of a bundle changes to one in which it stays. -/
theorem IsTracked.updateBundleInstallState
    (tracked : mgr.IsTracked bundleName info state) {next : InstallState}
    (allowed : state ∈ next.transferStates)
    (stays : next.isDeleteDataState = false) (accepted : Bool) :
    mgr.updateBundleInstallState bundleName next accepted =
      (true, { mgr with
        installStates := mgr.installStates.insert bundleName next }) := by
  rw [mgr.updateBundleInstallState_of_mayEnter accepted
    (tracked.mayEnter allowed), stays]
  rfl

theorem IsTracked.withState (tracked : mgr.IsTracked bundleName info state)
    (next : InstallState) :
    ({ mgr with installStates := mgr.installStates.insert bundleName next }
      : BundleDataMgr).IsTracked bundleName info next :=
  ⟨tracked.named, tracked.name, tracked.present,
    Std.ExtTreeMap.getElem?_insert_self⟩

/-- No id of the bundle is left once that of its first user is given back, if
it has no other. -/
theorem recycleUidAndGid_frees
    (present : mgr.bundleInfos[bundleName]? = some info) :
    (∀ bundleId : Int32,
        (mgr.recycleUidAndGid info).bundleIdMap[bundleId]? ≠ some bundleName) ↔
      mgr.HasOwnId bundleName := by
  simp only [HasOwnId, present, Option.some.injEq, exists_and_left,
    exists_eq_left']
  refine forall_congr' fun bundleId => ?_
  unfold recycleUidAndGid
  cases first : info.innerBundleUserInfos.begin? with
  | none => simp
  | some user =>
      simp only [Std.ExtTreeMap.getElem?_erase]
      split
      · rename_i equal
        have own := Std.LawfulEqCmp.eq_of_compare equal
        simp [own]
      · rename_i other
        have foreign : bundleId ≠
            user.uid - user.bundleUserInfo.userId * baseUserRange := by
          rintro rfl
          exact other Std.ReflCmp.compare_self
        simp [foreign]

/-- What is left of a bundle that is deleted. -/
theorem deleteBundleInfo_isRemoved {mgr : BundleDataMgr}
    (present : mgr.bundleInfos[bundleName]? = some info)
    (name : info.getBundleName = bundleName) (kept : state ≠ .installFail)
    (accepted : Bool) :
    let result := mgr.deleteBundleInfo bundleName state accepted
    result.bundleInfos[bundleName]? = none ∧
      (result.IsRemoved bundleName ↔
        (accepted = true ∨ mgr.dataStorage[bundleName]? = none) ∧
          mgr.HasOwnId bundleName) := by
  have frees := recycleUidAndGid_frees present
  simp only [deleteBundleInfo, kept, present, ↓reduceIte]
  refine ⟨Std.ExtTreeMap.getElem?_erase_self, ?_⟩
  have storage : ((mgr.recycleUidAndGid info).deleteStorageBundleInfo info
      accepted).2.dataStorage[bundleName]? = none ↔
      accepted = true ∨ mgr.dataStorage[bundleName]? = none := by
    unfold deleteStorageBundleInfo
    cases accepted <;> simp [name]
  have ids : ((mgr.recycleUidAndGid info).deleteStorageBundleInfo info
      accepted).2.bundleIdMap = (mgr.recycleUidAndGid info).bundleIdMap := by
    unfold deleteStorageBundleInfo
    cases accepted <;> rfl
  simp only [IsRemoved, Std.ExtTreeMap.getElem?_erase_self, storage, ids,
    frees, true_and]

/-- The state of a bundle changes to one in which the bundle is deleted. -/
theorem IsTracked.delete (tracked : mgr.IsTracked bundleName info state)
    {next : InstallState} (allowed : state ∈ next.transferStates)
    (goes : next.isDeleteDataState = true) (kept : next ≠ .installFail)
    (accepted : Bool) :
    let result := mgr.updateBundleInstallState bundleName next accepted
    result.1 = true ∧ result.2.bundleInfos[bundleName]? = none ∧
      (result.2.IsRemoved bundleName ↔
        (accepted = true ∨ mgr.dataStorage[bundleName]? = none) ∧
          mgr.HasOwnId bundleName) := by
  obtain ⟨status, present⟩ := tracked.present
  rw [mgr.updateBundleInstallState_of_mayEnter accepted
    (tracked.mayEnter allowed), goes]
  exact ⟨rfl, @deleteBundleInfo_isRemoved bundleName _ next
    { mgr with installStates := mgr.installStates.erase bundleName } present
    tracked.name kept accepted⟩

end BundleDataMgr

namespace BundleDataMgr

variable {mgr : BundleDataMgr} {bundleName : String} {info : InnerBundleInfo}
  {isRight : InnerBundleInfo → Prop}

/-- A status does not change what a store holds. -/
theorem holds_setStatus (other : String) (status : BundleStatus)
    (unseen : ∀ info status, isRight (info.setBundleStatus status) ↔
      isRight info) :
    (mgr.setStatus other status).2.Holds bundleName isRight ↔
      mgr.Holds bundleName isRight := by
  simp only [Holds, setStatus_bundleInfos, setStatus_dataStorage]
  split
  · cases mgr.bundleInfos[bundleName]? <;> simp [unseen]
  · rfl

theorem isRestored_setStatus (other : String) (status : BundleStatus) :
    (mgr.setStatus other status).2.IsRestored bundleName info ↔
      mgr.IsRestored bundleName info := by
  simp only [IsRestored, mayEnter, setStatus_installStates]
  rw [holds_setStatus other status fun _ _ => Iff.rfl]

theorem isRemoved_setStatus (other : String) (status : BundleStatus) :
    (mgr.setStatus other status).2.IsRemoved bundleName ↔
      mgr.IsRemoved bundleName := by
  simp only [IsRemoved, setStatus_bundleInfos, setStatus_dataStorage,
    setStatus_bundleIdMap]
  split
  · simp
  · rfl

/-- Enabling or disabling bundles does not change what an uninstallation has
done. -/
theorem isSettled_setStatus {modulePackage : Option String}
    {userId : Int32} {result : ErrCode} (other : String)
    (status : BundleStatus) :
    IsSettled bundleName modulePackage userId info result
        (mgr.setStatus other status).2 ↔
      IsSettled bundleName modulePackage userId info result mgr := by
  simp only [IsSettled, IsUninstalled, isRestored_setStatus,
    isRemoved_setStatus]
  rw [holds_setStatus other status fun _ _ => Iff.rfl,
    holds_setStatus other status fun _ _ => Iff.rfl]

/-- A user is removed from memory, and from a storage that accepts. -/
theorem removeInnerBundleUserInfo_holds {state : InstallState}
    (tracked : mgr.IsTracked bundleName info state) {userId : Int32}
    (has : info.innerBundleUserInfos.contains
      (nameAndUserIdToKey info.getBundleName userId) = true) (accepted : Bool) :
    let result := mgr.removeInnerBundleUserInfo bundleName userId accepted
    result.1 = accepted ∧
      (accepted = true → result.2.Holds bundleName
        (InnerBundleInfo.LacksUser userId info)) ∧
      ¬result.2.Holds bundleName (·.SameContents info) := by
  obtain ⟨status, present⟩ := tracked.present
  have lacks : InnerBundleInfo.LacksUser userId info
      (((info.setBundleStatus status).removeInnerBundleUserInfo
        userId).setBundleStatus .enabled) :=
    @InnerBundleInfo.removeInnerBundleUserInfo_lacksUser
      (info.setBundleStatus status) userId has
  generalize left : ((info.setBundleStatus status).removeInnerBundleUserInfo
    userId).setBundleStatus .enabled = record at lacks
  have name : record.getBundleName = bundleName := by
    rw [← left, ← tracked.name]
    simp
  have result : mgr.removeInnerBundleUserInfo bundleName userId accepted =
      (mgr.putInfo bundleName record).saveStorageBundleInfo record accepted := by
    simp only [removeInnerBundleUserInfo, changeInPlace, present, left]
  have inMemory : (mgr.removeInnerBundleUserInfo bundleName userId
      accepted).2.bundleInfos[bundleName]? = some record := by
    rw [result]
    unfold saveStorageBundleInfo
    cases accepted <;> exact Std.ExtTreeMap.getElem?_insert_self
  refine ⟨?_, ?_, ?_⟩
  · rw [result]
    cases accepted <;> rfl
  · rintro rfl
    refine ⟨⟨record, inMemory, lacks⟩, record, ?_, lacks⟩
    rw [result, ← name]
    exact Std.ExtTreeMap.getElem?_insert_self
  · rintro ⟨⟨other, otherPresent, same⟩, -⟩
    rw [inMemory] at otherPresent
    cases otherPresent
    have erased := lacks.2.symm.trans same.2
    have absent : (info.identities.erase (nameAndUserIdToKey
        info.getBundleName userId)).contains (nameAndUserIdToKey
          info.getBundleName userId) = false := by simp
    rw [erased, InnerBundleInfo.identities, Std.ExtTreeMap.contains_map, has]
      at absent
    cases absent

end BundleDataMgr

section Runs

open BaseBundleInstaller BundleDataMgr

variable {bundleName : String} {modulePackage : Option String}
  {info copy : InnerBundleInfo} {world : World} {soFar : Prop}

/-- The directories that go with the last user can be removed or not. -/
theorem wpWhether_removeBundleAndDataDir
    (tracked : world.dataMgr.IsTracked bundleName info .uninstallStart)
    (single : info.innerBundleUserInfos.size = 1) (userId : Int32)
    (isKeepData : Bool) :
    wpWhether bundleService (Obeyed bundleName modulePackage)
      (removeBundleAndDataDir copy userId isKeepData)
      (fun _ after obeyed => after = world ∧ (obeyed ↔ soFar)) world soFar := by
  obtain ⟨status, present⟩ := tracked.present
  have dataDir (reply : ErrCode) : Obeyed bundleName modulePackage
      ⟨.external (.removeBundleDataDir copy.getBundleName userId), world,
        reply⟩ := by
    rintro - ⟨record, found, several⟩
    rw [present] at found
    cases found
    exact absurd single several
  unfold removeBundleAndDataDir removeBundleCodeDir removeBundleDataDir
  simp only [wpWhether_bind, wpWhether_request, Obeyed, and_true]
  intro reply
  split
  · exact ⟨rfl, Iff.rfl⟩
  cases isKeepData with
  | true => exact ⟨rfl, Iff.rfl⟩
  | false =>
      simp only [Bool.not_false, ↓reduceIte, wpWhether_request, dataDir,
        and_true]
      intro _
      trivial

/-- A bundle that is removed must be gone, whether or not its directories are. -/
theorem wpWhether_removeBundle
    (tracked : world.dataMgr.IsTracked bundleName info .uninstallStart)
    (single : info.innerBundleUserInfos.size = 1)
    (name : copy.getBundleName = bundleName) (userId : Int32)
    (isKeepData : Bool) :
    wpWhether bundleService (Obeyed bundleName modulePackage)
      (removeBundle copy userId isKeepData)
      (fun _ after obeyed => after.dataMgr.bundleInfos[bundleName]? = none ∧
        (obeyed ↔ soFar ∧ after.dataMgr.IsRemoved bundleName)) world soFar := by
  unfold removeBundle
  rw [wpWhether_bind]
  refine wpWhether_mono (wpWhether_removeBundleAndDataDir tracked single userId
    isKeepData) ?_
  rintro result after obeyed ⟨rfl, met⟩
  by_cases removed : result = ErrCode.ok
  · subst removed
    rw [if_neg (by simp), name, wpWhether_bind, wpWhether_store]
    intro accepted
    obtain ⟨returned, gone, isRemoved⟩ := @IsTracked.delete _ _ _ _ tracked
      .uninstallSuccess (by decide) (by decide) (by decide) accepted
    simp only [StoreCommand.perform, returned, Bool.not_true, Bool.false_eq_true,
      ↓reduceIte, wpWhether_bind, wpWhether_request, Program.pure_eq,
      wpWhether_ret, Obeyed, and_true, met, isRemoved]
    intro _
    exact gone
  · rw [if_pos removed, name, wpWhether_bind, wpWhether_store]
    intro accepted
    obtain ⟨-, gone, isRemoved⟩ := @IsTracked.delete _ _ _ _ tracked
      .uninstallFail (by decide) (by decide) (by decide) accepted
    simp only [StoreCommand.perform, Program.pure_eq, wpWhether_ret, Obeyed,
      met, isRemoved, and_true]
    exact gone

/-- What one user has of a bundle is removed; what happens to the data counts
once the state says that something is going. -/
theorem wpWhether_removeBundleUserData {state : InstallState} {userId : Int32}
    (tracked : world.dataMgr.IsTracked bundleName info state)
    (name : copy.getBundleName = bundleName)
    (users : copy.innerBundleUserInfos = info.innerBundleUserInfos)
    (real : userId ≠ allUserId)
    (has : info.innerBundleUserInfos.contains
      (nameAndUserIdToKey info.getBundleName userId) = true)
    (several : info.innerBundleUserInfos.size ≠ 1) (isKeepData : Bool) :
    wpWhether bundleService (Obeyed bundleName modulePackage)
      (removeBundleUserData copy userId isKeepData)
      (fun result after obeyed =>
        (result ≠ ErrCode.ok ∧ after = world ∧
          (obeyed ↔ soFar ∧ state ≠ .uninstallStart)) ∨
        (result = ErrCode.ok ∧
          after.dataMgr.Holds bundleName
            (InnerBundleInfo.LacksUser userId info) ∧ (obeyed ↔ soFar)) ∨
        result ≠ ErrCode.ok ∧
          ¬after.dataMgr.Holds bundleName (·.SameContents info) ∧ ¬obeyed)
      world soFar := by
  have here : copy.hasInnerBundleUserInfo userId = true := by
    rw [InnerBundleInfo.hasInnerBundleUserInfo, if_neg real, users, name,
      ← tracked.name]
    exact has
  have removal (soFar : Prop) :
      wpWhether bundleService (Obeyed bundleName modulePackage)
        (do
          let _ ← request (.deleteAccessTokenId (copy.getAccessTokenId userId))
          if !(← store (.removeInnerBundleUserInfo copy.getBundleName userId)) then
            return ErrCode.installBundleMgrServiceError
          return ErrCode.ok)
        (fun result after obeyed =>
          (result = ErrCode.ok ∧
            after.dataMgr.Holds bundleName
              (InnerBundleInfo.LacksUser userId info) ∧ (obeyed ↔ soFar)) ∨
          result ≠ ErrCode.ok ∧
            ¬after.dataMgr.Holds bundleName (·.SameContents info) ∧ ¬obeyed)
        world soFar := by
    simp only [wpWhether_bind, wpWhether_request, wpWhether_store, name, Obeyed,
      and_true, StoreCommand.perform]
    intro _ accepted
    obtain ⟨returned, lacks, changed⟩ :=
      removeInnerBundleUserInfo_holds tracked has accepted
    rw [returned]
    cases accepted with
    | true => exact .inl ⟨rfl, lacks rfl, by simp⟩
    | false => exact .inr ⟨by decide, changed, by simp⟩
  unfold removeBundleUserData removeBundleDataDir
  simp only [here, Bool.not_true, Bool.false_eq_true, ↓reduceIte]
  cases isKeepData with
  | true =>
      simp only [Bool.not_true, Bool.false_eq_true, ↓reduceIte]
      exact wpWhether_mono (removal soFar) fun _ _ _ done => .inr done
  | false =>
      simp only [Bool.not_false, ↓reduceIte, wpWhether_bind, wpWhether_request]
      intro reply
      by_cases removed : reply = ErrCode.ok
      · have obeyed : Obeyed bundleName modulePackage ⟨.external
            (.removeBundleDataDir copy.getBundleName userId), world, reply⟩ :=
          fun _ _ => removed
        rw [if_neg (not_not.mpr removed)]
        refine wpWhether_mono (removal _) ?_
        rintro result after met (⟨done, lacks, equal⟩ | failed)
        · exact .inr (.inl ⟨done, lacks, equal.trans (and_iff_left obeyed)⟩)
        · exact .inr (.inr failed)
      · rw [if_pos removed]
        refine .inl ⟨removed, rfl, ?_⟩
        obtain ⟨status, present⟩ := tracked.present
        have others : ∃ record, world.dataMgr.bundleInfos[bundleName]? =
            some record ∧ record.innerBundleUserInfos.size ≠ 1 :=
          ⟨_, present, several⟩
        simp only [Obeyed, tracked.state, Option.some.injEq, others, removed,
          forall_const, imp_false]

theorem wpWhether_killProcesses {noSkipsKill : Bool} {uid : Int32}
    {post : Bool → World → Prop → Prop}
    (either : ∀ killed, post killed world soFar) :
    wpWhether bundleService (Obeyed bundleName modulePackage)
      (killProcesses copy noSkipsKill uid) post world soFar := by
  unfold killProcesses
  cases noSkipsKill with
  | true => simpa [wpWhether_request, Obeyed] using either
  | false => simpa using either true

/-- A bundle that is being uninstalled cannot be uninstalled again. -/
theorem not_isRestored_of_started {mgr : BundleDataMgr}
    (started : mgr.installStates[bundleName]? = some .uninstallStart) :
    ¬mgr.IsRestored bundleName info := by
  rintro ⟨-, ready⟩
  simp [mayEnter, started, InstallState.transferStates] at ready

/-- The state of a bundle changes to one in which it stays. -/
theorem wpWhether_updateBundleInstallState {state next : InstallState}
    {post : Bool → World → Prop → Prop}
    (tracked : world.dataMgr.IsTracked bundleName info state)
    (allowed : state ∈ next.transferStates)
    (stays : next.isDeleteDataState = false)
    (entered : ∀ after : World, after.dataMgr.IsTracked bundleName info next →
      after.dataMgr.dataStorage = world.dataMgr.dataStorage →
      after.dataMgr.bundleInfos = world.dataMgr.bundleInfos →
      post true after soFar) :
    wpWhether bundleService (Obeyed bundleName modulePackage)
      (store (.updateBundleInstallState bundleName next)) post world soFar := by
  rw [wpWhether_store]
  intro accepted
  have harmless : Obeyed bundleName modulePackage
      ⟨.store (.updateBundleInstallState bundleName next), world, accepted⟩ := by
    cases next <;> trivial
  simp only [StoreCommand.perform, harmless, and_true,
    tracked.updateBundleInstallState allowed stays]
  exact entered { world with dataMgr := _ } (tracked.withState next) rfl rfl

/-- The mark of an uninstallation is written to the storage. -/
theorem wpWhether_saveInnerBundleInfo {state : InstallState}
    {post : Bool → World → Prop → Prop}
    (tracked : world.dataMgr.IsTracked bundleName info state)
    (name : copy.getBundleName = bundleName) (contents : copy.SameContents info)
    (accepted : ∀ after : World, after.dataMgr.IsTracked bundleName info state →
      after.dataMgr.IsStored bundleName info →
      after.dataMgr.bundleInfos = world.dataMgr.bundleInfos →
      post true after soFar)
    (refused : post false world (soFar ∧ modulePackage ≠ none)) :
    wpWhether bundleService (Obeyed bundleName modulePackage)
      (store (.saveInnerBundleInfo copy)) post world soFar := by
  rw [wpWhether_store]
  rintro (_ | _)
  · simpa [StoreCommand.perform, Obeyed, BundleDataMgr.saveInnerBundleInfo,
      saveStorageBundleInfo] using refused
  · have saved := accepted { world with
        dataMgr := { world.dataMgr with
          dataStorage := world.dataMgr.dataStorage.insert copy.getBundleName
            copy.toJson } }
      ⟨tracked.named, tracked.name, tracked.present, tracked.state⟩
      ⟨copy, by rw [name]; exact Std.ExtTreeMap.getElem?_insert_self, contents⟩
      rfl
    simpa [StoreCommand.perform, Obeyed, BundleDataMgr.saveInnerBundleInfo,
      saveStorageBundleInfo] using saved

/-- A bundle that has left memory must have left everything. -/
theorem isSettled_of_gone {mgr : BundleDataMgr} {userId : Int32}
    {result : ErrCode} (gone : mgr.bundleInfos[bundleName]? = none)
    (goes : takesAll modulePackage info = true)
    (single : info.innerBundleUserInfos.size = 1) :
    IsSettled bundleName modulePackage userId info result mgr ↔
      mgr.IsRemoved bundleName := by
  have lost : ¬mgr.IsRestored bundleName info := by
    rintro ⟨⟨⟨kept, present, -⟩, -⟩, -⟩
    rw [gone] at present
    cases present
  rw [IsSettled, IsUninstalled, if_pos goes, if_pos single]
  by_cases done : result = .ok <;> simp [done, lost, goes, single]

/-- A bundle that stays in the state of an uninstallation is neither restored nor
given up. -/
theorem not_isSettled_of_stuck {mgr : BundleDataMgr} {userId : Int32}
    {result : ErrCode}
    (stuck : mgr.IsTracked bundleName info .uninstallStart)
    (failed : result ≠ .ok) :
    ¬IsSettled bundleName modulePackage userId info result mgr := by
  intro settled
  obtain ⟨status, present⟩ := stuck.present
  rcases settled.1 failed with restored | ⟨-, -, gone, -⟩
  · exact not_isRestored_of_started stuck.state restored
  · rw [present] at gone
    cases gone

theorem wpWhether_uninstallOnlyUser {state : InstallState} {userId : Int32}
    (tracked : world.dataMgr.IsTracked bundleName info state)
    (ready : state ∈ InstallState.uninstallStart.transferStates)
    (stored : world.dataMgr.IsStored bundleName info)
    (name : copy.getBundleName = bundleName)
    (contents : copy.SameContents info)
    (single : info.innerBundleUserInfos.size = 1)
    (param : InstallParam) (uid : Int32) :
    wpWhether bundleService (Obeyed bundleName none)
      (uninstallOnlyUser bundleName param userId copy uid)
      (fun result after obeyed => obeyed ↔
        soFar ∧ IsSettled bundleName none userId info result after.dataMgr)
      world soFar := by
  unfold uninstallOnlyUser
  rw [wpWhether_bind]
  refine wpWhether_updateBundleInstallState tracked ready rfl ?_
  intro begun started sameStorage _
  rw [if_neg (by decide), wpWhether_bind]
  apply wpWhether_killProcesses
  intro killed
  cases killed with
  | false =>
      simp only [Bool.not_false, ↓reduceIte, wpWhether_bind]
      refine wpWhether_updateBundleInstallState started (by decide) rfl ?_
      intro ended restored sameLater _
      have storedStill : ended.dataMgr.IsStored bundleName info := by
        rwa [IsStored, sameLater, sameStorage]
      have holds := restored.isRestored storedStill (by decide)
      simp [IsSettled, holds, ErrCode.uninstallKillingAppError, ErrCode.ok]
  | true =>
      rw [if_neg (by decide), wpWhether_bind]
      refine wpWhether_saveInnerBundleInfo started name contents ?_ ?_
      · intro after marked stored _
        rw [if_neg (by decide)]
        refine wpWhether_mono (wpWhether_removeBundle marked single name userId
          param.isKeepData) ?_
        rintro result after obeyed ⟨gone, met⟩
        rw [met, isSettled_of_gone gone rfl single]
      · simp only [Bool.not_false, ↓reduceIte]
        have unsettled : ¬IsSettled bundleName none userId info
            ErrCode.installInternalError begun.dataMgr :=
          not_isSettled_of_stuck started (by decide)
        simp [unsettled]

/-- An uninstallation that has not begun leaves the bundle as it is. -/
theorem isSettled_of_restored {mgr : BundleDataMgr} {userId : Int32}
    {result : ErrCode} (restored : mgr.IsRestored bundleName info)
    (failed : result ≠ .ok) :
    IsSettled bundleName modulePackage userId info result mgr :=
  ⟨fun _ => .inl restored, fun done => absurd done failed⟩

/-- A failure after which the bundle is not what it was. -/
theorem isSettled_of_lost {mgr : BundleDataMgr} {userId : Int32}
    {result : ErrCode}
    (lost : ¬mgr.Holds bundleName (·.SameContents info))
    (several : info.innerBundleUserInfos.size ≠ 1) (failed : result ≠ .ok) :
    ¬IsSettled bundleName modulePackage userId info result mgr := by
  intro settled
  rcases settled.1 failed with restored | ⟨-, single, -⟩
  · exact lost restored.1
  · exact several single

theorem isSettled_of_userRemoved {mgr : BundleDataMgr} {userId : Int32}
    (goes : takesAll modulePackage info = true)
    (several : info.innerBundleUserInfos.size ≠ 1)
    (removed : mgr.Holds bundleName (InnerBundleInfo.LacksUser userId info)) :
    IsSettled bundleName modulePackage userId info .ok mgr := by
  refine ⟨fun failed => absurd rfl failed, fun _ => ?_⟩
  rw [IsUninstalled, if_pos goes, if_neg several]
  exact removed

/-- The information about a user is looked up under its key. -/
theorem getInnerBundleUserInfo_eq {userId : Int32} (real : 0 ≤ userId) :
    copy.getInnerBundleUserInfo userId = copy.innerBundleUserInfos[
      nameAndUserIdToKey copy.getBundleName userId]? := by
  have notNone : userId ≠ notExistUserId := by
    rintro rfl
    exact absurd real (by decide)
  have notAll : userId ≠ allUserId := by
    rintro rfl
    exact absurd real (by decide)
  rw [InnerBundleInfo.getInnerBundleUserInfo, if_neg notNone, if_neg notAll]

theorem wpWhether_uninstallCopied {state : InstallState} {userId : Int32}
    (tracked : world.dataMgr.IsTracked bundleName info state)
    (ready : state ∈ InstallState.uninstallStart.transferStates)
    (stored : world.dataMgr.IsStored bundleName info) (real : 0 ≤ userId)
    (param : InstallParam) :
    wpWhether bundleService (Obeyed bundleName none)
      (uninstallCopied bundleName param userId (info.setBundleStatus .disabled))
      (fun result after obeyed => obeyed ↔
        soFar ∧
          IsSettled bundleName none userId info result.1 after.dataMgr)
      world soFar := by
  have restored := tracked.isRestored stored ready
  unfold uninstallCopied
  rw [getInnerBundleUserInfo_eq real]
  split
  · exact (and_iff_left (isSettled_of_restored restored (by decide))).symm
  rename_i user present
  have has : info.innerBundleUserInfos.contains
      (nameAndUserIdToKey info.getBundleName userId) = true := by
    rw [Std.ExtTreeMap.contains_eq_isSome_getElem?]
    exact Option.isSome_of_mem present
  split
  · exact (and_iff_left (isSettled_of_restored restored (by decide))).symm
  rw [wpWhether_bind, wpWhether_store]
  intro accepted
  simp only [StoreCommand.perform, Obeyed, and_true]
  split
  · simp [wpWhether_bind, wpWhether_store]
  split
  · rename_i several
    rw [wpWhether_bind]
    have notAll : userId ≠ allUserId := by
      rintro rfl
      exact absurd real (by decide)
    have moreUsers : info.innerBundleUserInfos.size ≠ 1 := by
      intro one
      exact absurd several (by simp [InnerBundleInfo.setBundleStatus, one])
    refine wpWhether_mono (@wpWhether_removeBundleUserData _ _ _
      (info.setBundleStatus .disabled) _ _ _ _ tracked tracked.name rfl notAll
      has moreUsers param.isKeepData) ?_
    rintro result after obeyed
      (⟨failed, rfl, met⟩ | ⟨rfl, removed, met⟩ | ⟨failed, lost, unmet⟩)
    · have quiet : state ≠ .uninstallStart := by
        rintro rfl
        exact absurd ready (by decide)
      simp [met, quiet, isSettled_of_restored restored failed]
    · have whole : IsSettled bundleName none userId info .ok
          after.dataMgr :=
        isSettled_of_userRemoved rfl moreUsers removed
      exact met.trans (and_iff_left whole).symm
    · simp [unmet, isSettled_of_lost lost moreUsers failed]
  · rename_i few
    have single : info.innerBundleUserInfos.size = 1 := by
      have atMost : ¬info.innerBundleUserInfos.size > 1 := few
      have nonempty : info.innerBundleUserInfos.size ≠ 0 := by
        rw [Ne, ← Std.ExtTreeMap.eq_empty_iff_size_eq_zero]
        exact Std.ExtTreeMap.ne_empty_of_mem
          (Std.ExtTreeMap.contains_iff_mem.mp has)
      omega
    rw [wpWhether_bind]
    refine wpWhether_mono (@wpWhether_uninstallOnlyUser _ _
      (info.setBundleStatus .disabled) _ _ _ _ tracked ready stored tracked.name
      ⟨rfl, rfl⟩ single param _) ?_
    intro result after obeyed met
    exact met

theorem isTracked_of_isInstalled {mgr : BundleDataMgr}
    (installed : mgr.IsInstalled bundleName info) :
    ∃ state, mgr.IsTracked bundleName info state ∧
      state ∈ InstallState.uninstallStart.transferStates := by
  have ready := installed.ready
  simp only [mayEnter, Bool.and_eq_true, decide_eq_true_eq,
    Option.any_eq_true] at ready
  obtain ⟨named, state, present, allowed⟩ := ready
  exact ⟨state, ⟨named, installed.name, ⟨info.bundleStatus, installed.present⟩,
    present⟩, allowed⟩

/-- The record of a bundle is copied, which disables the bundle. -/
theorem getInnerBundleInfo_of_isTracked {mgr : BundleDataMgr}
    {state : InstallState} (tracked : mgr.IsTracked bundleName info state) :
    mgr.getInnerBundleInfo bundleName =
      (some (info.setBundleStatus .disabled),
        (mgr.setStatus bundleName .disabled).2) := by
  obtain ⟨status, present⟩ := tracked.present
  simp only [BundleDataMgr.getInnerBundleInfo, BundleDataMgr.setStatus,
    tracked.named, present, ↓reduceIte]
  rfl

/-- A user that may be meant is a real one. -/
theorem le_getUserId {userId : Int32}
    (valid : BaseBundleInstaller.getUserId userId ≠ invalidUserId) :
    0 ≤ userId ∧ BaseBundleInstaller.getUserId userId = userId := by
  unfold BaseBundleInstaller.getUserId at valid ⊢
  split at valid
  · exact absurd rfl valid
  · rename_i notBelow
    rw [if_neg notBelow]
    exact ⟨Int32.not_lt.mp notBelow, rfl⟩

/-- What the work on a copy does is what the operation does. -/
theorem wpWhether_workOnCopy {param : InstallParam}
    {work : Int32 → InnerBundleInfo → Operation (ErrCode × Bool)}
    (installed : world.dataMgr.IsInstalled bundleName info)
    (works : 0 ≤ param.userId → ∀ state, 
      state ∈ InstallState.uninstallStart.transferStates → ∀ mgr : BundleDataMgr,
      mgr = (world.dataMgr.setStatus bundleName .disabled).2 →
      mgr.IsTracked bundleName info state → mgr.IsStored bundleName info →
      wpWhether bundleService (Obeyed bundleName modulePackage)
        (work param.userId (info.setBundleStatus .disabled))
        (fun result after obeyed => obeyed ↔ soFar ∧
          IsSettled bundleName modulePackage param.userId info result.1
            after.dataMgr)
        { world with dataMgr := mgr } soFar) :
    wpWhether bundleService (Obeyed bundleName modulePackage)
      (workOnCopy bundleName param work)
      (fun result after obeyed => obeyed ↔ soFar ∧
        IsSettled bundleName modulePackage param.userId info result
          after.dataMgr)
      world soFar := by
  obtain ⟨state, tracked, ready⟩ := isTracked_of_isInstalled installed
  have restored := tracked.isRestored installed.stored ready
  unfold workOnCopy
  dsimp only
  split
  · exact (and_iff_left (isSettled_of_restored restored (by decide))).symm
  rename_i valid
  obtain ⟨real, same⟩ := le_getUserId valid
  rw [wpWhether_bind, wpWhether_store, same]
  intro _
  cases known : world.dataMgr.hasUserId param.userId with
  | false =>
      simp only [StoreCommand.perform, known, Bool.not_false, ↓reduceIte, Obeyed,
        and_true]
      exact (and_iff_left
        (isSettled_of_restored restored (by decide))).symm
  | true =>
  simp only [StoreCommand.perform, known, Bool.not_true, Bool.false_eq_true,
    ↓reduceIte, Obeyed, and_true, wpWhether_bind, wpWhether_store,
    getInnerBundleInfo_of_isTracked tracked]
  intro _
  have copied := tracked.setStatus bundleName .disabled
  refine wpWhether_mono (works real state ready _ rfl copied ?_) ?_
  · simpa [IsStored] using installed.stored
  rintro ⟨result, dismissed⟩ after obeyed met
  cases dismissed with
  | true => exact met
  | false =>
      simp only [Bool.not_false, ↓reduceIte, wpWhether_bind, wpWhether_store,
        StoreCommand.perform, Obeyed, and_true]
      intro _
      exact met.trans (and_congr_right' (isSettled_setStatus _ _).symm)

theorem wpWhether_processBundleUninstall
    (installed : world.dataMgr.IsInstalled bundleName info)
    (param : InstallParam) :
    wpWhether bundleService (Obeyed bundleName none)
      (processBundleUninstall bundleName param)
      (fun result after obeyed => obeyed ↔ soFar ∧
        IsSettled bundleName none param.userId info result after.dataMgr)
      world soFar := by
  obtain ⟨_, tracked, -⟩ := isTracked_of_isInstalled installed
  unfold processBundleUninstall
  rw [if_neg tracked.named]
  apply wpWhether_workOnCopy installed
  intro real state ready mgr _ copied stored
  exact wpWhether_uninstallCopied copied ready stored real param

/-- A name that contains a longer one is another name. -/
theorem ne_of_contains_clone {cloneName : String}
    (clone : Text.contains cloneName (bundleName ++ "#") = true) :
    cloneName ≠ bundleName := by
  have longer := Text.length_le_of_contains clone
  rintro rfl
  rw [String.toList_append, List.length_append] at longer
  have oneLetter : "#".toList.length = 1 := rfl
  omega

/-- The record of a clone is removed. -/
theorem isTracked_removeClonedBundleInfo {mgr : BundleDataMgr}
    {state : InstallState} {cloneName : String}
    (tracked : mgr.IsTracked bundleName info state)
    (other : cloneName ≠ bundleName) (accepted : Bool) :
    (mgr.removeClonedBundleInfo cloneName accepted).2.IsTracked bundleName info
      state := by
  obtain ⟨status, present⟩ := tracked.present
  have recycled (clone : InnerBundleInfo) :
      (mgr.recycleUidAndGid clone).IsTracked bundleName info state :=
    ⟨tracked.named, tracked.name, ⟨status, by simpa using present⟩,
      by simpa using tracked.state⟩
  unfold removeClonedBundleInfo
  cases found : mgr.bundleInfos[cloneName]? with
  | none => exact tracked
  | some clone =>
      cases accepted with
      | false => exact recycled clone
      | true =>
          refine ⟨tracked.named, tracked.name, ⟨status, ?_⟩,
            (recycled clone).state⟩
          simpa [deleteStorageBundleInfo, Std.ExtTreeMap.getElem?_erase, other]
            using present

theorem wpWhether_removeCloneInfo {state : InstallState} {cloneName : String}
    {clone : InnerBundleInfo}
    (tracked : world.dataMgr.IsTracked bundleName info state)
    (other : cloneName ≠ bundleName) :
    wpWhether bundleService (Obeyed bundleName modulePackage)
      (BundleCloneMgr.removeCloneInfo bundleName cloneName clone)
      (fun _ after obeyed => after.dataMgr.IsTracked bundleName info state ∧
        (obeyed ↔ soFar)) world soFar := by
  unfold BundleCloneMgr.removeCloneInfo
  rw [wpWhether_bind, wpWhether_request]
  rintro (_ | _)
  · exact ⟨tracked, by simp [Obeyed]⟩
  simp only [Bool.not_true, Bool.false_eq_true, ↓reduceIte, Obeyed, and_true,
    wpWhether_bind, wpWhether_request]
  intro reply
  split
  · exact ⟨tracked, Iff.rfl⟩
  rw [wpWhether_bind, wpWhether_store]
  intro accepted
  have removed := isTracked_removeClonedBundleInfo tracked other accepted
  cases returned : (world.dataMgr.removeClonedBundleInfo cloneName accepted).1
  · simp only [StoreCommand.perform, returned, Bool.not_false, ↓reduceIte,
      Obeyed, and_true]
    exact ⟨removed, Iff.rfl⟩
  · simp only [StoreCommand.perform, returned, Bool.not_true,
      Bool.false_eq_true, ↓reduceIte, Obeyed, and_true, wpWhether_request]
    intro _
    trivial

/-- The removal of a clone does not touch the bundle. -/
theorem wpWhether_removeClonedBundle {state : InstallState} {cloneName : String}
    (tracked : world.dataMgr.IsTracked bundleName info state)
    (clone : Text.contains cloneName (bundleName ++ "#") = true) :
    wpWhether bundleService (Obeyed bundleName modulePackage)
      (BundleCloneMgr.removeClonedBundle bundleName cloneName)
      (fun _ after obeyed => after.dataMgr.IsTracked bundleName info state ∧
        (obeyed ↔ soFar)) world soFar := by
  have other := ne_of_contains_clone clone
  unfold BundleCloneMgr.removeClonedBundle
  split
  · exact ⟨tracked, Iff.rfl⟩
  rw [wpWhether_bind, wpWhether_store]
  intro _
  simp only [StoreCommand.perform, Obeyed, and_true]
  have copied := tracked.setStatus cloneName .disabled
  cases found : (world.dataMgr.getInnerBundleInfo cloneName).1 with
  | none => exact ⟨copied, Iff.rfl⟩
  | some record =>
  simp only [wpWhether_bind, wpWhether_getCloneMgr]
  intro _
  refine wpWhether_mono (wpWhether_removeCloneInfo copied other) ?_
  rintro removed after obeyed ⟨left, met⟩
  simp only [wpWhether_store, StoreCommand.perform, Obeyed, and_true]
  intro _ _
  exact ⟨(left.setStatus _ .enabled).setStatus _ .enabled, met.trans
    (and_iff_left trivial)⟩

section Module

variable {package : String}

theorem wpWhether_removeModuleDataDir {userId : Int32} :
    wpWhether bundleService (Obeyed bundleName modulePackage)
      (removeModuleDataDir copy package userId)
      (fun _ after obeyed => after = world ∧ (obeyed ↔ soFar)) world soFar := by
  unfold removeModuleDataDir
  split
  · exact ⟨rfl, Iff.rfl⟩
  · rw [wpWhether_request]
    intro _
    exact ⟨rfl, by simp [Obeyed]⟩

/-- The directories of one module of several may stay. -/
theorem wpWhether_removeModuleAndDataDir {userId : Int32} {isKeepData : Bool}
    (real : 0 ≤ userId) :
    wpWhether bundleService (Obeyed bundleName modulePackage)
      (removeModuleAndDataDir copy package userId isKeepData)
      (fun _ after obeyed => after = world ∧ (obeyed ↔ soFar)) world soFar := by
  have specified : userId ≠ unspecifiedUserId := by
    rintro rfl
    exact absurd real (by decide)
  unfold removeModuleAndDataDir removeModuleDir
  simp only [wpWhether_bind, wpWhether_request, Obeyed, and_true]
  intro moduleReply
  split
  · exact ⟨rfl, Iff.rfl⟩
  simp only [wpWhether_bind, wpWhether_request, Obeyed, and_true]
  intro hapReply
  split
  · exact ⟨rfl, Iff.rfl⟩
  cases isKeepData with
  | true => exact ⟨rfl, Iff.rfl⟩
  | false =>
      simp only [Bool.not_false, ↓reduceIte, wpWhether_bind]
      exact wpWhether_mono wpWhether_removeModuleDataDir
        fun _ _ _ unchanged => unchanged

/-- One module of several is removed from memory, and from a storage that
accepts. -/
theorem removeModuleInfo_spec {mgr : BundleDataMgr}
    (tracked : mgr.IsTracked bundleName info .uninstallStart)
    (name : copy.getBundleName = bundleName) (contents : copy.SameContents info)
    (accepted : Bool) :
    let result := mgr.removeModuleInfo bundleName package copy accepted
    result.1 = true ∧
      if accepted then
        (∃ left, result.2.2.IsTracked bundleName left .uninstallStart) ∧
          result.2.2.Holds bundleName (InnerBundleInfo.LacksModule package info)
      else result.2.2 = mgr := by
  obtain ⟨status, present⟩ := tracked.present
  have inMemory : mgr.bundleInfos.contains bundleName = true := by
    rw [Std.ExtTreeMap.contains_eq_isSome_getElem?, present]
    rfl
  have lacks : InnerBundleInfo.LacksModule package info
      ((copy.removeModuleInfo package).setBundleStatus .enabled) := by
    obtain ⟨modules, users⟩ := @InnerBundleInfo.removeModuleInfo_lacksModule
      copy package
    rw [contents.1] at modules
    rw [contents.2] at users
    exact ⟨modules, users⟩
  generalize removed : (copy.removeModuleInfo package).setBundleStatus
    .enabled = left at lacks
  have leftName : left.getBundleName = bundleName := by
    rw [← removed, ← name]
    simp
  have enabled : left.setBundleStatus .enabled = left := by
    rw [← removed]
    rfl
  simp only [BundleDataMgr.removeModuleInfo, inMemory, tracked.state, removed,
    ↓reduceIte, decide_true, Bool.true_or]
  cases accepted with
  | false => exact ⟨rfl, rfl⟩
  | true =>
      refine ⟨rfl, ?_⟩
      rw [if_pos rfl]
      refine ⟨⟨left, tracked.named, leftName, ⟨.enabled, ?_⟩, tracked.state⟩,
        ⟨left, ?_, lacks⟩, left, ?_, lacks⟩
      · rw [enabled]
        exact Std.ExtTreeMap.getElem?_insert_self
      · exact Std.ExtTreeMap.getElem?_insert_self
      · rw [← leftName]
        exact Std.ExtTreeMap.getElem?_insert_self

/-- A bundle that has a module does not lack it. -/
theorem not_holds_lacksModule {mgr : BundleDataMgr} {state : InstallState}
    (tracked : mgr.IsTracked bundleName info state)
    (has : info.findModule package = true) :
    ¬mgr.Holds bundleName (InnerBundleInfo.LacksModule package info) := by
  obtain ⟨status, present⟩ := tracked.present
  rintro ⟨⟨kept, found, lacks⟩, -⟩
  rw [present] at found
  cases found
  have without : (info.innerModuleInfos.erase package).contains package =
      false := by simp
  have same : info.innerModuleInfos = info.innerModuleInfos.erase package :=
    lacks.1
  rw [← same] at without
  rw [InnerBundleInfo.findModule, without] at has
  cases has

theorem wpWhether_removeOneModule {userId : Int32}
    (tracked : world.dataMgr.IsTracked bundleName info .uninstallStart)
    (stored : world.dataMgr.IsStored bundleName info)
    (name : copy.getBundleName = bundleName) (contents : copy.SameContents info)
    (real : 0 ≤ userId) (has : info.findModule package = true)
    (param : InstallParam) :
    wpWhether bundleService (Obeyed bundleName (some package))
      (removeOneModule bundleName package param userId copy)
      (fun result after obeyed => ∃ left,
        after.dataMgr.IsTracked bundleName left .uninstallStart ∧
          ((result ≠ ErrCode.ok ∧ left = info ∧
              after.dataMgr.IsStored bundleName info ∧ (obeyed ↔ soFar)) ∨
            (result = ErrCode.ok ∧ (obeyed ↔ soFar ∧
              after.dataMgr.Holds bundleName
                (InnerBundleInfo.LacksModule package info)))))
      world soFar := by
  have directories : wpWhether bundleService (Obeyed bundleName (some package))
      (removeModuleOfUser copy package userId param.isKeepData)
      (fun _ after obeyed => after = world ∧ (obeyed ↔ soFar)) world soFar := by
    unfold removeModuleOfUser
    split
    · exact wpWhether_removeModuleAndDataDir real
    · split
      · exact wpWhether_removeModuleDataDir
      · exact ⟨rfl, Iff.rfl⟩
  unfold removeOneModule
  rw [wpWhether_bind]
  refine wpWhether_mono directories ?_
  rintro result after obeyed ⟨rfl, met⟩
  split
  · rename_i failed
    exact ⟨info, tracked, .inl ⟨failed, rfl, stored, met⟩⟩
  dsimp only
  rw [wpWhether_bind, wpWhether_store]
  intro accepted
  obtain ⟨returned, removed⟩ := @removeModuleInfo_spec _ _ (copy.setInstallMark
    bundleName package .installFinish) package _ tracked name contents accepted
  simp only [StoreCommand.perform, returned, Bool.not_true, Bool.false_eq_true,
    ↓reduceIte, Obeyed]
  cases accepted with
  | true =>
      obtain ⟨⟨left, leftTracked⟩, lacks⟩ := removed
      exact ⟨left, leftTracked, .inr ⟨rfl, by simp [met, lacks]⟩⟩
  | false =>
      have kept := not_holds_lacksModule tracked has
      rw [if_neg (by decide)] at removed
      refine ⟨info, ?_, .inr ⟨rfl, ?_⟩⟩
      · show BundleDataMgr.IsTracked _ bundleName info .uninstallStart
        rw [removed]
        exact tracked
      · show _ ↔ soFar ∧ BundleDataMgr.Holds _ bundleName _
        rw [removed]
        simp [kept]

theorem wpWhether_removeCloneOf {state : InstallState}
    (tracked : world.dataMgr.IsTracked bundleName info state) :
    wpWhether bundleService (Obeyed bundleName modulePackage)
      (removeCloneOf bundleName)
      (fun _ after obeyed => after.dataMgr.IsTracked bundleName info state ∧
        (obeyed ↔ soFar)) world soFar := by
  unfold removeCloneOf
  rw [wpWhether_bind, wpWhether_store]
  intro _
  simp only [StoreCommand.perform, Obeyed, and_true]
  cases found : world.dataMgr.getClonedBundleName bundleName with
  | none => exact ⟨tracked, Iff.rfl⟩
  | some cloneName =>
      simp only [wpWhether_bind]
      have clone : Text.contains cloneName (bundleName ++ "#") = true := by
        have met := List.find?_some found
        exact met
      exact wpWhether_mono (wpWhether_removeClonedBundle tracked clone)
        fun _ _ _ untouched => untouched

/-- Everything a user has goes with the only module. -/
theorem wpWhether_removeOnlyModule {userId : Int32}
    (tracked : world.dataMgr.IsTracked bundleName info .uninstallStart)
    (name : copy.getBundleName = bundleName)
    (users : copy.innerBundleUserInfos = info.innerBundleUserInfos)
    (real : 0 ≤ userId)
    (has : info.innerBundleUserInfos.contains
      (nameAndUserIdToKey info.getBundleName userId) = true)
    (goes : takesAll modulePackage info = true) (isKeepData : Bool) :
    wpWhether bundleService (Obeyed bundleName modulePackage)
      (removeOnlyModule copy userId isKeepData)
      (fun result after obeyed => obeyed ↔ soFar ∧
        IsSettled bundleName modulePackage userId info result after.dataMgr)
      world soFar := by
  unfold removeOnlyModule
  rw [users]
  split
  · rename_i single
    refine wpWhether_mono (wpWhether_removeBundle tracked single name userId
      isKeepData) ?_
    rintro result after obeyed ⟨gone, met⟩
    rw [met, isSettled_of_gone gone goes single]
  · rename_i several
    have notAll : userId ≠ allUserId := by
      rintro rfl
      exact absurd real (by decide)
    refine wpWhether_mono (wpWhether_removeBundleUserData tracked name users
      notAll has several isKeepData) ?_
    rintro result after obeyed
      (⟨failed, rfl, met⟩ | ⟨rfl, removed, met⟩ | ⟨failed, lost, unmet⟩)
    · have unsettled : ¬IsSettled bundleName modulePackage userId info result
          after.dataMgr :=
        not_isSettled_of_stuck tracked failed
      simp [met, unsettled]
    · have whole : IsSettled bundleName modulePackage userId info .ok
          after.dataMgr :=
        isSettled_of_userRemoved goes several removed
      exact met.trans (and_iff_left whole).symm
    · simp [unmet, isSettled_of_lost lost several failed]

/-- What holds when the removal of a module has begun: either everything a user
has was to go, or the state is still to be set back. -/
def IsModuleOutcome (bundleName package : String) (userId : Int32)
    (info : InnerBundleInfo) (soFar : Prop) (result : ErrCode × Bool)
    (after : World) (obeyed : Prop) : Prop :=
  if result.2 then
    obeyed ↔ soFar ∧ IsSettled bundleName (some package) userId info
      result.1 after.dataMgr
  else
    ∃ left, after.dataMgr.IsTracked bundleName left .uninstallStart ∧
      ((result.1 ≠ ErrCode.ok ∧ left = info ∧
          after.dataMgr.IsStored bundleName info ∧ (obeyed ↔ soFar)) ∨
        (result.1 = ErrCode.ok ∧ takesAll (some package) info = false ∧
          (obeyed ↔ soFar ∧ after.dataMgr.Holds bundleName
            (InnerBundleInfo.LacksModule package info))))

theorem wpWhether_uninstallStartedModule {userId : Int32}
    (tracked : world.dataMgr.IsTracked bundleName info .uninstallStart)
    (stored : world.dataMgr.IsStored bundleName info)
    (real : 0 ≤ userId)
    (has : info.innerBundleUserInfos.contains
      (nameAndUserIdToKey info.getBundleName userId) = true)
    (hasModule : info.findModule package = true) (param : InstallParam)
    (uid : Int32) :
    wpWhether bundleService (Obeyed bundleName (some package))
      (uninstallStartedModule bundleName package param userId
        (info.setBundleStatus .disabled) uid)
      (IsModuleOutcome bundleName package userId info soFar) world soFar := by
  unfold uninstallStartedModule
  rw [wpWhether_bind]
  apply wpWhether_killProcesses
  intro killed
  cases killed with
  | false => exact ⟨info, tracked, .inl ⟨by decide, rfl, stored, Iff.rfl⟩⟩
  | true =>
  simp only [Bool.not_true, Bool.false_eq_true, ↓reduceIte, wpWhether_bind]
  refine wpWhether_saveInnerBundleInfo tracked tracked.name ⟨rfl, rfl⟩ ?_ ?_
  · intro after marked storedMark sameInfos
    simp only [Bool.not_true, Bool.false_eq_true, ↓reduceIte]
    have onlyIff : ((info.setBundleStatus .disabled).setInstallMark bundleName
        package .uninstallPackageStart).isOnlyModule package =
          takesAll (some package) info := rfl
    have name : ((info.setBundleStatus .disabled).setInstallMark bundleName
        package .uninstallPackageStart).getBundleName = bundleName :=
      tracked.name
    have users : ((info.setBundleStatus .disabled).setInstallMark bundleName
        package .uninstallPackageStart).innerBundleUserInfos =
          info.innerBundleUserInfos := rfl
    have contents : ((info.setBundleStatus .disabled).setInstallMark bundleName
        package .uninstallPackageStart).SameContents info := ⟨rfl, rfl⟩
    generalize InnerBundleInfo.setInstallMark _ bundleName package
      .uninstallPackageStart = copy at onlyIff name users contents ⊢
    rw [onlyIff]
    split
    · rename_i only
      rw [wpWhether_bind]
      refine wpWhether_mono (wpWhether_removeCloneOf marked) ?_
      rintro - removed obeyed ⟨left, met⟩
      rw [wpWhether_bind]
      refine wpWhether_mono (wpWhether_removeOnlyModule left name users
        real has only param.isKeepData) ?_
      intro result final obeyed done
      rw [met] at done
      exact done
    · rename_i notOnly
      have several : takesAll (some package) info = false :=
        Bool.eq_false_iff.mpr notOnly
      rw [wpWhether_bind]
      refine wpWhether_mono (wpWhether_removeOneModule marked storedMark name
        contents real hasModule param) ?_
      rintro result final obeyed ⟨left, leftTracked, failed | ⟨done, removed⟩⟩
      · exact ⟨left, leftTracked, .inl failed⟩
      · exact ⟨left, leftTracked, .inr ⟨done, several, removed⟩⟩
  · exact ⟨info, tracked, .inl ⟨by decide, rfl, stored, by simp⟩⟩

theorem wpWhether_uninstallModuleOf {state : InstallState} {userId : Int32}
    (tracked : world.dataMgr.IsTracked bundleName info state)
    (ready : state ∈ InstallState.uninstallStart.transferStates)
    (stored : world.dataMgr.IsStored bundleName info)
    (real : 0 ≤ userId) (param : InstallParam) :
    wpWhether bundleService (Obeyed bundleName (some package))
      (uninstallModuleOf bundleName package param userId
        (info.setBundleStatus .disabled))
      (fun result after obeyed => obeyed ↔
        soFar ∧ IsSettled bundleName (some package) userId info result.1
          after.dataMgr)
      world soFar := by
  have restored := tracked.isRestored stored ready
  unfold uninstallModuleOf
  rw [getInnerBundleUserInfo_eq real]
  split
  · exact (and_iff_left (isSettled_of_restored restored (by decide))).symm
  rename_i user present
  have has : info.innerBundleUserInfos.contains
      (nameAndUserIdToKey info.getBundleName userId) = true := by
    rw [Std.ExtTreeMap.contains_eq_isSome_getElem?]
    exact Option.isSome_of_mem present
  split
  · exact (and_iff_left (isSettled_of_restored restored (by decide))).symm
  cases found : info.findModule package with
  | false =>
      have absent : (info.setBundleStatus .disabled).findModule package = false :=
        found
      rw [absent]
      exact (and_iff_left
        (isSettled_of_restored restored (by decide))).symm
  | true =>
  have isThere : (info.setBundleStatus .disabled).findModule package = true :=
    found
  simp only [isThere, Bool.not_true, Bool.false_eq_true, ↓reduceIte,
    wpWhether_bind]
  refine wpWhether_updateBundleInstallState tracked ready rfl ?_
  intro begun started sameStorage sameInfos
  have storedThere : begun.dataMgr.IsStored bundleName info := by
    rw [IsStored, sameStorage]
    exact stored
  simp only [Bool.not_true, Bool.false_eq_true, ↓reduceIte, wpWhether_bind]
  refine wpWhether_mono (wpWhether_uninstallStartedModule started storedThere
    real has found param _) ?_
  rintro ⟨result, dismissed⟩ after obeyed outcome
  cases dismissed with
  | true => exact outcome
  | false =>
  simp only [IsModuleOutcome, Bool.false_eq_true, ↓reduceIte] at outcome
  obtain ⟨left, leftTracked, outcome⟩ := outcome
  simp only [Bool.not_false, ↓reduceIte, wpWhether_bind]
  refine wpWhether_updateBundleInstallState leftTracked (by decide) rfl ?_
  intro final ended lastStorage lastInfos
  rcases outcome with ⟨failed, rfl, kept, met⟩ | ⟨rfl, several, met⟩
  · have asBefore := ended.isRestored (by rwa [IsStored, lastStorage])
      (by decide)
    exact met.trans
      (and_iff_left (isSettled_of_restored asBefore failed)).symm
  · simp only [Program.pure_eq, wpWhether_ret, met, IsSettled,
      IsUninstalled, several, Bool.false_eq_true, ↓reduceIte, ne_eq,
      not_true_eq_false, false_imp_iff, true_and, forall_const,
      Option.getD_some, Holds, lastStorage, lastInfos]

theorem wpWhether_processModuleUninstall
    (installed : world.dataMgr.IsInstalled bundleName info)
    (param : InstallParam) :
    wpWhether bundleService (Obeyed bundleName (some package))
      (processModuleUninstall bundleName package param)
      (fun result after obeyed => obeyed ↔ soFar ∧
        IsSettled bundleName (some package) param.userId info result
          after.dataMgr)
      world soFar := by
  obtain ⟨_, tracked, ready⟩ := isTracked_of_isInstalled installed
  unfold processModuleUninstall
  split
  · have restored := tracked.isRestored installed.stored ready
    exact (and_iff_left
      (isSettled_of_restored restored (by decide))).symm
  · apply wpWhether_workOnCopy installed
    rintro real state ready mgr rfl copied stored
    exact wpWhether_uninstallModuleOf copied ready stored real param

end Module

end Runs

section GivingUp

/-- The record of the bundle stays in memory through the call. -/
def Command.leavesRecord (bundleName : String) : Command → Bool
  | .store (.updateBundleInstallState _ state) => !state.isDeleteDataState
  | .store (.removeClonedBundleInfo cloneName) => cloneName ≠ bundleName
  | _ => true

theorem StoreCommand.leavesRecord_spec {bundleName : String}
    {command : StoreCommand} {mgr : BundleDataMgr}
    (leaves : (Command.store command).leavesRecord bundleName = true)
    (present : mgr.bundleInfos.contains bundleName = true) (accepted : Bool) :
    (command.perform accepted mgr).2.bundleInfos.contains bundleName = true := by
  rw [(command.perform_leads accepted mgr).1]
  cases command <;>
    simp only [StoreCommand.effect, BundleDataMgr.mutatorEffect,
      BundleDataMgr.inPlaceEffect] <;>
    repeat' split
  all_goals simp_all [RecordEffect.infos, Command.leavesRecord]

variable {bundleName : String} {copy : InnerBundleInfo} {world : World}

/-- An operation all of whose calls leave the record in memory. -/
abbrev LeavesRecord {α : Type} (bundleName : String) (operation : Operation α) :
    Prop :=
  MakesOnly (fun command => command.leavesRecord bundleName = true) operation

theorem LeavesRecord.wp {α : Type} {operation : Operation α}
    {ok : Step bundleService → Prop} (leaves : LeavesRecord bundleName operation)
    (present : world.dataMgr.bundleInfos.contains bundleName = true) :
    wp bundleService ok operation
      (fun _ after => after.dataMgr.bundleInfos.contains bundleName = true)
      world := by
  refine wp_of_makesOnly leaves ?_ present
  rintro ⟨command, before, answer⟩ made there
  cases command with
  | store command => exact StoreCommand.leavesRecord_spec made there answer
  | sandbox | external | getCloneMgr | setCloneMgr => exact there

open BaseBundleInstaller

theorem leavesRecord_removeBundleAndDataDir (userId : Int32)
    (isKeepData : Bool) :
    LeavesRecord bundleName (removeBundleAndDataDir copy userId isKeepData) := by
  unfold removeBundleAndDataDir removeBundleCodeDir removeBundleDataDir
  refine .bind (.perform rfl) fun _ => ?_
  repeat' split
  · trivial
  · exact .perform rfl
  · trivial

theorem leavesRecord_removeBundleUserData (userId : Int32)
    (isKeepData : Bool) :
    LeavesRecord bundleName (removeBundleUserData copy userId isKeepData) := by
  have removal : LeavesRecord bundleName (do
      let _ ← request (.deleteAccessTokenId (copy.getAccessTokenId userId))
      if !(← store (.removeInnerBundleUserInfo copy.getBundleName userId)) then
        return ErrCode.installBundleMgrServiceError
      return ErrCode.ok) := by
    refine .bind (.perform rfl) fun _ => .bind (.perform rfl) fun _ => ?_
    split <;> trivial
  unfold removeBundleUserData removeBundleDataDir
  split
  · trivial
  split
  · refine .bind (.perform rfl) fun _ => ?_
    split
    · trivial
    · exact removal
  · exact removal

theorem leavesRecord_killProcesses (noSkipsKill : Bool) (uid : Int32) :
    LeavesRecord bundleName (killProcesses copy noSkipsKill uid) := by
  unfold killProcesses
  split
  · exact .perform rfl
  · trivial

theorem leavesRecord_removeOneModule (package : String) (param : InstallParam)
    (userId : Int32) :
    LeavesRecord bundleName
      (removeOneModule bundleName package param userId copy) := by
  have moduleData (userId : Int32) :
      LeavesRecord bundleName (removeModuleDataDir copy package userId) := by
    unfold removeModuleDataDir
    split
    · trivial
    · exact .perform rfl
  have directories : LeavesRecord bundleName
      (removeModuleOfUser copy package userId param.isKeepData) := by
    unfold removeModuleOfUser removeModuleAndDataDir removeModuleDir
    split
    · refine .bind (.perform rfl) fun _ => ?_
      split
      · trivial
      refine .bind (.perform rfl) fun _ => ?_
      repeat' split
      · trivial
      · exact .bind (moduleData _) fun _ => trivial
      · exact .bind (.forM fun _ => .bind (moduleData _) fun _ => trivial)
          fun _ => trivial
      · trivial
    · split
      · exact moduleData userId
      · trivial
  unfold removeOneModule
  refine .bind directories fun _ => ?_
  split
  · trivial
  refine .bind (.perform rfl) fun _ => ?_
  dsimp only
  split <;> trivial

/-- An error is returned for a bundle that is gone only if a directory could not
be removed. -/
def EndsPresent (bundleName : String) (result : ErrCode) (after : World) :
    Prop :=
  result = .ok ∨ after.dataMgr.bundleInfos.contains bundleName = true

/-- Every directory can be removed. -/
def DirectoriesGo (step : Step bundleService) : Prop :=
  refusesDirectory step = false

theorem wp_guard_endsPresent {command : StoreCommand} {result : ErrCode}
    (ended : EndsPresent bundleName result world)
    (leaves : (Command.store command).leavesRecord bundleName = true) :
    wp bundleService DirectoriesGo (store command)
      (fun _ => EndsPresent bundleName result) world := by
  rw [wp_store]
  intro accepted _
  rcases ended with done | there
  · exact .inl done
  · exact .inr (StoreCommand.leavesRecord_spec leaves there accepted)

theorem wp_removeBundle_endsPresent
    (present : world.dataMgr.bundleInfos.contains bundleName = true)
    (userId : Int32) (isKeepData : Bool) :
    wp bundleService DirectoriesGo (removeBundle copy userId isKeepData)
      (EndsPresent bundleName) world := by
  have removed : wp bundleService DirectoriesGo
      (removeBundleAndDataDir copy userId isKeepData)
      (fun result _ => result = ErrCode.ok) world := by
    unfold removeBundleAndDataDir removeBundleCodeDir removeBundleDataDir
    simp only [wp_bind, wp_request]
    intro reply goes
    have done : reply = ErrCode.ok := by
      simpa [DirectoriesGo, refusesDirectory] using goes
    rw [if_neg (not_not.mpr done)]
    split
    · rw [wp_request]
      intro dataReply dataGoes
      simpa [DirectoriesGo, refusesDirectory] using dataGoes
    · exact done
  unfold removeBundle
  rw [wp_bind]
  refine wp_mono (wp_and removed
    ((leavesRecord_removeBundleAndDataDir userId isKeepData).wp present)) ?_
  rintro result after ⟨rfl, still⟩
  rw [if_neg (by decide), wp_bind, wp_store]
  intro accepted _
  cases entered : (after.dataMgr.updateBundleInstallState copy.getBundleName
    .uninstallSuccess accepted).1 with
  | false =>
      have unchanged : (after.dataMgr.updateBundleInstallState
          copy.getBundleName .uninstallSuccess accepted).2 = after.dataMgr := by
        unfold BundleDataMgr.updateBundleInstallState at entered ⊢
        grind
      simp only [StoreCommand.perform, entered, Bool.not_false, ↓reduceIte,
        unchanged]
      exact .inr still
  | true =>
      simp only [StoreCommand.perform, entered, Bool.not_true,
        Bool.false_eq_true, ↓reduceIte, wp_bind, wp_request]
      intro _ _
      exact .inl rfl

theorem wp_uninstallOnlyUser_endsPresent
    (present : world.dataMgr.bundleInfos.contains bundleName = true)
    (param : InstallParam) (userId uid : Int32) :
    wp bundleService DirectoriesGo
      (uninstallOnlyUser bundleName param userId copy uid)
      (EndsPresent bundleName) world := by
  unfold uninstallOnlyUser
  refine wp_seq (LeavesRecord.wp (.perform rfl) present) fun _ _ started => ?_
  split
  · exact .inr started
  refine wp_seq ((leavesRecord_killProcesses _ _).wp started)
    fun _ _ stopped => ?_
  split
  · exact wp_seq (LeavesRecord.wp (.perform rfl) stopped)
      fun _ _ ended => .inr ended
  refine wp_seq (LeavesRecord.wp (.perform rfl) stopped) fun _ _ marked => ?_
  split
  · exact .inr marked
  · exact wp_removeBundle_endsPresent marked userId param.isKeepData

theorem wp_uninstallCopied_endsPresent
    (present : world.dataMgr.bundleInfos.contains bundleName = true)
    (param : InstallParam) (userId : Int32) :
    wp bundleService DirectoriesGo
      (uninstallCopied bundleName param userId copy)
      (fun result => EndsPresent bundleName result.1) world := by
  unfold uninstallCopied
  split
  · exact .inr present
  split
  · exact .inr present
  refine wp_seq (LeavesRecord.wp (.perform rfl) present) fun clone _ there => ?_
  split
  · exact wp_seq (LeavesRecord.wp (.perform rfl) there) fun _ _ _ => wp_halt
  split
  · exact wp_seq ((leavesRecord_removeBundleUserData _ _).wp there)
      fun _ _ left => .inr left
  · exact wp_seq (wp_uninstallOnlyUser_endsPresent there param userId _)
      fun _ _ ended => ended

theorem wp_removeCloneOf_present
    (present : world.dataMgr.bundleInfos.contains bundleName = true) :
    wp bundleService DirectoriesGo (removeCloneOf bundleName)
      (fun _ after => after.dataMgr.bundleInfos.contains bundleName = true)
      world := by
  unfold removeCloneOf
  rw [wp_bind, wp_store]
  intro _ _
  simp only [StoreCommand.perform]
  cases found : world.dataMgr.getClonedBundleName bundleName with
  | none => exact present
  | some cloneName =>
  have clone : Text.contains cloneName (bundleName ++ "#") = true := by
    have met := List.find?_some found
    exact met
  have other : (Command.store (.removeClonedBundleInfo cloneName)).leavesRecord
      bundleName = true := by
    simpa [Command.leavesRecord] using ne_of_contains_clone clone
  have removal (info : InnerBundleInfo) : LeavesRecord bundleName
      (BundleCloneMgr.removeCloneInfo bundleName cloneName info) := by
    unfold BundleCloneMgr.removeCloneInfo
    refine .bind (.perform rfl) fun _ => ?_
    split
    · trivial
    refine .bind (.perform rfl) fun _ => ?_
    split
    · trivial
    refine .bind (.perform other) fun _ => ?_
    split
    · trivial
    · exact .perform rfl
  have whole : LeavesRecord bundleName
      (BundleCloneMgr.removeClonedBundle bundleName cloneName) := by
    unfold BundleCloneMgr.removeClonedBundle
    split
    · trivial
    refine .bind (.perform rfl) fun _ => ?_
    split
    · trivial
    refine .bind (.perform rfl) fun _ => .bind (removal _) fun _ => ?_
    exact .bind (.perform rfl) fun _ => .bind (.perform rfl) fun _ => trivial
  exact wp_seq (whole.wp present) fun _ _ there => there

theorem wp_uninstallStartedModule_endsPresent
    (present : world.dataMgr.bundleInfos.contains bundleName = true)
    (package : String) (param : InstallParam) (userId uid : Int32) :
    wp bundleService DirectoriesGo
      (uninstallStartedModule bundleName package param userId copy uid)
      (fun result => EndsPresent bundleName result.1) world := by
  unfold uninstallStartedModule
  refine wp_seq ((leavesRecord_killProcesses _ _).wp present)
    fun _ _ stopped => ?_
  split
  · exact .inr stopped
  refine wp_seq (LeavesRecord.wp (.perform rfl) stopped) fun _ _ marked => ?_
  split
  · exact .inr marked
  split
  · refine wp_seq (wp_removeCloneOf_present marked) fun _ after there => ?_
    have removal : wp bundleService DirectoriesGo
        (removeOnlyModule (copy.setInstallMark bundleName package
          .uninstallPackageStart) userId param.isKeepData)
        (EndsPresent bundleName) after := by
      unfold removeOnlyModule
      split
      · exact wp_removeBundle_endsPresent there userId param.isKeepData
      · exact wp_mono ((leavesRecord_removeBundleUserData _ _).wp there)
          fun _ _ left => .inr left
    exact wp_seq removal fun _ _ ended => ended
  · exact wp_seq ((leavesRecord_removeOneModule _ _ _).wp marked)
      fun _ _ left => .inr left

theorem wp_uninstallModuleOf_endsPresent
    (present : world.dataMgr.bundleInfos.contains bundleName = true)
    (package : String) (param : InstallParam) (userId : Int32) :
    wp bundleService DirectoriesGo
      (uninstallModuleOf bundleName package param userId copy)
      (fun result => EndsPresent bundleName result.1) world := by
  unfold uninstallModuleOf
  split
  · exact .inr present
  split
  · exact .inr present
  split
  · exact .inr present
  refine wp_seq (LeavesRecord.wp (.perform rfl) present) fun _ _ started => ?_
  split
  · exact .inr started
  refine wp_seq (wp_uninstallStartedModule_endsPresent started package param
    userId _) ?_
  rintro ⟨result, dismissed⟩ after ended
  dsimp only
  split
  · exact wp_seq (wp_guard_endsPresent ended rfl) fun _ _ still => still
  · exact ended

theorem wp_workOnCopy_endsPresent {param : InstallParam}
    {work : Int32 → InnerBundleInfo → Operation (ErrCode × Bool)}
    (present : world.dataMgr.bundleInfos.contains bundleName = true)
    (works : ∀ userId copy (after : World),
      after.dataMgr.bundleInfos.contains bundleName = true →
      wp bundleService DirectoriesGo (work userId copy)
        (fun result => EndsPresent bundleName result.1) after) :
    wp bundleService DirectoriesGo (workOnCopy bundleName param work)
      (EndsPresent bundleName) world := by
  unfold workOnCopy
  dsimp only
  split
  · exact .inr present
  refine wp_seq (LeavesRecord.wp (.perform rfl) present) fun _ _ there => ?_
  split
  · exact .inr there
  refine wp_seq (LeavesRecord.wp (.perform rfl) there) fun _ _ copied => ?_
  split
  · exact .inr copied
  refine wp_seq (works _ _ _ copied) ?_
  rintro ⟨result, dismissed⟩ after ended
  dsimp only
  split
  · exact wp_seq (wp_guard_endsPresent ended rfl) fun _ _ still => still
  · exact ended

theorem wp_uninstall_endsPresent
    (present : world.dataMgr.bundleInfos.contains bundleName = true)
    (modulePackage : Option String) (param : InstallParam) :
    wp bundleService DirectoriesGo (uninstall bundleName modulePackage param)
      (EndsPresent bundleName) world := by
  cases modulePackage with
  | none =>
      unfold uninstall processBundleUninstall
      dsimp only
      split
      · exact .inr present
      · exact wp_workOnCopy_endsPresent present fun userId _ _ there =>
          wp_uninstallCopied_endsPresent there param userId
  | some package =>
      unfold uninstall processModuleUninstall
      dsimp only
      split
      · exact .inr present
      · exact wp_workOnCopy_endsPresent present fun userId _ _ there =>
          wp_uninstallModuleOf_endsPresent there package param userId

end GivingUp

/-- An uninstallation is settled exactly when all of its steps are obeyed, and
gives a bundle up only if a directory could not be removed. -/
theorem uninstall_isSettled_iff (env : Environment bundleService)
    (world : World) (bundleName : String) (modulePackage : Option String)
    (param : InstallParam) (info : InnerBundleInfo)
    (installed : world.dataMgr.IsInstalled bundleName info)
    {result : ErrCode}
    (returned : (run bundleService env
      (uninstall bundleName modulePackage param) 0 world).value = some result) :
    (IsSettled bundleName modulePackage param.userId info result
        (run bundleService env (uninstall bundleName modulePackage param) 0
          world).world.dataMgr ↔
      ∀ step ∈ (run bundleService env
          (uninstall bundleName modulePackage param) 0 world).steps,
        Obeyed bundleName modulePackage step) ∧
    (result ≠ .ok →
      (run bundleService env (uninstall bundleName modulePackage param) 0
        world).world.dataMgr.bundleInfos[bundleName]? = none →
      ∃ step ∈ (run bundleService env
          (uninstall bundleName modulePackage param) 0 world).steps,
        refusesDirectory step = true) := by
  constructor
  · have whether : wpWhether bundleService (Obeyed bundleName modulePackage)
        (uninstall bundleName modulePackage param)
        (fun result after obeyed => obeyed ↔ True ∧
          IsSettled bundleName modulePackage param.userId info result
            after.dataMgr)
        world True := by
      cases modulePackage with
      | none => exact wpWhether_processBundleUninstall installed param
      | some package => exact wpWhether_processModuleUninstall installed param
    have ended := wpWhether_run whether returned
    rw [true_and, true_and] at ended
    exact ended.symm
  · intro failed gone
    by_contra none
    have goes : ∀ step ∈ (run bundleService env
        (uninstall bundleName modulePackage param) 0 world).steps,
        DirectoriesGo step := by
      intro step made
      rw [DirectoriesGo, Bool.eq_false_iff]
      exact fun refused => none ⟨step, made, refused⟩
    have present : world.dataMgr.bundleInfos.contains bundleName = true := by
      rw [Std.ExtTreeMap.contains_eq_isSome_getElem?, installed.present]
      rfl
    rcases wp_run (wp_uninstall_endsPresent present modulePackage param) goes
      returned with done | there
    · exact failed done
    · rw [Std.ExtTreeMap.contains_eq_isSome_getElem?, gone] at there
      cases there


/-- The record of a bundle that one user has. -/
def demoRecord : InnerBundleInfo :=
  let record : InnerBundleInfo := {
    baseApplicationInfo := { bundleName := "com.example.demo" }
    innerModuleInfos := (∅ : StringMap InnerModuleInfo).insert "entry" {} }
  record.addInnerBundleUserInfo {
    bundleUserInfo := { userId := 100 }
    bundleName := "com.example.demo"
    uid := 100 * baseUserRange + baseAppUid }

/-- The bundle is installed, and no other. -/
def demoInstalled : World where
  dataMgr := {
    bundleInfos :=
      (∅ : StringMap InnerBundleInfo).insert "com.example.demo" demoRecord
    installStates :=
      (∅ : StringMap InstallState).insert "com.example.demo" .installSuccess
    bundleIdMap := (∅ : Std.ExtTreeMap Int32 String).insert baseAppUid
      "com.example.demo"
    dataStorage :=
      (∅ : StringMap Json).insert "com.example.demo" demoRecord.toJson
    multiUserIdsSet := (∅ : Std.ExtTreeSet Int32).insert 100 }

theorem demoInstalled_isInstalled :
    demoInstalled.dataMgr.IsInstalled "com.example.demo" demoRecord where
  name := rfl
  present := Std.ExtTreeMap.getElem?_insert_self
  stored := ⟨demoRecord, Std.ExtTreeMap.getElem?_insert_self, rfl, rfl⟩
  ready := by decide +kernel

theorem uninstall_isSettled_iff_demo :
    (IsSettled "com.example.demo" none 100 demoRecord .ok
        (run bundleService (fun _ => Command.plainAnswer)
          (uninstall "com.example.demo" none { userId := 100 }) 0
          demoInstalled).world.dataMgr ↔
      ∀ step ∈ (run bundleService (fun _ => Command.plainAnswer)
          (uninstall "com.example.demo" none { userId := 100 }) 0
          demoInstalled).steps,
        Obeyed "com.example.demo" none step) ∧
    (ErrCode.ok ≠ .ok →
      (run bundleService (fun _ => Command.plainAnswer)
        (uninstall "com.example.demo" none { userId := 100 }) 0
        demoInstalled).world.dataMgr.bundleInfos["com.example.demo"]? = none →
      ∃ step ∈ (run bundleService (fun _ => Command.plainAnswer)
          (uninstall "com.example.demo" none { userId := 100 }) 0
          demoInstalled).steps,
        refusesDirectory step = true) :=
  uninstall_isSettled_iff (fun _ => Command.plainAnswer) demoInstalled
    "com.example.demo" none { userId := 100 } demoRecord
    demoInstalled_isInstalled (by decide +kernel)

/-- An environment in which no directory of code can be removed. -/
def codeStays : Environment bundleService
  | _, .external (.removeDir _) => ErrCode.installdRemoveDirFailed
  | _, command => command.plainAnswer

/-- A bundle whose directory cannot be removed is gone from memory although the
uninstallation has failed. -/
theorem uninstall_not_isAllOrNothing :
    demoInstalled.dataMgr.IsInstalled "com.example.demo" demoRecord ∧
      (run bundleService codeStays
        (uninstall "com.example.demo" none { userId := 100 }) 0
        demoInstalled).value = some ErrCode.installdRemoveDirFailed ∧
      ¬IsAllOrNothing "com.example.demo" none 100 demoRecord
        ErrCode.installdRemoveDirFailed
        (run bundleService codeStays
          (uninstall "com.example.demo" none { userId := 100 }) 0
          demoInstalled).world.dataMgr := by
  refine ⟨demoInstalled_isInstalled, by decide +kernel, ?_⟩
  intro whole
  obtain ⟨⟨⟨kept, present, -⟩, -⟩, -⟩ := whole.1 (by decide)
  have gone : (run bundleService codeStays
      (uninstall "com.example.demo" none { userId := 100 }) 0
      demoInstalled).world.dataMgr.bundleInfos.contains "com.example.demo" =
        false := by
    decide +kernel
  rw [Std.ExtTreeMap.contains_eq_isSome_getElem?, present] at gone
  cases gone

end AppExecFwk
