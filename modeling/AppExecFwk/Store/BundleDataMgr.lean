import AppExecFwk.Codec.InnerBundleInfoCodec

/-!
# The bundle store

`BundleDataMgr` keeps the records of the installed bundles in memory, a copy of
each in a key-value storage, the state of the installer for each bundle, and
the bundle ids in use.  Every method holds the lock of the maps it touches from
its first access to its last, so it is one step; what the storage answers comes
in as an argument, and a storage that refuses a request is left as it is.
-/

namespace AppExecFwk

/-- The smallest bundle id. -/
def baseAppUid : Int32 := 10000

/-- The largest bundle id. -/
def maxAppUid : Int32 := 65535

/-- How many uids a user has. -/
def baseUserRange : Int32 := 200000

/-- What the installer is doing with a bundle. -/
inductive InstallState where
  | installStart
  | installSuccess
  | installFail
  | uninstallStart
  | uninstallSuccess
  | uninstallFail
  | updatingStart
  | updatingSuccess
  | updatingFail
  | rollBack
  | userChange
  deriving DecidableEq

namespace InstallState

/-- The states from which a state may be entered. -/
def transferStates : InstallState → List InstallState
  | installStart => []
  | installSuccess => [installStart, updatingStart, updatingSuccess,
      uninstallStart, rollBack, userChange]
  | installFail => [installStart]
  | uninstallStart => [installSuccess, installStart, updatingSuccess,
      userChange]
  | uninstallSuccess => [uninstallStart]
  | uninstallFail => [uninstallStart]
  | updatingStart => [installSuccess, installStart, updatingSuccess,
      userChange]
  | updatingSuccess => [updatingStart, userChange]
  | updatingFail => [updatingStart, installStart]
  | rollBack => [updatingStart, updatingSuccess]
  | userChange => [installSuccess, updatingSuccess, updatingStart]

/-- A bundle that enters one of these states leaves the store. -/
def isDeleteDataState (state : InstallState) : Bool :=
  state = installFail || state = uninstallFail || state = uninstallSuccess ||
    state = updatingFail

end InstallState

/-- A bundle that came with the device, and the packages it is in. -/
structure PreInstallBundleInfo where
  bundleName : String := ""
  versionCode : UInt32 := 0
  bundlePaths : List String := []
  appType : AppType := .systemApp

def PreInstallBundleInfo.addBundlePath (info : PreInstallBundleInfo)
    (bundlePath : String) : PreInstallBundleInfo :=
  if bundlePath ∈ info.bundlePaths then info
  else { info with bundlePaths := info.bundlePaths ++ [bundlePath] }

/-- The maps of the bundle data manager. -/
structure BundleDataMgr where
  bundleInfos : StringMap InnerBundleInfo := ∅
  installStates : StringMap InstallState := ∅
  bundleIdMap : Std.ExtTreeMap Int32 String := ∅
  dataStorage : StringMap Json := ∅
  multiUserIdsSet : Std.ExtTreeSet Int32 := ∅
  preInstallBundleInfos : List PreInstallBundleInfo := []

namespace BundleDataMgr

variable (mgr : BundleDataMgr)

section Users

def hasUserId (userId : Int32) : Bool :=
  mgr.multiUserIdsSet.contains userId

def addUserId (userId : Int32) : BundleDataMgr :=
  { mgr with multiUserIdsSet := mgr.multiUserIdsSet.insert userId }

def removeUserId (userId : Int32) : BundleDataMgr :=
  { mgr with multiUserIdsSet := mgr.multiUserIdsSet.erase userId }

def getAllUser : Std.ExtTreeSet Int32 :=
  mgr.multiUserIdsSet

/-- The user a request is about, `invalidUserId` for none; `callingUserId` is
the user of the caller. -/
def getUserId (userId callingUserId : Int32) : Int32 :=
  if userId = anyUserId || userId = allUserId then userId
  else
    let requested := if userId = unspecifiedUserId then callingUserId else userId
    if mgr.hasUserId requested then requested else invalidUserId

end Users

section Storage

/-- Write a record into the storage, under the name the record carries. -/
def saveStorageBundleInfo (info : InnerBundleInfo) (accepted : Bool) :
    Bool × BundleDataMgr :=
  if accepted then
    (true, { mgr with
      dataStorage := mgr.dataStorage.insert info.getBundleName info.toJson })
  else (false, mgr)

/-- Delete a record from the storage. -/
def deleteStorageBundleInfo (info : InnerBundleInfo) (accepted : Bool) :
    Bool × BundleDataMgr :=
  if accepted then
    (true, { mgr with dataStorage := mgr.dataStorage.erase info.getBundleName })
  else (false, mgr)

/-- Keep a record in memory. -/
def putInfo (bundleName : String) (info : InnerBundleInfo) : BundleDataMgr :=
  { mgr with bundleInfos := mgr.bundleInfos.insert bundleName info }

end Storage

section BundleIds

/-- The first id from `candidate` on that is below the largest one and not in
use; `fuel` counts the ids in between. -/
def firstFreeBundleId (bundleIdMap : Std.ExtTreeMap Int32 String) :
    Nat → Int32 → Option Int32
  | 0, _ => none
  | fuel + 1, candidate =>
      if bundleIdMap.contains candidate then
        firstFreeBundleId bundleIdMap fuel (candidate + 1)
      else some candidate

/-- The id of a bundle, and the ids in use then: the id the bundle has, or else
the first one that is free. -/
def generateBundleId (bundleIdMap : Std.ExtTreeMap Int32 String)
    (bundleName : String) : Option (Int32 × Std.ExtTreeMap Int32 String) :=
  match bundleIdMap.keys.getLast? with
  | none => some (baseAppUid, bundleIdMap.insert baseAppUid bundleName)
  | some largest =>
      match bundleIdMap.toList.find? (·.2 = bundleName) with
      | some (bundleId, _) => some (bundleId, bundleIdMap)
      | none =>
          match firstFreeBundleId bundleIdMap
              (largest.toInt - baseAppUid.toInt).toNat baseAppUid with
          | some bundleId =>
              some (bundleId, bundleIdMap.insert bundleId bundleName)
          | none =>
              if largest = maxAppUid then none
              else
                some (largest + 1, bundleIdMap.insert (largest + 1) bundleName)

/-- Give a user's information the uid of its bundle. -/
def generateUidAndGid (userInfo : InnerBundleUserInfo) :
    Option InnerBundleUserInfo × BundleDataMgr :=
  if userInfo.bundleName = "" then (none, mgr)
  else
    match generateBundleId mgr.bundleIdMap userInfo.bundleName with
    | none => (none, mgr)
    | some (bundleId, bundleIdMap) =>
        let uid := userInfo.bundleUserInfo.userId * baseUserRange +
          bundleId % baseUserRange
        (some { userInfo with uid := uid, gids := userInfo.gids ++ [uid] },
          { mgr with bundleIdMap := bundleIdMap })

/-- Give back the id that the first user of a record has. -/
def recycleUidAndGid (info : InnerBundleInfo) : BundleDataMgr :=
  match info.innerBundleUserInfos.begin? with
  | none => mgr
  | some userInfo =>
      { mgr with
        bundleIdMap := mgr.bundleIdMap.erase
          (userInfo.uid - userInfo.bundleUserInfo.userId * baseUserRange) }

end BundleIds

section InstallStates

/-- Forget a bundle.  An installation that failed has nothing to forget. -/
def deleteBundleInfo (bundleName : String) (state : InstallState)
    (accepted : Bool) : BundleDataMgr :=
  if state = .installFail then mgr
  else
    match mgr.bundleInfos[bundleName]? with
    | none => mgr
    | some info =>
        -- A storage that refuses is only logged.
        let mgr := ((mgr.recycleUidAndGid info).deleteStorageBundleInfo info
          accepted).2
        { mgr with bundleInfos := mgr.bundleInfos.erase bundleName }

def updateBundleInstallState (bundleName : String) (state : InstallState)
    (accepted : Bool) : Bool × BundleDataMgr :=
  if bundleName = "" then (false, mgr)
  else
    match mgr.installStates[bundleName]? with
    | none =>
        if state = .installStart then
          (true, { mgr with
            installStates := mgr.installStates.insert bundleName state })
        else (false, mgr)
    | some current =>
        if current ∈ state.transferStates then
          if state.isDeleteDataState then
            let mgr := { mgr with
              installStates := mgr.installStates.erase bundleName }
            (true, mgr.deleteBundleInfo bundleName state accepted)
          else
            (true, { mgr with
              installStates := mgr.installStates.insert bundleName state })
        else (false, mgr)

/-- Whether a bundle may go from the state it is in into another. -/
def mayEnter (bundleName : String) (state : InstallState) : Bool :=
  bundleName ≠ "" &&
    mgr.installStates[bundleName]?.any (· ∈ state.transferStates)

variable {bundleName : String} {state : InstallState}

theorem updateBundleInstallState_of_mayEnter (accepted : Bool)
    (enters : mgr.mayEnter bundleName state = true) :
    mgr.updateBundleInstallState bundleName state accepted =
      (true,
        if state.isDeleteDataState then
          { mgr with
            installStates := mgr.installStates.erase bundleName }.deleteBundleInfo
            bundleName state accepted
        else { mgr with
          installStates := mgr.installStates.insert bundleName state }) := by
  simp only [mayEnter, Bool.and_eq_true, decide_eq_true_eq,
    Option.any_eq_true] at enters
  obtain ⟨named, current, present, allowed⟩ := enters
  simp only [updateBundleInstallState, named, present, ↓reduceIte, allowed]
  split <;> rfl

theorem updateBundleInstallState_of_not_mayEnter (accepted : Bool)
    (rejected : mgr.mayEnter bundleName state = false) :
    mgr.updateBundleInstallState bundleName state accepted =
      if bundleName ≠ "" ∧ mgr.installStates[bundleName]? = none ∧
          state = .installStart then
        (true, { mgr with
          installStates := mgr.installStates.insert bundleName state })
      else (false, mgr) := by
  by_cases unnamed : bundleName = ""
  · simp [updateBundleInstallState, unnamed]
  · cases present : mgr.installStates[bundleName]? with
    | none => simp [updateBundleInstallState, unnamed, present]
    | some current =>
        have excluded : current ∉ state.transferStates := by
          simpa [mayEnter, unnamed, present] using rejected
        simp [updateBundleInstallState, unnamed, present, excluded]

@[simp]
theorem recycleUidAndGid_bundleInfos (info : InnerBundleInfo) :
    (mgr.recycleUidAndGid info).bundleInfos = mgr.bundleInfos := by
  unfold recycleUidAndGid
  cases info.innerBundleUserInfos.begin? <;> rfl

@[simp]
theorem recycleUidAndGid_dataStorage (info : InnerBundleInfo) :
    (mgr.recycleUidAndGid info).dataStorage = mgr.dataStorage := by
  unfold recycleUidAndGid
  cases info.innerBundleUserInfos.begin? <;> rfl

@[simp]
theorem recycleUidAndGid_installStates (info : InnerBundleInfo) :
    (mgr.recycleUidAndGid info).installStates = mgr.installStates := by
  unfold recycleUidAndGid
  cases info.innerBundleUserInfos.begin? <;> rfl

@[simp]
theorem deleteBundleInfo_installStates (bundleName : String)
    (state : InstallState) (accepted : Bool) :
    (mgr.deleteBundleInfo bundleName state accepted).installStates =
      mgr.installStates := by
  unfold deleteBundleInfo deleteStorageBundleInfo
  cases mgr.bundleInfos[bundleName]? <;> cases accepted <;> split <;> simp

/-- The states of the installer after a transition. -/
theorem updateBundleInstallState_installStates (bundleName : String)
    (state : InstallState) (accepted : Bool) :
    (mgr.updateBundleInstallState bundleName state accepted).2.installStates =
      if mgr.mayEnter bundleName state then
        if state.isDeleteDataState then mgr.installStates.erase bundleName
        else mgr.installStates.insert bundleName state
      else if bundleName ≠ "" ∧ mgr.installStates[bundleName]? = none ∧
          state = .installStart then
        mgr.installStates.insert bundleName state
      else mgr.installStates := by
  cases enters : mgr.mayEnter bundleName state with
  | true =>
      rw [mgr.updateBundleInstallState_of_mayEnter accepted enters]
      cases state.isDeleteDataState <;> simp
  | false =>
      rw [mgr.updateBundleInstallState_of_not_mayEnter accepted enters]
      split <;> simp_all

end InstallStates

section Records

def addInnerBundleInfo (bundleName : String) (info : InnerBundleInfo)
    (accepted : Bool) : Bool × BundleDataMgr :=
  if bundleName = "" then (false, mgr)
  else if mgr.bundleInfos.contains bundleName then (false, mgr)
  else
    match mgr.installStates[bundleName]? with
    | some .installStart =>
        match mgr.saveStorageBundleInfo info accepted with
        | (true, mgr) => (true, mgr.putInfo bundleName info)
        | (false, mgr) => (false, mgr)
    | _ => (false, mgr)

/-- Keep the record of a clone, which memory has under a name of its own. -/
def saveNewInfoToDB (bundleName : String) (info : InnerBundleInfo)
    (time : Int64) (accepted : Bool) :
    Bool × InnerBundleInfo × BundleDataMgr :=
  if bundleName = "" then (false, info, mgr)
  else if mgr.bundleInfos.contains info.getDBKeyBundleName then
    (false, info, mgr)
  else
    let info := info.setBundleInstallTime time unspecifiedUserId
    match mgr.saveStorageBundleInfo info accepted with
    | (true, mgr) => (true, info, mgr.putInfo info.getDBKeyBundleName info)
    | (false, mgr) => (false, info, mgr)

/-- The record of a bundle a module has been added to. -/
def withNewModule (newInfo oldInfo : InnerBundleInfo) : InnerBundleInfo :=
  let oldInfo :=
    if !oldInfo.hasEntry || oldInfo.getEntryInstallationFree then
      (((oldInfo.updateBaseBundleInfo newInfo.baseBundleInfo
        newInfo.hasEntry).updateBaseApplicationInfo
          newInfo.baseApplicationInfo).setAppPrivilegeLevel
            newInfo.getAppPrivilegeLevel).setAllowedAcls newInfo.allowedAcls
    else oldInfo
  ((oldInfo.setBundlePackInfo newInfo.bundlePackInfo).addModuleInfo
    newInfo).setBundleStatus .enabled

/-- Add a module; the caller's copy of the record changes along, whether or not
the storage accepts it. -/
def addNewModuleInfo (bundleName : String) (newInfo oldInfo : InnerBundleInfo)
    (accepted : Bool) : Bool × InnerBundleInfo × BundleDataMgr :=
  if mgr.bundleInfos.contains bundleName then
    match mgr.installStates[bundleName]? with
    | some .updatingSuccess =>
        let oldInfo := withNewModule newInfo oldInfo
        match mgr.saveStorageBundleInfo oldInfo accepted with
        | (true, mgr) => (true, oldInfo, mgr.putInfo bundleName oldInfo)
        | (false, mgr) => (false, oldInfo, mgr)
    | _ => (false, oldInfo, mgr)
  else (false, oldInfo, mgr)

/-- Remove a module.  In a state in which nothing may be removed, and also when
the storage refuses the record, the call reports success. -/
def removeModuleInfo (bundleName modulePackage : String)
    (oldInfo : InnerBundleInfo) (accepted : Bool) :
    Bool × InnerBundleInfo × BundleDataMgr :=
  if mgr.bundleInfos.contains bundleName then
    match mgr.installStates[bundleName]? with
    | none => (false, oldInfo, mgr)
    | some state =>
        if state = .uninstallStart || state = .rollBack then
          let oldInfo :=
            (oldInfo.removeModuleInfo modulePackage).setBundleStatus .enabled
          match mgr.saveStorageBundleInfo oldInfo accepted with
          | (true, mgr) => (true, oldInfo, mgr.putInfo bundleName oldInfo)
          | (false, mgr) => (true, oldInfo, mgr)
        else (true, oldInfo, mgr)
  else (false, oldInfo, mgr)

/-- Change a record where it is and save it afterwards. -/
def changeInPlace (bundleName : String)
    (change : InnerBundleInfo → InnerBundleInfo) (accepted : Bool) :
    Bool × BundleDataMgr :=
  match mgr.bundleInfos[bundleName]? with
  | none => (false, mgr)
  | some info =>
      (mgr.putInfo bundleName (change info)).saveStorageBundleInfo (change info)
        accepted

def addInnerBundleUserInfo (bundleName : String)
    (newUserInfo : InnerBundleUserInfo) (accepted : Bool) :
    Bool × BundleDataMgr :=
  mgr.changeInPlace bundleName
    (fun info => (info.addInnerBundleUserInfo newUserInfo).setBundleStatus
      .enabled) accepted

def removeInnerBundleUserInfo (bundleName : String) (userId : Int32)
    (accepted : Bool) : Bool × BundleDataMgr :=
  mgr.changeInPlace bundleName
    (fun info => (info.removeInnerBundleUserInfo userId).setBundleStatus
      .enabled) accepted

/-- The record of a bundle one of whose modules has been replaced. -/
def withUpdatedModule (newInfo oldInfo : InnerBundleInfo) : InnerBundleInfo :=
  let oldInfo :=
    -- An entry is updated by an entry, features alone by any feature.
    if newInfo.hasEntry || !oldInfo.hasEntry ||
        oldInfo.getEntryInstallationFree then
      (((((oldInfo.updateBaseBundleInfo newInfo.baseBundleInfo
        newInfo.hasEntry).updateBaseApplicationInfo
          newInfo.baseApplicationInfo).setAppType newInfo.appType).setAppFeature
            newInfo.appFeature).setAppPrivilegeLevel
              newInfo.getAppPrivilegeLevel).setAllowedAcls newInfo.allowedAcls
    else oldInfo
  ((oldInfo.setBundlePackInfo newInfo.bundlePackInfo).updateModuleInfo
    newInfo).setBundleStatus .enabled

def updateInnerBundleInfo (bundleName : String)
    (newInfo oldInfo : InnerBundleInfo) (accepted : Bool) :
    Bool × InnerBundleInfo × BundleDataMgr :=
  if mgr.bundleInfos.contains bundleName then
    match mgr.installStates[bundleName]? with
    | none => (false, oldInfo, mgr)
    | some state =>
        if state = .updatingSuccess || state = .rollBack ||
            state = .userChange then
          let oldInfo := withUpdatedModule newInfo oldInfo
          match mgr.saveStorageBundleInfo oldInfo accepted with
          | (true, mgr) => (true, oldInfo, mgr.putInfo bundleName oldInfo)
          | (false, mgr) => (false, oldInfo, mgr)
        else (false, oldInfo, mgr)
  else (false, oldInfo, mgr)

def saveInnerBundleInfo (info : InnerBundleInfo) (accepted : Bool) :
    Bool × BundleDataMgr :=
  mgr.saveStorageBundleInfo info accepted

/-- Set the status of a record, which only memory has. -/
def setStatus (bundleName : String) (status : BundleStatus) :
    Option InnerBundleInfo × BundleDataMgr :=
  if bundleName = "" then (none, mgr)
  else
    match mgr.bundleInfos[bundleName]? with
    | none => (none, mgr)
    | some info =>
        let info := info.setBundleStatus status
        (some info, mgr.putInfo bundleName info)

/-- Copy the record of a bundle, which disables the bundle. -/
def getInnerBundleInfo (bundleName : String) :
    Option InnerBundleInfo × BundleDataMgr :=
  mgr.setStatus bundleName .disabled

def disableBundle (bundleName : String) : Bool × BundleDataMgr :=
  ((mgr.setStatus bundleName .disabled).1.isSome,
    (mgr.setStatus bundleName .disabled).2)

def enableBundle (bundleName : String) : Bool × BundleDataMgr :=
  ((mgr.setStatus bundleName .enabled).1.isSome,
    (mgr.setStatus bundleName .enabled).2)

section Status

variable (bundleName other : String) (status : BundleStatus)

/-- The records after the status of one bundle has been set. -/
theorem setStatus_bundleInfos :
    (mgr.setStatus other status).2.bundleInfos[bundleName]? =
      if other ≠ "" ∧ other = bundleName then
        mgr.bundleInfos[bundleName]?.map (·.setBundleStatus status)
      else mgr.bundleInfos[bundleName]? := by
  unfold setStatus
  by_cases unnamed : other = ""
  · simp [unnamed]
  by_cases same : other = bundleName
  · subst same
    cases found : mgr.bundleInfos[other]? <;> simp [unnamed, found, putInfo]
  · cases mgr.bundleInfos[other]? <;>
      simp [unnamed, same, putInfo, Std.ExtTreeMap.getElem?_insert]

@[simp]
theorem setStatus_installStates :
    (mgr.setStatus other status).2.installStates = mgr.installStates := by
  unfold setStatus
  split
  · rfl
  · cases mgr.bundleInfos[other]? <;> rfl

@[simp]
theorem setStatus_dataStorage :
    (mgr.setStatus other status).2.dataStorage = mgr.dataStorage := by
  unfold setStatus
  split
  · rfl
  · cases mgr.bundleInfos[other]? <;> rfl

@[simp]
theorem setStatus_bundleIdMap :
    (mgr.setStatus other status).2.bundleIdMap = mgr.bundleIdMap := by
  unfold setStatus
  split
  · rfl
  · cases mgr.bundleInfos[other]? <;> rfl

/-- A copied record is the stored one, disabled. -/
theorem getInnerBundleInfo_eq_some {mgr : BundleDataMgr}
    {bundleName : String} {info : InnerBundleInfo}
    (copied : (mgr.getInnerBundleInfo bundleName).1 = some info) :
    ∃ stored, mgr.bundleInfos[bundleName]? = some stored ∧
      info = stored.setBundleStatus .disabled := by
  unfold getInnerBundleInfo setStatus at copied
  grind

end Status

end Records

section Switches

/-- Switch an application on or off for one user.  The switches are kept in a
storage of their own. -/
def setApplicationEnabled (bundleName : String) (isEnable : Bool)
    (userId callingUserId : Int32) : Bool × BundleDataMgr :=
  if bundleName = "" then (false, mgr)
  else
    let requestUserId := mgr.getUserId userId callingUserId
    if requestUserId = invalidUserId then (false, mgr)
    else
      match mgr.bundleInfos[bundleName]? with
      | none => (false, mgr)
      | some info =>
          let info := info.setApplicationEnabled isEnable requestUserId
          ((info.getInnerBundleUserInfo requestUserId).isSome,
            mgr.putInfo bundleName info)

def setAbilityEnabled (bundleName moduleName abilityName : String)
    (isEnabled : Bool) (userId callingUserId : Int32) : Bool × BundleDataMgr :=
  let requestUserId := mgr.getUserId userId callingUserId
  if requestUserId = invalidUserId then (false, mgr)
  else
    match mgr.bundleInfos[bundleName]? with
    | none => (false, mgr)
    | some info =>
        match info.setAbilityEnabled bundleName moduleName abilityName isEnabled
            requestUserId with
        | none => (false, mgr)
        | some info =>
            ((info.getInnerBundleUserInfo requestUserId).isSome,
              mgr.putInfo bundleName info)

end Switches

section Sandboxes

/-- Change what a bundle keeps about its sandbox applications; a storage that
refuses is not noticed. -/
def changeSandboxPersistentInfo (bundleName : String)
    (change : InnerBundleInfo → InnerBundleInfo) (accepted : Bool) :
    BundleDataMgr :=
  if bundleName = "" then mgr
  else (mgr.changeInPlace bundleName change accepted).2

def storeSandboxPersistentInfo (bundleName : String)
    (info : SandboxAppPersistentInfo) (accepted : Bool) : BundleDataMgr :=
  mgr.changeSandboxPersistentInfo bundleName
    (·.addSandboxPersistentInfo info) accepted

def deleteSandboxPersistentInfo (bundleName : String)
    (info : SandboxAppPersistentInfo) (accepted : Bool) : BundleDataMgr :=
  mgr.changeSandboxPersistentInfo bundleName
    (·.removeSandboxPersistentInfo info) accepted

end Sandboxes

section Clones

/-- Forget a clone.  Its id is given back first, whether or not the storage lets
the record go. -/
def removeClonedBundleInfo (bundleName : String) (accepted : Bool) :
    Bool × BundleDataMgr :=
  match mgr.bundleInfos[bundleName]? with
  | none => (true, mgr)
  | some info =>
      match (mgr.recycleUidAndGid info).deleteStorageBundleInfo info accepted with
      | (true, mgr) =>
          (true, { mgr with bundleInfos := mgr.bundleInfos.erase bundleName })
      | (false, mgr) => (false, mgr)

/-- The first name that contains the name of the bundle and a number sign. -/
def getClonedBundleName (bundleName : String) : Option String :=
  mgr.bundleInfos.keys.find? (Text.contains · (bundleName ++ "#"))

end Clones

section PreInstalled

def getPreInstallBundleInfo (bundleName : String) :
    Option PreInstallBundleInfo :=
  if bundleName = "" then none
  else mgr.preInstallBundleInfos.find? (·.bundleName = bundleName)

/-- Replace the first entry of that name, or add one. -/
def savePreInstallBundleInfo (info : PreInstallBundleInfo) (accepted : Bool) :
    Bool × BundleDataMgr :=
  if accepted then
    (true, { mgr with
      preInstallBundleInfos := replaceOrAdd mgr.preInstallBundleInfos })
  else (false, mgr)
where
  replaceOrAdd : List PreInstallBundleInfo → List PreInstallBundleInfo
    | [] => [info]
    | first :: rest =>
        if first.bundleName = info.bundleName then info :: rest
        else first :: replaceOrAdd rest

end PreInstalled

/-- The uri prefixes that are taken for a user, by the user's own bundles and
by those of the default user. -/
def getAllUriPrefix (userId : Int32) (excludeModule : String) : List String :=
  mgr.bundleInfos.values.flatMap fun info =>
    info.getUserUriPrefixList userId excludeModule ++
      info.getUserUriPrefixList defaultUserId excludeModule

end BundleDataMgr

end AppExecFwk
