import AppExecFwk.Store.Commands

/-!
# The clone manager

`BundleCloneMgr` makes a second record of an installed bundle and keeps it in
memory under a name of its own.  What it is working on are members of the one
clone manager of the service, so a later removal still reads them.
-/

namespace AppExecFwk

open CommandProgram

namespace BundleCloneMgr

/-- The directory of the data of all clones of the kind of the bundle, if it is
of a known kind. -/
def modifyInstallDirByHapType (info : InnerBundleInfo) : Option String :=
  let internalPath := "/account_" ++ toString info.userId ++ "/"
  if info.appType = .systemApp then
    some ("/data/accounts" ++ internalPath ++ "appdata")
  else if info.appType = .thirdSystemApp then
    some ("/data/accounts" ++ internalPath ++ "appdata")
  else if info.appType = .thirdPartyApp then
    some ("/data/accounts" ++ internalPath ++ "appdata")
  else none

def updateBundlePaths (info : InnerBundleInfo) (baseDataPath : String) :
    InnerBundleInfo :=
  (((info.setBaseDataDir baseDataPath).setAppDataDir
    baseDataPath).setAppDataBaseDir
      (baseDataPath ++ "/" ++ "database")).setAppCacheDir
        (baseDataPath ++ "/" ++ "cache")

/-- Make the data directory of a clone.  The uid that is generated goes to the
directory alone. -/
def createBundleAndDataDir (bundleName baseDataPath : String)
    (info : InnerBundleInfo) : Operation (ErrCode × InnerBundleInfo) := do
  match ← store (.generateUidAndGid {
      bundleUserInfo := { userId := defaultUserId }
      bundleName := bundleName }) with
  | none => return (.installGenerateUidError, info)
  | some newInnerBundleUserInfo =>
  let info := info.setApplicationInfoUid.setNewBundleName bundleName
  let cloneDataPath := baseDataPath ++ "/" ++ info.getDBKeyBundleName
  let result ← request (.createBundleDataDir cloneDataPath
    newInnerBundleUserInfo.bundleUserInfo.userId newInnerBundleUserInfo.uid
    newInnerBundleUserInfo.uid info.getAppPrivilegeLevel)
  if result ≠ .ok then
    return (result, info)
  return (.ok, updateBundlePaths info cloneDataPath)

def processCloneInstall : Operation ErrCode := do
  let info := (← getCloneMgr).cloneInfo
  match modifyInstallDirByHapType info with
  | none => return .installParamError
  | some baseDataPath =>
  let bundleName := info.getBundleName
  setCloneMgr { cloneInfo := info, bundleName := bundleName }
  let (result, info) ← createBundleAndDataDir bundleName baseDataPath info
  setCloneMgr { cloneInfo := info, bundleName := bundleName }
  if result ≠ .ok then
    return result
  let time ← request .getCurrentTime
  let (saved, info) ← store (.saveNewInfoToDB bundleName
    (info.setBundleStatus .enabled) time)
  setCloneMgr { cloneInfo := info, bundleName := bundleName }
  if !saved then
    return .installBundleMgrServiceError
  let _ ← store (.enableBundle info.getDBKeyBundleName)
  let _ ← store (.enableBundle bundleName)
  return .ok

/-- Copy the record of the bundle, which disables the bundle. -/
def createCloneBundleInfo (bundleName : String) : Operation Bool := do
  match ← store (.getInnerBundleInfo bundleName) with
  | none => return false
  | some info =>
  setCloneMgr { ← getCloneMgr with cloneInfo := info.setIsCloned true }
  return true

/-- Clone a bundle; no failure enables the bundle again. -/
def bundleClone (bundleName : String) : Operation Bool := do
  if !(← request (.checkBundleNameInAllowList bundleName)) then
    return false
  if !(← request (.setCloneAppName bundleName)) then
    return false
  if !(← createCloneBundleInfo bundleName) then
    let _ ← request (.deleteCloneAppName bundleName)
    return false
  let result ← processCloneInstall
  if result ≠ .ok then
    let _ ← request (.deleteCloneAppName bundleName)
    return false
  return true

/-- Stop a clone and take its directory and its record away. -/
def removeCloneInfo (oldName bundleName : String) (info : InnerBundleInfo) :
    Operation Bool := do
  if !(← request (.uninstallApplicationProcesses info.getApplicationName
      (info.getUid unspecifiedUserId))) then
    return false
  let result ← request (.removeDir info.baseDataDir)
  if result ≠ .ok then
    return false
  if !(← store (.removeClonedBundleInfo bundleName)) then
    return false
  request (.deleteCloneAppName oldName)

/-- Remove the clone `bundleName` of `oldName`.  What is enabled at the end is
the bundle that was cloned last, and its clone. -/
def removeClonedBundle (oldName bundleName : String) : Operation Bool := do
  if bundleName = "" then
    return false
  match ← store (.getInnerBundleInfo bundleName) with
  | none => return false
  | some info =>
  let mgr ← getCloneMgr
  let removed ← removeCloneInfo oldName bundleName info
  let _ ← store (.enableBundle mgr.bundleName)
  let _ ← store (.enableBundle mgr.cloneInfo.getDBKeyBundleName)
  return removed

end BundleCloneMgr

end AppExecFwk
