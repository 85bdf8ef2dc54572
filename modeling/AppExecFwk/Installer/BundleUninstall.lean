import AppExecFwk.Installer.BundleCloneMgr
import AppExecFwk.Sandbox.BundleSandboxInstaller

/-!
# Uninstalling bundles and modules

The half of `BaseBundleInstaller` that takes bundles away: a whole bundle, one
module of it, or what one user has of it.  Each operation is written down in
the order of the source; a scope guard that has not been dismissed runs where
the operation returns, the last one first.
-/

namespace AppExecFwk

open CommandProgram

/-- Whether an installed version may be replaced. -/
inductive InstallFlag where
  | normal
  | replaceExisting
  | freeInstall
  deriving DecidableEq

/-- How to install or uninstall. -/
structure InstallParam where
  installFlag : InstallFlag := .normal
  userId : Int32 := unspecifiedUserId
  isKeepData : Bool := false
  needSavePreInstallInfo : Bool := false
  isPreInstallApp : Bool := false
  forceExecuted : Bool := false
  noSkipsKill : Bool := true
  hashParams : StringMap String := ∅

namespace BaseBundleInstaller

def getUserId (userId : Int32) : Int32 :=
  if userId < defaultUserId then invalidUserId else userId

/-- Where the package of a module is kept. -/
def getHapPath (info : InnerBundleInfo) (moduleName : String) : String :=
  info.getAppCodePath ++ "/" ++ moduleName ++ ".hap"

def removeModuleDir (modulePath : String) : Operation ErrCode :=
  request (.removeDir modulePath)

def removeBundleCodeDir (info : InnerBundleInfo) : Operation ErrCode :=
  request (.removeDir info.getAppCodePath)

def removeBundleDataDir (info : InnerBundleInfo) (userId : Int32) :
    Operation ErrCode :=
  request (.removeBundleDataDir info.getBundleName userId)

def removeBundleAndDataDir (info : InnerBundleInfo) (userId : Int32)
    (isKeepData : Bool) : Operation ErrCode := do
  let result ← removeBundleCodeDir info
  if result ≠ .ok then
    return result
  if !isKeepData then
    return ← removeBundleDataDir info userId
  return result

def removeModuleDataDir (info : InnerBundleInfo) (modulePackage : String)
    (userId : Int32) : Operation ErrCode := do
  match info.innerModuleInfos[modulePackage]? with
  | none => return .noInit
  | some module =>
      request (.removeModuleDataDir
        (info.getBundleName ++ "/haps/" ++ module.moduleName) userId)

/-- Remove the directory and the package of a module, and its data for one user
or for all users; data that stays is not an error. -/
def removeModuleAndDataDir (info : InnerBundleInfo) (modulePackage : String)
    (userId : Int32) (isKeepData : Bool) : Operation ErrCode := do
  let result ← removeModuleDir (info.getModuleDir modulePackage)
  if result ≠ .ok then
    return result
  let result ← removeModuleDir
    (getHapPath info (info.getModuleName modulePackage))
  if result ≠ .ok then
    return result
  if !isKeepData then
    if userId ≠ unspecifiedUserId then
      let _ ← removeModuleDataDir info modulePackage userId
      return .ok
    info.innerBundleUserInfos.values.forM fun user => do
      let _ ← removeModuleDataDir info modulePackage user.bundleUserInfo.userId
  return .ok

/-- Remove a whole bundle; a directory that cannot be removed takes the record
along as well. -/
def removeBundle (info : InnerBundleInfo) (userId : Int32)
    (isKeepData : Bool) : Operation ErrCode := do
  let result ← removeBundleAndDataDir info userId isKeepData
  if result ≠ .ok then
    let _ ← store (.updateBundleInstallState info.getBundleName .uninstallFail)
    return result
  if !(← store
      (.updateBundleInstallState info.getBundleName .uninstallSuccess)) then
    return .installBundleMgrServiceError
  let _ ← request (.deleteAccessTokenId (info.getAccessTokenId userId))
  return .ok

/-- Remove what one user has of a bundle. -/
def removeBundleUserData (innerBundleInfo : InnerBundleInfo) (userId : Int32)
    (needRemoveData : Bool) : Operation ErrCode := do
  let bundleName := innerBundleInfo.getBundleName
  if !innerBundleInfo.hasInnerBundleUserInfo userId then
    return .userNotExist
  if !needRemoveData then
    let result ← removeBundleDataDir innerBundleInfo userId
    if result ≠ .ok then
      return result
  let _ ← request (.deleteAccessTokenId
    (innerBundleInfo.getAccessTokenId userId))
  if !(← store (.removeInnerBundleUserInfo bundleName userId)) then
    return .installBundleMgrServiceError
  return .ok

/-- Whether the bundle is a system application that has to stay. -/
def isProtected (info : InnerBundleInfo) (param : InstallParam) : Bool :=
  !param.forceExecuted && info.baseApplicationInfo.isSystemApp &&
    !info.isRemovable && param.noSkipsKill

/-- Stop the processes of an application, except when the device starts. -/
def killProcesses (info : InnerBundleInfo) (noSkipsKill : Bool)
    (uid : Int32) : Operation Bool :=
  if noSkipsKill then
    request (.uninstallApplicationProcesses info.getApplicationName uid)
  else pure true

/-- Check the user, copy the record, which disables the bundle, and enable the
bundle again unless the work has dismissed that guard. -/
def workOnCopy (bundleName : String) (param : InstallParam)
    (work : Int32 → InnerBundleInfo → Operation (ErrCode × Bool)) :
    Operation ErrCode := do
  let userId := getUserId param.userId
  if userId = invalidUserId then
    return .installParamError
  if !(← store (.hasUserId userId)) then
    return .userNotExist
  match ← store (.getInnerBundleInfo bundleName) with
  | none => return .uninstallMissingInstalledBundle
  | some oldInfo =>
  let (result, dismissed) ← work userId oldInfo
  if !dismissed then
    let _ ← store (.enableBundle bundleName)
  return result

section Bundle

/-- Stop the only user's bundle and remove it. -/
def uninstallOnlyUser (bundleName : String) (param : InstallParam)
    (userId : Int32) (oldInfo : InnerBundleInfo) (uid : Int32) :
    Operation ErrCode := do
  if !(← store (.updateBundleInstallState bundleName .uninstallStart)) then
    return .installBundleMgrServiceError
  if !(← killProcesses oldInfo param.noSkipsKill uid) then
    let _ ← store (.updateBundleInstallState bundleName .installSuccess)
    return .uninstallKillingAppError
  let oldInfo := oldInfo.setInstallMark bundleName "" .uninstallBundleStart
  if !(← store (.saveInnerBundleInfo oldInfo)) then
    return .installInternalError
  removeBundle oldInfo userId param.isKeepData

/-- Uninstall a bundle whose record has been copied; the result says also
whether the record is gone and need not be enabled again. -/
def uninstallCopied (bundleName : String) (param : InstallParam)
    (userId : Int32) (oldInfo : InnerBundleInfo) :
    Operation (ErrCode × Bool) := do
  match oldInfo.getInnerBundleUserInfo userId with
  | none => return (.userNotInstallHap, false)
  | some curInnerBundleUserInfo =>
  if isProtected oldInfo param then
    return (.uninstallSystemAppError, false)
  match ← store (.getClonedBundleName bundleName) with
  | some cloneName =>
      -- This path has no clone manager: the call goes through a null pointer.
      let _ ← store (.getInnerBundleInfo cloneName)
      .halt
  | none =>
  if oldInfo.innerBundleUserInfos.size > 1 then
    let result ← removeBundleUserData oldInfo userId param.isKeepData
    return (result, false)
  let result ← uninstallOnlyUser bundleName param userId oldInfo
    curInnerBundleUserInfo.uid
  return (result, result = .ok)

/-- Uninstall a bundle for a user. -/
def processBundleUninstall (bundleName : String) (param : InstallParam) :
    Operation ErrCode :=
  if bundleName = "" then pure .uninstallInvalidName
  else workOnCopy bundleName param (uninstallCopied bundleName param)

end Bundle

section Module

/-- The directories of a module go with its only user, else the user's data. -/
def removeModuleOfUser (info : InnerBundleInfo) (modulePackage : String)
    (userId : Int32) (isKeepData : Bool) : Operation ErrCode :=
  if info.innerBundleUserInfos.size = 1 then
    removeModuleAndDataDir info modulePackage userId isKeepData
  else if !isKeepData then removeModuleDataDir info modulePackage userId
  else pure .ok

/-- Remove one module of several, for all users. -/
def removeOneModule (bundleName modulePackage : String) (param : InstallParam)
    (userId : Int32) (oldInfo : InnerBundleInfo) : Operation ErrCode := do
  let result ← removeModuleOfUser oldInfo modulePackage userId param.isKeepData
  if result ≠ .ok then
    return result
  let oldInfo := oldInfo.setInstallMark bundleName modulePackage .installFinish
  let (removed, _) ← store
    (.removeModuleInfo bundleName modulePackage oldInfo)
  if !removed then
    return .installBundleMgrServiceError
  return .ok

/-- Remove the clone of a bundle, if there is one. -/
def removeCloneOf (bundleName : String) : Operation Unit := do
  match ← store (.getClonedBundleName bundleName) with
  | none => return ()
  | some cloneName =>
      let _ ← BundleCloneMgr.removeClonedBundle bundleName cloneName

/-- The removal of the only module is that of the bundle. -/
def removeOnlyModule (info : InnerBundleInfo) (userId : Int32)
    (isKeepData : Bool) : Operation ErrCode :=
  if info.innerBundleUserInfos.size = 1 then
    removeBundle info userId isKeepData
  else removeBundleUserData info userId isKeepData

/-- Remove a module of a bundle whose state says so; the removal of the only
module dismisses both guards. -/
def uninstallStartedModule (bundleName modulePackage : String)
    (param : InstallParam) (userId : Int32) (oldInfo : InnerBundleInfo)
    (uid : Int32) : Operation (ErrCode × Bool) := do
  if !(← killProcesses oldInfo param.noSkipsKill uid) then
    return (.uninstallKillingAppError, false)
  let oldInfo := oldInfo.setInstallMark bundleName modulePackage
    .uninstallPackageStart
  if !(← store (.saveInnerBundleInfo oldInfo)) then
    return (.installInternalError, false)
  if oldInfo.isOnlyModule modulePackage then
    removeCloneOf bundleName
    let result ← removeOnlyModule oldInfo userId param.isKeepData
    return (result, true)
  let result ← removeOneModule bundleName modulePackage param userId oldInfo
  return (result, false)

/-- Uninstall a module of a bundle whose record has been copied. -/
def uninstallModuleOf (bundleName modulePackage : String)
    (param : InstallParam) (userId : Int32) (oldInfo : InnerBundleInfo) :
    Operation (ErrCode × Bool) := do
  match oldInfo.getInnerBundleUserInfo userId with
  | none => return (.userNotInstallHap, false)
  | some curInnerBundleUserInfo =>
  if isProtected oldInfo param then
    return (.uninstallSystemAppError, false)
  if !oldInfo.findModule modulePackage then
    return (.uninstallMissingInstalledModule, false)
  if !(← store (.updateBundleInstallState bundleName .uninstallStart)) then
    return (.installBundleMgrServiceError, false)
  let (result, dismissed) ← uninstallStartedModule bundleName modulePackage
    param userId oldInfo curInnerBundleUserInfo.uid
  if !dismissed then
    let _ ← store (.updateBundleInstallState bundleName .installSuccess)
  return (result, dismissed)

/-- Uninstall a module for a user. -/
def processModuleUninstall (bundleName modulePackage : String)
    (param : InstallParam) : Operation ErrCode :=
  if bundleName = "" ∨ modulePackage = "" then pure .uninstallInvalidName
  else
    workOnCopy bundleName param
      (uninstallModuleOf bundleName modulePackage param)

end Module

/-- Uninstall the sandbox applications of a bundle before it changes. -/
def uninstallAllSandboxApps (bundleName : String) (userId : Int32) :
    Operation ErrCode := do
  if bundleName = "" then
    return .installParamError
  let result ← BundleSandboxInstaller.uninstallAllSandboxApps bundleName userId
  if result ≠ .ok then
    return .installInternalError
  return .ok

def uninstallBundle (bundleName : String) (param : InstallParam) :
    Operation ErrCode := do
  let _ ← uninstallAllSandboxApps bundleName param.userId
  processBundleUninstall bundleName param

/-- A bundle that lost a module is looked up once more, which disables it, and
enabled again. -/
def uninstallModule (bundleName modulePackage : String)
    (param : InstallParam) : Operation ErrCode := do
  let _ ← uninstallAllSandboxApps bundleName param.userId
  let result ← processModuleUninstall bundleName modulePackage param
  if result = .ok then
    if (← store (.getInnerBundleInfo bundleName)).isSome then
      let _ ← store (.enableBundle bundleName)
  return result

end BaseBundleInstaller

end AppExecFwk
