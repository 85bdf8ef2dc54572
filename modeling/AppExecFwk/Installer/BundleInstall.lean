import AppExecFwk.Installer.HapFiles

/-!
# Installing and updating bundles

The half of `BaseBundleInstaller` that brings bundles: the first package of a
bundle that is not there, modules that are added or replaced one at a time, a
further user, and what is undone when a step fails.  The members of the
installer and the records it works on are passed from step to step.
-/

namespace AppExecFwk

open CommandProgram

/-- How the packages change the singleton flag of a bundle. -/
inductive SingletonState where
  | unchanged
  | singletonToNon
  | nonToSingleton
  deriving DecidableEq

/-- The members of the installer that an installation works with. -/
structure InstallProperties where
  bundleName : String
  userId : Int32
  versionCode : UInt32
  isContainEntry : Bool
  isAppExist : Bool := false
  hasInstalledInUser : Bool := false
  isFeatureNeedUninstall : Bool := false
  uninstallModuleVec : List String := []
  installedModules : List String := []
  singletonState : SingletonState := .unchanged

namespace BaseBundleInstaller

section Directories

def bundleCodeDir : String :=
  "/data/app/el1/bundle/public"

def createBundleCodeDir (bundleName : String) (info : InnerBundleInfo) :
    Operation (ErrCode × InnerBundleInfo) := do
  let appCodePath := bundleCodeDir ++ "/" ++ bundleName
  let result ← request (.createBundleDir appCodePath)
  if result ≠ .ok then
    return (result, info)
  return (.ok, info.setAppCodePath appCodePath)

def createBundleDataDir (info : InnerBundleInfo) (userId : Int32) :
    Operation (ErrCode × InnerBundleInfo) := do
  match info.getInnerBundleUserInfo userId with
  | none => return (.userNotExist, info)
  | some userInfo =>
  match ← store (.generateUidAndGid userInfo) with
  | none => return (.installGenerateUidError, info)
  | some newInnerBundleUserInfo =>
  let result ← request (.createBundleDataDir info.getBundleName userId
    newInnerBundleUserInfo.uid newInnerBundleUserInfo.uid
    info.getAppPrivilegeLevel)
  if result ≠ .ok then
    return (result, info)
  return (.ok, (info.setAppDataBaseDir
    ("/data/app/" ++ "el2" ++ "/database/" ++
      info.getBundleName)).addInnerBundleUserInfo newInnerBundleUserInfo)

def createBundleAndDataDir (bundleName : String) (info : InnerBundleInfo)
    (userId : Int32) : Operation (ErrCode × InnerBundleInfo) := do
  let (result, info) ← createBundleCodeDir bundleName info
  if result ≠ .ok then
    return (result, info)
  let (result, info) ← createBundleDataDir info userId
  if result ≠ .ok then
    let _ ← request (.removeDir info.getAppCodePath)
  return (result, info)

/-- Unpack the module that is being installed and note where it is. -/
def extractModule (info : InnerBundleInfo) (srcModulePath modulePath : String) :
    Operation (ErrCode × InnerBundleInfo) := do
  let nativeLibraryPath := info.baseApplicationInfo.nativeLibraryPath
  let targetSoPath :=
    if nativeLibraryPath = "" then ""
    else bundleCodeDir ++ "/" ++ info.getBundleName ++ "/" ++
      nativeLibraryPath ++ "/"
  let result ← request (.extractModuleFiles srcModulePath modulePath
    targetSoPath info.baseApplicationInfo.cpuAbi)
  if result ≠ .ok then
    return (result, info)
  let hapPath :=
    if info.isPreInstallApp then srcModulePath
    else getHapPath info (info.getModuleName info.currentPackage)
  let moduleDir := info.getAppCodePath ++ "/" ++ info.currentPackage
  return (.ok, ((info.setModuleHapPath hapPath).addModuleSrcDir
    moduleDir).addModuleResPath moduleDir)

def renameModuleDir (info : InnerBundleInfo) : Operation ErrCode :=
  let moduleDir := info.getAppCodePath ++ "/" ++ info.currentPackage
  request (.renameModuleDir (moduleDir ++ "_tmp") moduleDir)

/-- Label the directories of the data, one after another. -/
def setDirAplOf (info : InnerBundleInfo) : List String → Operation ErrCode
  | [] => pure .ok
  | dir :: rest => do
      let result ← request (.setDirApl dir info.getBundleName
        info.getAppPrivilegeLevel)
      if result ≠ .ok then
        return result
      setDirAplOf info rest

def setDirApl (info : InnerBundleInfo) (userId : Int32) : Operation ErrCode :=
  setDirAplOf info (["el1", "el2"].flatMap fun el =>
    let baseBundleDataDir := "/data/app/" ++ el ++ "/" ++ toString userId
    [baseBundleDataDir ++ "/base/" ++ info.getBundleName,
      baseBundleDataDir ++ "/database/" ++ info.getBundleName])

end Directories

section Users

def newUserInfo (bundleName : String) (userId : Int32) : InnerBundleUserInfo :=
  { bundleUserInfo := { userId := userId }, bundleName := bundleName }

/-- What a user has of a bundle goes, also from the installer's own record. -/
def removeUserDataOf (info : InnerBundleInfo) (userId : Int32) :
    Operation InnerBundleInfo := do
  if !info.hasInnerBundleUserInfo userId then
    return info
  let result ← removeBundleDataDir info userId
  if result ≠ .ok then
    return info
  let _ ← request (.deleteAccessTokenId (info.getAccessTokenId userId))
  let _ ← store (.removeInnerBundleUserInfo info.getBundleName userId)
  return info.removeInnerBundleUserInfo userId

def createBundleUserData (info : InnerBundleInfo) (userId : Int32) :
    Operation (ErrCode × InnerBundleInfo) := do
  if !info.hasInnerBundleUserInfo userId then
    return (.userNotExist, info)
  let (result, info) ← createBundleDataDir info userId
  if result ≠ .ok then
    let _ ← removeBundleDataDir info userId
    return (result, info)
  let time ← request .getCurrentTime
  let info := info.setBundleInstallTime time userId
  match info.getInnerBundleUserInfo userId with
  | none => return (.userNotExist, info)
  | some innerBundleUserInfo =>
  if !(← store (.addInnerBundleUserInfo info.getBundleName
      innerBundleUserInfo)) then
    return (.installBundleMgrServiceError, info)
  return (.ok, info)

/-- Give an installed bundle one more user; what is half done is undone. -/
def addUserToBundle (bundleName : String) (userId : Int32)
    (oldInfo : InnerBundleInfo) : Operation (ErrCode × InnerBundleInfo) := do
  let oldInfo := oldInfo.addInnerBundleUserInfo (newUserInfo bundleName userId)
  let tokenId ← request (.createAccessTokenId oldInfo oldInfo.getBundleName
    userId 0)
  let oldInfo := oldInfo.setAccessTokenId tokenId userId
  if !(← request (.grantRequestPermissions oldInfo tokenId)) then
    return (.installGrantRequestPermissionsFailed,
      ← removeUserDataOf oldInfo userId)
  let (result, oldInfo) ← createBundleUserData oldInfo userId
  if result ≠ .ok then
    return (result, ← removeUserDataOf oldInfo userId)
  return (.ok, oldInfo)

end Users

section Permissions

/-- Change the permissions of a token and grant what is new in them. -/
def changePermissions (grantee : InnerBundleInfo)
    (change : UInt32 → Operation (Option (List String))) :
    List InnerBundleUserInfo → Operation ErrCode
  | [] => pure .ok
  | user :: rest => do
      if user.accessTokenId = 0 then
        return ← changePermissions grantee change rest
      match ← change user.accessTokenId with
      | none => return .installUpdateHapTokenFailed
      | some newRequestPermName =>
      if !(← request (.grantNewRequestPermissions grantee newRequestPermName
          user.accessTokenId)) then
        return .installGrantRequestPermissionsFailed
      changePermissions grantee change rest

def addDefineAndRequestPermissions (oldInfo newInfo : InnerBundleInfo) :
    Operation ErrCode :=
  changePermissions newInfo
    (fun tokenId => request (.addDefineAndRequestPermissions tokenId newInfo))
    oldInfo.innerBundleUserInfos.values

def updateDefineAndRequestPermissions (oldInfo newInfo : InnerBundleInfo) :
    Operation ErrCode :=
  changePermissions newInfo
    (fun tokenId => request
      (.updateDefineAndRequestPermissions tokenId oldInfo newInfo))
    newInfo.innerBundleUserInfos.values

end Permissions

section Checks

/-- A singleton application is for user 0, and only such an application is. -/
def matchesUser (isSingleton : Bool) (userId : Int32) : Bool :=
  isSingleton = (userId = defaultUserId)

/-- Whether the uri prefixes of a package are new.  Those of the module it
replaces do not count. -/
def verifyUriPrefix (info : InnerBundleInfo) (userId : Int32)
    (isUpdate : Bool) : Operation Bool := do
  let currentUriPrefixList := info.getUriPrefixList ""
  if currentUriPrefixList.isEmpty then
    return true
  if !currentUriPrefixList.Nodup then
    return false
  let excludeModule :=
    if isUpdate then info.getBundleName ++ "." ++ info.currentPackage ++ "."
    else ""
  let uriPrefixList ← store (.getAllUriPrefix userId excludeModule)
  return !currentUriPrefixList.any (· ∈ uriPrefixList)

def checkHapModleOrType (oldInfo : InnerBundleInfo) (infos : NewInfos) :
    Option ErrCode :=
  infos.findSome? fun item =>
    if oldInfo.isNewVersion ≠ item.2.isNewVersion then some .installStateError
    else if oldInfo.getEntryInstallationFree ≠ item.2.getEntryInstallationFree
      then some .installTypeError
    else none

/-- An application may be replaced by one of the same version, and by a later
one together with its entry. -/
def checkVersionCompatibilityForApplication (versionCode : UInt32)
    (isContainEntry : Bool) (oldInfo : InnerBundleInfo) : Option ErrCode :=
  if oldInfo.hasEntry then
    if isContainEntry && versionCode < oldInfo.getVersionCode then
      some .installVersionDowngrade
    else if !isContainEntry && versionCode > oldInfo.getVersionCode then
      some .installVersionNotCompatible
    else if !isContainEntry && versionCode < oldInfo.getVersionCode then
      some .installVersionDowngrade
    else none
  else if versionCode < oldInfo.getVersionCode then
    some .installVersionDowngrade
  else none

def checkVersionCompatibilityForHmService (versionCode : UInt32)
    (oldInfo : InnerBundleInfo) : Option ErrCode :=
  if versionCode < oldInfo.getVersionCode then some .installVersionDowngrade
  else none

def checkVersionCompatibility (versionCode : UInt32) (isContainEntry : Bool)
    (oldInfo : InnerBundleInfo) : Option ErrCode :=
  if oldInfo.getEntryInstallationFree then
    checkVersionCompatibilityForHmService versionCode oldInfo
  else
    checkVersionCompatibilityForApplication versionCode isContainEntry oldInfo

/-- Modules of one version have to agree in these. -/
def checkAppLabel (oldInfo newInfo : InnerBundleInfo) : Option ErrCode :=
  if oldInfo.getVersionName ≠ newInfo.getVersionName then
    some .installVersionnameNotSame
  else if oldInfo.getMinCompatibleVersionCode ≠
      newInfo.getMinCompatibleVersionCode then
    some .installMincompatibleVersioncodeNotSame
  else if oldInfo.getVendor ≠ newInfo.getVendor then
    some .installVendorNotSame
  else if oldInfo.getTargetVersion ≠ newInfo.getTargetVersion then
    some .installReleasetypeTargetNotSame
  else if oldInfo.getCompatibleVersion ≠ newInfo.getCompatibleVersion then
    some .installReleasetypeCompatibleNotSame
  else if oldInfo.getReleaseType ≠ newInfo.getReleaseType then
    some .installReleasetypeNotSame
  else none

end Checks

section Removable

/-- A new module keeps what the old one of its package says about removal. -/
def saveOldRemovableInfo (key modulePackage : String)
    (oldInfo info : InnerBundleInfo) : InnerBundleInfo :=
  match oldInfo.innerModuleInfos[modulePackage]? with
  | none => info
  | some oldModule =>
      { info with
        innerModuleInfos := info.innerModuleInfos.modify key fun module =>
          { module with
            isRemovable := module.isRemovable.addNew oldModule.isRemovable } }

/-- A module that a free installation brings to a user can be removed again. -/
def checkEnableRemovableOf (oldInfo : InnerBundleInfo) (userId : Int32)
    (isAppExist : Bool) (info : InnerBundleInfo) (key : String) :
    InnerBundleInfo :=
  match info.innerModuleInfos[key]? with
  | none => info
  | some module =>
      let existModule := oldInfo.findModule module.modulePackage
      if !isAppExist || !oldInfo.hasInnerBundleUserInfo userId ||
          !existModule || !info.isUserExistModule module.moduleName userId then
        let info := info.setModuleRemovable module.moduleName true userId
        if existModule then
          saveOldRemovableInfo key module.modulePackage oldInfo info
        else info
      else info

def checkEnableRemovable (newInfos : NewInfos) (oldInfo : InnerBundleInfo)
    (userId : Int32) (isFreeInstallFlag isAppExist : Bool) : NewInfos :=
  if isFreeInstallFlag then
    newInfos.map fun item =>
      (item.1, item.2.innerModuleInfos.keys.foldl
        (checkEnableRemovableOf oldInfo userId isAppExist) item.2)
  else newInfos

end Removable

section FirstPackage

/-- Install the first package into the directories that have been made. -/
def installFirstModule (bundleName : String) (info : InnerBundleInfo)
    (userId : Int32) (srcModulePath : String) :
    Operation (ErrCode × InnerBundleInfo) := do
  let modulePackage := info.currentPackage
  let (result, info) ← extractModule info srcModulePath
    (info.getAppCodePath ++ "/" ++ modulePackage)
  if result ≠ .ok then
    return (result, info)
  let info := info.setInstallMark bundleName modulePackage .installFinish
  let time ← request .getCurrentTime
  let info := info.setBundleInstallTime time userId
  let tokenId ← request (.createAccessTokenId info info.getBundleName userId 0)
  let info := info.setAccessTokenId tokenId userId
  if !(← request (.grantRequestPermissions info tokenId)) then
    return (.installGrantRequestPermissionsFailed, info)
  if !(← store (.addInnerBundleInfo bundleName info)) then
    let _ ← store (.updateBundleInstallState bundleName .uninstallStart)
    let _ ← store (.updateBundleInstallState bundleName .uninstallSuccess)
    return (.installBundleMgrServiceError, info)
  return (.ok, info)

/-- Make the directories of a new bundle and install its first package; both go
again when the installation fails. -/
def installWithDirs (bundleName : String) (info : InnerBundleInfo)
    (userId : Int32) (srcModulePath : String) :
    Operation (ErrCode × InnerBundleInfo) := do
  let (result, info) ← createBundleAndDataDir bundleName info userId
  if result ≠ .ok then
    return (result, info)
  let (result, info) ← installFirstModule bundleName info userId srcModulePath
  if result ≠ .ok then
    let _ ← removeBundleAndDataDir info userId false
  return (result, info)

/-- Install the first package of a bundle that is not there. -/
def processBundleInstallStatus (bundleName : String) (info : InnerBundleInfo)
    (userId : Int32) (srcModulePath : String) :
    Operation (ErrCode × InnerBundleInfo) := do
  if !(← verifyUriPrefix info userId false) then
    return (.installUriDuplicate, info)
  if !(← store (.updateBundleInstallState bundleName .installStart)) then
    return (.installStateError, info)
  let info := info.setInstallMark bundleName info.currentPackage .installStart
  if !(← store (.saveInnerBundleInfo info)) then
    return (.installInternalError, info)
  let (result, info) ← installWithDirs bundleName info userId srcModulePath
  if result ≠ .ok then
    let _ ← store (.updateBundleInstallState bundleName .installFail)
  return (result, info)

end FirstPackage

section OneModule

/-- The record a module is merged into and the record of its package, after a
step. -/
structure ModuleOutcome where
  result : ErrCode := .ok
  newInfo : InnerBundleInfo
  oldInfo : InnerBundleInfo

/-- Add a module whose files have been unpacked. -/
def addExtractedModule (bundleName : String) (userId : Int32)
    (newInfo oldInfo : InnerBundleInfo) : Operation ModuleOutcome := do
  if !(← store (.updateBundleInstallState bundleName .updatingSuccess)) then
    return ⟨.installBundleMgrServiceError, newInfo, oldInfo⟩
  let oldInfo := oldInfo.setInstallMark bundleName newInfo.currentPackage
    .installFinish
  let result ← addDefineAndRequestPermissions oldInfo newInfo
  if result ≠ .ok then
    return ⟨result, newInfo, oldInfo⟩
  let time ← request .getCurrentTime
  let (added, oldInfo) ← store (.addNewModuleInfo bundleName newInfo
    (oldInfo.setBundleUpdateTime time userId))
  if !added then
    return ⟨.installBundleMgrServiceError, newInfo, oldInfo⟩
  return ⟨.ok, newInfo, oldInfo⟩

/-- Why a module must not be added, apart from its uri prefixes. -/
def newModuleConflict (newInfo oldInfo : InnerBundleInfo) : Option ErrCode :=
  if newInfo.hasEntry && oldInfo.hasEntry then
    some .installEntryAlreadyExist
  else if oldInfo.getVersionCode = newInfo.getVersionCode then
    checkAppLabel oldInfo newInfo
  else none

/-- Add a module to a bundle. -/
def processNewModuleInstall (bundleName : String) (userId : Int32)
    (srcModulePath : String) (newInfo oldInfo : InnerBundleInfo) :
    Operation ModuleOutcome := do
  if !(← verifyUriPrefix newInfo userId false) then
    return ⟨.installUriDuplicate, newInfo, oldInfo⟩
  match newModuleConflict newInfo oldInfo with
  | some result => return ⟨result, newInfo, oldInfo⟩
  | none =>
  let oldInfo := oldInfo.setInstallMark bundleName newInfo.currentPackage
    .updatingNewStart
  if !(← store (.saveInnerBundleInfo oldInfo)) then
    return ⟨.installInternalError, newInfo, oldInfo⟩
  let modulePath := newInfo.getAppCodePath ++ "/" ++ newInfo.currentPackage
  let (result, newInfo) ← extractModule newInfo srcModulePath modulePath
  if result ≠ .ok then
    return ⟨result, newInfo, oldInfo⟩
  let outcome ← addExtractedModule bundleName userId newInfo oldInfo
  if outcome.result ≠ .ok then
    let _ ← removeModuleDir modulePath
  return outcome

/-- Replace a module whose files have been unpacked beside it. -/
def updateExtractedModule (bundleName : String) (userId : Int32)
    (newInfo oldInfo : InnerBundleInfo) : Operation ModuleOutcome := do
  if !(← store (.updateBundleInstallState bundleName .updatingSuccess)) then
    return ⟨.installBundleMgrServiceError, newInfo, oldInfo⟩
  match newInfo.restoreModuleInfo oldInfo with
  | none => .halt
  | some newInfo =>
  let time ← request .getCurrentTime
  let noUpdateInfo := (oldInfo.setInstallMark bundleName newInfo.currentPackage
    .updatingFinish).setBundleUpdateTime time userId
  let (updated, oldInfo) ← store (.updateInnerBundleInfo bundleName newInfo
    noUpdateInfo)
  if !updated then
    return ⟨.installBundleMgrServiceError, newInfo, oldInfo⟩
  let result ← updateDefineAndRequestPermissions noUpdateInfo oldInfo
  if result ≠ .ok then
    return ⟨result, newInfo, oldInfo⟩
  let result ← setDirApl newInfo userId
  return ⟨result, newInfo, oldInfo⟩

/-- Stop the application and replace one of its modules. -/
def replaceModule (bundleName : String) (userId : Int32) (noSkipsKill : Bool)
    (srcModulePath : String) (newInfo oldInfo : InnerBundleInfo) :
    Operation ModuleOutcome := do
  if !(← killProcesses oldInfo noSkipsKill (oldInfo.getUid userId)) then
    return ⟨.installInternalError, newInfo, oldInfo⟩
  let oldInfo := oldInfo.setInstallMark bundleName newInfo.currentPackage
    .updatingExistedStart
  if !(← store (.saveInnerBundleInfo oldInfo)) then
    return ⟨.installInternalError, newInfo, oldInfo⟩
  let moduleTmpDir := newInfo.getAppCodePath ++ "/" ++ newInfo.currentPackage ++
    "_tmp"
  let (result, newInfo) ← extractModule newInfo srcModulePath moduleTmpDir
  if result ≠ .ok then
    return ⟨result, newInfo, oldInfo⟩
  updateExtractedModule bundleName userId newInfo oldInfo

/-- A module of the installed version is not replaced: its user is new, or the
request is in vain. -/
def keepModule (bundleName : String) (hasInstalledInUser : Bool)
    (newInfo oldInfo : InnerBundleInfo) : Operation ModuleOutcome := do
  if hasInstalledInUser then
    return ⟨.installAlreadyExist, newInfo, oldInfo⟩
  let newInfo := newInfo.setOnlyCreateBundleUser true
  if !(← store (.updateBundleInstallState bundleName .updatingSuccess)) then
    return ⟨.installStateError, newInfo, oldInfo⟩
  return ⟨.ok, newInfo, oldInfo⟩

/-- Replace a module of a bundle. -/
def processModuleUpdate (props : InstallProperties) (isReplace noSkipsKill : Bool)
    (srcModulePath : String) (newInfo oldInfo : InnerBundleInfo) :
    Operation ModuleOutcome := do
  if !(← verifyUriPrefix newInfo props.userId true) then
    return ⟨.installUriDuplicate, newInfo, oldInfo⟩
  if props.versionCode ≠ oldInfo.getVersionCode then
    return ← replaceModule props.bundleName props.userId noSkipsKill
      srcModulePath newInfo oldInfo
  match checkAppLabel oldInfo newInfo with
  | some result => return ⟨result, newInfo, oldInfo⟩
  | none =>
  if isReplace then
    replaceModule props.bundleName props.userId noSkipsKill srcModulePath newInfo
      oldInfo
  else keepModule props.bundleName props.hasInstalledInUser newInfo oldInfo

/-- The state of the installer once it looks at a package. -/
def InstallProperties.noteModule (props : InstallProperties)
    (newInfo oldInfo : InnerBundleInfo) : InstallProperties :=
  { props with
    uninstallModuleVec :=
      if props.isFeatureNeedUninstall then
        props.uninstallModuleVec ++ [newInfo.currentPackage]
      else props.uninstallModuleVec
    singletonState :=
      if oldInfo.isSingleton && !newInfo.isSingleton then .singletonToNon
      else if !oldInfo.isSingleton && newInfo.isSingleton then .nonToSingleton
      else props.singletonState }

/-- Bring one package to a bundle that is there.  A provision id that cannot be
cut out of the app id throws. -/
def processBundleUpdateStatus (props : InstallProperties)
    (isReplace noSkipsKill : Bool) (srcModulePath : String)
    (newInfo oldInfo : InnerBundleInfo) :
    Operation (ModuleOutcome × InstallProperties) := do
  if newInfo.currentPackage = "" then
    return (⟨.installParamError, newInfo, oldInfo⟩, props)
  let props := InstallProperties.noteModule props newInfo oldInfo
  if !(← store (.updateBundleInstallState props.bundleName .updatingStart)) then
    return (⟨.installStateError, newInfo, oldInfo⟩, props)
  match oldInfo.getProvisionId, newInfo.getProvisionId with
  | some oldProvisionId, some newProvisionId =>
      if oldProvisionId ≠ newProvisionId then
        return (⟨.installFailedInconsistentSignature, newInfo, oldInfo⟩, props)
      let isModuleExist := oldInfo.findModule newInfo.currentPackage
      let newInfo := newInfo.restoreFromOldInfo oldInfo
      let outcome ←
        if isModuleExist then
          processModuleUpdate props isReplace noSkipsKill srcModulePath newInfo
            oldInfo
        else
          processNewModuleInstall props.bundleName props.userId srcModulePath
            newInfo oldInfo
      return (outcome, props)
  | _, _ => .halt

end OneModule

section Packages

/-- The installer between two steps: its members, the records of the packages
and its copy of the record that was there before. -/
structure Installation where
  props : InstallProperties
  newInfos : NewInfos
  oldInfo : InnerBundleInfo := {}

/-- Bring the packages one after another; the first failure ends the loop. -/
def updateHaps (isReplace noSkipsKill : Bool)
    (innerBundleUserInfo : InnerBundleUserInfo) :
    NewInfos → InstallProperties → InnerBundleInfo →
      Operation (ErrCode × NewInfos × InstallProperties)
  | [], props, _ => pure (.ok, [], props)
  | (bundlePath, newInfo) :: rest, props, bundleInfo => do
      let newInfo := newInfo.addInnerBundleUserInfo innerBundleUserInfo
      let (outcome, props) ← processBundleUpdateStatus props isReplace
        noSkipsKill bundlePath newInfo bundleInfo
      if outcome.result ≠ .ok then
        return (outcome.result, (bundlePath, outcome.newInfo) :: rest, props)
      let (result, rest, props) ← updateHaps isReplace noSkipsKill
        innerBundleUserInfo rest props outcome.oldInfo
      return (result, (bundlePath, outcome.newInfo) :: rest, props)

/-- Bring the packages to the bundle, which is there by now; the first of them
may have been the one that brought it.  A user that the installation has added
goes again when it fails. -/
def updateInstalledBundle (param : InstallParam) (installed rest : NewInfos)
    (props : InstallProperties) (oldInfo : InnerBundleInfo) :
    Operation (ErrCode × Installation) := do
  match ← store (.getInnerBundleInfo props.bundleName) with
  | none =>
      return (.installBundleMgrServiceError, ⟨props, installed ++ rest, oldInfo⟩)
  | some bundleInfo =>
  match bundleInfo.getInnerBundleUserInfo props.userId with
  | none => return (.userNotExist, ⟨props, installed ++ rest, oldInfo⟩)
  | some innerBundleUserInfo =>
  let isReplace := param.installFlag = .replaceExisting ∨
    param.installFlag = .freeInstall
  let (result, rest, props) ← updateHaps isReplace param.noSkipsKill
    innerBundleUserInfo rest props bundleInfo
  let newInfos := installed ++ rest
  if result ≠ .ok ∧ (!props.hasInstalledInUser || !props.isAppExist) then
    return (result, ⟨props, newInfos, ← removeUserDataOf oldInfo props.userId⟩)
  return (result, ⟨props, newInfos, oldInfo⟩)

/-- Bring a bundle that is not there. -/
def installNewBundle (param : InstallParam) (props : InstallProperties)
    (newInfos : NewInfos) : Operation (ErrCode × Installation) := do
  match newInfos with
  | [] => .halt
  | (bundlePath, newInfo) :: rest =>
  let newInfo := (newInfo.addInnerBundleUserInfo
    (newUserInfo props.bundleName props.userId)).setIsFreeInstallApp
      (param.installFlag = .freeInstall)
  let (result, newInfo) ← processBundleInstallStatus props.bundleName newInfo
    props.userId bundlePath
  if result ≠ .ok then
    return (result, ⟨props, (bundlePath, newInfo) :: rest, {}⟩)
  updateInstalledBundle param [(bundlePath, newInfo)] rest
    { props with hasInstalledInUser := true } {}

/-- The installer has seen that the user has the bundle, and which of the
modules are there. -/
def updateOfUser (param : InstallParam) (props : InstallProperties)
    (newInfos : NewInfos) (oldInfo : InnerBundleInfo) :
    Operation (ErrCode × Installation) :=
  updateInstalledBundle param [] newInfos
    { props with
      installedModules := (newInfos.map (·.2.currentPackage)).filter
        oldInfo.findModule }
    oldInfo

/-- Update a bundle, and give it to the user if need be. -/
def updateExistingBundle (param : InstallParam) (props : InstallProperties)
    (newInfos : NewInfos) (oldInfo : InnerBundleInfo) :
    Operation (ErrCode × Installation) := do
  match checkHapModleOrType oldInfo newInfos with
  | some result => return (result, ⟨props, newInfos, oldInfo⟩)
  | none =>
  match checkVersionCompatibility props.versionCode props.isContainEntry
      oldInfo with
  | some result => return (result, ⟨props, newInfos, oldInfo⟩)
  | none =>
  let props := { props with
    isFeatureNeedUninstall := props.versionCode > oldInfo.getVersionCode
    hasInstalledInUser := oldInfo.hasInnerBundleUserInfo props.userId }
  if props.hasInstalledInUser then
    return ← updateOfUser param props newInfos oldInfo
  let (result, oldInfo) ← addUserToBundle props.bundleName props.userId oldInfo
  if result ≠ .ok then
    return (result, ⟨props, newInfos, oldInfo⟩)
  updateOfUser param props newInfos oldInfo

/-- Remember the packages of a preinstalled bundle. -/
def savePreInstallInfo (bundleName : String) (first : InnerBundleInfo)
    (newInfos : NewInfos) : Operation Unit := do
  let known ← store (.getPreInstallBundleInfo bundleName)
  let info : PreInstallBundleInfo :=
    { known.getD { bundleName := bundleName } with
      appType := first.appType
      versionCode := first.getVersionCode }
  let _ ← store (.savePreInstallBundleInfo
    ((newInfos.map (·.1)).foldl (·.addBundlePath ·) info))

/-- Install or update, depending on whether the bundle is there. -/
def installOrUpdate (param : InstallParam) (props : InstallProperties)
    (newInfos : NewInfos) : Operation (ErrCode × Installation) := do
  let oldInfo ← store (.getInnerBundleInfo props.bundleName)
  let props := { props with isAppExist := oldInfo.isSome }
  let newInfos := checkEnableRemovable newInfos (oldInfo.getD {}) props.userId
    (param.installFlag = .freeInstall) oldInfo.isSome
  match oldInfo with
  | none => installNewBundle param props newInfos
  | some oldInfo => updateExistingBundle param props newInfos oldInfo

def innerProcessBundleInstall (param : InstallParam) (props : InstallProperties)
    (newInfos : NewInfos) : Operation (ErrCode × Installation) := do
  match newInfos with
  | [] => .halt
  | (_, first) :: _ =>
  if param.needSavePreInstallInfo then
    savePreInstallInfo props.bundleName first newInfos
  if !matchesUser first.isSingleton props.userId then
    return (.installZeroUserWithNoSingleton, ⟨props, newInfos, {}⟩)
  installOrUpdate param props newInfos

end Packages

section Undoing

/-- Take a new module out of the record. -/
def removeInfo (bundleName modulePackage : String) : Operation Unit := do
  if modulePackage = "" then
    let _ ← store (.updateBundleInstallState bundleName .updatingFail)
    return
  match ← store (.getInnerBundleInfo bundleName) with
  | none => return
  | some innerBundleInfo =>
  let _ ← store (.updateBundleInstallState bundleName .rollBack)
  let _ ← store (.removeModuleInfo bundleName modulePackage innerBundleInfo)

/-- Put an old module back into the record. -/
def rollBackMoudleInfo (bundleName : String) (oldInfo : InnerBundleInfo) :
    Operation Unit := do
  match ← store (.getInnerBundleInfo bundleName) with
  | none => return
  | some innerBundleInfo =>
  let _ ← store (.updateBundleInstallState bundleName .rollBack)
  let _ ← store (.updateInnerBundleInfo bundleName oldInfo innerBundleInfo)

/-- Undo one package. -/
def rollBackModule (bundleName : String) (installedModules : List String)
    (oldInfo info : InnerBundleInfo) : Operation Unit := do
  if info.currentPackage ∈ installedModules then
    let _ ← removeModuleDir (info.getAppCodePath ++ "/" ++ info.currentPackage ++
      "_tmp")
    rollBackMoudleInfo bundleName
      (oldInfo.setCurrentModulePackage info.currentPackage)
  else
    let _ ← removeModuleDir (info.getModuleDir info.currentPackage)
    removeInfo bundleName info.currentPackage

/-- The package of the old record that is being put back when the packages have
been undone. -/
def rolledBackInfo (work : Installation) : InnerBundleInfo :=
  work.newInfos.foldl (fun oldInfo item =>
    if item.2.currentPackage ∈ work.props.installedModules then
      oldInfo.setCurrentModulePackage item.2.currentPackage
    else oldInfo) work.oldInfo

/-- Undo a new bundle. -/
def rollBackNewBundle (work : Installation) : Operation Unit := do
  match work.newInfos with
  | [] => .halt
  | (_, newInfo) :: _ =>
  let _ ← removeBundleAndDataDir newInfo work.props.userId false
  let _ ← request (.deleteAccessTokenId
    (newInfo.getAccessTokenId work.props.userId))
  removeInfo work.props.bundleName ""

/-- Undo an installation that failed. -/
def rollBack (work : Installation) : Operation Unit := do
  if !work.props.isAppExist then
    return ← rollBackNewBundle work
  match ← store (.getInnerBundleInfo work.props.bundleName) with
  | none => return
  | some preInfo =>
  work.newInfos.forM fun item => rollBackModule work.props.bundleName
    work.props.installedModules work.oldInfo item.2
  let _ ← updateDefineAndRequestPermissions preInfo (rolledBackInfo work)

end Undoing

section Finishing

/-- Put the unpacked modules in their places. -/
def renameModuleDirs : NewInfos → Operation ErrCode
  | [] => pure .ok
  | (_, info) :: rest => do
      if info.onlyCreateBundleUser then
        return ← renameModuleDirs rest
      let result ← renameModuleDir info
      if result ≠ .ok then
        return result
      renameModuleDirs rest

/-- Remove the modules of the old version that the new one has not brought. -/
def removeLowerVersionModules (bundleName : String) (packageVec : List String) :
    List String → InnerBundleInfo → Operation (ErrCode × InnerBundleInfo)
  | [], info => pure (.ok, info)
  | package :: rest, info => do
      if package ∈ packageVec then
        return ← removeLowerVersionModules bundleName packageVec rest info
      let result ← removeModuleAndDataDir info package unspecifiedUserId true
      if result ≠ .ok then
        return (result, info)
      let (removed, info) ← store (.removeModuleInfo bundleName package info)
      if !removed then
        return (.installBundleMgrServiceError, info)
      removeLowerVersionModules bundleName packageVec rest info

def uninstallLowerVersionFeature (bundleName : String) (userId : Int32)
    (packageVec : List String) : Operation ErrCode := do
  match ← store (.getInnerBundleInfo bundleName) with
  | none => return .uninstallBundleMgrServiceError
  | some oldInfo =>
  if !(← store (.updateBundleInstallState bundleName .uninstallStart)) then
    return .installBundleMgrServiceError
  let _ ← request (.uninstallApplicationProcesses oldInfo.getApplicationName
    (oldInfo.getUid userId))
  let (result, info) ← removeLowerVersionModules bundleName packageVec
    oldInfo.getModuleNameVec oldInfo
  if result ≠ .ok then
    return result
  updateDefineAndRequestPermissions oldInfo info

/-- Uninstall a bundle that has changed its kind for a user. -/
def uninstallForUser (bundleName : String) (userId : Int32) :
    Operation Unit := do
  let _ ← uninstallBundle bundleName {
    userId := userId
    forceExecuted := true
    noSkipsKill := false }

/-- After a change of the singleton flag the users that may not have the bundle
any longer lose it. -/
def onSingletonChange (props : InstallProperties) : Operation Unit := do
  if props.singletonState = .unchanged then
    return
  match ← store (.getInnerBundleInfo props.bundleName) with
  | none => return
  | some info =>
  if props.singletonState = .singletonToNon then
    uninstallForUser props.bundleName defaultUserId
  else
    (info.innerBundleUserInfos.values.filter fun user =>
      user.bundleUserInfo.userId ≠ defaultUserId).forM fun user =>
        uninstallForUser props.bundleName user.bundleUserInfo.userId

/-- Whether a failure has to be undone. -/
def needsRollBack (result : ErrCode) : Bool :=
  result ≠ .installSingletonNotSame && result ≠ .installZeroUserWithNoSingleton

/-- Put the modules in their places, take away what the new version does not
have, and then the users that may not have it. -/
def finishInstall (work : Installation) : Operation ErrCode := do
  let props := work.props
  let result ← renameModuleDirs work.newInfos
  if result ≠ .ok then
    if needsRollBack result then
      rollBack work
    return result
  if !props.uninstallModuleVec.isEmpty then
    let _ ← uninstallLowerVersionFeature props.bundleName props.userId
      props.uninstallModuleVec
  onSingletonChange props
  return .ok

/-- Install packages that have been read. -/
def installNewInfos (param : InstallParam) (props : InstallProperties)
    (newInfos : NewInfos) : Operation ErrCode := do
  let (result, work) ← innerProcessBundleInstall param props newInfos
  if result ≠ .ok then
    if needsRollBack result then
      rollBack work
    return result
  finishInstall work

/-- Install packages that have been read, and leave the bundle enabled. -/
def installOfUser (param : InstallParam) (userId : Int32)
    (isContainEntry : Bool) (newInfos : NewInfos) : Operation ErrCode := do
  match newInfos with
  | [] => .halt
  | (_, first) :: _ =>
  let bundleName := first.getBundleName
  let _ ← uninstallAllSandboxApps bundleName invalidUserId
  let result ← installNewInfos param {
    bundleName := bundleName
    userId := userId
    versionCode := first.getVersionCode
    isContainEntry := isContainEntry } newInfos
  let _ ← store (.enableBundle bundleName)
  let _ ← store (.updateBundleInstallState bundleName .installSuccess)
  return result

/-- Install packages for a user. -/
def processBundleInstall (order : MapOrder) (inBundlePaths : List String)
    (param : InstallParam) (appType : AppType) : Operation ErrCode := do
  let userId := getUserId param.userId
  if userId = invalidUserId then
    return .installParamError
  if !(← store (.hasUserId userId)) then
    return .userNotExist
  match ← readHapFiles order inBundlePaths param appType with
  | .error result => return result
  | .ok (newInfos, isContainEntry) =>
      installOfUser param userId isContainEntry newInfos

end Finishing

section PreInstalled

/-- Give a preinstalled bundle that is there to one more user. -/
def addUserByPreInstallInfo (bundleName : String) (userId : Int32)
    (oldInfo : InnerBundleInfo) : Operation ErrCode := do
  let _ ← store (.enableBundle bundleName)
  if oldInfo.hasInnerBundleUserInfo userId then
    return .installAlreadyExist
  if !matchesUser oldInfo.isSingleton userId then
    return .installZeroUserWithNoSingleton
  let (result, _) ← addUserToBundle bundleName userId oldInfo
  return result

/-- Install a preinstalled bundle from its packages. -/
def installPreInstalled (order : MapOrder) (bundleName : String)
    (param : InstallParam) (recoverMode : Bool) : Operation ErrCode := do
  match ← store (.getPreInstallBundleInfo bundleName) with
  | none => return .installInvalidBundleFile
  | some preInstallBundleInfo =>
  if preInstallBundleInfo.bundlePaths.isEmpty then
    return .installInvalidBundleFile
  if recoverMode ∧ preInstallBundleInfo.appType ≠ .systemApp then
    return .recoverGetBundlepathError
  processBundleInstall order preInstallBundleInfo.bundlePaths
    { param with isPreInstallApp := true } preInstallBundleInfo.appType

def innerProcessInstallByPreInstallInfo (order : MapOrder) (bundleName : String)
    (param : InstallParam) (recoverMode : Bool) : Operation ErrCode := do
  let userId := getUserId param.userId
  if userId = invalidUserId then
    return .installParamError
  if !(← store (.hasUserId userId)) then
    return .userNotExist
  match ← store (.getInnerBundleInfo bundleName) with
  | some oldInfo => addUserByPreInstallInfo bundleName userId oldInfo
  | none => installPreInstalled order bundleName param recoverMode

end PreInstalled

def installBundle (order : MapOrder) (bundlePaths : List String)
    (param : InstallParam) (appType : AppType) : Operation ErrCode :=
  processBundleInstall order bundlePaths param appType

def installBundleByBundleName (order : MapOrder) (bundleName : String)
    (param : InstallParam) : Operation ErrCode :=
  innerProcessInstallByPreInstallInfo order bundleName param false

def recover (order : MapOrder) (bundleName : String) (param : InstallParam) :
    Operation ErrCode :=
  innerProcessInstallByPreInstallInfo order bundleName param true

end BaseBundleInstaller

end AppExecFwk
