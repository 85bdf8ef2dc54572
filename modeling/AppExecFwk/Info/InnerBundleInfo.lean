import AppExecFwk.Info.Base
import AppExecFwk.Library.Text

/-!
# The bundle information object

`InnerBundleInfo` is what the service knows about one installed bundle: the
base bundle and application information, and maps of its modules, abilities,
extensions, skills, forms, shortcuts, common events and users.  The installer
builds one from each package it parses and merges it into the one that is
installed.  The methods follow their C++ bodies; a method that changes the
object returns the changed one.
-/

namespace AppExecFwk

/-- The user that runs the singleton applications. -/
def defaultUserId : Int32 := 0

/-- The smallest id of an ordinary user. -/
def startUserId : Int32 := 100

/-- User id of a request that names no user. -/
def unspecifiedUserId : Int32 := -2

/-- User id of a request about all users. -/
def allUserId : Int32 := -3

/-- User id of a request about any user. -/
def anyUserId : Int32 := -4

/-- User id of a request for which users do not matter. -/
def notExistUserId : Int32 := -5

/-- Whether a bundle is visible to queries. -/
structure BundleStatus where
  value : Int32
  deriving DecidableEq

namespace BundleStatus
def enabled : BundleStatus := ⟨1⟩
def disabled : BundleStatus := ⟨2⟩
end BundleStatus

/-- What the installer was doing when it saved a record. -/
inductive InstallExceptionStatus where
  | installStart
  | installFinish
  | updatingExistedStart
  | updatingNewStart
  | updatingFinish
  | uninstallBundleStart
  | uninstallPackageStart
  | unknownStatus
  deriving DecidableEq

/-- The integer under which a status is stored. -/
def InstallExceptionStatus.toInt32 : InstallExceptionStatus → Int32
  | installStart => 1
  | installFinish => 2
  | updatingExistedStart => 3
  | updatingNewStart => 4
  | updatingFinish => 5
  | uninstallBundleStart => 6
  | uninstallPackageStart => 7
  | unknownStatus => 8

/-- How a module is distributed. -/
structure Distro where
  deliveryWithInstall : Bool := false
  moduleName : String := ""
  moduleType : String := ""
  installationFree : Bool := false

/-- A permission a module defines. -/
structure DefinePermission where
  name : String := ""
  grantMode : String := "system_grant"
  availableLevel : String := "normal"
  availableScope : List String := []
  provisionEnable : Bool := true
  distributedSceneEnable : Bool := false
  label : String := ""
  labelId : Int32 := 0
  description : String := ""
  descriptionId : Int32 := 0

/-- What is stored about one module of a bundle. -/
structure InnerModuleInfo where
  modulePackage : String := ""
  moduleName : String := ""
  modulePath : String := ""
  moduleDataDir : String := ""
  moduleResPath : String := ""
  label : String := ""
  hapPath : String := ""
  labelId : Int32 := 0
  description : String := ""
  descriptionId : Int32 := 0
  mainAbility : String := ""
  entryAbilityKey : String := ""
  srcPath : String := ""
  hashValue : String := ""
  isEntry : Bool := false
  installationFree : Bool := false
  isRemovable : StringMap Bool := ∅
  metaData : MetaData := {}
  colorMode : ModuleColorMode := .auto
  distro : Distro := {}
  reqCapabilities : List String := []
  defPermissions : List DefinePermission := []
  abilityKeys : List String := []
  skillKeys : List String := []
  pages : String := ""
  process : String := ""
  srcEntrance : String := ""
  uiSyntax : String := ""
  virtualMachine : String := ""
  isModuleJson : Bool := false
  isStageBasedModel : Bool := false
  definePermissions : List DefinePermission := []
  requestPermissions : List RequestPermission := []
  deviceTypes : List String := []
  extensionKeys : List String := []
  extensionSkillKeys : List String := []
  metadata : List Metadata := []
  upgradeFlag : Int32 := 0
  dependencies : List String := []

/-- The uri pattern of a skill. -/
structure SkillUri where
  scheme : String := ""
  host : String := ""
  port : String := ""
  path : String := ""
  pathStartWith : String := ""
  pathRegex : String := ""
  type : String := ""

/-- What an ability can be started with. -/
structure Skill where
  actions : List String := []
  entities : List String := []
  uris : List SkillUri := []

/-- The mark an unfinished installation leaves in the stored record. -/
structure InstallMark where
  bundleName : String := ""
  packageName : String := ""
  status : Int32 := InstallExceptionStatus.unknownStatus.toInt32
  deriving DecidableEq

/-- What has to survive a reboot about one sandbox application. -/
structure SandboxAppPersistentInfo where
  accessTokenId : UInt32 := 0
  appIndex : Int32 := 0
  userId : Int32 := invalidUserId
  deriving DecidableEq

/-- What is stored about a bundle for one user. -/
structure InnerBundleUserInfo where
  bundleUserInfo : BundleUserInfo := {}
  uid : Int32 := invalidUid
  gids : List Int32 := []
  accessTokenId : UInt32 := 0
  bundleName : String := ""
  installTime : Int64 := 0
  updateTime : Int64 := 0
  deriving DecidableEq

/-- Everything the service knows about a bundle. -/
structure InnerBundleInfo where
  appType : AppType := .thirdPartyApp
  uid : Int32 := invalidUid
  gid : Int32 := invalidGid
  userId : Int32 := defaultUserId
  baseDataDir : String := ""
  bundleStatus : BundleStatus := .enabled
  baseApplicationInfo : ApplicationInfo := {}
  baseBundleInfo : BundleInfo := {}
  appFeature : String := ""
  allowedAcls : List String := []
  mark : InstallMark := {}
  appIndex : Int32 := 0
  isSandboxApp : Bool := false
  currentPackage : String := ""
  newBundleName : String := ""
  onlyCreateBundleUser : Bool := false
  innerModuleInfos : StringMap InnerModuleInfo := ∅
  formInfos : StringMap (List FormInfo) := ∅
  commonEvents : StringMap CommonEventInfo := ∅
  shortcutInfos : StringMap ShortcutInfo := ∅
  baseAbilityInfos : StringMap AbilityInfo := ∅
  skillInfos : StringMap (List Skill) := ∅
  innerBundleUserInfos : StringMap InnerBundleUserInfo := ∅
  bundlePackInfo : BundlePackInfo := {}
  isNewVersion : Bool := false
  upgradeFlag : Int32 := 0
  baseExtensionInfos : StringMap ExtensionAbilityInfo := ∅
  extensionSkillInfos : StringMap (List Skill) := ∅
  sandboxPersistentInfo : List SandboxAppPersistentInfo := []

namespace StringMap

/-- `try_emplace` of every entry of `new`: a key that is there keeps its
value. -/
def addNew {α : Type} (old new : StringMap α) : StringMap α :=
  new ∪ old

/-- `begin()->second`. -/
def begin? {α : Type} (map : StringMap α) : Option α :=
  map.values.head?

/-- Erase every entry whose key contains the text. -/
def eraseContaining {α : Type} (map : StringMap α) (text : String) :
    StringMap α :=
  map.filter fun key _ => !Text.contains key text

/-- Erase every entry under one of the keys. -/
def eraseAll {α : Type} (map : StringMap α) (keys : List String) :
    StringMap α :=
  keys.foldl (fun rest key => rest.erase key) map

end StringMap

/-- The key of the information about one user. -/
def nameAndUserIdToKey (bundleName : String) (userId : Int32) : String :=
  bundleName ++ "_" ++ toString userId

/-- The key determines the bundle and the user. -/
theorem nameAndUserIdToKey_inj {first second : String} {userId other : Int32}
    (same : nameAndUserIdToKey first userId = nameAndUserIdToKey second other) :
    first = second ∧ userId = other := by
  have letters := congrArg String.toList same
  simp only [nameAndUserIdToKey, String.toList_append, List.append_assoc]
    at letters
  obtain ⟨names, numerals⟩ := Text.join_inj
    (Text.underscore_notMem_toString userId)
    (Text.underscore_notMem_toString other) letters
  exact ⟨String.toList_inj.mp names,
    Text.toString_int32_inj (String.toList_inj.mp numerals)⟩

namespace InnerBundleInfo

section Getters

variable (info : InnerBundleInfo)

def getBundleName : String :=
  info.baseApplicationInfo.bundleName

def getApplicationName : String :=
  info.baseApplicationInfo.name

def getAppCodePath : String :=
  info.baseApplicationInfo.codePath

def getVersionCode : UInt32 :=
  info.baseBundleInfo.versionCode

def getVersionName : String :=
  info.baseBundleInfo.versionName

def getVendor : String :=
  info.baseBundleInfo.vendor

def getCompatibleVersion : UInt32 :=
  info.baseBundleInfo.compatibleVersion

def getTargetVersion : UInt32 :=
  info.baseBundleInfo.targetVersion

def getReleaseType : String :=
  info.baseBundleInfo.releaseType

def getMinCompatibleVersionCode : UInt32 :=
  info.baseBundleInfo.minCompatibleVersionCode

def getEntryInstallationFree : Bool :=
  info.baseBundleInfo.entryInstallationFree

def getAppPrivilegeLevel : String :=
  info.baseApplicationInfo.appPrivilegeLevel

def isSingleton : Bool :=
  info.baseApplicationInfo.singleton

def isRemovable : Bool :=
  info.baseApplicationInfo.removable

def isPreInstallApp : Bool :=
  info.baseBundleInfo.isPreInstallApp

def isDisabled : Bool :=
  info.bundleStatus = .disabled

/-- The key under which a clone is kept in memory. -/
def getDBKeyBundleName : String :=
  if info.baseApplicationInfo.isCloned then info.newBundleName
  else info.baseApplicationInfo.bundleName

def findModule (modulePackage : String) : Bool :=
  info.innerModuleInfos.contains modulePackage

def isOnlyModule (modulePackage : String) : Bool :=
  info.innerModuleInfos.size = 1 && info.innerModuleInfos.contains modulePackage

def hasEntry : Bool :=
  info.innerModuleInfos.any fun _ module => module.isEntry

def getModuleDir (modulePackage : String) : String :=
  (info.innerModuleInfos[modulePackage]?.map (·.modulePath)).getD ""

def getModuleDataDir (modulePackage : String) : String :=
  (info.innerModuleInfos[modulePackage]?.map (·.moduleDataDir)).getD ""

def getModuleName (modulePackage : String) : String :=
  (info.innerModuleInfos[modulePackage]?.map (·.moduleName)).getD ""

def getModuleNameVec : List String :=
  info.innerModuleInfos.keys

def getModuleNames : List String :=
  info.innerModuleInfos.values.map (·.moduleName)

def getInnerModuleInfoByModuleName (moduleName : String) :
    Option InnerModuleInfo :=
  info.innerModuleInfos.values.find? (·.moduleName = moduleName)

/-- Whether the user has the module, which shows in the removable flags of the
first module of that name. -/
def isUserExistModule (moduleName : String) (userId : Int32) : Bool :=
  match info.getInnerModuleInfoByModuleName moduleName with
  | none => false
  | some module => module.isRemovable.contains (toString userId)

/-- The provision id is what follows the bundle name in the app id; an app id
shorter than the name throws. -/
def getProvisionId : Option String :=
  if info.baseBundleInfo.appId ≠ "" then
    Text.substr info.baseBundleInfo.appId
      (info.baseBundleInfo.name.toList.length + 1)
  else some ""

/-- The user information of one user, as it is read into a fresh variable. -/
def getInnerBundleUserInfo (userId : Int32) : Option InnerBundleUserInfo :=
  if userId = notExistUserId then some {}
  else if userId = allUserId then info.innerBundleUserInfos.begin?
  else info.innerBundleUserInfos[nameAndUserIdToKey info.getBundleName userId]?

def hasInnerBundleUserInfo (userId : Int32) : Bool :=
  if userId = allUserId then !info.innerBundleUserInfos.isEmpty
  else info.innerBundleUserInfos.contains
    (nameAndUserIdToKey info.getBundleName userId)

def getUid (userId : Int32) : Int32 :=
  ((info.getInnerBundleUserInfo userId).map (·.uid)).getD invalidUid

def getAccessTokenId (userId : Int32) : UInt32 :=
  ((info.getInnerBundleUserInfo userId).map (·.accessTokenId)).getD 0

def getApplicationEnabled (userId : Int32) : Bool :=
  ((info.getInnerBundleUserInfo userId).map
    (·.bundleUserInfo.enabled)).getD false

/-- The user whose information answers a request of `requestUserId`. -/
def getResponseUserId (requestUserId : Int32) : Int32 :=
  match info.innerBundleUserInfos.begin? with
  | none => invalidUserId
  | some first =>
      if requestUserId = anyUserId then first.bundleUserInfo.userId
      else if info.hasInnerBundleUserInfo requestUserId then requestUserId
      else if requestUserId < startUserId then invalidUserId
      else
        ((info.innerBundleUserInfos.values.find?
          (·.bundleUserInfo.userId < startUserId)).map
            (·.bundleUserInfo.userId)).getD invalidUserId

/-- The main ability is the entry ability of the entry module, or else of the
last module that has one. -/
def getMainAbilityInfo : AbilityInfo :=
  go info.innerModuleInfos.values {}
where
  go : List InnerModuleInfo → AbilityInfo → AbilityInfo
    | [], found => found
    | module :: rest, found =>
        match info.baseAbilityInfos[module.entryAbilityKey]? with
        | none => go rest found
        | some ability =>
            if module.entryAbilityKey = "" then go rest found
            else if module.isEntry then ability
            else go rest ability

def getMainAbility : String :=
  info.getMainAbilityInfo.name

/-- The part of a uri that has to be unique on the device: everything before
the path. -/
def uriPrefix? (uri : String) : Option String :=
  match Text.find uri "://" with
  | none => none
  | some schemePos =>
      match Text.findAfter uri "/" (schemePos + 3) with
      | none => some uri
      | some cutPos => some (Text.takeChars uri cutPos)

/-- The uri prefixes of the abilities and extensions of the bundle, those of
one module excluded. -/
def getUriPrefixList (excludeModule : String) : List String :=
  let uris (entries : List (String × String)) :=
    (entries.filter fun entry => entry.2 ≠ "" &&
      !(excludeModule ≠ "" && excludeModule.toList.isPrefixOf entry.1.toList)).map
        (·.2)
  (uris (info.baseAbilityInfos.toList.map fun entry =>
      (entry.1, entry.2.uri)) ++
    uris (info.baseExtensionInfos.toList.map fun entry =>
      (entry.1, entry.2.uri))).filterMap uriPrefix?

/-- The uri prefixes a user has from this bundle. -/
def getUserUriPrefixList (userId : Int32) (excludeModule : String) :
    List String :=
  if info.innerBundleUserInfos.contains
      (nameAndUserIdToKey info.getBundleName userId) then
    info.getUriPrefixList excludeModule
  else []

end Getters

section Setters

variable (info : InnerBundleInfo)

def setBundleStatus (status : BundleStatus) : InnerBundleInfo :=
  { info with bundleStatus := status }

theorem setBundleStatus_eq_iff {info : InnerBundleInfo} {status : BundleStatus} :
    info.setBundleStatus status = info ↔ info.bundleStatus = status := by
  constructor
  · intro same
    rw [← same]
    rfl
  · rintro rfl
    rfl

def setInstallMark (bundleName packageName : String)
    (status : InstallExceptionStatus) : InnerBundleInfo :=
  { info with mark := ⟨bundleName, packageName, status.toInt32⟩ }

def setAppCodePath (codePath : String) : InnerBundleInfo :=
  { info with baseApplicationInfo.codePath := codePath }

def setBaseDataDir (baseDataDir : String) : InnerBundleInfo :=
  { info with baseDataDir := baseDataDir }

def setAppDataDir (dataDir : String) : InnerBundleInfo :=
  { info with baseApplicationInfo.dataDir := dataDir }

def setAppDataBaseDir (dataBaseDir : String) : InnerBundleInfo :=
  { info with baseApplicationInfo.dataBaseDir := dataBaseDir }

def setAppCacheDir (cacheDir : String) : InnerBundleInfo :=
  { info with baseApplicationInfo.cacheDir := cacheDir }

def setAppFeature (appFeature : String) : InnerBundleInfo :=
  { info with appFeature := appFeature }

def setAllowedAcls (allowedAcls : List String) : InnerBundleInfo :=
  { info with allowedAcls := allowedAcls }

def setIsFreeInstallApp (isFreeInstall : Bool) : InnerBundleInfo :=
  { info with baseApplicationInfo.isFreeInstallApp := isFreeInstall }

def setIsPreInstallApp (isPreInstallApp : Bool) : InnerBundleInfo :=
  { info with baseBundleInfo.isPreInstallApp := isPreInstallApp }

def setEntryInstallationFree (installationFree : Bool) : InnerBundleInfo :=
  { info with baseBundleInfo.entryInstallationFree := installationFree }

def setCertificateFingerprint (fingerprint : String) : InnerBundleInfo :=
  { info with baseApplicationInfo.fingerprint := fingerprint }

def setUserId (userId : Int32) : InnerBundleInfo :=
  { info with userId := userId }

def setBundlePackInfo (bundlePackInfo : BundlePackInfo) : InnerBundleInfo :=
  { info with bundlePackInfo := bundlePackInfo }

def setCurrentModulePackage (modulePackage : String) : InnerBundleInfo :=
  { info with currentPackage := modulePackage }

def setOnlyCreateBundleUser (only : Bool) : InnerBundleInfo :=
  { info with onlyCreateBundleUser := only }

def setAppIndex (appIndex : Int32) : InnerBundleInfo :=
  { info with appIndex := appIndex }

def setIsSandbox (isSandbox : Bool) : InnerBundleInfo :=
  { info with isSandboxApp := isSandbox }

def setIsCloned (isClone : Bool) : InnerBundleInfo :=
  { info with baseApplicationInfo.isCloned := isClone }

def setApplicationInfoUid : InnerBundleInfo :=
  { info with baseApplicationInfo.uid := info.uid }

def setNewBundleName (bundleName : String) : InnerBundleInfo :=
  { info with newBundleName := bundleName ++ "#" ++ toString info.uid }

def setModuleUpgradeFlag (upgradeFlag : Int32) : InnerBundleInfo :=
  { info with upgradeFlag := upgradeFlag }

def cleanInnerBundleUserInfos : InnerBundleInfo :=
  { info with innerBundleUserInfos := ∅ }

/-- Only a system application keeps the system flag. -/
def setAppType (appType : AppType) : InnerBundleInfo :=
  { info with
    appType := appType
    baseApplicationInfo.isSystemApp := appType = .systemApp }

def setAppPrivilegeLevel (level : String) : InnerBundleInfo :=
  if level = "" then info
  else { info with baseApplicationInfo.appPrivilegeLevel := level }

def setProvisionId (provisionId : String) : InnerBundleInfo :=
  { info with
    baseBundleInfo.appId := info.baseBundleInfo.name ++ "_" ++ provisionId }

/-- Change the module that is being installed, if the object has it. -/
def modifyCurrentModule (change : InnerModuleInfo → InnerModuleInfo) :
    InnerBundleInfo :=
  { info with
    innerModuleInfos := info.innerModuleInfos.modify info.currentPackage change }

def addModuleSrcDir (moduleSrcDir : String) : InnerBundleInfo :=
  info.modifyCurrentModule ({ · with modulePath := moduleSrcDir })

def setModuleHapPath (hapPath : String) : InnerBundleInfo :=
  info.modifyCurrentModule ({ · with hapPath := hapPath })

def setModuleHashValue (hashValue : String) : InnerBundleInfo :=
  info.modifyCurrentModule ({ · with hashValue := hashValue })

/-- The resource path of the module that is being installed is also that of
every ability and extension of the object. -/
def addModuleResPath (moduleSrcDir : String) : InnerBundleInfo :=
  match info.innerModuleInfos[info.currentPackage]? with
  | none => info
  | some module =>
      let moduleResPath :=
        if info.isNewVersion then moduleSrcDir ++ "/" ++ "resources.index"
        else moduleSrcDir ++ "/" ++ "assets" ++ "/" ++
          module.distro.moduleName ++ "/" ++ "resources.index"
      { info.modifyCurrentModule ({ · with moduleResPath := moduleResPath }) with
        baseAbilityInfos := info.baseAbilityInfos.map fun _ ability =>
          { ability with resourcePath := moduleResPath }
        baseExtensionInfos := info.baseExtensionInfos.map fun _ extension =>
          { extension with resourcePath := moduleResPath } }

/-- Change the information about one user, if the bundle has it. -/
def modifyUserInfo (userId : Int32)
    (change : InnerBundleUserInfo → InnerBundleUserInfo) : InnerBundleInfo :=
  { info with
    innerBundleUserInfos := info.innerBundleUserInfos.modify
      (nameAndUserIdToKey info.getBundleName userId) change }

def setBundleInstallTime (time : Int64) (userId : Int32) : InnerBundleInfo :=
  info.modifyUserInfo userId
    ({ · with installTime := time, updateTime := time })

def setBundleUpdateTime (time : Int64) (userId : Int32) : InnerBundleInfo :=
  info.modifyUserInfo userId ({ · with updateTime := time })

def setAccessTokenId (accessToken : UInt32) (userId : Int32) :
    InnerBundleInfo :=
  info.modifyUserInfo userId ({ · with accessTokenId := accessToken })

def setApplicationEnabled (enabled : Bool) (userId : Int32) :
    InnerBundleInfo :=
  info.modifyUserInfo userId
    ({ · with bundleUserInfo.enabled := enabled })

/-- Switch everything on again for one user, or for all of them. -/
def resetBundleState (userId : Int32) : InnerBundleInfo :=
  if userId = allUserId then
    { info with
      innerBundleUserInfos := info.innerBundleUserInfos.map fun _ user =>
        { user with bundleUserInfo := user.bundleUserInfo.reset } }
  else
    info.modifyUserInfo userId fun user =>
      { user with bundleUserInfo := user.bundleUserInfo.reset }

def addInnerBundleUserInfo (userInfo : InnerBundleUserInfo) :
    InnerBundleInfo :=
  { info with
    innerBundleUserInfos := info.innerBundleUserInfos.insert
      (nameAndUserIdToKey info.getBundleName userInfo.bundleUserInfo.userId)
      userInfo }

/-- The user information of a record from before there was any. -/
def buildDefaultUserInfo : InnerBundleInfo :=
  info.addInnerBundleUserInfo {
    bundleUserInfo := {
      userId := info.userId
      enabled := info.baseApplicationInfo.enabled }
    uid := info.uid
    gids := [info.gid]
    installTime := info.baseBundleInfo.installTime
    updateTime := info.baseBundleInfo.updateTime
    bundleName := info.baseApplicationInfo.bundleName }

/-- Change the first module of that name. -/
def modifyModuleNamed (moduleName : String)
    (change : InnerModuleInfo → InnerModuleInfo) : InnerBundleInfo :=
  match info.innerModuleInfos.toList.find? (·.2.moduleName = moduleName) with
  | none => info
  | some (key, _) =>
      { info with innerModuleInfos := info.innerModuleInfos.modify key change }

def deleteModuleRemovable (moduleName : String) (userId : Int32) :
    InnerBundleInfo :=
  info.modifyModuleNamed moduleName fun module =>
    { module with isRemovable := module.isRemovable.erase (toString userId) }

def setModuleRemovable (moduleName : String) (isEnable : Bool)
    (userId : Int32) : InnerBundleInfo :=
  info.modifyModuleNamed moduleName fun module =>
    { module with
      isRemovable := module.isRemovable.insert (toString userId) isEnable }

/-- A user that goes takes its removable flags along. -/
def removeInnerBundleUserInfo (userId : Int32) : InnerBundleInfo :=
  let key := nameAndUserIdToKey info.getBundleName userId
  if info.innerBundleUserInfos.contains key then
    info.getModuleNames.foldl
      (fun rest moduleName => rest.deleteModuleRemovable moduleName userId)
      { info with innerBundleUserInfos := info.innerBundleUserInfos.erase key }
  else info

/-- Switch one ability on or off for one user; the first ability of that name
decides whether the user can be found. -/
def setAbilityEnabled (bundleName moduleName abilityName : String)
    (isEnabled : Bool) (userId : Int32) : Option InnerBundleInfo :=
  let key := nameAndUserIdToKey bundleName userId
  if info.baseAbilityInfos.any fun _ ability =>
      ability.bundleName = bundleName && ability.name = abilityName &&
        (moduleName = "" || ability.moduleName = moduleName) then
    match info.innerBundleUserInfos[key]? with
    | none => none
    | some user =>
        let disabled := user.bundleUserInfo.disabledAbilities
        let changed :=
          if isEnabled then disabled.erase abilityName
          else if abilityName ∈ disabled then disabled
          else disabled ++ [abilityName]
        some { info with
          innerBundleUserInfos := info.innerBundleUserInfos.insert key
            { user with bundleUserInfo.disabledAbilities := changed } }
  else none

def addSandboxPersistentInfo (persistent : SandboxAppPersistentInfo) :
    InnerBundleInfo :=
  { info with
    sandboxPersistentInfo :=
      info.sandboxPersistentInfo.eraseP (·.appIndex = persistent.appIndex) ++
        [persistent] }

def removeSandboxPersistentInfo (persistent : SandboxAppPersistentInfo) :
    InnerBundleInfo :=
  { info with
    sandboxPersistentInfo :=
      info.sandboxPersistentInfo.eraseP (·.appIndex = persistent.appIndex) }

def clearSandboxPersistentInfo : InnerBundleInfo :=
  { info with sandboxPersistentInfo := [] }

end Setters

section Merging

variable (info : InnerBundleInfo)

/-- Take over what another object knows and this one does not. -/
def addAllModuleInfos (newInfo : InnerBundleInfo) : InnerBundleInfo :=
  { info with
    innerModuleInfos := info.innerModuleInfos.addNew newInfo.innerModuleInfos
    baseAbilityInfos := info.baseAbilityInfos.addNew newInfo.baseAbilityInfos
    skillInfos := info.skillInfos.addNew newInfo.skillInfos
    baseExtensionInfos :=
      info.baseExtensionInfos.addNew newInfo.baseExtensionInfos
    extensionSkillInfos :=
      info.extensionSkillInfos.addNew newInfo.extensionSkillInfos
    formInfos := info.formInfos.addNew newInfo.formInfos
    shortcutInfos := info.shortcutInfos.addNew newInfo.shortcutInfos
    commonEvents := info.commonEvents.addNew newInfo.commonEvents }

/-- Add the module of a new object, unless it is there. -/
def addModuleInfo (newInfo : InnerBundleInfo) : InnerBundleInfo :=
  if newInfo.currentPackage = "" then info
  else if info.findModule newInfo.currentPackage then info
  else info.addAllModuleInfos newInfo

def updateBaseBundleInfo (bundleInfo : BundleInfo) (isEntry : Bool) :
    InnerBundleInfo :=
  let base := info.baseBundleInfo
  { info with
    baseBundleInfo := { base with
      name := bundleInfo.name
      versionCode := bundleInfo.versionCode
      versionName := bundleInfo.versionName
      minCompatibleVersionCode := bundleInfo.minCompatibleVersionCode
      compatibleVersion := bundleInfo.compatibleVersion
      targetVersion := bundleInfo.targetVersion
      isKeepAlive := bundleInfo.isKeepAlive
      singleton := bundleInfo.singleton
      isPreInstallApp := bundleInfo.isPreInstallApp
      vendor := bundleInfo.vendor
      releaseType := bundleInfo.releaseType
      isNativeApp :=
        if !base.isNativeApp then bundleInfo.isNativeApp else base.isNativeApp
      mainEntry := if isEntry then bundleInfo.mainEntry else base.mainEntry
      entryModuleName :=
        if isEntry then bundleInfo.entryModuleName
        else base.entryModuleName } }

def updateBaseApplicationInfo (applicationInfo : ApplicationInfo) :
    InnerBundleInfo :=
  let base := info.baseApplicationInfo
  let takeNativeLibrary := base.nativeLibraryPath = ""
  { info with
    baseApplicationInfo := { base with
      name := applicationInfo.name
      bundleName := applicationInfo.bundleName
      versionCode := applicationInfo.versionCode
      versionName := applicationInfo.versionName
      minCompatibleVersionCode := applicationInfo.minCompatibleVersionCode
      apiCompatibleVersion := applicationInfo.apiCompatibleVersion
      apiTargetVersion := applicationInfo.apiTargetVersion
      iconPath := applicationInfo.iconPath
      iconId := applicationInfo.iconId
      label := applicationInfo.label
      labelId := applicationInfo.labelId
      description := applicationInfo.description
      descriptionId := applicationInfo.descriptionId
      keepAlive := applicationInfo.keepAlive
      removable := applicationInfo.removable
      singleton := applicationInfo.singleton
      userDataClearable := applicationInfo.userDataClearable
      accessible := applicationInfo.accessible
      isSystemApp :=
        if !base.isSystemApp then applicationInfo.isSystemApp
        else base.isSystemApp
      isLauncherApp :=
        if !base.isLauncherApp then applicationInfo.isLauncherApp
        else base.isLauncherApp
      apiReleaseType := applicationInfo.apiReleaseType
      debug := applicationInfo.debug
      deviceId := applicationInfo.deviceId
      distributedNotificationEnabled :=
        applicationInfo.distributedNotificationEnabled
      entityType := applicationInfo.entityType
      process := applicationInfo.process
      supportedModes := applicationInfo.supportedModes
      vendor := applicationInfo.vendor
      nativeLibraryPath :=
        if takeNativeLibrary then applicationInfo.nativeLibraryPath
        else base.nativeLibraryPath
      cpuAbi :=
        if takeNativeLibrary then applicationInfo.cpuAbi else base.cpuAbi } }

/-- Remove a module with everything its keys name; a removed entry module takes
the entry names along. -/
def removeModuleInfo (modulePackage : String) : InnerBundleInfo :=
  match info.innerModuleInfos[modulePackage]? with
  | none => info
  | some oldModuleInfo =>
      let base := info.baseBundleInfo
      let key := "." ++ modulePackage ++ "."
      { info with
        baseBundleInfo := { base with
          mainEntry := if oldModuleInfo.isEntry then "" else base.mainEntry
          entryModuleName :=
            if oldModuleInfo.isEntry then "" else base.entryModuleName }
        innerModuleInfos := info.innerModuleInfos.erase modulePackage
        shortcutInfos := info.shortcutInfos.eraseContaining key
        commonEvents := info.commonEvents.eraseContaining key
        baseAbilityInfos :=
          info.baseAbilityInfos.eraseAll oldModuleInfo.abilityKeys
        -- Only the forms of abilities that were there go.
        formInfos := info.formInfos.eraseAll
          (oldModuleInfo.abilityKeys.filter info.baseAbilityInfos.contains)
        skillInfos := info.skillInfos.eraseAll oldModuleInfo.skillKeys
        baseExtensionInfos :=
          info.baseExtensionInfos.eraseAll oldModuleInfo.extensionKeys
        extensionSkillInfos :=
          info.extensionSkillInfos.eraseAll oldModuleInfo.extensionSkillKeys }

/-- Replace the module of a new object. -/
def updateModuleInfo (newInfo : InnerBundleInfo) : InnerBundleInfo :=
  if newInfo.currentPackage = "" then info
  else (info.removeModuleInfo newInfo.currentPackage).addAllModuleInfos newInfo

/-- Start a new object from the paths of the installed one. -/
def restoreFromOldInfo (oldInfo : InnerBundleInfo) : InnerBundleInfo :=
  (info.setAppCodePath oldInfo.getAppCodePath).setBaseDataDir
    oldInfo.baseDataDir

/-- Keep the data directory of an updated module; a new object without its own
module throws. -/
def restoreModuleInfo (oldInfo : InnerBundleInfo) : Option InnerBundleInfo :=
  if oldInfo.findModule info.currentPackage then
    if info.findModule info.currentPackage then
      some (info.modifyCurrentModule
        ({ · with moduleDataDir := oldInfo.getModuleDataDir info.currentPackage }))
    else none
  else some info

end Merging

end InnerBundleInfo

end AppExecFwk
