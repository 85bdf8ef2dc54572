import Mathlib.Tactic.Common

/-!
# Configuration records of the framework

The records a profile parser fills in and a bundle information object is made
of, with the fields and the initial values of their C++ structures.  Integers
keep the width of the source.  An enumeration is read back from storage by a
cast from any integer, so its values are all integers of the underlying type,
and the enumerators are named constants among them.
-/

namespace AppExecFwk

/-- A map with string keys, iterated in the order of the keys. -/
abbrev StringMap (α : Type) := Std.ExtTreeMap String α

/-- User id of no user. -/
def invalidUserId : Int32 := -1

/-- Uid of no application. -/
def invalidUid : Int32 := -1

/-- Group id of no application. -/
def invalidGid : Int32 := -1

/-- Kind of an ability. -/
structure AbilityType where
  value : Int32
  deriving DecidableEq

namespace AbilityType
def unknown : AbilityType := ⟨0⟩
def page : AbilityType := ⟨1⟩
def service : AbilityType := ⟨2⟩
def data : AbilityType := ⟨3⟩
def form : AbilityType := ⟨4⟩
def extension : AbilityType := ⟨5⟩
end AbilityType

/-- Kind of an extension ability. -/
structure ExtensionAbilityType where
  value : Int32
  deriving DecidableEq

namespace ExtensionAbilityType
def form : ExtensionAbilityType := ⟨0⟩
def service : ExtensionAbilityType := ⟨3⟩
def unspecified : ExtensionAbilityType := ⟨20⟩
end ExtensionAbilityType

/-- Orientation in which an ability is displayed. -/
structure DisplayOrientation where
  value : Int32
  deriving DecidableEq

namespace DisplayOrientation
def unspecified : DisplayOrientation := ⟨0⟩
end DisplayOrientation

/-- How many instances of an ability may run. -/
structure LaunchMode where
  value : Int32
  deriving DecidableEq

namespace LaunchMode
def singleton : LaunchMode := ⟨0⟩
end LaunchMode

/-- Colour mode of a module. -/
structure ModuleColorMode where
  value : Int32
  deriving DecidableEq

namespace ModuleColorMode
def auto : ModuleColorMode := ⟨-1⟩
end ModuleColorMode

/-- Kind of a module. -/
structure ModuleType where
  value : Int32
  deriving DecidableEq

namespace ModuleType
def unknown : ModuleType := ⟨0⟩
def entry : ModuleType := ⟨1⟩
def feature : ModuleType := ⟨2⟩
def har : ModuleType := ⟨3⟩
end ModuleType

/-- Language a form is written in. -/
structure FormType where
  value : Int32
  deriving DecidableEq

namespace FormType
def js : FormType := ⟨1⟩
end FormType

/-- Colour mode of a form. -/
structure FormsColorMode where
  value : Int32
  deriving DecidableEq

namespace FormsColorMode
def autoMode : FormsColorMode := ⟨-1⟩
end FormsColorMode

/-- Where an application comes from. -/
structure AppType where
  value : Int32
  deriving DecidableEq

namespace AppType
def systemApp : AppType := ⟨0⟩
def thirdSystemApp : AppType := ⟨1⟩
def thirdPartyApp : AppType := ⟨2⟩
end AppType

/-- One customised datum of a `config.json` module. -/
structure CustomizeData where
  name : String := ""
  value : String := ""
  extra : String := ""

/-- The metadata block of a `config.json` module. -/
structure MetaData where
  customizeData : List CustomizeData := []

/-- One metadata item of a `module.json` module. -/
structure Metadata where
  name : String := ""
  value : String := ""
  resource : String := ""

/-- The name and source directory of an installed module. -/
structure ModuleInfo where
  moduleName : String := ""
  moduleSourceDir : String := ""

/-- Configuration information about an application. -/
structure ApplicationInfo where
  name : String := ""
  bundleName : String := ""
  versionCode : UInt32 := 0
  versionName : String := ""
  minCompatibleVersionCode : Int32 := 0
  apiCompatibleVersion : UInt32 := 0
  apiTargetVersion : Int32 := 0
  iconPath : String := ""
  iconId : Int32 := 0
  label : String := ""
  labelId : Int32 := 0
  description : String := ""
  descriptionId : Int32 := 0
  keepAlive : Bool := false
  removable : Bool := true
  singleton : Bool := false
  userDataClearable : Bool := true
  accessible : Bool := false
  isSystemApp : Bool := false
  isLauncherApp : Bool := false
  isFreeInstallApp : Bool := false
  codePath : String := ""
  dataDir : String := ""
  dataBaseDir : String := ""
  cacheDir : String := ""
  entryDir : String := ""
  apiReleaseType : String := ""
  debug : Bool := false
  deviceId : String := ""
  distributedNotificationEnabled : Bool := true
  entityType : String := ""
  process : String := ""
  supportedModes : Int32 := 0
  vendor : String := ""
  appPrivilegeLevel : String := "normal"
  accessTokenId : UInt32 := 0
  enabled : Bool := false
  uid : Int32 := -1
  nativeLibraryPath : String := ""
  cpuAbi : String := ""
  permissions : List String := []
  moduleSourceDirs : List String := []
  moduleInfos : List ModuleInfo := []
  metaData : StringMap (List CustomizeData) := ∅
  metadata : StringMap (List Metadata) := ∅
  targetBundleList : List String := []
  isCloned : Bool := false
  fingerprint : String := ""
  icon : String := ""
  flags : Int32 := 0
  entryModuleName : String := ""
  isCompressNativeLibs : Bool := true
  signatureKey : String := ""

/-- Configuration information about an ability.  The resource ids that the
source leaves uninitialised start as zero here; the members that are never
stored and only serve an older interface are left out. -/
structure AbilityInfo where
  name : String := ""
  label : String := ""
  description : String := ""
  iconPath : String := ""
  labelId : Int32 := 0
  descriptionId : Int32 := 0
  iconId : Int32 := 0
  theme : String := ""
  visible : Bool := false
  kind : String := ""
  type : AbilityType := .unknown
  extensionAbilityType : ExtensionAbilityType := .unspecified
  orientation : DisplayOrientation := .unspecified
  launchMode : LaunchMode := .singleton
  srcPath : String := ""
  srcLanguage : String := "js"
  permissions : List String := []
  process : String := ""
  deviceTypes : List String := []
  deviceCapabilities : List String := []
  uri : String := ""
  targetAbility : String := ""
  applicationInfo : ApplicationInfo := {}
  isLauncherAbility : Bool := false
  isNativeAbility : Bool := false
  enabled : Bool := false
  supportPipMode : Bool := false
  formEnabled : Bool := false
  removeMissionAfterTerminate : Bool := false
  readPermission : String := ""
  writePermission : String := ""
  configChanges : List String := []
  formEntity : UInt32 := 0
  minFormHeight : Int32 := 0
  defaultFormHeight : Int32 := 0
  minFormWidth : Int32 := 0
  defaultFormWidth : Int32 := 0
  metaData : MetaData := {}
  backgroundModes : UInt32 := 0
  package : String := ""
  bundleName : String := ""
  moduleName : String := ""
  applicationName : String := ""
  codePath : String := ""
  resourcePath : String := ""
  srcEntrance : String := ""
  metadata : List Metadata := []
  isModuleJson : Bool := false
  isStageBasedModel : Bool := false
  continuable : Bool := false
  priority : Int32 := 0
  startWindowIcon : String := ""
  startWindowIconId : Int32 := 0
  startWindowBackground : String := ""
  startWindowBackgroundId : Int32 := 0

/-- Configuration information about an extension ability. -/
structure ExtensionAbilityInfo where
  bundleName : String := ""
  moduleName : String := ""
  name : String := ""
  srcEntrance : String := ""
  icon : String := ""
  iconId : Int32 := 0
  label : String := ""
  labelId : Int32 := 0
  description : String := ""
  descriptionId : Int32 := 0
  priority : Int32 := 0
  permissions : List String := []
  readPermission : String := ""
  writePermission : String := ""
  uri : String := ""
  type : ExtensionAbilityType := .form
  visible : Bool := false
  metadata : List Metadata := []
  applicationInfo : ApplicationInfo := {}
  resourcePath : String := ""
  enabled : Bool := true
  process : String := ""

/-- Where and when a requested permission is used. -/
structure RequestPermissionUsedScene where
  abilities : List String := []
  when : String := ""

/-- One permission a module requests. -/
structure RequestPermission where
  name : String := ""
  reason : String := ""
  reasonId : Int32 := 0
  usedScene : RequestPermissionUsedScene := {}

/-- Configuration information about a module. -/
structure HapModuleInfo where
  name : String := ""
  moduleName : String := ""
  description : String := ""
  descriptionId : Int32 := 0
  iconPath : String := ""
  label : String := ""
  labelId : Int32 := 0
  backgroundImg : String := ""
  mainAbility : String := ""
  srcPath : String := ""
  hashValue : String := ""
  hapPath : String := ""
  supportedModes : Int32 := 0
  reqCapabilities : List String := []
  deviceTypes : List String := []
  dependencies : List String := []
  abilityInfos : List AbilityInfo := []
  colorMode : ModuleColorMode := .auto
  bundleName : String := ""
  mainElementName : String := ""
  pages : String := ""
  process : String := ""
  resourcePath : String := ""
  srcEntrance : String := ""
  uiSyntax : String := ""
  virtualMachine : String := ""
  deliveryWithInstall : Bool := false
  installationFree : Bool := false
  isModuleJson : Bool := false
  isStageBasedModel : Bool := false
  isRemovable : StringMap Bool := ∅
  moduleType : ModuleType := .unknown
  extensionInfos : List ExtensionAbilityInfo := []
  metadata : List Metadata := []
  upgradeFlag : Int32 := 0

/-- Configuration information about a bundle. -/
structure BundleInfo where
  name : String := ""
  versionCode : UInt32 := 0
  versionName : String := ""
  minCompatibleVersionCode : UInt32 := 0
  compatibleVersion : UInt32 := 0
  targetVersion : UInt32 := 0
  isKeepAlive : Bool := false
  singleton : Bool := false
  isPreInstallApp : Bool := false
  vendor : String := ""
  releaseType : String := ""
  isNativeApp : Bool := false
  mainEntry : String := ""
  entryModuleName : String := ""
  entryInstallationFree : Bool := false
  appId : String := ""
  uid : Int32 := -1
  gid : Int32 := -1
  installTime : Int64 := 0
  updateTime : Int64 := 0
  applicationInfo : ApplicationInfo := {}
  abilityInfos : List AbilityInfo := []
  extensionInfos : List ExtensionAbilityInfo := []
  hapModuleInfos : List HapModuleInfo := []
  hapModuleNames : List String := []
  moduleNames : List String := []
  modulePublicDirs : List String := []
  moduleDirs : List String := []
  moduleResPaths : List String := []
  reqPermissions : List String := []
  defPermissions : List String := []
  reqPermissionStates : List Int32 := []
  reqPermissionDetails : List RequestPermission := []
  cpuAbi : String := ""
  seInfo : String := ""
  label : String := ""
  description : String := ""
  jointUserId : String := ""
  minSdkVersion : Int32 := -1
  maxSdkVersion : Int32 := -1
  isDifferentName : Bool := false

/-- One customised datum of a form. -/
structure FormCustomizeData where
  name : String := ""
  value : String := ""

/-- The window a form is designed for. -/
structure FormWindow where
  designWidth : Int32 := 720
  autoDesignWidth : Bool := false

/-- Configuration information about a form. -/
structure FormInfo where
  package : String := ""
  bundleName : String := ""
  originalBundleName : String := ""
  relatedBundleName : String := ""
  moduleName : String := ""
  abilityName : String := ""
  name : String := ""
  description : String := ""
  jsComponentName : String := ""
  deepLink : String := ""
  formConfigAbility : String := ""
  scheduledUpdateTime : String := ""
  src : String := ""
  window : FormWindow := {}
  descriptionId : Int32 := 0
  updateDuration : Int32 := 0
  defaultDimension : Int32 := 0
  defaultFlag : Bool := false
  formVisibleNotify : Bool := false
  updateEnabled : Bool := false
  type : FormType := .js
  supportDimensions : List Int32 := []
  colorMode : FormsColorMode := .autoMode
  landscapeLayouts : List String := []
  portraitLayouts : List String := []
  customizeDatas : List FormCustomizeData := []

/-- A static subscription to common events. -/
structure CommonEventInfo where
  name : String := ""
  bundleName : String := ""
  uid : Int32 := -1
  permission : String := ""
  data : List String := []
  type : List String := []
  events : List String := []

/-- The target of a shortcut. -/
structure ShortcutIntent where
  targetBundle : String := ""
  targetClass : String := ""

/-- Configuration information about a shortcut. -/
structure ShortcutInfo where
  id : String := ""
  bundleName : String := ""
  hostAbility : String := ""
  iconId : Int32 := 0
  labelId : Int32 := 0
  icon : String := ""
  label : String := ""
  disableMessage : String := ""
  intents : List ShortcutIntent := []
  isStatic : Bool := false
  isHomeShortcut : Bool := false
  isEnables : Bool := false

/-- What one user has switched on and off in a bundle. -/
structure BundleUserInfo where
  userId : Int32 := invalidUserId
  enabled : Bool := true
  disabledAbilities : List String := []
  deriving DecidableEq

/-- The version block of `pack.info`. -/
structure Version where
  code : UInt32 := 0
  name : String := ""
  minCompatibleVersionCode : UInt32 := 0

/-- The application block of `pack.info`. -/
structure PackageApp where
  bundleName : String := ""
  version : Version := {}

/-- A form listed in `pack.info`. -/
structure AbilityFormInfo where
  name : String := ""
  type : String := ""
  updateEnabled : Bool := false
  scheduledUpdateTime : String := ""
  updateDuration : UInt32 := 0
  supportDimensions : List String := []
  defaultDimension : String := ""

/-- An extension ability listed in `pack.info`. -/
structure ExtensionAbilities where
  name : String := ""
  forms : List AbilityFormInfo := []

/-- An ability listed in `pack.info`. -/
structure ModuleAbilityInfo where
  name : String := ""
  label : String := ""
  visible : Bool := false
  forms : List AbilityFormInfo := []

/-- How a module listed in `pack.info` is distributed. -/
structure ModuleDistro where
  moduleType : String := ""
  moduleName : String := ""
  installationFree : Bool := false
  deliveryWithInstall : Bool := false

/-- The api versions of a module listed in `pack.info`. -/
structure ApiVersion where
  compatible : UInt32 := 0
  releaseType : String := ""
  target : UInt32 := 0

/-- A module listed in `pack.info`. -/
structure PackageModule where
  mainAbility : String := ""
  deviceType : List String := []
  abilities : List ModuleAbilityInfo := []
  extensionAbilities : List ExtensionAbilities := []
  distro : ModuleDistro := {}
  apiVersion : ApiVersion := {}

/-- The summary of `pack.info`. -/
structure Summary where
  app : PackageApp := {}
  modules : List PackageModule := []

/-- A package listed in `pack.info`. -/
structure Packages where
  deviceType : List String := []
  moduleType : String := ""
  deliveryWithInstall : Bool := false
  name : String := ""

/-- The contents of `pack.info`; `isValid` is not persisted. -/
structure BundlePackInfo where
  summary : Summary := {}
  packages : List Packages := []
  isValid : Bool := false

namespace BundleUserInfo

/-- Nothing is switched off. -/
def isInitialState (info : BundleUserInfo) : Bool :=
  info.enabled && info.disabledAbilities.isEmpty

/-- Switch everything on again. -/
def reset (info : BundleUserInfo) : BundleUserInfo :=
  { info with enabled := true, disabledAbilities := [] }

@[simp]
theorem isInitialState_reset (info : BundleUserInfo) :
    info.reset.isInitialState = true :=
  rfl

end BundleUserInfo

end AppExecFwk
