import AppExecFwk.Codec.StoredEntries

/-!
# The profile `config.json`

The profile of a package of the older format is decoded through the result
variable of the profile reader, which `TransformTo` resets at its end.
-/

namespace AppExecFwk

namespace ProfileReader

variable {condition : ParseResults → Prop}

/-- The version of the application. -/
structure Version where
  code : Int32 := 0
  name : String := ""
  minCompatibleVersionCode : Int32 := -1

/-- The api versions of the application. -/
structure ApiVersion where
  compatible : UInt32 := 0
  target : UInt32 := 0
  releaseType : String := "Release"

/-- The application block. -/
structure App where
  bundleName : String := ""
  originalName : String := ""
  vendor : String := ""
  removable : Bool × Bool := (false, true)
  version : Version := {}
  apiVersion : ApiVersion := {}
  singleton : Bool := false
  iconId : Int32 := 0
  labelId : Int32 := 0
  userDataClearable : Bool := true
  targetBundleList : List String := []

/-- The api versions a device has to offer. -/
structure ReqVersion where
  compatible : UInt32 := 0
  target : UInt32 := 0

/-- The runtime of a device. -/
structure Ark where
  reqVersion : ReqVersion := {}
  flag : String := ""

/-- A network domain. -/
structure Domain where
  subDomains : Bool := false
  name : String := ""

/-- The settings of the network domains. -/
structure DomainSetting where
  cleartextPermitted : Bool := false
  domains : List Domain := []

/-- The network security of a device. -/
structure SecurityConfig where
  domainSetting : DomainSetting := {}

/-- The network settings of a device. -/
structure Network where
  usesCleartext : Bool := false
  securityConfig : SecurityConfig := {}

/-- The settings for one type of device. -/
structure Device where
  jointUserId : String := ""
  process : String := ""
  keepAlive : Bool := false
  ark : Ark := {}
  directLaunch : Bool := false
  supportBackup : Bool := false
  compressNativeLibs : Bool := true
  network : Network := {}
  debug : Bool := false

/-- The settings for every type of device. -/
structure DeviceConfig where
  defaultDevice : Device := {}
  phone : Device := {}
  tablet : Device := {}
  tv : Device := {}
  car : Device := {}
  wearable : Device := {}
  liteWearable : Device := {}
  smartVision : Device := {}

/-- The size of a form of an older profile. -/
structure Form where
  formEntity : List String := []
  minHeight : Int32 := 0
  defaultHeight : Int32 := 0
  minWidth : Int32 := 0
  defaultWidth : Int32 := 0

/-- One customised datum of a form. -/
structure FormsCustomizeData where
  name : String := ""
  value : String := ""

/-- The metadata of a form. -/
structure FormsMetaData where
  customizeData : List FormsCustomizeData := []

/-- The window of a page or form. -/
structure Window where
  designWidth : Int32 := 720
  autoDesignWidth : Bool := false

/-- A form. -/
structure Forms where
  name : String := ""
  description : String := ""
  descriptionId : Int32 := 0
  isDefault : Bool := false
  type : String := ""
  src : String := ""
  window : Window := {}
  colorMode : String := "auto"
  supportDimensions : List String := []
  defaultDimension : String := ""
  landscapeLayouts : List String := []
  portraitLayouts : List String := []
  updateEnabled : Bool := false
  scheduledUpdateTime : String := ""
  updateDuration : Int32 := 0
  deepLink : String := ""
  formConfigAbility : String := ""
  formVisibleNotify : Bool := false
  jsComponentName : String := ""
  metaData : FormsMetaData := {}

/-- One customised datum of a module or ability. -/
structure CustomizeData where
  name : String := ""
  value : String := ""
  extra : String := ""

/-- The metadata of a module or ability. -/
structure MetaData where
  customizeData : List CustomizeData := []

/-- The permissions a data ability grants. -/
structure UriPermission where
  mode : String := ""
  path : String := ""

/-- An ability; a grant of permissions that the source leaves uninitialised
starts as false here. -/
structure Ability where
  name : String := ""
  originalName : String := ""
  description : String := ""
  descriptionId : Int32 := 0
  icon : String := ""
  iconId : Int32 := 0
  label : String := ""
  labelId : Int32 := 0
  priority : Int32 := 0
  uri : String := ""
  process : String := ""
  launchType : String := "singleton"
  theme : String := ""
  visible : Bool := false
  continuable : Bool := false
  permissions : List String := []
  skills : List Skill := []
  deviceCapability : List String := []
  metaData : MetaData := {}
  type : String := ""
  srcPath : String := ""
  srcLanguage : String := "js"
  formEnabled : Bool := false
  form : Form := {}
  orientation : String := "unspecified"
  backgroundModes : List String := []
  grantPermission : Bool := false
  uriPermission : UriPermission := {}
  readPermission : String := ""
  writePermission : String := ""
  directLaunch : Bool := false
  configChanges : List String := []
  mission : String := ""
  targetAbility : String := ""
  multiUserShared : Bool := false
  supportPipMode : Bool := false
  formsEnabled : Bool := false
  formses : List Forms := []
  startWindowIcon : String := ""
  startWindowIconId : Int32 := 0
  startWindowBackground : String := ""
  startWindowBackgroundId : Int32 := 0
  removeMissionAfterTerminate : Bool := false

/-- A page bundle. -/
structure Js where
  name : String := "default"
  pages : List String := []
  window : Window := {}
  type : String := "normal"

/-- The target of a shortcut. -/
structure Intent where
  targetClass : String := ""
  targetBundle : String := ""

/-- A static subscription to common events. -/
structure CommonEvent where
  name : String := ""
  permission : String := ""
  data : List String := []
  type : List String := []
  events : List String := []

/-- A shortcut. -/
structure Shortcut where
  shortcutId : String := ""
  label : String := ""
  icon : String := ""
  iconId : Int32 := 0
  labelId : Int32 := 0
  intents : List Intent := []

/-- The module block. -/
structure Module where
  package : String := ""
  name : String := ""
  description : String := ""
  descriptionId : Int32 := 0
  colorMode : String := "auto"
  supportedModes : List String := []
  reqCapabilities : List String := []
  deviceType : List String := []
  dependencies : List String := []
  distro : Distro := {}
  metaData : MetaData := {}
  abilities : List Ability := []
  jses : List Js := []
  commonEvents : List CommonEvent := []
  shortcuts : List Shortcut := []
  defPermissions : List DefinePermission := []
  requestPermissions : List RequestPermission := []
  definePermissions : List DefinePermission := []
  mainAbility : String := ""
  srcPath : String := ""

/-- The whole profile. -/
structure ConfigJson where
  app : App := {}
  deveicConfig : DeviceConfig := {}
  module : Module := {}

def Version.fromJson (json : Json) : Decode Version := do
  let info : Version := {}
  let code ← readInt32 .reader json "code" info.code true
  let name ← readString .reader json "name" info.name true
  let minCompatibleVersionCode ← readInt32 .reader json
    "minCompatibleVersionCode" info.minCompatibleVersionCode
  return { info with code, name, minCompatibleVersionCode }

instance [Unaffected condition .reader] :
    PreservesAll condition Version.fromJson where
  preserves json := by
    repeat refine Preserves.read.bind fun _ => ?_
    exact Preserves.pure _

def ApiVersion.fromJson (json : Json) : Decode ApiVersion := do
  let info : ApiVersion := {}
  let compatible ← readUInt32 .reader json "compatible" info.compatible true
  let target ← readUInt32 .reader json "target" info.target
  let releaseType ← readString .reader json "releaseType" info.releaseType
  return { info with compatible, target, releaseType }

instance [Unaffected condition .reader] :
    PreservesAll condition ApiVersion.fromJson where
  preserves json := by
    repeat refine Preserves.read.bind fun _ => ?_
    exact Preserves.pure _

def App.fromJson (json : Json) : Decode App := do
  let info : App := {}
  let bundleName ← readString .reader json "bundleName" info.bundleName true
  let originalName ← readString .reader json "originalName" info.originalName
  let version ← readObject .reader json "version" Version.fromJson info.version
    true
  let apiVersion ← readObject .reader json "apiVersion" ApiVersion.fromJson
    info.apiVersion true
  let vendor ← readString .reader json "vendor" info.vendor
  let singleton ← readBool .reader json "singleton" info.singleton
  let iconId ← readInt32 .reader json "iconId" info.iconId
  let labelId ← readInt32 .reader json "labelId" info.labelId
  let removable := ((json.find? "removable").isSome,
    ← readBool .reader json "removable" info.removable.2)
  let userDataClearable ← readBool .reader json "userDataClearable"
    info.userDataClearable
  let targetBundleList ← readStrings .reader json "targetBundleList"
    info.targetBundleList
  return { info with
    bundleName, originalName, version, apiVersion, vendor, singleton, iconId,
    labelId, removable, userDataClearable, targetBundleList }

instance [Unaffected condition .reader] :
    PreservesAll condition App.fromJson where
  preserves json := by
    repeat refine Preserves.read.bind fun _ => ?_
    exact Preserves.pure _

def ReqVersion.fromJson (json : Json) : Decode ReqVersion := do
  let info : ReqVersion := {}
  let compatible ← readUInt32 .reader json "compatible" info.compatible true
  let target ← readUInt32 .reader json "target" info.target
  return { info with compatible, target }

instance [Unaffected condition .reader] :
    PreservesAll condition ReqVersion.fromJson where
  preserves json := by
    repeat refine Preserves.read.bind fun _ => ?_
    exact Preserves.pure _

def Ark.fromJson (json : Json) : Decode Ark := do
  let info : Ark := {}
  let reqVersion ← readObject .reader json "reqVersion" ReqVersion.fromJson
    info.reqVersion
  let flag ← readString .reader json "flag" info.flag
  return { info with reqVersion, flag }

instance [Unaffected condition .reader] :
    PreservesAll condition Ark.fromJson where
  preserves json := by
    repeat refine Preserves.read.bind fun _ => ?_
    exact Preserves.pure _

def Domain.fromJson (json : Json) : Decode Domain := do
  let info : Domain := {}
  let subDomains ← readBool .reader json "subDomains" info.subDomains true
  let name ← readString .reader json "name" info.name true
  return { info with subDomains, name }

instance [Unaffected condition .reader] :
    PreservesAll condition Domain.fromJson where
  preserves json := by
    repeat refine Preserves.read.bind fun _ => ?_
    exact Preserves.pure _

def DomainSetting.fromJson (json : Json) : Decode DomainSetting := do
  let info : DomainSetting := {}
  let cleartextPermitted ← readBool .reader json "cleartextPermitted"
    info.cleartextPermitted true
  let domains ← readObjects .reader json "domains" Domain.fromJson info.domains
    true
  return { info with cleartextPermitted, domains }

instance [Unaffected condition .reader] :
    PreservesAll condition DomainSetting.fromJson where
  preserves json := by
    repeat refine Preserves.read.bind fun _ => ?_
    exact Preserves.pure _

def SecurityConfig.fromJson (json : Json) : Decode SecurityConfig := do
  let info : SecurityConfig := {}
  let domainSetting ← readObject .reader json "domainSettings"
    DomainSetting.fromJson info.domainSetting
  return { info with domainSetting }

instance [Unaffected condition .reader] :
    PreservesAll condition SecurityConfig.fromJson where
  preserves json := by
    repeat refine Preserves.read.bind fun _ => ?_
    exact Preserves.pure _

def Network.fromJson (json : Json) : Decode Network := do
  let info : Network := {}
  let usesCleartext ← readBool .reader json "usesCleartext" info.usesCleartext
  let securityConfig ← readObject .reader json "securityConfig"
    SecurityConfig.fromJson info.securityConfig
  return { info with usesCleartext, securityConfig }

instance [Unaffected condition .reader] :
    PreservesAll condition Network.fromJson where
  preserves json := by
    repeat refine Preserves.read.bind fun _ => ?_
    exact Preserves.pure _

def Device.fromJson (json : Json) : Decode Device := do
  let info : Device := {}
  let jointUserId ← readString .reader json "jointUserId" info.jointUserId
  let process ← readString .reader json "process" info.process
  let keepAlive ← readBool .reader json "keepAlive" info.keepAlive
  let ark ← readObject .reader json "ark" Ark.fromJson info.ark
  let directLaunch ← readBool .reader json "directLaunch" info.directLaunch
  let supportBackup ← readBool .reader json "supportBackup" info.supportBackup
  let debug ← readBool .reader json "debug" info.debug
  let compressNativeLibs ← readBool .reader json "compressNativeLibs"
    info.compressNativeLibs
  let network ← readObject .reader json "network" Network.fromJson info.network
  return { info with
    jointUserId, process, keepAlive, ark, directLaunch, supportBackup, debug,
    compressNativeLibs, network }

instance [Unaffected condition .reader] :
    PreservesAll condition Device.fromJson where
  preserves json := by
    repeat refine Preserves.read.bind fun _ => ?_
    exact Preserves.pure _

def DeviceConfig.fromJson (json : Json) : Decode DeviceConfig := do
  let info : DeviceConfig := {}
  let defaultDevice ← readObject .reader json "default" Device.fromJson
    info.defaultDevice
  let phone ← readObject .reader json "phone" Device.fromJson info.phone
  let tablet ← readObject .reader json "tablet" Device.fromJson info.tablet
  let tv ← readObject .reader json "tv" Device.fromJson info.tv
  let car ← readObject .reader json "car" Device.fromJson info.car
  let wearable ← readObject .reader json "wearable" Device.fromJson
    info.wearable
  let liteWearable ← readObject .reader json "liteWearable" Device.fromJson
    info.liteWearable
  let smartVision ← readObject .reader json "smartVision" Device.fromJson
    info.smartVision
  return { info with
    defaultDevice, phone, tablet, tv, car, wearable, liteWearable, smartVision }

instance [Unaffected condition .reader] :
    PreservesAll condition DeviceConfig.fromJson where
  preserves json := by
    repeat refine Preserves.read.bind fun _ => ?_
    exact Preserves.pure _

def Form.fromJson (json : Json) : Decode Form := do
  let info : Form := {}
  let formEntity ← readStrings .reader json "formEntity" info.formEntity
  let minHeight ← readInt32 .reader json "minHeight" info.minHeight
  let defaultHeight ← readInt32 .reader json "defaultHeight" info.defaultHeight
  let minWidth ← readInt32 .reader json "minWidth" info.minWidth
  let defaultWidth ← readInt32 .reader json "defaultWidth" info.defaultWidth
  return { info with
    formEntity, minHeight, defaultHeight, minWidth, defaultWidth }

instance [Unaffected condition .reader] :
    PreservesAll condition Form.fromJson where
  preserves json := by
    repeat refine Preserves.read.bind fun _ => ?_
    exact Preserves.pure _

def FormsCustomizeData.fromJson (json : Json) : Decode FormsCustomizeData := do
  let info : FormsCustomizeData := {}
  let name ← readString .reader json "name" info.name
  let value ← readString .reader json "value" info.value
  return { info with name, value }

instance [Unaffected condition .reader] :
    PreservesAll condition FormsCustomizeData.fromJson where
  preserves json := by
    repeat refine Preserves.read.bind fun _ => ?_
    exact Preserves.pure _

def FormsMetaData.fromJson (json : Json) : Decode FormsMetaData := do
  let info : FormsMetaData := {}
  let customizeData ← readObjects .reader json "customizeData"
    FormsCustomizeData.fromJson info.customizeData
  return { info with customizeData }

instance [Unaffected condition .reader] :
    PreservesAll condition FormsMetaData.fromJson where
  preserves json := by
    repeat refine Preserves.read.bind fun _ => ?_
    exact Preserves.pure _

def Window.fromJson (json : Json) : Decode Window := do
  let info : Window := {}
  let designWidth ← readInt32 .reader json "designWidth" info.designWidth
  let autoDesignWidth ← readBool .reader json "autoDesignWidth"
    info.autoDesignWidth
  return { info with designWidth, autoDesignWidth }

instance [Unaffected condition .reader] :
    PreservesAll condition Window.fromJson where
  preserves json := by
    repeat refine Preserves.read.bind fun _ => ?_
    exact Preserves.pure _

def Forms.fromJson (json : Json) : Decode Forms := do
  let info : Forms := {}
  let name ← readString .reader json "name" info.name true
  let isDefault ← readBool .reader json "isDefault" info.isDefault true
  let type ← readString .reader json "type" info.type true
  let src ← readString .reader json "src" info.src
  let window ← readObject .reader json "window" Window.fromJson info.window
  let supportDimensions ← readStrings .reader json "supportDimensions"
    info.supportDimensions true
  let defaultDimension ← readString .reader json "defaultDimension"
    info.defaultDimension true
  let landscapeLayouts ← readStrings .reader json "landscapeLayouts"
    info.landscapeLayouts
  let portraitLayouts ← readStrings .reader json "portraitLayouts"
    info.portraitLayouts
  let updateEnabled ← readBool .reader json "updateEnabled" info.updateEnabled
    true
  let jsComponentName ← readString .reader json "jsComponentName"
    info.jsComponentName true
  let description ← readString .reader json "description" info.description
  let descriptionId ← readInt32 .reader json "descriptionId" info.descriptionId
  let colorMode ← readString .reader json "colorMode" info.colorMode
  let scheduledUpdateTime ← readString .reader json "scheduledUpdateTime"
    info.scheduledUpdateTime
  let updateDuration ← readInt32 .reader json "updateDuration"
    info.updateDuration
  let deepLink ← readString .reader json "deepLink" info.deepLink
  let formConfigAbility ← readString .reader json "formConfigAbility"
    info.formConfigAbility
  let formVisibleNotify ← readBool .reader json "formVisibleNotify"
    info.formVisibleNotify
  let metaData ← readObject .reader json "metaData" FormsMetaData.fromJson
    info.metaData
  return { info with
    name, isDefault, type, src, window, supportDimensions, defaultDimension,
    landscapeLayouts, portraitLayouts, updateEnabled, jsComponentName,
    description, descriptionId, colorMode, scheduledUpdateTime, updateDuration,
    deepLink, formConfigAbility, formVisibleNotify, metaData }

instance [Unaffected condition .reader] :
    PreservesAll condition Forms.fromJson where
  preserves json := by
    repeat refine Preserves.read.bind fun _ => ?_
    exact Preserves.pure _

def CustomizeData.fromJson (json : Json) : Decode CustomizeData := do
  let info : CustomizeData := {}
  let name ← readString .reader json "name" info.name
  let extra ← readString .reader json "extra" info.extra
  let value ← readString .reader json "value" info.value
  return { info with name, extra, value }

instance [Unaffected condition .reader] :
    PreservesAll condition CustomizeData.fromJson where
  preserves json := by
    repeat refine Preserves.read.bind fun _ => ?_
    exact Preserves.pure _

def MetaData.fromJson (json : Json) : Decode MetaData := do
  let info : MetaData := {}
  let customizeData ← readObjects .reader json "customizeData"
    CustomizeData.fromJson info.customizeData
  return { info with customizeData }

instance [Unaffected condition .reader] :
    PreservesAll condition MetaData.fromJson where
  preserves json := by
    repeat refine Preserves.read.bind fun _ => ?_
    exact Preserves.pure _

def UriPermission.fromJson (json : Json) : Decode UriPermission := do
  let info : UriPermission := {}
  let mode ← readString .reader json "mode" info.mode
  let path ← readString .reader json "path" info.path
  return { info with mode, path }

instance [Unaffected condition .reader] :
    PreservesAll condition UriPermission.fromJson where
  preserves json := by
    repeat refine Preserves.read.bind fun _ => ?_
    exact Preserves.pure _

def Ability.fromJson (json : Json) : Decode Ability := do
  let info : Ability := {}
  let name ← readString .reader json "name" info.name true
  let originalName ← readString .reader json "originalName" info.originalName
  let type ← readString .reader json "type" info.type true
  let srcPath ← readString .reader json "srcPath" info.srcPath
  let srcLanguage ← readString .reader json "srcLanguage" info.srcLanguage
  let description ← readString .reader json "description" info.description
  let descriptionId ← readInt32 .reader json "descriptionId" info.descriptionId
  let icon ← readString .reader json "icon" info.icon
  let iconId ← readInt32 .reader json "iconId" info.iconId
  let process ← readString .reader json "process" info.process
  let label ← readString .reader json "label" info.label
  let labelId ← readInt32 .reader json "labelId" info.labelId
  let priority ← readInt32 .reader json "priority" info.priority
  let uri ← readString .reader json "uri" info.uri
  let launchType ← readString .reader json "launchType" info.launchType
  let theme ← readString .reader json "theme" info.theme
  let visible ← readBool .reader json "visible" info.visible
  let continuable ← readBool .reader json "continuable" info.continuable
  let permissions ← readStrings .reader json "permissions" info.permissions
  let skills ← readObjects .reader json "skills" Skill.fromJson info.skills
  let deviceCapability ← readStrings .reader json "deviceCapability"
    info.deviceCapability
  let metaData ← readObject .reader json "metaData" MetaData.fromJson
    info.metaData
  let formEnabled ← readBool .reader json "formEnabled" info.formEnabled
  let form ← readObject .reader json "form" Form.fromJson info.form
  let orientation ← readString .reader json "orientation" info.orientation
  let backgroundModes ← readStrings .reader json "backgroundModes"
    info.backgroundModes
  let grantPermission ← readBool .reader json "grantPermission"
    info.grantPermission
  let uriPermission ← readObject .reader json "uriPermission"
    UriPermission.fromJson info.uriPermission
  let readPermission ← readString .reader json "readPermission"
    info.readPermission
  let writePermission ← readString .reader json "writePermission"
    info.writePermission
  let directLaunch ← readBool .reader json "directLaunch" info.directLaunch
  let configChanges ← readStrings .reader json "configChanges"
    info.configChanges
  let mission ← readString .reader json "mission" info.mission
  let targetAbility ← readString .reader json "targetAbility" info.targetAbility
  let multiUserShared ← readBool .reader json "multiUserShared"
    info.multiUserShared
  let supportPipMode ← readBool .reader json "supportPipMode"
    info.supportPipMode
  let formsEnabled ← readBool .reader json "formsEnabled" info.formsEnabled
  let formses ← readObjects .reader json "forms" Forms.fromJson info.formses
  let startWindowIcon ← readString .reader json "startWindowIcon"
    info.startWindowIcon
  let startWindowIconId ← readInt32 .reader json "startWindowIconId"
    info.startWindowIconId
  let startWindowBackground ← readString .reader json "startWindowBackground"
    info.startWindowBackground
  let startWindowBackgroundId ← readInt32 .reader json
    "startWindowBackgroundId" info.startWindowBackgroundId
  let removeMissionAfterTerminate ← readBool .reader json
    "removeMissionAfterTerminate" info.removeMissionAfterTerminate
  return { info with
    name, originalName, type, srcPath, srcLanguage, description, descriptionId,
    icon, iconId, process, label, labelId, priority, uri, launchType, theme,
    visible, continuable, permissions, skills, deviceCapability, metaData,
    formEnabled, form, orientation, backgroundModes, grantPermission,
    uriPermission, readPermission, writePermission, directLaunch,
    configChanges, mission, targetAbility, multiUserShared, supportPipMode,
    formsEnabled, formses, startWindowIcon, startWindowIconId,
    startWindowBackground, startWindowBackgroundId,
    removeMissionAfterTerminate }

instance [Unaffected condition .reader] :
    PreservesAll condition Ability.fromJson where
  preserves json := by
    repeat refine Preserves.read.bind fun _ => ?_
    exact Preserves.pure _

def Js.fromJson (json : Json) : Decode Js := do
  let info : Js := {}
  let name ← readString .reader json "name" info.name true
  let pages ← readStrings .reader json "pages" info.pages true
  let window ← readObject .reader json "window" Window.fromJson info.window
  let type ← readString .reader json "type" info.type
  return { info with name, pages, window, type }

instance [Unaffected condition .reader] :
    PreservesAll condition Js.fromJson where
  preserves json := by
    repeat refine Preserves.read.bind fun _ => ?_
    exact Preserves.pure _

def Intent.fromJson (json : Json) : Decode Intent := do
  let info : Intent := {}
  let targetClass ← readString .reader json "targetClass" info.targetClass
  let targetBundle ← readString .reader json "targetBundle" info.targetBundle
  return { info with targetClass, targetBundle }

instance [Unaffected condition .reader] :
    PreservesAll condition Intent.fromJson where
  preserves json := by
    repeat refine Preserves.read.bind fun _ => ?_
    exact Preserves.pure _

def CommonEvent.fromJson (json : Json) : Decode CommonEvent := do
  let info : CommonEvent := {}
  let name ← readString .reader json "name" info.name true
  let events ← readStrings .reader json "events" info.events true
  let permission ← readString .reader json "permission" info.permission
  let data ← readStrings .reader json "data" info.data
  let type ← readStrings .reader json "type" info.type
  return { info with name, events, permission, data, type }

instance [Unaffected condition .reader] :
    PreservesAll condition CommonEvent.fromJson where
  preserves json := by
    repeat refine Preserves.read.bind fun _ => ?_
    exact Preserves.pure _

def Shortcut.fromJson (json : Json) : Decode Shortcut := do
  let info : Shortcut := {}
  let shortcutId ← readString .reader json "shortcutId" info.shortcutId true
  let label ← readString .reader json "label" info.label
  let icon ← readString .reader json "icon" info.icon
  let intents ← readObjects .reader json "intents" Intent.fromJson info.intents
  let labelId ← readInt32 .reader json "labelId" info.labelId
  let iconId ← readInt32 .reader json "iconId" info.iconId
  return { info with shortcutId, label, icon, intents, labelId, iconId }

instance [Unaffected condition .reader] :
    PreservesAll condition Shortcut.fromJson where
  preserves json := by
    repeat refine Preserves.read.bind fun _ => ?_
    exact Preserves.pure _

def Module.fromJson (json : Json) : Decode Module := do
  let info : Module := {}
  let package ← readString .reader json "package" info.package
  let name ← readString .reader json "name" info.name
  let deviceType ← readStrings .reader json "deviceType" info.deviceType true
  let colorMode ← readString .reader json "colorMode" info.colorMode
  let distro ← readObject .reader json "distro" Distro.fromJson info.distro
  let description ← readString .reader json "description" info.description
  let descriptionId ← readInt32 .reader json "descriptionId" info.descriptionId
  let supportedModes ← readStrings .reader json "supportedModes"
    info.supportedModes
  let reqCapabilities ← readStrings .reader json "reqCapabilities"
    info.reqCapabilities
  let metaData ← readObject .reader json "metaData" MetaData.fromJson
    info.metaData
  let abilities ← readObjects .reader json "abilities" Ability.fromJson
    info.abilities
  let jses ← readObjects .reader json "js" Js.fromJson info.jses
  let commonEvents ← readObjects .reader json "commonEvents"
    CommonEvent.fromJson info.commonEvents
  let shortcuts ← readObjects .reader json "shortcuts" Shortcut.fromJson
    info.shortcuts
  let defPermissions ← readObjects .reader json "defPermissions"
    DefinePermission.fromJson info.defPermissions
  let requestPermissions ← readObjects .reader json "reqPermissions"
    RequestPermission.fromJson info.requestPermissions
  let definePermissions ← readObjects .reader json "definePermissions"
    DefinePermission.fromJson info.definePermissions
  let mainAbility ← readString .reader json "mainAbility" info.mainAbility
  let srcPath ← readString .reader json "srcPath" info.srcPath
  let dependencies ← readStrings .reader json "dependencies" info.dependencies
  return { info with
    package, name, deviceType, colorMode, distro, description, descriptionId,
    supportedModes, reqCapabilities, metaData, abilities, jses, commonEvents,
    shortcuts, defPermissions, requestPermissions, definePermissions,
    mainAbility, srcPath, dependencies }

instance [Unaffected condition .here] [Unaffected condition .reader] :
    PreservesAll condition Module.fromJson where
  preserves json := by
    repeat refine Preserves.read.bind fun _ => ?_
    exact Preserves.pure _

def ConfigJson.fromJson (json : Json) : Decode ConfigJson := do
  let info : ConfigJson := {}
  let app ← readObject .reader json "app" App.fromJson info.app true
  let deveicConfig ← readObject .reader json "deviceConfig"
    DeviceConfig.fromJson info.deveicConfig true
  let module ← readObject .reader json "module" Module.fromJson info.module true
  return { info with app, deveicConfig, module }

instance [Unaffected condition .here] [Unaffected condition .reader] :
    PreservesAll condition ConfigJson.fromJson where
  preserves json := by
    repeat refine Preserves.read.bind fun _ => ?_
    exact Preserves.pure _

end ProfileReader

/-- Decode a profile and make a bundle information object of it. -/
def BundleProfile.transformTo
    (toInnerBundleInfo :
      ProfileReader.ConfigJson → InnerBundleInfo → Bool × InnerBundleInfo)
    (source : Option Json) (innerBundleInfo : InnerBundleInfo) :
    Decode (ErrCode × InnerBundleInfo) :=
  match source with
  | none => return (ErrCode.parseBadProfile, innerBundleInfo)
  | some jsonObject => do
      let configJson ← ProfileReader.ConfigJson.fromJson jsonObject
      let ret ← takeResult .reader
      if ret ≠ ErrCode.ok then
        return (ret, innerBundleInfo)
      let (converted, innerBundleInfo) :=
        toInnerBundleInfo configJson innerBundleInfo
      if !converted then
        return (ErrCode.parseProfilePropCheckError, innerBundleInfo)
      return (ErrCode.ok, innerBundleInfo)

end AppExecFwk
