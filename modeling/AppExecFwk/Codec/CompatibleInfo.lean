import AppExecFwk.Info.Base
import AppExecFwk.Library.Handover
import AppExecFwk.Library.Utf16

/-!
# Information in the compatible form

An older interface passes ability information in a form of its own.  It is
converted to that form, written into a parcel member by member, read in another
process and converted back.  The reader refuses long lists and empty strings in
them.
-/

namespace AppExecFwk

open ChannelProgram

/-! ## The records -/

/-- Subkind of an ability. -/
structure AbilitySubType where
  value : Int32
  deriving DecidableEq

namespace AbilitySubType
def unspecified : AbilitySubType := ⟨0⟩
def ca : AbilitySubType := ⟨1⟩
end AbilitySubType

/-- Ability information with all its members: behind those that are stored
stand the ones that only serve the older interface. -/
structure CompleteAbilityInfo extends AbilityInfo where
  originalBundleName : String := ""
  appName : String := ""
  privacyUrl : String := ""
  privacyName : String := ""
  downloadUrl : String := ""
  versionName : String := ""
  className : String := ""
  originalClassName : String := ""
  uriPermissionMode : String := ""
  uriPermissionPath : String := ""
  packageSize : UInt32 := 0
  multiUserShared : Bool := false
  grantPermission : Bool := false
  directLaunch : Bool := true
  subType : AbilitySubType := .unspecified
  libPath : String := ""
  deviceId : String := ""

/-- Application information in the compatible form. -/
structure CompatibleApplicationInfo where
  name : String := ""
  icon : String := ""
  label : String := ""
  description : String := ""
  cpuAbi : String := ""
  process : String := ""
  isCompressNativeLibs : Bool := true
  iconId : Int32 := 0
  labelId : Int32 := 0
  descriptionId : Int32 := 0
  systemApp : Bool := false
  permissions : List String := []
  moduleInfos : List ModuleInfo := []
  supportedModes : Int32 := 0
  enabled : Bool := true
  debug : Bool := false

/-- Ability information in the compatible form. -/
structure CompatibleAbilityInfo where
  package : String := ""
  name : String := ""
  label : String := ""
  description : String := ""
  iconPath : String := ""
  uri : String := ""
  moduleName : String := ""
  process : String := ""
  targetAbility : String := ""
  appName : String := ""
  privacyUrl : String := ""
  privacyName : String := ""
  downloadUrl : String := ""
  versionName : String := ""
  backgroundModes : UInt32 := 0
  packageSize : UInt32 := 0
  visible : Bool := false
  formEnabled : Bool := false
  multiUserShared : Bool := false
  type : AbilityType := .unknown
  subType : AbilitySubType := .unspecified
  orientation : DisplayOrientation := .unspecified
  launchMode : LaunchMode := .singleton
  permissions : List String := []
  deviceTypes : List String := []
  deviceCapabilities : List String := []
  supportPipMode : Bool := false
  grantPermission : Bool := false
  readPermission : String := ""
  writePermission : String := ""
  uriPermissionMode : String := ""
  uriPermissionPath : String := ""
  directLaunch : Bool := true
  bundleName : String := ""
  className : String := ""
  originalClassName : String := ""
  deviceId : String := ""
  applicationInfo : CompatibleApplicationInfo := {}
  formEntity : UInt32 := 1
  minFormHeight : Int32 := 0
  defaultFormHeight : Int32 := 0
  minFormWidth : Int32 := 0
  defaultFormWidth : Int32 := 0
  iconId : Int32 := 0
  labelId : Int32 := 0
  descriptionId : Int32 := 0
  enabled : Bool := true

/-! ## The conversions -/

def ApplicationInfo.convertToCompatibleApplicationInfo
    (info : ApplicationInfo) : CompatibleApplicationInfo where
  name := info.name
  icon := info.icon
  label := info.label
  description := info.description
  cpuAbi := info.cpuAbi
  process := info.process
  systemApp := info.isSystemApp
  isCompressNativeLibs := info.isCompressNativeLibs
  iconId := info.iconId
  labelId := info.labelId
  descriptionId := info.descriptionId
  permissions := info.permissions
  moduleInfos := info.moduleInfos
  supportedModes := info.supportedModes
  enabled := info.enabled
  debug := info.debug

/-- The flag `debug` is copied to `enabled`, and not to `debug`. -/
def CompatibleApplicationInfo.convertToApplicationInfo
    (info : CompatibleApplicationInfo) (applicationInfo : ApplicationInfo) :
    ApplicationInfo :=
  { applicationInfo with
    name := info.name
    icon := info.icon
    label := info.label
    description := info.description
    cpuAbi := info.cpuAbi
    process := info.process
    isSystemApp := info.systemApp
    isCompressNativeLibs := info.isCompressNativeLibs
    iconId := info.iconId
    labelId := info.labelId
    descriptionId := info.descriptionId
    permissions := info.permissions
    moduleInfos := info.moduleInfos
    supportedModes := info.supportedModes
    enabled := info.debug
    entryModuleName := "" }

def CompleteAbilityInfo.convertToCompatiableAbilityInfo
    (info : CompleteAbilityInfo) : CompatibleAbilityInfo where
  package := info.package
  name := info.name
  label := info.label
  description := info.description
  iconPath := info.iconPath
  uri := info.uri
  moduleName := info.moduleName
  process := info.process
  targetAbility := info.targetAbility
  appName := info.appName
  privacyUrl := info.privacyUrl
  privacyName := info.privacyName
  downloadUrl := info.downloadUrl
  versionName := info.versionName
  backgroundModes := info.backgroundModes
  packageSize := info.packageSize
  visible := info.visible
  formEnabled := info.formEnabled
  multiUserShared := info.multiUserShared
  type := info.type
  subType := info.subType
  orientation := info.orientation
  launchMode := info.launchMode
  permissions := info.permissions
  deviceTypes := info.deviceTypes
  deviceCapabilities := info.deviceCapabilities
  supportPipMode := info.supportPipMode
  grantPermission := info.grantPermission
  readPermission := info.readPermission
  writePermission := info.writePermission
  uriPermissionMode := info.uriPermissionMode
  uriPermissionPath := info.uriPermissionPath
  directLaunch := info.directLaunch
  bundleName := info.bundleName
  className := info.className
  originalClassName := info.originalClassName
  deviceId := info.deviceId
  applicationInfo := info.applicationInfo.convertToCompatibleApplicationInfo
  formEntity := info.formEntity
  minFormHeight := info.minFormHeight
  defaultFormHeight := info.defaultFormHeight
  minFormWidth := info.minFormWidth
  defaultFormWidth := info.defaultFormWidth
  iconId := info.iconId
  labelId := info.labelId
  descriptionId := info.descriptionId
  enabled := info.enabled

def CompatibleAbilityInfo.convertToAbilityInfo (info : CompatibleAbilityInfo)
    (abilityInfo : CompleteAbilityInfo) : CompleteAbilityInfo :=
  { abilityInfo with
    package := info.package
    name := info.name
    label := info.label
    description := info.description
    iconPath := info.iconPath
    uri := info.uri
    moduleName := info.moduleName
    process := info.process
    targetAbility := info.targetAbility
    appName := info.appName
    privacyUrl := info.privacyUrl
    privacyName := info.privacyName
    downloadUrl := info.downloadUrl
    versionName := info.versionName
    backgroundModes := info.backgroundModes
    packageSize := info.packageSize
    visible := info.visible
    formEnabled := info.formEnabled
    multiUserShared := info.multiUserShared
    type := info.type
    subType := info.subType
    orientation := info.orientation
    launchMode := info.launchMode
    permissions := info.permissions
    deviceTypes := info.deviceTypes
    deviceCapabilities := info.deviceCapabilities
    supportPipMode := info.supportPipMode
    grantPermission := info.grantPermission
    readPermission := info.readPermission
    writePermission := info.writePermission
    uriPermissionMode := info.uriPermissionMode
    uriPermissionPath := info.uriPermissionPath
    directLaunch := info.directLaunch
    bundleName := info.bundleName
    className := info.className
    originalClassName := info.originalClassName
    deviceId := info.deviceId
    applicationInfo := info.applicationInfo.convertToApplicationInfo {}
    formEntity := info.formEntity
    minFormHeight := info.minFormHeight
    defaultFormHeight := info.defaultFormHeight
    minFormWidth := info.minFormWidth
    defaultFormWidth := info.defaultFormWidth
    iconId := info.iconId
    labelId := info.labelId
    descriptionId := info.descriptionId
    enabled := info.enabled
    originalBundleName := info.bundleName }

end AppExecFwk
