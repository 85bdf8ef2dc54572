import AppExecFwk.Codec.ResultVariables
import AppExecFwk.Codec.RoundTrip

/-!
# Applications, abilities and extensions as documents

The encoders and decoders of application, ability and extension information
are written by hand, one member at a time.  Each decoder undoes its encoder;
the one of abilities returns the members that are written.
-/

namespace AppExecFwk

variable {condition : ParseResults → Prop}

def CustomizeData.toJson (info : CustomizeData) : Json :=
  .object [
    ("name", .string info.name),
    ("value", .string info.value),
    ("extra", .string info.extra)]

def CustomizeData.fromJson (json : Json) : Decode CustomizeData := withLocal do
  let info : CustomizeData := {}
  let name ← readString .here json "name" info.name
  let value ← readString .here json "value" info.value
  let extra ← readString .here json "extra" info.extra
  return { info with name, value, extra }

instance : RecordRoundTrip CustomizeData.fromJson CustomizeData.toJson where
  isObject _ := rfl
  get_put info results clean := by
    apply withLocal_of_ok
    dsimp only
    repeat refine read_then clean rfl rfl ?_
    rfl

instance [Unaffected condition .here] :
    PreservesAll condition CustomizeData.fromJson where
  preserves json := by
    apply Preserves.withLocal
    repeat refine Preserves.read.bind fun _ => ?_
    exact Preserves.pure _

def MetaData.toJson (info : MetaData) : Json :=
  .object [
    ("customizeData", .ofList CustomizeData.toJson info.customizeData)]

def MetaData.fromJson (json : Json) : Decode MetaData := withLocal do
  let info : MetaData := {}
  let customizeData ← readObjects .here json "customizeData"
    CustomizeData.fromJson info.customizeData
  return { info with customizeData }

instance : RecordRoundTrip MetaData.fromJson MetaData.toJson where
  isObject _ := rfl
  get_put info results clean := by
    apply withLocal_of_ok
    dsimp only
    repeat refine read_then clean rfl rfl ?_
    rfl

instance [Unaffected condition .here] :
    PreservesAll condition MetaData.fromJson where
  preserves json := by
    apply Preserves.withLocal
    repeat refine Preserves.read.bind fun _ => ?_
    exact Preserves.pure _

def Metadata.toJson (info : Metadata) : Json :=
  .object [
    ("name", .string info.name),
    ("value", .string info.value),
    ("resource", .string info.resource)]

def Metadata.fromJson (json : Json) : Decode Metadata := withLocal do
  let info : Metadata := {}
  let name ← readString .here json "name" info.name
  let value ← readString .here json "value" info.value
  let resource ← readString .here json "resource" info.resource
  return { info with name, value, resource }

instance : RecordRoundTrip Metadata.fromJson Metadata.toJson where
  isObject _ := rfl
  get_put info results clean := by
    apply withLocal_of_ok
    dsimp only
    repeat refine read_then clean rfl rfl ?_
    rfl

instance [Unaffected condition .here] :
    PreservesAll condition Metadata.fromJson where
  preserves json := by
    apply Preserves.withLocal
    repeat refine Preserves.read.bind fun _ => ?_
    exact Preserves.pure _

def ModuleInfo.toJson (info : ModuleInfo) : Json :=
  .object [
    ("moduleName", .string info.moduleName),
    ("moduleSourceDir", .string info.moduleSourceDir)]

def ModuleInfo.fromJson (json : Json) : Decode ModuleInfo := withLocal do
  let info : ModuleInfo := {}
  let moduleName ← readString .here json "moduleName" info.moduleName
  let moduleSourceDir ← readString .here json "moduleSourceDir"
    info.moduleSourceDir
  return { info with moduleName, moduleSourceDir }

instance : RecordRoundTrip ModuleInfo.fromJson ModuleInfo.toJson where
  isObject _ := rfl
  get_put info results clean := by
    apply withLocal_of_ok
    dsimp only
    repeat refine read_then clean rfl rfl ?_
    rfl

instance [Unaffected condition .here] :
    PreservesAll condition ModuleInfo.fromJson where
  preserves json := by
    apply Preserves.withLocal
    repeat refine Preserves.read.bind fun _ => ?_
    exact Preserves.pure _

def ApplicationInfo.toJson (info : ApplicationInfo) : Json :=
  .object [
    ("name", .string info.name),
    ("bundleName", .string info.bundleName),
    ("versionCode", .integer info.versionCode.toNat),
    ("versionName", .string info.versionName),
    ("minCompatibleVersionCode", .integer info.minCompatibleVersionCode.toInt),
    ("apiCompatibleVersion", .integer info.apiCompatibleVersion.toNat),
    ("apiTargetVersion", .integer info.apiTargetVersion.toInt),
    ("iconPath", .string info.iconPath),
    ("iconId", .integer info.iconId.toInt),
    ("label", .string info.label),
    ("labelId", .integer info.labelId.toInt),
    ("description", .string info.description),
    ("descriptionId", .integer info.descriptionId.toInt),
    ("keepAlive", .boolean info.keepAlive),
    ("removable", .boolean info.removable),
    ("singleton", .boolean info.singleton),
    ("userDataClearable", .boolean info.userDataClearable),
    ("accessible", .boolean info.accessible),
    ("isSystemApp", .boolean info.isSystemApp),
    ("isLauncherApp", .boolean info.isLauncherApp),
    ("isFreeInstallApp", .boolean info.isFreeInstallApp),
    ("codePath", .string info.codePath),
    ("dataDir", .string info.dataDir),
    ("dataBaseDir", .string info.dataBaseDir),
    ("cacheDir", .string info.cacheDir),
    ("entryDir", .string info.entryDir),
    ("apiReleaseType", .string info.apiReleaseType),
    ("debug", .boolean info.debug),
    ("deviceId", .string info.deviceId),
    ("distributedNotificationEnabled", .boolean
      info.distributedNotificationEnabled),
    ("entityType", .string info.entityType),
    ("process", .string info.process),
    ("supportedModes", .integer info.supportedModes.toInt),
    ("vendor", .string info.vendor),
    ("appPrivilegeLevel", .string info.appPrivilegeLevel),
    ("accessTokenId", .integer info.accessTokenId.toNat),
    ("enabled", .boolean info.enabled),
    ("uid", .integer info.uid.toInt),
    ("permissions", .ofList .string info.permissions),
    ("moduleSourceDirs", .ofList .string info.moduleSourceDirs),
    ("moduleInfos", .ofList ModuleInfo.toJson info.moduleInfos),
    ("metaData", .ofMap (.ofList CustomizeData.toJson) info.metaData),
    ("metadata", .ofMap (.ofList Metadata.toJson) info.metadata),
    ("isCloned", .boolean info.isCloned),
    ("fingerprint", .string info.fingerprint),
    ("icon", .string info.icon),
    ("flags", .integer info.flags.toInt),
    ("entryModuleName", .string info.entryModuleName),
    ("nativeLibraryPath", .string info.nativeLibraryPath),
    ("cpuAbi", .string info.cpuAbi),
    ("isCompressNativeLibs", .boolean info.isCompressNativeLibs),
    ("signatureKey", .string info.signatureKey),
    ("targetBundleList", .ofList .string info.targetBundleList)]

def ApplicationInfo.fromJson (json : Json) :
    Decode ApplicationInfo := withLocal do
  let info : ApplicationInfo := {}
  let name ← readString .here json "name" info.name
  let bundleName ← readString .here json "bundleName" info.bundleName
  let versionCode ← readUInt32 .here json "versionCode" info.versionCode
  let versionName ← readString .here json "versionName" info.versionName
  let minCompatibleVersionCode ← readInt32 .here json
    "minCompatibleVersionCode" info.minCompatibleVersionCode
  let apiCompatibleVersion ← readInt32AsUInt32 .here json
    "apiCompatibleVersion" info.apiCompatibleVersion
  let apiTargetVersion ← readInt32 .here json "apiTargetVersion"
    info.apiTargetVersion
  let iconPath ← readString .here json "iconPath" info.iconPath
  let iconId ← readInt32 .here json "iconId" info.iconId
  let label ← readString .here json "label" info.label
  let labelId ← readInt32 .here json "labelId" info.labelId
  let description ← readString .here json "description" info.description
  let descriptionId ← readInt32 .here json "descriptionId" info.descriptionId
  let keepAlive ← readBool .here json "keepAlive" info.keepAlive
  let removable ← readBool .here json "removable" info.removable
  let singleton ← readBool .here json "singleton" info.singleton
  let userDataClearable ← readBool .here json "userDataClearable"
    info.userDataClearable
  let accessible ← readBool .here json "accessible" info.accessible
  let isSystemApp ← readBool .here json "isSystemApp" info.isSystemApp
  let isLauncherApp ← readBool .here json "isLauncherApp" info.isLauncherApp
  let isFreeInstallApp ← readBool .here json "isFreeInstallApp"
    info.isFreeInstallApp
  let codePath ← readString .here json "codePath" info.codePath
  let dataDir ← readString .here json "dataDir" info.dataDir
  let dataBaseDir ← readString .here json "dataBaseDir" info.dataBaseDir
  let cacheDir ← readString .here json "cacheDir" info.cacheDir
  let entryDir ← readString .here json "entryDir" info.entryDir
  let apiReleaseType ← readString .here json "apiReleaseType"
    info.apiReleaseType
  let debug ← readBool .here json "debug" info.debug
  let deviceId ← readString .here json "deviceId" info.deviceId
  let distributedNotificationEnabled ← readBool .here json
    "distributedNotificationEnabled" info.distributedNotificationEnabled
  let entityType ← readString .here json "entityType" info.entityType
  let process ← readString .here json "process" info.process
  let supportedModes ← readInt32 .here json "supportedModes" info.supportedModes
  let vendor ← readString .here json "vendor" info.vendor
  let appPrivilegeLevel ← readString .here json "appPrivilegeLevel"
    info.appPrivilegeLevel
  let accessTokenId ← readUInt32 .here json "accessTokenId" info.accessTokenId
  let enabled ← readBool .here json "enabled" info.enabled
  let uid ← readInt32 .here json "uid" info.uid
  let permissions ← readStrings .here json "permissions" info.permissions
  let moduleSourceDirs ← readStrings .here json "moduleSourceDirs"
    info.moduleSourceDirs
  let moduleInfos ← readObjects .here json "moduleInfos" ModuleInfo.fromJson
    info.moduleInfos
  let metaData ← readMap .here json "metaData" (getVector
    CustomizeData.fromJson) info.metaData
  let metadata ← readMap .here json "metadata" (getVector Metadata.fromJson)
    info.metadata
  let isCloned ← readBool .here json "isCloned" info.isCloned
  let fingerprint ← readString .here json "fingerprint" info.fingerprint
  let icon ← readString .here json "icon" info.icon
  let flags ← readInt32 .here json "flags" info.flags
  let entryModuleName ← readString .here json "entryModuleName"
    info.entryModuleName
  let nativeLibraryPath ← readString .here json "nativeLibraryPath"
    info.nativeLibraryPath
  let cpuAbi ← readString .here json "cpuAbi" info.cpuAbi
  let isCompressNativeLibs ← readBool .here json "isCompressNativeLibs"
    info.isCompressNativeLibs
  let signatureKey ← readString .here json "signatureKey" info.signatureKey
  let targetBundleList ← readStrings .here json "targetBundleList"
    info.targetBundleList
  return { info with
    name, bundleName, versionCode, versionName, minCompatibleVersionCode,
    apiCompatibleVersion, apiTargetVersion, iconPath, iconId, label, labelId,
    description, descriptionId, keepAlive, removable, singleton,
    userDataClearable, accessible, isSystemApp, isLauncherApp,
    isFreeInstallApp, codePath, dataDir, dataBaseDir, cacheDir, entryDir,
    apiReleaseType, debug, deviceId, distributedNotificationEnabled,
    entityType, process, supportedModes, vendor, appPrivilegeLevel,
    accessTokenId, enabled, uid, permissions, moduleSourceDirs, moduleInfos,
    metaData, metadata, isCloned, fingerprint, icon, flags, entryModuleName,
    nativeLibraryPath, cpuAbi, isCompressNativeLibs, signatureKey,
    targetBundleList }

instance : RecordRoundTrip ApplicationInfo.fromJson ApplicationInfo.toJson where
  isObject _ := rfl
  get_put info results clean := by
    apply withLocal_of_ok
    dsimp only
    repeat refine read_then clean rfl rfl ?_
    rfl

instance [Unaffected condition .here] :
    PreservesAll condition ApplicationInfo.fromJson where
  preserves json := by
    apply Preserves.withLocal
    repeat refine Preserves.read.bind fun _ => ?_
    exact Preserves.pure _

def AbilityInfo.toJson (info : AbilityInfo) : Json :=
  .object [
    ("name", .string info.name),
    ("label", .string info.label),
    ("description", .string info.description),
    ("iconPath", .string info.iconPath),
    ("labelId", .integer info.labelId.toInt),
    ("descriptionId", .integer info.descriptionId.toInt),
    ("iconId", .integer info.iconId.toInt),
    ("theme", .string info.theme),
    ("visible", .boolean info.visible),
    ("kind", .string info.kind),
    ("type", .integer info.type.value.toInt),
    ("extensionAbilityType", .integer info.extensionAbilityType.value.toInt),
    ("orientation", .integer info.orientation.value.toInt),
    ("launchMode", .integer info.launchMode.value.toInt),
    ("srcPath", .string info.srcPath),
    ("srcLanguage", .string info.srcLanguage),
    ("permissions", .ofList .string info.permissions),
    ("process", .string info.process),
    ("deviceTypes", .ofList .string info.deviceTypes),
    ("deviceCapabilities", .ofList .string info.deviceCapabilities),
    ("uri", .string info.uri),
    ("targetAbility", .string info.targetAbility),
    ("applicationInfo", info.applicationInfo.toJson),
    ("isLauncherAbility", .boolean info.isLauncherAbility),
    ("isNativeAbility", .boolean info.isNativeAbility),
    ("enabled", .boolean info.enabled),
    ("supportPipMode", .boolean info.supportPipMode),
    ("formEnabled", .boolean info.formEnabled),
    ("readPermission", .string info.readPermission),
    ("writePermission", .string info.writePermission),
    ("configChanges", .ofList .string info.configChanges),
    ("formEntity", .integer info.formEntity.toNat),
    ("minFormHeight", .integer info.minFormHeight.toInt),
    ("defaultFormHeight", .integer info.defaultFormHeight.toInt),
    ("minFormWidth", .integer info.minFormWidth.toInt),
    ("defaultFormWidth", .integer info.defaultFormWidth.toInt),
    ("metaData", info.metaData.toJson),
    ("backgroundModes", .integer info.backgroundModes.toNat),
    ("package", .string info.package),
    ("bundleName", .string info.bundleName),
    ("moduleName", .string info.moduleName),
    ("applicationName", .string info.applicationName),
    ("codePath", .string info.codePath),
    ("resourcePath", .string info.resourcePath),
    ("srcEntrance", .string info.srcEntrance),
    ("metadata", .ofList Metadata.toJson info.metadata),
    ("isModuleJson", .boolean info.isModuleJson),
    ("isStageBasedModel", .boolean info.isStageBasedModel),
    ("continuable", .boolean info.continuable),
    ("priority", .integer info.priority.toInt),
    ("startWindowIcon", .string info.startWindowIcon),
    ("startWindowIconId", .integer info.startWindowIconId.toInt),
    ("startWindowBackground", .string info.startWindowBackground),
    ("startWindowBackgroundId", .integer info.startWindowBackgroundId.toInt),
    ("removeMissionAfterTerminate", .boolean info.removeMissionAfterTerminate)]

def AbilityInfo.fromJson (json : Json) : Decode AbilityInfo := withLocal do
  let info : AbilityInfo := {}
  let name ← readString .here json "name" info.name
  let label ← readString .here json "label" info.label
  let description ← readString .here json "description" info.description
  let iconPath ← readString .here json "iconPath" info.iconPath
  let labelId ← readInt32 .here json "labelId" info.labelId
  let descriptionId ← readInt32 .here json "descriptionId" info.descriptionId
  let iconId ← readInt32 .here json "iconId" info.iconId
  let theme ← readString .here json "theme" info.theme
  let visible ← readBool .here json "visible" info.visible
  let kind ← readString .here json "kind" info.kind
  let type ← readEnum .here json "type" AbilityType.mk info.type
  let extensionAbilityType ← readEnum .here json "extensionAbilityType"
    ExtensionAbilityType.mk info.extensionAbilityType
  let orientation ← readEnum .here json "orientation" DisplayOrientation.mk
    info.orientation
  let launchMode ← readEnum .here json "launchMode" LaunchMode.mk
    info.launchMode
  let srcPath ← readString .here json "srcPath" info.srcPath
  let srcLanguage ← readString .here json "srcLanguage" info.srcLanguage
  let permissions ← readStrings .here json "permissions" info.permissions
  let process ← readString .here json "process" info.process
  let deviceTypes ← readStrings .here json "deviceTypes" info.deviceTypes
  let deviceCapabilities ← readStrings .here json "deviceCapabilities"
    info.deviceCapabilities
  let uri ← readString .here json "uri" info.uri
  let targetAbility ← readString .here json "targetAbility" info.targetAbility
  let applicationInfo ← readObject .here json "applicationInfo"
    ApplicationInfo.fromJson info.applicationInfo
  let isLauncherAbility ← readBool .here json "isLauncherAbility"
    info.isLauncherAbility
  let isNativeAbility ← readBool .here json "isNativeAbility"
    info.isNativeAbility
  let enabled ← readBool .here json "enabled" info.enabled
  let supportPipMode ← readBool .here json "supportPipMode" info.supportPipMode
  let formEnabled ← readBool .here json "formEnabled" info.formEnabled
  let readPermission ← readString .here json "readPermission"
    info.readPermission
  let writePermission ← readString .here json "writePermission"
    info.writePermission
  let configChanges ← readStrings .here json "configChanges" info.configChanges
  let formEntity ← readUInt32 .here json "formEntity" info.formEntity
  let minFormHeight ← readInt32 .here json "minFormHeight" info.minFormHeight
  let defaultFormHeight ← readInt32 .here json "defaultFormHeight"
    info.defaultFormHeight
  let minFormWidth ← readInt32 .here json "minFormWidth" info.minFormWidth
  let defaultFormWidth ← readInt32 .here json "defaultFormWidth"
    info.defaultFormWidth
  let metaData ← readObject .here json "metaData" MetaData.fromJson
    info.metaData
  let backgroundModes ← readUInt32 .here json "backgroundModes"
    info.backgroundModes
  let package ← readString .here json "package" info.package
  let bundleName ← readString .here json "bundleName" info.bundleName
  let moduleName ← readString .here json "moduleName" info.moduleName
  let applicationName ← readString .here json "applicationName"
    info.applicationName
  let codePath ← readString .here json "codePath" info.codePath
  let resourcePath ← readString .here json "resourcePath" info.resourcePath
  let srcEntrance ← readString .here json "srcEntrance" info.srcEntrance
  let metadata ← readObjects .here json "metadata" Metadata.fromJson
    info.metadata
  let isModuleJson ← readBool .here json "isModuleJson" info.isModuleJson
  let isStageBasedModel ← readBool .here json "isStageBasedModel"
    info.isStageBasedModel
  let continuable ← readBool .here json "continuable" info.continuable
  let priority ← readInt32 .here json "priority" info.priority
  let startWindowIcon ← readString .here json "startWindowIcon"
    info.startWindowIcon
  let startWindowIconId ← readInt32 .here json "startWindowIconId"
    info.startWindowIconId
  let startWindowBackground ← readString .here json "startWindowBackground"
    info.startWindowBackground
  let startWindowBackgroundId ← readInt32 .here json "startWindowBackgroundId"
    info.startWindowBackgroundId
  let removeMissionAfterTerminate ← readBool .here json
    "removeMissionAfterTerminate" info.removeMissionAfterTerminate
  return { info with
    name, label, description, iconPath, labelId, descriptionId, iconId, theme,
    visible, kind, type, extensionAbilityType, orientation, launchMode,
    srcPath, srcLanguage, permissions, process, deviceTypes,
    deviceCapabilities, uri, targetAbility, applicationInfo, isLauncherAbility,
    isNativeAbility, enabled, supportPipMode, formEnabled, readPermission,
    writePermission, configChanges, formEntity, minFormHeight,
    defaultFormHeight, minFormWidth, defaultFormWidth, metaData,
    backgroundModes, package, bundleName, moduleName, applicationName,
    codePath, resourcePath, srcEntrance, metadata, isModuleJson,
    isStageBasedModel, continuable, priority, startWindowIcon,
    startWindowIconId, startWindowBackground, startWindowBackgroundId,
    removeMissionAfterTerminate }

instance : RecordRoundTrip AbilityInfo.fromJson AbilityInfo.toJson where
  isObject _ := rfl
  get_put info results clean := by
    apply withLocal_of_ok
    dsimp only
    repeat refine read_then clean rfl rfl ?_
    rfl

instance [Unaffected condition .here] :
    PreservesAll condition AbilityInfo.fromJson where
  preserves json := by
    apply Preserves.withLocal
    repeat refine Preserves.read.bind fun _ => ?_
    exact Preserves.pure _

def ExtensionAbilityInfo.toJson (info : ExtensionAbilityInfo) : Json :=
  .object [
    ("bundleName", .string info.bundleName),
    ("moduleName", .string info.moduleName),
    ("name", .string info.name),
    ("srcEntrance", .string info.srcEntrance),
    ("icon", .string info.icon),
    ("iconId", .integer info.iconId.toInt),
    ("label", .string info.label),
    ("labelId", .integer info.labelId.toInt),
    ("description", .string info.description),
    ("descriptionId", .integer info.descriptionId.toInt),
    ("priority", .integer info.priority.toInt),
    ("type", .integer info.type.value.toInt),
    ("readPermission", .string info.readPermission),
    ("writePermission", .string info.writePermission),
    ("uri", .string info.uri),
    ("permissions", .ofList .string info.permissions),
    ("visible", .boolean info.visible),
    ("metadata", .ofList Metadata.toJson info.metadata),
    ("applicationInfo", info.applicationInfo.toJson),
    ("resourcePath", .string info.resourcePath),
    ("enabled", .boolean info.enabled),
    ("process", .string info.process)]

def ExtensionAbilityInfo.fromJson (json : Json) :
    Decode ExtensionAbilityInfo := withLocal do
  let info : ExtensionAbilityInfo := {}
  let bundleName ← readString .here json "bundleName" info.bundleName
  let moduleName ← readString .here json "moduleName" info.moduleName
  let name ← readString .here json "name" info.name
  let srcEntrance ← readString .here json "srcEntrance" info.srcEntrance
  let icon ← readString .here json "icon" info.icon
  let iconId ← readInt32 .here json "iconId" info.iconId
  let label ← readString .here json "label" info.label
  let labelId ← readInt32 .here json "labelId" info.labelId
  let description ← readString .here json "description" info.description
  let descriptionId ← readInt32 .here json "descriptionId" info.descriptionId
  let priority ← readInt32 .here json "priority" info.priority
  let type ← readEnum .here json "type" ExtensionAbilityType.mk info.type
  let readPermission ← readString .here json "readPermission"
    info.readPermission
  let writePermission ← readString .here json "writePermission"
    info.writePermission
  let uri ← readString .here json "uri" info.uri
  let permissions ← readStrings .here json "permissions" info.permissions
  let visible ← readBool .here json "visible" info.visible
  let metadata ← readObjects .here json "metadata" Metadata.fromJson
    info.metadata
  let applicationInfo ← readObject .here json "applicationInfo"
    ApplicationInfo.fromJson info.applicationInfo
  let resourcePath ← readString .here json "resourcePath" info.resourcePath
  let enabled ← readBool .here json "enabled" info.enabled
  let process ← readString .here json "process" info.process
  return { info with
    bundleName, moduleName, name, srcEntrance, icon, iconId, label, labelId,
    description, descriptionId, priority, type, readPermission,
    writePermission, uri, permissions, visible, metadata, applicationInfo,
    resourcePath, enabled, process }

instance :
    RecordRoundTrip ExtensionAbilityInfo.fromJson ExtensionAbilityInfo.toJson where
  isObject _ := rfl
  get_put info results clean := by
    apply withLocal_of_ok
    dsimp only
    repeat refine read_then clean rfl rfl ?_
    rfl

instance [Unaffected condition .here] :
    PreservesAll condition ExtensionAbilityInfo.fromJson where
  preserves json := by
    apply Preserves.withLocal
    repeat refine Preserves.read.bind fun _ => ?_
    exact Preserves.pure _

end AppExecFwk
