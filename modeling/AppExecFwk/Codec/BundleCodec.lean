import AppExecFwk.Codec.AbilityCodec

/-!
# Bundles, modules and permissions as documents
-/

namespace AppExecFwk

variable {condition : ParseResults → Prop}

def RequestPermissionUsedScene.toJson (info : RequestPermissionUsedScene) : Json :=
  .object [
    ("abilities", .ofList .string info.abilities),
    ("when", .string info.when)]

def RequestPermissionUsedScene.fromJson (json : Json) :
    Decode RequestPermissionUsedScene := withLocal do
  let info : RequestPermissionUsedScene := {}
  let abilities ← readStrings .here json "abilities" info.abilities
  let abilities ← readStrings .here json "ability" abilities
  let when ← readString .here json "when" info.when
  return { info with abilities, when }

instance :
    RecordRoundTrip RequestPermissionUsedScene.fromJson RequestPermissionUsedScene.toJson where
  isObject _ := rfl
  get_put info results clean := by
    apply withLocal_of_ok
    dsimp only
    repeat first | refine read_then clean rfl rfl ?_ | refine absent_then rfl ?_
    rfl

instance [Unaffected condition .here] :
    PreservesAll condition RequestPermissionUsedScene.fromJson where
  preserves json := by
    apply Preserves.withLocal
    repeat refine Preserves.read.bind fun _ => ?_
    exact Preserves.pure _

def RequestPermission.toJson (info : RequestPermission) : Json :=
  .object [
    ("name", .string info.name),
    ("reason", .string info.reason),
    ("reasonId", .integer info.reasonId.toInt),
    ("usedScene", info.usedScene.toJson)]

def RequestPermission.fromJson (json : Json) :
    Decode RequestPermission := withLocal do
  let info : RequestPermission := {}
  let name ← readString .here json "name" info.name
  let reason ← readString .here json "reason" info.reason
  let reasonId ← readInt32 .here json "reasonId" info.reasonId
  let usedScene ← readObject .here json "usedScene"
    RequestPermissionUsedScene.fromJson info.usedScene
  return { info with name, reason, reasonId, usedScene }

instance :
    RecordRoundTrip RequestPermission.fromJson RequestPermission.toJson where
  isObject _ := rfl
  get_put info results clean := by
    apply withLocal_of_ok
    dsimp only
    repeat refine read_then clean rfl rfl ?_
    rfl

instance [Unaffected condition .here] :
    PreservesAll condition RequestPermission.fromJson where
  preserves json := by
    apply Preserves.withLocal
    repeat refine Preserves.read.bind fun _ => ?_
    exact Preserves.pure _

def HapModuleInfo.toJson (info : HapModuleInfo) : Json :=
  .object [
    ("name", .string info.name),
    ("moduleName", .string info.moduleName),
    ("description", .string info.description),
    ("descriptionId", .integer info.descriptionId.toInt),
    ("iconPath", .string info.iconPath),
    ("label", .string info.label),
    ("labelId", .integer info.labelId.toInt),
    ("backgroundImg", .string info.backgroundImg),
    ("mainAbility", .string info.mainAbility),
    ("srcPath", .string info.srcPath),
    ("hashValue", .string info.hashValue),
    ("hapPath", .string info.hapPath),
    ("supportedModes", .integer info.supportedModes.toInt),
    ("reqCapabilities", .ofList .string info.reqCapabilities),
    ("deviceTypes", .ofList .string info.deviceTypes),
    ("abilityInfos", .ofList AbilityInfo.toJson info.abilityInfos),
    ("colorMode", .integer info.colorMode.value.toInt),
    ("bundleName", .string info.bundleName),
    ("mainElementName", .string info.mainElementName),
    ("pages", .string info.pages),
    ("process", .string info.process),
    ("resourcePath", .string info.resourcePath),
    ("srcEntrance", .string info.srcEntrance),
    ("uiSyntax", .string info.uiSyntax),
    ("virtualMachine", .string info.virtualMachine),
    ("deliveryWithInstall", .boolean info.deliveryWithInstall),
    ("installationFree", .boolean info.installationFree),
    ("isModuleJson", .boolean info.isModuleJson),
    ("isStageBasedModel", .boolean info.isStageBasedModel),
    ("isRemovable", .ofMap .boolean info.isRemovable),
    ("upgradeFlag", .integer info.upgradeFlag.toInt),
    ("moduleType", .integer info.moduleType.value.toInt),
    ("extensionInfos", .ofList ExtensionAbilityInfo.toJson info.extensionInfos),
    ("metadata", .ofList Metadata.toJson info.metadata),
    ("dependencies", .ofList .string info.dependencies)]

def HapModuleInfo.fromJson (json : Json) : Decode HapModuleInfo := withLocal do
  let info : HapModuleInfo := {}
  let name ← readString .here json "name" info.name
  let moduleName ← readString .here json "moduleName" info.moduleName
  let description ← readString .here json "description" info.description
  let descriptionId ← readInt32 .here json "descriptionId" info.descriptionId
  let iconPath ← readString .here json "iconPath" info.iconPath
  let label ← readString .here json "label" info.label
  let labelId ← readInt32 .here json "labelId" info.labelId
  let backgroundImg ← readString .here json "backgroundImg" info.backgroundImg
  let mainAbility ← readString .here json "mainAbility" info.mainAbility
  let srcPath ← readString .here json "srcPath" info.srcPath
  let hashValue ← readString .here json "hashValue" info.hashValue
  let hapPath ← readString .here json "hapPath" info.hapPath
  let supportedModes ← readInt32 .here json "supportedModes" info.supportedModes
  let reqCapabilities ← readStrings .here json "reqCapabilities"
    info.reqCapabilities
  let deviceTypes ← readStrings .here json "deviceTypes" info.deviceTypes
  let abilityInfos ← readObjects .here json "abilityInfos" AbilityInfo.fromJson
    info.abilityInfos
  let colorMode ← readEnum .here json "colorMode" ModuleColorMode.mk
    info.colorMode
  let bundleName ← readString .here json "bundleName" info.bundleName
  let mainElementName ← readString .here json "mainElementName"
    info.mainElementName
  let pages ← readString .here json "pages" info.pages
  let process ← readString .here json "process" info.process
  let resourcePath ← readString .here json "resourcePath" info.resourcePath
  let srcEntrance ← readString .here json "srcEntrance" info.srcEntrance
  let uiSyntax ← readString .here json "uiSyntax" info.uiSyntax
  let virtualMachine ← readString .here json "virtualMachine"
    info.virtualMachine
  let deliveryWithInstall ← readBool .here json "deliveryWithInstall"
    info.deliveryWithInstall
  let installationFree ← readBool .here json "installationFree"
    info.installationFree
  let isModuleJson ← readBool .here json "isModuleJson" info.isModuleJson
  let isStageBasedModel ← readBool .here json "isStageBasedModel"
    info.isStageBasedModel
  let isRemovable ← readMap .here json "isRemovable" getBool info.isRemovable
  let upgradeFlag ← readInt32 .here json "upgradeFlag" info.upgradeFlag
  let moduleType ← readEnum .here json "moduleType" ModuleType.mk
    info.moduleType
  let extensionInfos ← readObjects .here json "extensionInfos"
    ExtensionAbilityInfo.fromJson info.extensionInfos
  let metadata ← readObjects .here json "metadata" Metadata.fromJson
    info.metadata
  let dependencies ← readStrings .here json "dependencies" info.dependencies
  return { info with
    name, moduleName, description, descriptionId, iconPath, label, labelId,
    backgroundImg, mainAbility, srcPath, hashValue, hapPath, supportedModes,
    reqCapabilities, deviceTypes, abilityInfos, colorMode, bundleName,
    mainElementName, pages, process, resourcePath, srcEntrance, uiSyntax,
    virtualMachine, deliveryWithInstall, installationFree, isModuleJson,
    isStageBasedModel, isRemovable, upgradeFlag, moduleType, extensionInfos,
    metadata, dependencies }

instance : RecordRoundTrip HapModuleInfo.fromJson HapModuleInfo.toJson where
  isObject _ := rfl
  get_put info results clean := by
    apply withLocal_of_ok
    dsimp only
    repeat refine read_then clean rfl rfl ?_
    rfl

instance [Unaffected condition .here] :
    PreservesAll condition HapModuleInfo.fromJson where
  preserves json := by
    apply Preserves.withLocal
    repeat refine Preserves.read.bind fun _ => ?_
    exact Preserves.pure _

def BundleInfo.toJson (info : BundleInfo) : Json :=
  .object [
    ("name", .string info.name),
    ("label", .string info.label),
    ("description", .string info.description),
    ("vendor", .string info.vendor),
    ("isKeepAlive", .boolean info.isKeepAlive),
    ("isNativeApp", .boolean info.isNativeApp),
    ("isPreInstallApp", .boolean info.isPreInstallApp),
    ("isDifferentName", .boolean info.isDifferentName),
    ("applicationInfo", info.applicationInfo.toJson),
    ("abilityInfos", .ofList AbilityInfo.toJson info.abilityInfos),
    ("hapModuleInfos", .ofList HapModuleInfo.toJson info.hapModuleInfos),
    ("extensionAbilityInfo", .ofList ExtensionAbilityInfo.toJson
      info.extensionInfos),
    ("jointUserId", .string info.jointUserId),
    ("versionCode", .integer info.versionCode.toNat),
    ("minCompatibleVersionCode", .integer info.minCompatibleVersionCode.toNat),
    ("versionName", .string info.versionName),
    ("minSdkVersion", .integer info.minSdkVersion.toInt),
    ("maxSdkVersion", .integer info.maxSdkVersion.toInt),
    ("mainEntry", .string info.mainEntry),
    ("cpuAbi", .string info.cpuAbi),
    ("appId", .string info.appId),
    ("compatibleVersion", .integer info.compatibleVersion.toNat),
    ("targetVersion", .integer info.targetVersion.toNat),
    ("releaseType", .string info.releaseType),
    ("uid", .integer info.uid.toInt),
    ("gid", .integer info.gid.toInt),
    ("seInfo", .string info.seInfo),
    ("installTime", .integer info.installTime.toInt),
    ("updateTime", .integer info.updateTime.toInt),
    ("entryModuleName", .string info.entryModuleName),
    ("entryInstallationFree", .boolean info.entryInstallationFree),
    ("reqPermissions", .ofList .string info.reqPermissions),
    ("reqPermissionStates", .ofList (.integer ·.toInt)
      info.reqPermissionStates),
    ("reqPermissionDetails", .ofList RequestPermission.toJson
      info.reqPermissionDetails),
    ("defPermissions", .ofList .string info.defPermissions),
    ("hapModuleNames", .ofList .string info.hapModuleNames),
    ("moduleNames", .ofList .string info.moduleNames),
    ("modulePublicDirs", .ofList .string info.modulePublicDirs),
    ("moduleDirs", .ofList .string info.moduleDirs),
    ("moduleResPaths", .ofList .string info.moduleResPaths),
    ("singleton", .boolean info.singleton)]

def BundleInfo.fromJson (json : Json) : Decode BundleInfo := withLocal do
  let info : BundleInfo := {}
  let name ← readString .here json "name" info.name
  let label ← readString .here json "label" info.label
  let description ← readString .here json "description" info.description
  let vendor ← readString .here json "vendor" info.vendor
  let isKeepAlive ← readBool .here json "isKeepAlive" info.isKeepAlive
  let isNativeApp ← readBool .here json "isNativeApp" info.isNativeApp
  let isPreInstallApp ← readBool .here json "isPreInstallApp"
    info.isPreInstallApp
  let isDifferentName ← readBool .here json "isDifferentName"
    info.isDifferentName
  let applicationInfo ← readObject .here json "applicationInfo"
    ApplicationInfo.fromJson info.applicationInfo
  let abilityInfos ← readObjects .here json "abilityInfos" AbilityInfo.fromJson
    info.abilityInfos
  let hapModuleInfos ← readObjects .here json "hapModuleInfos"
    HapModuleInfo.fromJson info.hapModuleInfos
  let versionCode ← readUInt32 .here json "versionCode" info.versionCode
  let minCompatibleVersionCode ← readUInt32 .here json
    "minCompatibleVersionCode" info.minCompatibleVersionCode
  let versionName ← readString .here json "versionName" info.versionName
  let jointUserId ← readString .here json "jointUserId" info.jointUserId
  let minSdkVersion ← readInt32 .here json "minSdkVersion" info.minSdkVersion
  let maxSdkVersion ← readInt32 .here json "maxSdkVersion" info.maxSdkVersion
  let mainEntry ← readString .here json "mainEntry" info.mainEntry
  let cpuAbi ← readString .here json "cpuAbi" info.cpuAbi
  let appId ← readString .here json "appId" info.appId
  let compatibleVersion ← readInt32AsUInt32 .here json "compatibleVersion"
    info.compatibleVersion
  let targetVersion ← readUInt32 .here json "targetVersion" info.targetVersion
  let releaseType ← readString .here json "releaseType" info.releaseType
  let uid ← readInt32 .here json "uid" info.uid
  let gid ← readInt32 .here json "gid" info.gid
  let seInfo ← readString .here json "seInfo" info.seInfo
  let installTime ← readInt64 .here json "installTime" info.installTime
  let updateTime ← readInt64 .here json "updateTime" info.updateTime
  let entryModuleName ← readString .here json "entryModuleName"
    info.entryModuleName
  let entryInstallationFree ← readBool .here json "entryInstallationFree"
    info.entryInstallationFree
  let reqPermissions ← readStrings .here json "reqPermissions"
    info.reqPermissions
  let reqPermissionStates ← readInt32s .here json "reqPermissionStates"
    info.reqPermissionStates
  let reqPermissionDetails ← readObjects .here json "reqPermissionDetails"
    RequestPermission.fromJson info.reqPermissionDetails
  let defPermissions ← readStrings .here json "defPermissions"
    info.defPermissions
  let hapModuleNames ← readStrings .here json "hapModuleNames"
    info.hapModuleNames
  let moduleNames ← readStrings .here json "moduleNames" info.moduleNames
  let modulePublicDirs ← readStrings .here json "modulePublicDirs"
    info.modulePublicDirs
  let moduleDirs ← readStrings .here json "moduleDirs" info.moduleDirs
  let moduleResPaths ← readStrings .here json "moduleResPaths"
    info.moduleResPaths
  let singleton ← readBool .here json "singleton" info.singleton
  let extensionInfos ← readObjects .here json "extensionAbilityInfo"
    ExtensionAbilityInfo.fromJson info.extensionInfos
  return { info with
    name, label, description, vendor, isKeepAlive, isNativeApp,
    isPreInstallApp, isDifferentName, applicationInfo, abilityInfos,
    hapModuleInfos, versionCode, minCompatibleVersionCode, versionName,
    jointUserId, minSdkVersion, maxSdkVersion, mainEntry, cpuAbi, appId,
    compatibleVersion, targetVersion, releaseType, uid, gid, seInfo,
    installTime, updateTime, entryModuleName, entryInstallationFree,
    reqPermissions, reqPermissionStates, reqPermissionDetails, defPermissions,
    hapModuleNames, moduleNames, modulePublicDirs, moduleDirs, moduleResPaths,
    singleton, extensionInfos }

instance : RecordRoundTrip BundleInfo.fromJson BundleInfo.toJson where
  isObject _ := rfl
  get_put info results clean := by
    apply withLocal_of_ok
    dsimp only
    repeat refine read_then clean rfl rfl ?_
    rfl

instance [Unaffected condition .here] :
    PreservesAll condition BundleInfo.fromJson where
  preserves json := by
    apply Preserves.withLocal
    repeat refine Preserves.read.bind fun _ => ?_
    exact Preserves.pure _

def BundleUserInfo.toJson (info : BundleUserInfo) : Json :=
  .object [
    ("userId", .integer info.userId.toInt),
    ("enabled", .boolean info.enabled),
    ("disabledAbilities", .ofList .string info.disabledAbilities)]

def BundleUserInfo.fromJson (json : Json) :
    Decode BundleUserInfo := withLocal do
  let info : BundleUserInfo := {}
  let userId ← readInt32 .here json "userId" info.userId
  let enabled ← readBool .here json "enabled" info.enabled
  let disabledAbilities ← readStrings .here json "disabledAbilities"
    info.disabledAbilities
  return { info with userId, enabled, disabledAbilities }

instance : RecordRoundTrip BundleUserInfo.fromJson BundleUserInfo.toJson where
  isObject _ := rfl
  get_put info results clean := by
    apply withLocal_of_ok
    dsimp only
    repeat refine read_then clean rfl rfl ?_
    rfl

instance [Unaffected condition .here] :
    PreservesAll condition BundleUserInfo.fromJson where
  preserves json := by
    apply Preserves.withLocal
    repeat refine Preserves.read.bind fun _ => ?_
    exact Preserves.pure _

end AppExecFwk
