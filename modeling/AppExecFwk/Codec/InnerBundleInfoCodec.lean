import AppExecFwk.Codec.BundleCodec
import AppExecFwk.Codec.FormCodec
import AppExecFwk.Codec.PackInfoCodec
import AppExecFwk.Info.InnerBundleInfo

/-!
# The stored record as a document
-/

namespace AppExecFwk

variable {condition : ParseResults → Prop}

def Distro.toJson (info : Distro) : Json :=
  .object [
    ("deliveryWithInstall", .boolean info.deliveryWithInstall),
    ("moduleName", .string info.moduleName),
    ("moduleType", .string info.moduleType),
    ("installationFree", .boolean info.installationFree)]

def Distro.fromJson (json : Json) : Decode Distro := do
  let info : Distro := {}
  let deliveryWithInstall ← readBool .reader json "deliveryWithInstall"
    info.deliveryWithInstall true
  let moduleName ← readString .reader json "moduleName" info.moduleName true
  let moduleType ← readString .reader json "moduleType" info.moduleType true
  let installationFree ← readBool .reader json "installationFree"
    info.installationFree
  return { info with
    deliveryWithInstall, moduleName, moduleType, installationFree }

instance : RecordRoundTrip Distro.fromJson Distro.toJson where
  isObject _ := rfl
  get_put info results clean := by
    repeat refine read_then clean clean rfl ?_
    rfl

instance [Unaffected condition .reader] :
    PreservesAll condition Distro.fromJson where
  preserves json := by
    repeat refine Preserves.read.bind fun _ => ?_
    exact Preserves.pure _

def DefinePermission.toJson (info : DefinePermission) : Json :=
  .object [
    ("name", .string info.name),
    ("grantMode", .string info.grantMode),
    ("availableLevel", .string info.availableLevel),
    ("availableScope", .ofList .string info.availableScope),
    ("provisionEnable", .boolean info.provisionEnable),
    ("distributedSceneEnable", .boolean info.distributedSceneEnable),
    ("label", .string info.label),
    ("labelId", .integer info.labelId.toInt),
    ("description", .string info.description),
    ("descriptionId", .integer info.descriptionId.toInt)]

def DefinePermission.fromJson (json : Json) :
    Decode DefinePermission := withLocal do
  let info : DefinePermission := {}
  let name ← readString .here json "name" info.name
  let grantMode ← readString .here json "grantMode" info.grantMode
  let availableLevel ← readString .here json "availableLevel"
    info.availableLevel
  let availableScope ← readStrings .reader json "availableScope"
    info.availableScope
  let provisionEnable ← readBool .here json "provisionEnable"
    info.provisionEnable
  let distributedSceneEnable ← readBool .here json "distributedSceneEnable"
    info.distributedSceneEnable
  let label ← readString .here json "label" info.label
  let labelId ← readInt32 .here json "labelId" info.labelId
  let description ← readString .here json "description" info.description
  let descriptionId ← readInt32 .here json "descriptionId" info.descriptionId
  return { info with
    name, grantMode, availableLevel, availableScope, provisionEnable,
    distributedSceneEnable, label, labelId, description, descriptionId }

instance :
    RecordRoundTrip DefinePermission.fromJson DefinePermission.toJson where
  isObject _ := rfl
  get_put info results clean := by
    apply withLocal_of_ok
    dsimp only
    repeat refine read_then clean (by first | rfl | exact clean) rfl ?_
    rfl

instance [Unaffected condition .here] [Unaffected condition .reader] :
    PreservesAll condition DefinePermission.fromJson where
  preserves json := by
    apply Preserves.withLocal
    repeat refine Preserves.read.bind fun _ => ?_
    exact Preserves.pure _

def InnerModuleInfo.toJson (info : InnerModuleInfo) : Json :=
  .object [
    ("modulePackage", .string info.modulePackage),
    ("moduleName", .string info.moduleName),
    ("modulePath", .string info.modulePath),
    ("moduleDataDir", .string info.moduleDataDir),
    ("moduleResPath", .string info.moduleResPath),
    ("isEntry", .boolean info.isEntry),
    ("metaData", info.metaData.toJson),
    ("colorMode", .integer info.colorMode.value.toInt),
    ("distro", info.distro.toJson),
    ("description", .string info.description),
    ("descriptionId", .integer info.descriptionId.toInt),
    ("label", .string info.label),
    ("labelId", .integer info.labelId.toInt),
    ("installationFree", .boolean info.installationFree),
    ("isRemovable", .ofMap .boolean info.isRemovable),
    ("upgradeFlag", .integer info.upgradeFlag.toInt),
    ("reqCapabilities", .ofList .string info.reqCapabilities),
    ("abilityKeys", .ofList .string info.abilityKeys),
    ("skillKeys", .ofList .string info.skillKeys),
    ("mainAbility", .string info.mainAbility),
    ("entryAbilityKey", .string info.entryAbilityKey),
    ("srcPath", .string info.srcPath),
    ("hashValue", .string info.hashValue),
    ("process", .string info.process),
    ("srcEntrance", .string info.srcEntrance),
    ("deviceTypes", .ofList .string info.deviceTypes),
    ("virtualMachine", .string info.virtualMachine),
    ("uiSyntax", .string info.uiSyntax),
    ("pages", .string info.pages),
    ("metadata", .ofList Metadata.toJson info.metadata),
    ("requestPermissions", .ofList RequestPermission.toJson
      info.requestPermissions),
    ("definePermissions", .ofList DefinePermission.toJson
      info.definePermissions),
    ("defPermissions", .ofList DefinePermission.toJson info.defPermissions),
    ("extensionKeys", .ofList .string info.extensionKeys),
    ("extensionSkillKeys", .ofList .string info.extensionSkillKeys),
    ("isModuleJson", .boolean info.isModuleJson),
    ("isStageBasedModel", .boolean info.isStageBasedModel),
    ("dependencies", .ofList .string info.dependencies),
    ("hapPath", .string info.hapPath)]

def InnerModuleInfo.fromJson (json : Json) :
    Decode InnerModuleInfo := withLocal do
  let info : InnerModuleInfo := {}
  let modulePackage ← readString .reader json "modulePackage" info.modulePackage
  let moduleName ← readString .reader json "moduleName" info.moduleName
  let modulePath ← readString .reader json "modulePath" info.modulePath
  let moduleDataDir ← readString .reader json "moduleDataDir" info.moduleDataDir
  let hapPath ← readString .reader json "hapPath" info.hapPath
  let moduleResPath ← readString .reader json "moduleResPath" info.moduleResPath
  let isEntry ← readBool .reader json "isEntry" info.isEntry
  let metaData ← readObject .reader json "metaData" MetaData.fromJson
    info.metaData
  let colorMode ← readEnum .reader json "colorMode" ModuleColorMode.mk
    info.colorMode
  let distro ← readObject .reader json "distro" Distro.fromJson info.distro
  let description ← readString .reader json "description" info.description
  let descriptionId ← readInt32 .reader json "descriptionId" info.descriptionId
  let label ← readString .reader json "label" info.label
  let labelId ← readInt32 .reader json "labelId" info.labelId
  let mainAbility ← readString .reader json "mainAbility" info.mainAbility
  let entryAbilityKey ← readString .reader json "entryAbilityKey"
    info.entryAbilityKey
  let srcPath ← readString .reader json "srcPath" info.srcPath
  let hashValue ← readString .reader json "hashValue" info.hashValue
  let installationFree ← readBool .reader json "installationFree"
    info.installationFree
  let isRemovable ← readMap .reader json "isRemovable" getBool info.isRemovable
  let upgradeFlag ← readInt32 .reader json "upgradeFlag" info.upgradeFlag
  let reqCapabilities ← readStrings .reader json "reqCapabilities"
    info.reqCapabilities
  let abilityKeys ← readStrings .reader json "abilityKeys" info.abilityKeys
  let skillKeys ← readStrings .reader json "skillKeys" info.skillKeys
  let process ← readString .here json "process" info.process
  let srcEntrance ← readString .here json "srcEntrance" info.srcEntrance
  let deviceTypes ← readStrings .here json "deviceTypes" info.deviceTypes
  let virtualMachine ← readString .here json "virtualMachine"
    info.virtualMachine
  let uiSyntax ← readString .here json "uiSyntax" info.uiSyntax
  let pages ← readString .here json "pages" info.pages
  let metadata ← readObjects .here json "metadata" Metadata.fromJson
    info.metadata
  let requestPermissions ← readObjects .here json "requestPermissions"
    RequestPermission.fromJson info.requestPermissions
  let definePermissions ← readObjects .here json "definePermissions"
    DefinePermission.fromJson info.definePermissions
  let defPermissions ← readObjects .reader json "defPermissions"
    DefinePermission.fromJson info.defPermissions
  let extensionKeys ← readStrings .here json "extensionKeys" info.extensionKeys
  let extensionSkillKeys ← readStrings .here json "extensionSkillKeys"
    info.extensionSkillKeys
  let isModuleJson ← readBool .here json "isModuleJson" info.isModuleJson
  let isStageBasedModel ← readBool .here json "isStageBasedModel"
    info.isStageBasedModel
  let dependencies ← readStrings .reader json "dependencies" info.dependencies
  return { info with
    modulePackage, moduleName, modulePath, moduleDataDir, hapPath,
    moduleResPath, isEntry, metaData, colorMode, distro, description,
    descriptionId, label, labelId, mainAbility, entryAbilityKey, srcPath,
    hashValue, installationFree, isRemovable, upgradeFlag, reqCapabilities,
    abilityKeys, skillKeys, process, srcEntrance, deviceTypes, virtualMachine,
    uiSyntax, pages, metadata, requestPermissions, definePermissions,
    defPermissions, extensionKeys, extensionSkillKeys, isModuleJson,
    isStageBasedModel, dependencies }

instance : RecordRoundTrip InnerModuleInfo.fromJson InnerModuleInfo.toJson where
  isObject _ := rfl
  get_put info results clean := by
    apply withLocal_of_ok
    dsimp only
    repeat refine read_then clean (by first | rfl | exact clean) rfl ?_
    rfl

instance [Unaffected condition .here] [Unaffected condition .reader] :
    PreservesAll condition InnerModuleInfo.fromJson where
  preserves json := by
    apply Preserves.withLocal
    repeat refine Preserves.read.bind fun _ => ?_
    exact Preserves.pure _

def SkillUri.toJson (info : SkillUri) : Json :=
  .object [
    ("scheme", .string info.scheme),
    ("host", .string info.host),
    ("port", .string info.port),
    ("path", .string info.path),
    ("pathStartWith", .string info.pathStartWith),
    ("pathRegex", .string info.pathRegex),
    ("type", .string info.type)]

def SkillUri.fromJson (json : Json) : Decode SkillUri := do
  let info : SkillUri := {}
  let scheme ← readString .reader json "scheme" info.scheme
  let host ← readString .reader json "host" info.host
  let port ← readString .reader json "port" info.port
  let path ← readString .reader json "path" info.path
  let pathStartWith ← readString .reader json "pathStartWith" info.pathStartWith
  let pathRegex ← readString .reader json "pathRegx" info.pathRegex
  let pathRegex ← readString .reader json "pathRegex" pathRegex
  let type ← readString .reader json "type" info.type
  return { info with scheme, host, port, path, pathStartWith, pathRegex, type }

instance : RecordRoundTrip SkillUri.fromJson SkillUri.toJson where
  isObject _ := rfl
  get_put info results clean := by
    repeat first | refine read_then clean clean rfl ?_ | refine absent_then rfl ?_
    rfl

instance [Unaffected condition .reader] :
    PreservesAll condition SkillUri.fromJson where
  preserves json := by
    repeat refine Preserves.read.bind fun _ => ?_
    exact Preserves.pure _

def Skill.toJson (info : Skill) : Json :=
  .object [
    ("actions", .ofList .string info.actions),
    ("entities", .ofList .string info.entities),
    ("uris", .ofList SkillUri.toJson info.uris)]

def Skill.fromJson (json : Json) : Decode Skill := do
  let info : Skill := {}
  let actions ← readStrings .reader json "actions" info.actions
  let entities ← readStrings .reader json "entities" info.entities
  let uris ← readObjects .reader json "uris" SkillUri.fromJson info.uris
  return { info with actions, entities, uris }

instance : RecordRoundTrip Skill.fromJson Skill.toJson where
  isObject _ := rfl
  get_put info results clean := by
    repeat refine read_then clean clean rfl ?_
    rfl

instance [Unaffected condition .reader] :
    PreservesAll condition Skill.fromJson where
  preserves json := by
    repeat refine Preserves.read.bind fun _ => ?_
    exact Preserves.pure _

def InstallMark.toJson (info : InstallMark) : Json :=
  .object [
    ("installMarkBundle", .string info.bundleName),
    ("installMarkPackage", .string info.packageName),
    ("installMarkStatus", .integer info.status.toInt)]

def InstallMark.fromJson (json : Json) : Decode InstallMark := do
  let info : InstallMark := {}
  let bundleName ← readString .reader json "installMarkBundle" info.bundleName
  let packageName ← readString .reader json "installMarkPackage"
    info.packageName
  let status ← readInt32 .reader json "installMarkStatus" info.status
  return { info with bundleName, packageName, status }

instance : RecordRoundTrip InstallMark.fromJson InstallMark.toJson where
  isObject _ := rfl
  get_put info results clean := by
    repeat refine read_then clean clean rfl ?_
    rfl

instance [Unaffected condition .reader] :
    PreservesAll condition InstallMark.fromJson where
  preserves json := by
    repeat refine Preserves.read.bind fun _ => ?_
    exact Preserves.pure _

def SandboxAppPersistentInfo.toJson (info : SandboxAppPersistentInfo) : Json :=
  .object [
    ("accessTokenId", .integer info.accessTokenId.toNat),
    ("appIndex", .integer info.appIndex.toInt),
    ("userId", .integer info.userId.toInt)]

def SandboxAppPersistentInfo.fromJson (json : Json) :
    Decode SandboxAppPersistentInfo := do
  let info : SandboxAppPersistentInfo := {}
  let accessTokenId ← readUInt32 .reader json "accessTokenId" info.accessTokenId
  let appIndex ← readInt32 .reader json "appIndex" info.appIndex
  let userId ← readInt32 .reader json "userId" info.userId
  return { info with accessTokenId, appIndex, userId }

instance :
    RecordRoundTrip SandboxAppPersistentInfo.fromJson SandboxAppPersistentInfo.toJson where
  isObject _ := rfl
  get_put info results clean := by
    repeat refine read_then clean clean rfl ?_
    rfl

instance [Unaffected condition .reader] :
    PreservesAll condition SandboxAppPersistentInfo.fromJson where
  preserves json := by
    repeat refine Preserves.read.bind fun _ => ?_
    exact Preserves.pure _

def InnerBundleUserInfo.toJson (info : InnerBundleUserInfo) : Json :=
  .object [
    ("uid", .integer info.uid.toInt),
    ("gids", .ofList (.integer ·.toInt) info.gids),
    ("accessTokenId", .integer info.accessTokenId.toNat),
    ("bundleName", .string info.bundleName),
    ("installTime", .integer info.installTime.toInt),
    ("updateTime", .integer info.updateTime.toInt),
    ("bundleUserInfo", info.bundleUserInfo.toJson)]

def InnerBundleUserInfo.fromJson (json : Json) :
    Decode InnerBundleUserInfo := withLocal do
  let info : InnerBundleUserInfo := {}
  let uid ← readInt32 .here json "uid" info.uid
  let gids ← readInt32s .here json "gids" info.gids
  let accessTokenId ← readUInt32 .here json "accessTokenId" info.accessTokenId
  let bundleName ← readString .here json "bundleName" info.bundleName
  let installTime ← readInt64 .here json "installTime" info.installTime
  let updateTime ← readInt64 .here json "updateTime" info.updateTime
  let bundleUserInfo ← readObject .here json "bundleUserInfo"
    BundleUserInfo.fromJson info.bundleUserInfo
  return { info with
    uid, gids, accessTokenId, bundleName, installTime, updateTime,
    bundleUserInfo }

instance :
    RecordRoundTrip InnerBundleUserInfo.fromJson InnerBundleUserInfo.toJson where
  isObject _ := rfl
  get_put info results clean := by
    apply withLocal_of_ok
    dsimp only
    repeat refine read_then clean rfl rfl ?_
    rfl

instance [Unaffected condition .here] :
    PreservesAll condition InnerBundleUserInfo.fromJson where
  preserves json := by
    apply Preserves.withLocal
    repeat refine Preserves.read.bind fun _ => ?_
    exact Preserves.pure _

/-- The stored document of a bundle.  The ids that live only in memory, the
module being installed and the flag of a user that is being created are left
out. -/
def InnerBundleInfo.toJson (info : InnerBundleInfo) : Json :=
  .object [
    ("appType", .integer info.appType.value.toInt),
    ("baseDataDir", .string info.baseDataDir),
    ("bundleStatus", .integer info.bundleStatus.value.toInt),
    ("allowedAcls", .ofList .string info.allowedAcls),
    ("baseApplicationInfo", info.baseApplicationInfo.toJson),
    ("baseBundleInfo", info.baseBundleInfo.toJson),
    ("baseAbilityInfos", .ofMap AbilityInfo.toJson info.baseAbilityInfos),
    ("innerModuleInfos", .ofMap InnerModuleInfo.toJson info.innerModuleInfos),
    ("skillInfos", .ofMap (.ofList Skill.toJson) info.skillInfos),
    ("userId_", .integer info.userId.toInt),
    ("appFeature", .string info.appFeature),
    ("formInfos", .ofMap (.ofList FormInfo.toJson) info.formInfos),
    ("shortcutInfos", .ofMap ShortcutInfo.toJson info.shortcutInfos),
    ("newBundleName", .string info.newBundleName),
    ("commonEvents", .ofMap CommonEventInfo.toJson info.commonEvents),
    ("installMark", info.mark.toJson),
    ("innerBundleUserInfos", .ofMap InnerBundleUserInfo.toJson
      info.innerBundleUserInfos),
    ("isNewVersion", .boolean info.isNewVersion),
    ("upgradeFlag", .integer info.upgradeFlag.toInt),
    ("baseExtensionInfos", .ofMap ExtensionAbilityInfo.toJson
      info.baseExtensionInfos),
    ("extensionSkillInfos", .ofMap (.ofList Skill.toJson)
      info.extensionSkillInfos),
    ("bundlePackInfo", info.bundlePackInfo.toJson),
    ("appIndex", .integer info.appIndex.toInt),
    ("isSandboxApp", .boolean info.isSandboxApp),
    ("sandboxPersistentInfo", .ofList SandboxAppPersistentInfo.toJson
      info.sandboxPersistentInfo)]

/-- Decode a stored document.  It is read through the shared result variable,
which is reset in the middle; the members after that point are read through
one of the function's own and, for the last ones, through the shared one
again. -/
def InnerBundleInfo.fromJson (json : Json) :
    Decode (ErrCode × InnerBundleInfo) := do
  let info : InnerBundleInfo := {}
  let appType ← readEnum .reader json "appType" AppType.mk info.appType true
  let uid ← readInt32 .reader json "uid" info.uid
  let gid ← readInt32 .reader json "gid" info.gid
  let allowedAcls ← readStrings .reader json "allowedAcls" info.allowedAcls
  let baseDataDir ← readString .reader json "baseDataDir" info.baseDataDir true
  let bundleStatus ← readEnum .reader json "bundleStatus" BundleStatus.mk
    info.bundleStatus true
  let baseBundleInfo ← readObject .reader json "baseBundleInfo"
    BundleInfo.fromJson info.baseBundleInfo true
  let baseApplicationInfo ← readObject .reader json "baseApplicationInfo"
    ApplicationInfo.fromJson info.baseApplicationInfo true
  let baseAbilityInfos ← readMap .reader json "baseAbilityInfos"
    AbilityInfo.fromJson info.baseAbilityInfos true
  let innerModuleInfos ← readMap .reader json "innerModuleInfos"
    InnerModuleInfo.fromJson info.innerModuleInfos true
  let skillInfos ← readMap .reader json "skillInfos"
    (getVector Skill.fromJson) info.skillInfos true
  let userId ← readInt32 .reader json "userId_" info.userId true
  let appFeature ← readString .reader json "appFeature" info.appFeature true
  let formInfos ← readMap .reader json "formInfos"
    (getVector FormInfo.fromJson) info.formInfos true
  let shortcutInfos ← readMap .reader json "shortcutInfos"
    ShortcutInfo.fromJson info.shortcutInfos true
  let commonEvents ← readMap .reader json "commonEvents"
    CommonEventInfo.fromJson info.commonEvents true
  let newBundleName ← readString .reader json "newBundleName"
    info.newBundleName true
  let mark ← readObject .reader json "installMark" InstallMark.fromJson
    info.mark
  let (isOldVersion, innerBundleUserInfos) ← withResult
    (readMap .here json "innerBundleUserInfos" InnerBundleUserInfo.fromJson
      info.innerBundleUserInfos true)
  let ret ← takeResult .reader
  let info := { info with
    appType, uid, gid, allowedAcls, baseDataDir, bundleStatus,
    baseBundleInfo, baseApplicationInfo, baseAbilityInfos, innerModuleInfos,
    skillInfos, userId, appFeature, formInfos, shortcutInfos, commonEvents,
    newBundleName, mark, innerBundleUserInfos }
  -- a record of an older version has no user information
  let info :=
    if ret = ErrCode.ok ∧ isOldVersion = ErrCode.parseProfileMissingProp then
      info.buildDefaultUserInfo
    else info
  let (parseResult, info) ← withResult do
    let isNewVersion ← readBool .here json "isNewVersion" info.isNewVersion
    let upgradeFlag ← readInt32 .here json "upgradeFlag" info.upgradeFlag
    let baseExtensionInfos ← readMap .here json "baseExtensionInfos"
      ExtensionAbilityInfo.fromJson info.baseExtensionInfos
    let extensionSkillInfos ← readMap .here json "extensionSkillInfos"
      (getVector Skill.fromJson) info.extensionSkillInfos
    let bundlePackInfo ← readObject .here json "bundlePackInfo"
      BundlePackInfo.fromJson info.bundlePackInfo
    return { info with
      isNewVersion, upgradeFlag, baseExtensionInfos, extensionSkillInfos,
      bundlePackInfo }
  let appIndex ← readInt32 .reader json "appIndex" info.appIndex
  let isSandboxApp ← readBool .reader json "isSandboxApp" info.isSandboxApp
  let sandboxPersistentInfo ← readObjects .reader json
    "sandboxPersistentInfo" SandboxAppPersistentInfo.fromJson
    info.sandboxPersistentInfo
  let info := { info with appIndex, isSandboxApp, sandboxPersistentInfo }
  return (if parseResult ≠ ErrCode.ok then parseResult else ret, info)

/-- What a record keeps of the object it was made from: the members that live
only in memory start afresh. -/
def InnerBundleInfo.persisted (info : InnerBundleInfo) : InnerBundleInfo :=
  { info with
    uid := invalidUid
    gid := invalidGid
    currentPackage := ""
    onlyCreateBundleUser := false
    bundlePackInfo := { info.bundlePackInfo with isValid := false } }

instance : RoundTrip (getEnum BundleStatus.mk) (putEnum BundleStatus.value) :=
  RoundTrip.getEnum_put fun _ => rfl

namespace InnerBundleInfo

theorem fromJson_toJson (info : InnerBundleInfo) (results : ParseResults)
    (clean : results.reader = ErrCode.ok) :
    fromJson info.toJson results =
      (.ok (ErrCode.ok, info.persisted), results) := by
  have current : ErrCode.ok ≠ ErrCode.parseProfileMissingProp := by decide
  unfold fromJson
  dsimp only
  repeat first
    | refine read_then clean clean rfl ?_
    | refine absent_then rfl ?_
  apply withResult_then
  case decoded => exact MemberRoundTrip.read_put _ _ clean rfl rfl
  case rest =>
    refine takeResult_then clean ?_
    simp only [current, and_false, ↓reduceIte]
    apply withResult_then
    case decoded =>
      repeat refine read_then clean rfl rfl ?_
      have packInfo := BundlePackInfo.fromJson_toJson info.bundlePackInfo
        { results with here := ErrCode.ok } clean
      exact Decoder.bind_apply_of_ok
        (getValueIfFindKey_of_value rfl rfl packInfo)
    case rest =>
      repeat refine read_then clean clean rfl ?_
      rfl

end InnerBundleInfo

end AppExecFwk
