import AppExecFwk.Codec.ResultVariables
import AppExecFwk.Codec.RoundTrip

/-!
# The contents of `pack.info` as a document
-/

namespace AppExecFwk

variable {condition : ParseResults → Prop}

def Version.toJson (info : Version) : Json :=
  .object [
    ("code", .integer info.code.toNat),
    ("name", .string info.name),
    ("minCompatibleVersionCode", .integer info.minCompatibleVersionCode.toNat)]

def Version.fromJson (json : Json) : Decode Version := withLocal do
  let info : Version := {}
  let code ← readUInt32 .here json "code" info.code
  let name ← readString .here json "name" info.name
  let minCompatibleVersionCode ← readUInt32 .here json
    "minCompatibleVersionCode" info.minCompatibleVersionCode
  return { info with code, name, minCompatibleVersionCode }

instance : RecordRoundTrip Version.fromJson Version.toJson where
  isObject _ := rfl
  get_put info results clean := by
    apply withLocal_of_ok
    dsimp only
    repeat refine read_then clean rfl rfl ?_
    rfl

instance [Unaffected condition .here] :
    PreservesAll condition Version.fromJson where
  preserves json := by
    apply Preserves.withLocal
    repeat refine Preserves.read.bind fun _ => ?_
    exact Preserves.pure _

def PackageApp.toJson (info : PackageApp) : Json :=
  .object [
    ("bundleName", .string info.bundleName),
    ("version", info.version.toJson)]

def PackageApp.fromJson (json : Json) : Decode PackageApp := withLocal do
  let info : PackageApp := {}
  let bundleName ← readString .here json "bundleName" info.bundleName
  let version ← readObject .here json "version" Version.fromJson info.version
  return { info with bundleName, version }

instance : RecordRoundTrip PackageApp.fromJson PackageApp.toJson where
  isObject _ := rfl
  get_put info results clean := by
    apply withLocal_of_ok
    dsimp only
    repeat refine read_then clean rfl rfl ?_
    rfl

instance [Unaffected condition .here] :
    PreservesAll condition PackageApp.fromJson where
  preserves json := by
    apply Preserves.withLocal
    repeat refine Preserves.read.bind fun _ => ?_
    exact Preserves.pure _

def AbilityFormInfo.toJson (info : AbilityFormInfo) : Json :=
  .object [
    ("name", .string info.name),
    ("type", .string info.type),
    ("updateEnabled", .boolean info.updateEnabled),
    ("scheduledUpdateTime", .string info.scheduledUpdateTime),
    ("updateDuration", .integer info.updateDuration.toNat),
    ("supportDimensions", .ofList .string info.supportDimensions),
    ("defaultDimension", .string info.defaultDimension)]

def AbilityFormInfo.fromJson (json : Json) :
    Decode AbilityFormInfo := withLocal do
  let info : AbilityFormInfo := {}
  let name ← readString .here json "name" info.name
  let type ← readString .here json "type" info.type
  let updateEnabled ← readBool .here json "updateEnabled" info.updateEnabled
  let scheduledUpdateTime ← readString .here json "scheduledUpdateTime"
    info.scheduledUpdateTime
  let updateDuration ← readUInt32 .here json "updateDuration"
    info.updateDuration
  let supportDimensions ← readStrings .here json "supportDimensions"
    info.supportDimensions
  let defaultDimension ← readString .here json "defaultDimension"
    info.defaultDimension
  return { info with
    name, type, updateEnabled, scheduledUpdateTime, updateDuration,
    supportDimensions, defaultDimension }

instance : RecordRoundTrip AbilityFormInfo.fromJson AbilityFormInfo.toJson where
  isObject _ := rfl
  get_put info results clean := by
    apply withLocal_of_ok
    dsimp only
    repeat refine read_then clean rfl rfl ?_
    rfl

instance [Unaffected condition .here] :
    PreservesAll condition AbilityFormInfo.fromJson where
  preserves json := by
    apply Preserves.withLocal
    repeat refine Preserves.read.bind fun _ => ?_
    exact Preserves.pure _

def ExtensionAbilities.toJson (info : ExtensionAbilities) : Json :=
  .object [
    ("name", .string info.name),
    ("forms", .ofList AbilityFormInfo.toJson info.forms)]

def ExtensionAbilities.fromJson (json : Json) :
    Decode ExtensionAbilities := withLocal do
  let info : ExtensionAbilities := {}
  let name ← readString .here json "name" info.name
  let forms ← readObjects .here json "forms" AbilityFormInfo.fromJson info.forms
  return { info with name, forms }

instance :
    RecordRoundTrip ExtensionAbilities.fromJson ExtensionAbilities.toJson where
  isObject _ := rfl
  get_put info results clean := by
    apply withLocal_of_ok
    dsimp only
    repeat refine read_then clean rfl rfl ?_
    rfl

instance [Unaffected condition .here] :
    PreservesAll condition ExtensionAbilities.fromJson where
  preserves json := by
    apply Preserves.withLocal
    repeat refine Preserves.read.bind fun _ => ?_
    exact Preserves.pure _

def ModuleAbilityInfo.toJson (info : ModuleAbilityInfo) : Json :=
  .object [
    ("name", .string info.name),
    ("label", .string info.label),
    ("visible", .boolean info.visible),
    ("forms", .ofList AbilityFormInfo.toJson info.forms)]

def ModuleAbilityInfo.fromJson (json : Json) :
    Decode ModuleAbilityInfo := withLocal do
  let info : ModuleAbilityInfo := {}
  let name ← readString .here json "name" info.name
  let label ← readString .here json "label" info.label
  let visible ← readBool .here json "visible" info.visible
  let forms ← readObjects .here json "forms" AbilityFormInfo.fromJson info.forms
  return { info with name, label, visible, forms }

instance :
    RecordRoundTrip ModuleAbilityInfo.fromJson ModuleAbilityInfo.toJson where
  isObject _ := rfl
  get_put info results clean := by
    apply withLocal_of_ok
    dsimp only
    repeat refine read_then clean rfl rfl ?_
    rfl

instance [Unaffected condition .here] :
    PreservesAll condition ModuleAbilityInfo.fromJson where
  preserves json := by
    apply Preserves.withLocal
    repeat refine Preserves.read.bind fun _ => ?_
    exact Preserves.pure _

def ModuleDistro.toJson (info : ModuleDistro) : Json :=
  .object [
    ("moduleType", .string info.moduleType),
    ("moduleName", .string info.moduleName),
    ("installationFree", .boolean info.installationFree),
    ("deliveryWithInstall", .boolean info.deliveryWithInstall)]

def ModuleDistro.fromJson (json : Json) : Decode ModuleDistro := withLocal do
  let info : ModuleDistro := {}
  let moduleType ← readString .here json "moduleType" info.moduleType
  let moduleName ← readString .here json "moduleName" info.moduleName
  let installationFree ← readBool .here json "installationFree"
    info.installationFree
  let deliveryWithInstall ← readBool .here json "deliveryWithInstall"
    info.deliveryWithInstall
  return { info with
    moduleType, moduleName, installationFree, deliveryWithInstall }

instance : RecordRoundTrip ModuleDistro.fromJson ModuleDistro.toJson where
  isObject _ := rfl
  get_put info results clean := by
    apply withLocal_of_ok
    dsimp only
    repeat refine read_then clean rfl rfl ?_
    rfl

instance [Unaffected condition .here] :
    PreservesAll condition ModuleDistro.fromJson where
  preserves json := by
    apply Preserves.withLocal
    repeat refine Preserves.read.bind fun _ => ?_
    exact Preserves.pure _

def ApiVersion.toJson (info : ApiVersion) : Json :=
  .object [
    ("compatible", .integer info.compatible.toNat),
    ("releaseType", .string info.releaseType),
    ("target", .integer info.target.toNat)]

def ApiVersion.fromJson (json : Json) : Decode ApiVersion := withLocal do
  let info : ApiVersion := {}
  let compatible ← readUInt32 .here json "compatible" info.compatible
  let releaseType ← readString .here json "releaseType" info.releaseType
  let target ← readUInt32 .here json "target" info.target
  return { info with compatible, releaseType, target }

instance : RecordRoundTrip ApiVersion.fromJson ApiVersion.toJson where
  isObject _ := rfl
  get_put info results clean := by
    apply withLocal_of_ok
    dsimp only
    repeat refine read_then clean rfl rfl ?_
    rfl

instance [Unaffected condition .here] :
    PreservesAll condition ApiVersion.fromJson where
  preserves json := by
    apply Preserves.withLocal
    repeat refine Preserves.read.bind fun _ => ?_
    exact Preserves.pure _

def PackageModule.toJson (info : PackageModule) : Json :=
  .object [
    ("mainAbility", .string info.mainAbility),
    ("deviceType", .ofList .string info.deviceType),
    ("abilities", .ofList ModuleAbilityInfo.toJson info.abilities),
    ("extensionAbilities", .ofList ExtensionAbilities.toJson
      info.extensionAbilities),
    ("distro", info.distro.toJson),
    ("apiVersion", info.apiVersion.toJson)]

def PackageModule.fromJson (json : Json) : Decode PackageModule := withLocal do
  let info : PackageModule := {}
  let mainAbility ← readString .here json "mainAbility" info.mainAbility
  let deviceType ← readStrings .here json "deviceType" info.deviceType
  let abilities ← readObjects .here json "abilities" ModuleAbilityInfo.fromJson
    info.abilities
  let extensionAbilities ← readObjects .here json "extensionAbilities"
    ExtensionAbilities.fromJson info.extensionAbilities
  let distro ← readObject .here json "distro" ModuleDistro.fromJson info.distro
  let apiVersion ← readObject .here json "apiVersion" ApiVersion.fromJson
    info.apiVersion
  return { info with
    mainAbility, deviceType, abilities, extensionAbilities, distro, apiVersion }

instance : RecordRoundTrip PackageModule.fromJson PackageModule.toJson where
  isObject _ := rfl
  get_put info results clean := by
    apply withLocal_of_ok
    dsimp only
    repeat refine read_then clean rfl rfl ?_
    rfl

instance [Unaffected condition .here] :
    PreservesAll condition PackageModule.fromJson where
  preserves json := by
    apply Preserves.withLocal
    repeat refine Preserves.read.bind fun _ => ?_
    exact Preserves.pure _

def Summary.toJson (info : Summary) : Json :=
  .object [
    ("app", info.app.toJson),
    ("modules", .ofList PackageModule.toJson info.modules)]

def Summary.fromJson (json : Json) : Decode Summary := withLocal do
  let info : Summary := {}
  let app ← readObject .here json "app" PackageApp.fromJson info.app
  let modules ← readObjects .here json "modules" PackageModule.fromJson
    info.modules
  return { info with app, modules }

instance : RecordRoundTrip Summary.fromJson Summary.toJson where
  isObject _ := rfl
  get_put info results clean := by
    apply withLocal_of_ok
    dsimp only
    repeat refine read_then clean rfl rfl ?_
    rfl

instance [Unaffected condition .here] :
    PreservesAll condition Summary.fromJson where
  preserves json := by
    apply Preserves.withLocal
    repeat refine Preserves.read.bind fun _ => ?_
    exact Preserves.pure _

def Packages.toJson (info : Packages) : Json :=
  .object [
    ("deviceType", .ofList .string info.deviceType),
    ("moduleType", .string info.moduleType),
    ("deliveryWithInstall", .boolean info.deliveryWithInstall),
    ("name", .string info.name)]

def Packages.fromJson (json : Json) : Decode Packages := withLocal do
  let info : Packages := {}
  let deviceType ← readStrings .here json "deviceType" info.deviceType
  let moduleType ← readString .here json "moduleType" info.moduleType
  let deliveryWithInstall ← readBool .here json "deliveryWithInstall"
    info.deliveryWithInstall
  let name ← readString .here json "name" info.name
  return { info with deviceType, moduleType, deliveryWithInstall, name }

instance : RecordRoundTrip Packages.fromJson Packages.toJson where
  isObject _ := rfl
  get_put info results clean := by
    apply withLocal_of_ok
    dsimp only
    repeat refine read_then clean rfl rfl ?_
    rfl

instance [Unaffected condition .here] :
    PreservesAll condition Packages.fromJson where
  preserves json := by
    apply Preserves.withLocal
    repeat refine Preserves.read.bind fun _ => ?_
    exact Preserves.pure _

def BundlePackInfo.toJson (info : BundlePackInfo) : Json :=
  .object [
    ("summary", info.summary.toJson),
    ("packages", .ofList Packages.toJson info.packages)]

def BundlePackInfo.fromJson (json : Json) :
    Decode BundlePackInfo := withLocal do
  let info : BundlePackInfo := {}
  let summary ← readObject .here json "summary" Summary.fromJson info.summary
  let packages ← readObjects .here json "packages" Packages.fromJson
    info.packages
  return { info with summary, packages }

/-- Whether the contents are valid is not stored. -/
theorem BundlePackInfo.fromJson_toJson (info : BundlePackInfo)
    (results : ParseResults) (clean : results.reader = ErrCode.ok) :
    BundlePackInfo.fromJson info.toJson results =
      (.ok { info with isValid := false }, results) := by
  apply withLocal_of_ok
  dsimp only
  repeat refine read_then clean rfl rfl ?_
  rfl

instance [Unaffected condition .here] :
    PreservesAll condition BundlePackInfo.fromJson where
  preserves json := by
    apply Preserves.withLocal
    repeat refine Preserves.read.bind fun _ => ?_
    exact Preserves.pure _

end AppExecFwk
