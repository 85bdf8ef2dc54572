import AppExecFwk.Codec.StoredEntries

/-!
# The profile `module.json`

The profile of a package of the newer format is decoded through the result
variable of the module profile.  The skills and the scopes of defined
permissions in it are decoded by the decoders of the stored record, which write
the variable of the profile reader; `TransformTo` resets only the former.
-/

namespace AppExecFwk

namespace Profile

variable {condition : ParseResults → Prop}

/-- What the application block says for one type of device; a member that is
there is marked. -/
structure DeviceConfig where
  minAPIVersion : Bool × Int32 := (false, 0)
  distributedNotificationEnabled : Bool × Bool := (false, false)
  keepAlive : Bool × Bool := (false, false)
  removable : Bool × Bool := (false, true)
  singleton : Bool × Bool := (false, false)
  userDataClearable : Bool × Bool := (false, true)
  accessible : Bool × Bool := (false, true)

/-- One metadata item. -/
structure Metadata where
  name : String := ""
  value : String := ""
  resource : String := ""

/-- A page ability. -/
structure Ability where
  name : String := ""
  srcEntrance : String := ""
  launchType : String := "singleton"
  description : String := ""
  descriptionId : Int32 := 0
  icon : String := ""
  iconId : Int32 := 0
  label : String := ""
  labelId : Int32 := 0
  priority : Int32 := 0
  permissions : List String := []
  metadata : List Metadata := []
  visible : Bool := false
  continuable : Bool := false
  skills : List Skill := []
  backgroundModes : List String := []
  startWindowIcon : String := ""
  startWindowIconId : Int32 := 0
  startWindowBackground : String := ""
  startWindowBackgroundId : Int32 := 0
  removeMissionAfterTerminate : Bool := false

/-- An extension ability. -/
structure Extension where
  name : String := ""
  srcEntrance : String := ""
  icon : String := ""
  iconId : Int32 := 0
  label : String := ""
  labelId : Int32 := 0
  description : String := ""
  descriptionId : Int32 := 0
  priority : Int32 := 0
  type : String := ""
  readPermission : String := ""
  writePermission : String := ""
  uri : String := ""
  permissions : List String := []
  visible : Bool := false
  skills : List Skill := []
  metadata : List Metadata := []

/-- The application block. -/
structure App where
  bundleName : String := ""
  debug : Bool := false
  icon : String := ""
  iconId : Int32 := 0
  label : String := ""
  labelId : Int32 := 0
  description : String := ""
  descriptionId : Int32 := 0
  vendor : String := ""
  versionCode : Int32 := 0
  versionName : String := ""
  minCompatibleVersionCode : Int32 := -1
  minAPIVersion : Int32 := 0
  targetAPIVersion : Int32 := 0
  apiReleaseType : String := "Release"
  distributedNotificationEnabled : Bool := true
  entityType : String := "unspecified"
  keepAlive : Bool := false
  removable : Bool × Bool := (false, true)
  singleton : Bool := false
  userDataClearable : Bool := true
  accessible : Bool := false
  targetBundleList : List String := []
  deviceConfigs : StringMap DeviceConfig := ∅

/-- The module block. -/
structure Module where
  name : String := ""
  type : String := ""
  srcEntrance : String := ""
  description : String := ""
  descriptionId : Int32 := 0
  process : String := ""
  mainElement : String := ""
  deviceTypes : List String := []
  deliveryWithInstall : Bool := false
  installationFree : Bool := false
  virtualMachine : String := "default"
  uiSyntax : String := "hml"
  pages : String := ""
  metadata : List Metadata := []
  abilities : List Ability := []
  extensionAbilities : List Extension := []
  requestPermissions : List RequestPermission := []
  definePermissions : List DefinePermission := []
  dependencies : List String := []

/-- The whole profile. -/
structure ModuleJson where
  app : App := {}
  module : Module := {}

def DeviceConfig.fromJson (json : Json) : Decode DeviceConfig := do
  let info : DeviceConfig := {}
  let minAPIVersion := ((json.find? "minAPIVersion").isSome,
    ← readInt32 .profile json "minAPIVersion" info.minAPIVersion.2)
  let distributedNotificationEnabled := ((json.find?
    "distributedNotificationEnabled").isSome,
    ← readBool .profile json "distributedNotificationEnabled"
      info.distributedNotificationEnabled.2)
  let keepAlive := ((json.find? "keepAlive").isSome,
    ← readBool .profile json "keepAlive" info.keepAlive.2)
  let removable := ((json.find? "removable").isSome,
    ← readBool .profile json "removable" info.removable.2)
  let singleton := ((json.find? "singleton").isSome,
    ← readBool .profile json "singleton" info.singleton.2)
  let userDataClearable := ((json.find? "userDataClearable").isSome,
    ← readBool .profile json "userDataClearable" info.userDataClearable.2)
  let accessible := ((json.find? "accessible").isSome,
    ← readBool .profile json "accessible" info.accessible.2)
  return { info with
    minAPIVersion, distributedNotificationEnabled, keepAlive, removable,
    singleton, userDataClearable, accessible }

instance [Unaffected condition .profile] :
    PreservesAll condition DeviceConfig.fromJson where
  preserves json := by
    repeat refine Preserves.read.bind fun _ => ?_
    exact Preserves.pure _

def Metadata.fromJson (json : Json) : Decode Metadata := do
  let info : Metadata := {}
  let name ← readString .profile json "name" info.name
  let value ← readString .profile json "value" info.value
  let resource ← readString .profile json "resource" info.resource
  return { info with name, value, resource }

instance [Unaffected condition .profile] :
    PreservesAll condition Metadata.fromJson where
  preserves json := by
    repeat refine Preserves.read.bind fun _ => ?_
    exact Preserves.pure _

def Ability.fromJson (json : Json) : Decode Ability := do
  let info : Ability := {}
  let name ← readString .profile json "name" info.name true
  let srcEntrance ← readString .profile json "srcEntrance" info.srcEntrance true
  let launchType ← readString .profile json "launchType" info.launchType
  let description ← readString .profile json "description" info.description
  let descriptionId ← readInt32 .profile json "descriptionId" info.descriptionId
  let icon ← readString .profile json "icon" info.icon
  let iconId ← readInt32 .profile json "iconId" info.iconId
  let label ← readString .profile json "label" info.label
  let labelId ← readInt32 .profile json "labelId" info.labelId
  let priority ← readInt32 .profile json "priority" info.priority
  let permissions ← readStrings .profile json "permissions" info.permissions
  let metadata ← readObjects .profile json "metadata" Metadata.fromJson
    info.metadata
  let visible ← readBool .profile json "visible" info.visible
  let continuable ← readBool .profile json "continuable" info.continuable
  let skills ← readObjects .profile json "skills" Skill.fromJson info.skills
  let backgroundModes ← readStrings .profile json "backgroundModes"
    info.backgroundModes
  let startWindowIcon ← readString .profile json "startWindowIcon"
    info.startWindowIcon
  let startWindowIconId ← readInt32 .profile json "startWindowIconId"
    info.startWindowIconId
  let startWindowBackground ← readString .profile json "startWindowBackground"
    info.startWindowBackground
  let startWindowBackgroundId ← readInt32 .profile json
    "startWindowBackgroundId" info.startWindowBackgroundId
  let removeMissionAfterTerminate ← readBool .profile json
    "removeMissionAfterTerminate" info.removeMissionAfterTerminate
  return { info with
    name, srcEntrance, launchType, description, descriptionId, icon, iconId,
    label, labelId, priority, permissions, metadata, visible, continuable,
    skills, backgroundModes, startWindowIcon, startWindowIconId,
    startWindowBackground, startWindowBackgroundId,
    removeMissionAfterTerminate }

def Extension.fromJson (json : Json) : Decode Extension := do
  let info : Extension := {}
  let name ← readString .profile json "name" info.name true
  let srcEntrance ← readString .profile json "srcEntrance" info.srcEntrance true
  let icon ← readString .profile json "icon" info.icon
  let iconId ← readInt32 .profile json "iconId" info.iconId
  let label ← readString .profile json "label" info.label
  let labelId ← readInt32 .profile json "labelId" info.labelId
  let description ← readString .profile json "description" info.description
  let descriptionId ← readInt32 .profile json "descriptionId" info.descriptionId
  let priority ← readInt32 .profile json "priority" info.priority
  let type ← readString .profile json "type" info.type true
  let readPermission ← readString .profile json "readPermission"
    info.readPermission
  let writePermission ← readString .profile json "writePermission"
    info.writePermission
  let uri ← readString .profile json "uri" info.uri
  let permissions ← readStrings .profile json "permissions" info.permissions
  let visible ← readBool .profile json "visible" info.visible
  let skills ← readObjects .profile json "skills" Skill.fromJson info.skills
  let metadata ← readObjects .profile json "metadata" Metadata.fromJson
    info.metadata
  return { info with
    name, srcEntrance, icon, iconId, label, labelId, description,
    descriptionId, priority, type, readPermission, writePermission, uri,
    permissions, visible, skills, metadata }

/-- A device that is listed gets a configuration, if only a default one. -/
def readDeviceConfig (json : Json) (key : String)
    (deviceConfigs : StringMap DeviceConfig) :
    Decode (StringMap DeviceConfig) :=
  if (json.find? key).isNone then
    return deviceConfigs
  else do
    let deviceConfig ← readObject .profile json key DeviceConfig.fromJson {}
    return deviceConfigs.insert key deviceConfig

theorem preserves_readDeviceConfig [Unaffected condition .profile] (json : Json)
    (key : String) (deviceConfigs : StringMap DeviceConfig) :
    Preserves condition (readDeviceConfig json key deviceConfigs) := by
  unfold readDeviceConfig
  split
  · exact Preserves.pure _
  · exact Preserves.read.bind fun _ => Preserves.pure _

def App.fromJson (json : Json) : Decode App := do
  let info : App := {}
  let bundleName ← readString .profile json "bundleName" info.bundleName true
  let debug ← readBool .profile json "debug" info.debug
  let icon ← readString .profile json "icon" info.icon true
  let iconId ← readInt32 .profile json "iconId" info.iconId
  let label ← readString .profile json "label" info.label true
  let labelId ← readInt32 .profile json "labelId" info.labelId
  let description ← readString .profile json "description" info.description
  let descriptionId ← readInt32 .profile json "descriptionId" info.descriptionId
  let vendor ← readString .profile json "vendor" info.vendor
  let versionCode ← readInt32 .profile json "versionCode" info.versionCode true
  let versionName ← readString .profile json "versionName" info.versionName true
  let minCompatibleVersionCode ← readInt32 .profile json
    "minCompatibleVersionCode" info.minCompatibleVersionCode
  let minAPIVersion ← readInt32 .profile json "minAPIVersion"
    info.minAPIVersion true
  let targetAPIVersion ← readInt32 .profile json "targetAPIVersion"
    info.targetAPIVersion true
  let apiReleaseType ← readString .profile json "apiReleaseType"
    info.apiReleaseType
  let distributedNotificationEnabled ← readBool .profile json
    "distributedNotificationEnabled" info.distributedNotificationEnabled
  let entityType ← readString .profile json "entityType" info.entityType
  let keepAlive ← readBool .profile json "keepAlive" info.keepAlive
  let targetBundleList ← readStrings .profile json "targetBundleList"
    info.targetBundleList
  let removable := ((json.find? "removable").isSome,
    ← readBool .profile json "removable" info.removable.2)
  let singleton ← readBool .profile json "singleton" info.singleton
  let userDataClearable ← readBool .profile json "userDataClearable"
    info.userDataClearable
  let accessible ← readBool .profile json "accessible" info.accessible
  let deviceConfigs ← readDeviceConfig json "phone" info.deviceConfigs
  let deviceConfigs ← readDeviceConfig json "tablet" deviceConfigs
  let deviceConfigs ← readDeviceConfig json "tv" deviceConfigs
  let deviceConfigs ← readDeviceConfig json "wearable" deviceConfigs
  let deviceConfigs ← readDeviceConfig json "liteWearable" deviceConfigs
  let deviceConfigs ← readDeviceConfig json "car" deviceConfigs
  let deviceConfigs ← readDeviceConfig json "smartVision" deviceConfigs
  let deviceConfigs ← readDeviceConfig json "router" deviceConfigs
  return { info with
    bundleName, debug, icon, iconId, label, labelId, description,
    descriptionId, vendor, versionCode, versionName, minCompatibleVersionCode,
    minAPIVersion, targetAPIVersion, apiReleaseType,
    distributedNotificationEnabled, entityType, keepAlive, targetBundleList,
    removable, singleton, userDataClearable, accessible, deviceConfigs }

instance [Unaffected condition .profile] :
    PreservesAll condition App.fromJson where
  preserves json := by
    iterate 23 refine Preserves.read.bind fun _ => ?_
    iterate 8 refine (preserves_readDeviceConfig _ _ _).bind fun _ => ?_
    exact Preserves.pure _

def Module.fromJson (json : Json) : Decode Module := do
  let info : Module := {}
  let name ← readString .profile json "name" info.name true
  let type ← readString .profile json "type" info.type true
  let srcEntrance ← readString .profile json "srcEntrance" info.srcEntrance
  let description ← readString .profile json "description" info.description
  let descriptionId ← readInt32 .profile json "descriptionId" info.descriptionId
  let process ← readString .profile json "process" info.process
  let mainElement ← readString .profile json "mainElement" info.mainElement true
  let deviceTypes ← readStrings .profile json "deviceTypes" info.deviceTypes
    true
  let deliveryWithInstall ← readBool .profile json "deliveryWithInstall"
    info.deliveryWithInstall true
  let installationFree ← readBool .profile json "installationFree"
    info.installationFree
  let virtualMachine ← readString .profile json "virtualMachine"
    info.virtualMachine
  let uiSyntax ← readString .profile json "uiSyntax" info.uiSyntax
  let pages ← readString .profile json "pages" info.pages true
  let metadata ← readObjects .profile json "metadata" Metadata.fromJson
    info.metadata
  let abilities ← readObjects .profile json "abilities" Ability.fromJson
    info.abilities
  let extensionAbilities ← readObjects .profile json "extensionAbilities"
    Extension.fromJson info.extensionAbilities
  let requestPermissions ← readObjects .profile json "requestPermissions"
    RequestPermission.fromJson info.requestPermissions
  let definePermissions ← readObjects .profile json "definePermissions"
    DefinePermission.fromJson info.definePermissions
  let dependencies ← readStrings .profile json "dependencies" info.dependencies
  return { info with
    name, type, srcEntrance, description, descriptionId, process, mainElement,
    deviceTypes, deliveryWithInstall, installationFree, virtualMachine,
    uiSyntax, pages, metadata, abilities, extensionAbilities,
    requestPermissions, definePermissions, dependencies }

def ModuleJson.fromJson (json : Json) : Decode ModuleJson := do
  let info : ModuleJson := {}
  let app ← readObject .profile json "app" App.fromJson info.app true
  let module ← readObject .profile json "module" Module.fromJson info.module
    true
  return { info with app, module }

/-- The members of the skills of an ability or extension have the types they
are read as. -/
def areSkillsTyped (json : Json) : Bool :=
  (itemsAt json "skills").all Skill.isTyped

/-- The skills and the scopes of defined permissions of a profile have the
types they are read as. -/
def ModuleJson.isTyped (json : Json) : Bool :=
  let module := (json.find? "module").getD .null
  (itemsAt module "abilities").all areSkillsTyped &&
  (itemsAt module "extensionAbilities").all areSkillsTyped &&
  (itemsAt module "definePermissions").all
    (AppExecFwk.isTyped · "availableScope" .array .string)

section Typed

variable {json : Json}

theorem preserves_readSkills (typed : areSkillsTyped json = true)
    (data : List Skill) :
    Preserves ReaderClean (readObjects .profile json "skills" Skill.fromJson
      data) := by
  refine Preserves.read_of fun found isValue => ?_
  rw [eq_itemsAt_of_findMember isValue]
  refine Preserves.getVector fun list same item member => ?_
  cases same
  exact Skill.preserves_of_isTyped (List.all_eq_true.mp typed item member)

theorem Ability.preserves_of_typed (typed : areSkillsTyped json = true) :
    Preserves ReaderClean (Ability.fromJson json) := by
  iterate 14 refine Preserves.read.bind fun _ => ?_
  refine (preserves_readSkills typed _).bind fun _ => ?_
  iterate 6 refine Preserves.read.bind fun _ => ?_
  exact Preserves.pure _

theorem Extension.preserves_of_typed (typed : areSkillsTyped json = true) :
    Preserves ReaderClean (Extension.fromJson json) := by
  iterate 15 refine Preserves.read.bind fun _ => ?_
  refine (preserves_readSkills typed _).bind fun _ => ?_
  refine Preserves.read.bind fun _ => ?_
  exact Preserves.pure _

theorem preserves_definePermission
    (typed : AppExecFwk.isTyped json "availableScope" .array .string = true) :
    Preserves ReaderClean (DefinePermission.fromJson json) := by
  apply Preserves.withLocal
  iterate 3 refine Preserves.read.bind fun _ => ?_
  refine (Preserves.read_of_isTyped typed).bind fun _ => ?_
  iterate 6 refine Preserves.read.bind fun _ => ?_
  exact Preserves.pure _

/-- A list of objects is read through the variable of the module profile. -/
theorem preserves_readObjects {α : Type} {get : Json → Decode α} {key : String}
    {data : List α}
    (items : ∀ item ∈ itemsAt json key, Preserves ReaderClean (get item)) :
    Preserves ReaderClean (readObjects .profile json key get data) := by
  refine Preserves.read_of fun found isValue => ?_
  rw [eq_itemsAt_of_findMember isValue]
  refine Preserves.getVector fun list same item member => ?_
  cases same
  exact items item member

theorem Module.preserves_of_typed
    (abilities : ∀ item ∈ itemsAt json "abilities",
      areSkillsTyped item = true)
    (extensions : ∀ item ∈ itemsAt json "extensionAbilities",
      areSkillsTyped item = true)
    (permissions : ∀ item ∈ itemsAt json "definePermissions",
      AppExecFwk.isTyped item "availableScope" .array .string = true) :
    Preserves ReaderClean (Module.fromJson json) := by
  iterate 14 refine Preserves.read.bind fun _ => ?_
  refine (preserves_readObjects fun item member =>
    Ability.preserves_of_typed (abilities item member)).bind fun _ => ?_
  refine (preserves_readObjects fun item member =>
    Extension.preserves_of_typed (extensions item member)).bind fun _ => ?_
  refine Preserves.read.bind fun _ => ?_
  refine (preserves_readObjects fun item member =>
    preserves_definePermission (permissions item member)).bind fun _ => ?_
  refine Preserves.read.bind fun _ => ?_
  exact Preserves.pure _

theorem ModuleJson.preserves_of_isTyped
    (typed : ModuleJson.isTyped json = true) :
    Preserves ReaderClean (ModuleJson.fromJson json) := by
  simp only [ModuleJson.isTyped, Bool.and_eq_true, List.all_eq_true] at typed
  obtain ⟨⟨abilities, extensions⟩, permissions⟩ := typed
  refine Preserves.read.bind fun _ => ?_
  refine Preserves.bind (Preserves.read_of fun found isValue => ?_) fun _ =>
    Preserves.pure _
  have isFound : (json.find? "module").getD .null = found := by
    rw [find?_eq_of_findMember isValue]
    rfl
  rw [isFound] at abilities extensions permissions
  exact Module.preserves_of_typed abilities extensions permissions

end Typed

end Profile

/-- Decode a profile and make a bundle information object of it. -/
def ModuleProfile.transformTo
    (toInnerBundleInfo :
      Profile.ModuleJson → InnerBundleInfo → Bool × InnerBundleInfo)
    (source : Option Json) (innerBundleInfo : InnerBundleInfo) :
    Decode (ErrCode × InnerBundleInfo) :=
  match source with
  | none => return (ErrCode.parseBadProfile, innerBundleInfo)
  | some jsonObject => do
      let moduleJson ← Profile.ModuleJson.fromJson jsonObject
      let ret ← takeResult .profile
      if ret ≠ ErrCode.ok then
        return (ret, innerBundleInfo)
      let (converted, innerBundleInfo) :=
        toInnerBundleInfo moduleJson innerBundleInfo
      if !converted then
        return (ErrCode.parseProfilePropCheckError, innerBundleInfo)
      return (ErrCode.ok, innerBundleInfo)

end AppExecFwk
