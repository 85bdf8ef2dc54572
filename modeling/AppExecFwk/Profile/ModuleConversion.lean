import AppExecFwk.Profile.ModuleProfile
import AppExecFwk.Profile.ProfileTables

/-!
# From `module.json` to a bundle information object

The conversion of the newer format only fails on an invalid bundle name.  A
privileged setting can be given for the application and again for the type of
the device.
-/

namespace AppExecFwk.ModuleProfile

open Profile

def deviceTypeSet : List String :=
  ["phone", "tablet", "tv", "wearable", "liteWearable", "car", "smartVision",
    "router"]

def virtualMachineSet : List String :=
  ["ark", "default"]

def uiSyntaxSet : List String :=
  ["hml", "ets"]

/-- The types of an extension, each at the place of its number. -/
def extensionTypeSet : List String :=
  ["form", "workScheduler", "inputMethod", "service", "accessibility",
    "dataShare", "fileShare", "staticSubscriber", "wallpaper", "backup",
    "window"]

def entityTypeSet : List String :=
  ["game", "media", "communication", "news", "travel", "utility", "shopping",
    "education", "kids", "business", "photography", "unspecified"]

def grantModeSet : List String :=
  ["system_grant", "user_grant"]

def availableLevelSet : List String :=
  ["system_core", "system_basic", "normal"]

def launchModeMap : List (String × LaunchMode) :=
  [("singleton", ⟨0⟩), ("standard", ⟨1⟩), ("specified", ⟨3⟩)]

def dataShareType : ExtensionAbilityType := ⟨5⟩

def getMetadata (profileMetadata : List Profile.Metadata) :
    List AppExecFwk.Metadata :=
  profileMetadata.map fun item =>
    { name := item.name, value := item.value, resource := item.resource }

/-- The settings that only a system application that was preinstalled gets. -/
def setPrivilegedSettings (app : App) (applicationInfo : ApplicationInfo) :
    ApplicationInfo :=
  { applicationInfo with
    keepAlive := app.keepAlive
    singleton := app.singleton
    userDataClearable := app.userDataClearable
    removable := if app.removable.1 then app.removable.2 else false
    accessible := app.accessible }

/-- What a member says, if it is there. -/
def orElse {α : Type} (member : Bool × α) (value : α) : α :=
  if member.1 then member.2 else value

/-- The privileged settings for the type of the device. -/
def overridePrivilegedSettings (deviceConfig : DeviceConfig)
    (applicationInfo : ApplicationInfo) : ApplicationInfo :=
  { applicationInfo with
    keepAlive := orElse deviceConfig.keepAlive applicationInfo.keepAlive
    singleton := orElse deviceConfig.singleton applicationInfo.singleton
    userDataClearable := orElse deviceConfig.userDataClearable
      applicationInfo.userDataClearable
    removable := orElse deviceConfig.removable applicationInfo.removable
    accessible := orElse deviceConfig.accessible applicationInfo.accessible }

/-- What the profile says about the type of the device. -/
def adaptToDevice (deviceConfig : DeviceConfig) (isPreInstallApp : Bool)
    (applicationInfo : ApplicationInfo) : ApplicationInfo :=
  let applicationInfo := { applicationInfo with
    apiCompatibleVersion :=
      if deviceConfig.minAPIVersion.1 then
        deviceConfig.minAPIVersion.2.toUInt32
      else applicationInfo.apiCompatibleVersion
    distributedNotificationEnabled :=
      orElse deviceConfig.distributedNotificationEnabled
        applicationInfo.distributedNotificationEnabled }
  if applicationInfo.isSystemApp && isPreInstallApp then
    overridePrivilegedSettings deviceConfig applicationInfo
  else applicationInfo

section Conversion

variable (platform : Platform)

def toApplicationInfo (app : App) (applicationInfo : ApplicationInfo)
    (isPreInstallApp : Bool) : ApplicationInfo :=
  let versionCode := app.versionCode.toUInt32
  let applicationInfo := { applicationInfo with
    name := app.bundleName
    bundleName := app.bundleName
    versionCode
    versionName := app.versionName
    minCompatibleVersionCode :=
      if app.minCompatibleVersionCode ≠ -1 then app.minCompatibleVersionCode
      else versionCode.toInt32
    apiCompatibleVersion := app.minAPIVersion.toUInt32
    apiTargetVersion := app.targetAPIVersion
    iconPath := app.icon
    iconId := app.iconId
    label := app.label
    labelId := app.labelId
    description := app.description
    descriptionId := app.descriptionId
    targetBundleList := app.targetBundleList }
  let applicationInfo :=
    if applicationInfo.isSystemApp && isPreInstallApp then
      setPrivilegedSettings app applicationInfo
    else applicationInfo
  let applicationInfo := { applicationInfo with
    apiReleaseType := app.apiReleaseType
    debug := app.debug
    deviceId := "PHONE-001"
    distributedNotificationEnabled := app.distributedNotificationEnabled
    entityType :=
      if entityTypeSet.contains app.entityType then app.entityType
      else "unspecified"
    vendor := app.vendor }
  let applicationInfo :=
    match app.deviceConfigs[platform.getDeviceType]? with
    | none => applicationInfo
    | some deviceConfig =>
        adaptToDevice deviceConfig isPreInstallApp applicationInfo
  let (nativeLibraryPath, cpuAbi) := nativeLibrary platform
  { applicationInfo with nativeLibraryPath, cpuAbi, enabled := true }

def toBundleInfo (applicationInfo : ApplicationInfo)
    (innerModuleInfo : InnerModuleInfo) (isPreInstallApp : Bool) : BundleInfo :=
  let bundleInfo : BundleInfo := {}
  { bundleInfo with
    name := applicationInfo.bundleName
    versionCode := applicationInfo.versionCode
    versionName := applicationInfo.versionName
    minCompatibleVersionCode :=
      applicationInfo.minCompatibleVersionCode.toUInt32
    compatibleVersion := applicationInfo.apiCompatibleVersion
    targetVersion := applicationInfo.apiTargetVersion.toUInt32
    isKeepAlive := applicationInfo.keepAlive
    singleton := applicationInfo.singleton
    isPreInstallApp
    vendor := applicationInfo.vendor
    releaseType := applicationInfo.apiReleaseType
    isNativeApp := false
    mainEntry :=
      if innerModuleInfo.isEntry then innerModuleInfo.moduleName
      else bundleInfo.mainEntry
    entryModuleName :=
      if innerModuleInfo.isEntry then innerModuleInfo.moduleName
      else bundleInfo.entryModuleName }

def getBackgroundModes (backgroundModes : List String) : UInt32 :=
  flagsOf backgroundModeMap backgroundModes

def toAbilityInfo (moduleJson : ModuleJson) (ability : Profile.Ability)
    (isSystemApp isPreInstallApp : Bool) : AbilityInfo :=
  let abilityInfo : AbilityInfo := {}
  { abilityInfo with
    name := ability.name
    srcEntrance := ability.srcEntrance
    description := ability.description
    descriptionId := ability.descriptionId
    iconPath := ability.icon
    iconId := ability.iconId
    label := ability.label
    labelId := ability.labelId
    priority :=
      if isSystemApp && isPreInstallApp then ability.priority
      else abilityInfo.priority
    permissions := ability.permissions
    visible := ability.visible
    continuable := ability.continuable
    backgroundModes := getBackgroundModes ability.backgroundModes
    metadata := getMetadata ability.metadata
    package := moduleJson.module.name
    bundleName := moduleJson.app.bundleName
    moduleName := moduleJson.module.name
    applicationName := moduleJson.app.bundleName
    launchMode := (launchModeMap.lookup ability.launchType).getD
      abilityInfo.launchMode
    enabled := true
    isModuleJson := true
    isStageBasedModel := true
    type := .page
    deviceTypes := moduleJson.module.deviceTypes.filter deviceTypeSet.contains
    startWindowIcon := ability.startWindowIcon
    startWindowIconId := ability.startWindowIconId
    startWindowBackground := ability.startWindowBackground
    startWindowBackgroundId := ability.startWindowBackgroundId
    removeMissionAfterTerminate := ability.removeMissionAfterTerminate }

def convertToExtensionAbilityType (type : String) : ExtensionAbilityType :=
  match extensionTypeSet.idxOf? type with
  | some index => ⟨Int32.ofNat index⟩
  | none => .unspecified

/-- The permissions to read and write are privileged too. -/
def toExtensionInfo (moduleJson : ModuleJson) (extension : Extension)
    (isSystemApp isPreInstallApp : Bool) : ExtensionAbilityInfo :=
  let extensionInfo : ExtensionAbilityInfo := {}
  let type := convertToExtensionAbilityType extension.type
  let isPrivileged := isSystemApp && isPreInstallApp
  { extensionInfo with
    name := extension.name
    srcEntrance := extension.srcEntrance
    icon := extension.icon
    iconId := extension.iconId
    label := extension.label
    labelId := extension.labelId
    description := extension.description
    descriptionId := extension.descriptionId
    type
    priority :=
      if isPrivileged then extension.priority else extensionInfo.priority
    readPermission :=
      if isPrivileged then extension.readPermission
      else extensionInfo.readPermission
    writePermission :=
      if isPrivileged then extension.writePermission
      else extensionInfo.writePermission
    uri := extension.uri
    permissions := extension.permissions
    visible := extension.visible
    metadata := getMetadata extension.metadata
    bundleName := moduleJson.app.bundleName
    moduleName := moduleJson.module.name
    process :=
      if type ≠ .service ∧ type ≠ dataShareType then
        moduleJson.app.bundleName ++ "." ++ moduleJson.module.name ++ ":" ++
          extension.name
      else extensionInfo.process }

/-- A defined permission that is kept. -/
def isKept (definePermission : DefinePermission) : Bool :=
  !definePermission.name.isEmpty &&
    grantModeSet.contains definePermission.grantMode &&
    availableLevelSet.contains definePermission.availableLevel

def getPermissions (moduleJson : ModuleJson) (innerModuleInfo : InnerModuleInfo)
    (isSystemApp isPreInstallApp : Bool) : InnerModuleInfo :=
  { innerModuleInfo with
    definePermissions :=
      if isSystemApp && isPreInstallApp then
        innerModuleInfo.definePermissions ++
          moduleJson.module.definePermissions.filter isKept
      else innerModuleInfo.definePermissions
    requestPermissions :=
      innerModuleInfo.requestPermissions ++
        moduleJson.module.requestPermissions.filter (!·.name.isEmpty) }

def toInnerModuleInfo (moduleJson : ModuleJson)
    (isSystemApp isPreInstallApp : Bool) : InnerModuleInfo :=
  let innerModuleInfo : InnerModuleInfo := {}
  let module := moduleJson.module
  let isKnown := moduleTypeSet.contains module.type
  let innerModuleInfo := { innerModuleInfo with
    modulePackage := module.name
    moduleName := module.name
    description := module.description
    descriptionId := module.descriptionId
    metadata := getMetadata module.metadata
    distro :=
      { deliveryWithInstall := module.deliveryWithInstall
        installationFree := module.installationFree
        moduleName := module.name
        moduleType := if isKnown then module.type else "" }
    installationFree := module.installationFree
    isEntry := isKnown && module.type = "entry"
    mainAbility := module.mainElement
    srcEntrance := module.srcEntrance
    process :=
      if !module.process.isEmpty then module.process
      else moduleJson.app.bundleName
    deviceTypes := module.deviceTypes.filter deviceTypeSet.contains
    virtualMachine :=
      if virtualMachineSet.contains module.virtualMachine then
        module.virtualMachine
      else innerModuleInfo.virtualMachine
    uiSyntax :=
      if uiSyntaxSet.contains module.uiSyntax then module.uiSyntax
      else innerModuleInfo.uiSyntax
    pages := module.pages }
  { getPermissions moduleJson innerModuleInfo isSystemApp isPreInstallApp with
    dependencies := module.dependencies
    isModuleJson := true
    isStageBasedModel := true }

/-- What the loops over the abilities and extensions change. -/
structure Progress where
  applicationInfo : ApplicationInfo
  innerModuleInfo : InnerModuleInfo
  innerBundleInfo : InnerBundleInfo
  findEntry : Bool := false

/-- The first ability with a home skill is the entry ability.  It is stored
before it could be marked as a launcher. -/
def getEntryAbility (ability : Profile.Ability) (key : String)
    (isPreInstallApp : Bool) (progress : Progress) : Progress :=
  match ability.skills.find? Skill.isHome with
  | none => progress
  | some skill =>
      { progress with
        innerModuleInfo :=
          { progress.innerModuleInfo with
            entryAbilityKey := key
            label := ability.label
            labelId := ability.labelId }
        applicationInfo :=
          if skill.isLauncher && isPreInstallApp then
            { progress.applicationInfo with isLauncherApp := true }
          else progress.applicationInfo
        findEntry := true }

def visitAbility (moduleJson : ModuleJson) (isPreInstallApp : Bool)
    (progress : Progress) (ability : Profile.Ability) : Progress :=
  let abilityInfo := toAbilityInfo moduleJson ability
    progress.applicationInfo.isSystemApp isPreInstallApp
  let key := abilityKey moduleJson.app.bundleName moduleJson.module.name
    abilityInfo.name
  let progress :=
    { progress with
      innerModuleInfo :=
        { progress.innerModuleInfo with
          abilityKeys := progress.innerModuleInfo.abilityKeys ++ [key]
          skillKeys := progress.innerModuleInfo.skillKeys ++ [key] }
      innerBundleInfo :=
        (progress.innerBundleInfo.insertSkillInfo key
          ability.skills).insertAbilitiesInfo key abilityInfo }
  if progress.findEntry then progress
  else getEntryAbility ability key isPreInstallApp progress

def visitExtension (moduleJson : ModuleJson) (isPreInstallApp : Bool)
    (progress : Progress) (extension : Extension) : Progress :=
  let extensionInfo := toExtensionInfo moduleJson extension
    progress.applicationInfo.isSystemApp isPreInstallApp
  let key := abilityKey moduleJson.app.bundleName moduleJson.module.name
    extension.name
  { progress with
    innerModuleInfo :=
      { progress.innerModuleInfo with
        extensionKeys := progress.innerModuleInfo.extensionKeys ++ [key]
        extensionSkillKeys :=
          progress.innerModuleInfo.extensionSkillKeys ++ [key] }
    innerBundleInfo :=
      (progress.innerBundleInfo.insertExtensionSkillInfo key
        extension.skills).insertExtensionInfo key extensionInfo }

def toInnerBundleInfo (moduleJson : ModuleJson)
    (innerBundleInfo : InnerBundleInfo) : Bool × InnerBundleInfo :=
  if !checkBundleNameIsValid moduleJson.app.bundleName then
    (false, innerBundleInfo)
  else
    let isPreInstallApp := innerBundleInfo.isPreInstallApp
    let applicationInfo := toApplicationInfo platform moduleJson.app
      { isSystemApp := innerBundleInfo.appType = .systemApp } isPreInstallApp
    let innerModuleInfo := toInnerModuleInfo moduleJson
      applicationInfo.isSystemApp isPreInstallApp
    let bundleInfo :=
      toBundleInfo applicationInfo innerModuleInfo isPreInstallApp
    let progress := moduleJson.module.abilities.foldl
      (visitAbility moduleJson isPreInstallApp)
      { applicationInfo, innerModuleInfo, innerBundleInfo }
    let progress := moduleJson.module.extensionAbilities.foldl
      (visitExtension moduleJson isPreInstallApp) progress
    (true, (((progress.innerBundleInfo.setCurrentModulePackage
      moduleJson.module.name).setBaseApplicationInfo
        progress.applicationInfo).setBaseBundleInfo
          bundleInfo).insertInnerModuleInfo
            moduleJson.module.name progress.innerModuleInfo)

end Conversion

end AppExecFwk.ModuleProfile
