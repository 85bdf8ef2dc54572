import AppExecFwk.Profile.BundleProfile
import AppExecFwk.Profile.ProfileTables

/-!
# From `config.json` to a bundle information object

`TransformTo` converts the decoded profile block by block: the application, the
module, the bundle, the shortcuts, the common events and last the abilities with
their forms.  An ability that is invalid ends the conversion.
-/

namespace AppExecFwk.BundleProfile

open ProfileReader

def abilityTypeMap : List (String × AbilityType) :=
  [("page", .page), ("service", .service), ("data", .data), ("form", .form)]

def displayOrientationMap : List (String × DisplayOrientation) :=
  [("unspecified", ⟨0⟩), ("landscape", ⟨1⟩), ("portrait", ⟨2⟩),
    ("followrecent", ⟨3⟩)]

def launchModeMap : List (String × LaunchMode) :=
  [("singleton", ⟨0⟩), ("singletop", ⟨2⟩), ("standard", ⟨1⟩),
    ("specified", ⟨3⟩)]

def dimensionMap : List (String × Int32) :=
  [("1*2", 1), ("2*2", 2), ("2*4", 3), ("4*4", 4)]

def formTypeMap : List (String × FormType) :=
  [("JS", ⟨1⟩), ("Java", ⟨0⟩)]

def moduleColorMode : List (String × ModuleColorMode) :=
  [("auto", ⟨-1⟩), ("dark", ⟨0⟩), ("light", ⟨1⟩)]

def formColorModeMap : List (String × FormsColorMode) :=
  [("auto", ⟨-1⟩), ("dark", ⟨0⟩), ("light", ⟨1⟩)]

def formEntityMap : List (String × UInt32) :=
  [("homeScreen", 1), ("searchbox", 2)]

/-- A module of a lite device needs no further checks; it may be given the name
of the bundle as its package. -/
def checkModuleInfosIsValid (configJson : ConfigJson) : Option ConfigJson :=
  let module := configJson.module
  if module.deviceType.isEmpty then none
  else if module.abilities.any fun ability =>
      ability.name.isEmpty || ability.type.isEmpty then none
  else if configJson.app.version.code ≤ 0 then none
  else if module.deviceType.any fun device =>
      device = "liteWearable" || device = "smartVision" then
    if module.package.isEmpty then
      some { configJson with
        module := { module with package := configJson.app.bundleName } }
    else some configJson
  else if module.package.isEmpty then none
  else if module.distro.moduleName.isEmpty then none
  else some configJson

def getFormEntity (formEntity : List String) : UInt32 :=
  flagsOf formEntityMap formEntity

def getBackgroundModes (backgroundModes : List String) : UInt32 :=
  flagsOf backgroundModeMap backgroundModes

def convertFormInfo (form : Forms) : FormInfo :=
  let formInfo : FormInfo := {}
  { formInfo with
    name := form.name
    description := form.description
    descriptionId := form.descriptionId
    formConfigAbility := form.formConfigAbility
    formVisibleNotify := form.formVisibleNotify
    deepLink := form.deepLink
    defaultFlag := form.isDefault
    type := (formTypeMap.lookup form.type).getD formInfo.type
    colorMode := (formColorModeMap.lookup form.colorMode).getD
      formInfo.colorMode
    updateEnabled := form.updateEnabled
    scheduledUpdateTime := form.scheduledUpdateTime
    updateDuration := form.updateDuration
    jsComponentName := form.jsComponentName
    customizeDatas := form.metaData.customizeData.map fun data =>
      { name := data.name, value := data.value }
    supportDimensions := form.supportDimensions.filterMap fun dimensions =>
      dimensionMap.lookup dimensions
    defaultDimension := (dimensionMap.lookup form.defaultDimension).getD
      formInfo.defaultDimension
    landscapeLayouts := form.landscapeLayouts
    portraitLayouts := form.portraitLayouts
    src := form.src
    window :=
      { autoDesignWidth := form.window.autoDesignWidth
        designWidth := form.window.designWidth } }

/-- The settings that only a system application that was preinstalled gets. -/
def setPrivilegedSettings (configJson : ConfigJson)
    (applicationInfo : ApplicationInfo) : ApplicationInfo :=
  { applicationInfo with
    keepAlive := configJson.deveicConfig.defaultDevice.keepAlive
    singleton := configJson.app.singleton
    userDataClearable := configJson.app.userDataClearable
    removable :=
      if configJson.app.removable.1 then configJson.app.removable.2
      else false }

section Conversion

variable (platform : Platform)

def toApplicationInfo (configJson : ConfigJson)
    (applicationInfo : ApplicationInfo) (isPreInstallApp : Bool) :
    ApplicationInfo :=
  let app := configJson.app
  let versionCode := app.version.code.toUInt32
  let applicationInfo := { applicationInfo with
    name := app.bundleName
    bundleName := app.bundleName
    versionCode
    versionName := app.version.name
    minCompatibleVersionCode :=
      if app.version.minCompatibleVersionCode ≠ -1 then
        app.version.minCompatibleVersionCode
      else versionCode.toInt32
    apiCompatibleVersion := app.apiVersion.compatible
    apiTargetVersion := app.apiVersion.target.toInt32
    apiReleaseType := app.apiVersion.releaseType }
  let applicationInfo :=
    if applicationInfo.isSystemApp && isPreInstallApp then
      setPrivilegedSettings configJson applicationInfo
    else applicationInfo
  let (nativeLibraryPath, cpuAbi) := nativeLibrary platform
  { applicationInfo with
    debug := configJson.deveicConfig.defaultDevice.debug
    deviceId := "PHONE-001"
    distributedNotificationEnabled := true
    entityType := "unspecified"
    process := configJson.deveicConfig.defaultDevice.process
    supportedModes :=
      if configJson.module.supportedModes.contains "drive" then 1 else 0
    vendor := app.vendor
    nativeLibraryPath
    cpuAbi
    iconId := app.iconId
    labelId := app.labelId
    enabled := true
    targetBundleList :=
      applicationInfo.targetBundleList ++ app.targetBundleList }

def toBundleInfo (configJson : ConfigJson) (applicationInfo : ApplicationInfo)
    (innerModuleInfo : InnerModuleInfo) (isPreInstallApp : Bool) : BundleInfo :=
  let bundleInfo : BundleInfo := {}
  { bundleInfo with
    name := applicationInfo.bundleName
    versionCode := applicationInfo.versionCode
    versionName := applicationInfo.versionName
    minCompatibleVersionCode :=
      applicationInfo.minCompatibleVersionCode.toUInt32
    compatibleVersion := applicationInfo.apiCompatibleVersion
    targetVersion := applicationInfo.apiTargetVersion.toUInt32
    isKeepAlive := applicationInfo.keepAlive
    singleton := applicationInfo.singleton
    isPreInstallApp
    vendor := applicationInfo.vendor
    releaseType := applicationInfo.apiReleaseType
    isNativeApp := configJson.module.jses.isEmpty
    mainEntry :=
      if innerModuleInfo.isEntry then innerModuleInfo.modulePackage
      else bundleInfo.mainEntry
    entryModuleName :=
      if innerModuleInfo.isEntry then innerModuleInfo.moduleName
      else bundleInfo.entryModuleName }

def getMetaData (profileMetaData : ProfileReader.MetaData) :
    AppExecFwk.MetaData where
  customizeData := profileMetaData.customizeData.map fun item =>
    { name := item.name, extra := item.extra, value := item.value }

/-- The permissions that the module defines are copied for every
application. -/
def toInnerModuleInfo (configJson : ConfigJson) : InnerModuleInfo :=
  let innerModuleInfo : InnerModuleInfo := {}
  let module := configJson.module
  { innerModuleInfo with
    modulePackage := module.package
    moduleName := module.distro.moduleName
    installationFree := module.distro.installationFree
    description := module.description
    descriptionId := module.descriptionId
    colorMode := (moduleColorMode.lookup module.colorMode).getD
      innerModuleInfo.colorMode
    metaData := getMetaData module.metaData
    distro := module.distro
    reqCapabilities := module.reqCapabilities
    requestPermissions := module.requestPermissions
    definePermissions := module.definePermissions
    defPermissions := module.defPermissions
    mainAbility :=
      if Text.takeChars module.mainAbility 1 = "." then
        module.package ++ module.mainAbility
      else module.mainAbility
    srcPath := module.srcPath
    isEntry :=
      moduleTypeSet.contains module.distro.moduleType &&
        module.distro.moduleType = "entry"
    dependencies := module.dependencies
    isModuleJson := false }

/-- A name that starts with a dot is completed with the package. -/
def fullAbilityName (configJson : ConfigJson) (ability : Ability) : String :=
  if ability.srcLanguage ≠ "c++" ∧ Text.takeChars ability.name 1 = "." then
    configJson.module.package ++ ability.name
  else ability.name

def toAbilityInfo (configJson : ConfigJson) (ability : Ability)
    (isSystemApp isPreInstallApp : Bool) : Option AbilityInfo :=
  let abilityInfo : AbilityInfo := {}
  let srcLanguage := ability.srcLanguage.map Char.toLower
  match abilityTypeMap.lookup ability.type with
  | none => none
  | some type =>
      if type = .data ∧ !Text.contains ability.uri "dataability://" then none
      else
        some { abilityInfo with
          name := fullAbilityName configJson ability
          label := ability.label
          description := ability.description
          iconPath := ability.icon
          labelId := ability.labelId
          descriptionId := ability.descriptionId
          iconId := ability.iconId
          visible := ability.visible
          continuable := ability.continuable
          kind := ability.type
          srcPath := ability.srcPath
          srcLanguage
          priority :=
            if isSystemApp && isPreInstallApp then ability.priority
            else abilityInfo.priority
          isNativeAbility := srcLanguage ≠ "js" ∧ srcLanguage ≠ "ets"
          type
          orientation := (displayOrientationMap.lookup
            ability.orientation).getD abilityInfo.orientation
          launchMode := (launchModeMap.lookup ability.launchType).getD
            abilityInfo.launchMode
          permissions := ability.permissions
          process :=
            if ability.process.isEmpty then
              configJson.deveicConfig.defaultDevice.process
            else ability.process
          theme := ability.theme
          deviceTypes := configJson.module.deviceType
          deviceCapabilities := ability.deviceCapability
          uri := ability.uri
          package := configJson.module.package
          bundleName := configJson.app.bundleName
          moduleName := configJson.module.distro.moduleName
          applicationName := configJson.app.bundleName
          targetAbility := ability.targetAbility
          enabled := true
          supportPipMode := ability.supportPipMode
          readPermission := ability.readPermission
          writePermission := ability.writePermission
          configChanges := ability.configChanges
          formEntity := getFormEntity ability.form.formEntity
          minFormHeight := ability.form.minHeight
          defaultFormHeight := ability.form.defaultHeight
          minFormWidth := ability.form.minWidth
          defaultFormWidth := ability.form.defaultWidth
          metaData := getMetaData ability.metaData
          formEnabled := ability.formsEnabled
          backgroundModes := getBackgroundModes ability.backgroundModes
          isModuleJson := false
          startWindowIcon := ability.startWindowIcon
          startWindowIconId := ability.startWindowIconId
          startWindowBackground := ability.startWindowBackground
          startWindowBackgroundId := ability.startWindowBackgroundId
          removeMissionAfterTerminate := ability.removeMissionAfterTerminate }

def toShortcutInfo (configJson : ConfigJson) (info : Shortcut) :
    ShortcutInfo where
  id := info.shortcutId
  bundleName := configJson.app.bundleName
  icon := info.icon
  label := info.label
  iconId := info.iconId
  labelId := info.labelId
  intents := info.intents.map fun intent =>
    { targetBundle := intent.targetBundle, targetClass := intent.targetClass }

def insertShortcuts (configJson : ConfigJson)
    (innerBundleInfo : InnerBundleInfo) : InnerBundleInfo :=
  configJson.module.shortcuts.foldl (fun innerBundleInfo info =>
    innerBundleInfo.insertShortcutInfos
      (abilityKey configJson.app.bundleName configJson.module.package
        info.shortcutId)
      (toShortcutInfo configJson info)) innerBundleInfo

def toCommonEventInfo (configJson : ConfigJson)
    (info : ProfileReader.CommonEvent) : CommonEventInfo where
  name := info.name
  bundleName := configJson.app.bundleName
  permission := info.permission
  data := info.data
  type := info.type
  events := info.events

/-- Only a system application subscribes to common events. -/
def insertCommonEvents (configJson : ConfigJson)
    (innerBundleInfo : InnerBundleInfo) : InnerBundleInfo :=
  if innerBundleInfo.appType = .systemApp then
    configJson.module.commonEvents.foldl (fun innerBundleInfo info =>
      innerBundleInfo.insertCommonEvents
        (abilityKey configJson.app.bundleName configJson.module.package
          info.name)
        (toCommonEventInfo configJson info)) innerBundleInfo
  else innerBundleInfo

def toFormInfo (configJson : ConfigJson) (ability : Ability) (form : Forms) :
    FormInfo :=
  { convertFormInfo form with
    abilityName := fullAbilityName configJson ability
    bundleName := configJson.app.bundleName
    moduleName := configJson.module.distro.moduleName
    package := configJson.module.package
    originalBundleName := configJson.app.originalName }

/-- What the loop over the abilities changes. -/
structure Progress where
  applicationInfo : ApplicationInfo
  innerModuleInfo : InnerModuleInfo
  innerBundleInfo : InnerBundleInfo
  find : Bool := false

/-- One skill of an ability, for as long as the main ability was not found
before this ability. -/
def visitSkill (ability : Ability) (keyName : String) (isPreInstallApp : Bool)
    (visited : Progress × AbilityInfo) (skill : Skill) :
    Progress × AbilityInfo :=
  let (progress, abilityInfo) := visited
  let progress :=
    if skill.isHome && !progress.find then
      { progress with
        innerModuleInfo :=
          { progress.innerModuleInfo with
            entryAbilityKey := keyName
            label :=
              if progress.innerModuleInfo.label.isEmpty then ability.label
              else progress.innerModuleInfo.label
            labelId :=
              if progress.innerModuleInfo.label.isEmpty then ability.labelId
              else progress.innerModuleInfo.labelId }
        applicationInfo :=
          { progress.applicationInfo with
            label := ability.label
            labelId := ability.labelId
            iconPath := ability.icon
            iconId := ability.iconId
            description := ability.description
            descriptionId := ability.descriptionId }
        find := true }
    else progress
  if skill.isLauncher && isPreInstallApp then
    ({ progress with
        applicationInfo :=
          { progress.applicationInfo with isLauncherApp := true } },
      { abilityInfo with isLauncherAbility := true })
  else (progress, abilityInfo)

/-- The skills of an ability are not looked at once the main ability was
found. -/
def visitSkills (ability : Ability) (keyName : String) (isPreInstallApp : Bool)
    (visited : Progress × AbilityInfo) : Progress × AbilityInfo :=
  if visited.1.find then visited
  else
    ability.skills.foldl (visitSkill ability keyName isPreInstallApp) visited

/-- The keys, the skills and the forms of an ability. -/
def Progress.insertParts (configJson : ConfigJson) (ability : Ability)
    (keyName : String) (progress : Progress) : Progress :=
  { progress with
    innerModuleInfo :=
      { progress.innerModuleInfo with
        abilityKeys := progress.innerModuleInfo.abilityKeys ++ [keyName]
        skillKeys := progress.innerModuleInfo.skillKeys ++ [keyName] }
    innerBundleInfo :=
      (progress.innerBundleInfo.insertSkillInfo keyName
        ability.skills).insertFormInfos keyName
          (ability.formses.map (toFormInfo configJson ability)) }

def Progress.insertAbility (keyName : String) (progress : Progress)
    (abilityInfo : AbilityInfo) : Progress :=
  { progress with
    innerBundleInfo :=
      progress.innerBundleInfo.insertAbilitiesInfo keyName abilityInfo }

def visitAbility (configJson : ConfigJson) (isPreInstallApp : Bool)
    (progress : Progress) (ability : Ability) : Option Progress :=
  match toAbilityInfo configJson ability progress.applicationInfo.isSystemApp
      isPreInstallApp with
  | none => none
  | some abilityInfo =>
      let keyName := abilityKey configJson.app.bundleName
        configJson.module.package abilityInfo.name
      let progress := progress.insertParts configJson ability keyName
      let (progress, abilityInfo) :=
        visitSkills ability keyName isPreInstallApp (progress, abilityInfo)
      some (progress.insertAbility keyName abilityInfo)

/-- Convert the abilities in turn; false where one of them is invalid. -/
def visitAbilities (configJson : ConfigJson) (isPreInstallApp : Bool) :
    Progress → List Ability → Bool × Progress
  | progress, [] => (true, progress)
  | progress, ability :: rest =>
      match visitAbility configJson isPreInstallApp progress ability with
      | none => (false, progress)
      | some progress =>
          visitAbilities configJson isPreInstallApp progress rest

/-- The state before the loop over the abilities. -/
def beforeAbilities (configJson : ConfigJson)
    (innerBundleInfo : InnerBundleInfo) : Progress where
  applicationInfo :=
    toApplicationInfo platform configJson
      { isSystemApp := innerBundleInfo.appType = .systemApp }
      innerBundleInfo.isPreInstallApp
  innerModuleInfo := toInnerModuleInfo configJson
  innerBundleInfo :=
    insertCommonEvents configJson (insertShortcuts configJson innerBundleInfo)

/-- The last part of the conversion. -/
def setConverted (configJson : ConfigJson) (bundleInfo : BundleInfo)
    (progress : Progress) : InnerBundleInfo :=
  (((progress.innerBundleInfo.setCurrentModulePackage
    configJson.module.package).setBaseApplicationInfo
      progress.applicationInfo).setBaseBundleInfo
        bundleInfo).insertInnerModuleInfo
          configJson.module.package progress.innerModuleInfo

def toInnerBundleInfo (configJson : ConfigJson)
    (innerBundleInfo : InnerBundleInfo) : Bool × InnerBundleInfo :=
  if !checkBundleNameIsValid configJson.app.bundleName then
    (false, innerBundleInfo)
  else
    match checkModuleInfosIsValid configJson with
    | none => (false, innerBundleInfo)
    | some configJson =>
        let isPreInstallApp := innerBundleInfo.isPreInstallApp
        let progress := beforeAbilities platform configJson innerBundleInfo
        let bundleInfo := toBundleInfo configJson progress.applicationInfo
          progress.innerModuleInfo isPreInstallApp
        match visitAbilities configJson isPreInstallApp progress
            configJson.module.abilities with
        | (false, progress) => (false, progress.innerBundleInfo)
        | (true, progress) =>
            (true, setConverted configJson bundleInfo progress)

end Conversion

end AppExecFwk.BundleProfile
