import AppExecFwk.Permission.BundlePermissionMgr

/-!
# What a record answers

The part of `InnerBundleInfo` that turns a record into the application,
ability, module and bundle information handed out.  Every answer is for one
user; where the record has nothing about the user, the variable of the caller
is left as it is.  The flags are the bits of one integer.
-/

namespace AppExecFwk

/-- `(flags & flag) == flag`. -/
def hasFlag (flags : Int32) (flag : UInt32) : Bool :=
  flags.toUInt32 &&& flag = flag

/-- `flags & flag` as a condition. -/
def anyFlag (flags : Int32) (flag : UInt32) : Bool :=
  flags.toUInt32 &&& flag ≠ 0

namespace AbilityInfoFlag

def getAbilityInfoWithPermission : UInt32 := 0x00000002
def getAbilityInfoWithApplication : UInt32 := 0x00000004
def getAbilityInfoWithMetadata : UInt32 := 0x00000020
def getAbilityInfoSystemappOnly : UInt32 := 0x00000080
def getAbilityInfoWithDisable : UInt32 := 0x00000100

end AbilityInfoFlag

namespace ApplicationFlag

def getBasicApplicationInfo : Int32 := 0x00000000
def getApplicationInfoWithPermission : UInt32 := 0x00000008
def getApplicationInfoWithMetadata : UInt32 := 0x00000040
def getApplicationInfoWithDisable : UInt32 := 0x00000200
def getApplicationInfoWithCertificateFingerprint : UInt32 := 0x00000400

end ApplicationFlag

namespace BundleFlag

def getBundleDefault : Int32 := 0x00000000
def getBundleWithAbilities : UInt32 := 0x00000001
def getBundleWithRequestedPermission : UInt32 := 0x00000010
def getBundleWithExtensionInfo : UInt32 := 0x00000020
def getBundleWithHashValue : UInt32 := 0x00000030

end BundleFlag

def dataAbilityUriPrefix : String := "dataability://"

def dataAbilityUriSeparator : String := "/"

/-- Sort the names and keep each of them once. -/
def removeDuplicateName (names : List String) : List String :=
  names.sortUnique id

namespace InnerBundleInfo

variable (info : InnerBundleInfo)

def isSystemApp : Bool :=
  info.baseApplicationInfo.isSystemApp

/-- Whether an ability is switched on for a user, whose information is looked
up under the bundle the ability names. -/
def isAbilityEnabled (ability : AbilityInfo) (userId : Int32) : Bool :=
  if userId = notExistUserId then true
  else
    match info.innerBundleUserInfos[
        nameAndUserIdToKey ability.bundleName userId]? with
    | none => false
    | some user =>
        !user.bundleUserInfo.disabledAbilities.contains ability.name

section ApplicationInfo

/-- What a module adds to the application information. -/
def addModuleTo (flags : Int32) (appInfo : ApplicationInfo)
    (module : InnerModuleInfo) : ApplicationInfo :=
  let withPermission :=
    hasFlag flags ApplicationFlag.getApplicationInfoWithPermission
  let withMetadata :=
    hasFlag flags ApplicationFlag.getApplicationInfoWithMetadata
  let withFingerprint :=
    hasFlag flags ApplicationFlag.getApplicationInfoWithCertificateFingerprint
  { appInfo with
    moduleInfos := appInfo.moduleInfos ++
      [{ moduleName := module.moduleName
         moduleSourceDir := module.modulePath }]
    moduleSourceDirs := appInfo.moduleSourceDirs ++ [module.modulePath]
    entryDir := if module.isEntry then module.modulePath else appInfo.entryDir
    permissions :=
      if withPermission then
        appInfo.permissions ++ module.requestPermissions.map (·.name)
      else appInfo.permissions
    metaData :=
      if withMetadata && !module.isModuleJson &&
          !module.metaData.customizeData.isEmpty then
        appInfo.metaData.insert module.moduleName module.metaData.customizeData
      else appInfo.metaData
    metadata :=
      if withMetadata && module.isModuleJson && !module.metadata.isEmpty then
        appInfo.metadata.insert module.moduleName module.metadata
      else appInfo.metadata
    fingerprint := if withFingerprint then appInfo.fingerprint else "" }

/-- The application information for a user, written over `appInfo`. -/
def getApplicationInfo (flags userId : Int32) (appInfo : ApplicationInfo) :
    ApplicationInfo :=
  match info.getInnerBundleUserInfo userId with
  | none => appInfo
  | some user =>
      let base := { info.baseApplicationInfo with
        accessTokenId := user.accessTokenId
        enabled := user.bundleUserInfo.enabled
        uid := user.uid }
      let filled := info.innerModuleInfos.values.foldl (addModuleTo flags) base
      if filled.permissions.isEmpty then filled
      else { filled with permissions := removeDuplicateName filled.permissions }

end ApplicationInfo

section Abilities

/-- The ability is the one a name stands for; an empty module name stands for
any module. -/
def isNamed (bundleName moduleName abilityName : String)
    (ability : AbilityInfo) : Bool :=
  ability.bundleName = bundleName && ability.name = abilityName &&
    (moduleName = "" || ability.moduleName = moduleName)

/-- The first ability of a name, with the information about its application. -/
def findAbilityInfo (bundleName moduleName abilityName : String)
    (userId : Int32) : Option AbilityInfo :=
  (info.baseAbilityInfos.toList.find? fun entry =>
    isNamed bundleName moduleName abilityName entry.2).map fun entry =>
      { entry.2 with
        applicationInfo := info.getApplicationInfo
          (Int32.ofUInt32 ApplicationFlag.getApplicationInfoWithPermission)
          userId entry.2.applicationInfo }

/-- The first ability that has the uri behind the prefix of its own. -/
def findAbilityInfoByUri (abilityUri : String) : Option AbilityInfo :=
  info.baseAbilityInfos.values.find? fun ability =>
    -- A uri that is shorter than the prefix has no rest.
    Text.substr ability.uri dataAbilityUriPrefix.toList.length = some abilityUri

end Abilities

section Modules

/-- The kind of a module by its name. -/
def moduleTypeOf (moduleType : String) : ModuleType :=
  if moduleType = "entry" then .entry
  else if moduleType = "feature" then .feature
  else if moduleType = "har" then .har
  else .unknown

/-- An ability as part of the information about its module. -/
def abilityOfModule (userId : Int32) (ability : AbilityInfo) : AbilityInfo :=
  { ability with
    applicationInfo := info.getApplicationInfo
      (Int32.ofUInt32 ApplicationFlag.getApplicationInfoWithPermission)
      userId ability.applicationInfo }

def findHapModuleInfo (modulePackage : String) (userId : Int32) :
    Option HapModuleInfo :=
  match info.innerModuleInfos[modulePackage]? with
  | none => none
  | some module =>
      let key := "." ++ modulePackage ++ "."
      let abilities := info.baseAbilityInfos.toList.filter
        fun entry => Text.contains entry.1 key
      let extensions := info.baseExtensionInfos.toList.filter
        fun entry => Text.contains entry.1 key
      some {
        name := module.modulePackage
        moduleName := module.moduleName
        description := module.description
        descriptionId := module.descriptionId
        label := module.label
        labelId := module.labelId
        mainAbility := module.mainAbility
        srcPath := module.srcPath
        hapPath := module.hapPath
        supportedModes := info.baseApplicationInfo.supportedModes
        reqCapabilities := module.reqCapabilities
        colorMode := module.colorMode
        isRemovable := module.isRemovable
        upgradeFlag := module.upgradeFlag
        bundleName := info.baseApplicationInfo.bundleName
        mainElementName := module.mainAbility
        pages := module.pages
        process := module.process
        resourcePath := module.moduleResPath
        srcEntrance := module.srcEntrance
        uiSyntax := module.uiSyntax
        virtualMachine := module.virtualMachine
        deliveryWithInstall := module.distro.deliveryWithInstall
        installationFree := module.distro.installationFree
        isModuleJson := module.isModuleJson
        isStageBasedModel := module.isStageBasedModel
        moduleType := moduleTypeOf module.distro.moduleType
        extensionInfos := extensions.map (·.2)
        metadata := module.metadata
        -- Icon and device types are those of the first ability.
        iconPath := (abilities.head?.map (·.2.iconPath)).getD ""
        deviceTypes := (abilities.head?.map (·.2.deviceTypes)).getD []
        abilityInfos := abilities.map fun entry =>
          info.abilityOfModule userId entry.2
        dependencies := module.dependencies }

end Modules

section BundleInfo

/-- The states of the requested permissions of a token, `none` where the access
token service does not answer.  A state that the service has for another device
only is left out. -/
def getRequestPermissionStates
    (getAllReqPermissionStateFull : UInt32 → Option (List PermissionStateFull))
    (bundleInfo : BundleInfo) : BundleInfo :=
  if bundleInfo.reqPermissions.isEmpty then bundleInfo
  else
    match getAllReqPermissionStateFull
        bundleInfo.applicationInfo.accessTokenId with
    | none => bundleInfo
    | some allPermissionState =>
        { bundleInfo with
          reqPermissionStates := bundleInfo.reqPermissionStates ++
            bundleInfo.reqPermissions.flatMap fun request =>
              match allPermissionState.find?
                  (·.permissionName = request) with
              | none => [-1]
              | some state =>
                  ((state.resDeviceID.zip state.grantStatus).find?
                    (·.1 = bundleInfo.applicationInfo.deviceId)).toList.map
                      fun entry => grantStatus entry.2 }
where
  grantStatus : PermissionState → Int32
    | .permissionDenied => -1
    | .permissionGranted => 0

/-- The hash of a module is handed out if any bit of the flag is set. -/
def getModuleWithHashValue (flags : Int32) (modulePackage : String)
    (hapModuleInfo : HapModuleInfo) : HapModuleInfo :=
  if anyFlag flags BundleFlag.getBundleWithHashValue then
    match info.innerModuleInfos[modulePackage]? with
    | none => hapModuleInfo
    | some module => { hapModuleInfo with hashValue := module.hashValue }
  else hapModuleInfo

/-- What a module adds to the bundle information. -/
def addModuleToBundle (flags userId : Int32) (bundleInfo : BundleInfo)
    (module : InnerModuleInfo) : BundleInfo :=
  let bundleInfo :=
    if hasFlag flags BundleFlag.getBundleWithRequestedPermission then
      { bundleInfo with
        reqPermissions := bundleInfo.reqPermissions ++
          module.requestPermissions.map (·.name)
        defPermissions := bundleInfo.defPermissions ++
          module.definePermissions.map (·.name) ++
            module.defPermissions.map (·.name) }
    else bundleInfo
  let bundleInfo := { bundleInfo with
    hapModuleNames := bundleInfo.hapModuleNames ++ [module.modulePackage] }
  match info.findHapModuleInfo module.modulePackage userId with
  | none => bundleInfo
  | some hapModuleInfo =>
      { bundleInfo with
        hapModuleInfos := bundleInfo.hapModuleInfos ++
          [info.getModuleWithHashValue flags module.modulePackage hapModuleInfo]
        moduleNames := bundleInfo.moduleNames ++ [module.moduleName]
        moduleDirs := bundleInfo.moduleDirs ++ [module.modulePath]
        modulePublicDirs := bundleInfo.modulePublicDirs ++
          [module.moduleDataDir]
        moduleResPaths := bundleInfo.moduleResPaths ++
          [module.moduleResPath] }

/-- The requested permissions, if they are asked for. -/
def getBundleWithReqPermissions
    (getAllReqPermissionStateFull : UInt32 → Option (List PermissionStateFull))
    (flags : Int32) (bundleInfo : BundleInfo) : BundleInfo :=
  if hasFlag flags BundleFlag.getBundleWithRequestedPermission then
    let bundleInfo := { bundleInfo with
      reqPermissions := removeDuplicateName bundleInfo.reqPermissions
      defPermissions := removeDuplicateName bundleInfo.defPermissions }
    { getRequestPermissionStates getAllReqPermissionStateFull bundleInfo with
      reqPermissionDetails := info.getAllRequestPermissions }
  else bundleInfo

/-- The abilities, if they are asked for: those that are switched on, or all of
them. -/
def getBundleWithAbilities (flags : Int32) (bundleInfo : BundleInfo)
    (userId : Int32) : BundleInfo :=
  if anyFlag flags BundleFlag.getBundleWithAbilities then
    { bundleInfo with
      abilityInfos := bundleInfo.abilityInfos ++
        (info.baseAbilityInfos.values.filter fun ability =>
          anyFlag flags AbilityInfoFlag.getAbilityInfoWithDisable ||
            info.isAbilityEnabled ability userId).map fun ability =>
              { ability with enabled := info.isAbilityEnabled ability userId } }
  else bundleInfo

def getBundleWithExtension (flags : Int32) (bundleInfo : BundleInfo) :
    BundleInfo :=
  if hasFlag flags BundleFlag.getBundleWithExtensionInfo then
    { bundleInfo with
      extensionInfos := bundleInfo.extensionInfos ++
        info.baseExtensionInfos.values.filter (·.enabled) }
  else bundleInfo

/-- The bundle information for a user, written over `bundleInfo`. -/
def getBundleInfo
    (getAllReqPermissionStateFull : UInt32 → Option (List PermissionStateFull))
    (flags : Int32) (bundleInfo : BundleInfo) (userId : Int32) : BundleInfo :=
  match info.getInnerBundleUserInfo userId with
  | none => bundleInfo
  | some user =>
      let base := { info.baseBundleInfo with
        uid := user.uid
        gid := user.gids.head?.getD info.baseBundleInfo.gid
        installTime := user.installTime
        updateTime := user.updateTime
        applicationInfo := info.getApplicationInfo
          ApplicationFlag.getBasicApplicationInfo userId
          info.baseBundleInfo.applicationInfo }
      let withModules := info.innerModuleInfos.values.foldl
        (info.addModuleToBundle flags userId) base
      info.getBundleWithExtension flags
        (info.getBundleWithAbilities flags
          (info.getBundleWithReqPermissions getAllReqPermissionStateFull flags
            withModules) userId)

end BundleInfo

end InnerBundleInfo

end AppExecFwk
