import AppExecFwk.Codec.DecodeEnds
import AppExecFwk.Codec.StoredEntries

/-!
# On which documents the records are decoded

Most records throw on no document.  The others hold maps, lists of lists or
records that are read with `at`; what can be decoded is read off the tables of
their members.
-/

namespace AppExecFwk

section Own

variable {code : ErrCode}

instance : PreservesAll (HereIs code) CustomizeData.fromJson :=
  ⟨fun _ => Preserves.withLocal_here⟩

instance : PreservesAll (HereIs code) MetaData.fromJson :=
  ⟨fun _ => Preserves.withLocal_here⟩

instance : PreservesAll (HereIs code) Metadata.fromJson :=
  ⟨fun _ => Preserves.withLocal_here⟩

instance : PreservesAll (HereIs code) ModuleInfo.fromJson :=
  ⟨fun _ => Preserves.withLocal_here⟩

instance : PreservesAll (HereIs code) ApplicationInfo.fromJson :=
  ⟨fun _ => Preserves.withLocal_here⟩

instance : PreservesAll (HereIs code) AbilityInfo.fromJson :=
  ⟨fun _ => Preserves.withLocal_here⟩

instance : PreservesAll (HereIs code) ExtensionAbilityInfo.fromJson :=
  ⟨fun _ => Preserves.withLocal_here⟩

instance : PreservesAll (HereIs code) RequestPermission.fromJson :=
  ⟨fun _ => Preserves.withLocal_here⟩

instance : PreservesAll (HereIs code) HapModuleInfo.fromJson :=
  ⟨fun _ => Preserves.withLocal_here⟩

instance : PreservesAll (HereIs code) DefinePermission.fromJson :=
  ⟨fun _ => Preserves.withLocal_here⟩

instance : PreservesAll (HereIs code) BundlePackInfo.fromJson :=
  ⟨fun _ => Preserves.withLocal_here⟩

instance : PreservesAll (HereIs code) InnerModuleInfo.fromJson :=
  ⟨fun _ => Preserves.withLocal_here⟩

end Own

/-! ## Records that throw on no document -/

instance : NeverThrows CustomizeData.fromJson where
  ends json results := by
    refine ends_withLocal_iff.mpr ?_
    repeat refine ends_read_quiet (fun _ _ => ?_) _
    exact ends_pure _ _

instance : NeverThrows MetaData.fromJson where
  ends json results := by
    refine ends_withLocal_iff.mpr ?_
    repeat refine ends_read_quiet (fun _ _ => ?_) _
    exact ends_pure _ _

instance : NeverThrows Metadata.fromJson where
  ends json results := by
    refine ends_withLocal_iff.mpr ?_
    repeat refine ends_read_quiet (fun _ _ => ?_) _
    exact ends_pure _ _

instance : NeverThrows ModuleInfo.fromJson where
  ends json results := by
    refine ends_withLocal_iff.mpr ?_
    repeat refine ends_read_quiet (fun _ _ => ?_) _
    exact ends_pure _ _

instance : NeverThrows RequestPermissionUsedScene.fromJson where
  ends json results := by
    refine ends_withLocal_iff.mpr ?_
    repeat refine ends_read_quiet (fun _ _ => ?_) _
    exact ends_pure _ _

instance : NeverThrows RequestPermission.fromJson where
  ends json results := by
    refine ends_withLocal_iff.mpr ?_
    repeat refine ends_read_quiet (fun _ _ => ?_) _
    exact ends_pure _ _

instance : NeverThrows BundleUserInfo.fromJson where
  ends json results := by
    refine ends_withLocal_iff.mpr ?_
    repeat refine ends_read_quiet (fun _ _ => ?_) _
    exact ends_pure _ _

instance : NeverThrows InnerBundleUserInfo.fromJson where
  ends json results := by
    refine ends_withLocal_iff.mpr ?_
    repeat refine ends_read_quiet (fun _ _ => ?_) _
    exact ends_pure _ _

instance : NeverThrows DefinePermission.fromJson where
  ends json results := by
    refine ends_withLocal_iff.mpr ?_
    repeat refine ends_read_quiet (fun _ _ => ?_) _
    exact ends_pure _ _

instance : NeverThrows ShortcutIntent.fromJson where
  ends json results := by
    refine ends_withLocal_iff.mpr ?_
    repeat refine ends_read_quiet (fun _ _ => ?_) _
    exact ends_pure _ _

instance : NeverThrows ShortcutInfo.fromJson where
  ends json results := by
    refine ends_withLocal_iff.mpr ?_
    repeat refine ends_read_quiet (fun _ _ => ?_) _
    exact ends_pure _ _

instance : NeverThrows Version.fromJson where
  ends json results := by
    refine ends_withLocal_iff.mpr ?_
    repeat refine ends_read_quiet (fun _ _ => ?_) _
    exact ends_pure _ _

instance : NeverThrows PackageApp.fromJson where
  ends json results := by
    refine ends_withLocal_iff.mpr ?_
    repeat refine ends_read_quiet (fun _ _ => ?_) _
    exact ends_pure _ _

instance : NeverThrows AbilityFormInfo.fromJson where
  ends json results := by
    refine ends_withLocal_iff.mpr ?_
    repeat refine ends_read_quiet (fun _ _ => ?_) _
    exact ends_pure _ _

instance : NeverThrows ExtensionAbilities.fromJson where
  ends json results := by
    refine ends_withLocal_iff.mpr ?_
    repeat refine ends_read_quiet (fun _ _ => ?_) _
    exact ends_pure _ _

instance : NeverThrows ModuleAbilityInfo.fromJson where
  ends json results := by
    refine ends_withLocal_iff.mpr ?_
    repeat refine ends_read_quiet (fun _ _ => ?_) _
    exact ends_pure _ _

instance : NeverThrows ModuleDistro.fromJson where
  ends json results := by
    refine ends_withLocal_iff.mpr ?_
    repeat refine ends_read_quiet (fun _ _ => ?_) _
    exact ends_pure _ _

instance : NeverThrows ApiVersion.fromJson where
  ends json results := by
    refine ends_withLocal_iff.mpr ?_
    repeat refine ends_read_quiet (fun _ _ => ?_) _
    exact ends_pure _ _

instance : NeverThrows PackageModule.fromJson where
  ends json results := by
    refine ends_withLocal_iff.mpr ?_
    repeat refine ends_read_quiet (fun _ _ => ?_) _
    exact ends_pure _ _

instance : NeverThrows Summary.fromJson where
  ends json results := by
    refine ends_withLocal_iff.mpr ?_
    repeat refine ends_read_quiet (fun _ _ => ?_) _
    exact ends_pure _ _

instance : NeverThrows Packages.fromJson where
  ends json results := by
    refine ends_withLocal_iff.mpr ?_
    repeat refine ends_read_quiet (fun _ _ => ?_) _
    exact ends_pure _ _

instance : NeverThrows BundlePackInfo.fromJson where
  ends json results := by
    refine ends_withLocal_iff.mpr ?_
    repeat refine ends_read_quiet (fun _ _ => ?_) _
    exact ends_pure _ _

instance : NeverThrows Distro.fromJson where
  ends json results := by
    repeat refine ends_read_quiet (fun _ _ => ?_) _
    exact ends_pure _ _

instance : NeverThrows SkillUri.fromJson where
  ends json results := by
    repeat refine ends_read_quiet (fun _ _ => ?_) _
    exact ends_pure _ _

instance : NeverThrows Skill.fromJson where
  ends json results := by
    repeat refine ends_read_quiet (fun _ _ => ?_) _
    exact ends_pure _ _

instance : NeverThrows InstallMark.fromJson where
  ends json results := by
    repeat refine ends_read_quiet (fun _ _ => ?_) _
    exact ends_pure _ _

instance : NeverThrows SandboxAppPersistentInfo.fromJson where
  ends json results := by
    repeat refine ends_read_quiet (fun _ _ => ?_) _
    exact ends_pure _ _

/-! ## Records with members that can throw -/

def ApplicationInfo.members : List RecordMember :=
  [.text "name", .text "bundleName", .number "versionCode",
   .text "versionName", .number "minCompatibleVersionCode",
   .number "apiCompatibleVersion", .number "apiTargetVersion",
   .text "iconPath", .number "iconId", .text "label", .number "labelId",
   .text "description", .number "descriptionId", .flag "keepAlive",
   .flag "removable", .flag "singleton", .flag "userDataClearable",
   .flag "accessible", .flag "isSystemApp", .flag "isLauncherApp",
   .flag "isFreeInstallApp", .text "codePath", .text "dataDir",
   .text "dataBaseDir", .text "cacheDir", .text "entryDir",
   .text "apiReleaseType", .flag "debug", .text "deviceId",
   .flag "distributedNotificationEnabled", .text "entityType", .text "process",
   .number "supportedModes", .text "vendor", .text "appPrivilegeLevel",
   .number "accessTokenId", .flag "enabled", .number "uid",
   .texts "permissions", .texts "moduleSourceDirs", .objects "moduleInfos",
   .map "metaData" (arrayOf fun _ => true),
   .map "metadata" (arrayOf fun _ => true), .flag "isCloned",
   .text "fingerprint", .text "icon", .number "flags", .text "entryModuleName",
   .text "nativeLibraryPath", .text "cpuAbi", .flag "isCompressNativeLibs",
   .text "signatureKey", .texts "targetBundleList"]

def ApplicationInfo.isDecodable (json : Json) : Bool :=
  membersFit json ApplicationInfo.members

instance : EndsIff ApplicationInfo.fromJson ApplicationInfo.isDecodable where
  ends_iff json results := by
    refine EndsOn.ends_withLocal_iff ?_ results
    repeat refine EndsOn.here rfl rfl fun _ => ?_
    exact EndsOn.of_ends fun results => iff_of_true (ends_pure _ results) rfl

def AbilityInfo.members : List RecordMember :=
  [.text "name", .text "label", .text "description", .text "iconPath",
   .number "labelId", .number "descriptionId", .number "iconId", .text "theme",
   .flag "visible", .text "kind", .integer "type",
   .integer "extensionAbilityType", .integer "orientation",
   .integer "launchMode", .text "srcPath", .text "srcLanguage",
   .texts "permissions", .text "process", .texts "deviceTypes",
   .texts "deviceCapabilities", .text "uri", .text "targetAbility",
   .object "applicationInfo" ApplicationInfo.isDecodable,
   .flag "isLauncherAbility", .flag "isNativeAbility", .flag "enabled",
   .flag "supportPipMode", .flag "formEnabled", .text "readPermission",
   .text "writePermission", .texts "configChanges", .number "formEntity",
   .number "minFormHeight", .number "defaultFormHeight",
   .number "minFormWidth", .number "defaultFormWidth", .object "metaData",
   .number "backgroundModes", .text "package", .text "bundleName",
   .text "moduleName", .text "applicationName", .text "codePath",
   .text "resourcePath", .text "srcEntrance", .objects "metadata",
   .flag "isModuleJson", .flag "isStageBasedModel", .flag "continuable",
   .number "priority", .text "startWindowIcon", .number "startWindowIconId",
   .text "startWindowBackground", .number "startWindowBackgroundId",
   .flag "removeMissionAfterTerminate"]

def AbilityInfo.isDecodable (json : Json) : Bool :=
  membersFit json AbilityInfo.members

instance : EndsIff AbilityInfo.fromJson AbilityInfo.isDecodable where
  ends_iff json results := by
    refine EndsOn.ends_withLocal_iff ?_ results
    repeat refine EndsOn.here rfl rfl fun _ => ?_
    exact EndsOn.of_ends fun results => iff_of_true (ends_pure _ results) rfl

def ExtensionAbilityInfo.members : List RecordMember :=
  [.text "bundleName", .text "moduleName", .text "name", .text "srcEntrance",
   .text "icon", .number "iconId", .text "label", .number "labelId",
   .text "description", .number "descriptionId", .number "priority",
   .integer "type", .text "readPermission", .text "writePermission",
   .text "uri", .texts "permissions", .flag "visible", .objects "metadata",
   .object "applicationInfo" ApplicationInfo.isDecodable, .text "resourcePath",
   .flag "enabled", .text "process"]

def ExtensionAbilityInfo.isDecodable (json : Json) : Bool :=
  membersFit json ExtensionAbilityInfo.members

instance : EndsIff ExtensionAbilityInfo.fromJson ExtensionAbilityInfo.isDecodable where
  ends_iff json results := by
    refine EndsOn.ends_withLocal_iff ?_ results
    repeat refine EndsOn.here rfl rfl fun _ => ?_
    exact EndsOn.of_ends fun results => iff_of_true (ends_pure _ results) rfl

def HapModuleInfo.members : List RecordMember :=
  [.text "name", .text "moduleName", .text "description",
   .number "descriptionId", .text "iconPath", .text "label", .number "labelId",
   .text "backgroundImg", .text "mainAbility", .text "srcPath",
   .text "hashValue", .text "hapPath", .number "supportedModes",
   .texts "reqCapabilities", .texts "deviceTypes",
   .objects "abilityInfos" AbilityInfo.isDecodable, .integer "colorMode",
   .text "bundleName", .text "mainElementName", .text "pages", .text "process",
   .text "resourcePath", .text "srcEntrance", .text "uiSyntax",
   .text "virtualMachine", .flag "deliveryWithInstall",
   .flag "installationFree", .flag "isModuleJson", .flag "isStageBasedModel",
   .map "isRemovable" Json.isBoolean, .number "upgradeFlag",
   .integer "moduleType",
   .objects "extensionInfos" ExtensionAbilityInfo.isDecodable,
   .objects "metadata", .texts "dependencies"]

def HapModuleInfo.isDecodable (json : Json) : Bool :=
  membersFit json HapModuleInfo.members

instance : EndsIff HapModuleInfo.fromJson HapModuleInfo.isDecodable where
  ends_iff json results := by
    refine EndsOn.ends_withLocal_iff ?_ results
    repeat refine EndsOn.here rfl rfl fun _ => ?_
    exact EndsOn.of_ends fun results => iff_of_true (ends_pure _ results) rfl

def BundleInfo.members : List RecordMember :=
  [.text "name", .text "label", .text "description", .text "vendor",
   .flag "isKeepAlive", .flag "isNativeApp", .flag "isPreInstallApp",
   .flag "isDifferentName",
   .object "applicationInfo" ApplicationInfo.isDecodable,
   .objects "abilityInfos" AbilityInfo.isDecodable,
   .objects "hapModuleInfos" HapModuleInfo.isDecodable, .number "versionCode",
   .number "minCompatibleVersionCode", .text "versionName",
   .text "jointUserId", .number "minSdkVersion", .number "maxSdkVersion",
   .text "mainEntry", .text "cpuAbi", .text "appId",
   .number "compatibleVersion", .number "targetVersion", .text "releaseType",
   .number "uid", .number "gid", .text "seInfo", .integer "installTime",
   .integer "updateTime", .text "entryModuleName",
   .flag "entryInstallationFree", .texts "reqPermissions",
   .numbers "reqPermissionStates", .objects "reqPermissionDetails",
   .texts "defPermissions", .texts "hapModuleNames", .texts "moduleNames",
   .texts "modulePublicDirs", .texts "moduleDirs", .texts "moduleResPaths",
   .flag "singleton",
   .objects "extensionAbilityInfo" ExtensionAbilityInfo.isDecodable]

def BundleInfo.isDecodable (json : Json) : Bool :=
  membersFit json BundleInfo.members

instance : EndsIff BundleInfo.fromJson BundleInfo.isDecodable where
  ends_iff json results := by
    refine EndsOn.ends_withLocal_iff ?_ results
    repeat refine EndsOn.here rfl rfl fun _ => ?_
    exact EndsOn.of_ends fun results => iff_of_true (ends_pure _ results) rfl

/-! ## Records that are read with `at` -/

def FormCustomizeData.isDecodable (json : Json) : Bool :=
  strictFit json [("name", Json.isString), ("value", Json.isString)]

instance :
    EndsIff FormCustomizeData.fromJson FormCustomizeData.isDecodable where
  ends_iff json results := by
    revert results
    repeat refine ends_strict (fun _ => ?_)
    exact fun results => iff_of_true (ends_pure _ results) rfl

def FormWindow.isDecodable (json : Json) : Bool :=
  strictFit json
    [("designWidth", isArithmetic), ("autoDesignWidth", Json.isBoolean)]

instance : EndsIff FormWindow.fromJson FormWindow.isDecodable where
  ends_iff json results := by
    revert results
    repeat refine ends_strict (fun _ => ?_)
    exact fun results => iff_of_true (ends_pure _ results) rfl

def FormInfo.isDecodable (json : Json) : Bool :=
  strictFit json
    [("bundleName", Json.isString), ("package", Json.isString),
     ("moduleName", Json.isString), ("abilityName", Json.isString),
     ("name", Json.isString), ("description", Json.isString),
     ("relatedBundleName", Json.isString), ("jsComponentName", Json.isString),
     ("deepLink", Json.isString), ("formConfigAbility", Json.isString),
     ("scheduledUpdateTime", Json.isString), ("src", Json.isString),
     ("originalBundleName", Json.isString), ("descriptionId", isArithmetic),
     ("updateDuration", isArithmetic), ("defaultDimension", isArithmetic),
     ("defaultFlag", Json.isBoolean), ("formVisibleNotify", Json.isBoolean),
     ("updateEnabled", Json.isBoolean), ("type", Json.isNumber),
     ("colorMode", Json.isNumber),
     ("supportDimensions", arrayOf isArithmetic),
     ("customizeData", arrayOf FormCustomizeData.isDecodable),
     ("landscapeLayouts", arrayOf Json.isString),
     ("portraitLayouts", arrayOf Json.isString),
     ("window", FormWindow.isDecodable)]

instance : EndsIff FormInfo.fromJson FormInfo.isDecodable where
  ends_iff json results := by
    revert results
    repeat refine ends_strict (fun _ => ?_)
    exact fun results => iff_of_true (ends_pure _ results) rfl

def CommonEventInfo.isDecodable (json : Json) : Bool :=
  strictFit json
    [("name", Json.isString), ("bundleName", Json.isString),
     ("uid", isArithmetic), ("permission", Json.isString),
     ("data", arrayOf Json.isString), ("type", arrayOf Json.isString),
     ("events", arrayOf Json.isString)]

instance : EndsIff CommonEventInfo.fromJson CommonEventInfo.isDecodable where
  ends_iff json results := by
    revert results
    repeat refine ends_strict (fun _ => ?_)
    exact fun results => iff_of_true (ends_pure _ results) rfl

/-! ## Records that are read through the shared variable -/

def Distro.members : List RecordMember :=
  [.flag "deliveryWithInstall" true, .text "moduleName" true,
   .text "moduleType" true, .flag "installationFree"].map .shared

/-- Every member is there and has its type. -/
def Distro.isClean (json : Json) : Bool :=
  leavesClean json members true

instance : LeavesReader Distro.fromJson Distro.isClean :=
  Leaves.leavesReader fun json => by
    repeat refine Leaves.shared rfl rfl fun _ => ?_
    exact Leaves.pure _

def SkillUri.members : List RecordMember :=
  [.text "scheme", .text "host", .text "port", .text "path",
   .text "pathStartWith", .text "pathRegx", .text "pathRegex",
   .text "type"].map .shared

def SkillUri.isClean (json : Json) : Bool :=
  leavesClean json members true

instance : LeavesReader SkillUri.fromJson SkillUri.isClean :=
  Leaves.leavesReader fun json => by
    repeat refine Leaves.shared rfl rfl fun _ => ?_
    exact Leaves.pure _

def Skill.members : List RecordMember :=
  [.texts "actions", .texts "entities",
   { RecordMember.objects "uris" with clean := arrayOf SkillUri.isClean }].map
     .shared

def Skill.isClean (json : Json) : Bool :=
  leavesClean json members true

instance : LeavesReader Skill.fromJson Skill.isClean :=
  Leaves.leavesReader fun json => by
    repeat refine Leaves.shared rfl rfl fun _ => ?_
    exact Leaves.pure _

def SandboxAppPersistentInfo.members : List RecordMember :=
  [.number "accessTokenId", .number "appIndex", .number "userId"].map .shared

def SandboxAppPersistentInfo.isClean (json : Json) : Bool :=
  leavesClean json members true

instance : LeavesReader SandboxAppPersistentInfo.fromJson
    SandboxAppPersistentInfo.isClean :=
  Leaves.leavesReader fun json => by
    repeat refine Leaves.shared rfl rfl fun _ => ?_
    exact Leaves.pure _

def InstallMark.members : List RecordMember :=
  [.text "installMarkBundle", .text "installMarkPackage",
   .number "installMarkStatus"].map .shared

def InstallMark.isClean (json : Json) : Bool :=
  leavesClean json members true

instance : LeavesReader InstallMark.fromJson InstallMark.isClean :=
  Leaves.leavesReader fun json => by
    repeat refine Leaves.shared rfl rfl fun _ => ?_
    exact Leaves.pure _

/-- The scope is read through the shared variable, everything else through the
record's own. -/
def DefinePermission.members : List RecordMember :=
  [.text "name", .text "grantMode", .text "availableLevel",
   (RecordMember.texts "availableScope").shared, .flag "provisionEnable",
   .flag "distributedSceneEnable", .text "label", .number "labelId",
   .text "description", .number "descriptionId"]

def DefinePermission.isClean (json : Json) : Bool :=
  leavesClean json members true

instance :
    LeavesReader DefinePermission.fromJson DefinePermission.isClean where
  leaves json results value after decoded := by
    refine Leaves.withLocal ?_ decoded
    repeat
      first
        | refine Leaves.own rfl rfl fun _ => ?_
        | refine Leaves.shared rfl rfl fun _ => ?_
    exact Leaves.pure _

/-- The members of a module up to the first one that is read through a variable
of the record's own. -/
def InnerModuleInfo.sharedMembers : List RecordMember :=
  [.text "modulePackage", .text "moduleName", .text "modulePath",
   .text "moduleDataDir", .text "hapPath", .text "moduleResPath",
   .flag "isEntry", .object "metaData", .integer "colorMode",
   { RecordMember.object "distro" with clean := Distro.isClean },
   .text "description", .number "descriptionId", .text "label",
   .number "labelId", .text "mainAbility", .text "entryAbilityKey",
   .text "srcPath", .text "hashValue", .flag "installationFree",
   .map "isRemovable" Json.isBoolean, .number "upgradeFlag",
   .texts "reqCapabilities", .texts "abilityKeys", .texts "skillKeys"].map .shared

/-- The other members are read through both variables. -/
def InnerModuleInfo.lastMembers : List RecordMember :=
  [.text "process", .text "srcEntrance", .texts "deviceTypes",
   .text "virtualMachine", .text "uiSyntax", .text "pages",
   .objects "metadata", .objects "requestPermissions",
   { RecordMember.objects "definePermissions" with
       clean := arrayOf DefinePermission.isClean },
   { RecordMember.objects "defPermissions" with
       isOwn := false
       clean := arrayOf DefinePermission.isClean },
   .texts "extensionKeys", .texts "extensionSkillKeys", .flag "isModuleJson",
   .flag "isStageBasedModel", (RecordMember.texts "dependencies").shared]

def InnerModuleInfo.isDecodable (json : Json) : Bool :=
  membersFit json sharedMembers

def InnerModuleInfo.isClean (json : Json) : Bool :=
  leavesClean json (sharedMembers ++ lastMembers) true

theorem InnerModuleInfo.endsOn_shared (json : Json) :
    EndsOn .reader json sharedMembers true (fromJson json) := by
  refine EndsOn.withLocal_reader ?_
  iterate 24 refine EndsOn.reader rfl rfl rfl fun _ => ?_
  refine EndsOn.of_ends fun results => iff_of_true ?_ rfl
  revert results
  iterate 15 refine ends_read_quiet fun _ => ?_
  exact ends_pure _

instance :
    EndsShared InnerModuleInfo.fromJson InnerModuleInfo.isDecodable where
  blocked json results dirty :=
    ((InnerModuleInfo.endsOn_shared json).blocked results dirty).mpr rfl
  unblocked json results isOk := by
    rw [(InnerModuleInfo.endsOn_shared json).unblocked results isOk]
    simp [InnerModuleInfo.isDecodable]

instance : LeavesReader InnerModuleInfo.fromJson InnerModuleInfo.isClean where
  leaves json results value after decoded := by
    refine Leaves.withLocal ?_ decoded
    iterate 39
      first
        | refine Leaves.own rfl rfl fun _ => ?_
        | refine Leaves.shared rfl rfl fun _ => ?_
    exact Leaves.pure _

/-! ## The stored record -/

/-- The members that are read before the shared variable is reset. -/
def InnerBundleInfo.sharedMembers : List RecordMember :=
  [.integer "appType" true, .number "uid", .number "gid", .texts "allowedAcls",
   .text "baseDataDir" true, .integer "bundleStatus" true,
   .object "baseBundleInfo" BundleInfo.isDecodable true,
   .object "baseApplicationInfo" ApplicationInfo.isDecodable true,
   .map "baseAbilityInfos" AbilityInfo.isDecodable true,
   { RecordMember.map "innerModuleInfos" (fun _ => true) true with
       fits := objectInTurn InnerModuleInfo.isDecodable InnerModuleInfo.isClean
       clean := objectOf InnerModuleInfo.isClean },
   { RecordMember.map "skillInfos" (arrayOf fun _ => true) true with
       clean := objectOf (arrayOf Skill.isClean) },
   .number "userId_" true, .text "appFeature" true,
   .map "formInfos" (arrayOf FormInfo.isDecodable) true,
   .map "shortcutInfos" (fun _ => true) true,
   .map "commonEvents" CommonEventInfo.isDecodable true,
   .text "newBundleName" true,
   { RecordMember.object "installMark" with clean := InstallMark.isClean }].map .shared

/-- The members that are read through a variable of the function's own. -/
def InnerBundleInfo.ownMembers : List RecordMember :=
  [.flag "isNewVersion", .number "upgradeFlag",
   .map "baseExtensionInfos" ExtensionAbilityInfo.isDecodable,
   { RecordMember.map "extensionSkillInfos" (arrayOf fun _ => true) with
       clean := objectOf (arrayOf Skill.isClean) },
   .object "bundlePackInfo"]

/-- The members that are read through the shared variable after its reset. -/
def InnerBundleInfo.lastMembers : List RecordMember :=
  [.number "appIndex", .flag "isSandboxApp",
   { RecordMember.objects "sandboxPersistentInfo" with
      clean := arrayOf SandboxAppPersistentInfo.isClean }].map .shared

/-- The decode leaves no error behind for the decode that follows. -/
def InnerBundleInfo.isClean (json : Json) : Bool :=
  leavesClean json ownMembers true && leavesClean json lastMembers true

theorem InnerBundleInfo.endsOn_shared (json : Json) :
    EndsOn .reader json sharedMembers (membersFit json ownMembers)
      (fromJson json) := by
  iterate 9 refine EndsOn.reader rfl rfl rfl fun _ => ?_
  refine EndsOn.reader_map rfl rfl rfl fun _ => ?_
  iterate 8 refine EndsOn.reader rfl rfl rfl fun _ => ?_
  refine EndsOn.of_ends fun results => ?_
  refine ends_bind_of_first ?users fun _ between => ?_
  case users => exact ends_withResult_iff.mpr (ends_read _)
  refine ends_bind_of_first ⟨_, _, rfl⟩ fun _ afterReset => ?_
  rw [ends_bind_of_next ?last]
  case last =>
    rintro ⟨parseResult, info⟩ after -
    revert after
    iterate 3 refine ends_read_quiet fun _ => ?_
    exact ends_pure _
  refine EndsOn.ends_withResult_iff ?_ afterReset
  iterate 5 refine EndsOn.here rfl rfl fun _ => ?_
  exact EndsOn.of_ends fun results => iff_of_true (ends_pure _ results) rfl

/-- What a decode that ends leaves in the shared variable does not depend on
what it found there. -/
theorem InnerBundleInfo.leaves_iff {json : Json} {results after : ParseResults}
    {value : ErrCode × InnerBundleInfo}
    (decoded : fromJson json results = (.ok value, after)) :
    after.reader = ErrCode.ok ↔ isClean json = true := by
  suffices established : Establishes
      (fun after => after.reader = ErrCode.ok ↔ isClean json = true)
        (fromJson json) from established results value after decoded
  -- everything before the reset is overwritten by it
  iterate 19 refine Establishes.bind fun _ => ?_
  intro results value after ended
  obtain ⟨ret, between, taken, continued⟩ := bind_eq_ok ended
  cases taken
  obtain ⟨own, ownAfter, ownEnded, lastEnded⟩ := bind_eq_ok continued
  have ownLeft : ownAfter.reader = ErrCode.ok ↔
      leavesClean json ownMembers true = true := by
    refine (Leaves.withResult ?_ ownEnded).trans (and_iff_right rfl)
    iterate 5 refine Leaves.own rfl rfl fun _ => ?_
    exact Leaves.pure _
  have lastLeft : after.reader = ErrCode.ok ↔
      ownAfter.reader = ErrCode.ok ∧
        leavesClean json lastMembers true = true := by
    refine Leaves.of_shared ?_ lastEnded
    iterate 3 refine Leaves.shared rfl rfl fun _ => ?_
    exact Leaves.pure _
  rw [lastLeft, ownLeft, isClean, Bool.and_eq_true]

/-! ## Loading the stored entries -/

/-- Every entry can be decoded in its turn: what an entry leaves in the shared
variable keeps the members of the next one from being read. -/
def entriesFit : List Entry → Bool → Bool
  | [], _ => true
  | entry :: rest, clean =>
      match entry.value with
      | none => entriesFit rest clean
      | some json =>
          (!clean || membersFit json InnerBundleInfo.sharedMembers) &&
            membersFit json InnerBundleInfo.ownMembers &&
            entriesFit rest (InnerBundleInfo.isClean json)

theorem InnerBundleInfo.ends_iff (json : Json) (results : ParseResults) :
    Ends (fromJson json) results ↔
      (results.reader = ErrCode.ok → membersFit json sharedMembers = true) ∧
        membersFit json ownMembers = true := by
  by_cases isOk : results.reader = ErrCode.ok
  · rw [(endsOn_shared json).unblocked results isOk]
    simp [isOk]
  · rw [(endsOn_shared json).blocked results isOk]
    simp [isOk]

theorem ends_saveEntry_iff {entry : Entry} {json : Json}
    (stored : entry.value = some json) {results : ParseResults} :
    Ends (saveEntry entry) results ↔
      Ends (InnerBundleInfo.fromJson json) results := by
  simp only [saveEntry, stored]
  refine ends_bind_of_next fun decoded after _ => ?_
  obtain ⟨result, innerBundleInfo⟩ := decoded
  dsimp only
  split <;> exact ends_pure _ _

theorem leaves_saveEntry {entry : Entry} {json : Json}
    (stored : entry.value = some json) {results after : ParseResults}
    {value : Option InnerBundleInfo}
    (ended : saveEntry entry results = (.ok value, after)) :
    after.reader = ErrCode.ok ↔ InnerBundleInfo.isClean json = true := by
  simp only [saveEntry, stored] at ended
  obtain ⟨⟨result, innerBundleInfo⟩, between, decoded, done⟩ :=
    bind_eq_ok ended
  rw [← InnerBundleInfo.leaves_iff decoded]
  dsimp only at done
  split at done <;> cases done <;> rfl

theorem ends_saveEntries_iff (allEntries : List Entry) (results : ParseResults)
    (clean : Bool) (state : results.reader = ErrCode.ok ↔ clean = true) :
    Ends (saveEntries allEntries) results ↔
      entriesFit allEntries clean = true := by
  induction allEntries generalizing results clean with
  | nil => exact iff_of_true (ends_pure [] results) rfl
  | cons entry rest ih =>
      change Ends (saveEntry entry >>= fun value =>
        saveEntries rest >>= fun values => pure (value :: values)) results ↔ _
      have tail (value : Option InnerBundleInfo) (after : ParseResults)
          (clean : Bool) (state : after.reader = ErrCode.ok ↔ clean = true) :
          Ends (saveEntries rest >>= fun values => pure (value :: values))
            after ↔ entriesFit rest clean = true := by
        rw [ends_bind_of_next fun _ _ _ => ends_pure _ _]
        exact ih after clean state
      unfold entriesFit
      cases stored : entry.value with
      | none =>
          have skipped : saveEntry entry results = (.ok none, results) := by
            simp only [saveEntry, stored]
            rfl
          unfold Ends
          rw [Decoder.bind_apply_of_ok skipped]
          exact tail none results clean state
      | some json =>
          dsimp only
          rw [Bool.and_eq_true, Bool.and_eq_true]
          have decodes : Ends (saveEntry entry) results ↔
              (!clean || membersFit json InnerBundleInfo.sharedMembers) =
                  true ∧
                membersFit json InnerBundleInfo.ownMembers = true := by
            rw [ends_saveEntry_iff stored, InnerBundleInfo.ends_iff, state]
            cases clean <;> simp
          rw [← decodes, ends_bind_iff]
          constructor
          · rintro ⟨value, after, decoded, others⟩
            have left := leaves_saveEntry stored decoded
            exact ⟨⟨value, after, decoded⟩, (tail value after _ left).mp others⟩
          · rintro ⟨⟨value, after, decoded⟩, others⟩
            have left := leaves_saveEntry stored decoded
            exact ⟨value, after, decoded, (tail value after _ left).mpr others⟩

/-- For every document the decoders end without an exception exactly if all
that they come to can be converted; so does the loading of the entries. -/
theorem recordDecoders_end_iff (json : Json) (allEntries : List Entry)
    (results : ParseResults) :
    (Ends (ApplicationInfo.fromJson json) results ↔
      ApplicationInfo.isDecodable json = true) ∧
    (Ends (AbilityInfo.fromJson json) results ↔
      AbilityInfo.isDecodable json = true) ∧
    (Ends (ExtensionAbilityInfo.fromJson json) results ↔
      ExtensionAbilityInfo.isDecodable json = true) ∧
    (Ends (HapModuleInfo.fromJson json) results ↔
      HapModuleInfo.isDecodable json = true) ∧
    (Ends (BundleInfo.fromJson json) results ↔
      BundleInfo.isDecodable json = true) ∧
    (Ends (FormInfo.fromJson json) results ↔
      FormInfo.isDecodable json = true) ∧
    (Ends (CommonEventInfo.fromJson json) results ↔
      CommonEventInfo.isDecodable json = true) ∧
    Ends (ShortcutInfo.fromJson json) results ∧
    (Ends (InnerBundleInfo.fromJson json) results ↔
      (results.reader = ErrCode.ok →
        membersFit json InnerBundleInfo.sharedMembers = true) ∧
      membersFit json InnerBundleInfo.ownMembers = true) ∧
    (Ends (saveEntries allEntries) results ↔
      entriesFit allEntries (decide (results.reader = ErrCode.ok)) = true) :=
  ⟨EndsIff.ends_iff json results, EndsIff.ends_iff json results,
    EndsIff.ends_iff json results, EndsIff.ends_iff json results,
    EndsIff.ends_iff json results, EndsIff.ends_iff json results,
    EndsIff.ends_iff json results, NeverThrows.ends json results,
    InnerBundleInfo.ends_iff json results,
    ends_saveEntries_iff allEntries results _ (by simp)⟩

/-- A stored record whose common event lacks a member. -/
def oddRecord : Json :=
  .object [
    ("appType", .integer 1),
    ("baseDataDir", .string "/data/app"),
    ("bundleStatus", .integer 1),
    ("baseBundleInfo", .object []),
    ("baseApplicationInfo", .object []),
    ("baseAbilityInfos", .object []),
    ("innerModuleInfos", .object []),
    ("skillInfos", .object []),
    ("userId_", .integer 100),
    ("appFeature", .string "ohos_system_app"),
    ("formInfos", .object []),
    ("shortcutInfos", .object []),
    ("commonEvents", .object [
      ("com.example.clock.alarm", .object [("name", .string "alarm")])]),
    ("newBundleName", .string "com.example.clock")]

/-- The decode of the record throws, and no entry after it is loaded. -/
theorem oddRecord_throws :
    ¬Ends (InnerBundleInfo.fromJson oddRecord) {} ∧
      ∀ others, ¬Ends (saveEntries
        (⟨"com.example.clock", some oddRecord⟩ :: others)) {} := by
  have unfit : membersFit oddRecord InnerBundleInfo.sharedMembers = false := by
    decide +kernel
  refine ⟨fun ends => ?_, fun others ends => ?_⟩
  · have fit := ((InnerBundleInfo.ends_iff _ _).mp ends).1 rfl
    exact absurd (fit.symm.trans unfit) (by decide)
  · have fit := (ends_saveEntries_iff _ _ true (by simp)).mp ends
    simp [entriesFit, unfit] at fit

end AppExecFwk
