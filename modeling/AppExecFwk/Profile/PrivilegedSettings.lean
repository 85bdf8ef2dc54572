import AppExecFwk.Profile.BundleConversion
import AppExecFwk.Profile.ModuleConversion
import AppExecFwk.Profile.PrivilegedKeys

/-!
# Privileged settings of ordinary applications

An application that is not both a system application and preinstalled gets none
of the privileged settings of its profile: the conversion of its profile is that
of the profile without them.  The one exception is `config.json`, from which the
permissions that a module defines are copied for every application.
-/

namespace AppExecFwk

/-- Neither conversion gives the application a privileged setting. -/
def InnerBundleInfo.IsOrdinary (info : InnerBundleInfo) : Prop :=
  (decide (info.appType = .systemApp) && info.isPreInstallApp) = false

namespace ModuleProfile

open Profile

variable {platform : Platform} {isPreInstallApp : Bool}

theorem isSystemApp_adaptToDevice (deviceConfig : DeviceConfig)
    (applicationInfo : ApplicationInfo) :
    (adaptToDevice deviceConfig isPreInstallApp applicationInfo).isSystemApp =
      applicationInfo.isSystemApp := by
  unfold adaptToDevice
  dsimp only
  split <;> rfl

theorem isSystemApp_toApplicationInfo (app : App)
    (applicationInfo : ApplicationInfo) :
    (toApplicationInfo platform app applicationInfo
      isPreInstallApp).isSystemApp = applicationInfo.isSystemApp := by
  unfold toApplicationInfo
  cases app.deviceConfigs[platform.getDeviceType]? with
  | none =>
      dsimp only
      split <;> rfl
  | some deviceConfig =>
      simp only [isSystemApp_adaptToDevice]
      split <;> rfl

theorem adaptToDevice_public {deviceConfig : DeviceConfig}
    {applicationInfo : ApplicationInfo}
    (ordinary : (applicationInfo.isSystemApp && isPreInstallApp) = false) :
    adaptToDevice deviceConfig.public isPreInstallApp applicationInfo =
      adaptToDevice deviceConfig isPreInstallApp applicationInfo := by
  simp only [adaptToDevice, ordinary]
  rfl

theorem toApplicationInfo_public {app : App} {applicationInfo : ApplicationInfo}
    (ordinary : (applicationInfo.isSystemApp && isPreInstallApp) = false) :
    toApplicationInfo platform app.public applicationInfo isPreInstallApp =
      toApplicationInfo platform app applicationInfo isPreInstallApp := by
  have device : app.public.deviceConfigs[platform.getDeviceType]? =
      app.deviceConfigs[platform.getDeviceType]?.map DeviceConfig.public := by
    simp [App.public, Std.ExtTreeMap.getElem?_map]
  unfold toApplicationInfo
  rw [device]
  simp only [ordinary]
  cases app.deviceConfigs[platform.getDeviceType]? with
  | none => rfl
  | some deviceConfig =>
      simp only [Option.map_some]
      rw [adaptToDevice_public]
      · rfl
      · simpa using ordinary

theorem toAbilityInfo_public {moduleJson : ModuleJson}
    {ability : Profile.Ability} {isSystemApp : Bool}
    (ordinary : (isSystemApp && isPreInstallApp) = false) :
    toAbilityInfo moduleJson.public ability.public isSystemApp
        isPreInstallApp =
      toAbilityInfo moduleJson ability isSystemApp isPreInstallApp := by
  simp only [toAbilityInfo, ordinary]
  rfl

theorem toExtensionInfo_public {moduleJson : ModuleJson}
    {extension : Extension} {isSystemApp : Bool}
    (ordinary : (isSystemApp && isPreInstallApp) = false) :
    toExtensionInfo moduleJson.public extension.public isSystemApp
        isPreInstallApp =
      toExtensionInfo moduleJson extension isSystemApp isPreInstallApp := by
  simp only [toExtensionInfo, ordinary]
  rfl

theorem toInnerModuleInfo_public {moduleJson : ModuleJson} {isSystemApp : Bool}
    (ordinary : (isSystemApp && isPreInstallApp) = false) :
    toInnerModuleInfo moduleJson.public isSystemApp isPreInstallApp =
      toInnerModuleInfo moduleJson isSystemApp isPreInstallApp := by
  simp only [toInnerModuleInfo, getPermissions, ordinary]
  rfl

theorem isSystemApp_visitAbility (moduleJson : ModuleJson) (progress : Progress)
    (ability : Profile.Ability) :
    (visitAbility moduleJson isPreInstallApp progress
      ability).applicationInfo.isSystemApp =
        progress.applicationInfo.isSystemApp := by
  unfold visitAbility getEntryAbility
  dsimp only
  split
  · rfl
  · split
    · rfl
    · dsimp only
      split <;> rfl

theorem visitAbility_public {moduleJson : ModuleJson} {progress : Progress}
    {ability : Profile.Ability}
    (ordinary : (progress.applicationInfo.isSystemApp && isPreInstallApp) =
      false) :
    visitAbility moduleJson.public isPreInstallApp progress ability.public =
      visitAbility moduleJson isPreInstallApp progress ability := by
  unfold visitAbility
  rw [toAbilityInfo_public ordinary]
  rfl

theorem visitExtension_public {moduleJson : ModuleJson} {progress : Progress}
    {extension : Extension}
    (ordinary : (progress.applicationInfo.isSystemApp && isPreInstallApp) =
      false) :
    visitExtension moduleJson.public isPreInstallApp progress
        extension.public =
      visitExtension moduleJson isPreInstallApp progress extension := by
  unfold visitExtension
  rw [toExtensionInfo_public ordinary]
  rfl

/-- A loop that keeps a condition and does the same on changed items as long as
the condition holds. -/
theorem foldl_map_of {α β : Type} {condition : β → Prop} {change : α → α}
    {step step' : β → α → β}
    (keeps : ∀ state item, condition state → condition (step state item))
    (same : ∀ state item, condition state →
      step' state (change item) = step state item)
    (items : List α) (state : β) (holds : condition state) :
    (items.map change).foldl step' state = items.foldl step state ∧
      condition (items.foldl step state) := by
  induction items generalizing state with
  | nil => exact ⟨rfl, holds⟩
  | cons head tail ih =>
      simp only [List.map_cons, List.foldl_cons]
      rw [same state head holds]
      exact ih _ (keeps state head holds)

/-- The loops give no privileged setting to the application. -/
def Progress.IsOrdinary (isPreInstallApp : Bool) (progress : Progress) : Prop :=
  (progress.applicationInfo.isSystemApp && isPreInstallApp) = false

theorem visitAbilities_public (moduleJson : ModuleJson) {progress : Progress}
    (ordinary : progress.IsOrdinary isPreInstallApp)
    (abilities : List Profile.Ability) :
    (abilities.map Ability.public).foldl
        (visitAbility moduleJson.public isPreInstallApp) progress =
      abilities.foldl (visitAbility moduleJson isPreInstallApp) progress ∧
    (abilities.foldl (visitAbility moduleJson isPreInstallApp)
      progress).IsOrdinary isPreInstallApp := by
  refine foldl_map_of (fun progress ability ordinary => ?_)
    (fun _ _ => visitAbility_public) abilities progress ordinary
  exact (congrArg (· && isPreInstallApp)
    (isSystemApp_visitAbility moduleJson progress ability)).trans ordinary

theorem visitExtensions_public (moduleJson : ModuleJson) {progress : Progress}
    (ordinary : progress.IsOrdinary isPreInstallApp)
    (extensions : List Extension) :
    (extensions.map Extension.public).foldl
        (visitExtension moduleJson.public isPreInstallApp) progress =
      extensions.foldl (visitExtension moduleJson isPreInstallApp) progress := by
  have keeps (progress : Progress) (extension : Extension)
      (ordinary : progress.IsOrdinary isPreInstallApp) :
      (visitExtension moduleJson isPreInstallApp progress
        extension).IsOrdinary isPreInstallApp :=
    ordinary
  exact (foldl_map_of keeps (fun _ _ => visitExtension_public) extensions
    progress ordinary).1

/-- Both loops. -/
theorem visitAll_public (moduleJson : ModuleJson) {progress : Progress}
    (ordinary : progress.IsOrdinary isPreInstallApp) :
    moduleJson.public.module.extensionAbilities.foldl
        (visitExtension moduleJson.public isPreInstallApp)
        (moduleJson.public.module.abilities.foldl
          (visitAbility moduleJson.public isPreInstallApp) progress) =
      moduleJson.module.extensionAbilities.foldl
        (visitExtension moduleJson isPreInstallApp)
        (moduleJson.module.abilities.foldl
          (visitAbility moduleJson isPreInstallApp) progress) := by
  obtain ⟨abilities, still⟩ :=
    visitAbilities_public moduleJson ordinary moduleJson.module.abilities
  have extensions :=
    visitExtensions_public moduleJson still moduleJson.module.extensionAbilities
  rw [← extensions, ← abilities]
  rfl

/-- The conversion does not look at the privileged settings. -/
theorem toInnerBundleInfo_public {moduleJson : ModuleJson}
    {innerBundleInfo : InnerBundleInfo}
    (ordinary : innerBundleInfo.IsOrdinary) :
    toInnerBundleInfo platform moduleJson.public innerBundleInfo =
      toInnerBundleInfo platform moduleJson innerBundleInfo := by
  have app : toApplicationInfo platform moduleJson.public.app
        { isSystemApp := innerBundleInfo.appType = .systemApp }
        innerBundleInfo.isPreInstallApp =
      toApplicationInfo platform moduleJson.app
        { isSystemApp := innerBundleInfo.appType = .systemApp }
        innerBundleInfo.isPreInstallApp :=
    toApplicationInfo_public ordinary
  have still : ((toApplicationInfo platform moduleJson.app
        { isSystemApp := innerBundleInfo.appType = .systemApp }
        innerBundleInfo.isPreInstallApp).isSystemApp &&
      innerBundleInfo.isPreInstallApp) = false := by
    rw [isSystemApp_toApplicationInfo]
    exact ordinary
  unfold toInnerBundleInfo
  simp only [app, toInnerModuleInfo_public still]
  rw [visitAll_public moduleJson]
  · rfl
  · exact still

/-- Two documents that differ in privileged members are converted alike. -/
theorem transformTo_eq_of_erased (platform : Platform) {json json' : Json}
    {innerBundleInfo : InnerBundleInfo} (ordinary : innerBundleInfo.IsOrdinary)
    (erased : ModuleJson.erasePrivileged json =
      ModuleJson.erasePrivileged json')
    (typed : ModuleJson.PrivilegedTyped json)
    (typed' : ModuleJson.PrivilegedTyped json') :
    ModuleProfile.transformTo (toInnerBundleInfo platform) (some json)
        innerBundleInfo =
      ModuleProfile.transformTo (toInnerBundleInfo platform) (some json')
        innerBundleInfo := by
  apply Decoder.Agree.eq_of_eq
  unfold ModuleProfile.transformTo
  refine (ModuleJson.agree erased typed typed').bind
    fun moduleJson moduleJson' same => ?_
  refine Decoder.Agree.bind_same (.refl _) fun ret => ?_
  rw [← toInnerBundleInfo_public ordinary, same,
    toInnerBundleInfo_public ordinary]
  exact .refl _

end ModuleProfile

namespace BundleProfile

open ProfileReader

variable {platform : Platform} {isPreInstallApp : Bool}

/-- The module information with the permissions that the profile defines. -/
def withPermissions (module : ProfileReader.Module) (info : InnerModuleInfo) :
    InnerModuleInfo :=
  { info with
    definePermissions := module.definePermissions
    defPermissions := module.defPermissions }

def Progress.withPermissions (module : ProfileReader.Module)
    (progress : Progress) : Progress :=
  { progress with
    innerModuleInfo :=
      BundleProfile.withPermissions module progress.innerModuleInfo }

theorem checkModuleInfosIsValid_public (configJson : ConfigJson) :
    checkModuleInfosIsValid configJson.public =
      (checkModuleInfosIsValid configJson).map ConfigJson.public := by
  have abilities : configJson.public.module.abilities.any (fun ability =>
        ability.name.isEmpty || ability.type.isEmpty) =
      configJson.module.abilities.any fun ability =>
        ability.name.isEmpty || ability.type.isEmpty :=
    List.any_map
  unfold checkModuleInfosIsValid
  dsimp only
  rw [abilities]
  simp only [apply_ite (Option.map ConfigJson.public), Option.map_none,
    Option.map_some]
  rfl

/-- A check that passes leaves the defined permissions alone. -/
theorem permissions_of_checkModuleInfosIsValid {configJson checked : ConfigJson}
    (valid : checkModuleInfosIsValid configJson = some checked) :
    checked.module.definePermissions = configJson.module.definePermissions ∧
      checked.module.defPermissions = configJson.module.defPermissions := by
  unfold checkModuleInfosIsValid at valid
  grind

theorem isSystemApp_toApplicationInfo (configJson : ConfigJson)
    (applicationInfo : ApplicationInfo) :
    (toApplicationInfo platform configJson applicationInfo
      isPreInstallApp).isSystemApp = applicationInfo.isSystemApp := by
  unfold toApplicationInfo
  dsimp only
  split <;> rfl

theorem toApplicationInfo_public {configJson : ConfigJson}
    {applicationInfo : ApplicationInfo}
    (ordinary : (applicationInfo.isSystemApp && isPreInstallApp) = false) :
    toApplicationInfo platform configJson.public applicationInfo
        isPreInstallApp =
      toApplicationInfo platform configJson applicationInfo
        isPreInstallApp := by
  simp only [toApplicationInfo, ordinary]
  rfl

theorem toAbilityInfo_public {configJson : ConfigJson}
    {ability : ProfileReader.Ability} {isSystemApp : Bool}
    (ordinary : (isSystemApp && isPreInstallApp) = false) :
    toAbilityInfo configJson.public ability.public isSystemApp
        isPreInstallApp =
      toAbilityInfo configJson ability isSystemApp isPreInstallApp := by
  simp only [toAbilityInfo, ordinary]
  rfl

theorem beforeAbilities_public {configJson : ConfigJson}
    {innerBundleInfo : InnerBundleInfo}
    (ordinary : innerBundleInfo.IsOrdinary) :
    beforeAbilities platform configJson innerBundleInfo =
      (beforeAbilities platform configJson.public
        innerBundleInfo).withPermissions configJson.module := by
  unfold beforeAbilities
  rw [toApplicationInfo_public]
  · rfl
  · exact ordinary

theorem visitSkill_withPermissions (module : ProfileReader.Module)
    (ability : ProfileReader.Ability) (keyName : String)
    (visited : Progress × AbilityInfo) (skill : Skill) :
    visitSkill ability keyName isPreInstallApp
        (visited.1.withPermissions module, visited.2) skill =
      let after := visitSkill ability keyName isPreInstallApp visited skill
      (after.1.withPermissions module, after.2) := by
  have unchanged : (visited.1.withPermissions module).find = visited.1.find :=
    rfl
  unfold visitSkill
  dsimp only
  rw [unchanged]
  split
  · split <;> rfl
  · split <;> rfl

theorem visitSkills_withPermissions (module : ProfileReader.Module)
    (ability : ProfileReader.Ability) (keyName : String)
    (visited : Progress × AbilityInfo) :
    visitSkills ability keyName isPreInstallApp
        (visited.1.withPermissions module, visited.2) =
      let after := visitSkills ability keyName isPreInstallApp visited
      (after.1.withPermissions module, after.2) := by
  have folded (skills : List Skill) (visited : Progress × AbilityInfo) :
      skills.foldl (visitSkill ability keyName isPreInstallApp)
          (visited.1.withPermissions module, visited.2) =
        let after := skills.foldl (visitSkill ability keyName isPreInstallApp)
          visited
        (after.1.withPermissions module, after.2) := by
    induction skills generalizing visited with
    | nil => rfl
    | cons head tail ih =>
        simp only [List.foldl_cons, visitSkill_withPermissions]
        exact ih _
  have unchanged : (visited.1.withPermissions module).find = visited.1.find :=
    rfl
  unfold visitSkills
  rw [unchanged]
  split
  · rfl
  · exact folded _ _

/-- Looking for the main ability changes neither where the application comes
from nor what was stored so far. -/
theorem visitSkills_keeps (ability : ProfileReader.Ability) (keyName : String)
    (visited : Progress × AbilityInfo) :
    let after := visitSkills ability keyName isPreInstallApp visited
    after.1.applicationInfo.isSystemApp =
        visited.1.applicationInfo.isSystemApp ∧
      after.1.innerBundleInfo = visited.1.innerBundleInfo := by
  have one (visited : Progress × AbilityInfo) (skill : Skill) :
      let after := visitSkill ability keyName isPreInstallApp visited skill
      after.1.applicationInfo.isSystemApp =
          visited.1.applicationInfo.isSystemApp ∧
        after.1.innerBundleInfo = visited.1.innerBundleInfo := by
    unfold visitSkill
    dsimp only
    split
    · split <;> exact ⟨rfl, rfl⟩
    · split <;> exact ⟨rfl, rfl⟩
  have all (skills : List Skill) (visited : Progress × AbilityInfo) :
      let after := skills.foldl (visitSkill ability keyName isPreInstallApp)
        visited
      after.1.applicationInfo.isSystemApp =
          visited.1.applicationInfo.isSystemApp ∧
        after.1.innerBundleInfo = visited.1.innerBundleInfo := by
    induction skills generalizing visited with
    | nil => exact ⟨rfl, rfl⟩
    | cons head tail ih =>
        obtain ⟨first, second⟩ := one visited head
        obtain ⟨system, stored⟩ := ih
          (visitSkill ability keyName isPreInstallApp visited head)
        exact ⟨system.trans first, stored.trans second⟩
  unfold visitSkills
  split
  · exact ⟨rfl, rfl⟩
  · exact all _ _

/-- A step of the loop does not look at the privileged settings, and hands the
defined permissions on. -/
theorem visitAbility_public {configJson : ConfigJson} {progress : Progress}
    {ability : ProfileReader.Ability} (module : ProfileReader.Module)
    (ordinary : (progress.applicationInfo.isSystemApp && isPreInstallApp) =
      false) :
    visitAbility configJson isPreInstallApp (progress.withPermissions module)
        ability =
      (visitAbility configJson.public isPreInstallApp progress
        ability.public).map (Progress.withPermissions module) := by
  have parts (keyName : String) :
      (progress.withPermissions module).insertParts configJson ability keyName =
        (progress.insertParts configJson.public ability.public
          keyName).withPermissions module :=
    rfl
  have application : (progress.withPermissions module).applicationInfo =
      progress.applicationInfo := rfl
  unfold visitAbility
  rw [toAbilityInfo_public ordinary, application]
  cases toAbilityInfo configJson ability progress.applicationInfo.isSystemApp
      isPreInstallApp with
  | none => rfl
  | some abilityInfo =>
      dsimp only
      rw [parts]
      have skills := @visitSkills_withPermissions isPreInstallApp module ability
        (abilityKey configJson.app.bundleName configJson.module.package
          abilityInfo.name)
        (progress.insertParts configJson.public ability.public
          (abilityKey configJson.app.bundleName configJson.module.package
            abilityInfo.name), abilityInfo)
      dsimp only at skills
      rw [skills]
      rfl

theorem isSystemApp_visitAbility {configJson : ConfigJson}
    {progress after : Progress} {ability : ProfileReader.Ability}
    (visited : visitAbility configJson isPreInstallApp progress ability =
      some after) :
    after.applicationInfo.isSystemApp =
      progress.applicationInfo.isSystemApp := by
  unfold visitAbility at visited
  split at visited
  · cases visited
  · cases visited
    exact (visitSkills_keeps _ _ _).1

/-- The loop does not look at the privileged settings, and hands the defined
permissions on. -/
theorem visitAbilities_public {configJson : ConfigJson}
    (module : ProfileReader.Module) (abilities : List ProfileReader.Ability)
    (progress : Progress)
    (ordinary : (progress.applicationInfo.isSystemApp && isPreInstallApp) =
      false) :
    visitAbilities configJson isPreInstallApp
        (progress.withPermissions module) abilities =
      (visitAbilities configJson.public isPreInstallApp progress
        (abilities.map Ability.public)).map id
          (Progress.withPermissions module) := by
  induction abilities generalizing progress with
  | nil => rfl
  | cons head tail ih =>
      simp only [visitAbilities, List.map_cons, visitAbility_public module
        ordinary]
      cases visited : visitAbility configJson.public isPreInstallApp progress
          head.public with
      | none => rfl
      | some after =>
          refine ih after ?_
          rw [isSystemApp_visitAbility visited]
          exact ordinary

/-- The conversion of the profile without its privileged settings, with the
permissions that a module defines. -/
def convertPublic (platform : Platform) (configJson : ConfigJson)
    (innerBundleInfo : InnerBundleInfo) (module : ProfileReader.Module) :
    Bool × InnerBundleInfo :=
  if !checkBundleNameIsValid configJson.app.bundleName then
    (false, innerBundleInfo)
  else
    match checkModuleInfosIsValid configJson with
    | none => (false, innerBundleInfo)
    | some configJson =>
        let isPreInstallApp := innerBundleInfo.isPreInstallApp
        let progress := beforeAbilities platform configJson innerBundleInfo
        let bundleInfo := toBundleInfo configJson progress.applicationInfo
          progress.innerModuleInfo isPreInstallApp
        match visitAbilities configJson isPreInstallApp progress
            configJson.module.abilities with
        | (false, progress) => (false, progress.innerBundleInfo)
        | (true, progress) =>
            (true, setConverted configJson bundleInfo
              (progress.withPermissions module))

/-- Of the privileged members of the profile the conversion only looks at the
permissions that the module defines. -/
theorem toInnerBundleInfo_eq_convertPublic {configJson : ConfigJson}
    {innerBundleInfo : InnerBundleInfo}
    (ordinary : innerBundleInfo.IsOrdinary) :
    toInnerBundleInfo platform configJson innerBundleInfo =
      convertPublic platform configJson.public innerBundleInfo
        configJson.module := by
  unfold toInnerBundleInfo convertPublic
  rw [checkModuleInfosIsValid_public]
  change (if !checkBundleNameIsValid configJson.app.bundleName then _
    else _) = (if !checkBundleNameIsValid configJson.app.bundleName then _
    else _)
  split
  · rfl
  · cases valid : checkModuleInfosIsValid configJson with
    | none => rfl
    | some checked =>
        have permissions := permissions_of_checkModuleInfosIsValid valid
        have still : ((beforeAbilities platform checked.public
            innerBundleInfo).applicationInfo.isSystemApp &&
              innerBundleInfo.isPreInstallApp) = false := by
          unfold beforeAbilities
          rw [isSystemApp_toApplicationInfo]
          exact ordinary
        dsimp only [Option.map_some]
        rw [@beforeAbilities_public platform checked innerBundleInfo ordinary,
          visitAbilities_public checked.module _ _ still]
        rw [show checked.public.module.abilities =
          checked.module.abilities.map Ability.public from rfl]
        generalize visitAbilities checked.public _ _ _ = outcome
        obtain ⟨accepted, progress⟩ := outcome
        cases accepted with
        | false => rfl
        | true =>
            have same : progress.withPermissions checked.module =
                progress.withPermissions configJson.module := by
              simp only [Progress.withPermissions, withPermissions,
                permissions]
            simp only [Prod.map]
            rw [same]
            rfl

/-- The type of the ability is known, and the uri of a data ability is one. -/
def isValidAbility (ability : ProfileReader.Ability) : Bool :=
  match abilityTypeMap.lookup ability.type with
  | none => false
  | some type =>
      type ≠ .data || Text.contains ability.uri "dataability://"

/-- The profile passes every check of the conversion. -/
def isAccepted (configJson : ConfigJson) : Bool :=
  checkBundleNameIsValid configJson.app.bundleName &&
    (checkModuleInfosIsValid configJson).isSome &&
    configJson.module.abilities.all isValidAbility

/-- The package under which the module is stored. -/
def modulePackage (configJson : ConfigJson) : String :=
  if configJson.module.package.isEmpty then configJson.app.bundleName
  else configJson.module.package

theorem isSome_toAbilityInfo (configJson : ConfigJson)
    (ability : ProfileReader.Ability) (isSystemApp : Bool) :
    (toAbilityInfo configJson ability isSystemApp isPreInstallApp).isSome =
      isValidAbility ability := by
  unfold toAbilityInfo isValidAbility
  dsimp only
  cases abilityTypeMap.lookup ability.type with
  | none => rfl
  | some type =>
      by_cases data : type = .data
      · cases Text.contains ability.uri "dataability://" <;> simp [data]
      · simp [data]

theorem isSome_visitAbility (configJson : ConfigJson) (progress : Progress)
    (ability : ProfileReader.Ability) :
    (visitAbility configJson isPreInstallApp progress ability).isSome =
      isValidAbility ability := by
  rw [← @isSome_toAbilityInfo isPreInstallApp configJson ability
    progress.applicationInfo.isSystemApp]
  unfold visitAbility
  split
  · next invalid => simp [invalid]
  · next valid => simp [valid]

/-- The loop ends well exactly if every ability is valid. -/
theorem visitAbilities_fst (configJson : ConfigJson)
    (abilities : List ProfileReader.Ability) (progress : Progress) :
    (visitAbilities configJson isPreInstallApp progress abilities).1 =
      abilities.all isValidAbility := by
  induction abilities generalizing progress with
  | nil => rfl
  | cons head tail ih =>
      have valid := @isSome_visitAbility isPreInstallApp configJson progress
        head
      rw [visitAbilities, List.all_cons, ← valid]
      cases visitAbility configJson isPreInstallApp progress head with
      | none => rfl
      | some after => simpa using ih after

/-- The abilities are added without any change to the modules. -/
theorem innerModuleInfos_visitAbilities (configJson : ConfigJson)
    (abilities : List ProfileReader.Ability) (progress : Progress) :
    (visitAbilities configJson isPreInstallApp progress
      abilities).2.innerBundleInfo.innerModuleInfos =
        progress.innerBundleInfo.innerModuleInfos := by
  induction abilities generalizing progress with
  | nil => rfl
  | cons head tail ih =>
      rw [visitAbilities]
      cases visited : visitAbility configJson isPreInstallApp progress head with
      | none => rfl
      | some after =>
          rw [ih after]
          unfold visitAbility at visited
          split at visited
          · cases visited
          · next abilityInfo _ =>
              let keyName := abilityKey configJson.app.bundleName
                configJson.module.package abilityInfo.name
              have keeps := (@visitSkills_keeps isPreInstallApp head keyName
                (progress.insertParts configJson head keyName, abilityInfo)).2
              have modules := congrArg InnerBundleInfo.innerModuleInfos keeps
              rw [← Option.some.inj visited]
              exact modules

theorem innerModuleInfos_beforeAbilities (configJson : ConfigJson)
    (innerBundleInfo : InnerBundleInfo) :
    (beforeAbilities platform configJson
      innerBundleInfo).innerBundleInfo.innerModuleInfos =
        innerBundleInfo.innerModuleInfos := by
  have shortcuts (list : List Shortcut) (info : InnerBundleInfo) :
      (list.foldl (fun innerBundleInfo info =>
        innerBundleInfo.insertShortcutInfos
          (abilityKey configJson.app.bundleName configJson.module.package
            info.shortcutId) (toShortcutInfo configJson info))
        info).innerModuleInfos = info.innerModuleInfos := by
    induction list generalizing info with
    | nil => rfl
    | cons head tail ih => exact ih _
  have events (list : List ProfileReader.CommonEvent)
      (info : InnerBundleInfo) :
      (list.foldl (fun innerBundleInfo info =>
        innerBundleInfo.insertCommonEvents
          (abilityKey configJson.app.bundleName configJson.module.package
            info.name) (toCommonEventInfo configJson info))
        info).innerModuleInfos = info.innerModuleInfos := by
    induction list generalizing info with
    | nil => rfl
    | cons head tail ih => exact ih _
  unfold beforeAbilities insertCommonEvents insertShortcuts
  dsimp only
  split
  · exact (events _ _).trans (shortcuts _ _)
  · exact shortcuts _ _

/-- A check that passes gives the module its package. -/
theorem package_of_checkModuleInfosIsValid {configJson checked : ConfigJson}
    (valid : checkModuleInfosIsValid configJson = some checked) :
    checked.module.package = modulePackage configJson ∧
      checked.module.abilities = configJson.module.abilities := by
  unfold checkModuleInfosIsValid at valid
  unfold modulePackage
  grind

/-- The module is stored with its permissions, unless there is one. -/
theorem setConverted_eq_iff {configJson : ConfigJson} {bundleInfo : BundleInfo}
    {progress : Progress} {module module' : ProfileReader.Module} :
    setConverted configJson bundleInfo (progress.withPermissions module) =
        setConverted configJson bundleInfo
          (progress.withPermissions module') ↔
      (progress.innerBundleInfo.findModule configJson.module.package = false →
        module.definePermissions = module'.definePermissions ∧
          module.defPermissions = module'.defPermissions) := by
  constructor
  · intro equal absent
    have stored := congrArg
      (fun info => info.innerModuleInfos[configJson.module.package]?) equal
    have first (module : ProfileReader.Module) :
        (setConverted configJson bundleInfo
          (progress.withPermissions module)).innerModuleInfos[
            configJson.module.package]? =
          some (withPermissions module progress.innerModuleInfo) :=
      Std.ExtTreeMap.getElem?_insertIfNew_of_absent absent
    rw [first module, first module', Option.some.injEq] at stored
    exact ⟨congrArg InnerModuleInfo.definePermissions stored,
      congrArg InnerModuleInfo.defPermissions stored⟩
  · intro same
    cases found : progress.innerBundleInfo.findModule
        configJson.module.package with
    | false =>
        obtain ⟨define, defs⟩ := same found
        simp only [Progress.withPermissions, withPermissions, define, defs]
    | true =>
        have kept (module : ProfileReader.Module) :
            setConverted configJson bundleInfo
                (progress.withPermissions module) =
              ((progress.innerBundleInfo.setCurrentModulePackage
                configJson.module.package).setBaseApplicationInfo
                  progress.applicationInfo).setBaseBundleInfo bundleInfo :=
          congrArg (fun modules : StringMap InnerModuleInfo =>
            { ((progress.innerBundleInfo.setCurrentModulePackage
                configJson.module.package).setBaseApplicationInfo
                  progress.applicationInfo).setBaseBundleInfo bundleInfo with
              innerModuleInfos := modules })
            (Std.ExtTreeMap.insertIfNew_of_contains found)
        rw [kept, kept]

/-- Two conversions that only differ in the defined permissions. -/
theorem convertPublic_eq_iff {configJson : ConfigJson}
    {innerBundleInfo : InnerBundleInfo} {module module' : ProfileReader.Module} :
    convertPublic platform configJson innerBundleInfo module =
        convertPublic platform configJson innerBundleInfo module' ↔
      (isAccepted configJson = true →
        innerBundleInfo.findModule (modulePackage configJson) = false →
          module.definePermissions = module'.definePermissions ∧
            module.defPermissions = module'.defPermissions) := by
  unfold convertPublic isAccepted
  cases checkBundleNameIsValid configJson.app.bundleName with
  | false => simp
  | true =>
      cases valid : checkModuleInfosIsValid configJson with
      | none => simp
      | some checked =>
          obtain ⟨package, abilities⟩ :=
            package_of_checkModuleInfosIsValid valid
          have all := @visitAbilities_fst innerBundleInfo.isPreInstallApp
            checked checked.module.abilities
            (beforeAbilities platform checked innerBundleInfo)
          have modules := @innerModuleInfos_visitAbilities
            innerBundleInfo.isPreInstallApp checked checked.module.abilities
            (beforeAbilities platform checked innerBundleInfo)
          rw [innerModuleInfos_beforeAbilities] at modules
          dsimp only
          generalize visitAbilities checked _ _ _ = outcome at all modules
          obtain ⟨accepted, progress⟩ := outcome
          dsimp only at all modules
          rw [abilities] at all
          rw [← package]
          have found : progress.innerBundleInfo.findModule
                checked.module.package =
              innerBundleInfo.findModule checked.module.package := by
            simp only [InnerBundleInfo.findModule, modules]
          cases accepted with
          | false => simp [← all]
          | true =>
              have stored := @setConverted_eq_iff checked
                (toBundleInfo checked
                  (beforeAbilities platform checked
                    innerBundleInfo).applicationInfo
                  (beforeAbilities platform checked
                    innerBundleInfo).innerModuleInfo
                  innerBundleInfo.isPreInstallApp) progress module module'
              rw [found] at stored
              simpa [← all] using stored

theorem isAccepted_public (configJson : ConfigJson) :
    isAccepted configJson.public = isAccepted configJson := by
  have abilities : configJson.public.module.abilities.all isValidAbility =
      configJson.module.abilities.all isValidAbility :=
    List.all_map
  unfold isAccepted
  rw [checkModuleInfosIsValid_public, abilities, Option.isSome_map]
  rfl

/-- The profile that a document decodes to without an error. -/
def read? (json : Json) (results : ParseResults) : Option ConfigJson :=
  match ConfigJson.fromJson json results with
  | (.ok configJson, after) =>
      if after.reader = ErrCode.ok then some configJson else none
  | (.error _, _) => none

/-- The result of a conversion. -/
def codeOf (converted : Bool × InnerBundleInfo) : ErrCode × InnerBundleInfo :=
  (if converted.1 then ErrCode.ok else ErrCode.parseProfilePropCheckError,
    converted.2)

theorem codeOf_inj {converted converted' : Bool × InnerBundleInfo} :
    codeOf converted = codeOf converted' ↔ converted = converted' := by
  obtain ⟨accepted, info⟩ := converted
  obtain ⟨accepted', info'⟩ := converted'
  cases accepted <;> cases accepted' <;>
    simp [codeOf, ErrCode.ok, ErrCode.parseProfilePropCheckError]

theorem transformTo_apply
    (toInnerBundleInfo : ConfigJson → InnerBundleInfo → Bool × InnerBundleInfo)
    (json : Json) (innerBundleInfo : InnerBundleInfo) (results : ParseResults) :
    (BundleProfile.transformTo toInnerBundleInfo (some json) innerBundleInfo
      results).1 =
      match ConfigJson.fromJson json results with
      | (.ok configJson, after) =>
          if after.reader = ErrCode.ok then
            .ok (codeOf (toInnerBundleInfo configJson innerBundleInfo))
          else .ok (after.reader, innerBundleInfo)
      | (.error exception, _) => .error exception := by
  unfold BundleProfile.transformTo
  change (Decoder.bind (ConfigJson.fromJson json) _ results).1 = _
  unfold Decoder.bind
  cases decoded : ConfigJson.fromJson json results with
  | mk outcome after =>
      cases outcome with
      | error exception => rfl
      | ok configJson =>
          dsimp only
          change ((if after.reader ≠ ErrCode.ok then _ else _ :
            Decode (ErrCode × InnerBundleInfo)) _).1 = _
          by_cases clean : after.reader = ErrCode.ok
          · rw [if_neg (not_not.mpr clean), if_pos clean]
            cases toInnerBundleInfo configJson innerBundleInfo with
            | mk accepted info => cases accepted <;> rfl
          · rw [if_pos clean, if_neg clean]
            rfl

/-- Two documents that differ in privileged members are converted alike, unless
they define different permissions. -/
theorem transformTo_eq_iff {json json' : Json} {innerBundleInfo : InnerBundleInfo}
    (ordinary : innerBundleInfo.IsOrdinary)
    (erased : ConfigJson.erasePrivileged json =
      ConfigJson.erasePrivileged json')
    (typed : ConfigJson.PrivilegedTyped json)
    (typed' : ConfigJson.PrivilegedTyped json') (results : ParseResults) :
    (BundleProfile.transformTo (toInnerBundleInfo platform) (some json)
        innerBundleInfo results).1 =
      (BundleProfile.transformTo (toInnerBundleInfo platform) (some json')
        innerBundleInfo results).1 ↔
    ∀ configJson configJson', read? json results = some configJson →
      read? json' results = some configJson' →
        isAccepted configJson = true →
          innerBundleInfo.findModule (modulePackage configJson) = false →
            configJson.module.definePermissions =
                configJson'.module.definePermissions ∧
              configJson.module.defPermissions =
                configJson'.module.defPermissions := by
  rw [transformTo_apply, transformTo_apply]
  unfold read?
  have outcomes := ConfigJson.agree erased typed typed' results
  generalize ConfigJson.fromJson json results = first at outcomes ⊢
  generalize ConfigJson.fromJson json' results = second at outcomes ⊢
  cases outcomes with
  | exceptions exception after => simp
  | @values configJson configJson' after same =>
      dsimp only
      split
      · rw [toInnerBundleInfo_eq_convertPublic ordinary,
          toInnerBundleInfo_eq_convertPublic ordinary, ← same]
        rw [Except.ok.injEq, codeOf_inj, convertPublic_eq_iff,
          isAccepted_public]
        constructor
        · rintro alike _ _ ⟨⟩ ⟨⟩
          exact alike
        · intro alike
          exact alike _ _ rfl rfl
      · simp

end BundleProfile

/-- A profile document of one of the two formats. -/
inductive ProfileDocument where
  | configJson (json : Json)
  | moduleJson (json : Json)

/-- `TransformTo` of the parser for the format. -/
def ProfileDocument.transformTo (platform : Platform)
    (innerBundleInfo : InnerBundleInfo) :
    ProfileDocument → Decode (ErrCode × InnerBundleInfo)
  | configJson json =>
      BundleProfile.transformTo (BundleProfile.toInnerBundleInfo platform)
        (some json) innerBundleInfo
  | moduleJson json =>
      ModuleProfile.transformTo (ModuleProfile.toInnerBundleInfo platform)
        (some json) innerBundleInfo

/-- Two documents of one format whose privileged members are typed and that are
equal without them. -/
inductive DifferInPrivileged : ProfileDocument → ProfileDocument → Prop
  | configJson {json json' : Json}
      (erased : ProfileReader.ConfigJson.erasePrivileged json =
        ProfileReader.ConfigJson.erasePrivileged json')
      (typed : ProfileReader.ConfigJson.PrivilegedTyped json)
      (typed' : ProfileReader.ConfigJson.PrivilegedTyped json') :
      DifferInPrivileged (.configJson json) (.configJson json')
  | moduleJson {json json' : Json}
      (erased : Profile.ModuleJson.erasePrivileged json =
        Profile.ModuleJson.erasePrivileged json')
      (typed : Profile.ModuleJson.PrivilegedTyped json)
      (typed' : Profile.ModuleJson.PrivilegedTyped json') :
      DifferInPrivileged (.moduleJson json) (.moduleJson json')

/-- Two `config.json` documents define the same permissions, if their module
comes to be stored. -/
def DefineSamePermissions (innerBundleInfo : InnerBundleInfo)
    (results : ParseResults) : ProfileDocument → ProfileDocument → Prop
  | .configJson json, .configJson json' =>
      ∀ configJson configJson',
        BundleProfile.read? json results = some configJson →
        BundleProfile.read? json' results = some configJson' →
        BundleProfile.isAccepted configJson = true →
        innerBundleInfo.findModule
            (BundleProfile.modulePackage configJson) = false →
          configJson.module.definePermissions =
              configJson'.module.definePermissions ∧
            configJson.module.defPermissions =
              configJson'.module.defPermissions
  | _, _ => True

/-- For an ordinary application the privileged members make no difference to the
code and the object that the conversion returns, except for the permissions that
a `config.json` defines. -/
theorem privilegedSettings_inert_iff {platform : Platform}
    {innerBundleInfo : InnerBundleInfo} {document document' : ProfileDocument}
    (ordinary : innerBundleInfo.IsOrdinary)
    (alike : DifferInPrivileged document document') (results : ParseResults) :
    (document.transformTo platform innerBundleInfo results).1 =
        (document'.transformTo platform innerBundleInfo results).1 ↔
      DefineSamePermissions innerBundleInfo results document document' := by
  cases alike with
  | configJson erased typed typed' =>
      exact BundleProfile.transformTo_eq_iff ordinary erased typed typed'
        results
  | moduleJson erased typed typed' =>
      have same := ModuleProfile.transformTo_eq_of_erased platform ordinary
        erased typed typed'
      exact iff_of_true (congrArg (fun decode => (decode results).1) same)
        trivial

/-- A device without native libraries to choose from. -/
def plainPlatform : Platform where
  isDirExist _ := false
  getAbiList := "default"
  getDeviceType := "phone"
  splitStr text _ _ _ := [text]

/-- A `config.json` whose module defines some permissions. -/
def configJsonDefining (definePermissions : List Json) : Json :=
  .object
    [("app", .object
      [("apiVersion", .object [("compatible", .integer 8)]),
        ("bundleName", .string "com.example.music"),
        ("version", .object
          [("code", .integer 1), ("name", .string "1.0.0")])]),
      ("deviceConfig", .object []),
      ("module", .object
        [("definePermissions", .array definePermissions),
          ("deviceType", .array [.string "phone"]),
          ("distro", .object
            [("deliveryWithInstall", .boolean true),
              ("moduleName", .string "entry"),
              ("moduleType", .string "entry")]),
          ("package", .string "com.example.entry")])]

/-- A permission that applications of the highest level are granted. -/
def systemCorePermission : Json :=
  .object
    [("availableLevel", .string "system_core"),
      ("name", .string "com.example.permission.CONTROL")]

theorem configJsonDefining_typed {definePermissions : List Json}
    (typed : arePermissionsTyped
      (.object [("definePermissions", .array definePermissions)])
      "definePermissions" = true) :
    ProfileReader.ConfigJson.PrivilegedTyped
      (configJsonDefining definePermissions) where
  app := by
    rintro _ ⟨⟩
    rfl
  device := by
    rintro _ ⟨⟩ key device ⟨⟩
  module := by
    rintro _ ⟨⟩
    exact typed

theorem configJsonDefining_differ :
    DifferInPrivileged (.configJson (configJsonDefining []))
      (.configJson (configJsonDefining [systemCorePermission])) :=
  .configJson rfl (configJsonDefining_typed rfl) (configJsonDefining_typed rfl)

theorem privilegedSettings_inert_iff_music :
    (ProfileDocument.transformTo plainPlatform {}
        (.configJson (configJsonDefining [])) {}).1 =
      (ProfileDocument.transformTo plainPlatform {}
        (.configJson (configJsonDefining [systemCorePermission])) {}).1 ↔
    DefineSamePermissions {} {} (.configJson (configJsonDefining []))
      (.configJson (configJsonDefining [systemCorePermission])) :=
  privilegedSettings_inert_iff (by rfl) configJsonDefining_differ {}

/-- The permissions that the module of a converted profile defines. -/
def definedCount : Except JsonException (ErrCode × InnerBundleInfo) → Option Nat
  | .ok (_, info) =>
      info.innerModuleInfos["com.example.entry"]?.map
        (·.definePermissions.length)
  | .error _ => none

/-- An ordinary application defines a permission for the highest level. -/
theorem definePermissions_not_inert :
    ¬∀ platform innerBundleInfo document document',
      InnerBundleInfo.IsOrdinary innerBundleInfo →
        DifferInPrivileged document document' → ∀ results,
          (document.transformTo platform innerBundleInfo results).1 =
            (document'.transformTo platform innerBundleInfo results).1 := by
  intro inert
  have same := inert plainPlatform {} _ _ rfl configJsonDefining_differ {}
  have counted := congrArg definedCount same
  revert counted
  decide +kernel

end AppExecFwk
