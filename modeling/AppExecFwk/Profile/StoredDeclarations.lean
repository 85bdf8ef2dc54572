import AppExecFwk.Profile.Declarations
import AppExecFwk.Profile.PrivilegedSettings

/-!
# The declarations of a converted profile

Each step of the loops over the abilities and extensions writes one declaration.
A `config.json` is stored faithfully exactly if no two of its abilities have the
same full name.  In a `module.json` the extensions need names of their own as
well, and a preinstalled application must not have the launcher for its entry
ability, because an ability is stored before it is marked.
-/

namespace AppExecFwk

namespace BundleProfile

open ProfileReader

def declaredAbility (configJson : ConfigJson)
    (isSystemApp isPreInstallApp : Bool) (ability : Ability) :
    DeclaredAbility where
  key := abilityKey configJson.app.bundleName configJson.module.package
    (fullAbilityName configJson ability)
  -- An accepted profile has valid abilities only.
  info := (toAbilityInfo configJson ability isSystemApp isPreInstallApp).getD {}
  skills := ability.skills
  forms := some (ability.formses.map (toFormInfo configJson ability))

/-- The profile has passed the check that completes its package. -/
def declared (configJson : ConfigJson) (isSystemApp isPreInstallApp : Bool) :
    Declared where
  package := configJson.module.package
  abilities := configJson.module.abilities.map
    (declaredAbility configJson isSystemApp isPreInstallApp)
  extensions := []

variable {platform : Platform} {isPreInstallApp : Bool}

/-- What some skills of an ability can change. -/
structure SkillsVisited (keyName : String) (skills : List Skill)
    (before after : Progress × AbilityInfo) : Prop where
  unmarked : after.2.unmarked = before.2.unmarked
  abilityKeys : after.1.innerModuleInfo.abilityKeys =
    before.1.innerModuleInfo.abilityKeys
  skillKeys : after.1.innerModuleInfo.skillKeys =
    before.1.innerModuleInfo.skillKeys
  extensionKeys : after.1.innerModuleInfo.extensionKeys =
    before.1.innerModuleInfo.extensionKeys
  extensionSkillKeys : after.1.innerModuleInfo.extensionSkillKeys =
    before.1.innerModuleInfo.extensionSkillKeys
  find : after.1.find = (before.1.find || skills.any Skill.isHome)
  entryAbilityKey : after.1.innerModuleInfo.entryAbilityKey =
    if !before.1.find && skills.any Skill.isHome then keyName
    else before.1.innerModuleInfo.entryAbilityKey
  launcher : ∃ marked,
    after.1.applicationInfo.isLauncherApp =
        (before.1.applicationInfo.isLauncherApp || marked) ∧
      after.2.isLauncherAbility = (before.2.isLauncherAbility || marked)

theorem SkillsVisited.trans {keyName : String} {skills skills' : List Skill}
    {before middle after : Progress × AbilityInfo}
    (first : SkillsVisited keyName skills before middle)
    (second : SkillsVisited keyName skills' middle after) :
    SkillsVisited keyName (skills ++ skills') before after where
  unmarked := second.unmarked.trans first.unmarked
  abilityKeys := second.abilityKeys.trans first.abilityKeys
  skillKeys := second.skillKeys.trans first.skillKeys
  extensionKeys := second.extensionKeys.trans first.extensionKeys
  extensionSkillKeys := second.extensionSkillKeys.trans first.extensionSkillKeys
  find := by
    rw [second.find, first.find, List.any_append, Bool.or_assoc]
  entryAbilityKey := by
    rw [second.entryAbilityKey, first.entryAbilityKey, first.find,
      List.any_append]
    cases before.1.find <;> cases skills.any Skill.isHome <;> simp
  launcher := by
    obtain ⟨marked, app, ability⟩ := first.launcher
    obtain ⟨marked', app', ability'⟩ := second.launcher
    exact ⟨marked || marked', by rw [app', app, Bool.or_assoc],
      by rw [ability', ability, Bool.or_assoc]⟩

theorem visitSkill_visited (ability : Ability) (keyName : String)
    (visited : Progress × AbilityInfo) (skill : Skill) :
    SkillsVisited keyName [skill] visited
      (visitSkill ability keyName isPreInstallApp visited skill) := by
  obtain ⟨progress, abilityInfo⟩ := visited
  unfold visitSkill
  dsimp only
  cases home : skill.isHome <;> cases found : progress.find <;>
    cases launcher : skill.isLauncher && isPreInstallApp
  all_goals
    constructor
    all_goals simp [AbilityInfo.unmarked, home, found]

/-- The skills are not looked at once the main ability was found. -/
theorem visitSkills_visited (ability : Ability) (keyName : String)
    (visited : Progress × AbilityInfo) :
    SkillsVisited keyName (if visited.1.find then [] else ability.skills)
      visited (visitSkills ability keyName isPreInstallApp visited) := by
  have all (skills : List Skill) (visited : Progress × AbilityInfo) :
      SkillsVisited keyName skills visited
        (skills.foldl (visitSkill ability keyName isPreInstallApp)
          visited) := by
    induction skills generalizing visited with
    | nil => constructor <;> simp
    | cons head tail ih =>
        exact (visitSkill_visited ability keyName visited head).trans (ih _)
  unfold visitSkills
  split
  · exact all [] visited
  · exact all ability.skills visited

/-- What some abilities change, with the abilities as they were stored. -/
structure AbilitiesVisited (abilities : List DeclaredAbility)
    (stored : List AbilityInfo) (before after : Progress) : Prop where
  written : Written abilities stored [] before.innerModuleInfo
    after.innerModuleInfo before.innerBundleInfo after.innerBundleInfo
  system : after.applicationInfo.isSystemApp =
    before.applicationInfo.isSystemApp
  find : after.find = (before.find || abilities.any DeclaredAbility.isHome)
  entryAbilityKey : after.innerModuleInfo.entryAbilityKey =
    entryKeyAfter before.find abilities before.innerModuleInfo.entryAbilityKey
  launcher : after.applicationInfo.isLauncherApp =
    (before.applicationInfo.isLauncherApp ||
      stored.any AbilityInfo.isLauncherAbility)

theorem AbilitiesVisited.trans {abilities abilities' : List DeclaredAbility}
    {stored stored' : List AbilityInfo} {before middle after : Progress}
    (first : AbilitiesVisited abilities stored before middle)
    (second : AbilitiesVisited abilities' stored' middle after) :
    AbilitiesVisited (abilities ++ abilities') (stored ++ stored') before
      after where
  written := first.written.trans second.written
  system := second.system.trans first.system
  find := by rw [second.find, first.find, List.any_append, Bool.or_assoc]
  entryAbilityKey := by
    rw [second.entryAbilityKey, first.entryAbilityKey, first.find,
      entryKeyAfter_append]
  launcher := by
    rw [second.launcher, first.launcher, List.any_append, Bool.or_assoc]

/-- A valid ability has its full name. -/
theorem toAbilityInfo_name {configJson : ConfigJson} {ability : Ability}
    {isSystemApp : Bool} {abilityInfo : AbilityInfo}
    (valid : toAbilityInfo configJson ability isSystemApp isPreInstallApp =
      some abilityInfo) :
    abilityInfo.name = fullAbilityName configJson ability ∧
      abilityInfo.isLauncherAbility = false := by
  unfold toAbilityInfo at valid
  dsimp only at valid
  split at valid
  · cases valid
  · split at valid
    · cases valid
    · cases valid
      exact ⟨rfl, rfl⟩

/-- One step of the loop writes one ability. -/
theorem visitAbility_visited {configJson : ConfigJson}
    {progress after : Progress} {ability : Ability}
    (visited : visitAbility configJson isPreInstallApp progress ability =
      some after) :
    ∃ entry, AbilitiesVisited
      [declaredAbility configJson progress.applicationInfo.isSystemApp
        isPreInstallApp ability] [entry] progress after := by
  have system := isSystemApp_visitAbility visited
  unfold visitAbility at visited
  split at visited
  · cases visited
  · next abilityInfo valid =>
      obtain ⟨named, ordinary⟩ := toAbilityInfo_name valid
      rw [named] at visited
      dsimp only at visited
      let declared := declaredAbility configJson
        progress.applicationInfo.isSystemApp isPreInstallApp ability
      have info : declared.info = abilityInfo := by
        simp only [declared, declaredAbility, valid, Option.getD_some]
      have home : (declaredAbility configJson
          progress.applicationInfo.isSystemApp isPreInstallApp ability).isHome =
            ability.skills.any Skill.isHome :=
        rfl
      have seen := @visitSkills_visited isPreInstallApp ability declared.key
        (progress.insertParts configJson ability declared.key, abilityInfo)
      have kept := (@visitSkills_keeps isPreInstallApp ability declared.key
        (progress.insertParts configJson ability declared.key, abilityInfo)).2
      change some ((visitSkills ability declared.key isPreInstallApp
        (progress.insertParts configJson ability declared.key,
          abilityInfo)).1.insertAbility declared.key
            (visitSkills ability declared.key isPreInstallApp
              (progress.insertParts configJson ability declared.key,
                abilityInfo)).2) = _ at visited
      generalize visitSkills ability declared.key isPreInstallApp
        (progress.insertParts configJson ability declared.key, abilityInfo) =
          outcome at visited seen kept
      obtain ⟨looked, entry⟩ := outcome
      cases visited
      refine ⟨entry, ?_, system, ?_, ?_, ?_⟩
      · exact {
          unmarked := .cons (by
            rw [seen.unmarked, AbilityInfo.unmarked_of_false ordinary]
            exact info.symm) .nil
          abilityKeys := seen.abilityKeys
          skillKeys := seen.skillKeys
          extensionKeys := seen.extensionKeys.trans (List.append_nil _).symm
          extensionSkillKeys :=
            seen.extensionSkillKeys.trans (List.append_nil _).symm
          baseAbilityInfos := (congrArg (fun info : InnerBundleInfo =>
            info.baseAbilityInfos.insertIfNew declared.key entry) kept :)
          skillInfos := (congrArg InnerBundleInfo.skillInfos kept :)
          formInfos := (congrArg InnerBundleInfo.formInfos kept :)
          baseExtensionInfos :=
            (congrArg InnerBundleInfo.baseExtensionInfos kept :)
          extensionSkillInfos :=
            (congrArg InnerBundleInfo.extensionSkillInfos kept :)
          shortcutInfos := (congrArg InnerBundleInfo.shortcutInfos kept :)
          commonEvents := (congrArg InnerBundleInfo.commonEvents kept :)
          innerModuleInfos := (congrArg InnerBundleInfo.innerModuleInfos kept :) }
      · refine seen.find.trans ?_
        change (progress.find || (if progress.find then [] else
          ability.skills).any Skill.isHome) = _
        cases progress.find with
        | true => rfl
        | false => simp [home]
      · unfold entryKeyAfter
        refine seen.entryAbilityKey.trans ?_
        change (if !progress.find && (if progress.find then [] else
          ability.skills).any Skill.isHome then declared.key
            else progress.innerModuleInfo.entryAbilityKey) = _
        cases progress.find with
        | true => rfl
        | false =>
            cases isHome : ability.skills.any Skill.isHome with
            | true =>
                rw [List.find?_cons_of_pos (by rwa [home])]
                simp [isHome, declared]
            | false => simp [home, isHome]
      · obtain ⟨marked, application, mark⟩ := seen.launcher
        rw [ordinary, Bool.false_or] at mark
        change entry.isLauncherAbility = marked at mark
        rw [List.any_cons, List.any_nil, Bool.or_false, mark]
        exact application

/-- A loop that ends well has written every ability. -/
theorem visitAbilities_visited {configJson : ConfigJson}
    {abilities : List Ability} {progress after : Progress}
    (visited : visitAbilities configJson isPreInstallApp progress abilities =
      (true, after)) :
    ∃ stored, AbilitiesVisited
      (abilities.map (declaredAbility configJson
        progress.applicationInfo.isSystemApp isPreInstallApp)) stored progress
        after := by
  induction abilities generalizing progress with
  | nil =>
      cases visited
      exact ⟨[], .refl _ _, rfl, by simp, by simp [entryKeyAfter], by simp⟩
  | cons head tail ih =>
      rw [visitAbilities] at visited
      cases step : visitAbility configJson isPreInstallApp progress head with
      | none =>
          rw [step] at visited
          cases visited
      | some middle =>
          rw [step] at visited
          obtain ⟨entry, first⟩ := visitAbility_visited step
          obtain ⟨stored, rest⟩ := ih visited
          rw [first.system] at rest
          exact ⟨entry :: stored, first.trans rest⟩

/-- The entries of the shortcuts. -/
def shortcutEntries (configJson : ConfigJson) : List (String × ShortcutInfo) :=
  configJson.module.shortcuts.map fun info =>
    (abilityKey configJson.app.bundleName configJson.module.package
      info.shortcutId, toShortcutInfo configJson info)

/-- The entries of the common events of a system application. -/
def commonEventEntries (configJson : ConfigJson) :
    List (String × CommonEventInfo) :=
  configJson.module.commonEvents.map fun info =>
    (abilityKey configJson.app.bundleName configJson.module.package info.name,
      toCommonEventInfo configJson info)

theorem insertShortcuts_eq (configJson : ConfigJson) (info : InnerBundleInfo) :
    insertShortcuts configJson info =
      { info with
        shortcutInfos :=
          info.shortcutInfos.storeAll (shortcutEntries configJson) } := by
  unfold insertShortcuts shortcutEntries
  induction configJson.module.shortcuts generalizing info with
  | nil => rfl
  | cons head tail ih => exact ih _

theorem insertCommonEvents_eq (configJson : ConfigJson)
    (info : InnerBundleInfo) :
    insertCommonEvents configJson info =
      { info with
        commonEvents := info.commonEvents.storeAll
          (if info.appType = .systemApp then commonEventEntries configJson
            else []) } := by
  unfold insertCommonEvents commonEventEntries
  split
  · induction configJson.module.commonEvents generalizing info with
    | nil => rfl
    | cons head tail ih => exact ih _ ‹_›
  · rfl

/-- Before the loop there are no abilities. -/
theorem hasNoModules_beforeAbilities (configJson : ConfigJson)
    {innerBundleInfo : InnerBundleInfo} (fresh : innerBundleInfo.HasNoModules) :
    (beforeAbilities platform configJson
      innerBundleInfo).innerBundleInfo.HasNoModules := by
  unfold beforeAbilities
  rw [insertShortcuts_eq, insertCommonEvents_eq]
  exact { fresh with }

/-- A conversion that accepts a profile has written all its abilities. -/
theorem toInnerBundleInfo_written {configJson : ConfigJson}
    {start info : InnerBundleInfo}
    (accepted : toInnerBundleInfo platform configJson start = (true, info)) :
    ∃ checked stored after bundleInfo,
      checkModuleInfosIsValid configJson = some checked ∧
        AbilitiesVisited
          (declared checked (start.appType = .systemApp)
            start.isPreInstallApp).abilities stored
          (beforeAbilities platform checked start) after ∧
        info = after.innerBundleInfo.withModule checked.module.package
          after.applicationInfo bundleInfo after.innerModuleInfo := by
  unfold toInnerBundleInfo at accepted
  split at accepted
  · cases accepted
  · split at accepted
    · cases accepted
    · next checked valid =>
        dsimp only at accepted
        split at accepted
        · cases accepted
        · next after visited =>
            cases accepted
            obtain ⟨stored, all⟩ := visitAbilities_visited visited
            refine ⟨checked, stored, after, _, valid, ?_, rfl⟩
            have system : (beforeAbilities platform checked
                start).applicationInfo.isSystemApp =
                  decide (start.appType = .systemApp) :=
              isSystemApp_toApplicationInfo checked _
            rw [system] at all
            exact all

/-- The stored profile is what was declared exactly if no two abilities have the
same full name. -/
theorem toInnerBundleInfo_isStored_iff {configJson checked : ConfigJson}
    {start info : InnerBundleInfo} (fresh : start.HasNoModules)
    (accepted : toInnerBundleInfo platform configJson start = (true, info))
    (valid : checkModuleInfosIsValid configJson = some checked) :
    (∃ module, (declared checked (start.appType = .systemApp)
        start.isPreInstallApp).IsStored info module) ↔
      (checked.module.abilities.map (fullAbilityName checked)).Nodup := by
  obtain ⟨_, stored, after, bundleInfo, same, visited, rfl⟩ :=
    toInnerBundleInfo_written accepted
  cases valid.symm.trans same
  have noModules := @hasNoModules_beforeAbilities platform checked start fresh
  have keys : ((declared checked (start.appType = .systemApp)
      start.isPreInstallApp).abilities.map (·.key)) =
        (checked.module.abilities.map (fullAbilityName checked)).map
          (abilityKey checked.app.bundleName checked.module.package) := by
    simp only [declared, List.map_map]
    rfl
  have apart : ((declared checked (start.appType = .systemApp)
      start.isPreInstallApp).abilities.map (·.key)).Nodup ↔
        (checked.module.abilities.map (fullAbilityName checked)).Nodup := by
    rw [keys]
    exact List.nodup_map_iff (abilityKey_injective _ _)
  have ordinary : (beforeAbilities platform checked
      start).applicationInfo.isLauncherApp = false := by
    unfold beforeAbilities toApplicationInfo
    dsimp only
    split <;> rfl
  refine (visited.written.isStored_withModule_iff noModules
    ⟨rfl, rfl, rfl, rfl⟩ visited.entryAbilityKey).trans
      ⟨fun all => apart.mp all.1, fun names => ?_⟩
  have distinct := apart.mpr names
  refine ⟨distinct, List.nodup_nil, ?_⟩
  rw [visited.launcher, ordinary, Bool.false_or, List.any_eq_true]
  constructor
  · rintro ⟨entry, member, marked⟩
    exact visited.written.hasLauncherAbility_of_mem noModules distinct member
      marked
  · exact visited.written.exists_of_hasLauncherAbility noModules

end BundleProfile

namespace ModuleProfile

open Profile

def declaredAbility (moduleJson : ModuleJson)
    (isSystemApp isPreInstallApp : Bool) (ability : Profile.Ability) :
    DeclaredAbility where
  key := abilityKey moduleJson.app.bundleName moduleJson.module.name ability.name
  info := toAbilityInfo moduleJson ability isSystemApp isPreInstallApp
  skills := ability.skills
  forms := none

def declaredExtension (moduleJson : ModuleJson)
    (isSystemApp isPreInstallApp : Bool) (extension : Extension) :
    DeclaredExtension where
  key :=
    abilityKey moduleJson.app.bundleName moduleJson.module.name extension.name
  info := toExtensionInfo moduleJson extension isSystemApp isPreInstallApp
  skills := extension.skills

def declared (moduleJson : ModuleJson) (isSystemApp isPreInstallApp : Bool) :
    Declared where
  package := moduleJson.module.name
  abilities := moduleJson.module.abilities.map
    (declaredAbility moduleJson isSystemApp isPreInstallApp)
  extensions := moduleJson.module.extensionAbilities.map
    (declaredExtension moduleJson isSystemApp isPreInstallApp)

/-- The skill that makes an ability the entry ability. -/
def entrySkill (abilities : List Profile.Ability) : Option Skill :=
  abilities.findSome? fun ability => ability.skills.find? Skill.isHome

variable {platform : Platform} {isPreInstallApp : Bool}

/-- What some abilities change.  None of them is stored with the mark of a
launcher. -/
structure AbilitiesVisited (moduleJson : ModuleJson)
    (isSystemApp isPreInstallApp : Bool) (abilities : List Profile.Ability)
    (before after : Progress) : Prop where
  written : Written
    (abilities.map (declaredAbility moduleJson isSystemApp isPreInstallApp))
    (abilities.map (toAbilityInfo moduleJson · isSystemApp isPreInstallApp)) []
    before.innerModuleInfo after.innerModuleInfo before.innerBundleInfo
    after.innerBundleInfo
  system : after.applicationInfo.isSystemApp =
    before.applicationInfo.isSystemApp
  findEntry : after.findEntry =
    (before.findEntry || (entrySkill abilities).isSome)
  entryAbilityKey : after.innerModuleInfo.entryAbilityKey =
    entryKeyAfter before.findEntry (abilities.map (declaredAbility moduleJson
      isSystemApp isPreInstallApp)) before.innerModuleInfo.entryAbilityKey
  launcher : after.applicationInfo.isLauncherApp =
    (before.applicationInfo.isLauncherApp ||
      (!before.findEntry && isPreInstallApp &&
        (entrySkill abilities).any Skill.isLauncher))

variable {moduleJson : ModuleJson} {isSystemApp : Bool}

/-- There is such a skill exactly if some ability is started by the home
action. -/
theorem isSome_entrySkill (abilities : List Profile.Ability) :
    (entrySkill abilities).isSome =
      (abilities.map (declaredAbility moduleJson isSystemApp
        isPreInstallApp)).any DeclaredAbility.isHome := by
  unfold entrySkill
  rw [List.isSome_findSome?, List.any_map]
  congr 1
  funext ability
  exact List.isSome_find?

theorem AbilitiesVisited.trans {abilities abilities' : List Profile.Ability}
    {before middle after : Progress}
    (first : AbilitiesVisited moduleJson isSystemApp isPreInstallApp abilities
      before middle)
    (second : AbilitiesVisited moduleJson isSystemApp isPreInstallApp abilities'
      middle after) :
    AbilitiesVisited moduleJson isSystemApp isPreInstallApp
      (abilities ++ abilities') before after where
  written := by
    rw [List.map_append, List.map_append]
    exact first.written.trans second.written
  system := second.system.trans first.system
  findEntry := by
    rw [second.findEntry, first.findEntry, entrySkill, entrySkill, entrySkill,
      List.findSome?_append, Option.isSome_or, Bool.or_assoc]
  entryAbilityKey := by
    rw [second.entryAbilityKey, first.entryAbilityKey, first.findEntry,
      List.map_append, entryKeyAfter_append, ← isSome_entrySkill]
  launcher := by
    have both : entrySkill (abilities ++ abilities') =
        (entrySkill abilities).or (entrySkill abilities') :=
      List.findSome?_append
    rw [second.launcher, first.launcher, first.findEntry, both]
    cases before.findEntry with
    | true => simp
    | false => cases entrySkill abilities <;> simp

/-- One step of the loop writes one ability. -/
theorem visitAbility_visited (progress : Progress) (ability : Profile.Ability) :
    AbilitiesVisited moduleJson progress.applicationInfo.isSystemApp
      isPreInstallApp [ability] progress
      (visitAbility moduleJson isPreInstallApp progress ability) := by
  let declared := declaredAbility moduleJson
    progress.applicationInfo.isSystemApp isPreInstallApp ability
  have skill : entrySkill [ability] = ability.skills.find? Skill.isHome := by
    simp [entrySkill]
  have home : declared.isHome = (entrySkill [ability]).isSome := by
    rw [skill, List.isSome_find?]
    rfl
  have written {module : InnerModuleInfo}
      (abilityKeys : module.abilityKeys =
        progress.innerModuleInfo.abilityKeys ++ [declared.key])
      (skillKeys : module.skillKeys =
        progress.innerModuleInfo.skillKeys ++ [declared.key])
      (extensionKeys : module.extensionKeys =
        progress.innerModuleInfo.extensionKeys)
      (extensionSkillKeys : module.extensionSkillKeys =
        progress.innerModuleInfo.extensionSkillKeys) :
      Written [declared] [declared.info] [] progress.innerModuleInfo module
        progress.innerBundleInfo
        ((progress.innerBundleInfo.insertSkillInfo declared.key
          ability.skills).insertAbilitiesInfo declared.key declared.info) :=
    { unmarked := .cons rfl .nil
      abilityKeys
      skillKeys
      extensionKeys := by rw [extensionKeys, List.map_nil, List.append_nil]
      extensionSkillKeys := by
        rw [extensionSkillKeys, List.map_nil, List.append_nil]
      baseAbilityInfos := rfl
      skillInfos := rfl
      formInfos := rfl
      baseExtensionInfos := rfl
      extensionSkillInfos := rfl
      shortcutInfos := rfl
      commonEvents := rfl
      innerModuleInfos := rfl }
  unfold visitAbility getEntryAbility
  dsimp only
  cases found : progress.findEntry with
  | true =>
      rw [if_pos rfl]
      exact {
        written := written rfl rfl rfl rfl
        system := rfl
        findEntry := by simp [found]
        entryAbilityKey := by simp [entryKeyAfter, found]
        launcher := by simp [found] }
  | false =>
      rw [if_neg Bool.false_ne_true]
      cases entry : ability.skills.find? Skill.isHome with
      | none =>
          rw [skill, entry] at home
          exact {
            written := written rfl rfl rfl rfl
            system := rfl
            findEntry := by simp [found, skill, entry]
            entryAbilityKey := by
              simp [entryKeyAfter, List.find?, declared, home]
            launcher := by simp [skill, entry] }
      | some launching =>
          rw [skill, entry] at home
          exact {
            written := written rfl rfl rfl rfl
            system := by
              dsimp only
              split <;> rfl
            findEntry := by simp [skill, entry]
            entryAbilityKey := by
              rw [entryKeyAfter, found, if_neg Bool.false_ne_true,
                List.map_singleton, List.find?_cons_of_pos home]
              rfl
            launcher := by
              rw [found, skill, entry]
              cases marks : launching.isLauncher <;>
                cases isPreInstallApp <;> simp [marks] }

theorem visitAbilities_visited (abilities : List Profile.Ability)
    (progress : Progress) :
    AbilitiesVisited moduleJson progress.applicationInfo.isSystemApp
      isPreInstallApp abilities progress
      (abilities.foldl (visitAbility moduleJson isPreInstallApp) progress) := by
  induction abilities generalizing progress with
  | nil =>
      exact ⟨.refl _ _, rfl, by simp [entrySkill], by simp [entryKeyAfter],
        by simp [entrySkill]⟩
  | cons head tail ih =>
      have first := @visitAbility_visited isPreInstallApp moduleJson progress
        head
      have rest := ih (visitAbility moduleJson isPreInstallApp progress head)
      rw [first.system] at rest
      exact first.trans rest

/-- The loop over the extensions writes them all. -/
theorem visitExtensions_written (extensions : List Extension)
    (progress : Progress) :
    let after := extensions.foldl (visitExtension moduleJson isPreInstallApp)
      progress
    Written [] [] (extensions.map (declaredExtension moduleJson
        progress.applicationInfo.isSystemApp isPreInstallApp))
        progress.innerModuleInfo after.innerModuleInfo progress.innerBundleInfo
        after.innerBundleInfo ∧
      after.applicationInfo = progress.applicationInfo ∧
      after.innerModuleInfo.entryAbilityKey =
        progress.innerModuleInfo.entryAbilityKey := by
  induction extensions generalizing progress with
  | nil => exact ⟨.refl _ _, rfl, rfl⟩
  | cons head tail ih =>
      obtain ⟨written, application, entry⟩ :=
        ih (visitExtension moduleJson isPreInstallApp progress head)
      have first : Written [] [] [declaredExtension moduleJson
          progress.applicationInfo.isSystemApp isPreInstallApp head]
          progress.innerModuleInfo
          (visitExtension moduleJson isPreInstallApp progress
            head).innerModuleInfo progress.innerBundleInfo
          (visitExtension moduleJson isPreInstallApp progress
            head).innerBundleInfo := by
        constructor
        all_goals first | exact .nil | rfl | exact (List.append_nil _).symm
      exact ⟨first.trans written, application, entry⟩

/-- The application is not marked before its entry ability is found. -/
theorem isLauncherApp_toApplicationInfo (app : App)
    (applicationInfo : ApplicationInfo) :
    (toApplicationInfo platform app applicationInfo
      isPreInstallApp).isLauncherApp = applicationInfo.isLauncherApp := by
  have adapted (deviceConfig : DeviceConfig) (applicationInfo : ApplicationInfo) :
      (adaptToDevice deviceConfig isPreInstallApp
        applicationInfo).isLauncherApp = applicationInfo.isLauncherApp := by
    unfold adaptToDevice
    dsimp only
    split <;> rfl
  unfold toApplicationInfo
  cases app.deviceConfigs[platform.getDeviceType]? with
  | none =>
      dsimp only
      split <;> rfl
  | some deviceConfig =>
      simp only [adapted]
      split <;> rfl

/-- A conversion that accepts a profile has written all its declarations, and
the application is marked if its entry ability is the launcher. -/
theorem toInnerBundleInfo_written {start info : InnerBundleInfo}
    (accepted : toInnerBundleInfo platform moduleJson start = (true, info)) :
    let declared := declared moduleJson (start.appType = .systemApp)
      start.isPreInstallApp
    ∃ blank module written applicationInfo bundleInfo,
      Written declared.abilities (declared.abilities.map (·.info))
          declared.extensions blank module start written ∧
        blank.HasNoKeys ∧
        module.entryAbilityKey = entryKeyAfter false declared.abilities "" ∧
        applicationInfo.isLauncherApp = (start.isPreInstallApp &&
          (entrySkill moduleJson.module.abilities).any Skill.isLauncher) ∧
        info = written.withModule moduleJson.module.name applicationInfo
          bundleInfo module := by
  unfold toInnerBundleInfo at accepted
  split at accepted
  · cases accepted
  · dsimp only at accepted
    cases accepted
    generalize application : toApplicationInfo platform moduleJson.app
      { isSystemApp := start.appType = .systemApp } start.isPreInstallApp =
        applicationInfo
    have system : applicationInfo.isSystemApp =
        decide (start.appType = .systemApp) := by
      rw [← application]
      exact isSystemApp_toApplicationInfo _ _
    have ordinary : applicationInfo.isLauncherApp = false := by
      rw [← application]
      exact isLauncherApp_toApplicationInfo _ _
    let before : Progress :=
      { applicationInfo
        innerModuleInfo := toInnerModuleInfo moduleJson
          applicationInfo.isSystemApp start.isPreInstallApp
        innerBundleInfo := start }
    have abilities := @visitAbilities_visited start.isPreInstallApp moduleJson
      moduleJson.module.abilities before
    generalize moduleJson.module.abilities.foldl
      (visitAbility moduleJson start.isPreInstallApp) before = middle
        at abilities
    obtain ⟨extensions, kept, entry⟩ := @visitExtensions_written
      start.isPreInstallApp moduleJson moduleJson.module.extensionAbilities
        middle
    change applicationInfo.isSystemApp = _ at system
    change AbilitiesVisited moduleJson applicationInfo.isSystemApp _ _ _ _
      at abilities
    rw [abilities.system] at extensions
    change Written [] [] (List.map (declaredExtension moduleJson
      applicationInfo.isSystemApp _) _) _ _ _ _ at extensions
    rw [system] at abilities extensions
    have all := abilities.written.trans extensions
    rw [List.append_nil, List.append_nil, List.nil_append] at all
    refine ⟨before.innerModuleInfo, _, _, _, _, ?_, ⟨rfl, rfl, rfl, rfl⟩, ?_,
      ?_, rfl⟩
    · rw [declared, List.map_map]
      exact all
    · exact entry.trans abilities.entryAbilityKey
    · rw [kept, abilities.launcher]
      change (applicationInfo.isLauncherApp || _) = _
      rw [ordinary, Bool.false_or]
      rfl

/-- The stored profile is what was declared exactly if no two abilities and no
two extensions have the same name, and the entry ability of a preinstalled
application is not the launcher. -/
theorem toInnerBundleInfo_isStored_iff {start info : InnerBundleInfo}
    (fresh : start.HasNoModules)
    (accepted : toInnerBundleInfo platform moduleJson start = (true, info)) :
    (∃ module, (declared moduleJson (start.appType = .systemApp)
        start.isPreInstallApp).IsStored info module) ↔
      (moduleJson.module.abilities.map (·.name)).Nodup ∧
        (moduleJson.module.extensionAbilities.map (·.name)).Nodup ∧
        ¬(start.isPreInstallApp = true ∧
          (entrySkill moduleJson.module.abilities).any Skill.isLauncher =
            true) := by
  obtain ⟨blank, module, written, applicationInfo, bundleInfo, all, noKeys,
    entry, launcher, rfl⟩ := toInnerBundleInfo_written accepted
  have abilityKeys : (declared moduleJson (start.appType = .systemApp)
      start.isPreInstallApp).abilities.map (·.key) =
        (moduleJson.module.abilities.map (·.name)).map
          (abilityKey moduleJson.app.bundleName moduleJson.module.name) := by
    simp only [declared, List.map_map]
    rfl
  have extensionKeys : (declared moduleJson (start.appType = .systemApp)
      start.isPreInstallApp).extensions.map (·.key) =
        (moduleJson.module.extensionAbilities.map (·.name)).map
          (abilityKey moduleJson.app.bundleName moduleJson.module.name) := by
    simp only [declared, List.map_map]
    rfl
  -- No ability is stored with the mark.
  have unmarked : ¬written.HasLauncherAbility := by
    intro marked
    obtain ⟨entry, member, marks⟩ :=
      all.exists_of_hasLauncherAbility fresh marked
    obtain ⟨ability, listed, rfl⟩ := List.mem_map.mp member
    obtain ⟨declared, _, rfl⟩ := List.mem_map.mp listed
    cases marks
  refine (all.isStored_withModule_iff fresh noKeys entry).trans ?_
  rw [abilityKeys, extensionKeys,
    List.nodup_map_iff (abilityKey_injective _ _),
    List.nodup_map_iff (abilityKey_injective _ _), launcher, Bool.and_eq_true,
    iff_false_right unmarked]

/-- The profile that a document decodes to without an error. -/
def read? (json : Json) (results : ParseResults) : Option ModuleJson :=
  match ModuleJson.fromJson json results with
  | (.ok moduleJson, after) =>
      if after.profile = ErrCode.ok then some moduleJson else none
  | (.error _, _) => none

/-- Only a profile that was decoded without an error is accepted. -/
theorem exists_of_transformTo {json : Json} {start info : InnerBundleInfo}
    {results : ParseResults}
    (accepted : (ModuleProfile.transformTo (toInnerBundleInfo platform)
      (some json) start results).1 = .ok (ErrCode.ok, info)) :
    ∃ moduleJson, read? json results = some moduleJson ∧
      toInnerBundleInfo platform moduleJson start = (true, info) := by
  unfold ModuleProfile.transformTo at accepted
  change (Decoder.bind (ModuleJson.fromJson json) _ results).1 = _ at accepted
  unfold Decoder.bind at accepted
  unfold read?
  cases decoded : ModuleJson.fromJson json results with
  | mk outcome after =>
      rw [decoded] at accepted
      cases outcome with
      | error exception => cases accepted
      | ok moduleJson =>
          dsimp only at accepted ⊢
          change ((if after.profile ≠ ErrCode.ok then _ else _ :
            Decode (ErrCode × InnerBundleInfo)) _).1 = _ at accepted
          by_cases clean : after.profile = ErrCode.ok
          · rw [if_neg (not_not.mpr clean)] at accepted
            refine ⟨moduleJson, if_pos clean, ?_⟩
            revert accepted
            cases toInnerBundleInfo platform moduleJson start with
            | mk isConverted converted =>
                intro accepted
                cases isConverted with
                | false =>
                    have code : ErrCode.parseProfilePropCheckError =
                        ErrCode.ok :=
                      congrArg Prod.fst (Except.ok.inj accepted)
                    exact absurd code (by decide)
                | true =>
                    cases accepted
                    rfl
          · rw [if_pos clean] at accepted
            have code := congrArg Prod.fst (Except.ok.inj accepted)
            exact absurd code clean

end ModuleProfile

theorem BundleProfile.exists_of_transformTo {platform : Platform} {json : Json}
    {start info : InnerBundleInfo} {results : ParseResults}
    (accepted : (BundleProfile.transformTo (toInnerBundleInfo platform)
      (some json) start results).1 = .ok (ErrCode.ok, info)) :
    ∃ configJson, read? json results = some configJson ∧
      toInnerBundleInfo platform configJson start = (true, info) := by
  rw [transformTo_apply] at accepted
  unfold read?
  revert accepted
  cases ProfileReader.ConfigJson.fromJson json results with
  | mk outcome after =>
      intro accepted
      cases outcome with
      | error exception => cases accepted
      | ok configJson =>
          dsimp only at accepted ⊢
          by_cases clean : after.reader = ErrCode.ok
          · rw [if_pos clean] at accepted
            refine ⟨configJson, if_pos clean, ?_⟩
            revert accepted
            cases toInnerBundleInfo platform configJson start with
            | mk isConverted converted =>
                intro accepted
                cases isConverted with
                | false =>
                    have code : ErrCode.parseProfilePropCheckError =
                        ErrCode.ok :=
                      congrArg Prod.fst (Except.ok.inj accepted)
                    exact absurd code (by decide)
                | true =>
                    cases accepted
                    rfl
          · rw [if_neg clean] at accepted
            have code := congrArg Prod.fst (Except.ok.inj accepted)
            exact absurd code clean

namespace ProfileDocument

/-- What the document declares, read by the parser of its format. -/
def declared? (start : InnerBundleInfo) (results : ParseResults) :
    ProfileDocument → Option Declared
  | configJson json => do
      let configJson ← BundleProfile.read? json results
      let checked ← BundleProfile.checkModuleInfosIsValid configJson
      return BundleProfile.declared checked (start.appType = .systemApp)
        start.isPreInstallApp
  | moduleJson json => do
      let moduleJson ← ModuleProfile.read? json results
      return ModuleProfile.declared moduleJson (start.appType = .systemApp)
        start.isPreInstallApp

/-- The names in the document are distinct, and a preinstalled `module.json` has
another entry ability than the launcher. -/
def DeclaresApart (start : InnerBundleInfo) (results : ParseResults) :
    ProfileDocument → Prop
  | configJson json =>
      ∀ configJson, BundleProfile.read? json results = some configJson →
        ∀ checked,
          BundleProfile.checkModuleInfosIsValid configJson = some checked →
            (checked.module.abilities.map
              (BundleProfile.fullAbilityName checked)).Nodup
  | moduleJson json =>
      ∀ moduleJson, ModuleProfile.read? json results = some moduleJson →
        (moduleJson.module.abilities.map (·.name)).Nodup ∧
          (moduleJson.module.extensionAbilities.map (·.name)).Nodup ∧
          ¬(start.isPreInstallApp = true ∧
            (ModuleProfile.entrySkill moduleJson.module.abilities).any
              Skill.isLauncher = true)

/-- The object keeps what the document declares. -/
def IsKept (start : InnerBundleInfo) (results : ParseResults)
    (document : ProfileDocument) (info : InnerBundleInfo) : Prop :=
  ∃ declared, document.declared? start results = some declared ∧
    ∃ module, declared.IsStored info module

/-- A document that is accepted is stored without loss exactly if its names are
distinct and its launcher is not stored before it is marked. -/
theorem isKept_iff {platform : Platform} {start info : InnerBundleInfo}
    {results : ParseResults} {document : ProfileDocument}
    (fresh : start.HasNoModules)
    (accepted : (document.transformTo platform start results).1 =
      .ok (ErrCode.ok, info)) :
    document.IsKept start results info ↔
      document.DeclaresApart start results := by
  unfold IsKept
  cases document with
  | configJson json =>
      obtain ⟨configJson, read, converted⟩ :=
        BundleProfile.exists_of_transformTo accepted
      obtain ⟨checked, _, _, _, valid, _⟩ :=
        BundleProfile.toInnerBundleInfo_written converted
      have stored := BundleProfile.toInnerBundleInfo_isStored_iff fresh
        converted valid
      simpa [declared?, DeclaresApart, read, valid] using stored
  | moduleJson json =>
      obtain ⟨moduleJson, read, converted⟩ :=
        ModuleProfile.exists_of_transformTo accepted
      have stored := ModuleProfile.toInnerBundleInfo_isStored_iff fresh
        converted
      simp only [declared?, DeclaresApart, read]
      simpa using stored

/-- A `module.json` with one ability, which is the launcher of the system. -/
def launcherJson : Json :=
  .object
    [("app", .object
      [("bundleName", .string "com.example.launcher"),
        ("icon", .string "$media:icon"), ("label", .string "$string:label"),
        ("minAPIVersion", .integer 9), ("targetAPIVersion", .integer 9),
        ("versionCode", .integer 1), ("versionName", .string "1.0.0")]),
      ("module", .object
        [("abilities", .array
          [.object
            [("name", .string "MainAbility"),
              ("skills", .array
                [.object
                  [("actions", .array [.string "action.system.home"]),
                    ("entities", .array
                      [.string "entity.system.home",
                        .string "flag.home.intent.from.system"])]]),
              ("srcEntrance", .string "./MainAbility.ts")]]),
          ("deliveryWithInstall", .boolean true),
          ("deviceTypes", .array [.string "phone"]),
          ("mainElement", .string "MainAbility"), ("name", .string "entry"),
          ("pages", .string "$profile:pages"), ("type", .string "entry")])]

/-- A preinstalled system application before it is parsed. -/
def preinstalled : InnerBundleInfo :=
  { appType := .systemApp
    baseBundleInfo := { isPreInstallApp := true } }

theorem hasNoModules_preinstalled : preinstalled.HasNoModules :=
  ⟨rfl, rfl, rfl, rfl, rfl, rfl⟩

theorem launcherJson_accepted :
    ∃ info, ((moduleJson launcherJson).transformTo plainPlatform preinstalled
      {}).1 = .ok (ErrCode.ok, info) := by
  have accepted : ((moduleJson launcherJson).transformTo plainPlatform
      preinstalled {}).1.toOption.any (fun converted =>
        decide (converted.1 = ErrCode.ok)) = true := by
    decide +kernel
  rcases outcome : ((moduleJson launcherJson).transformTo plainPlatform
    preinstalled {}).1 with _ | ⟨code, info⟩
  · rw [outcome] at accepted
    cases accepted
  · rw [outcome] at accepted
    obtain rfl : code = ErrCode.ok := of_decide_eq_true accepted
    exact ⟨info, rfl⟩

theorem isKept_iff_launcher :
    ∃ info, ((moduleJson launcherJson).transformTo plainPlatform preinstalled
        {}).1 = .ok (ErrCode.ok, info) ∧
      ((moduleJson launcherJson).IsKept preinstalled {} info ↔
        (moduleJson launcherJson).DeclaresApart preinstalled {}) := by
  obtain ⟨info, accepted⟩ := launcherJson_accepted
  exact ⟨info, accepted, isKept_iff hasNoModules_preinstalled accepted⟩

/-- The launcher is stored without its mark, while the application is marked. -/
theorem launcher_not_kept :
    ¬∀ platform start results document info,
      InnerBundleInfo.HasNoModules start →
        (ProfileDocument.transformTo platform start document results).1 =
          .ok (ErrCode.ok, info) →
        document.IsKept start results info := by
  intro kept
  obtain ⟨info, accepted⟩ := launcherJson_accepted
  obtain ⟨declared, found, stored⟩ := kept _ _ _ _ _ hasNoModules_preinstalled
    accepted
  obtain ⟨moduleJson, read, converted⟩ :=
    ModuleProfile.exists_of_transformTo accepted
  simp only [declared?, read] at found
  cases found
  obtain ⟨_, _, another⟩ := (ModuleProfile.toInnerBundleInfo_isStored_iff
    hasNoModules_preinstalled converted).mp stored
  have launcher : (ModuleProfile.read? launcherJson {}).all (fun moduleJson =>
      (ModuleProfile.entrySkill moduleJson.module.abilities).any
        Skill.isLauncher) = true := by
    decide +kernel
  rw [read] at launcher
  exact another ⟨rfl, launcher⟩

end ProfileDocument

end AppExecFwk
