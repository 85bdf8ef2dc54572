import AppExecFwk.Library.EntryList
import AppExecFwk.Profile.ProfileTables
import Mathlib.Data.List.Forall2

/-!
# What a profile declares

A profile of either format declares abilities and extensions.  A conversion
stores each of them in maps under its key, and lists the keys in the module.  A
key that is there already keeps its value, so that a declaration is lost exactly
if its key was declared before.
-/

namespace AppExecFwk

/-- The ability, not marked as a launcher. -/
def AbilityInfo.unmarked (ability : AbilityInfo) : AbilityInfo :=
  { ability with isLauncherAbility := false }

theorem AbilityInfo.unmarked_of_false {ability : AbilityInfo}
    (ordinary : ability.isLauncherAbility = false) :
    ability.unmarked = ability := by
  cases ability
  cases ordinary
  rfl

/-- An ability of a profile.  Only one of the formats declares forms. -/
structure DeclaredAbility where
  key : String
  info : AbilityInfo
  skills : List Skill
  forms : Option (List FormInfo)

structure DeclaredExtension where
  key : String
  info : ExtensionAbilityInfo
  skills : List Skill

/-- The abilities and extensions of a profile in their order. -/
structure Declared where
  package : String
  abilities : List DeclaredAbility
  extensions : List DeclaredExtension

/-- The ability is started by the home action. -/
def DeclaredAbility.isHome (ability : DeclaredAbility) : Bool :=
  ability.skills.any Skill.isHome

/-- The key of the entry ability after some more abilities: the first one of the
home action gives it, unless it was found before. -/
def entryKeyAfter (found : Bool) (abilities : List DeclaredAbility)
    (entryAbilityKey : String) : String :=
  if found then entryAbilityKey
  else
    ((abilities.find? DeclaredAbility.isHome).map (·.key)).getD entryAbilityKey

theorem entryKeyAfter_append (found : Bool)
    (abilities abilities' : List DeclaredAbility) (entryAbilityKey : String) :
    entryKeyAfter found (abilities ++ abilities') entryAbilityKey =
      entryKeyAfter (found || abilities.any DeclaredAbility.isHome) abilities'
        (entryKeyAfter found abilities entryAbilityKey) := by
  unfold entryKeyAfter
  rw [List.find?_append]
  cases found with
  | true => simp
  | false =>
      cases first : abilities.find? DeclaredAbility.isHome with
      | none =>
          have none : abilities.any DeclaredAbility.isHome = false := by
            simpa using first
          simp [none]
      | some ability =>
          have some : abilities.any DeclaredAbility.isHome = true :=
            List.any_eq_true.mpr ⟨ability, List.mem_of_find?_eq_some first,
              List.find?_some first⟩
          simp [some]

/-- Some stored ability is marked as a launcher. -/
def InnerBundleInfo.HasLauncherAbility (info : InnerBundleInfo) : Prop :=
  ∃ (key : String) (ability : AbilityInfo),
    info.baseAbilityInfos[key]? = some ability ∧
      ability.isLauncherAbility = true

/-- Everything that is declared is stored, none of it merged, and the keys and
marks fit. -/
structure Declared.IsStored (declared : Declared) (info : InnerBundleInfo)
    (module : InnerModuleInfo) : Prop where
  stored : info.innerModuleInfos[declared.package]? = some module
  abilities : ∀ ability ∈ declared.abilities,
    (info.baseAbilityInfos[ability.key]?).map AbilityInfo.unmarked =
        some ability.info ∧
      info.skillInfos[ability.key]? = some ability.skills ∧
      info.formInfos[ability.key]? = ability.forms
  extensions : ∀ extension ∈ declared.extensions,
    info.baseExtensionInfos[extension.key]? = some extension.info ∧
      info.extensionSkillInfos[extension.key]? = some extension.skills
  abilitiesApart : info.baseAbilityInfos.size = declared.abilities.length
  extensionsApart : info.baseExtensionInfos.size = declared.extensions.length
  abilityKeys : ∀ key ∈ module.abilityKeys, key ∈ info.baseAbilityInfos
  skillKeys : ∀ key ∈ module.skillKeys, key ∈ info.skillInfos
  extensionKeys : ∀ key ∈ module.extensionKeys, key ∈ info.baseExtensionInfos
  extensionSkillKeys : ∀ key ∈ module.extensionSkillKeys,
    key ∈ info.extensionSkillInfos
  entryAbilityKey : module.entryAbilityKey ≠ "" →
    (declared.abilities.find? DeclaredAbility.isHome).map (·.key) =
      some module.entryAbilityKey
  launcher : info.baseApplicationInfo.isLauncherApp = true ↔
    info.HasLauncherAbility

theorem abilityKey_injective (bundleName package : String) :
    Function.Injective (abilityKey bundleName package) := by
  intro name other same
  have letters := congrArg String.toList same
  simp only [abilityKey, String.toList_append, List.append_cancel_left_eq]
    at letters
  exact String.toList_inj.mp letters

theorem exists_mem_zip {α β γ : Type} {related : α → β → Prop} {list : List α}
    {partners : List β} (pairs : List.Forall₂ related list partners)
    (key : α → γ) {item : α} (listed : item ∈ list) :
    ∃ partner, (key item, partner) ∈ (list.map key).zip partners ∧
      related item partner := by
  induction pairs with
  | nil => simp at listed
  | @cons head partner tail rest fits _ ih =>
      rcases List.mem_cons.mp listed with rfl | later
      · exact ⟨partner, by simp, fits⟩
      · obtain ⟨found, member, same⟩ := ih later
        exact ⟨found, List.mem_cons_of_mem _ member, same⟩

/-- The maps of the parts of an application that a conversion has written,
before and after some declarations, with the abilities as they were stored. -/
structure Written (abilities : List DeclaredAbility) (stored : List AbilityInfo)
    (extensions : List DeclaredExtension) (module module' : InnerModuleInfo)
    (info info' : InnerBundleInfo) : Prop where
  unmarked : List.Forall₂ (fun ability entry => entry.unmarked = ability.info)
    abilities stored
  abilityKeys : module'.abilityKeys =
    module.abilityKeys ++ abilities.map (·.key)
  skillKeys : module'.skillKeys = module.skillKeys ++ abilities.map (·.key)
  extensionKeys : module'.extensionKeys =
    module.extensionKeys ++ extensions.map (·.key)
  extensionSkillKeys : module'.extensionSkillKeys =
    module.extensionSkillKeys ++ extensions.map (·.key)
  baseAbilityInfos : info'.baseAbilityInfos =
    info.baseAbilityInfos.storeAll ((abilities.map (·.key)).zip stored)
  skillInfos : info'.skillInfos =
    info.skillInfos.storeAll (abilities.map fun ability =>
      (ability.key, ability.skills))
  formInfos : info'.formInfos =
    info.formInfos.storeAll (abilities.filterMap fun ability =>
      ability.forms.map fun forms => (ability.key, forms))
  baseExtensionInfos : info'.baseExtensionInfos =
    info.baseExtensionInfos.storeAll (extensions.map fun extension =>
      (extension.key, extension.info))
  extensionSkillInfos : info'.extensionSkillInfos =
    info.extensionSkillInfos.storeAll (extensions.map fun extension =>
      (extension.key, extension.skills))
  shortcutInfos : info'.shortcutInfos = info.shortcutInfos
  commonEvents : info'.commonEvents = info.commonEvents
  innerModuleInfos : info'.innerModuleInfos = info.innerModuleInfos

namespace Written

theorem refl (module : InnerModuleInfo) (info : InnerBundleInfo) :
    Written [] [] [] module module info info := by
  constructor <;> simp

/-- Declarations that are written one after the other. -/
theorem trans {abilities abilities' : List DeclaredAbility}
    {stored stored' : List AbilityInfo}
    {extensions extensions' : List DeclaredExtension}
    {module module' module'' : InnerModuleInfo}
    {info info' info'' : InnerBundleInfo}
    (first : Written abilities stored extensions module module' info info')
    (second : Written abilities' stored' extensions' module' module'' info'
      info'') :
    Written (abilities ++ abilities') (stored ++ stored')
      (extensions ++ extensions') module module'' info info'' where
  unmarked := List.rel_append first.unmarked second.unmarked
  abilityKeys := by
    rw [second.abilityKeys, first.abilityKeys, List.map_append,
      List.append_assoc]
  skillKeys := by
    rw [second.skillKeys, first.skillKeys, List.map_append, List.append_assoc]
  extensionKeys := by
    rw [second.extensionKeys, first.extensionKeys, List.map_append,
      List.append_assoc]
  extensionSkillKeys := by
    rw [second.extensionSkillKeys, first.extensionSkillKeys, List.map_append,
      List.append_assoc]
  baseAbilityInfos := by
    have sameLength : (abilities.map (·.key)).length = stored.length := by
      rw [List.length_map, first.unmarked.length_eq]
    rw [second.baseAbilityInfos, first.baseAbilityInfos, List.map_append,
      List.zip_append sameLength, Std.ExtTreeMap.storeAll_append]
  skillInfos := by
    rw [second.skillInfos, first.skillInfos, List.map_append,
      Std.ExtTreeMap.storeAll_append]
  formInfos := by
    rw [second.formInfos, first.formInfos, List.filterMap_append,
      Std.ExtTreeMap.storeAll_append]
  baseExtensionInfos := by
    rw [second.baseExtensionInfos, first.baseExtensionInfos, List.map_append,
      Std.ExtTreeMap.storeAll_append]
  extensionSkillInfos := by
    rw [second.extensionSkillInfos, first.extensionSkillInfos,
      List.map_append, Std.ExtTreeMap.storeAll_append]
  shortcutInfos := second.shortcutInfos.trans first.shortcutInfos
  commonEvents := second.commonEvents.trans first.commonEvents
  innerModuleInfos := second.innerModuleInfos.trans first.innerModuleInfos

end Written

/-- No module of the application is known yet; the type of the application and
whether it is preinstalled may be. -/
structure InnerBundleInfo.HasNoModules (info : InnerBundleInfo) : Prop where
  innerModuleInfos : info.innerModuleInfos = ∅
  baseAbilityInfos : info.baseAbilityInfos = ∅
  skillInfos : info.skillInfos = ∅
  baseExtensionInfos : info.baseExtensionInfos = ∅
  extensionSkillInfos : info.extensionSkillInfos = ∅
  formInfos : info.formInfos = ∅

/-- No ability or extension is listed in the module yet. -/
structure InnerModuleInfo.HasNoKeys (module : InnerModuleInfo) : Prop where
  abilityKeys : module.abilityKeys = []
  skillKeys : module.skillKeys = []
  extensionKeys : module.extensionKeys = []
  extensionSkillKeys : module.extensionSkillKeys = []

/-- What both conversions do last: they store the module and the base
information. -/
def InnerBundleInfo.withModule (info : InnerBundleInfo) (package : String)
    (applicationInfo : ApplicationInfo) (bundleInfo : BundleInfo)
    (module : InnerModuleInfo) : InnerBundleInfo :=
  (((info.setCurrentModulePackage package).setBaseApplicationInfo
    applicationInfo).setBaseBundleInfo bundleInfo).insertInnerModuleInfo
      package module

namespace Written

section FromFresh

variable {declared : Declared} {stored : List AbilityInfo}
  {blank module : InnerModuleInfo} {start info : InnerBundleInfo}
  (fresh : start.HasNoModules)
  (written : Written declared.abilities stored declared.extensions blank module
    start info)

include fresh written

theorem mem_baseAbilityInfos {key : String} :
    key ∈ info.baseAbilityInfos ↔ key ∈ declared.abilities.map (·.key) := by
  have sameLength : (declared.abilities.map (·.key)).length ≤
      stored.length := by
    rw [List.length_map, written.unmarked.length_eq]
  rw [written.baseAbilityInfos, fresh.baseAbilityInfos,
    Std.ExtTreeMap.mem_storeAll, List.map_fst_zip sameLength]
  simp

theorem mem_skillInfos {key : String} :
    key ∈ info.skillInfos ↔ key ∈ declared.abilities.map (·.key) := by
  rw [written.skillInfos, fresh.skillInfos, Std.ExtTreeMap.mem_storeAll]
  simp

theorem mem_baseExtensionInfos {key : String} :
    key ∈ info.baseExtensionInfos ↔
      key ∈ declared.extensions.map (·.key) := by
  rw [written.baseExtensionInfos, fresh.baseExtensionInfos,
    Std.ExtTreeMap.mem_storeAll]
  simp

theorem mem_extensionSkillInfos {key : String} :
    key ∈ info.extensionSkillInfos ↔
      key ∈ declared.extensions.map (·.key) := by
  rw [written.extensionSkillInfos, fresh.extensionSkillInfos,
    Std.ExtTreeMap.mem_storeAll]
  simp

/-- With distinct keys an ability keeps the entry that was made for it. -/
theorem ability_stored (distinct : (declared.abilities.map (·.key)).Nodup)
    {ability : DeclaredAbility} (listed : ability ∈ declared.abilities) :
    (info.baseAbilityInfos[ability.key]?).map AbilityInfo.unmarked =
      some ability.info := by
  have sameLength : (declared.abilities.map (·.key)).length ≤
      stored.length := by
    rw [List.length_map, written.unmarked.length_eq]
  obtain ⟨entry, member, same⟩ :=
    exists_mem_zip written.unmarked (·.key) listed
  have found : ((∅ : StringMap AbilityInfo).storeAll
      ((declared.abilities.map (·.key)).zip stored))[ability.key]? =
        some entry :=
    Std.ExtTreeMap.getElem?_storeAll_of_nodup
      (by rwa [List.map_fst_zip sameLength]) member
  rw [written.baseAbilityInfos, fresh.baseAbilityInfos, found, Option.map_some,
    same]

theorem skills_stored (distinct : (declared.abilities.map (·.key)).Nodup)
    {ability : DeclaredAbility} (listed : ability ∈ declared.abilities) :
    info.skillInfos[ability.key]? = some ability.skills := by
  rw [written.skillInfos, fresh.skillInfos]
  apply Std.ExtTreeMap.getElem?_storeAll_of_nodup
  · rwa [List.map_map]
  · exact List.mem_map.mpr ⟨ability, listed, rfl⟩

theorem forms_stored (distinct : (declared.abilities.map (·.key)).Nodup)
    {ability : DeclaredAbility} (listed : ability ∈ declared.abilities) :
    info.formInfos[ability.key]? = ability.forms := by
  rw [written.formInfos, fresh.formInfos]
  have only {other : DeclaredAbility} (member : other ∈ declared.abilities)
      (same : other.key = ability.key) : other = ability :=
    List.inj_on_of_nodup_map distinct member listed same
  cases found : ability.forms with
  | none =>
      apply Std.ExtTreeMap.getElem?_eq_none
      intro member
      rw [Std.ExtTreeMap.mem_storeAll, List.mem_map] at member
      obtain impossible | ⟨entry, inside, same⟩ := member
      · simp at impossible
      · obtain ⟨other, declaredOther, forms⟩ := List.mem_filterMap.mp inside
        obtain ⟨list, otherForms, rfl⟩ := Option.map_eq_some_iff.mp forms
        rw [only declaredOther same, found] at otherForms
        cases otherForms
  | some forms =>
      apply Std.ExtTreeMap.getElem?_storeAll_of_nodup
      · rw [List.Nodup, List.pairwise_map, List.pairwise_filterMap]
        apply (List.pairwise_map.mp distinct).imp
        intro first second apart _ firstForms _ secondForms same
        obtain ⟨_, _, rfl⟩ := Option.map_eq_some_iff.mp firstForms
        obtain ⟨_, _, rfl⟩ := Option.map_eq_some_iff.mp secondForms
        exact apart same
      · exact List.mem_filterMap.mpr ⟨ability, listed, by rw [found]; rfl⟩

theorem extension_stored (distinct : (declared.extensions.map (·.key)).Nodup)
    {extension : DeclaredExtension} (listed : extension ∈ declared.extensions) :
    info.baseExtensionInfos[extension.key]? = some extension.info ∧
      info.extensionSkillInfos[extension.key]? = some extension.skills := by
  rw [written.baseExtensionInfos, fresh.baseExtensionInfos,
    written.extensionSkillInfos, fresh.extensionSkillInfos]
  constructor
  · apply Std.ExtTreeMap.getElem?_storeAll_of_nodup
    · rwa [List.map_map]
    · exact List.mem_map.mpr ⟨extension, listed, rfl⟩
  · apply Std.ExtTreeMap.getElem?_storeAll_of_nodup
    · rwa [List.map_map]
    · exact List.mem_map.mpr ⟨extension, listed, rfl⟩

theorem abilities_apart_iff :
    info.baseAbilityInfos.size = declared.abilities.length ↔
      (declared.abilities.map (·.key)).Nodup := by
  have counted := Std.ExtTreeMap.size_eq_length_iff_nodup
    fun key => @mem_baseAbilityInfos _ _ _ _ _ _ fresh written key
  rwa [List.length_map] at counted

theorem extensions_apart_iff :
    info.baseExtensionInfos.size = declared.extensions.length ↔
      (declared.extensions.map (·.key)).Nodup := by
  have counted := Std.ExtTreeMap.size_eq_length_iff_nodup
    fun key => @mem_baseExtensionInfos _ _ _ _ _ _ fresh written key
  rwa [List.length_map] at counted

/-- The launchers are among the abilities as they were stored. -/
theorem exists_of_hasLauncherAbility (launcher : info.HasLauncherAbility) :
    ∃ entry ∈ stored, entry.isLauncherAbility = true := by
  obtain ⟨key, entry, found, marked⟩ := launcher
  rw [written.baseAbilityInfos, fresh.baseAbilityInfos] at found
  have listed := Std.ExtTreeMap.mem_of_getElem?_storeAll found
  exact ⟨entry, (List.of_mem_zip listed).2, marked⟩

/-- With distinct keys a marked ability comes to be stored. -/
theorem hasLauncherAbility_of_mem
    (distinct : (declared.abilities.map (·.key)).Nodup) {entry : AbilityInfo}
    (member : entry ∈ stored) (marked : entry.isLauncherAbility = true) :
    info.HasLauncherAbility := by
  have sameLength : (declared.abilities.map (·.key)).length = stored.length := by
    rw [List.length_map, written.unmarked.length_eq]
  rw [← List.map_snd_zip sameLength.ge] at member
  obtain ⟨⟨key, _⟩, listed, rfl⟩ := List.mem_map.mp member
  refine ⟨key, _, ?_, marked⟩
  rw [written.baseAbilityInfos, fresh.baseAbilityInfos]
  apply Std.ExtTreeMap.getElem?_storeAll_of_nodup _ listed
  rwa [List.map_fst_zip sameLength.le]

/-- What has to be asked of the declarations and of the launcher mark. -/
theorem isStored_withModule_iff {applicationInfo : ApplicationInfo}
    {bundleInfo : BundleInfo} (noKeys : blank.HasNoKeys)
    (entry : module.entryAbilityKey =
      ((declared.abilities.find? DeclaredAbility.isHome).map (·.key)).getD "") :
    (∃ module', declared.IsStored (info.withModule declared.package
        applicationInfo bundleInfo module) module') ↔
      (declared.abilities.map (·.key)).Nodup ∧
        (declared.extensions.map (·.key)).Nodup ∧
        (applicationInfo.isLauncherApp = true ↔ info.HasLauncherAbility) := by
  have nodup : (declared.abilities.map (·.key)).Nodup ↔
      info.baseAbilityInfos.size = declared.abilities.length :=
    (written.abilities_apart_iff fresh).symm
  constructor
  · rintro ⟨module', isStored⟩
    exact ⟨nodup.mpr isStored.abilitiesApart,
      (written.extensions_apart_iff fresh).mp isStored.extensionsApart,
      isStored.launcher⟩
  · rintro ⟨distinct, distinctExtensions, launcher⟩
    refine ⟨module, ?_⟩
    exact {
      stored := by
        apply Std.ExtTreeMap.getElem?_insertIfNew_of_absent
        change info.innerModuleInfos.contains declared.package = false
        rw [written.innerModuleInfos, fresh.innerModuleInfos]
        exact Std.ExtTreeMap.contains_empty
      abilities := fun ability listed =>
        ⟨written.ability_stored fresh distinct listed,
          written.skills_stored fresh distinct listed,
          written.forms_stored fresh distinct listed⟩
      extensions := fun extension listed =>
        written.extension_stored fresh distinctExtensions listed
      abilitiesApart := nodup.mp distinct
      extensionsApart :=
        (written.extensions_apart_iff fresh).mpr distinctExtensions
      abilityKeys := by
        intro key listed
        rw [written.abilityKeys, noKeys.abilityKeys, List.nil_append]
          at listed
        exact (written.mem_baseAbilityInfos fresh).mpr listed
      skillKeys := by
        intro key listed
        rw [written.skillKeys, noKeys.skillKeys, List.nil_append]
          at listed
        exact (written.mem_skillInfos fresh).mpr listed
      extensionKeys := by
        intro key listed
        rw [written.extensionKeys, noKeys.extensionKeys, List.nil_append]
          at listed
        exact (written.mem_baseExtensionInfos fresh).mpr listed
      extensionSkillKeys := by
        intro key listed
        rw [written.extensionSkillKeys, noKeys.extensionSkillKeys, List.nil_append]
          at listed
        exact (written.mem_extensionSkillInfos fresh).mpr listed
      entryAbilityKey := by
        intro named
        rw [entry] at named ⊢
        cases found : declared.abilities.find? DeclaredAbility.isHome with
        | none =>
            rw [found] at named
            exact absurd rfl named
        | some ability => rfl
      launcher }

end FromFresh

end Written

end AppExecFwk
