import AppExecFwk.Info.InnerBundleInfo

/-!
# The entries of a bundle information object

The eight maps of the modules, abilities, skills, extensions, forms, shortcuts
and common events are looked at as one, with the name of the map as part of the
place.  Adding and removing a module is described by what is found at each place
afterwards.
-/

namespace AppExecFwk

namespace StringMap

variable {α : Type}

theorem getElem?_addNew (old new : StringMap α) (key : String) :
    (old.addNew new)[key]? = old[key]?.or new[key]? :=
  Std.ExtTreeMap.getElem?_union

theorem getElem?_eraseAll (map : StringMap α) (keys : List String)
    (key : String) :
    (map.eraseAll keys)[key]? =
      if keys.contains key then none else map[key]? := by
  unfold eraseAll
  induction keys generalizing map with
  | nil => simp
  | cons head tail ih =>
      rw [List.foldl_cons, ih, Std.ExtTreeMap.getElem?_erase]
      by_cases same : key = head
      · simp [same]
      · simp [same, Ne.symm same]

theorem getElem?_eraseContaining (map : StringMap α) (text key : String) :
    (map.eraseContaining text)[key]? =
      if Text.contains key text then none else map[key]? := by
  unfold eraseContaining
  rw [Std.ExtTreeMap.getElem?_filter']
  cases contained : Text.contains key text <;> cases map[key]? <;>
    simp

end StringMap

/-- The maps in which a module has entries. -/
inductive MapName where
  | innerModuleInfos
  | baseAbilityInfos
  | skillInfos
  | formInfos
  | baseExtensionInfos
  | extensionSkillInfos
  | shortcutInfos
  | commonEvents

/-- A value of one of the maps. -/
inductive ModuleEntry where
  | module (info : InnerModuleInfo)
  | ability (info : AbilityInfo)
  | skills (list : List Skill)
  | forms (list : List FormInfo)
  | extension (info : ExtensionAbilityInfo)
  | shortcut (info : ShortcutInfo)
  | commonEvent (info : CommonEventInfo)

namespace InnerBundleInfo

/-- What is found in one of the maps. -/
def entryAt (info : InnerBundleInfo) : MapName → String → Option ModuleEntry
  | .innerModuleInfos, key => info.innerModuleInfos[key]?.map .module
  | .baseAbilityInfos, key => info.baseAbilityInfos[key]?.map .ability
  | .skillInfos, key => info.skillInfos[key]?.map .skills
  | .formInfos, key => info.formInfos[key]?.map .forms
  | .baseExtensionInfos, key => info.baseExtensionInfos[key]?.map .extension
  | .extensionSkillInfos, key => info.extensionSkillInfos[key]?.map .skills
  | .shortcutInfos, key => info.shortcutInfos[key]?.map .shortcut
  | .commonEvents, key => info.commonEvents[key]?.map .commonEvent

/-- The places that are cleared with a module. -/
def clears (info : InnerBundleInfo) (modulePackage : String)
    (module : InnerModuleInfo) : MapName → String → Bool
  | .innerModuleInfos, key => key = modulePackage
  | .baseAbilityInfos, key => module.abilityKeys.contains key
  | .skillInfos, key => module.skillKeys.contains key
  | .formInfos, key =>
      module.abilityKeys.contains key && info.baseAbilityInfos.contains key
  | .baseExtensionInfos, key => module.extensionKeys.contains key
  | .extensionSkillInfos, key => module.extensionSkillKeys.contains key
  | .shortcutInfos, key | .commonEvents, key =>
      Text.contains key ("." ++ modulePackage ++ ".")

variable {info : InnerBundleInfo}

/-- Where there was an entry it stays. -/
theorem entryAt_addAllModuleInfos (newInfo : InnerBundleInfo) (name : MapName)
    (key : String) :
    (info.addAllModuleInfos newInfo).entryAt name key =
      (info.entryAt name key).or (newInfo.entryAt name key) := by
  have merged {α β : Type} (old new : StringMap α) (entry : α → β) :
      (old.addNew new)[key]?.map entry =
        (old[key]?.map entry).or (new[key]?.map entry) := by
    rw [StringMap.getElem?_addNew]
    cases old[key]? <;> rfl
  cases name <;> exact merged _ _ _

/-- A module is removed by clearing its places. -/
theorem entryAt_removeModuleInfo {modulePackage : String}
    {module : InnerModuleInfo}
    (found : info.innerModuleInfos[modulePackage]? = some module)
    (name : MapName) (key : String) :
    (info.removeModuleInfo modulePackage).entryAt name key =
      if info.clears modulePackage module name key then none
      else info.entryAt name key := by
  have mapped {α β : Type} (cleared : Bool) (value : Option α)
      (entry : α → β) :
      (if cleared then none else value).map entry =
        if cleared then none else value.map entry := by
    cases cleared <;> rfl
  have erased {α β : Type} (map : StringMap α) (keys : List String)
      (entry : α → β) :
      (map.eraseAll keys)[key]?.map entry =
        if keys.contains key then none else map[key]?.map entry := by
    rw [StringMap.getElem?_eraseAll, mapped]
  have erasedContaining {α β : Type} (map : StringMap α) (text : String)
      (entry : α → β) :
      (map.eraseContaining text)[key]?.map entry =
        if Text.contains key text then none else map[key]?.map entry := by
    rw [StringMap.getElem?_eraseContaining, mapped]
  unfold removeModuleInfo
  rw [found]
  cases name with
  | innerModuleInfos =>
      by_cases same : key = modulePackage
      · simp [entryAt, clears, same]
      · simp [entryAt, clears, same, Std.ExtTreeMap.getElem?_erase,
          Ne.symm same]
  | formInfos =>
      have filtered : (module.abilityKeys.filter
          info.baseAbilityInfos.contains).contains key =
            info.clears modulePackage module .formInfos key := by
        rw [Bool.eq_iff_iff]
        simp [clears]
      rw [← filtered]
      exact erased _ _ _
  | baseAbilityInfos => exact erased _ _ _
  | skillInfos => exact erased _ _ _
  | baseExtensionInfos => exact erased _ _ _
  | extensionSkillInfos => exact erased _ _ _
  | shortcutInfos => exact erasedContaining _ _ _
  | commonEvents => exact erasedContaining _ _ _

end InnerBundleInfo

end AppExecFwk
