import AppExecFwk.Info.ModuleEntries
import AppExecFwk.Profile.StoredDeclarations

/-!
# Removing a module

The object of an application is merged from the objects of its modules, each
made from a profile.  A module is removed by the keys that it lists, and its
shortcuts and common events by its package somewhere in their keys.  This clears
exactly the entries of the module if no other module has an ability or extension
of the same key, or a shortcut or common event whose key happens to contain the
package.
-/

namespace AppExecFwk

/-- Nothing at all is known of the application. -/
structure InnerBundleInfo.IsFresh (info : InnerBundleInfo) : Prop extends
    info.HasNoModules where
  shortcutInfos : info.shortcutInfos = ∅
  commonEvents : info.commonEvents = ∅

/-- The object was made from an accepted profile of either format. -/
def InnerBundleInfo.IsParsed (info : InnerBundleInfo) : Prop :=
  ∃ platform start results document, InnerBundleInfo.IsFresh start ∧
    (ProfileDocument.transformTo platform start document results).1 =
      .ok (ErrCode.ok, info)

/-- The entries of one module, with the keys under which the module lists
them. -/
structure InnerBundleInfo.IsOfModule (info : InnerBundleInfo)
    (module : InnerModuleInfo) : Prop where
  innerModuleInfos : ∀ key : String, info.innerModuleInfos[key]? =
    if key = info.currentPackage then some module else none
  baseAbilityInfos : ∀ key, key ∈ info.baseAbilityInfos ↔
    key ∈ module.abilityKeys
  skillInfos : ∀ key, key ∈ info.skillInfos ↔ key ∈ module.skillKeys
  skillKeys : module.skillKeys = module.abilityKeys
  formInfos : ∀ key ∈ info.formInfos, key ∈ module.abilityKeys
  baseExtensionInfos : ∀ key, key ∈ info.baseExtensionInfos ↔
    key ∈ module.extensionKeys
  extensionSkillInfos : ∀ key, key ∈ info.extensionSkillInfos ↔
    key ∈ module.extensionSkillKeys
  extensionSkillKeys : module.extensionSkillKeys = module.extensionKeys
  shortcutInfos : ∀ key ∈ info.shortcutInfos,
    Text.contains key ("." ++ info.currentPackage ++ ".") = true
  commonEvents : ∀ key ∈ info.commonEvents,
    Text.contains key ("." ++ info.currentPackage ++ ".") = true

/-- The package stands in every key that is composed with it. -/
theorem contains_abilityKey (bundleName package name : String) :
    Text.contains (abilityKey bundleName package name)
      ("." ++ package ++ ".") = true := by
  rw [Text.contains_iff_occurs]
  refine ⟨bundleName.toList, name.toList, ?_⟩
  simp [abilityKey, String.toList_append]

namespace Written

variable {declared : Declared} {stored : List AbilityInfo}
  {blank module : InnerModuleInfo} {start info : InnerBundleInfo}

theorem isOfModule_withModule {applicationInfo : ApplicationInfo}
    {bundleInfo : BundleInfo} (fresh : start.HasNoModules)
    (noKeys : blank.HasNoKeys)
    (written : Written declared.abilities stored declared.extensions blank
      module start info)
    (shortcuts : ∀ key ∈ start.shortcutInfos,
      Text.contains key ("." ++ declared.package ++ ".") = true)
    (events : ∀ key ∈ start.commonEvents,
      Text.contains key ("." ++ declared.package ++ ".") = true) :
    (info.withModule declared.package applicationInfo bundleInfo
      module).IsOfModule module := by
  have abilityKeys : module.abilityKeys = declared.abilities.map (·.key) := by
    rw [written.abilityKeys, noKeys.abilityKeys, List.nil_append]
  have skillKeys : module.skillKeys = declared.abilities.map (·.key) := by
    rw [written.skillKeys, noKeys.skillKeys, List.nil_append]
  have extensionKeys :
      module.extensionKeys = declared.extensions.map (·.key) := by
    rw [written.extensionKeys, noKeys.extensionKeys, List.nil_append]
  have extensionSkillKeys :
      module.extensionSkillKeys = declared.extensions.map (·.key) := by
    rw [written.extensionSkillKeys, noKeys.extensionSkillKeys, List.nil_append]
  exact {
    innerModuleInfos := by
      intro key
      change (info.innerModuleInfos.insertIfNew declared.package module)[key]? =
        if key = declared.package then _ else _
      rw [written.innerModuleInfos, fresh.innerModuleInfos,
        Std.ExtTreeMap.getElem?_insertIfNew]
      by_cases same : key = declared.package
      · simp [same]
      · simp [same, Ne.symm same]
    baseAbilityInfos := by
      intro key
      rw [abilityKeys]
      exact written.mem_baseAbilityInfos fresh
    skillInfos := by
      intro key
      rw [skillKeys]
      exact written.mem_skillInfos fresh
    skillKeys := skillKeys.trans abilityKeys.symm
    formInfos := by
      intro key member
      change key ∈ info.formInfos at member
      rw [written.formInfos, fresh.formInfos, Std.ExtTreeMap.mem_storeAll,
        List.mem_map] at member
      rw [abilityKeys]
      obtain impossible | ⟨entry, inside, rfl⟩ := member
      · simp at impossible
      · obtain ⟨ability, listed, forms⟩ := List.mem_filterMap.mp inside
        obtain ⟨_, _, rfl⟩ := Option.map_eq_some_iff.mp forms
        exact List.mem_map.mpr ⟨ability, listed, rfl⟩
    baseExtensionInfos := by
      intro key
      rw [extensionKeys]
      exact written.mem_baseExtensionInfos fresh
    extensionSkillInfos := by
      intro key
      rw [extensionSkillKeys]
      exact written.mem_extensionSkillInfos fresh
    extensionSkillKeys := extensionSkillKeys.trans extensionKeys.symm
    shortcutInfos := by
      intro key member
      change key ∈ info.shortcutInfos at member
      rw [written.shortcutInfos] at member
      exact shortcuts key member
    commonEvents := by
      intro key member
      change key ∈ info.commonEvents at member
      rw [written.commonEvents] at member
      exact events key member }

end Written

/-- Before the loop over the abilities the keys of the shortcuts and common
events are there. -/
theorem BundleProfile.contains_beforeAbilities {platform : Platform}
    {configJson : ProfileReader.ConfigJson} {start : InnerBundleInfo}
    (fresh : start.IsFresh) :
    let info := (beforeAbilities platform configJson start).innerBundleInfo
    (∀ key ∈ info.shortcutInfos,
        Text.contains key ("." ++ configJson.module.package ++ ".") = true) ∧
      ∀ key ∈ info.commonEvents,
        Text.contains key ("." ++ configJson.module.package ++ ".") = true := by
  unfold beforeAbilities
  rw [insertShortcuts_eq, insertCommonEvents_eq]
  dsimp only
  rw [fresh.shortcutInfos, fresh.commonEvents]
  constructor
  · intro key member
    rw [Std.ExtTreeMap.mem_storeAll, shortcutEntries, List.map_map,
      List.mem_map] at member
    obtain impossible | ⟨shortcut, _, rfl⟩ := member
    · simp at impossible
    · exact contains_abilityKey _ _ _
  · intro key member
    rw [Std.ExtTreeMap.mem_storeAll] at member
    obtain impossible | listed := member
    · simp at impossible
    · split at listed
      · rw [commonEventEntries, List.map_map, List.mem_map] at listed
        obtain ⟨event, _, rfl⟩ := listed
        exact contains_abilityKey _ _ _
      · simp at listed

/-- Either parser leaves the entries of one module. -/
theorem InnerBundleInfo.IsParsed.isOfModule {info : InnerBundleInfo}
    (parsed : info.IsParsed) : ∃ module, info.IsOfModule module := by
  obtain ⟨platform, start, results, document, fresh, accepted⟩ := parsed
  cases document with
  | configJson json =>
      obtain ⟨configJson, _, converted⟩ :=
        BundleProfile.exists_of_transformTo accepted
      obtain ⟨checked, stored, after, bundleInfo, _, visited, rfl⟩ :=
        BundleProfile.toInnerBundleInfo_written converted
      have noModules := @BundleProfile.hasNoModules_beforeAbilities platform
        checked start fresh.toHasNoModules
      obtain ⟨shortcuts, events⟩ :=
        @BundleProfile.contains_beforeAbilities platform checked start fresh
      exact ⟨after.innerModuleInfo, visited.written.isOfModule_withModule
        noModules ⟨rfl, rfl, rfl, rfl⟩ shortcuts events⟩
  | moduleJson json =>
      obtain ⟨moduleJson, _, converted⟩ :=
        ModuleProfile.exists_of_transformTo accepted
      obtain ⟨blank, module, written, applicationInfo, bundleInfo, all, noKeys,
        _, _, rfl⟩ := ModuleProfile.toInnerBundleInfo_written converted
      refine ⟨module, all.isOfModule_withModule fresh.toHasNoModules noKeys ?_
        ?_⟩
      · simp [fresh.shortcutInfos]
      · simp [fresh.commonEvents]

/-- The object of an application, and the objects of its modules that were
merged into it in turn. -/
inductive BuiltFrom : List InnerBundleInfo → InnerBundleInfo → Prop
  | parsed {piece : InnerBundleInfo} (isParsed : piece.IsParsed) :
      BuiltFrom [piece] piece
  | added {pieces : List InnerBundleInfo} {info piece : InnerBundleInfo}
      (built : BuiltFrom pieces info) (isParsed : piece.IsParsed)
      (named : piece.currentPackage ≠ "")
      (absent : info.findModule piece.currentPackage = false) :
      BuiltFrom (pieces ++ [piece]) (info.addModuleInfo piece)

/-- Removing the module clears the entries of its object and no other entry. -/
def RemovesExactly (pieces : List InnerBundleInfo) (info : InnerBundleInfo)
    (modulePackage : String) : Prop :=
  ∀ piece ∈ pieces, ∀ name key, (piece.entryAt name key).isSome = true →
    (info.removeModuleInfo modulePackage).entryAt name key =
      if piece.currentPackage = modulePackage then none
      else info.entryAt name key

/-- Adding a module and removing it gives all entries back. -/
def IsRestoredAfter (info newInfo : InnerBundleInfo) : Prop :=
  ∀ name key, ((info.addModuleInfo newInfo).removeModuleInfo
    newInfo.currentPackage).entryAt name key = info.entryAt name key

namespace InnerBundleInfo

/-- The other module has no ability or extension under a key of this one, and no
shortcut or common event with the package of this one in its key. -/
structure IsApartFrom (own other : InnerBundleInfo) : Prop where
  abilities : ∀ key ∈ own.baseAbilityInfos, key ∉ other.baseAbilityInfos
  extensions : ∀ key ∈ own.baseExtensionInfos, key ∉ other.baseExtensionInfos
  shortcuts : ∀ key ∈ other.shortcutInfos,
    Text.contains key ("." ++ own.currentPackage ++ ".") = false
  commonEvents : ∀ key ∈ other.commonEvents,
    Text.contains key ("." ++ own.currentPackage ++ ".") = false

/-- The places that are taken for the module's. -/
def Takes (own : InnerBundleInfo) : MapName → String → Prop
  | .innerModuleInfos, key => key = own.currentPackage
  | .baseAbilityInfos, key | .skillInfos, key | .formInfos, key =>
      key ∈ own.baseAbilityInfos
  | .baseExtensionInfos, key | .extensionSkillInfos, key =>
      key ∈ own.baseExtensionInfos
  | .shortcutInfos, key | .commonEvents, key =>
      Text.contains key ("." ++ own.currentPackage ++ ".") = true

theorem isSome_map_getElem? {α β : Type} {map : StringMap α} {key : String}
    {entry : α → β} : (map[key]?.map entry).isSome = true ↔ key ∈ map := by
  rw [Option.isSome_map, ← Std.ExtTreeMap.mem_iff_isSome_getElem?]

variable {own other : InnerBundleInfo} {module : InnerModuleInfo}

/-- A module's own entries are taken for its. -/
theorem IsOfModule.takes (ofModule : own.IsOfModule module) {name : MapName}
    {key : String} (present : (own.entryAt name key).isSome = true) :
    own.Takes name key := by
  cases name with
  | innerModuleInfos =>
      rw [entryAt, ofModule.innerModuleInfos] at present
      by_contra another
      rw [if_neg (show ¬key = own.currentPackage from another)] at present
      cases present
  | baseAbilityInfos => exact isSome_map_getElem?.mp present
  | skillInfos =>
      have listed := (ofModule.skillInfos key).mp
        (isSome_map_getElem?.mp present)
      rw [ofModule.skillKeys] at listed
      exact (ofModule.baseAbilityInfos key).mpr listed
  | formInfos =>
      exact (ofModule.baseAbilityInfos key).mpr
        (ofModule.formInfos key (isSome_map_getElem?.mp present))
  | baseExtensionInfos => exact isSome_map_getElem?.mp present
  | extensionSkillInfos =>
      have listed := (ofModule.extensionSkillInfos key).mp
        (isSome_map_getElem?.mp present)
      rw [ofModule.extensionSkillKeys] at listed
      exact (ofModule.baseExtensionInfos key).mpr listed
  | shortcutInfos =>
      exact ofModule.shortcutInfos key (isSome_map_getElem?.mp present)
  | commonEvents =>
      exact ofModule.commonEvents key (isSome_map_getElem?.mp present)

/-- Two modules are apart exactly if no entry of the other is taken. -/
theorem IsOfModule.isApartFrom_iff (ofModule : other.IsOfModule module)
    (different : other.currentPackage ≠ own.currentPackage) :
    own.IsApartFrom other ↔
      ∀ name key, (other.entryAt name key).isSome = true →
        ¬own.Takes name key := by
  constructor
  · intro apart name key present
    have taken := ofModule.takes present
    cases name with
    | innerModuleInfos =>
        intro same
        exact different (taken.symm.trans same)
    | baseAbilityInfos => exact fun mine => apart.abilities key mine taken
    | skillInfos => exact fun mine => apart.abilities key mine taken
    | formInfos => exact fun mine => apart.abilities key mine taken
    | baseExtensionInfos => exact fun mine => apart.extensions key mine taken
    | extensionSkillInfos => exact fun mine => apart.extensions key mine taken
    | shortcutInfos =>
        have absent := apart.shortcuts key (isSome_map_getElem?.mp present)
        simp [Takes, absent]
    | commonEvents =>
        have absent := apart.commonEvents key (isSome_map_getElem?.mp present)
        simp [Takes, absent]
  · intro untaken
    exact {
      abilities := fun key mine theirs =>
        untaken .baseAbilityInfos key (isSome_map_getElem?.mpr theirs) mine
      extensions := fun key mine theirs =>
        untaken .baseExtensionInfos key (isSome_map_getElem?.mpr theirs) mine
      shortcuts := fun key theirs => Bool.eq_false_iff.mpr
        (untaken .shortcutInfos key (isSome_map_getElem?.mpr theirs))
      commonEvents := fun key theirs => Bool.eq_false_iff.mpr
        (untaken .commonEvents key (isSome_map_getElem?.mpr theirs)) }

end InnerBundleInfo

namespace BuiltFrom

variable {pieces : List InnerBundleInfo} {info : InnerBundleInfo}

theorem addModuleInfo_eq {newInfo : InnerBundleInfo}
    (named : newInfo.currentPackage ≠ "")
    (absent : info.findModule newInfo.currentPackage = false) :
    info.addModuleInfo newInfo = info.addAllModuleInfos newInfo := by
  unfold InnerBundleInfo.addModuleInfo
  rw [if_neg named, absent, if_neg Bool.false_ne_true]

theorem isParsed (built : BuiltFrom pieces info) :
    ∀ piece ∈ pieces, piece.IsParsed := by
  induction built with
  | parsed isParsed => simpa using isParsed
  | added _ isParsed _ _ ih =>
      intro piece member
      rcases List.mem_append.mp member with before | last
      · exact ih piece before
      · rwa [List.mem_singleton.mp last]

/-- At each place stands the entry of the first module that has one. -/
theorem entryAt_eq (built : BuiltFrom pieces info) (name : MapName)
    (key : String) :
    info.entryAt name key = pieces.findSome? (·.entryAt name key) := by
  induction built with
  | @parsed piece _ =>
      rw [List.findSome?_singleton]
  | added _ _ named absent ih =>
      rw [addModuleInfo_eq named absent,
        InnerBundleInfo.entryAt_addAllModuleInfos, ih, List.findSome?_append,
        List.findSome?_singleton]

theorem isSome_entryAt_iff (built : BuiltFrom pieces info) {name : MapName}
    {key : String} :
    (info.entryAt name key).isSome = true ↔
      ∃ piece ∈ pieces, (piece.entryAt name key).isSome = true := by
  rw [built.entryAt_eq, List.isSome_findSome?, List.any_eq_true]

/-- A module is found as its own object has it. -/
theorem module_eq (built : BuiltFrom pieces info) {own : InnerBundleInfo}
    {module : InnerModuleInfo} (member : own ∈ pieces)
    (ofModule : own.IsOfModule module) :
    info.innerModuleInfos[own.currentPackage]? = some module := by
  have itself : own.innerModuleInfos[own.currentPackage]? = some module := by
    rw [ofModule.innerModuleInfos, if_pos rfl]
  induction built with
  | parsed _ => rwa [← List.mem_singleton.mp member]
  | @added pieces info piece _ _ named absent ih =>
      rw [addModuleInfo_eq named absent]
      change (info.innerModuleInfos.addNew
        piece.innerModuleInfos)[own.currentPackage]? = _
      rw [StringMap.getElem?_addNew]
      rcases List.mem_append.mp member with before | last
      · rw [ih before, Option.some_or]
      · rw [← List.mem_singleton.mp last] at absent ⊢
        have none : info.innerModuleInfos[own.currentPackage]? = none :=
          Std.ExtTreeMap.getElem?_eq_none_of_contains_eq_false absent
        rw [none, Option.none_or, itself]

/-- What is cleared with a module is what is taken for its. -/
theorem clears_iff (built : BuiltFrom pieces info) {own : InnerBundleInfo}
    {module : InnerModuleInfo} (member : own ∈ pieces)
    (ofModule : own.IsOfModule module) (name : MapName) (key : String) :
    info.clears own.currentPackage module name key = true ↔
      own.Takes name key := by
  have listed : key ∈ module.abilityKeys ↔ key ∈ own.baseAbilityInfos :=
    (ofModule.baseAbilityInfos key).symm
  have listedExtension :
      key ∈ module.extensionKeys ↔ key ∈ own.baseExtensionInfos :=
    (ofModule.baseExtensionInfos key).symm
  have stored (mine : key ∈ own.baseAbilityInfos) :
      key ∈ info.baseAbilityInfos := by
    have present : (info.entryAt .baseAbilityInfos key).isSome = true :=
      built.isSome_entryAt_iff.mpr
        ⟨own, member, InnerBundleInfo.isSome_map_getElem?.mpr mine⟩
    exact InnerBundleInfo.isSome_map_getElem?.mp present
  cases name with
  | innerModuleInfos => simp [InnerBundleInfo.clears, InnerBundleInfo.Takes]
  | baseAbilityInfos =>
      simp [InnerBundleInfo.clears, InnerBundleInfo.Takes, listed]
  | skillInfos =>
      simp [InnerBundleInfo.clears, InnerBundleInfo.Takes, ofModule.skillKeys,
        listed]
  | formInfos =>
      simpa [InnerBundleInfo.clears, InnerBundleInfo.Takes, listed] using stored
  | baseExtensionInfos =>
      simp [InnerBundleInfo.clears, InnerBundleInfo.Takes, listedExtension]
  | extensionSkillInfos =>
      simp [InnerBundleInfo.clears, InnerBundleInfo.Takes,
        ofModule.extensionSkillKeys, listedExtension]
  | shortcutInfos => rfl
  | commonEvents => rfl

/-- A module is removed by clearing the places that are taken for its. -/
theorem entryAt_removeModuleInfo (built : BuiltFrom pieces info)
    {own : InnerBundleInfo} (member : own ∈ pieces) (name : MapName)
    (key : String) :
    (own.Takes name key →
      (info.removeModuleInfo own.currentPackage).entryAt name key = none) ∧
    (¬own.Takes name key →
      (info.removeModuleInfo own.currentPackage).entryAt name key =
        info.entryAt name key) := by
  obtain ⟨module, ofModule⟩ := (built.isParsed own member).isOfModule
  have clears := built.clears_iff member ofModule name key
  rw [InnerBundleInfo.entryAt_removeModuleInfo
    (built.module_eq member ofModule)]
  constructor
  · intro taken
    rw [if_pos (clears.mpr taken)]
  · intro untaken
    rw [if_neg (mt clears.mp untaken)]

/-- The module is removed exactly if it is apart from the other modules. -/
theorem removesExactly_iff (built : BuiltFrom pieces info)
    {own : InnerBundleInfo} (member : own ∈ pieces) :
    RemovesExactly pieces info own.currentPackage ↔
      ∀ other ∈ pieces, other.currentPackage ≠ own.currentPackage →
        own.IsApartFrom other := by
  constructor
  · intro exact other inside different
    obtain ⟨module, ofModule⟩ := (built.isParsed other inside).isOfModule
    rw [ofModule.isApartFrom_iff different]
    intro name key present taken
    have kept := exact other inside name key present
    rw [if_neg different,
      (built.entryAt_removeModuleInfo member name key).1 taken] at kept
    have stored := built.isSome_entryAt_iff.mpr ⟨other, inside, present⟩
    rw [← kept] at stored
    cases stored
  · intro apart other inside name key present
    obtain ⟨module, ofModule⟩ := (built.isParsed other inside).isOfModule
    split
    · next same =>
        have taken := ofModule.takes present
        have cleared := (built.entryAt_removeModuleInfo inside name key).1 taken
        rwa [same] at cleared
    · next different =>
        have untaken := (ofModule.isApartFrom_iff different).mp
          (apart other inside different) name key present
        exact (built.entryAt_removeModuleInfo member name key).2 untaken

/-- A new module can be added and removed without a trace exactly if it is
apart from the modules that are there. -/
theorem isRestoredAfter_iff (built : BuiltFrom pieces info)
    {newInfo : InnerBundleInfo} (isParsed : newInfo.IsParsed)
    (absent : info.findModule newInfo.currentPackage = false) :
    IsRestoredAfter info newInfo ↔
      newInfo.currentPackage = "" ∨
        ∀ other ∈ pieces, newInfo.IsApartFrom other := by
  have none : info.innerModuleInfos[newInfo.currentPackage]? = none :=
    Std.ExtTreeMap.getElem?_eq_none_of_contains_eq_false absent
  by_cases named : newInfo.currentPackage = ""
  · -- Nothing is added, and nothing is there to be removed.
    have same : info.addModuleInfo newInfo = info := if_pos named
    refine iff_of_true (fun name key => ?_) (.inl named)
    rw [same, InnerBundleInfo.removeModuleInfo, none]
  · rw [or_iff_right named]
    have added := built.added isParsed named absent
    have last : newInfo ∈ pieces ++ [newInfo] := by simp
    obtain ⟨module, ofModule⟩ := isParsed.isOfModule
    have different {other : InnerBundleInfo} (inside : other ∈ pieces) :
        other.currentPackage ≠ newInfo.currentPackage := by
      intro same
      obtain ⟨module, ofModule⟩ := (built.isParsed other inside).isOfModule
      have found := built.module_eq inside ofModule
      rw [same, none] at found
      cases found
    constructor
    · intro restored other inside
      obtain ⟨module, ofModule⟩ := (built.isParsed other inside).isOfModule
      rw [ofModule.isApartFrom_iff (different inside)]
      intro name key present taken
      have kept := restored name key
      rw [(added.entryAt_removeModuleInfo last name key).1 taken] at kept
      have stored := built.isSome_entryAt_iff.mpr ⟨other, inside, present⟩
      rw [← kept] at stored
      cases stored
    · intro apart name key
      by_cases taken : newInfo.Takes name key
      · rw [(added.entryAt_removeModuleInfo last name key).1 taken, eq_comm,
          ← Option.not_isSome_iff_eq_none]
        intro stored
        obtain ⟨other, inside, present⟩ := built.isSome_entryAt_iff.mp stored
        obtain ⟨module, ofModule⟩ := (built.isParsed other inside).isOfModule
        exact (ofModule.isApartFrom_iff (different inside)).mp
          (apart other inside) name key present taken
      · have nothing : newInfo.entryAt name key = Option.none := by
          rw [← Option.not_isSome_iff_eq_none]
          exact mt ofModule.takes taken
        rw [(added.entryAt_removeModuleInfo last name key).2 taken,
          addModuleInfo_eq named absent,
          InnerBundleInfo.entryAt_addAllModuleInfos, nothing, Option.or_none]

/-- The modules of the object are those of its pieces. -/
theorem findModule_iff (built : BuiltFrom pieces info) {modulePackage : String} :
    info.findModule modulePackage = true ↔
      ∃ own ∈ pieces, own.currentPackage = modulePackage := by
  constructor
  · intro found
    have present : (info.entryAt .innerModuleInfos modulePackage).isSome = true :=
      InnerBundleInfo.isSome_map_getElem?.mpr found
    obtain ⟨own, member, entry⟩ := built.isSome_entryAt_iff.mp present
    obtain ⟨module, ofModule⟩ := (built.isParsed own member).isOfModule
    exact ⟨own, member, (ofModule.takes entry).symm⟩
  · rintro ⟨own, member, rfl⟩
    obtain ⟨module, ofModule⟩ := (built.isParsed own member).isOfModule
    have found := built.module_eq member ofModule
    exact Std.ExtTreeMap.contains_eq_isSome_getElem?.trans (by simp [found])

/-- Of every object that is built from parsed modules, a module is removed
exactly, and a new module can be added and removed again without a trace, exactly
if it is apart from the other modules. -/
theorem moduleRemoval_exact_iff (built : BuiltFrom pieces info) :
    (∀ modulePackage, info.findModule modulePackage = true →
      (RemovesExactly pieces info modulePackage ↔
        ∀ own ∈ pieces, own.currentPackage = modulePackage →
          ∀ other ∈ pieces, other.currentPackage ≠ modulePackage →
            own.IsApartFrom other)) ∧
      ∀ newInfo, InnerBundleInfo.IsParsed newInfo →
        info.findModule newInfo.currentPackage = false →
          (IsRestoredAfter info newInfo ↔ newInfo.currentPackage = "" ∨
            ∀ other ∈ pieces, newInfo.IsApartFrom other) := by
  constructor
  · intro modulePackage found
    obtain ⟨own, member, named⟩ := built.findModule_iff.mp found
    constructor
    · rintro exact' other inside rfl
      exact (built.removesExactly_iff inside).mp exact'
    · intro apart
      rw [← named] at apart ⊢
      exact (built.removesExactly_iff member).mpr (apart own member rfl)
  · intro newInfo isParsed absent
    exact built.isRestoredAfter_iff isParsed absent

end BuiltFrom

/-- A `config.json` of a module with one shortcut. -/
def shortcutJson (package : String) : Json :=
  .object
    [("app", .object
      [("apiVersion", .object [("compatible", .integer 8)]),
        ("bundleName", .string "com.example.music"),
        ("version", .object
          [("code", .integer 1), ("name", .string "1.0.0")])]),
      ("deviceConfig", .object []),
      ("module", .object
        [("deviceType", .array [.string "phone"]),
          ("distro", .object
            [("deliveryWithInstall", .boolean true),
              ("moduleName", .string package),
              ("moduleType", .string "feature")]),
          ("package", .string package),
          ("shortcuts", .array
            [.object [("shortcutId", .string "open")]])])]

/-- What the parser makes of the profile. -/
def shortcutInfoOf (package : String) : Except JsonException
    (ErrCode × InnerBundleInfo) :=
  ((ProfileDocument.configJson (shortcutJson package)).transformTo plainPlatform
    {} {}).1

theorem isParsed_shortcutInfoOf {package : String}
    (accepted : (match shortcutInfoOf package with
      | .ok (code, info) =>
          decide (code = ErrCode.ok) && info.currentPackage == package &&
            info.shortcutInfos.contains
              ("com.example.music." ++ package ++ ".open")
      | .error _ => false) = true) :
    ∃ info : InnerBundleInfo, info.IsParsed ∧ info.currentPackage = package ∧
      "com.example.music." ++ package ++ ".open" ∈ info.shortcutInfos := by
  split at accepted
  · next code info outcome =>
      simp only [Bool.and_eq_true, decide_eq_true_eq, beq_iff_eq] at accepted
      obtain ⟨⟨rfl, named⟩, stored⟩ := accepted
      exact ⟨info, ⟨plainPlatform, {}, {}, _, ⟨⟨rfl, rfl, rfl, rfl, rfl, rfl⟩,
        rfl, rfl⟩, outcome⟩, named, stored⟩
  · cases accepted

/-- The package of the second module stands in the name of the bundle. -/
theorem exists_builtFrom_music :
    ∃ entry feature info : InnerBundleInfo,
      BuiltFrom [entry, feature] info ∧
        entry.currentPackage = "com.example.entry" ∧
        feature.currentPackage = "example" ∧
        "com.example.music.com.example.entry.open" ∈ entry.shortcutInfos := by
  obtain ⟨entry, isParsed, named, stored⟩ :=
    @isParsed_shortcutInfoOf "com.example.entry" (by decide +kernel)
  obtain ⟨feature, isParsed', named', _⟩ :=
    @isParsed_shortcutInfoOf "example" (by decide +kernel)
  have first := BuiltFrom.parsed isParsed
  have absent : entry.findModule feature.currentPackage = false := by
    rw [Bool.eq_false_iff]
    intro found
    obtain ⟨own, member, same⟩ := first.findModule_iff.mp found
    rw [List.mem_singleton.mp member, named, named'] at same
    exact absurd same (by decide)
  exact ⟨entry, feature, _, first.added isParsed' (by simp [named']) absent,
    named, named', stored⟩

theorem moduleRemoval_exact_iff_music :
    ∃ pieces info, BuiltFrom pieces info ∧
      (∀ modulePackage, info.findModule modulePackage = true →
        (RemovesExactly pieces info modulePackage ↔
          ∀ own ∈ pieces, own.currentPackage = modulePackage →
            ∀ other ∈ pieces, other.currentPackage ≠ modulePackage →
              own.IsApartFrom other)) ∧
        ∀ newInfo, InnerBundleInfo.IsParsed newInfo →
          info.findModule newInfo.currentPackage = false →
            (IsRestoredAfter info newInfo ↔ newInfo.currentPackage = "" ∨
              ∀ other ∈ pieces, newInfo.IsApartFrom other) := by
  obtain ⟨entry, feature, info, built, _⟩ := exists_builtFrom_music
  exact ⟨_, info, built, built.moduleRemoval_exact_iff⟩

/-- With the second module the shortcut of the first one is gone. -/
theorem moduleRemoval_not_exact :
    ¬∀ pieces info, BuiltFrom pieces info →
      ∀ modulePackage, info.findModule modulePackage = true →
        RemovesExactly pieces info modulePackage := by
  intro exact'
  obtain ⟨entry, feature, info, built, named, named', stored⟩ :=
    exists_builtFrom_music
  have member : feature ∈ [entry, feature] := by simp
  have found := built.findModule_iff.mpr ⟨feature, member, rfl⟩
  have different : entry.currentPackage ≠ feature.currentPackage := by
    rw [named, named']
    decide
  have apart := (built.removesExactly_iff member).mp (exact' _ _ built _ found)
    entry (by simp) different
  have absent := apart.shortcuts _ stored
  rw [named'] at absent
  revert absent
  decide +kernel

end AppExecFwk
