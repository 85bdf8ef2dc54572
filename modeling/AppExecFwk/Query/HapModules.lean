import AppExecFwk.Library.Attribution
import AppExecFwk.Profile.ModuleRemoval
import AppExecFwk.Query.BundleInfoQueries

/-!
# The information about one module

The abilities and extensions of all modules stand in two maps of the
application, under keys composed of the bundle, the package and the name.  Those
of a module are found by its package between dots anywhere in the key.  They are
exactly the ones that the module declares if the names in each profile are
distinct and the package does not happen to stand in a key of another module.
-/

namespace AppExecFwk

/-- What the object of one module holds of the declarations of its profile. -/
structure Declared.IsHeldBy (declared : Declared) (info : InnerBundleInfo) :
    Prop where
  package : info.currentPackage = declared.package
  abilities : ∀ key : String,
    info.baseAbilityInfos[key]?.map AbilityInfo.unmarked =
      (declared.abilities.map fun ability =>
        (ability.key, ability.info)).lookup key
  extensions : ∀ key : String, info.baseExtensionInfos[key]? =
    (declared.extensions.map fun extension =>
      (extension.key, extension.info)).lookup key
  abilityPackages : ∀ ability ∈ declared.abilities,
    ability.info.package = declared.package
  extensionModules : ∀ extension ∈ declared.extensions,
    extension.info.moduleName = declared.package
  abilityKeys : ∀ ability ∈ declared.abilities,
    Text.contains ability.key ("." ++ declared.package ++ ".") = true
  extensionKeys : ∀ extension ∈ declared.extensions,
    Text.contains extension.key ("." ++ declared.package ++ ".") = true

namespace Written

variable {declared : Declared} {stored : List AbilityInfo}
  {blank module : InnerModuleInfo} {start info : InnerBundleInfo}
  (fresh : start.HasNoModules)
  (written : Written declared.abilities stored declared.extensions blank module
    start info)

include fresh written

theorem unmarked_getElem? (key : String) :
    info.baseAbilityInfos[key]?.map AbilityInfo.unmarked =
      (declared.abilities.map fun ability =>
        (ability.key, ability.info)).lookup key := by
  rw [written.baseAbilityInfos, fresh.baseAbilityInfos,
    Std.ExtTreeMap.storeAll, Std.ExtTreeMap.getElem?_foldl_insertIfNew,
    Std.ExtTreeMap.getElem?_empty, Option.none_or]
  have pairs := written.unmarked
  clear written
  generalize declared.abilities = abilities at pairs ⊢
  induction pairs with
  | nil => rfl
  | @cons ability entry abilities entries same _ ih =>
      rw [List.map_cons, List.zip_cons_cons, List.lookup_cons, List.map_cons,
        List.lookup_cons]
      cases key == ability.key with
      | true => exact congrArg some same
      | false => exact ih

theorem extension_getElem? (key : String) :
    info.baseExtensionInfos[key]? =
      (declared.extensions.map fun extension =>
        (extension.key, extension.info)).lookup key := by
  rw [written.baseExtensionInfos, fresh.baseExtensionInfos,
    Std.ExtTreeMap.storeAll, Std.ExtTreeMap.getElem?_foldl_insertIfNew,
    Std.ExtTreeMap.getElem?_empty, Option.none_or]

end Written

namespace BundleProfile

variable {platform : Platform} {isPreInstallApp : Bool}

/-- A loop that ends well has met valid abilities only. -/
theorem valid_of_visitAbilities {configJson : ProfileReader.ConfigJson}
    {abilities : List ProfileReader.Ability} {progress after : Progress}
    (visited : visitAbilities configJson isPreInstallApp progress abilities =
      (true, after)) :
    ∀ ability ∈ abilities, (toAbilityInfo configJson ability
      progress.applicationInfo.isSystemApp isPreInstallApp).isSome = true := by
  induction abilities generalizing progress with
  | nil => simp
  | cons head tail ih =>
      rw [visitAbilities] at visited
      cases step : visitAbility configJson isPreInstallApp progress head with
      | none =>
          rw [step] at visited
          cases visited
      | some middle =>
          rw [step] at visited
          have rest := ih visited
          rw [isSystemApp_visitAbility step] at rest
          intro ability member
          rcases List.mem_cons.mp member with rfl | later
          · unfold visitAbility at step
            split at step
            · cases step
            · next valid => rw [valid, Option.isSome_some]
          · exact rest ability later

theorem toAbilityInfo_package {configJson : ProfileReader.ConfigJson}
    {ability : ProfileReader.Ability} {isSystemApp : Bool}
    {abilityInfo : AbilityInfo}
    (valid : toAbilityInfo configJson ability isSystemApp isPreInstallApp =
      some abilityInfo) :
    abilityInfo.package = configJson.module.package := by
  unfold toAbilityInfo at valid
  dsimp only at valid
  split at valid
  · cases valid
  · split at valid
    · cases valid
    · cases valid
      rfl

/-- The abilities of an accepted profile have its package. -/
theorem package_of_accepted {configJson checked : ProfileReader.ConfigJson}
    {start info : InnerBundleInfo}
    (accepted : toInnerBundleInfo platform configJson start = (true, info))
    (valid : checkModuleInfosIsValid configJson = some checked) :
    ∀ ability ∈ (declared checked (start.appType = .systemApp)
      start.isPreInstallApp).abilities,
        ability.info.package = checked.module.package := by
  unfold toInnerBundleInfo at accepted
  split at accepted
  · cases accepted
  · rw [valid] at accepted
    dsimp only at accepted
    split at accepted
    · cases accepted
    · next after visited =>
        have system : (beforeAbilities platform checked
            start).applicationInfo.isSystemApp =
              decide (start.appType = .systemApp) :=
          isSystemApp_toApplicationInfo checked _
        have all := valid_of_visitAbilities visited
        rw [system] at all
        intro ability member
        obtain ⟨source, listed, rfl⟩ := List.mem_map.mp member
        obtain ⟨abilityInfo, found⟩ :=
          Option.isSome_iff_exists.mp (all source listed)
        change ((toAbilityInfo checked source (start.appType = .systemApp)
          start.isPreInstallApp).getD {}).package = _
        rw [found]
        exact toAbilityInfo_package found

end BundleProfile

/-- Either parser makes an object that holds the declarations. -/
theorem ProfileDocument.isHeldBy_of_accepted {platform : Platform}
    {start info : InnerBundleInfo} {results : ParseResults}
    {document : ProfileDocument} {declared : Declared}
    (fresh : start.HasNoModules)
    (accepted : (document.transformTo platform start results).1 =
      .ok (ErrCode.ok, info))
    (read : document.declared? start results = some declared) :
    declared.IsHeldBy info := by
  cases document with
  | configJson json =>
      obtain ⟨configJson, found, converted⟩ :=
        BundleProfile.exists_of_transformTo accepted
      obtain ⟨checked, stored, after, bundleInfo, valid, visited, same⟩ :=
        BundleProfile.toInnerBundleInfo_written converted
      have packages := BundleProfile.package_of_accepted converted valid
      have noModules := @BundleProfile.hasNoModules_beforeAbilities platform
        checked start fresh
      simp only [declared?, found, valid, Option.pure_def, Option.bind_eq_bind,
        Option.bind_some, Option.some.injEq] at read
      subst read same
      exact {
        package := rfl
        abilities := fun key =>
          (Written.unmarked_getElem? noModules visited.written key :)
        extensions := fun key =>
          (Written.extension_getElem? noModules visited.written key :)
        abilityPackages := packages
        extensionModules := by simp [BundleProfile.declared]
        abilityKeys := by
          intro ability member
          obtain ⟨source, _, rfl⟩ := List.mem_map.mp member
          exact contains_abilityKey _ _ _
        extensionKeys := by simp [BundleProfile.declared] }
  | moduleJson json =>
      obtain ⟨moduleJson, found, converted⟩ :=
        ModuleProfile.exists_of_transformTo accepted
      obtain ⟨blank, module, written, applicationInfo, bundleInfo, all, _, _, _,
        same⟩ := ModuleProfile.toInnerBundleInfo_written converted
      simp only [declared?, found, Option.pure_def, Option.bind_eq_bind,
        Option.bind_some, Option.some.injEq] at read
      subst read same
      exact {
        package := rfl
        abilities := fun key => (all.unmarked_getElem? fresh key :)
        extensions := fun key => (all.extension_getElem? fresh key :)
        abilityPackages := by
          intro ability member
          obtain ⟨source, _, rfl⟩ := List.mem_map.mp member
          rfl
        extensionModules := by
          intro extension member
          obtain ⟨source, _, rfl⟩ := List.mem_map.mp member
          rfl
        abilityKeys := by
          intro ability member
          obtain ⟨source, _, rfl⟩ := List.mem_map.mp member
          exact contains_abilityKey _ _ _
        extensionKeys := by
          intro extension member
          obtain ⟨source, _, rfl⟩ := List.mem_map.mp member
          exact contains_abilityKey _ _ _ }

theorem lookup_map_snd {δ β γ : Type} (items : List δ) (key : δ → String)
    (value : δ → β) (change : β → γ) (name : String) :
    ((items.map fun item => (key item, value item)).lookup name).map change =
      (items.map fun item => (key item, change (value item))).lookup name := by
  induction items with
  | nil => rfl
  | cons head tail ih =>
      rw [List.map_cons, List.lookup_cons, List.map_cons, List.lookup_cons]
      cases name == key head with
      | true => rfl
      | false => exact ih

/-- The object of one module with the declarations of its profile. -/
structure ParsedModule where
  info : InnerBundleInfo
  declared : Declared
  isParsed : ∃ platform start results document,
    InnerBundleInfo.IsFresh start ∧
      (ProfileDocument.transformTo platform start document results).1 =
        .ok (ErrCode.ok, info) ∧
      document.declared? start results = some declared

namespace ParsedModule

theorem isHeldBy (module : ParsedModule) :
    module.declared.IsHeldBy module.info := by
  obtain ⟨platform, start, results, document, fresh, accepted, read⟩ :=
    module.isParsed
  exact ProfileDocument.isHeldBy_of_accepted fresh.toHasNoModules accepted read

theorem info_isParsed (module : ParsedModule) : module.info.IsParsed := by
  obtain ⟨platform, start, results, document, fresh, accepted, _⟩ :=
    module.isParsed
  exact ⟨platform, start, results, document, fresh, accepted⟩

/-- The information about the module lists what its profile declares, apart from
the mark of launchers. -/
def IsListedIn (own : ParsedModule) (info : InnerBundleInfo) (userId : Int32) :
    Prop :=
  ∃ hapInfo, info.findHapModuleInfo own.declared.package userId =
      some hapInfo ∧
    (hapInfo.abilityInfos.map AbilityInfo.unmarked).Perm
      (own.declared.abilities.map fun ability =>
        info.abilityOfModule userId ability.info) ∧
    hapInfo.extensionInfos.Perm (own.declared.extensions.map (·.info))

/-- No two abilities and no two extensions have the same name. -/
def HasDistinctKeys (own : ParsedModule) : Prop :=
  (own.declared.abilities.map (·.key)).Nodup ∧
    (own.declared.extensions.map (·.key)).Nodup

/-- The package does not stand in a key of the other module. -/
def IsNotNamedIn (own other : ParsedModule) : Prop :=
  (∀ ability ∈ other.declared.abilities, Text.contains ability.key
      ("." ++ own.declared.package ++ ".") = false) ∧
    ∀ extension ∈ other.declared.extensions, Text.contains extension.key
      ("." ++ own.declared.package ++ ".") = false

end ParsedModule

namespace BuiltFrom

/-- No two modules have the same package. -/
theorem nodup_packages {pieces : List InnerBundleInfo} {info : InnerBundleInfo}
    (built : BuiltFrom pieces info) :
    (pieces.map (·.currentPackage)).Nodup := by
  induction built with
  | parsed _ => simp
  | @added pieces info piece built _ _ absent ih =>
      rw [List.map_append, List.nodup_append]
      refine ⟨ih, by simp, ?_⟩
      rintro package inside package' last rfl
      obtain ⟨own, member, same⟩ := List.mem_map.mp inside
      rw [List.map_singleton, List.mem_singleton] at last
      have found := built.findModule_iff.mpr ⟨own, member, same.trans last⟩
      rw [absent] at found
      cases found

section Modules

variable {modules : List ParsedModule} {info : InnerBundleInfo}
  (built : BuiltFrom (modules.map (·.info)) info)

include built

theorem nodup_declared : (modules.map (·.declared.package)).Nodup := by
  have distinct := built.nodup_packages
  rw [List.map_map] at distinct
  have same : modules.map (·.declared.package) =
      modules.map ((·.currentPackage) ∘ (·.info)) :=
    List.map_congr_left fun module _ => module.isHeldBy.package.symm
  rwa [same]

theorem baseAbilityInfos_getElem? (key : String) :
    info.baseAbilityInfos[key]? =
      modules.findSome? fun module => module.info.baseAbilityInfos[key]? := by
  have merged := built.entryAt_eq .baseAbilityInfos key
  rw [List.findSome?_map] at merged
  apply Option.map_injective (@ModuleEntry.ability.inj)
  rw [List.map_findSome?]
  exact merged

theorem baseExtensionInfos_getElem? (key : String) :
    info.baseExtensionInfos[key]? =
      modules.findSome? fun module => module.info.baseExtensionInfos[key]? := by
  have merged := built.entryAt_eq .baseExtensionInfos key
  rw [List.findSome?_map] at merged
  apply Option.map_injective (@ModuleEntry.extension.inj)
  rw [List.map_findSome?]
  exact merged

/-- The abilities of the modules are merged as they are declared. -/
theorem abilities_merged (userId : Int32) :
    Attribution.IsMerged modules (·.declared.package)
      (fun module => module.declared.abilities.map fun ability =>
        (ability.key, info.abilityOfModule userId ability.info))
      (fun package key => Text.contains key ("." ++ package ++ "."))
      AbilityInfo.package info.baseAbilityInfos
      (fun ability => (info.abilityOfModule userId ability).unmarked) where
  distinct := built.nodup_declared
  whole := by
    intro key
    have each (module : ParsedModule) :
        (module.info.baseAbilityInfos[key]?.map fun ability =>
          (info.abilityOfModule userId ability).unmarked) =
            (module.declared.abilities.map fun ability =>
              (ability.key,
                info.abilityOfModule userId ability.info)).lookup key := by
      have unmarked := congrArg (Option.map (info.abilityOfModule userId))
        (module.isHeldBy.abilities key)
      rw [Option.map_map, lookup_map_snd] at unmarked
      exact unmarked
    rw [built.baseAbilityInfos_getElem?, List.map_findSome?]
    simp only [Function.comp_def, each]
  marked := by
    intro module _ entry listed
    obtain ⟨ability, member, rfl⟩ := List.mem_map.mp listed
    exact module.isHeldBy.abilityKeys ability member
  tagged := by
    intro module _ entry listed
    obtain ⟨ability, member, rfl⟩ := List.mem_map.mp listed
    exact module.isHeldBy.abilityPackages ability member

theorem extensions_merged :
    Attribution.IsMerged modules (·.declared.package)
      (fun module => module.declared.extensions.map fun extension =>
        (extension.key, extension.info))
      (fun package key => Text.contains key ("." ++ package ++ "."))
      ExtensionAbilityInfo.moduleName info.baseExtensionInfos id where
  distinct := built.nodup_declared
  whole := by
    intro key
    rw [Option.map_id, id, built.baseExtensionInfos_getElem?]
    simp only [fun module : ParsedModule => module.isHeldBy.extensions key]
  marked := by
    intro module _ entry listed
    obtain ⟨extension, member, rfl⟩ := List.mem_map.mp listed
    exact module.isHeldBy.extensionKeys extension member
  tagged := by
    intro module _ entry listed
    obtain ⟨extension, member, rfl⟩ := List.mem_map.mp listed
    exact module.isHeldBy.extensionModules extension member

theorem findModule_declared {own : ParsedModule} (member : own ∈ modules) :
    info.findModule own.declared.package = true := by
  rw [← own.isHeldBy.package]
  exact built.findModule_iff.mpr ⟨own.info, List.mem_map_of_mem member, rfl⟩

/-- The information about a module is what is seen under its mark. -/
theorem isListedIn_iff {own : ParsedModule} (member : own ∈ modules)
    (userId : Int32) :
    own.IsListedIn info userId ↔
      ((Attribution.seen info.baseAbilityInfos
          (fun ability => (info.abilityOfModule userId ability).unmarked)
          fun key => Text.contains key
            ("." ++ own.declared.package ++ ".")).map Prod.snd).Perm
        ((own.declared.abilities.map fun ability => (ability.key,
          info.abilityOfModule userId ability.info)).map Prod.snd) ∧
      ((Attribution.seen info.baseExtensionInfos id
          fun key => Text.contains key
            ("." ++ own.declared.package ++ ".")).map Prod.snd).Perm
        ((own.declared.extensions.map fun extension =>
          (extension.key, extension.info)).map Prod.snd) := by
  have found := built.findModule_declared member
  obtain ⟨module, stored⟩ := Option.isSome_iff_exists.mp
    (Std.ExtTreeMap.contains_eq_isSome_getElem?.symm.trans found)
  unfold ParsedModule.IsListedIn InnerBundleInfo.findHapModuleInfo
  simp only [stored, Option.some.injEq, exists_eq_left', Attribution.seen,
    List.map_map, Function.comp_def, id_eq]

/-- If the modules are listed as they are declared, they are apart. -/
theorem isApart_of_isListedIn
    (listed : ∀ own ∈ modules, ∀ userId, own.IsListedIn info userId)
    {own : ParsedModule} (member : own ∈ modules) :
    own.HasDistinctKeys ∧
      ∀ other ∈ modules, other.declared.package ≠ own.declared.package →
        own.IsNotNamedIn other := by
  have abilities := (built.abilities_merged 0).exact_iff.mp
    fun own member => ((built.isListedIn_iff member 0).mp (listed own member 0)).1
  have extensions := built.extensions_merged.exact_iff.mp
    fun own member => ((built.isListedIn_iff member 0).mp (listed own member 0)).2
  obtain ⟨distinct, apart⟩ := abilities own member
  obtain ⟨distinct', apart'⟩ := extensions own member
  rw [List.map_map] at distinct distinct'
  refine ⟨⟨distinct, distinct'⟩, fun other inside different => ⟨?_, ?_⟩⟩
  · intro ability declared
    exact apart other inside different _ (List.mem_map_of_mem declared)
  · intro extension declared
    exact apart' other inside different _ (List.mem_map_of_mem declared)

/-- Modules that are apart are listed as they are declared. -/
theorem isListedIn_of_isApart
    (apart : ∀ own ∈ modules, own.HasDistinctKeys ∧
      ∀ other ∈ modules, other.declared.package ≠ own.declared.package →
        own.IsNotNamedIn other)
    {own : ParsedModule} (member : own ∈ modules) (userId : Int32) :
    own.IsListedIn info userId := by
  rw [built.isListedIn_iff member]
  constructor
  · apply (built.abilities_merged userId).exact_iff.mpr _ own member
    intro own member
    obtain ⟨⟨distinct, _⟩, unnamed⟩ := apart own member
    rw [List.map_map]
    refine ⟨distinct, fun other inside different entry listed => ?_⟩
    obtain ⟨ability, declared, rfl⟩ := List.mem_map.mp listed
    exact (unnamed other inside different).1 ability declared
  · apply built.extensions_merged.exact_iff.mpr _ own member
    intro own member
    obtain ⟨⟨_, distinct⟩, unnamed⟩ := apart own member
    rw [List.map_map]
    refine ⟨distinct, fun other inside different entry listed => ?_⟩
    obtain ⟨extension, declared, rfl⟩ := List.mem_map.mp listed
    exact (unnamed other inside different).2 extension declared

/-- Every module package is that of one of the modules. -/
theorem listed_iff :
    (∀ modulePackage, info.findModule modulePackage = true →
      ∃ own ∈ modules, own.declared.package = modulePackage ∧
        ∀ userId, own.IsListedIn info userId) ↔
      ∀ own ∈ modules, ∀ userId, own.IsListedIn info userId := by
  constructor
  · intro listed own member
    obtain ⟨named, inside, same, all⟩ := listed own.declared.package
      (built.findModule_declared member)
    rwa [← List.inj_on_of_nodup_map built.nodup_declared inside member same]
  · intro listed modulePackage found
    obtain ⟨piece, member, named⟩ := built.findModule_iff.mp found
    obtain ⟨own, inside, rfl⟩ := List.mem_map.mp member
    exact ⟨own, inside, own.isHeldBy.package.symm.trans named,
      listed own inside⟩

/-- For every module of every object that is built from parsed modules, and
every user, the information lists exactly the abilities and extensions of the
module, exactly if the names in each profile are distinct and no package stands
in a key of another module. -/
theorem hapModules_exact_iff :
    (∀ modulePackage, info.findModule modulePackage = true →
      ∃ own ∈ modules, own.declared.package = modulePackage ∧
        ∀ userId, own.IsListedIn info userId) ↔
      ∀ own ∈ modules, own.HasDistinctKeys ∧
        ∀ other ∈ modules, other.declared.package ≠ own.declared.package →
          own.IsNotNamedIn other := by
  rw [built.listed_iff]
  constructor
  · intro listed own member
    exact built.isApart_of_isListedIn listed member
  · intro apart own member userId
    exact built.isListedIn_of_isApart apart member userId

end Modules

end BuiltFrom

/-- A `config.json` of a module with one ability. -/
def mainAbilityJson (package : String) : Json :=
  .object
    [("app", .object
      [("apiVersion", .object [("compatible", .integer 8)]),
        ("bundleName", .string "com.example.music"),
        ("version", .object
          [("code", .integer 1), ("name", .string "1.0.0")])]),
      ("deviceConfig", .object []),
      ("module", .object
        [("abilities", .array
          [.object
            [("name", .string "MainAbility"), ("type", .string "page")]]),
          ("deviceType", .array [.string "phone"]),
          ("distro", .object
            [("deliveryWithInstall", .boolean true),
              ("moduleName", .string package),
              ("moduleType", .string "feature")]),
          ("package", .string package)])]

/-- The profile is accepted and declares its ability. -/
def isMainAbilityAccepted (package : String) : Bool :=
  let document := ProfileDocument.configJson (mainAbilityJson package)
  match (document.transformTo plainPlatform {} {}).1, document.declared? {} {}
      with
  | .ok (code, _), some declared =>
      decide (code = ErrCode.ok) && declared.package == package &&
        (declared.abilities.map (·.key) ==
          ["com.example.music." ++ package ++ ".MainAbility"])
  | _, _ => false

theorem exists_parsedModule {package : String}
    (accepted : isMainAbilityAccepted package = true) :
    ∃ module : ParsedModule, module.declared.package = package ∧
      module.declared.abilities.map (·.key) =
        ["com.example.music." ++ package ++ ".MainAbility"] := by
  unfold isMainAbilityAccepted at accepted
  dsimp only at accepted
  split at accepted
  · next code info declared outcome read =>
      simp only [Bool.and_eq_true, decide_eq_true_eq, beq_iff_eq] at accepted
      obtain ⟨⟨rfl, named⟩, keys⟩ := accepted
      exact ⟨{
        info, declared
        isParsed := ⟨plainPlatform, {}, {}, _,
          ⟨⟨rfl, rfl, rfl, rfl, rfl, rfl⟩, rfl, rfl⟩, outcome, read⟩ },
        named, keys⟩
  · cases accepted

/-- The package of the second module stands in the key of the ability of the
first one. -/
theorem exists_modules_music :
    ∃ (entry feature : ParsedModule) (info : InnerBundleInfo),
      BuiltFrom ([entry, feature].map (·.info)) info ∧
        entry.declared.package = "com.example.entry" ∧
        feature.declared.package = "example" ∧
        entry.declared.abilities.map (·.key) =
          ["com.example.music.com.example.entry.MainAbility"] := by
  obtain ⟨entry, named, keys⟩ :=
    @exists_parsedModule "com.example.entry" (by decide +kernel)
  obtain ⟨feature, named', _⟩ := @exists_parsedModule "example" (by decide +kernel)
  have current := entry.isHeldBy.package.trans named
  have current' := feature.isHeldBy.package.trans named'
  have first := BuiltFrom.parsed entry.info_isParsed
  have absent : entry.info.findModule feature.info.currentPackage = false := by
    rw [Bool.eq_false_iff]
    intro found
    obtain ⟨own, member, same⟩ := first.findModule_iff.mp found
    rw [List.mem_singleton.mp member, current, current'] at same
    exact absurd same (by decide)
  exact ⟨entry, feature, _, first.added feature.info_isParsed
    (by simp [current']) absent, named, named', keys⟩

theorem hapModules_exact_iff_music :
    ∃ (modules : List ParsedModule) (info : InnerBundleInfo),
      BuiltFrom (modules.map (·.info)) info ∧
      ((∀ modulePackage, info.findModule modulePackage = true →
        ∃ own ∈ modules, own.declared.package = modulePackage ∧
          ∀ userId, own.IsListedIn info userId) ↔
        ∀ own ∈ modules, own.HasDistinctKeys ∧
          ∀ other ∈ modules, other.declared.package ≠ own.declared.package →
            own.IsNotNamedIn other) := by
  obtain ⟨entry, feature, info, built, _⟩ := exists_modules_music
  exact ⟨_, info, built, built.hapModules_exact_iff⟩

/-- The ability of the first module is listed in the second one as well. -/
theorem hapModules_not_exact :
    ¬∀ (modules : List ParsedModule) (info : InnerBundleInfo),
      BuiltFrom (modules.map (·.info)) info →
        ∀ modulePackage, info.findModule modulePackage = true →
          ∃ own ∈ modules, own.declared.package = modulePackage ∧
            ∀ userId, own.IsListedIn info userId := by
  intro listed
  obtain ⟨entry, feature, info, built, named, named', keys⟩ :=
    exists_modules_music
  have all := built.listed_iff.mp (listed _ _ built)
  have different : entry.declared.package ≠ feature.declared.package := by
    rw [named, named']
    decide
  have unnamed := (built.isApart_of_isListedIn all
    (List.mem_cons_of_mem _ (List.mem_singleton_self feature))).2 entry
      List.mem_cons_self different
  have listed : "com.example.music.com.example.entry.MainAbility" ∈
      entry.declared.abilities.map (·.key) := by
    rw [keys, List.mem_singleton]
  obtain ⟨ability, declared, same⟩ := List.mem_map.mp listed
  have absent := unnamed.1 ability declared
  rw [same, named'] at absent
  revert absent
  decide +kernel

end AppExecFwk
