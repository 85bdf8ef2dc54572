import AppExecFwk.Query.UnseenBundles

/-!
# Applications and abilities that are switched off

Where a query asks whether a bundle is enabled for the user that answers, the
application information it hands out says so too; and where it asks the same
about an ability, the ability is one of the store that is enabled.
-/

namespace AppExecFwk

namespace InnerBundleInfo

variable {info : InnerBundleInfo} {userId : Int32}

section ApplicationInfo

theorem foldl_addModuleTo_enabled (flags : Int32)
    (modules : List InnerModuleInfo) (appInfo : ApplicationInfo) :
    (modules.foldl (addModuleTo flags) appInfo).enabled = appInfo.enabled := by
  induction modules generalizing appInfo with
  | nil => rfl
  | cons module rest ih =>
      rw [List.foldl_cons, ih]
      rfl

/-- The application information for a user for whom the application is enabled
says that it is. -/
theorem getApplicationInfo_enabled
    (enabled : info.getApplicationEnabled userId = true) (flags : Int32)
    (appInfo : ApplicationInfo) :
    (info.getApplicationInfo flags userId appInfo).enabled = true := by
  unfold getApplicationEnabled at enabled
  unfold getApplicationInfo
  cases found : info.getInnerBundleUserInfo userId with
  | none =>
      rw [found] at enabled
      cases enabled
  | some user =>
      rw [found] at enabled
      dsimp only
      split
      · rw [foldl_addModuleTo_enabled]
        exact enabled
      · rw [foldl_addModuleTo_enabled]
        exact enabled

end ApplicationInfo

section BundleInfo

theorem addModuleToBundle_applicationInfo (flags : Int32)
    (bundleInfo : BundleInfo) (module : InnerModuleInfo) :
    (info.addModuleToBundle flags userId bundleInfo module).applicationInfo =
      bundleInfo.applicationInfo := by
  unfold addModuleToBundle
  split <;> split <;> rfl

theorem foldl_addModuleToBundle_applicationInfo (flags : Int32)
    (modules : List InnerModuleInfo) (bundleInfo : BundleInfo) :
    (modules.foldl (info.addModuleToBundle flags userId)
        bundleInfo).applicationInfo =
      bundleInfo.applicationInfo := by
  induction modules generalizing bundleInfo with
  | nil => rfl
  | cons module rest ih =>
      rw [List.foldl_cons, ih, addModuleToBundle_applicationInfo]

variable
  (getAllReqPermissionStateFull : UInt32 → Option (List PermissionStateFull))

theorem getRequestPermissionStates_keeps (bundleInfo : BundleInfo) :
    (getRequestPermissionStates getAllReqPermissionStateFull
        bundleInfo).applicationInfo = bundleInfo.applicationInfo ∧
      (getRequestPermissionStates getAllReqPermissionStateFull
        bundleInfo).hapModuleInfos = bundleInfo.hapModuleInfos := by
  unfold getRequestPermissionStates
  split
  · exact ⟨rfl, rfl⟩
  · split <;> exact ⟨rfl, rfl⟩

/-- What is added after the modules leaves the application and the modules. -/
theorem afterModules_keeps (flags : Int32) (bundleInfo : BundleInfo) :
    (info.getBundleWithExtension flags
      (info.getBundleWithAbilities flags
        (info.getBundleWithReqPermissions getAllReqPermissionStateFull flags
          bundleInfo) userId)).applicationInfo =
        bundleInfo.applicationInfo ∧
      (info.getBundleWithExtension flags
        (info.getBundleWithAbilities flags
          (info.getBundleWithReqPermissions getAllReqPermissionStateFull flags
            bundleInfo) userId)).hapModuleInfos =
        bundleInfo.hapModuleInfos := by
  have permissions : (info.getBundleWithReqPermissions
      getAllReqPermissionStateFull flags bundleInfo).applicationInfo =
        bundleInfo.applicationInfo ∧
      (info.getBundleWithReqPermissions
        getAllReqPermissionStateFull flags bundleInfo).hapModuleInfos =
        bundleInfo.hapModuleInfos := by
    unfold getBundleWithReqPermissions
    split
    · exact getRequestPermissionStates_keeps getAllReqPermissionStateFull _
    · exact ⟨rfl, rfl⟩
  unfold getBundleWithExtension getBundleWithAbilities
  split <;> split <;> exact permissions

/-- The bundle information for a user for whom the application is enabled says
that it is. -/
theorem getBundleInfo_enabled
    (enabled : info.getApplicationEnabled userId = true) (flags : Int32)
    (bundleInfo : BundleInfo) :
    (info.getBundleInfo getAllReqPermissionStateFull flags bundleInfo
      userId).applicationInfo.enabled = true := by
  unfold getBundleInfo
  cases found : info.getInnerBundleUserInfo userId with
  | none =>
      unfold getApplicationEnabled at enabled
      rw [found] at enabled
      cases enabled
  | some user =>
      dsimp only
      rw [(afterModules_keeps getAllReqPermissionStateFull _ _).1,
        foldl_addModuleToBundle_applicationInfo]
      exact getApplicationInfo_enabled enabled _ _

end BundleInfo

end InnerBundleInfo

namespace BundleDataMgr

variable {mgr : BundleDataMgr} {ids : Set Int32}
  {userId callingUserId flags : Int32} {bundleName : String}
  {info : InnerBundleInfo}

section Answering

/-- The user that answers is a real one, or nobody does. -/
theorem IsStoreOf.answeringUser (isStore : mgr.IsStoreOf ids)
    (stored : mgr.bundleInfos[bundleName]? = some info)
    (notNegative : 0 ≤ userId) :
    info.getResponseUserId userId = invalidUserId ∨
      0 ≤ info.getResponseUserId userId := by
  have real {user : InnerBundleUserInfo}
      (member : user ∈ info.innerBundleUserInfos.values) :
      0 ≤ user.bundleUserInfo.userId := by
    obtain ⟨key, found⟩ := Std.ExtTreeMap.mem_values.mp member
    exact (isStore.users _ _ _ _ stored found).2.2
  unfold InnerBundleInfo.getResponseUserId
  split
  · exact .inl rfl
  · next first isFirst =>
      split
      · exact .inr (real (List.mem_of_head? isFirst))
      · split
        · exact .inr notNegative
        · split
          · exact .inl rfl
          · cases small : info.innerBundleUserInfos.values.find?
                (·.bundleUserInfo.userId < startUserId) with
            | none => exact .inl rfl
            | some user => exact .inr (real (List.mem_of_find?_eq_some small))

/-- An ability that passes the test of an implicit query is enabled for the user
that answers. -/
theorem IsStoreOf.isAbilityEnabled (isStore : mgr.IsStoreOf ids)
    (stored : mgr.bundleInfos[bundleName]? = some info)
    (notNegative : 0 ≤ userId) {ability : AbilityInfo}
    (tested : info.isAbilityEnabled ability
      (mgr.getUserId (info.getResponseUserId userId) callingUserId) = true) :
    info.isAbilityEnabled ability (info.getResponseUserId userId) = true := by
  have nobody := isStore.isAbilityEnabled_invalid stored ability
  rcases isStore.answeringUser stored notNegative with invalid | real
  · rw [invalid, getUserId_invalid, nobody] at tested
    cases tested
  · cases registered : mgr.hasUserId (info.getResponseUserId userId) with
    | true =>
        rw [getUserId_of_hasUserId registered real] at tested
        exact tested
    | false =>
        rw [getUserId_of_real real, registered] at tested
        rw [if_neg (by simp), nobody] at tested
        cases tested

end Answering

section Abilities

variable {regexMatch : String → String → Bool} {want : QueryWant}
  {ability : AbilityInfo}

/-- What an explicit query hands out: an ability of an admitted record, enabled
unless disabled ones are asked for, with the application information of the
user that answers if the flags ask for that. -/
theorem explicitQueryAbilityInfo_eq_some {moduleName abilityName : String}
    (handedOut : mgr.explicitQueryAbilityInfo bundleName moduleName abilityName
      flags userId callingUserId = some ability) :
    ∃ (info : InnerBundleInfo) (key : String) (stored : AbilityInfo),
      mgr.getInnerBundleInfoWithFlags bundleName flags userId callingUserId =
          some info ∧
        info.baseAbilityInfos[key]? = some stored ∧
        (ability.bundleName = stored.bundleName ∧
          ability.moduleName = stored.moduleName ∧
          ability.name = stored.name) ∧
        (anyFlag flags AbilityInfoFlag.getAbilityInfoWithDisable = false →
          info.isAbilityEnabled stored
            (mgr.answeringUser userId callingUserId info) = true) ∧
        (hasFlag flags AbilityInfoFlag.getAbilityInfoWithApplication = true →
          ∃ base, ability.applicationInfo = info.getApplicationInfo
            ApplicationFlag.getBasicApplicationInfo
            (mgr.answeringUser userId callingUserId info) base) := by
  unfold explicitQueryAbilityInfo at handedOut
  simp only [getInnerBundleInfoWithFlags_getUserId] at handedOut
  split at handedOut
  · cases handedOut
  · split at handedOut
    · cases handedOut
    · next info admitted =>
        split at handedOut
        · cases handedOut
        · next found isFound =>
            obtain ⟨entry, isEntry, rfl⟩ := Option.map_eq_some_iff.mp isFound
            split at handedOut
            · cases handedOut
            · split at handedOut
              · cases handedOut
              · next enabled =>
                  refine ⟨info, entry.1, entry.2, admitted,
                    Std.ExtTreeMap.mem_toList_iff_getElem?_eq_some.mp
                      (List.mem_of_find?_eq_some isEntry), ?_, ?_, ?_⟩
                  · split at handedOut <;> cases handedOut <;>
                      exact ⟨rfl, rfl, rfl⟩
                  · intro unasked
                    simp only [unasked, Bool.not_false, Bool.true_and,
                      Bool.not_eq_true', Bool.not_eq_false] at enabled
                    exact enabled
                  · intro withApplication
                    rw [if_pos withApplication] at handedOut
                    cases handedOut
                    exact ⟨_, rfl⟩

/-- What an implicit query hands out is a shown place. -/
theorem mem_implicitQueryAbilityInfos
    (handedOut : ability ∈ (mgr.implicitQueryAbilityInfos regexMatch want flags
      userId callingUserId).2) :
    ∃ place : AbilityPlace,
      place ∈ mgr.shownIn regexMatch want flags userId callingUserId
          place.bundleName ∧
        ability = mgr.handOut flags userId callingUserId place := by
  cases hasParam : want.hasParam with
  | false =>
      rw [implicitQueryAbilityInfos_noParam hasParam] at handedOut
      cases handedOut
  | true =>
      by_cases anyBundle : want.element.bundleName = ""
      · rw [mgr.implicitQueryAbilityInfos_all regexMatch flags userId
          callingUserId hasParam anyBundle] at handedOut
        obtain ⟨place, member, rfl⟩ := List.mem_map.mp handedOut
        rw [mem_sortPlaces, shownPlaces, List.mem_flatMap] at member
        obtain ⟨entry, _, shown⟩ := member
        refine ⟨place, ?_, rfl⟩
        rw [mgr.bundleName_of_mem_shownIn _ _ _ _ _ shown]
        exact shown
      · rw [implicitQueryAbilityInfos_named hasParam anyBundle] at handedOut
        obtain ⟨place, member, rfl⟩ := List.mem_map.mp handedOut
        rw [mem_sortPlaces, List.mem_filter] at member
        refine ⟨place, ?_, rfl⟩
        rw [mgr.bundleName_of_mem_shownIn _ _ _ _ _ member.1]
        exact member.1

/-- A shown place is one of an admitted record, and enabled unless disabled ones
are asked for. -/
theorem admitted_of_mem_shownIn {place : AbilityPlace}
    (shown : place ∈ mgr.shownIn regexMatch want flags userId callingUserId
      bundleName) :
    mgr.getInnerBundleInfoWithFlags bundleName flags userId callingUserId =
        some place.info ∧
      place.info.baseAbilityInfos[place.key]? = some place.ability ∧
      (anyFlag flags AbilityInfoFlag.getAbilityInfoWithDisable = false →
        place.info.isAbilityEnabled place.ability
          (mgr.getUserId (mgr.answeringUser userId callingUserId place.info)
            callingUserId) = true) := by
  unfold shownIn at shown
  split at shown
  · cases shown
  · next admitted =>
      obtain ⟨member, isShown⟩ := List.mem_filter.mp shown
      obtain ⟨_, rfl, declared⟩ := mem_placesIn.mp member
      refine ⟨admitted, declared, fun unasked => ?_⟩
      rw [AbilityPlace.isShown, Bool.and_eq_true, unasked, Bool.false_or]
        at isShown
      exact isShown.2

end Abilities

end BundleDataMgr

namespace Query

variable {ids : Set Int32} {userId : Int32} {mgr : BundleDataMgr}
  {callingUserId flags : Int32} {regexMatch : String → String → Bool}
  {getAllReqPermissionStateFull : UInt32 → Option (List PermissionStateFull)}

/-- The application of an admitted bundle is enabled for the user that answers
unless disabled ones are asked for. -/
theorem enabled_of_admitted {bundleName : String} {info : InnerBundleInfo}
    (admitted : mgr.getInnerBundleInfoWithFlags bundleName flags userId
      callingUserId = some info)
    (unasked : anyFlag flags ApplicationFlag.getApplicationInfoWithDisable =
      false) :
    info.getApplicationEnabled
      (mgr.answeringUser userId callingUserId info) = true := by
  obtain ⟨_, _, _, enabled⟩ := mgr.getInnerBundleInfoWithFlags_eq_some.mp admitted
  exact enabled.resolve_left (by simp [unasked])

section Abilities

variable {want : QueryWant} {ability : AbilityInfo}

/-- What a query for abilities hands out comes from an explicit or an implicit
query. -/
def IsHandedOut (regexMatch : String → String → Bool) (mgr : BundleDataMgr)
    (want : QueryWant) (flags userId callingUserId : Int32)
    (ability : AbilityInfo) : Prop :=
  mgr.explicitQueryAbilityInfo want.element.bundleName want.element.moduleName
      want.element.abilityName flags userId callingUserId = some ability ∨
    ability ∈ (mgr.implicitQueryAbilityInfos regexMatch want flags userId
      callingUserId).2

theorem isHandedOut_of_mem_queryAbilityInfos
    (found : mgr.getUserId userId callingUserId = userId)
    (valid : userId ≠ invalidUserId)
    (member : ability ∈
      (mgr.queryAbilityInfos regexMatch want flags userId callingUserId).2) :
    IsHandedOut regexMatch mgr want flags userId callingUserId ability := by
  rw [BundleDataMgr.queryAbilityInfos_eq found valid] at member
  split at member
  · exact .inl (Option.mem_toList.mp member)
  · exact .inr member

theorem isHandedOut_of_queryAbilityInfo
    (found : mgr.getUserId userId callingUserId = userId)
    (valid : userId ≠ invalidUserId)
    (handedOut : mgr.queryAbilityInfo regexMatch want flags userId
      callingUserId = some ability) :
    IsHandedOut regexMatch mgr want flags userId callingUserId ability := by
  rw [BundleDataMgr.queryAbilityInfo_eq found valid] at handedOut
  split at handedOut
  · exact .inl handedOut
  · exact .inr (List.mem_of_head? handedOut)

/-- The application information that comes with an ability says that the
application is enabled. -/
theorem applicationInfo_enabled
    (handedOut : IsHandedOut regexMatch mgr want flags userId callingUserId
      ability)
    (withApplication : hasFlag flags
      AbilityInfoFlag.getAbilityInfoWithApplication = true)
    (unasked : anyFlag flags ApplicationFlag.getApplicationInfoWithDisable =
      false) : ability.applicationInfo.enabled = true := by
  rcases handedOut with isExplicit | isImplicit
  · obtain ⟨info, key, stored, admitted, _, _, _, application⟩ :=
      BundleDataMgr.explicitQueryAbilityInfo_eq_some isExplicit
    obtain ⟨base, filled⟩ := application withApplication
    rw [filled]
    exact InnerBundleInfo.getApplicationInfo_enabled
      (enabled_of_admitted admitted unasked) _ _
  · obtain ⟨place, shown, rfl⟩ :=
      BundleDataMgr.mem_implicitQueryAbilityInfos isImplicit
    obtain ⟨admitted, _, _⟩ := BundleDataMgr.admitted_of_mem_shownIn shown
    unfold BundleDataMgr.handOut BundleDataMgr.matchedAbility
    rw [if_pos withApplication]
    exact InnerBundleInfo.getApplicationInfo_enabled
      (enabled_of_admitted admitted unasked) _ _

/-- An ability that is handed out is switched on. -/
theorem isSwitchedOn_of_isHandedOut (isStore : mgr.IsStoreOf ids)
    (found : mgr.getUserId userId callingUserId = userId)
    (notNegative : 0 ≤ userId)
    (handedOut : IsHandedOut regexMatch mgr want flags userId callingUserId
      ability)
    (unasked : anyFlag flags AbilityInfoFlag.getAbilityInfoWithDisable =
      false) : IsSwitchedOn userId mgr callingUserId ability := by
  rcases handedOut with isExplicit | isImplicit
  · obtain ⟨info, key, stored, admitted, declared, ⟨bundle, module, name⟩,
        enabled, _⟩ :=
      BundleDataMgr.explicitQueryAbilityInfo_eq_some isExplicit
    exact ⟨_, key, info, stored, BundleDataMgr.stored_of_admitted admitted,
      declared, bundle, module, name, enabled unasked⟩
  · obtain ⟨place, shown, rfl⟩ :=
      BundleDataMgr.mem_implicitQueryAbilityInfos isImplicit
    obtain ⟨admitted, declared, tested⟩ :=
      BundleDataMgr.admitted_of_mem_shownIn shown
    have stored := BundleDataMgr.stored_of_admitted admitted
    have enabled := tested unasked
    unfold BundleDataMgr.answeringUser at enabled
    rw [found] at enabled
    refine ⟨_, place.key, place.info, place.ability, stored, declared,
      mgr.handOut_bundleName flags userId callingUserId place,
      mgr.handOut_moduleName flags userId callingUserId place,
      mgr.handOut_name flags userId callingUserId place, ?_⟩
    unfold BundleDataMgr.answeringUser
    rw [found]
    exact isStore.isAbilityEnabled stored notNegative enabled

end Abilities

section Applications

variable {application : ApplicationInfo}

theorem enabled_of_getApplicationInfo {appName : String}
    (handedOut : mgr.getApplicationInfo appName flags userId callingUserId =
      some application)
    (unasked : anyFlag flags ApplicationFlag.getApplicationInfoWithDisable =
      false) : application.enabled = true := by
  unfold BundleDataMgr.getApplicationInfo at handedOut
  simp only [BundleDataMgr.getInnerBundleInfoWithFlags_getUserId] at handedOut
  split at handedOut
  · cases handedOut
  · split at handedOut
    · cases handedOut
    · next admitted =>
        cases handedOut
        exact InnerBundleInfo.getApplicationInfo_enabled
          (enabled_of_admitted admitted unasked) _ _

theorem enabled_of_mem_getApplicationInfos
    (found : mgr.getUserId userId callingUserId = userId)
    (valid : userId ≠ invalidUserId)
    (member : application ∈
      (mgr.getApplicationInfos flags userId callingUserId).2)
    (unasked : anyFlag flags ApplicationFlag.getApplicationInfoWithDisable =
      false) : application.enabled = true := by
  rw [BundleDataMgr.getApplicationInfos_eq (by rw [found]; exact valid)]
    at member
  obtain ⟨entry, _, contributed⟩ := List.mem_flatMap.mp member
  unfold BundleDataMgr.addApplicationInfo at contributed
  split at contributed
  · cases contributed
  · dsimp only at contributed
    split at contributed
    · cases contributed
    · next enabled =>
        rw [List.nil_append, List.mem_singleton] at contributed
        subst contributed
        apply InnerBundleInfo.getApplicationInfo_enabled
        simpa [unasked] using enabled

end Applications

section Bundles

variable {bundleInfo : BundleInfo}

theorem enabled_of_getBundleInfo {bundleName : String}
    (found : mgr.getUserId userId callingUserId = userId)
    (notNegative : 0 ≤ userId)
    (handedOut : mgr.getBundleInfo getAllReqPermissionStateFull bundleName flags
      userId callingUserId = some bundleInfo)
    (unasked : anyFlag flags ApplicationFlag.getApplicationInfoWithDisable =
      false) : bundleInfo.applicationInfo.enabled = true := by
  have specific : userId ≠ anyUserId := by
    rintro rfl
    exact absurd notNegative (by decide)
  unfold BundleDataMgr.getBundleInfo at handedOut
  simp only [specific, ↓reduceIte, Option.bind_eq_bind, Option.bind_some, found]
    at handedOut
  split at handedOut
  · cases handedOut
  · obtain ⟨info, admitted, isInfo⟩ := Option.bind_eq_some_iff.mp handedOut
    cases isInfo
    have enabled := enabled_of_admitted admitted unasked
    unfold BundleDataMgr.answeringUser at enabled
    rw [found] at enabled
    exact InnerBundleInfo.getBundleInfo_enabled getAllReqPermissionStateFull
      enabled _ _

theorem enabled_of_mem_getBundleInfos
    (found : mgr.getUserId userId callingUserId = userId)
    (valid : userId ≠ invalidUserId) (specific : userId ≠ allUserId)
    (member : bundleInfo ∈ (mgr.getBundleInfos getAllReqPermissionStateFull
      flags userId callingUserId).2)
    (unasked : anyFlag flags ApplicationFlag.getApplicationInfoWithDisable =
      false) : bundleInfo.applicationInfo.enabled = true := by
  rw [BundleDataMgr.getBundleInfos_eq _ (by rw [found]; exact valid) specific,
    found] at member
  obtain ⟨entry, _, contributed⟩ := List.mem_flatMap.mp member
  rw [Option.mem_toList] at contributed
  obtain ⟨info, admitted, rfl⟩ := Option.map_eq_some_iff.mp contributed
  have enabled := enabled_of_admitted admitted unasked
  unfold BundleDataMgr.answeringUser at enabled
  rw [found] at enabled
  exact InnerBundleInfo.getBundleInfo_enabled getAllReqPermissionStateFull
    enabled _ _

end Bundles

/-- A query that is private hands out nothing that is disabled. -/
theorem hidesDisabled_of_isPrivate {query : Query} (notNegative : 0 ≤ userId)
    (isPrivate : query.IsPrivate ids userId) :
    query.HidesDisabled ids userId regexMatch getAllReqPermissionStateFull := by
  have valid : userId ≠ invalidUserId := by
    rintro rfl
    exact absurd notNegative (by decide)
  have specific : userId ≠ allUserId := by
    rintro rfl
    exact absurd notNegative (by decide)
  intro mgr callingUserId argument isStore registered
  have found : mgr.getUserId userId callingUserId = userId :=
    BundleDataMgr.getUserId_of_hasUserId registered notNegative
  cases query with
  | queryAbilityInfo flags =>
      simp only [run, answerAbilities]
      constructor
      · intro unasked application member
        split at member
        · next withApplication =>
            obtain ⟨ability, isAbility, rfl⟩ := List.mem_map.mp member
            exact applicationInfo_enabled
              (isHandedOut_of_queryAbilityInfo found valid
                (Option.mem_toList.mp isAbility)) withApplication unasked
        · cases member
      · intro unasked ability member
        exact isSwitchedOn_of_isHandedOut isStore found notNegative
          (isHandedOut_of_queryAbilityInfo found valid
            (Option.mem_toList.mp member)) unasked
  | queryAbilityInfos flags =>
      simp only [run, answerAbilities]
      constructor
      · intro unasked application member
        split at member
        · next withApplication =>
            obtain ⟨ability, isAbility, rfl⟩ := List.mem_map.mp member
            exact applicationInfo_enabled
              (isHandedOut_of_mem_queryAbilityInfos found valid isAbility)
              withApplication unasked
        · cases member
      · intro unasked ability member
        exact isSwitchedOn_of_isHandedOut isStore found notNegative
          (isHandedOut_of_mem_queryAbilityInfos found valid member) unasked
  | queryLauncherAbilityInfos => exact isPrivate.elim
  | queryAbilityInfoByUri => exact isPrivate.elim
  | getApplicationInfo flags =>
      simp only [run]
      refine ⟨fun unasked application member => ?_,
        fun _ ability member => absurd member List.not_mem_nil⟩
      exact enabled_of_getApplicationInfo (Option.mem_toList.mp member) unasked
  | getApplicationInfos flags =>
      simp only [run]
      refine ⟨fun unasked application member => ?_,
        fun _ ability member => absurd member List.not_mem_nil⟩
      exact enabled_of_mem_getApplicationInfos found valid member unasked
  | getBundleInfo flags =>
      simp only [run, answerBundles]
      constructor
      · intro unasked application member
        obtain ⟨bundle, isBundle, rfl⟩ := List.mem_map.mp member
        exact enabled_of_getBundleInfo found notNegative
          (Option.mem_toList.mp isBundle) unasked
      · intro unasked
        rw [isPrivate.1] at unasked
        cases unasked
  | getBundleInfos flags =>
      simp only [run, answerBundles]
      constructor
      · intro unasked application member
        obtain ⟨bundle, isBundle, rfl⟩ := List.mem_map.mp member
        exact enabled_of_mem_getBundleInfos found valid specific isBundle unasked
      · intro unasked
        rw [isPrivate.1] at unasked
        cases unasked
  | getBundleList =>
      simp only [run]
      exact ⟨fun _ application member => absurd member List.not_mem_nil,
        fun _ ability member => absurd member List.not_mem_nil⟩

end Query

end AppExecFwk
