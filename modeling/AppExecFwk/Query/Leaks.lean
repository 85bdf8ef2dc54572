import AppExecFwk.Query.SwitchedOff

/-!
# Queries that tell too much

A clock that is installed for another user shows when a query is not private.
Its record passes where the flags ask for disabled applications, although nobody
answers for it, and a user between the default one and the first ordinary one
answers for everybody.  Launcher abilities, the ability of a uri and the modules
of a bundle are handed out whether they are switched on or not.
-/

namespace AppExecFwk

open CommandProgram

namespace InnerBundleInfo

variable {info : InnerBundleInfo} {userId : Int32}

theorem getModuleWithHashValue_abilityInfos (flags : Int32)
    (modulePackage : String) (hapModuleInfo : HapModuleInfo) :
    (info.getModuleWithHashValue flags modulePackage
        hapModuleInfo).abilityInfos = hapModuleInfo.abilityInfos := by
  unfold getModuleWithHashValue
  split
  · split <;> rfl
  · rfl

/-- A module of the store is part of the information about its bundle, with all
its abilities. -/
theorem addModuleToBundle_hapModuleInfos {flags : Int32}
    {bundleInfo : BundleInfo} {module : InnerModuleInfo}
    {hapModuleInfo : HapModuleInfo}
    (found : info.findHapModuleInfo module.modulePackage userId =
      some hapModuleInfo) :
    (info.addModuleToBundle flags userId bundleInfo module).hapModuleInfos =
      bundleInfo.hapModuleInfos ++
        [info.getModuleWithHashValue flags module.modulePackage
          hapModuleInfo] := by
  unfold addModuleToBundle
  simp only [found]
  split <;> rfl

end InnerBundleInfo

namespace BundleDataMgr

section FaceClock

/-- The one ability of the clock. -/
def face : AbilityInfo where
  name := "Face"
  bundleName := "clock"
  moduleName := "main"
  uri := "dataability://face"

/-- What the clock has about its owner. -/
def faceClockUser (owner : Int32) (disabledAbilities : List String) :
    InnerBundleUserInfo where
  bundleUserInfo := { userId := owner, disabledAbilities }

/-- A clock that is installed for one user. -/
def faceClock (owner : Int32) (disabledAbilities : List String) :
    InnerBundleInfo where
  baseApplicationInfo := { bundleName := "clock", isSystemApp := true }
  innerModuleInfos := (∅ : StringMap InnerModuleInfo).insert "main"
    { modulePackage := "main", moduleName := "main" }
  baseAbilityInfos := (∅ : StringMap AbilityInfo).insert "clock.main.Face" face
  skillInfos := (∅ : StringMap (List Skill)).insert "clock.main.Face"
    [{ actions := ["show"] }]
  innerBundleUserInfos := (∅ : StringMap InnerBundleUserInfo).insert
    (nameAndUserIdToKey "clock" owner) (faceClockUser owner disabledAbilities)

/-- The calls before the clock is added, with the user that asks and the one
that has the clock. -/
def callsBeforeClock (asking owner : Int32) : List ((_ : StoreCommand) × Bool) :=
  [⟨.addUserId asking, true⟩, ⟨.addUserId owner, true⟩,
    ⟨.updateBundleInstallState "clock" .installStart, true⟩]

def withoutClock (asking owner : Int32) : BundleDataMgr :=
  bundleStore.performAll {} (callsBeforeClock asking owner)

def withClock (asking owner : Int32) (disabledAbilities : List String) :
    BundleDataMgr :=
  bundleStore.performAll (withoutClock asking owner)
    [⟨.addInnerBundleInfo "clock" (faceClock owner disabledAbilities), true⟩]

variable {asking owner : Int32} {disabledAbilities : List String}
  {ids : Set Int32}

theorem withoutClock_eq :
    withoutClock asking owner =
      { multiUserIdsSet := ((∅ : Std.ExtTreeSet Int32).insert asking).insert
          owner
        installStates := (∅ : StringMap InstallState).insert "clock"
          .installStart } := by
  rfl

theorem withClock_bundleInfos :
    (withClock asking owner disabledAbilities).bundleInfos =
      (∅ : StringMap InnerBundleInfo).insert "clock"
        (faceClock owner disabledAbilities) := by
  rw [withClock, withoutClock_eq]
  rfl

theorem withClock_toList :
    (withClock asking owner disabledAbilities).bundleInfos.toList =
      [("clock", faceClock owner disabledAbilities)] := by
  rw [withClock_bundleInfos, Std.ExtTreeMap.toList_insert_empty]

theorem withClock_isEmpty :
    (withClock asking owner disabledAbilities).bundleInfos.isEmpty = false := by
  rw [← Std.ExtTreeMap.isEmpty_toList, withClock_toList]
  rfl

theorem withClock_getElem? :
    (withClock asking owner disabledAbilities).bundleInfos["clock"]? =
      some (faceClock owner disabledAbilities) := by
  rw [withClock_bundleInfos]
  exact Std.ExtTreeMap.getElem?_insert_self

theorem faceClock_abilities :
    (faceClock owner disabledAbilities).baseAbilityInfos.toList =
      [("clock.main.Face", face)] :=
  Std.ExtTreeMap.toList_insert_empty _ _

/-- The clock is all there is. -/
theorem withClock_stored {bundleName : String} {info : InnerBundleInfo}
    (stored : (withClock asking owner disabledAbilities).bundleInfos[
      bundleName]? = some info) :
    bundleName = "clock" ∧ info = faceClock owner disabledAbilities := by
  rw [withClock_bundleInfos, Std.ExtTreeMap.getElem?_insert] at stored
  split at stored
  · next same =>
      exact ⟨(Std.LawfulEqCmp.eq_of_compare same).symm,
        (Option.some.inj stored).symm⟩
  · rw [Std.ExtTreeMap.getElem?_empty] at stored
    cases stored

theorem faceClock_user {key : String} {user : InnerBundleUserInfo}
    (found : (faceClock owner disabledAbilities).innerBundleUserInfos[key]? =
      some user) :
    key = nameAndUserIdToKey "clock" owner ∧
      user.bundleUserInfo.userId = owner := by
  rw [faceClock, Std.ExtTreeMap.getElem?_insert] at found
  split at found
  · next same =>
      cases found
      exact ⟨(Std.LawfulEqCmp.eq_of_compare same).symm, rfl⟩
  · rw [Std.ExtTreeMap.getElem?_empty] at found
    cases found

theorem withoutClock_reached :
    Reachable bundleStore (fun _ => True) {} (withoutClock asking owner) :=
  Reachable.start.performAll
    (And.intro trivial (And.intro trivial (And.intro trivial trivial)))

theorem withoutClock_isStoreOf : (withoutClock asking owner).IsStoreOf ids where
  reached := withoutClock_reached
  installed bundleName info stored := by
    rw [withoutClock_eq, Std.ExtTreeMap.getElem?_empty] at stored
    cases stored
  users bundleName info key user stored := by
    rw [withoutClock_eq, Std.ExtTreeMap.getElem?_empty] at stored
    cases stored

theorem withClock_isStoreOf (member : owner ∈ ids) (real : 0 ≤ owner) :
    (withClock asking owner disabledAbilities).IsStoreOf ids where
  reached := withoutClock_reached.performAll (And.intro trivial trivial)
  installed bundleName info stored := by
    obtain ⟨rfl, rfl⟩ := withClock_stored stored
    rfl
  users bundleName info key user stored found := by
    obtain ⟨rfl, rfl⟩ := withClock_stored stored
    obtain ⟨rfl, isOwner⟩ := faceClock_user found
    rw [isOwner]
    exact ⟨rfl, member, real⟩

theorem faceClock_values :
    (faceClock owner disabledAbilities).innerBundleUserInfos.values =
      [faceClockUser owner disabledAbilities] := by
  rw [Std.ExtTreeMap.values_eq_map_toList, faceClock,
    Std.ExtTreeMap.toList_insert_empty]
  rfl

theorem faceClock_begin :
    (faceClock owner disabledAbilities).innerBundleUserInfos.begin? =
      some (faceClockUser owner disabledAbilities) := by
  unfold StringMap.begin?
  rw [faceClock_values]
  rfl

/-- The clock is there for its owner and for nobody else. -/
theorem faceClock_hasInnerBundleUserInfo {userId : Int32} (real : 0 ≤ userId) :
    (faceClock owner disabledAbilities).hasInnerBundleUserInfo userId =
      decide (userId = owner) := by
  have specific : userId ≠ allUserId := by
    rintro rfl
    exact absurd real (by decide)
  unfold InnerBundleInfo.hasInnerBundleUserInfo
  rw [if_neg specific, Bool.eq_iff_iff, decide_eq_true_eq]
  constructor
  · intro present
    obtain ⟨user, found⟩ := Std.ExtTreeMap.exists_of_contains present
    exact (nameAndUserIdToKey_inj (faceClock_user found).1).2
  · rintro rfl
    exact Std.ExtTreeMap.contains_insert_self

/-- The owner answers for itself. -/
theorem faceClock_getResponseUserId_owner (real : 0 ≤ owner) :
    (faceClock owner disabledAbilities).getResponseUserId owner = owner := by
  have specific : owner ≠ anyUserId := by
    rintro rfl
    exact absurd real (by decide)
  unfold InnerBundleInfo.getResponseUserId
  rw [faceClock_begin]
  simp only [specific, ↓reduceIte, faceClock_hasInnerBundleUserInfo real,
    decide_true]

/-- An owner below the first ordinary user answers for an ordinary one. -/
theorem faceClock_getResponseUserId (asks : startUserId ≤ asking)
    (below : owner < startUserId) :
    (faceClock owner disabledAbilities).getResponseUserId asking = owner := by
  have real : 0 ≤ asking := Int32.le_trans (by decide) asks
  have specific : asking ≠ anyUserId := by
    rintro rfl
    exact absurd real (by decide)
  have other : asking ≠ owner := by
    rintro rfl
    exact absurd below (Int32.not_lt.mpr asks)
  unfold InnerBundleInfo.getResponseUserId
  rw [faceClock_begin]
  simp only [specific, ↓reduceIte, faceClock_hasInnerBundleUserInfo real, other,
    decide_false, Bool.false_eq_true, Int32.not_lt.mpr asks]
  have answers : (faceClockUser owner
      disabledAbilities).bundleUserInfo.userId < startUserId := below
  rw [faceClock_values]
  simp only [List.find?_cons, answers, decide_true, Option.map_some,
    Option.getD_some]
  rfl

theorem differInForeign_withClock (asks : 0 ≤ asking) (other : owner ≠ asking)
    (notDefault : owner ≠ defaultUserId) :
    (withoutClock asking owner).DifferInForeign asking
      (withClock asking owner disabledAbilities) "clock" where
  users := by
    rw [withClock, withoutClock_eq]
    rfl
  others name apart := by
    rw [withClock_bundleInfos, withoutClock_eq, Std.ExtTreeMap.getElem?_insert,
      if_neg]
    intro same
    exact apart (Std.LawfulEqCmp.eq_of_compare same).symm
  foreignInFirst info stored := by
    rw [withoutClock_eq, Std.ExtTreeMap.getElem?_empty] at stored
    cases stored
  foreignInSecond info stored := by
    obtain ⟨_, rfl⟩ := withClock_stored stored
    constructor
    · rw [faceClock_hasInnerBundleUserInfo asks]
      simp [Ne.symm other]
    · rw [faceClock_hasInnerBundleUserInfo (by decide)]
      simp [Ne.symm notDefault]

theorem hasUserId_withoutClock :
    (withoutClock asking owner).hasUserId asking = true := by
  rw [withoutClock_eq, hasUserId]
  simp

theorem hasUserId_withClock :
    (withClock asking owner disabledAbilities).hasUserId asking = true := by
  have before : (withoutClock asking owner).hasUserId asking = true :=
    hasUserId_withoutClock
  rw [withoutClock_eq] at before
  rw [withClock, withoutClock_eq]
  exact before

theorem getUserId_withClock {callingUserId : Int32} (asks : 0 ≤ asking) :
    (withClock asking owner disabledAbilities).getUserId asking callingUserId =
      asking :=
  getUserId_of_hasUserId hasUserId_withClock asks

theorem faceClock_getInnerBundleUserInfo (real : 0 ≤ owner) :
    (faceClock owner disabledAbilities).getInnerBundleUserInfo owner =
      some (faceClockUser owner disabledAbilities) := by
  have apart {special : Int32} (negative : ¬0 ≤ special) : owner ≠ special := by
    rintro rfl
    exact negative real
  unfold InnerBundleInfo.getInnerBundleUserInfo
  rw [if_neg (apart (by decide)), if_neg (apart (by decide))]
  exact Std.ExtTreeMap.getElem?_insert_self

theorem faceClock_isAbilityEnabled (real : 0 ≤ owner) {ability : AbilityInfo}
    (ofClock : ability.bundleName = "clock") :
    (faceClock owner disabledAbilities).isAbilityEnabled ability owner =
      !disabledAbilities.contains ability.name := by
  have specific : owner ≠ notExistUserId := by
    rintro rfl
    exact absurd real (by decide)
  have found : (faceClock owner disabledAbilities).innerBundleUserInfos[
      nameAndUserIdToKey "clock" owner]? =
      some (faceClockUser owner disabledAbilities) :=
    Std.ExtTreeMap.getElem?_insert_self
  unfold InnerBundleInfo.isAbilityEnabled
  rw [if_neg specific, ofClock, found]
  rfl

/-- The record of the clock passes if disabled applications are asked for or its
owner answers. -/
theorem admitted_withClock {flags : Int32} (asks : 0 ≤ asking)
    (real : 0 ≤ owner)
    (passes : anyFlag flags ApplicationFlag.getApplicationInfoWithDisable =
        true ∨
      (faceClock owner disabledAbilities).getResponseUserId asking = owner) :
    (withClock asking owner disabledAbilities).getInnerBundleInfoWithFlags
        "clock" flags asking asking =
      some (faceClock owner disabledAbilities) := by
  rw [getInnerBundleInfoWithFlags_eq_some, getUserId_withClock asks]
  refine ⟨?_, ?_, rfl, passes.imp id ?_⟩
  · rintro rfl
    exact absurd asks (by decide)
  · exact withClock_getElem?
  · intro answers
    rw [answers, InnerBundleInfo.getApplicationEnabled,
      faceClock_getInnerBundleUserInfo real]
    rfl

/-- The ability of the clock is found by its name. -/
theorem explicitQueryAbilityInfo_withClock {flags : Int32} (asks : 0 ≤ asking)
    (real : 0 ≤ owner)
    (passes : (anyFlag flags ApplicationFlag.getApplicationInfoWithDisable &&
        anyFlag flags AbilityInfoFlag.getAbilityInfoWithDisable) = true ∨
      (faceClock owner []).getResponseUserId asking = owner) :
    ((withClock asking owner []).explicitQueryAbilityInfo "clock" "" "Face"
      flags asking asking).isSome = true := by
  have valid : asking ≠ invalidUserId := by
    rintro rfl
    exact absurd asks (by decide)
  have admitted : (withClock asking owner []).getInnerBundleInfoWithFlags
      "clock" flags asking asking = some (faceClock owner []) := by
    refine admitted_withClock asks real (passes.imp ?_ id)
    intro asked
    exact (Bool.and_eq_true_iff.mp asked).1
  have found : (faceClock owner []).findAbilityInfo "clock" "" "Face"
      ((faceClock owner []).getResponseUserId asking) =
      some ((faceClock owner []).abilityOfModule
        ((faceClock owner []).getResponseUserId asking) face) := by
    unfold InnerBundleInfo.findAbilityInfo
    rw [faceClock_abilities]
    rfl
  have shown : (!anyFlag flags AbilityInfoFlag.getAbilityInfoWithDisable &&
      !(faceClock owner []).isAbilityEnabled
        ((faceClock owner []).abilityOfModule
          ((faceClock owner []).getResponseUserId asking) face)
        ((faceClock owner []).getResponseUserId asking)) = false := by
    rcases passes with asked | answers
    · rw [(Bool.and_eq_true_iff.mp asked).2]
      rfl
    · rw [answers, faceClock_isAbilityEnabled real rfl, Bool.and_eq_false_iff]
      exact .inr rfl
  have ofSystem : systemAppFilter flags (faceClock owner []) = true := by
    simp [systemAppFilter, InnerBundleInfo.isSystemApp, faceClock]
  unfold explicitQueryAbilityInfo
  simp only [getUserId_withClock asks, valid, ↓reduceIte, admitted, found,
    ofSystem, Bool.not_true, Bool.false_eq_true, shown]
  split <;> rfl

/-- The ability of the clock is handed out as one of its module. -/
theorem face_mem_getBundleInfo
    (getAllReqPermissionStateFull : UInt32 → Option (List PermissionStateFull))
    (flags : Int32) (real : 0 ≤ owner) :
    ∃ module ∈ ((faceClock owner disabledAbilities).getBundleInfo
        getAllReqPermissionStateFull flags {} owner).hapModuleInfos,
      (faceClock owner disabledAbilities).abilityOfModule owner face ∈
        module.abilityInfos := by
  obtain ⟨hapModuleInfo, found, abilities⟩ : ∃ hapModuleInfo,
      (faceClock owner disabledAbilities).findHapModuleInfo "main" owner =
          some hapModuleInfo ∧
        hapModuleInfo.abilityInfos =
          [(faceClock owner disabledAbilities).abilityOfModule owner face] := by
    have present : (faceClock owner disabledAbilities).innerModuleInfos[
        "main"]? = some { modulePackage := "main", moduleName := "main" } :=
      Std.ExtTreeMap.getElem?_insert_self
    have ofMain : Text.contains "clock.main.Face" ("." ++ "main" ++ ".") =
        true := by
      decide +kernel
    unfold InnerBundleInfo.findHapModuleInfo
    rw [present, faceClock_abilities]
    refine ⟨_, rfl, ?_⟩
    simp only [List.filter_cons, ofMain, ↓reduceIte, List.filter_nil,
      List.map_cons, List.map_nil]
  have modules : (faceClock owner disabledAbilities).innerModuleInfos.values =
      [{ modulePackage := "main", moduleName := "main" }] := by
    rw [Std.ExtTreeMap.values_eq_map_toList, faceClock,
      Std.ExtTreeMap.toList_insert_empty]
    rfl
  unfold InnerBundleInfo.getBundleInfo
  rw [faceClock_getInnerBundleUserInfo real]
  dsimp only
  rw [(InnerBundleInfo.afterModules_keeps getAllReqPermissionStateFull _ _).2,
    modules, List.foldl_cons, List.foldl_nil,
    InnerBundleInfo.addModuleToBundle_hapModuleInfos found]
  refine ⟨_, List.mem_append_right _ (List.mem_singleton_self _), ?_⟩
  rw [InnerBundleInfo.getModuleWithHashValue_abilityInfos, abilities]
  exact List.mem_singleton_self _

end FaceClock

end BundleDataMgr

namespace Query

open BundleDataMgr

variable {ids : Set Int32} {userId owner : Int32} {query : Query}
  {regexMatch : String → String → Bool}
  {getAllReqPermissionStateFull : UInt32 → Option (List PermissionStateFull)}

/-- A query for the clock. -/
def forClock : (query : Query) → query.Argument
  | queryAbilityInfo _ | queryAbilityInfos _ | queryLauncherAbilityInfos =>
      { element := { bundleName := "clock", abilityName := "Face" }
        action := "show" }
  | queryAbilityInfoByUri => "dataability:///face"
  | getApplicationInfo _ | getBundleInfo _ => "clock"
  | getApplicationInfos _ | getBundleInfos _ | getBundleList => ()

/-- Without the clock every query fails. -/
theorem run_withoutClock (argument : query.Argument) :
    (query.run regexMatch getAllReqPermissionStateFull
      (withoutClock userId owner) userId userId argument).returned = false := by
  have noBundle (name : String) :
      (withoutClock userId owner).bundleInfos[name]? = none := by
    rw [withoutClock_eq]
    exact Std.ExtTreeMap.getElem?_empty
  have empty : (withoutClock userId owner).bundleInfos.isEmpty = true := by
    rw [withoutClock_eq]
    exact Std.ExtTreeMap.isEmpty_empty
  have noValues : (withoutClock userId owner).bundleInfos.values = [] := by
    rw [withoutClock_eq]
    rfl
  have hidden (name : String) (flags requestUserId : Int32) :
      (withoutClock userId owner).getInnerBundleInfoWithFlags name flags
        requestUserId userId = none := by
    unfold BundleDataMgr.getInnerBundleInfoWithFlags
    simp only [noBundle, ite_self]
  cases query with
  | queryAbilityInfo flags =>
      simp [run, answerAbilities, BundleDataMgr.queryAbilityInfo,
        explicitQueryAbilityInfo, implicitQueryAbilityInfos, hidden, empty]
  | queryAbilityInfos flags =>
      simp [run, answerAbilities, BundleDataMgr.queryAbilityInfos,
        explicitQueryAbilityInfo, implicitQueryAbilityInfos, hidden, empty]
  | queryLauncherAbilityInfos =>
      simp [run, answerAbilities, BundleDataMgr.queryLauncherAbilityInfos,
        empty]
  | queryAbilityInfoByUri =>
      simp [run, answerAbilities, BundleDataMgr.queryAbilityInfoByUri, empty]
  | getApplicationInfo flags =>
      simp [run, BundleDataMgr.getApplicationInfo, hidden]
  | getApplicationInfos flags =>
      simp [run, BundleDataMgr.getApplicationInfos, empty]
  | getBundleInfo flags =>
      simp [run, answerBundles, BundleDataMgr.getBundleInfo, hidden]
  | getBundleInfos flags =>
      simp [run, answerBundles, BundleDataMgr.getBundleInfos, getAllBundleInfos,
        noValues, empty]
  | getBundleList =>
      simp [run, BundleDataMgr.getBundleList, empty]

/-- Somebody else has a clock that is noticed. -/
theorem exists_owner_of_not_seesOnlyOwn (asks : 0 ≤ userId)
    {showsUnanswered : Bool}
    (leaks : ¬SeesOnlyOwn ids userId showsUnanswered) :
    ∃ owner ∈ ids, 0 ≤ owner ∧ owner ≠ userId ∧ owner ≠ defaultUserId ∧
      (showsUnanswered = true ∨
        (faceClock owner []).getResponseUserId userId = owner) := by
  rw [SeesOnlyOwn, not_and_or] at leaks
  rcases leaks with answered | unanswered
  · push Not at answered
    obtain ⟨owner, member, positive, below, above⟩ := answered
    have ordinary : startUserId ≤ userId := Int32.not_lt.mp above
    have notOwner : owner ≠ userId := by
      rintro rfl
      exact absurd below (Int32.not_lt.mpr ordinary)
    refine ⟨owner, member, Int32.le_of_lt positive, notOwner, ?_,
      .inr (faceClock_getResponseUserId ordinary below)⟩
    rintro rfl
    exact absurd positive (by decide)
  · push Not at unanswered
    obtain ⟨shows, owner, member, real, notOwner, notDefault⟩ := unanswered
    exact ⟨owner, member, real, notOwner, notDefault, .inl shows⟩

/-- A query that notices the clock of somebody else does not hide it. -/
theorem not_hidesForeign_of_returned (asks : 0 ≤ userId) (member : owner ∈ ids)
    (real : 0 ≤ owner) (other : owner ≠ userId)
    (notDefault : owner ≠ defaultUserId)
    (returned : (query.run regexMatch getAllReqPermissionStateFull
      (withClock userId owner []) userId userId query.forClock).returned =
        true) :
    ¬query.HidesForeign ids userId regexMatch getAllReqPermissionStateFull := by
  intro hides
  have same := hides (withoutClock userId owner) (withClock userId owner [])
    "clock" userId query.forClock withoutClock_isStoreOf
    (withClock_isStoreOf member real) hasUserId_withoutClock
    (differInForeign_withClock asks other notDefault)
  rw [← same, run_withoutClock] at returned
  cases returned

/-- The flags of a query show bundles that nobody answers for. -/
def showsUnanswered (query : Query) : Bool :=
  match query with
  | queryAbilityInfo _ | queryAbilityInfos _ =>
      query.asksForDisabledApplications && query.asksForDisabledAbilities
  | _ => query.asksForDisabledApplications

/-- The queries that ask whether a bundle is enabled. -/
def asksWhetherEnabled : Query → Bool
  | queryLauncherAbilityInfos | queryAbilityInfoByUri => false
  | _ => true

/-- A query that asks whether a bundle is enabled notices the clock if it shows
bundles that nobody answers for or the owner of the clock answers. -/
theorem returned_withClock (asks : 0 ≤ userId) (real : 0 ≤ owner)
    (ordinary : query.asksWhetherEnabled = true)
    (passes : query.showsUnanswered = true ∨
      (faceClock owner []).getResponseUserId userId = owner) :
    (query.run regexMatch getAllReqPermissionStateFull
      (withClock userId owner []) userId userId query.forClock).returned =
        true := by
  have valid : userId ≠ invalidUserId := by
    rintro rfl
    exact absurd asks (by decide)
  have specific : userId ≠ allUserId := by
    rintro rfl
    exact absurd asks (by decide)
  have notAny : userId ≠ anyUserId := by
    rintro rfl
    exact absurd asks (by decide)
  have isUser : (withClock userId owner []).getUserId userId userId = userId :=
    getUserId_withClock asks
  cases query with
  | queryAbilityInfo flags =>
      have found := explicitQueryAbilityInfo_withClock asks real passes
      simp only [run, answerAbilities, BundleDataMgr.queryAbilityInfo, forClock,
        isUser, valid]
      exact found
  | queryAbilityInfos flags =>
      have found : ((withClock userId owner []).explicitQueryAbilityInfo "clock"
          "" "Face" flags userId userId).isSome = true :=
        explicitQueryAbilityInfo_withClock asks real passes
      obtain ⟨ability, isFound⟩ := Option.isSome_iff_exists.mp found
      simp [run, answerAbilities, BundleDataMgr.queryAbilityInfos, forClock,
        isUser, valid, isFound]
  | queryLauncherAbilityInfos => cases ordinary
  | queryAbilityInfoByUri => cases ordinary
  | getApplicationInfo flags =>
      have admitted : (withClock userId owner []).getInnerBundleInfoWithFlags
          "clock" flags userId userId = some (faceClock owner []) :=
        admitted_withClock asks real passes
      simp [run, BundleDataMgr.getApplicationInfo, forClock, isUser, valid,
        admitted]
  | getApplicationInfos flags =>
      have admitted : (withClock userId owner []).getInnerBundleInfoWithFlags
          "clock" flags userId userId = some (faceClock owner []) :=
        admitted_withClock asks real passes
      rw [getInnerBundleInfoWithFlags_eq_some, isUser] at admitted
      obtain ⟨_, _, usable, shown⟩ := admitted
      simp only [run]
      rw [getApplicationInfos_eq (by rw [isUser]; exact valid), withClock_toList]
      rcases shown with asked | enabled
      · simp [addApplicationInfo, usable, asked]
      · simp [addApplicationInfo, usable, isUser, enabled]
  | getBundleInfo flags =>
      have admitted : (withClock userId owner []).getInnerBundleInfoWithFlags
          "clock" flags userId userId = some (faceClock owner []) :=
        admitted_withClock asks real passes
      simp [run, answerBundles, BundleDataMgr.getBundleInfo, forClock, isUser,
        valid, notAny, admitted]
  | getBundleInfos flags =>
      have admitted : (withClock userId owner []).getInnerBundleInfoWithFlags
          "clock" flags userId userId = some (faceClock owner []) :=
        admitted_withClock asks real passes
      simp only [run, answerBundles]
      rw [getBundleInfos_eq _ (by rw [isUser]; exact valid) specific,
        withClock_toList]
      simp [bundleInfoOf, isUser, admitted]
  | getBundleList =>
      have admitted : (withClock userId owner []).getInnerBundleInfoWithFlags
          "clock" BundleFlag.getBundleDefault userId userId =
            some (faceClock owner []) :=
        admitted_withClock asks real passes
      simp only [run]
      rw [getBundleList_eq (by rw [isUser]; exact valid), withClock_toList]
      simp [admitted]

/-- What is handed out of a clock whose ability is disabled is not switched
on. -/
theorem not_hidesDisabled_of_mem (asks : 0 ≤ userId) (member : userId ∈ ids)
    {ability : AbilityInfo}
    (handedOut : ability ∈ (query.run regexMatch getAllReqPermissionStateFull
      (withClock userId userId ["Face"]) userId userId
        query.forClock).abilities)
    (unasked : query.asksForDisabledAbilities = false) :
    ¬query.HidesDisabled ids userId regexMatch getAllReqPermissionStateFull := by
  intro hides
  obtain ⟨_, key, _, stored, isInfo, declared, _, _, _, enabled⟩ :=
    (hides (withClock userId userId ["Face"]) userId query.forClock
      (withClock_isStoreOf member asks) hasUserId_withClock).2 unasked ability
        handedOut
  obtain ⟨_, rfl⟩ := withClock_stored isInfo
  have isFace : stored = face := by
    rw [faceClock, Std.ExtTreeMap.getElem?_insert] at declared
    split at declared
    · exact (Option.some.inj declared).symm
    · rw [Std.ExtTreeMap.getElem?_empty] at declared
      cases declared
  rw [BundleDataMgr.answeringUser, getUserId_withClock asks,
    faceClock_getResponseUserId_owner asks, isFace,
    faceClock_isAbilityEnabled asks rfl] at enabled
  exact absurd enabled (by decide)

/-- Launcher abilities are handed out whether they are switched on or not. -/
theorem launcher_not_hidesDisabled (asks : 0 ≤ userId) (member : userId ∈ ids) :
    ¬queryLauncherAbilityInfos.HidesDisabled ids userId regexMatch
      getAllReqPermissionStateFull := by
  have valid : userId ≠ invalidUserId := by
    rintro rfl
    exact absurd asks (by decide)
  have isUser : (withClock userId userId ["Face"]).getUserId userId userId =
      userId :=
    getUserId_withClock asks
  have skills : (faceClock userId ["Face"]).skillInfos["clock.main.Face"]? =
      some [{ actions := ["show"] }] :=
    Std.ExtTreeMap.getElem?_insert_self
  have handedOut : (queryLauncherAbilityInfos.run regexMatch
      getAllReqPermissionStateFull (withClock userId userId ["Face"]) userId
      userId queryLauncherAbilityInfos.forClock).abilities ≠ [] := by
    simp [run, answerAbilities, BundleDataMgr.queryLauncherAbilityInfos,
      forClock, isUser, valid, withClock_getElem?, withClock_isEmpty,
      getMatchLauncherAbilityInfos, faceClock_abilities, skills, filterAbilityInfosByModuleName, Skill.matchLauncher,
      Skill.matchAction, Skill.matchEntities]
  obtain ⟨ability, isAbility⟩ := List.exists_mem_of_ne_nil _ handedOut
  exact not_hidesDisabled_of_mem asks member isAbility rfl

/-- The ability of a uri is handed out whether it is switched on or not. -/
theorem byUri_not_hidesDisabled (asks : 0 ≤ userId) (member : userId ∈ ids) :
    ¬queryAbilityInfoByUri.HidesDisabled ids userId regexMatch
      getAllReqPermissionStateFull := by
  have valid : userId ≠ invalidUserId := by
    rintro rfl
    exact absurd asks (by decide)
  have isUser : (withClock userId userId ["Face"]).getUserId userId userId =
      userId :=
    getUserId_withClock asks
  have infos : (withClock userId userId ["Face"]).bundleInfos.values =
      [faceClock userId ["Face"]] := by
    rw [Std.ExtTreeMap.values_eq_map_toList, withClock_toList]
    rfl
  have searched : uriToSearch "dataability:///face" = some "face" := by
    decide +kernel
  have uriOfFace : Text.substr face.uri dataAbilityUriPrefix.toList.length =
      some "face" := by
    decide +kernel
  have declared : (faceClock userId ["Face"]).baseAbilityInfos.values =
      [face] := by
    rw [Std.ExtTreeMap.values_eq_map_toList, faceClock_abilities]
    rfl
  have found : (findByUri "face" userId (faceClock userId ["Face"])).isSome =
      true := by
    have usable : (faceClock userId ["Face"]).isDisabled = false := rfl
    unfold findByUri InnerBundleInfo.findAbilityInfoByUri
    rw [faceClock_getResponseUserId_owner asks, declared]
    simp [usable, InnerBundleInfo.getApplicationEnabled,
      faceClock_getInnerBundleUserInfo asks, faceClockUser, uriOfFace]
  obtain ⟨ability, isFound⟩ := Option.isSome_iff_exists.mp found
  have handedOut : ability ∈ (queryAbilityInfoByUri.run regexMatch
      getAllReqPermissionStateFull (withClock userId userId ["Face"]) userId
      userId queryAbilityInfoByUri.forClock).abilities := by
    simp [run, answerAbilities, BundleDataMgr.queryAbilityInfoByUri, forClock,
      isUser, valid, withClock_isEmpty, infos, searched, isFound]
  exact not_hidesDisabled_of_mem asks member handedOut rfl

/-- The modules of a bundle come with abilities that are switched off. -/
theorem face_mem_answerBundles {flags : Int32} {returned : Bool}
    {bundles : List BundleInfo} (asks : 0 ≤ userId)
    (isBundle : (faceClock userId ["Face"]).getBundleInfo
      getAllReqPermissionStateFull flags {} userId ∈ bundles) :
    (faceClock userId ["Face"]).abilityOfModule userId face ∈
      (answerBundles returned bundles).abilities := by
  obtain ⟨module, isModule, isAbility⟩ :=
    @face_mem_getBundleInfo userId ["Face"] getAllReqPermissionStateFull flags
      asks
  apply List.mem_flatMap.mpr
  refine ⟨_, isBundle, List.mem_append_right _ ?_⟩
  exact List.mem_flatMap.mpr ⟨module, isModule, isAbility⟩

/-- The clock of the asking user passes. -/
theorem own_admitted {flags : Int32} (asks : 0 ≤ userId) :
    (withClock userId userId ["Face"]).getInnerBundleInfoWithFlags "clock" flags
      userId userId = some (faceClock userId ["Face"]) :=
  admitted_withClock asks asks (.inr (faceClock_getResponseUserId_owner asks))

theorem getBundleInfo_not_hidesDisabled {flags : Int32} (asks : 0 ≤ userId)
    (member : userId ∈ ids)
    (unasked : (getBundleInfo flags).asksForDisabledAbilities = false) :
    ¬(getBundleInfo flags).HidesDisabled ids userId regexMatch
      getAllReqPermissionStateFull := by
  have valid : userId ≠ invalidUserId := by
    rintro rfl
    exact absurd asks (by decide)
  have notAny : userId ≠ anyUserId := by
    rintro rfl
    exact absurd asks (by decide)
  have isUser : (withClock userId userId ["Face"]).getUserId userId userId =
      userId :=
    getUserId_withClock asks
  have found : (withClock userId userId ["Face"]).getBundleInfo
      getAllReqPermissionStateFull "clock" flags userId userId =
      some ((faceClock userId ["Face"]).getBundleInfo
        getAllReqPermissionStateFull flags {} userId) := by
    simp [BundleDataMgr.getBundleInfo, isUser, valid, notAny,
      own_admitted asks, faceClock_getResponseUserId_owner asks]
  exact not_hidesDisabled_of_mem asks member
    (face_mem_answerBundles asks (Option.mem_toList.mpr found)) unasked

theorem getBundleInfos_not_hidesDisabled {flags : Int32} (asks : 0 ≤ userId)
    (member : userId ∈ ids)
    (unasked : (getBundleInfos flags).asksForDisabledAbilities = false) :
    ¬(getBundleInfos flags).HidesDisabled ids userId regexMatch
      getAllReqPermissionStateFull := by
  have valid : userId ≠ invalidUserId := by
    rintro rfl
    exact absurd asks (by decide)
  have specific : userId ≠ allUserId := by
    rintro rfl
    exact absurd asks (by decide)
  have isUser : (withClock userId userId ["Face"]).getUserId userId userId =
      userId :=
    getUserId_withClock asks
  have found : (faceClock userId ["Face"]).getBundleInfo
      getAllReqPermissionStateFull flags {} userId ∈
      ((withClock userId userId ["Face"]).getBundleInfos
        getAllReqPermissionStateFull flags userId userId).2 := by
    rw [getBundleInfos_eq _ (by rw [isUser]; exact valid) specific,
      withClock_toList]
    simp [bundleInfoOf, isUser, own_admitted asks,
      faceClock_getResponseUserId_owner asks]
  exact not_hidesDisabled_of_mem asks member
    (face_mem_answerBundles asks found) unasked

/-- A query keeps both laws exactly when it is private. -/
theorem hides_iff_isPrivate (ids : Set Int32) (userId : Int32)
    (member : userId ∈ ids) (asks : 0 ≤ userId) (query : Query)
    (regexMatch : String → String → Bool)
    (getAllReqPermissionStateFull :
      UInt32 → Option (List PermissionStateFull)) :
    (query.HidesForeign ids userId regexMatch getAllReqPermissionStateFull ∧
      query.HidesDisabled ids userId regexMatch getAllReqPermissionStateFull) ↔
      query.IsPrivate ids userId := by
  constructor
  · rintro ⟨hidesForeign, hidesDisabled⟩
    have seesOnlyOwn (ordinary : query.asksWhetherEnabled = true) :
        SeesOnlyOwn ids userId query.showsUnanswered := by
      by_contra leaks
      obtain ⟨owner, isMember, real, other, notDefault, passes⟩ :=
        exists_owner_of_not_seesOnlyOwn asks leaks
      exact not_hidesForeign_of_returned asks isMember real other notDefault
        (returned_withClock asks real ordinary passes) hidesForeign
    have asksForAbilities
        (leaks : query.asksForDisabledAbilities = false →
          ¬query.HidesDisabled ids userId regexMatch
            getAllReqPermissionStateFull) :
        query.asksForDisabledAbilities = true := by
      cases asked : query.asksForDisabledAbilities with
      | true => rfl
      | false => exact absurd hidesDisabled (leaks asked)
    cases query with
    | queryLauncherAbilityInfos =>
        exact launcher_not_hidesDisabled asks member hidesDisabled
    | queryAbilityInfoByUri =>
        exact byUri_not_hidesDisabled asks member hidesDisabled
    | getBundleInfo flags =>
        exact ⟨asksForAbilities (getBundleInfo_not_hidesDisabled asks member),
          seesOnlyOwn rfl⟩
    | getBundleInfos flags =>
        exact ⟨asksForAbilities (getBundleInfos_not_hidesDisabled asks member),
          seesOnlyOwn rfl⟩
    | _ => exact seesOnlyOwn rfl
  · intro isPrivate
    exact ⟨hidesForeign_of_isPrivate asks isPrivate,
      hidesDisabled_of_isPrivate asks isPrivate⟩

/-- Where there is nobody else, nobody else's bundles are seen. -/
theorem hides_iff_isPrivate_alone :
    (queryAbilityInfos 0).HidesForeign {100} 100 noRegex (fun _ => none) ∧
      (queryAbilityInfos 0).HidesDisabled {100} 100 noRegex
        (fun _ => none) := by
  apply (hides_iff_isPrivate {100} 100 (Set.mem_singleton _) (by decide)
    (queryAbilityInfos 0) noRegex fun _ => none).mpr
  constructor
  · rintro other rfl _ below
    exact below
  · intro asked
    exact absurd asked (by decide)

/-- A user asks for launcher abilities and for applications, disabled ones too,
and sees that another one has a clock; and a launcher ability that is disabled
is handed out. -/
theorem queries_tell_too_much :
    ((withoutClock 100 101).IsStoreOf {100, 101} ∧
      (withClock 100 101 []).IsStoreOf {100, 101} ∧
      (withoutClock 100 101).hasUserId 100 = true ∧
      (withoutClock 100 101).DifferInForeign 100 (withClock 100 101 [])
        "clock" ∧
      ((withoutClock 100 101).queryLauncherAbilityInfos showWant 100 100).1 =
        false ∧
      ((withClock 100 101 []).queryLauncherAbilityInfos showWant 100
        100).2.map (·.name) = ["Face"] ∧
      ((withoutClock 100 101).getApplicationInfo "clock" 0x200 100
        100).isSome = false ∧
      ((withClock 100 101 []).getApplicationInfo "clock" 0x200 100
        100).isSome = true) ∧
    (withClock 100 100 ["Face"]).IsStoreOf {100, 101} ∧
      ((withClock 100 100 ["Face"]).queryLauncherAbilityInfos showWant 100
        100).2.map (fun ability =>
          (ability.name,
            (faceClock 100 ["Face"]).isAbilityEnabled ability 100)) =
        [("Face", false)] := by
  refine ⟨⟨withoutClock_isStoreOf, withClock_isStoreOf (by simp) (by decide),
    hasUserId_withoutClock,
    differInForeign_withClock (by decide) (by decide) (by decide),
    by decide +kernel, by decide +kernel, by decide +kernel,
    by decide +kernel⟩, withClock_isStoreOf (by simp) (by decide), ?_⟩
  decide +kernel

end Query

end AppExecFwk
