import AppExecFwk.Restart.LoadData
import AppExecFwk.Store.Agreement

/-!
# A restart brings the service back

When no installer is at work the storage has the record of every bundle as memory
has it, but for the switches.  A restart from there comes to the same bundles, with
the same records, users and ids.
-/

namespace AppExecFwk

open CommandProgram

namespace InnerBundleInfo

variable (info : InnerBundleInfo)

/-- What a restart keeps of a record, whatever is switched off in it. -/
def settled : InnerBundleInfo :=
  info.lasting.withoutSwitches

theorem settled_eq : info.settled = info.withoutSwitches.lasting := by
  unfold settled withoutSwitches resetBundleState
  rfl

theorem settled_of_withoutSwitches {record : InnerBundleInfo}
    (same : record.withoutSwitches = info.withoutSwitches) :
    record.settled = info.settled := by
  rw [settled_eq, settled_eq, same]

theorem withoutSwitches_resetBundleState :
    (info.resetBundleState allUserId).withoutSwitches = info.withoutSwitches := by
  unfold withoutSwitches resetBundleState
  simp only [↓reduceIte, Std.ExtTreeMap.map_map]
  rfl

theorem withoutSwitches_restoreUserState (bundleName : String)
    (userState : Int32 × BundleUserInfo) :
    (info.restoreUserState bundleName userState).withoutSwitches =
      info.withoutSwitches := by
  have abilities (disabledAbilities : List String) (start : InnerBundleInfo) :
      (disabledAbilities.foldl (fun info disabledAbility =>
        (info.setAbilityEnabled bundleName "" disabledAbility false
          userState.1).getD info) start).withoutSwitches =
        start.withoutSwitches := by
    induction disabledAbilities generalizing start with
    | nil => rfl
    | cons disabledAbility rest ih =>
        rw [List.foldl_cons, ih]
        cases switched : start.setAbilityEnabled bundleName "" disabledAbility
            false userState.1 with
        | none => rfl
        | some changed =>
            exact start.withoutSwitches_setAbilityEnabled switched
  unfold restoreUserState
  rw [abilities, withoutSwitches_setApplicationEnabled]

end InnerBundleInfo

namespace BundleDataMgr

/-- Two managers that differ in nothing but switches. -/
structure SameButSwitches (first second : BundleDataMgr) : Prop where
  infos : ∀ bundleName : String,
    second.bundleInfos[bundleName]?.map (·.settled) =
      first.bundleInfos[bundleName]?.map (·.settled)
  installStates : second.installStates = first.installStates
  bundleIdMap : second.bundleIdMap = first.bundleIdMap
  users : second.multiUserIdsSet = first.multiUserIdsSet

variable {first second third mgr : BundleDataMgr}

theorem SameButSwitches.trans (before : SameButSwitches first second)
    (after : SameButSwitches second third) : SameButSwitches first third where
  infos bundleName := (after.infos bundleName).trans (before.infos bundleName)
  installStates := after.installStates.trans before.installStates
  bundleIdMap := after.bundleIdMap.trans before.bundleIdMap
  users := after.users.trans before.users

theorem sameButSwitches_resetBundleStateData (mgr : BundleDataMgr) :
    SameButSwitches mgr mgr.resetBundleStateData where
  infos bundleName := by
    simp only [resetBundleStateData, Std.ExtTreeMap.getElem?_map, Option.map_map]
    congr 1
    funext info
    exact info.settled_of_withoutSwitches info.withoutSwitches_resetBundleState
  installStates := rfl
  bundleIdMap := rfl
  users := rfl

theorem sameButSwitches_restoreBundleState
    (bundleState : String × Std.ExtTreeMap Int32 BundleUserInfo)
    (mgr : BundleDataMgr) :
    SameButSwitches mgr (restoreBundleState bundleState mgr) := by
  have switched (userStates : List (Int32 × BundleUserInfo))
      (info : InnerBundleInfo) :
      (userStates.foldl (fun info userState =>
        info.restoreUserState bundleState.1 userState) info).withoutSwitches =
        info.withoutSwitches := by
    induction userStates generalizing info with
    | nil => rfl
    | cons userState rest ih =>
        rw [List.foldl_cons, ih, InnerBundleInfo.withoutSwitches_restoreUserState]
  unfold restoreBundleState
  cases present : mgr.bundleInfos[bundleState.1]? with
  | none => exact ⟨fun _ => rfl, rfl, rfl, rfl⟩
  | some info =>
      refine ⟨fun bundleName => ?_, rfl, rfl, rfl⟩
      simp only [putInfo, Std.ExtTreeMap.getElem?_insert]
      split
      · next same =>
        rw [← Std.compare_eq_iff_eq.mp same, present, Option.map_some,
          Option.map_some, info.settled_of_withoutSwitches (switched _ info)]
      · rfl

theorem sameButSwitches_loadAllBundleStateDataFromJsonDb (mgr : BundleDataMgr)
    (bundleStateInfos : StateInfos) :
    SameButSwitches mgr
      (mgr.loadAllBundleStateDataFromJsonDb bundleStateInfos) := by
  unfold loadAllBundleStateDataFromJsonDb
  generalize bundleStateInfos.toList = states
  induction states generalizing mgr with
  | nil => exact ⟨fun _ => rfl, rfl, rfl, rfl⟩
  | cons state rest ih =>
      exact (sameButSwitches_restoreBundleState state mgr).trans
        (ih (restoreBundleState state mgr))

section TakingOver

/-- Every bundle that was loaded is installed, and no other one. -/
theorem getElem?_emplaceInstallStates (bundleName : String) :
    mgr.emplaceInstallStates.installStates[bundleName]? =
      mgr.installStates[bundleName]?.or
        (if mgr.bundleInfos.contains bundleName then some .installSuccess
          else none) := by
  have emplaced (names : List String) (states : StringMap InstallState) :
      (names.foldl (fun states bundleName =>
        states.insertIfNew bundleName .installSuccess) states)[bundleName]? =
        states[bundleName]?.or
          (if bundleName ∈ names then some .installSuccess else none) := by
    induction names generalizing states with
    | nil => simp
    | cons name rest ih =>
        rw [List.foldl_cons, ih, Std.ExtTreeMap.getElem?_insertIfNew]
        by_cases same : bundleName = name
        · subst same
          by_cases present : bundleName ∈ states <;> simp [present]
        · simp [same, Ne.symm same]
  unfold emplaceInstallStates
  rw [emplaced]
  simp [Std.ExtTreeMap.mem_keys, Std.ExtTreeMap.contains_iff_mem]

/-- A restored record adds its users and its id, and changes nothing else. -/
theorem restoreRecord_spec (info : InnerBundleInfo) :
    (mgr.restoreRecord info).bundleInfos = mgr.bundleInfos ∧
      (mgr.restoreRecord info).installStates = mgr.installStates ∧
      ∀ userId, (mgr.restoreRecord info).hasUserId userId ↔
        mgr.hasUserId userId ∨ ∃ userInfo ∈ info.innerBundleUserInfos.values,
          userInfo.bundleUserInfo.userId = userId := by
  have users (userInfos : List InnerBundleUserInfo) (start : BundleDataMgr) :
      let after := userInfos.foldl (fun mgr userInfo =>
        mgr.addUserId userInfo.bundleUserInfo.userId) start
      after.bundleInfos = start.bundleInfos ∧
        after.installStates = start.installStates ∧
        ∀ userId, after.hasUserId userId ↔ start.hasUserId userId ∨
          ∃ userInfo ∈ userInfos, userInfo.bundleUserInfo.userId = userId := by
    induction userInfos generalizing start with
    | nil => simp
    | cons userInfo rest ih =>
        obtain ⟨infos, states, users⟩ :=
          ih (start.addUserId userInfo.bundleUserInfo.userId)
        refine ⟨infos, states, fun userId => ?_⟩
        rw [List.foldl_cons, users userId]
        simp [hasUserId, addUserId, Std.ExtTreeSet.contains_insert, or_assoc]
        tauto
  unfold restoreRecord
  have spec := users info.innerBundleUserInfos.values mgr
  cases info.ownId <;> exact spec

theorem restoreUidAndGid_spec (mgr : BundleDataMgr) :
    mgr.restoreUidAndGid.bundleInfos = mgr.bundleInfos ∧
      mgr.restoreUidAndGid.installStates = mgr.installStates ∧
      ∀ userId, mgr.restoreUidAndGid.hasUserId userId ↔
        mgr.hasUserId userId ∨ ∃ info ∈ mgr.bundleInfos.values,
          ∃ userInfo ∈ info.innerBundleUserInfos.values,
            userInfo.bundleUserInfo.userId = userId := by
  have records (infos : List InnerBundleInfo) (start : BundleDataMgr) :
      let after := infos.foldl restoreRecord start
      after.bundleInfos = start.bundleInfos ∧
        after.installStates = start.installStates ∧
        ∀ userId, after.hasUserId userId ↔ start.hasUserId userId ∨
          ∃ info ∈ infos, ∃ userInfo ∈ info.innerBundleUserInfos.values,
            userInfo.bundleUserInfo.userId = userId := by
    induction infos generalizing start with
    | nil => simp
    | cons info rest ih =>
        obtain ⟨infos, states, users⟩ := ih (start.restoreRecord info)
        obtain ⟨sameInfos, sameStates, added⟩ := @restoreRecord_spec start info
        refine ⟨infos.trans sameInfos, states.trans sameStates, fun userId => ?_⟩
        rw [List.foldl_cons, users userId, added userId]
        simp [or_assoc]
  exact records mgr.bundleInfos.values mgr

end TakingOver

end BundleDataMgr

section Ids

open BundleIdMap

/-- An id that the records bring back for one bundle only. -/
theorem BundleIdMap.broughtBack_of_mem {entries : List (Int32 × String)}
    {id : Int32} {bundleName : String} (member : (id, bundleName) ∈ entries)
    (only : ∀ other, (id, other) ∈ entries → other = bundleName) :
    BroughtBack entries id bundleName := by
  induction entries with
  | nil => cases member
  | cons head rest ih =>
      rw [broughtBack_cons]
      by_cases later : (id, bundleName) ∈ rest
      · exact .inl (ih later fun other found => only other (.tail _ found))
      · rcases List.mem_cons.mp member with first | found
        · refine .inr ⟨first.symm, fun entry inRest same => later ?_⟩
          obtain ⟨place, name⟩ := entry
          obtain rfl : place = id := same
          rwa [← only name (.tail _ inRest)]
        · exact absurd found later

theorem BundleIdMap.foldl_insert_of_same {entries : List (Int32 × String)}
    {ids : BundleIdMap}
    (same : ∀ id bundleName, (id, bundleName) ∈ entries ↔
      ids[id]? = some bundleName) :
    entries.foldl (fun ids entry => ids.insert entry.1 entry.2) ∅ = ids := by
  apply Std.ExtTreeMap.ext_getElem?
  intro id
  apply Option.ext
  intro bundleName
  rw [getElem?_restored_iff, ← same]
  constructor
  · rintro (⟨before, after, rfl, -⟩ | ⟨empty, -⟩)
    · simp
    · simp at empty
  · intro member
    refine .inl (broughtBack_of_mem member fun other found => ?_)
    have stored := (same id bundleName).mp member
    rw [(same id other).mp found] at stored
    exact Option.some.inj stored

/-- What is kept of a record has the id of the record. -/
theorem InnerBundleInfo.ownId_settled (info : InnerBundleInfo) :
    info.settled.ownId = info.ownId := by
  have users : info.settled.innerBundleUserInfos =
      info.innerBundleUserInfos.map fun _ user =>
        { user with bundleUserInfo := user.bundleUserInfo.reset } := rfl
  unfold ownId StringMap.begin?
  rw [users, Std.ExtTreeMap.values_eq_map_toList, Std.ExtTreeMap.toList_map,
    Std.ExtTreeMap.values_eq_map_toList]
  cases info.innerBundleUserInfos.toList <;> rfl

/-- It has the users of the record. -/
theorem InnerBundleInfo.hasUser_settled_iff (info : InnerBundleInfo)
    (userId : Int32) :
    (∃ userInfo ∈ info.settled.innerBundleUserInfos.values,
      userInfo.bundleUserInfo.userId = userId) ↔
    ∃ userInfo ∈ info.innerBundleUserInfos.values,
      userInfo.bundleUserInfo.userId = userId := by
  have users : info.settled.innerBundleUserInfos =
      info.innerBundleUserInfos.map fun _ user =>
        { user with bundleUserInfo := user.bundleUserInfo.reset } := rfl
  rw [users, Std.ExtTreeMap.values_eq_map_toList, Std.ExtTreeMap.toList_map,
    Std.ExtTreeMap.values_eq_map_toList]
  simp only [List.map_map, List.mem_map, exists_exists_and_eq_and]
  rfl

end Ids

namespace BundleDataMgr

/-- The ids in use are those of the records. -/
structure IdsInStep (mgr : BundleDataMgr) : Prop where
  named : ∀ (bundleName : String) info id other,
    mgr.bundleInfos[bundleName]? = some info →
    info.ownId = some (id, other) → other = bundleName
  same : ∀ (id : Int32) (bundleName : String),
    mgr.bundleIdMap[id]? = some bundleName ↔
      ∃ info, mgr.bundleInfos[bundleName]? = some info ∧
        info.ownId = some (id, bundleName)

/-- What a manager has to be that was brought up from the storage of another. -/
structure IsRestarted (mgr restarted : BundleDataMgr) : Prop where
  infos : ∀ bundleName : String,
    restarted.bundleInfos[bundleName]?.map (·.settled) =
      mgr.bundleInfos[bundleName]?.map (·.settled)
  installed : ∀ bundleName : String, restarted.installStates[bundleName]? =
    if mgr.bundleInfos.contains bundleName then some .installSuccess else none
  users : ∀ userId, restarted.hasUserId userId ↔
    ∃ (bundleName : String) (info : InnerBundleInfo),
      mgr.bundleInfos[bundleName]? = some info ∧
        ∃ userInfo ∈ info.innerBundleUserInfos.values,
          userInfo.bundleUserInfo.userId = userId
  ids : mgr.IdsInStep → restarted.bundleIdMap = mgr.bundleIdMap

/-- The storage as a start finds it. -/
def storedValues (mgr : BundleDataMgr) : StoredValues :=
  mgr.dataStorage.map fun _ json => some json

variable {mgr : BundleDataMgr}

section Loading

/-- The records of the storage are those of memory, but for the switches. -/
def AgreesOverall (mgr : BundleDataMgr) : Prop :=
  ∀ bundleName, mgr.AgreesUpTo InnerBundleInfo.withoutSwitches bundleName

theorem AgreesOverall.filed (agrees : mgr.AgreesOverall) (named : mgr.IsNamed) :
    IsFiled mgr.storedValues := by
  intro bundleName value found
  obtain ⟨stored, inStorage, same⟩ := agrees bundleName
  rw [storedValues, Std.ExtTreeMap.getElem?_map, inStorage] at found
  cases stored with
  | none => cases found
  | some record =>
      refine ⟨record, (Option.some.inj found).symm, ?_⟩
      cases present : mgr.bundleInfos[bundleName]? with
      | none => simp [present] at same
      | some info =>
          rw [present, Option.map_some, Option.map_some, Option.some_inj] at same
          have name := congrArg InnerBundleInfo.getBundleName same
          exact name.trans (named bundleName info present)

/-- What a start in which nothing fails loads from such a storage are the records
of memory, if nothing is going on with them. -/
theorem AgreesOverall.loads (agrees : mgr.AgreesOverall)
    (finished : ∀ (bundleName : String) info,
      mgr.bundleInfos[bundleName]? = some info → ¬info.IsUnfinished)
    {infos : StringMap InnerBundleInfo} {after : StoredValues}
    (recovers : Recovers mgr.storedValues infos after) (bundleName : String) :
    infos[bundleName]?.map (·.settled) =
      mgr.bundleInfos[bundleName]?.map (·.settled) := by
  obtain ⟨stored, inStorage, same⟩ := agrees bundleName
  have found : mgr.storedValues[bundleName]? =
      stored.map fun record => some record.toJson := by
    rw [storedValues, Std.ExtTreeMap.getElem?_map, inStorage, Option.map_map]
    rfl
  cases present : mgr.bundleInfos[bundleName]? with
  | none =>
      rw [present, Option.map_none, Option.map_eq_none_iff] at same
      rw [same] at found
      rw [(recovers.absent bundleName found).1]
  | some info =>
      rw [present, Option.map_some, Option.map_eq_some_iff] at same
      obtain ⟨record, rfl, same⟩ := same
      have loaded := (recovers.settled bundleName record.persisted
        (some record.toJson) found (recordOf_toJson record)).1
      have mark : record.mark = info.mark := congrArg (·.mark) same
      have unfinished : ¬record.persisted.IsUnfinished := by
        have ended := finished bundleName info present
        unfold InnerBundleInfo.IsUnfinished at ended ⊢
        rwa [← mark] at ended
      rw [loadedFrom, InnerBundleInfo.resume_of_finished unfinished,
        if_pos rfl] at loaded
      rw [loaded, Option.map_some, Option.map_some,
        ← info.settled_of_withoutSwitches same]
      rfl

end Loading

section Start

variable {infos : StringMap InnerBundleInfo}

/-- The ids that are brought back are those of the records. -/
theorem mem_restoredIds {id : Int32} {bundleName : String} :
    (id, bundleName) ∈ restoredIds infos ↔
      ∃ (key : String) (info : InnerBundleInfo),
        infos[key]? = some info ∧ info.ownId = some (id, bundleName) := by
  unfold restoredIds
  simp only [List.mem_filterMap, Std.ExtTreeMap.mem_values]
  constructor
  · rintro ⟨info, ⟨key, found⟩, own⟩
    exact ⟨key, info, found, own⟩
  · rintro ⟨key, info, found, own⟩
    exact ⟨info, ⟨key, found⟩, own⟩

/-- Records that are kept alike can be replaced by each other. -/
theorem exists_of_settled
    (same : ∀ bundleName : String, infos[bundleName]?.map (·.settled) =
      mgr.bundleInfos[bundleName]?.map (·.settled))
    {holds : String → InnerBundleInfo → Prop}
    (blind : ∀ bundleName info, holds bundleName info ↔
      holds bundleName info.settled) :
    (∃ (bundleName : String) (info : InnerBundleInfo),
      infos[bundleName]? = some info ∧ holds bundleName info) ↔
    ∃ (bundleName : String) (info : InnerBundleInfo),
      mgr.bundleInfos[bundleName]? = some info ∧ holds bundleName info := by
  have through (first second : StringMap InnerBundleInfo)
      (alike : ∀ bundleName : String, first[bundleName]?.map (·.settled) =
        second[bundleName]?.map (·.settled))
      (found : ∃ (bundleName : String) (info : InnerBundleInfo),
        first[bundleName]? = some info ∧ holds bundleName info) :
      ∃ (bundleName : String) (info : InnerBundleInfo),
        second[bundleName]? = some info ∧ holds bundleName info := by
    obtain ⟨bundleName, info, present, isSo⟩ := found
    have other := alike bundleName
    rw [present, Option.map_some] at other
    obtain ⟨record, stored, kept⟩ := Option.map_eq_some_iff.mp other.symm
    refine ⟨bundleName, record, stored, ?_⟩
    rw [blind, kept, ← blind]
    exact isSo
  constructor
  · exact through _ _ same
  · exact through _ _ fun bundleName => (same bundleName).symm

theorem IdsInStep.mem_restoredIds_iff (inStep : mgr.IdsInStep)
    (same : ∀ bundleName : String, infos[bundleName]?.map (·.settled) =
      mgr.bundleInfos[bundleName]?.map (·.settled))
    (id : Int32) (bundleName : String) :
    (id, bundleName) ∈ restoredIds infos ↔
      mgr.bundleIdMap[id]? = some bundleName := by
  have blind (_ : String) (info : InnerBundleInfo) :
      info.ownId = some (id, bundleName) ↔
        info.settled.ownId = some (id, bundleName) := by
    rw [info.ownId_settled]
  rw [mem_restoredIds, exists_of_settled same blind, inStep.same]
  constructor
  · rintro ⟨key, info, present, own⟩
    obtain rfl := inStep.named key info id bundleName present own
    exact ⟨info, present, own⟩
  · rintro ⟨info, present, own⟩
    exact ⟨bundleName, info, present, own⟩

/-- Switches do not show. -/
theorem IsRestarted.of_sameButSwitches {first second : BundleDataMgr}
    (isRestarted : mgr.IsRestarted first) (same : SameButSwitches first second) :
    mgr.IsRestarted second where
  infos bundleName := (same.infos bundleName).trans (isRestarted.infos bundleName)
  installed bundleName := by
    rw [same.installStates]
    exact isRestarted.installed bundleName
  users userId := by
    unfold hasUserId
    rw [same.users]
    exact isRestarted.users userId
  ids inStep := same.bundleIdMap.trans (isRestarted.ids inStep)

theorem takeOver_isRestarted (preInstallBundleInfos : List PreInstallBundleInfo)
    (bundleStateInfos : Option StateInfos)
    (same : ∀ bundleName : String, infos[bundleName]?.map (·.settled) =
      mgr.bundleInfos[bundleName]?.map (·.settled)) :
    mgr.IsRestarted (takeOver {} infos preInstallBundleInfos bundleStateInfos) := by
  have alike (bundleName : String) :
      infos.contains bundleName = mgr.bundleInfos.contains bundleName := by
    have present := congrArg Option.isSome (same bundleName)
    rwa [Option.isSome_map, Option.isSome_map,
      ← Std.ExtTreeMap.contains_eq_isSome_getElem?,
      ← Std.ExtTreeMap.contains_eq_isSome_getElem?] at present
  have records : mgr.IsRestarted (restoreUidAndGid
      { ({ bundleInfos := infos } : BundleDataMgr).emplaceInstallStates with
        preInstallBundleInfos }) := by
    obtain ⟨keptInfos, keptStates, users⟩ := restoreUidAndGid_spec
      { ({ bundleInfos := infos } : BundleDataMgr).emplaceInstallStates with
        preInstallBundleInfos }
    constructor
    case infos =>
      rw [keptInfos]
      exact same
    case installed =>
      intro bundleName
      rw [keptStates, ← alike]
      refine (getElem?_emplaceInstallStates bundleName).trans ?_
      simp
    case users =>
      intro userId
      rw [users, ← exists_of_settled same fun _ info =>
        (info.hasUser_settled_iff userId).symm]
      change false = true ∨ (∃ info ∈ infos.values, _) ↔ _
      simp only [Std.ExtTreeMap.mem_values]
      constructor
      · rintro (impossible | ⟨info, ⟨bundleName, loaded⟩, isUser⟩)
        · cases impossible
        · exact ⟨bundleName, info, loaded, isUser⟩
      · rintro ⟨bundleName, info, loaded, isUser⟩
        exact .inr ⟨info, ⟨bundleName, loaded⟩, isUser⟩
    case ids =>
      intro inStep
      rw [restoreUidAndGid_bundleIdMap]
      exact BundleIdMap.foldl_insert_of_same (inStep.mem_restoredIds_iff same)
  unfold takeOver
  cases bundleStateInfos with
  | none => exact records
  | some bundleStateInfos =>
      exact records.of_sameButSwitches
        ((sameButSwitches_resetBundleStateData _).trans
          (sameButSwitches_loadAllBundleStateDataFromJsonDb _ bundleStateInfos))

/-- A start in which nothing fails takes over the records of memory. -/
theorem wpReturns_loadDataFromPersistentStorage
    (agrees : mgr.AgreesOverall) (named : mgr.IsNamed)
    (finished : ∀ (bundleName : String) info,
      mgr.bundleInfos[bundleName]? = some info → ¬info.IsUnfinished)
    (installed : ∃ bundleName, mgr.bundleInfos.contains bundleName)
    (preInstallBundleInfos : List PreInstallBundleInfo)
    (bundleStateInfos : Option StateInfos) :
    wpReturns recordStorage Obliges
      (loadDataFromPersistentStorage {} preInstallBundleInfos bundleStateInfos)
      (fun result _ => ∃ infos : StringMap InnerBundleInfo,
        (∀ bundleName : String, infos[bundleName]?.map (·.settled) =
          mgr.bundleInfos[bundleName]?.map (·.settled)) ∧
        result = (true, takeOver {} infos preInstallBundleInfos bundleStateInfos))
      mgr.storedValues := by
  unfold loadDataFromPersistentStorage
  refine wpReturns_seq (wpReturns_loadAllData (agrees.filed named).orderly) ?_
  rintro _ after ⟨infos, rfl, recovers⟩
  have same := agrees.loads finished recovers
  have inhabited : infos.isEmpty = false := by
    obtain ⟨bundleName, present⟩ := installed
    obtain ⟨info, stored⟩ := Std.ExtTreeMap.exists_of_contains present
    have loaded := same bundleName
    rw [stored, Option.map_some] at loaded
    obtain ⟨record, found, -⟩ := Option.map_eq_some_iff.mp loaded
    rw [← Bool.not_eq_true, Std.ExtTreeMap.isEmpty_iff]
    rintro rfl
    simp at found
  dsimp only
  rw [inhabited]
  exact ⟨infos, same, rfl⟩

end Start

end BundleDataMgr

/-- The manager that has installed one bundle. -/
def afterInstallation : BundleDataMgr × Ledger :=
  observedStore.performAll ({}, {}) plainInstallation

end AppExecFwk
