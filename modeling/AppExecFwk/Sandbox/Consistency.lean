import AppExecFwk.Sandbox.BundleSandboxInstaller
import AppExecFwk.Store.RecordEffect

/-!
# Consistency of the sandbox store

The sandbox store has the record of a sandbox application exactly when its index
is recorded for the bundle, after any sequence of operations of the sandbox
installer, with any calls of the bundle data manager in between.  One step of
the source breaks this: an application whose directory cannot be removed loses
its index and keeps its record.
-/

namespace AppExecFwk

open CommandProgram

/-- The bundle has one user, and which one. -/
def InnerBundleInfo.HasOnlyUser (info : InnerBundleInfo) (userId : Int32) :
    Prop :=
  ∃ user, info.innerBundleUserInfos =
    (∅ : StringMap InnerBundleUserInfo).insert
      (nameAndUserIdToKey info.getBundleName userId) user

namespace InnerBundleInfo

variable {info : InnerBundleInfo} {userId : Int32}

@[simp]
theorem modifyUserInfo_getBundleName (userId : Int32)
    (change : InnerBundleUserInfo → InnerBundleUserInfo) :
    (info.modifyUserInfo userId change).getBundleName = info.getBundleName :=
  rfl

@[simp]
theorem modifyUserInfo_appIndex (userId : Int32)
    (change : InnerBundleUserInfo → InnerBundleUserInfo) :
    (info.modifyUserInfo userId change).appIndex = info.appIndex :=
  rfl

@[simp]
theorem addInnerBundleUserInfo_appIndex (userInfo : InnerBundleUserInfo) :
    (info.addInnerBundleUserInfo userInfo).appIndex = info.appIndex :=
  rfl

/-- Changing a user of a record that has one user changes that user or none. -/
theorem modifyUserInfo_of_single {user : InnerBundleUserInfo}
    (single : info.innerBundleUserInfos =
      (∅ : StringMap InnerBundleUserInfo).insert
        (nameAndUserIdToKey info.getBundleName userId) user)
    (other : Int32) (change : InnerBundleUserInfo → InnerBundleUserInfo) :
    (info.modifyUserInfo other change).innerBundleUserInfos =
      (∅ : StringMap InnerBundleUserInfo).insert
        (nameAndUserIdToKey info.getBundleName userId)
        (if other = userId then change user else user) := by
  unfold InnerBundleInfo.modifyUserInfo
  by_cases same : other = userId
  · subst same
    have present : info.innerBundleUserInfos[nameAndUserIdToKey
        info.getBundleName other]? = some user := by simp [single]
    simp only [Std.ExtTreeMap.modify_eq_insert present, ↓reduceIte]
    rw [single]
    apply Std.ExtTreeMap.ext_getElem?
    intro key
    simp only [Std.ExtTreeMap.getElem?_insert]
    split <;> simp_all [getBundleName]
  · have absent : info.innerBundleUserInfos[nameAndUserIdToKey
        info.getBundleName other]? = none := by
      rw [single, Std.ExtTreeMap.getElem?_insert, if_neg,
        Std.ExtTreeMap.getElem?_empty]
      intro equal
      exact same (nameAndUserIdToKey_inj
        (Std.LawfulEqCmp.eq_of_compare equal)).2.symm
    simp only [Std.ExtTreeMap.modify_of_none absent]
    rw [if_neg same]
    exact single

theorem HasOnlyUser.modifyUserInfo (single : info.HasOnlyUser userId)
    (other : Int32) (change : InnerBundleUserInfo → InnerBundleUserInfo) :
    (info.modifyUserInfo other change).HasOnlyUser userId := by
  obtain ⟨user, single⟩ := single
  exact ⟨_, modifyUserInfo_of_single single other change⟩

theorem HasOnlyUser.unique {other : Int32} (single : info.HasOnlyUser userId)
    (has : info.innerBundleUserInfos.contains
      (nameAndUserIdToKey info.getBundleName other)) : other = userId := by
  obtain ⟨user, single⟩ := single
  rw [single, Std.ExtTreeMap.contains_insert] at has
  have equal : compare (nameAndUserIdToKey info.getBundleName userId)
      (nameAndUserIdToKey info.getBundleName other) = .eq := by
    simpa using has
  exact (nameAndUserIdToKey_inj
    (Std.LawfulEqCmp.eq_of_compare equal)).2.symm

end InnerBundleInfo

namespace BundleSandboxDataMgr

variable (mgr : BundleSandboxDataMgr)

/-- The record of a sandbox application is kept. -/
def HasInfo (bundleName : String) (appIndex : Int32) : Prop :=
  ∃ info, mgr.sandboxAppInfos[sandboxKey bundleName appIndex]? = some info

@[simp]
theorem hasIndex_mk (infos : StringMap InnerBundleInfo) (bundleName : String)
    (appIndex : Int32) :
    (BundleSandboxDataMgr.mk infos mgr.sandboxAppIndexMap).HasIndex bundleName
      appIndex ↔ mgr.HasIndex bundleName appIndex :=
  Iff.rfl

/-- A sandbox application exists for a user. -/
def IsLive (bundleName : String) (appIndex userId : Int32) : Prop :=
  ∃ info, mgr.sandboxAppInfos[sandboxKey bundleName appIndex]? = some info ∧
    info.innerBundleUserInfos.contains
      (nameAndUserIdToKey info.getBundleName userId)

theorem isLive_iff (bundleName : String) (appIndex userId : Int32) :
    mgr.IsLive bundleName appIndex userId ↔
      mgr.sandboxAppInfos[sandboxKey bundleName appIndex]?.any (fun info =>
        info.innerBundleUserInfos.contains
          (nameAndUserIdToKey info.getBundleName userId)) = true :=
  (Option.any_eq_true _ _).symm

theorem hasIndex_iff (bundleName : String) (appIndex : Int32) :
    mgr.HasIndex bundleName appIndex ↔
      mgr.sandboxAppIndexMap[bundleName]?.any (·.contains appIndex) = true := by
  simp [HasIndex, Option.any_eq_true]

/-- Records and indices go together, and every record is that of one user. -/
structure IsConsistent : Prop where
  bounded : mgr.IsBounded
  recorded : ∀ bundleName appIndex,
    mgr.HasInfo bundleName appIndex ↔ mgr.HasIndex bundleName appIndex
  owned : ∀ bundleName appIndex info,
    mgr.sandboxAppInfos[sandboxKey bundleName appIndex]? = some info →
    ∃ userId, info.HasOnlyUser userId

theorem isConsistent_empty : ({} : BundleSandboxDataMgr).IsConsistent where
  bounded := by simp [IsBounded, HasIndex]
  recorded := by simp [HasInfo, HasIndex]
  owned := by simp

/-- One index is in doubt: with it given back the store is consistent. -/
structure IsPending (bundleName : String) (appIndex : Int32) : Prop where
  bounded : mgr.IsBounded
  recorded : ∀ otherName other, ¬(otherName = bundleName ∧ other = appIndex) →
    (mgr.HasInfo otherName other ↔ mgr.HasIndex otherName other)
  absent : ¬mgr.HasInfo bundleName appIndex
  owned : ∀ otherName other info,
    mgr.sandboxAppInfos[sandboxKey otherName other]? = some info →
    ∃ userId, info.HasOnlyUser userId

variable {mgr} {bundleName : String} {appIndex : Int32}

theorem IsConsistent.isPending (consistent : mgr.IsConsistent)
    (unrecorded : ¬mgr.HasIndex bundleName appIndex) :
    mgr.IsPending bundleName appIndex where
  bounded := consistent.bounded
  recorded otherName other _ := consistent.recorded otherName other
  absent has := unrecorded ((consistent.recorded _ _).mp has)
  owned := consistent.owned

theorem IsConsistent.not_hasIndex_initial (consistent : mgr.IsConsistent) :
    ¬mgr.HasIndex bundleName initialAppIndex := by
  intro has
  exact Int32.lt_irrefl (consistent.bounded _ _ has).1

/-- A reserved index is in doubt. -/
theorem IsConsistent.isPending_generate (consistent : mgr.IsConsistent)
    (bundleName : String) :
    let generated := mgr.generateSandboxAppIndex bundleName
    (generated.1 = initialAppIndex ∧ generated.2 = mgr) ∨
      generated.1 ≠ initialAppIndex ∧
        generated.2.IsPending bundleName generated.1 ∧
        generated.2.HasIndex bundleName generated.1 := by
  have spec := mgr.generateSandboxAppIndex_spec consistent.bounded bundleName
  simp only at spec ⊢
  generalize mgr.generateSandboxAppIndex bundleName = generated at spec ⊢
  rcases spec with exhausted | ⟨range, fresh, sameInfos, records⟩
  · exact .inl ⟨congrArg Prod.fst exhausted, congrArg Prod.snd exhausted⟩
  · refine .inr ⟨?_, ?_, (records _ _).mpr (.inr ⟨rfl, rfl⟩)⟩
    · intro zero
      have positive := range.1
      rw [zero] at positive
      exact Int32.lt_irrefl positive
    · constructor
      case bounded =>
        intro otherName other has
        rcases (records _ _).mp has with before | ⟨-, rfl⟩
        · exact consistent.bounded _ _ before
        · exact range
      case recorded =>
        intro otherName other apart
        rw [records, ← consistent.recorded]
        simp [HasInfo, sameInfos, apart]
      case absent =>
        intro has
        apply fresh
        rw [← consistent.recorded]
        simpa [HasInfo, sameInfos] using has
      case owned =>
        intro otherName other info present
        rw [sameInfos] at present
        exact consistent.owned _ _ _ present

/-- An index in doubt that is given back is no longer in doubt. -/
theorem IsPending.isConsistent_delete (pending : mgr.IsPending bundleName appIndex)
    (named : bundleName ≠ "") :
    (mgr.deleteSandboxAppIndex bundleName appIndex).2.IsConsistent := by
  obtain ⟨sameInfos, -, records⟩ :=
    mgr.deleteSandboxAppIndex_spec appIndex named
  constructor
  case bounded =>
    intro otherName other has
    exact pending.bounded _ _ ((records _ _).mp has).1
  case recorded =>
    intro otherName other
    rw [records]
    by_cases same : otherName = bundleName ∧ other = appIndex
    · obtain ⟨rfl, rfl⟩ := same
      have absent := pending.absent
      simpa [HasInfo, sameInfos] using absent
    · have before := pending.recorded otherName other same
      simpa [HasInfo, sameInfos, same] using before
  case owned =>
    intro otherName other info present
    rw [sameInfos] at present
    exact pending.owned _ _ _ present

/-- An index in doubt that gets its record is no longer in doubt. -/
theorem IsPending.isConsistent_save {info : InnerBundleInfo} {userId : Int32}
    (pending : mgr.IsPending bundleName appIndex)
    (reserved : mgr.HasIndex bundleName appIndex)
    (name : info.getBundleName = bundleName) (named : bundleName ≠ "")
    (single : info.HasOnlyUser userId) :
    (mgr.saveSandboxAppInfo info appIndex).IsConsistent := by
  subst name
  unfold saveSandboxAppInfo
  rw [if_neg named]
  have lookup (otherName : String) (other : Int32) :
      (mgr.sandboxAppInfos.insert (sandboxKey info.getBundleName appIndex)
        info)[sandboxKey otherName other]? =
        if otherName = info.getBundleName ∧ other = appIndex then some info
        else mgr.sandboxAppInfos[sandboxKey otherName other]? := by
    rw [Std.ExtTreeMap.getElem?_insert]
    by_cases same : otherName = info.getBundleName ∧ other = appIndex
    · obtain ⟨rfl, rfl⟩ := same
      simp
    · rw [if_neg, if_neg same]
      intro equal
      obtain ⟨names, indices⟩ :=
        sandboxKey_inj (Std.LawfulEqCmp.eq_of_compare equal)
      exact same ⟨names.symm, indices.symm⟩
  constructor
  case bounded => exact pending.bounded
  case recorded =>
    intro otherName other
    by_cases same : otherName = info.getBundleName ∧ other = appIndex
    · obtain ⟨rfl, rfl⟩ := same
      simpa [HasInfo, lookup] using reserved
    · have before := pending.recorded otherName other same
      simpa [HasInfo, lookup, same] using before
  case owned =>
    intro otherName other record present
    rw [lookup] at present
    split at present
    · cases present
      exact ⟨userId, single⟩
    · exact pending.owned _ _ _ present

/-- A record that goes after its index leaves the store consistent. -/
theorem IsConsistent.isConsistent_forget (consistent : mgr.IsConsistent)
    (named : bundleName ≠ "") :
    ((mgr.deleteSandboxAppIndex bundleName appIndex).2.deleteSandboxAppInfo
      bundleName appIndex).IsConsistent := by
  obtain ⟨sameInfos, -, records⟩ :=
    mgr.deleteSandboxAppIndex_spec appIndex named
  unfold deleteSandboxAppInfo
  rw [if_neg named, sameInfos]
  have lookup (otherName : String) (other : Int32) :
      (mgr.sandboxAppInfos.erase (sandboxKey bundleName appIndex))[sandboxKey
        otherName other]? =
        if otherName = bundleName ∧ other = appIndex then none
        else mgr.sandboxAppInfos[sandboxKey otherName other]? := by
    rw [Std.ExtTreeMap.getElem?_erase]
    by_cases same : otherName = bundleName ∧ other = appIndex
    · obtain ⟨rfl, rfl⟩ := same
      simp
    · rw [if_neg, if_neg same]
      intro equal
      obtain ⟨names, indices⟩ :=
        sandboxKey_inj (Std.LawfulEqCmp.eq_of_compare equal)
      exact same ⟨names.symm, indices.symm⟩
  constructor
  case bounded =>
    intro otherName other has
    exact consistent.bounded _ _ ((records _ _).mp has).1
  case recorded =>
    intro otherName other
    have after := records otherName other
    rw [← consistent.recorded] at after
    by_cases same : otherName = bundleName ∧ other = appIndex
    · simp only [same] at after
      obtain ⟨rfl, rfl⟩ := same
      simpa [HasInfo, lookup] using after
    · simpa [HasInfo, lookup, same] using after.symm
  case owned =>
    intro otherName other info present
    rw [lookup] at present
    split at present
    · cases present
    · exact consistent.owned _ _ _ present

end BundleSandboxDataMgr

/-- What the steps have to be like: the record of a bundle that is copied carries
the name it is stored under and no sandbox index, and the directory of an
application that is kept can be removed. -/
def sandboxStepOk (step : Step bundleService) : Bool :=
  match step with
  | ⟨.store (.getInnerBundleInfo bundleName), world, _⟩ =>
      world.dataMgr.bundleInfos[bundleName]?.all fun info =>
        info.getBundleName = bundleName && info.appIndex = initialAppIndex
  | ⟨.external (.removeBundleDataDir dir _), world, reply⟩ =>
      !world.sandboxDataMgr.sandboxAppInfos.contains dir || reply = ErrCode.ok
  | _ => true

namespace BundleSandboxInstaller

variable {world : World}

open BundleSandboxDataMgr

/-- Undoing an installation settles the index in doubt. -/
theorem wp_sandboxAppRollBack {ok : Step bundleService → Prop}
    {info : InnerBundleInfo} {userId : Int32}
    (pending : world.sandboxDataMgr.IsPending info.getBundleName info.appIndex)
    (named : info.getBundleName ≠ "") :
    wp bundleService ok (sandboxAppRollBack info userId)
      (fun _ world => world.sandboxDataMgr.IsConsistent) world := by
  have settled := pending.isConsistent_delete named
  unfold sandboxAppRollBack
  simp only [wp_bind, wp_request, wp_sandbox]
  intro _ _ _ _
  split
  · simp only [Program.pure_eq, wp_ret, wp_request, wp_bind]
    intro _ _
    exact settled
  · simp only [Program.pure_eq, wp_ret, wp_request, wp_bind, wp_store]
    intro _ _ _ _
    exact settled

/-- The record an installation keeps has the one user it was made for. -/
theorem hasOnlyUser_addInnerBundleUserInfo {info : InnerBundleInfo}
    (empty : info.innerBundleUserInfos = ∅) (userInfo : InnerBundleUserInfo) :
    (info.addInnerBundleUserInfo userInfo).HasOnlyUser
      userInfo.bundleUserInfo.userId := by
  refine ⟨userInfo, ?_⟩
  simp only [InnerBundleInfo.addInnerBundleUserInfo, empty]
  rfl

theorem wp_createSandboxDataDir {ok : Step bundleService → Prop}
    {info : InnerBundleInfo} {userId uid appIndex : Int32}
    {post : Except ErrCode InnerBundleInfo → World → Prop}
    (refused : ∀ result, post (.error result) world)
    (made : post (.ok (info.setAppDataBaseDir
      (sandboxDataBaseDir info.getBundleName appIndex))) world) :
    wp bundleService ok (createSandboxDataDir info userId uid appIndex) post
      world := by
  unfold createSandboxDataDir
  simp only [wp_bind, wp_request]
  intro reply _
  by_cases done : reply = ErrCode.ok
  · simpa [done] using made
  · simpa [done] using refused reply

/-- An application is kept under the index that has been reserved for it, or
the index is given back. -/
theorem wp_installAtIndex {ok : Step bundleService → Prop}
    {info : InnerBundleInfo} {userInfo : InnerBundleUserInfo}
    {bundleName : String} {userId appIndex : Int32} {tokenId : UInt32}
    (pending : world.sandboxDataMgr.IsPending bundleName appIndex)
    (reserved : world.sandboxDataMgr.HasIndex bundleName appIndex)
    (named : bundleName ≠ "") (name : info.getBundleName = bundleName)
    (index : info.appIndex = appIndex)
    (empty : info.innerBundleUserInfos = ∅) :
    wp bundleService ok
      (installAtIndex bundleName info userInfo userId appIndex tokenId)
      (fun _ world => world.sandboxDataMgr.IsConsistent) world := by
  subst name
  unfold installAtIndex
  simp only [wp_bind, wp_store, wp_request]
  intro accepted _ time _
  generalize StoreCommand.perform _ accepted world.dataMgr = generated
  -- The record that will be kept, and all that matters about it.
  generalize same : InnerBundleInfo.setAccessTokenId _ tokenId userId = record
  have name : record.getBundleName = info.getBundleName := by
    rw [← same]
    simp [InnerBundleInfo.setBundleInstallTime,
      InnerBundleInfo.setBundleUpdateTime, InnerBundleInfo.setAccessTokenId]
  have index : record.appIndex = appIndex := by
    rw [← same, ← index]
    simp [InnerBundleInfo.setBundleInstallTime,
      InnerBundleInfo.setBundleUpdateTime, InnerBundleInfo.setAccessTokenId]
  obtain ⟨user, single⟩ : ∃ user, record.HasOnlyUser user := by
    rw [← same]
    exact ⟨_, (((hasOnlyUser_addInnerBundleUserInfo empty _).modifyUserInfo
      userId _).modifyUserInfo userId _).modifyUserInfo userId _⟩
  clear same
  rw [← name] at pending reserved named
  apply wp_createSandboxDataDir
  · intro result
    rw [wp_bind]
    rw [← index] at pending
    exact wp_mono (wp_sandboxAppRollBack pending named) fun _ _ settled => settled
  · simp only [wp_bind, wp_sandbox, wp_store]
    intro _ _ _ _ _ _
    exact pending.isConsistent_save reserved rfl named single

theorem wp_installSandboxApp {bundleName : String} {dlpType userId : Int32}
    (consistent : world.sandboxDataMgr.IsConsistent) :
    wp bundleService (sandboxStepOk ·)
      (installSandboxApp bundleName dlpType userId)
      (fun _ world => world.sandboxDataMgr.IsConsistent) world := by
  unfold installSandboxApp
  split
  case isTrue => exact consistent
  case isFalse named =>
  rw [wp_bind, wp_store]
  intro accepted carries
  split
  case h_1 => exact consistent
  case h_2 info copied =>
  obtain ⟨stored, present, same⟩ := BundleDataMgr.getInnerBundleInfo_eq_some copied
  obtain ⟨name, index⟩ : stored.getBundleName = bundleName ∧
      stored.appIndex = initialAppIndex := by
    simpa [sandboxStepOk, present] using carries
  have name : info.getBundleName = bundleName := by
    rw [same]
    exact name
  have index : info.appIndex = initialAppIndex := by
    rw [same]
    exact index
  clear same copied present carries
  subst name
  split
  case isTrue => exact consistent
  case isFalse =>
  rw [wp_bind, wp_store]
  intro _ _
  split
  case isTrue => exact consistent
  case isFalse =>
  split
  case h_1 => exact consistent
  case h_2 userInfo _ =>
  simp only [wp_bind, wp_sandbox]
  dsimp +instances only [SandboxCommand.perform]
  intro _ _
  rcases consistent.isPending_generate info.getBundleName with
    ⟨exhausted, same⟩ | ⟨found, pending, reserved⟩
  · -- No index is left: undoing gives back the index of the bundle itself.
    have untouched : (world.sandboxDataMgr.generateSandboxAppIndex
        info.getBundleName).2.IsPending info.getBundleName info.appIndex := by
      rw [same, index]
      exact consistent.isPending consistent.not_hasIndex_initial
    rw [if_pos exhausted, wp_bind]
    exact wp_mono (wp_sandboxAppRollBack untouched named)
      fun _ _ settled => settled
  · rw [if_neg found]
    simp only [wp_bind, wp_request]
    intro tokenId _ granted _
    split
    · rw [wp_bind]
      exact wp_mono (wp_sandboxAppRollBack pending named)
        fun _ _ settled => settled
    · exact wp_installAtIndex pending reserved named rfl rfl rfl

/-- What is found in the sandbox store has a name and is kept under it. -/
theorem getSandboxAppInfo_eq_ok {mgr : BundleSandboxDataMgr}
    {bundleName : String} {appIndex userId : Int32} {info : InnerBundleInfo}
    (found : mgr.getSandboxAppInfo bundleName appIndex userId = .ok info) :
    bundleName ≠ "" ∧
      mgr.sandboxAppInfos[sandboxKey bundleName appIndex]? = some info := by
  unfold getSandboxAppInfo at found
  grind

/-- Uninstalling takes the index and the record, or nothing. -/
theorem wp_uninstallSandboxApp {bundleName : String} {appIndex userId : Int32}
    (consistent : world.sandboxDataMgr.IsConsistent) :
    wp bundleService (sandboxStepOk ·)
      (uninstallSandboxApp bundleName appIndex userId)
      (fun _ world => world.sandboxDataMgr.IsConsistent) world := by
  unfold uninstallSandboxApp
  split
  case isTrue => exact consistent
  case isFalse =>
  rw [wp_bind, wp_store]
  intro _ _
  split
  case isTrue => exact consistent
  case isFalse =>
  simp only [wp_bind, wp_sandbox]
  dsimp +instances only [SandboxCommand.perform]
  intro _ _
  split
  case h_1 => exact consistent
  case h_2 info found =>
  obtain ⟨named, present⟩ := getSandboxAppInfo_eq_ok found
  obtain ⟨sameInfos, deleted, -⟩ :=
    world.sandboxDataMgr.deleteSandboxAppIndex_spec appIndex named
  have deleted := deleted.mpr ((consistent.recorded _ _).mp ⟨info, present⟩)
  split
  case h_1 => exact consistent
  case h_2 userInfo _ =>
  simp only [wp_bind, wp_request, wp_sandbox]
  dsimp +instances only [SandboxCommand.perform]
  intro _ _ _ _
  rw [if_neg (by simp [deleted])]
  simp only [wp_bind, wp_request]
  intro reply removable
  have removed : reply = ErrCode.ok := by
    simpa [sandboxStepOk, sameInfos, Std.ExtTreeMap.contains_eq_isSome_getElem?,
      present, -Std.ExtTreeMap.contains_iff_mem] using removable
  rw [if_neg (by simp [removed])]
  simp only [wp_bind, wp_store, wp_sandbox, SandboxCommand.perform]
  intro _ _ _ _ _ _
  exact consistent.isConsistent_forget named

theorem wp_uninstallUnderKey {bundleName : String} {userId : Int32}
    {entry : String × InnerBundleInfo}
    (consistent : world.sandboxDataMgr.IsConsistent) :
    wp bundleService (sandboxStepOk ·) (uninstallUnderKey bundleName userId entry)
      (fun _ world => world.sandboxDataMgr.IsConsistent) world := by
  unfold uninstallUnderKey
  split
  case isFalse => exact consistent
  case isTrue =>
  split
  case h_1 => exact wp_halt
  case h_2 =>
  split
  case h_1 => exact consistent
  case h_2 =>
  split
  case h_1 => exact wp_halt
  case h_2 =>
  simp only
  split
  case isFalse => exact consistent
  case isTrue =>
  rw [wp_bind]
  exact wp_mono (wp_uninstallSandboxApp consistent) fun _ _ settled => settled

theorem wp_uninstallAllSandboxApps {bundleName : String} {userId : Int32}
    (consistent : world.sandboxDataMgr.IsConsistent) :
    wp bundleService (sandboxStepOk ·) (uninstallAllSandboxApps bundleName userId)
      (fun _ world => world.sandboxDataMgr.IsConsistent) world := by
  unfold uninstallAllSandboxApps
  split
  case isTrue => exact consistent
  case isFalse =>
  simp only [wp_bind, wp_sandbox]
  intro _ _
  refine wp_mono (wp_forM consistent ?_) fun _ _ settled => settled
  intro entry _ middle settled
  exact wp_uninstallUnderKey settled

end BundleSandboxInstaller

/-- A call of the sandbox installer, or a call of the bundle data manager by
another operation of the service. -/
inductive SandboxCall where
  | installSandboxApp (bundleName : String) (dlpType userId : Int32)
  | uninstallSandboxApp (bundleName : String) (appIndex userId : Int32)
  | uninstallAllSandboxApps (bundleName : String) (userId : Int32)
  | store (command : StoreCommand)

/-- The operation that makes a call and drops its result. -/
def SandboxCall.operation : SandboxCall → Operation Unit
  | installSandboxApp bundleName dlpType userId => do
      let _ ← BundleSandboxInstaller.installSandboxApp bundleName dlpType userId
  | uninstallSandboxApp bundleName appIndex userId => do
      let _ ← BundleSandboxInstaller.uninstallSandboxApp bundleName appIndex
        userId
  | uninstallAllSandboxApps bundleName userId => do
      let _ ← BundleSandboxInstaller.uninstallAllSandboxApps bundleName userId
  | store command => do
      let _ ← AppExecFwk.store command

/-- Make a call. -/
def SandboxCall.runFrom (call : SandboxCall) (env : Environment bundleService)
    (world : World) : Outcome bundleService Unit :=
  run bundleService env call.operation 0 world

theorem SandboxCall.wp_operation {world : World} (call : SandboxCall)
    (consistent : world.sandboxDataMgr.IsConsistent) :
    wp bundleService (sandboxStepOk ·) call.operation
      (fun _ world => world.sandboxDataMgr.IsConsistent) world := by
  cases call with
  | installSandboxApp bundleName dlpType userId =>
      exact wp_seq (BundleSandboxInstaller.wp_installSandboxApp consistent)
        fun _ _ settled => settled
  | uninstallSandboxApp bundleName appIndex userId =>
      exact wp_seq (BundleSandboxInstaller.wp_uninstallSandboxApp consistent)
        fun _ _ settled => settled
  | uninstallAllSandboxApps bundleName userId =>
      exact wp_seq (BundleSandboxInstaller.wp_uninstallAllSandboxApps consistent)
        fun _ _ settled => settled
  | store command =>
      intro _ _
      exact consistent

/-- The worlds after a sequence of calls that start from an empty sandbox store
and any bundle store. -/
abbrev SandboxRun (ok : Step bundleService → Prop) : World → Prop :=
  Completes bundleService ok (fun program => ∃ call : SandboxCall,
    program = call.operation) fun world => world.sandboxDataMgr = {}

theorem SandboxRun.call {ok : Step bundleService → Prop} {world : World}
    (reached : SandboxRun ok world) (call : SandboxCall)
    (env : Environment bundleService)
    (allowed : ∀ step ∈ (call.runFrom env world).steps, ok step)
    (ended : (call.runFrom env world).value = some ()) :
    SandboxRun ok (call.runFrom env world).world := by
  unfold SandboxCall.runFrom at allowed ended ⊢
  exact .next world call.operation env reached ⟨call, rfl⟩ allowed ended

theorem isConsistent_of_sandboxRun {world : World}
    (reached : SandboxRun (sandboxStepOk ·) world) :
    world.sandboxDataMgr.IsConsistent := by
  change (fun world : World => world.sandboxDataMgr.IsConsistent) world
  apply reached.invariant
  · intro world start
    simp only [start]
    exact BundleSandboxDataMgr.isConsistent_empty
  · rintro program ⟨call, rfl⟩ world consistent
    exact call.wp_operation consistent

/-- The two maps of the sandbox store fit together for a bundle and an index: a
sandbox application is kept, for one user, exactly when the index is recorded,
and while it is kept the index is not handed out. -/
def BundleSandboxDataMgr.FitsTogether (mgr : BundleSandboxDataMgr)
    (bundleName : String) (appIndex : Int32) : Prop :=
  ((∃ userId, mgr.IsLive bundleName appIndex userId) ↔
    mgr.HasIndex bundleName appIndex) ∧
  (∀ userId other, mgr.IsLive bundleName appIndex userId →
    mgr.IsLive bundleName appIndex other → userId = other) ∧
  ∀ userId, mgr.IsLive bundleName appIndex userId →
    (mgr.generateSandboxAppIndex bundleName).1 ≠ appIndex

/-- Records and indices of sandbox applications go together after any sequence
of calls whose steps are as they have to be. -/
theorem sandboxStore_fitsTogether {world : World}
    (reached : SandboxRun (sandboxStepOk ·) world) (bundleName : String)
    (appIndex : Int32) :
    world.sandboxDataMgr.FitsTogether bundleName appIndex := by
  have consistent := isConsistent_of_sandboxRun reached
  generalize world.sandboxDataMgr = mgr at consistent
  refine ⟨⟨?_, ?_⟩, ?_, ?_⟩
  · rintro ⟨userId, info, present, -⟩
    exact (consistent.recorded _ _).mp ⟨info, present⟩
  · intro recorded
    obtain ⟨info, present⟩ := (consistent.recorded _ _).mpr recorded
    obtain ⟨userId, user, single⟩ := consistent.owned _ _ _ present
    exact ⟨userId, info, present, by simp [single]⟩
  · rintro userId other ⟨info, present, has⟩ ⟨info', present', has'⟩
    rw [present] at present'
    cases present'
    obtain ⟨owner, single⟩ := consistent.owned _ _ _ present
    rw [single.unique has, single.unique has']
  · rintro userId ⟨info, present, -⟩ handedOut
    have recorded := (consistent.recorded _ _).mp ⟨info, present⟩
    rcases mgr.generateSandboxAppIndex_spec consistent.bounded bundleName with
      exhausted | ⟨-, fresh, -⟩
    · rw [← handedOut, exhausted] at recorded
      exact consistent.not_hasIndex_initial recorded
    · rw [handedOut] at fresh
      exact fresh recorded

/-- A bundle installed for one user, and no sandbox application. -/
def oneBundle : World :=
  let record : InnerBundleInfo := {
    baseApplicationInfo := { bundleName := "com.example.demo" } }
  { dataMgr := {
      multiUserIdsSet := (∅ : Std.ExtTreeSet Int32).insert 100
      bundleInfos := (∅ : StringMap InnerBundleInfo).insert "com.example.demo"
        (record.addInnerBundleUserInfo { bundleUserInfo := { userId := 100 } }) } }

/-- The world after the bundle has got its first sandbox application. -/
def oneSandboxApp : World :=
  ((SandboxCall.installSandboxApp "com.example.demo" 0 100).runFrom
    (fun _ => Command.plainAnswer) oneBundle).world

theorem sandboxStore_fitsTogether_oneSandboxApp :
    oneSandboxApp.sandboxDataMgr.FitsTogether "com.example.demo" 1 := by
  have reached : SandboxRun (sandboxStepOk ·) oneSandboxApp := by
    unfold oneSandboxApp
    apply SandboxRun.call (.start oneBundle rfl)
    · decide +kernel
    · decide +kernel
  exact sandboxStore_fitsTogether reached _ _

/-- An environment in which no directory can be removed. -/
def directoriesStay : Environment bundleService
  | _, .external (.removeBundleDataDir _ _) => ErrCode.installdRemoveDirFailed
  | _, command => command.plainAnswer

/-- The world after the sandbox application could not be uninstalled. -/
def halfUninstalled : World :=
  ((SandboxCall.uninstallSandboxApp "com.example.demo" 1 100).runFrom
    directoriesStay oneSandboxApp).world

/-- An application whose directory cannot be removed is still kept, and its
index is free. -/
theorem halfUninstalled_not_fitsTogether :
    SandboxRun (fun _ => True) halfUninstalled ∧
      ¬halfUninstalled.sandboxDataMgr.FitsTogether "com.example.demo" 1 := by
  constructor
  · have installed : SandboxRun (fun _ => True) oneSandboxApp := by
      unfold oneSandboxApp
      apply SandboxRun.call (.start oneBundle rfl)
      · exact fun _ _ => trivial
      · decide +kernel
    unfold halfUninstalled
    apply SandboxRun.call installed
    · exact fun _ _ => trivial
    · decide +kernel
  · rintro ⟨⟨recorded, -⟩, -⟩
    have live : halfUninstalled.sandboxDataMgr.IsLive "com.example.demo" 1
        100 := by
      rw [BundleSandboxDataMgr.isLive_iff]
      decide +kernel
    have unrecorded : ¬halfUninstalled.sandboxDataMgr.HasIndex
        "com.example.demo" 1 := by
      rw [BundleSandboxDataMgr.hasIndex_iff]
      decide +kernel
    exact unrecorded (recorded ⟨100, live⟩)

end AppExecFwk
