import AppExecFwk.Sandbox.Consistency

/-!
# Sandbox applications

Every record of the sandbox store is that of an application: of a bundle, under
an index, for one user.  This holds after any sequence of calls, whatever the
records of the bundles are like that are copied and whatever goes wrong.
-/

namespace AppExecFwk

open CommandProgram

/-- A record has one user, who is said to be the user it is kept for. -/
def InnerBundleInfo.IsOwnedBy (info : InnerBundleInfo) (userId : Int32) : Prop :=
  ∃ user, info.innerBundleUserInfos =
      (∅ : StringMap InnerBundleUserInfo).insert
        (nameAndUserIdToKey info.getBundleName userId) user ∧
    user.bundleUserInfo.userId = userId

namespace InnerBundleInfo

variable {info : InnerBundleInfo} {userId : Int32}

/-- A change of a user that leaves who the user is. -/
theorem IsOwnedBy.modifyUserInfo
    (owned : info.IsOwnedBy userId) (other : Int32)
    {change : InnerBundleUserInfo → InnerBundleUserInfo}
    (leaves : ∀ user, (change user).bundleUserInfo = user.bundleUserInfo) :
    (info.modifyUserInfo other change).IsOwnedBy userId := by
  obtain ⟨user, single, same⟩ := owned
  refine ⟨_, modifyUserInfo_of_single single other change, ?_⟩
  split
  · rw [leaves]
    exact same
  · exact same

theorem IsOwnedBy.setBundleInstallTime (owned : info.IsOwnedBy userId)
    (time : Int64) (other : Int32) :
    (info.setBundleInstallTime time other).IsOwnedBy userId :=
  owned.modifyUserInfo other fun _ => rfl

theorem IsOwnedBy.setBundleUpdateTime (owned : info.IsOwnedBy userId)
    (time : Int64) (other : Int32) :
    (info.setBundleUpdateTime time other).IsOwnedBy userId :=
  owned.modifyUserInfo other fun _ => rfl

theorem IsOwnedBy.setAccessTokenId (owned : info.IsOwnedBy userId)
    (tokenId : UInt32) (other : Int32) :
    (info.setAccessTokenId tokenId other).IsOwnedBy userId :=
  owned.modifyUserInfo other fun _ => rfl

theorem isOwnedBy_addInnerBundleUserInfo
    (empty : info.innerBundleUserInfos = ∅) (userInfo : InnerBundleUserInfo) :
    (info.addInnerBundleUserInfo userInfo).IsOwnedBy
      userInfo.bundleUserInfo.userId := by
  refine ⟨userInfo, ?_, rfl⟩
  simp only [addInnerBundleUserInfo, empty]
  rfl

end InnerBundleInfo

/-- A record of the sandbox store is that of an application: of a bundle, under
an index, for one user. -/
structure InnerBundleInfo.IsAppRecord (info : InnerBundleInfo) (key : String)
    (appIndex userId : Int32) : Prop where
  named : info.getBundleName ≠ ""
  keyed : key = sandboxKey info.getBundleName appIndex
  positive : initialAppIndex < appIndex
  owned : info.IsOwnedBy userId

/-- The sandbox store keeps records of applications only. -/
def BundleSandboxDataMgr.KeepsApps (mgr : BundleSandboxDataMgr) : Prop :=
  ∀ (key : String) (info : InnerBundleInfo),
    mgr.sandboxAppInfos[key]? = some info →
      ∃ appIndex userId, info.IsAppRecord key appIndex userId

namespace InnerBundleInfo.IsAppRecord

variable {info : InnerBundleInfo} {key : String} {appIndex userId : Int32}

theorem hasOnlyUser (app : info.IsAppRecord key appIndex userId) :
    info.HasOnlyUser userId := by
  obtain ⟨user, users, -⟩ := app.owned
  exact ⟨user, users⟩

theorem begin?_eq (app : info.IsAppRecord key appIndex userId) :
    ∃ user, info.innerBundleUserInfos.begin? = some user ∧
      user.bundleUserInfo.userId = userId := by
  obtain ⟨user, users, same⟩ := app.owned
  refine ⟨user, ?_, same⟩
  rw [StringMap.begin?, users, Std.ExtTreeMap.values_eq_map_toList,
    Std.ExtTreeMap.toList_insert_empty]
  rfl

theorem userId_eq_of_isSome (app : info.IsAppRecord key appIndex userId)
    {other : Int32} (notNegative : ¬other < defaultUserId)
    (has : (info.getInnerBundleUserInfo other).isSome = true) :
    other = userId := by
  apply app.hasOnlyUser.unique
  have real : other ≠ notExistUserId ∧ other ≠ allUserId := by
    constructor <;> rintro rfl <;> exact notNegative (by decide)
  rw [getInnerBundleUserInfo, if_neg real.1, if_neg real.2,
    ← Std.ExtTreeMap.contains_eq_isSome_getElem?] at has
  exact has

theorem getInnerBundleUserInfo_isSome (app : info.IsAppRecord key appIndex userId)
    (notNegative : ¬userId < defaultUserId) :
    (info.getInnerBundleUserInfo userId).isSome = true := by
  obtain ⟨user, users, -⟩ := app.owned
  have real : userId ≠ notExistUserId ∧ userId ≠ allUserId := by
    constructor <;> rintro rfl <;> exact notNegative (by decide)
  rw [getInnerBundleUserInfo, if_neg real.1, if_neg real.2, users]
  simp

theorem unique {other otherUser : Int32}
    (app : info.IsAppRecord key appIndex userId)
    (again : info.IsAppRecord key other otherUser) :
    appIndex = other ∧ userId = otherUser := by
  refine ⟨(sandboxKey_inj (app.keyed.symm.trans again.keyed)).2, ?_⟩
  obtain ⟨user, users, -⟩ := app.owned
  apply again.hasOnlyUser.unique
  rw [users]
  simp

end InnerBundleInfo.IsAppRecord

/-- The record under the key of an application is that of the application. -/
theorem BundleSandboxDataMgr.KeepsApps.app {mgr : BundleSandboxDataMgr}
    {info : InnerBundleInfo} {bundleName : String} {appIndex : Int32}
    (apps : mgr.KeepsApps)
    (present : mgr.sandboxAppInfos[sandboxKey bundleName appIndex]? =
      some info) :
    info.getBundleName = bundleName ∧
      ∃ userId, info.IsAppRecord (sandboxKey bundleName appIndex) appIndex
        userId := by
  obtain ⟨other, userId, app⟩ := apps _ _ present
  obtain ⟨name, index⟩ := sandboxKey_inj app.keyed
  subst index
  exact ⟨name.symm, userId, app⟩

/-- What holds of the sandbox store between any two calls of its installer. -/
structure BundleSandboxDataMgr.IsWellKept (mgr : BundleSandboxDataMgr) :
    Prop where
  apps : mgr.KeepsApps
  bounded : mgr.IsBounded

/-- A call that keeps no record. -/
def Command.KeepsNoRecord (command : Command) : Prop :=
  ∀ info appIndex, command ≠ .sandbox (.saveSandboxAppInfo info appIndex)

namespace BundleSandboxDataMgr.IsWellKept

variable {mgr : BundleSandboxDataMgr}

theorem deleteIndex (kept : mgr.IsWellKept) (bundleName : String)
    (appIndex : Int32) :
    (mgr.deleteSandboxAppIndex bundleName appIndex).2.IsWellKept := by
  by_cases named : bundleName = ""
  · rw [deleteSandboxAppIndex, if_pos named]
    exact kept
  · obtain ⟨sameInfos, -, indices⟩ := mgr.deleteSandboxAppIndex_spec appIndex named
    constructor
    · intro key info present
      rw [sameInfos] at present
      exact kept.apps key info present
    · exact fun name other has => kept.bounded name other ((indices _ _).mp has).1

theorem generateIndex (kept : mgr.IsWellKept) (bundleName : String) :
    (mgr.generateSandboxAppIndex bundleName).2.IsWellKept := by
  rcases mgr.generateSandboxAppIndex_spec kept.bounded bundleName with
    exhausted | ⟨range, -, sameInfos, indices⟩
  · rw [exhausted]
    exact kept
  · constructor
    · intro key info present
      rw [sameInfos] at present
      exact kept.apps key info present
    · intro name other has
      rcases (indices name other).mp has with before | ⟨-, rfl⟩
      · exact kept.bounded name other before
      · exact range

theorem deleteInfo (kept : mgr.IsWellKept) (bundleName : String)
    (appIndex : Int32) : (mgr.deleteSandboxAppInfo bundleName appIndex).IsWellKept := by
  unfold deleteSandboxAppInfo
  split
  · exact kept
  · refine ⟨fun key info present => kept.apps key info ?_, kept.bounded⟩
    simp only [Std.ExtTreeMap.getElem?_erase] at present
    split at present
    · cases present
    · exact present

theorem save (kept : mgr.IsWellKept) {info : InnerBundleInfo}
    {appIndex userId : Int32} (positive : initialAppIndex < appIndex)
    (owned : info.IsOwnedBy userId) :
    (mgr.saveSandboxAppInfo info appIndex).IsWellKept := by
  unfold saveSandboxAppInfo
  split
  case isTrue => exact kept
  case isFalse named =>
  refine ⟨fun key other present => ?_, kept.bounded⟩
  simp only [Std.ExtTreeMap.getElem?_insert] at present
  split at present
  case isTrue same =>
    cases present
    exact ⟨appIndex, userId, named, (Std.LawfulEqCmp.eq_of_compare same).symm,
      positive, owned⟩
  case isFalse => exact kept.apps key other present

end BundleSandboxDataMgr.IsWellKept

/-- A call that keeps no record leaves the sandbox store as it has to be. -/
theorem isWellKept_after (step : Step bundleService)
    (keepsNone : step.cmd.KeepsNoRecord)
    (kept : step.world.sandboxDataMgr.IsWellKept) :
    step.after.sandboxDataMgr.IsWellKept := by
  obtain ⟨command, world, answer⟩ := step
  cases command with
  | store _ | external _ | getCloneMgr | setCloneMgr _ => exact kept
  | sandbox command =>
      cases command with
      | saveSandboxAppInfo info appIndex => exact absurd rfl (keepsNone info appIndex)
      | deleteSandboxAppInfo bundleName appIndex => exact kept.deleteInfo _ _
      | getSandboxAppInfo _ _ _ | getSandboxAppInfoMap => exact kept
      | generateSandboxAppIndex bundleName => exact kept.generateIndex _
      | deleteSandboxAppIndex bundleName appIndex => exact kept.deleteIndex _ _

namespace BundleSandboxInstaller

open InnerBundleInfo

variable {world : World} {ok : Step bundleService → Prop}

theorem keepsNoRecord_uninstallSandboxApp (bundleName : String)
    (appIndex userId : Int32) :
    MakesOnly Command.KeepsNoRecord
      (uninstallSandboxApp bundleName appIndex userId) := by
  have store (command : StoreCommand) : MakesOnly Command.KeepsNoRecord
      (AppExecFwk.store command) := .perform fun _ _ => nofun
  have request (message : Request) : MakesOnly Command.KeepsNoRecord
      (AppExecFwk.request message) := .perform fun _ _ => nofun
  unfold uninstallSandboxApp
  split
  case isTrue => trivial
  case isFalse =>
  refine (store _).bind fun _ => ?_
  split
  case isTrue => trivial
  case isFalse =>
  refine .bind (.perform fun _ _ => nofun) fun _ => ?_
  split
  case h_1 => trivial
  case h_2 =>
  split
  case h_1 => trivial
  case h_2 =>
  refine (request _).bind fun _ => .bind (.perform fun _ _ => nofun) fun _ => ?_
  split
  case isTrue => trivial
  case isFalse =>
  refine (request _).bind fun _ => ?_
  split
  case isTrue => trivial
  case isFalse =>
  refine (store _).bind fun _ => .bind (.perform fun _ _ => nofun) fun _ => ?_
  exact (store _).bind fun _ => trivial

theorem keepsNoRecord_uninstallAllSandboxApps (bundleName : String)
    (userId : Int32) :
    MakesOnly Command.KeepsNoRecord
      (uninstallAllSandboxApps bundleName userId) := by
  unfold uninstallAllSandboxApps
  split
  case isTrue => trivial
  case isFalse =>
  refine .bind (.perform fun _ _ => nofun) fun _ => .bind (.forM fun entry => ?_)
    fun _ => trivial
  unfold uninstallUnderKey
  split
  case isFalse => trivial
  case isTrue =>
  split
  case h_1 => trivial
  case h_2 =>
  split
  case h_1 => trivial
  case h_2 =>
  split
  case h_1 => trivial
  case h_2 =>
  simp only
  split
  case isFalse => trivial
  case isTrue =>
    exact (keepsNoRecord_uninstallSandboxApp _ _ _).bind fun _ => trivial

theorem isWellKept_sandboxAppRollBack (kept : world.sandboxDataMgr.IsWellKept)
    (info : InnerBundleInfo) (userId : Int32) :
    wp bundleService ok (sandboxAppRollBack info userId)
      (fun _ world => world.sandboxDataMgr.IsWellKept) world := by
  have settled := kept.deleteIndex info.getBundleName info.appIndex
  unfold sandboxAppRollBack
  simp only [wp_bind, wp_request, wp_sandbox]
  intro _ _ _ _
  split
  · simp only [Program.pure_eq, wp_ret, wp_request, wp_bind]
    intro _ _
    exact settled
  · simp only [Program.pure_eq, wp_ret, wp_request, wp_bind, wp_store]
    intro _ _ _ _
    exact settled

theorem isWellKept_installAtIndex {info : InnerBundleInfo}
    {userInfo : InnerBundleUserInfo} {bundleName : String}
    {userId appIndex : Int32} {tokenId : UInt32}
    (kept : world.sandboxDataMgr.IsWellKept)
    (positive : initialAppIndex < appIndex)
    (empty : info.innerBundleUserInfos = ∅) :
    wp bundleService ok
      (installAtIndex bundleName info userInfo userId appIndex tokenId)
      (fun _ world => world.sandboxDataMgr.IsWellKept) world := by
  unfold installAtIndex
  simp only [wp_bind, wp_store, wp_request]
  intro accepted _ time _
  generalize StoreCommand.perform _ accepted world.dataMgr = generated
  generalize same : InnerBundleInfo.setAccessTokenId _ tokenId userId = record
  obtain ⟨owner, owned⟩ : ∃ owner, record.IsOwnedBy owner := by
    rw [← same]
    exact ⟨_, (((isOwnedBy_addInnerBundleUserInfo empty _).setBundleInstallTime
      time userId).setBundleUpdateTime 0 userId).setAccessTokenId tokenId userId⟩
  clear same
  apply wp_createSandboxDataDir
  · intro result
    rw [wp_bind]
    refine wp_mono (isWellKept_sandboxAppRollBack ?_ record userId)
      fun _ _ settled => settled
    exact kept
  · simp only [wp_bind, wp_sandbox, wp_store]
    intro _ _ _ _ _ _
    exact kept.save positive owned

theorem isWellKept_installSandboxApp (kept : world.sandboxDataMgr.IsWellKept)
    (bundleName : String) (dlpType userId : Int32) :
    wp bundleService ok (installSandboxApp bundleName dlpType userId)
      (fun _ world => world.sandboxDataMgr.IsWellKept) world := by
  unfold installSandboxApp
  split
  case isTrue => exact kept
  case isFalse =>
  rw [wp_bind, wp_store]
  intro _ _
  split
  case h_1 => exact kept
  case h_2 info _ =>
  split
  case isTrue => exact kept
  case isFalse =>
  rw [wp_bind, wp_store]
  intro _ _
  split
  case isTrue => exact kept
  case isFalse =>
  split
  case h_1 => exact kept
  case h_2 userInfo _ =>
  simp only [wp_bind, wp_sandbox]
  dsimp +instances only [SandboxCommand.perform]
  intro _ _
  have reserved := kept.generateIndex bundleName
  split
  case isTrue =>
    rw [wp_bind]
    exact wp_mono (isWellKept_sandboxAppRollBack reserved _ userId)
      fun _ _ settled => settled
  case isFalse found =>
  simp only [wp_bind, wp_request]
  intro tokenId _ granted _
  split
  case isTrue =>
    rw [wp_bind]
    exact wp_mono (isWellKept_sandboxAppRollBack reserved _ userId)
      fun _ _ settled => settled
  case isFalse =>
    refine isWellKept_installAtIndex reserved ?_ rfl
    rcases world.sandboxDataMgr.generateSandboxAppIndex_spec kept.bounded
      bundleName with exhausted | ⟨range, -⟩
    · exact absurd (congrArg Prod.fst exhausted) found
    · exact range.1

end BundleSandboxInstaller

theorem isWellKept_of_sandboxRun {world : World}
    (reached : SandboxRun (fun _ => True) world) :
    world.sandboxDataMgr.IsWellKept := by
  change (fun world : World => world.sandboxDataMgr.IsWellKept) world
  apply reached.invariant
  · intro world start
    simp only [start]
    exact ⟨fun key info present => absurd present (by simp),
      BundleSandboxDataMgr.isConsistent_empty.bounded⟩
  · rintro program ⟨call, rfl⟩ world kept
    cases call with
    | installSandboxApp bundleName dlpType userId =>
        exact wp_seq (BundleSandboxInstaller.isWellKept_installSandboxApp kept
          bundleName dlpType userId) fun _ _ settled => settled
    | uninstallSandboxApp bundleName appIndex userId =>
        exact wp_of_makesOnly ((BundleSandboxInstaller.keepsNoRecord_uninstallSandboxApp
          bundleName appIndex userId).bind fun _ => trivial) isWellKept_after kept
    | uninstallAllSandboxApps bundleName userId =>
        exact wp_of_makesOnly
          ((BundleSandboxInstaller.keepsNoRecord_uninstallAllSandboxApps
            bundleName userId).bind fun _ => trivial) isWellKept_after kept
    | store command =>
        intro _ _
        exact kept

end AppExecFwk
