import AppExecFwk.Installer.BundleInstall
import AppExecFwk.Store.RecordEffect

/-!
# Calls that leave the records alone

Most calls of the installer bring no record and change none except for its
status and for what it keeps about sandbox applications.  Whatever else one may
want to know of the records, such a call leaves it as it is.
-/

namespace AppExecFwk

open CommandProgram

/-- What is looked at in a record, which shows neither the status nor the
sandbox applications. -/
structure RecordView (α : Type) where
  view : InnerBundleInfo → α
  setBundleStatus : ∀ info status, view (info.setBundleStatus status) = view info
  addSandboxPersistentInfo : ∀ info persistent,
    view (info.addSandboxPersistentInfo persistent) = view info
  removeSandboxPersistentInfo : ∀ info persistent,
    view (info.removeSandboxPersistentInfo persistent) = view info

namespace BundleDataMgr

/-- What is seen of the records in memory. -/
def seen {α : Type} (mgr : BundleDataMgr) (v : RecordView α) : StringMap α :=
  mgr.bundleInfos.map fun _ info => v.view info

@[simp]
theorem seen_getElem? {α : Type} (mgr : BundleDataMgr) (v : RecordView α)
    (bundleName : String) :
    (mgr.seen v)[bundleName]? = mgr.bundleInfos[bundleName]?.map v.view := by
  simp [seen]

end BundleDataMgr

/-- The calls of the data manager that leave the records alone. -/
def StoreCommand.isQuiet : StoreCommand → Bool
  | hasUserId _ | getInnerBundleInfo _ | disableBundle _ | enableBundle _
  | saveInnerBundleInfo _ | storeSandboxPersistentInfo _ _
  | deleteSandboxPersistentInfo _ _ | generateUidAndGid _ | recycleUidAndGid _
  | getClonedBundleName _ | getAllUriPrefix _ _ | getPreInstallBundleInfo _
  | savePreInstallBundleInfo _ => true
  | updateBundleInstallState _ state =>
      !state.isDeleteDataState || state = .installFail
  | _ => false

def Command.isQuiet : Command → Bool
  | store command => command.isQuiet
  | sandbox _ | external _ | getCloneMgr | setCloneMgr _ => true

namespace BundleDataMgr

variable (mgr : BundleDataMgr)

theorem setStatus_multiUserIdsSet (bundleName : String)
    (status : BundleStatus) :
    (mgr.setStatus bundleName status).2.multiUserIdsSet =
      mgr.multiUserIdsSet := by
  unfold setStatus
  split
  · rfl
  · cases mgr.bundleInfos[bundleName]? <;> rfl

theorem changeInPlace_multiUserIdsSet (bundleName : String)
    (change : InnerBundleInfo → InnerBundleInfo) (accepted : Bool) :
    (mgr.changeInPlace bundleName change accepted).2.multiUserIdsSet =
      mgr.multiUserIdsSet := by
  unfold changeInPlace saveStorageBundleInfo putInfo
  cases mgr.bundleInfos[bundleName]? <;> cases accepted <;> rfl

theorem recycleUidAndGid_multiUserIdsSet (info : InnerBundleInfo) :
    (mgr.recycleUidAndGid info).multiUserIdsSet = mgr.multiUserIdsSet := by
  unfold recycleUidAndGid
  cases info.innerBundleUserInfos.begin? <;> rfl

theorem deleteBundleInfo_multiUserIdsSet (bundleName : String)
    (state : InstallState) (accepted : Bool) :
    (mgr.deleteBundleInfo bundleName state accepted).multiUserIdsSet =
      mgr.multiUserIdsSet := by
  unfold deleteBundleInfo deleteStorageBundleInfo
  split
  · rfl
  · cases mgr.bundleInfos[bundleName]? <;> cases accepted <;>
      simp [recycleUidAndGid_multiUserIdsSet]

theorem updateBundleInstallState_multiUserIdsSet (bundleName : String)
    (state : InstallState) (accepted : Bool) :
    (mgr.updateBundleInstallState bundleName state
      accepted).2.multiUserIdsSet = mgr.multiUserIdsSet := by
  unfold updateBundleInstallState
  grind [deleteBundleInfo_multiUserIdsSet]

end BundleDataMgr

/-- Only two calls change the users there are. -/
theorem StoreCommand.perform_multiUserIdsSet (command : StoreCommand)
    (accepted : Bool) (mgr : BundleDataMgr)
    (notAdd : ∀ userId, command ≠ .addUserId userId)
    (notRemove : ∀ userId, command ≠ .removeUserId userId) :
    (command.perform accepted mgr).2.multiUserIdsSet =
      mgr.multiUserIdsSet := by
  cases command with
  | addUserId userId => exact absurd rfl (notAdd userId)
  | removeUserId userId => exact absurd rfl (notRemove userId)
  | getInnerBundleInfo bundleName | disableBundle bundleName
  | enableBundle bundleName => exact mgr.setStatus_multiUserIdsSet bundleName _
  | updateBundleInstallState bundleName state =>
      exact mgr.updateBundleInstallState_multiUserIdsSet bundleName state accepted
  | recycleUidAndGid info => exact mgr.recycleUidAndGid_multiUserIdsSet info
  | addInnerBundleUserInfo bundleName newUserInfo
  | removeInnerBundleUserInfo bundleName userId =>
      exact mgr.changeInPlace_multiUserIdsSet bundleName _ accepted
  | storeSandboxPersistentInfo bundleName info
  | deleteSandboxPersistentInfo bundleName info =>
      simp only [perform, BundleDataMgr.storeSandboxPersistentInfo,
        BundleDataMgr.deleteSandboxPersistentInfo,
        BundleDataMgr.changeSandboxPersistentInfo]
      split
      · rfl
      · exact mgr.changeInPlace_multiUserIdsSet bundleName _ accepted
  | removeClonedBundleInfo bundleName =>
      simp only [perform, BundleDataMgr.removeClonedBundleInfo,
        BundleDataMgr.deleteStorageBundleInfo]
      cases mgr.bundleInfos[bundleName]? <;> cases accepted <;>
        simp [BundleDataMgr.recycleUidAndGid_multiUserIdsSet]
  | generateUidAndGid userInfo =>
      simp only [perform, BundleDataMgr.generateUidAndGid]
      grind
  | _ =>
      simp only [perform, BundleDataMgr.addInnerBundleInfo,
        BundleDataMgr.saveNewInfoToDB, BundleDataMgr.addNewModuleInfo,
        BundleDataMgr.removeModuleInfo, BundleDataMgr.updateInnerBundleInfo,
        BundleDataMgr.saveInnerBundleInfo, BundleDataMgr.saveStorageBundleInfo,
        BundleDataMgr.setApplicationEnabled, BundleDataMgr.setAbilityEnabled,
        BundleDataMgr.savePreInstallBundleInfo, BundleDataMgr.putInfo]
      try grind

section Seen

variable {α : Type} {v : RecordView α} {mgr : BundleDataMgr}

/-- A change in place that does not show. -/
theorem BundleDataMgr.inPlaceEffect_seen {change : InnerBundleInfo → InnerBundleInfo}
    (hidden : ∀ info, v.view (change info) = v.view info)
    (bundleName : String) (accepted : Bool) :
    ((mgr.inPlaceEffect bundleName change accepted).infos mgr).map
        (fun _ info => v.view info) = mgr.seen v := by
  unfold inPlaceEffect seen
  cases present : mgr.bundleInfos[bundleName]? with
  | none => rfl
  | some info =>
      have inserted : (mgr.bundleInfos.insert bundleName (change info)).map
          (fun _ info => v.view info) =
            mgr.bundleInfos.map fun _ info => v.view info := by
        apply Std.ExtTreeMap.ext_getElem?
        intro other
        simp only [Std.ExtTreeMap.getElem?_map, Std.ExtTreeMap.getElem?_insert]
        split
        · rename_i equal
          cases Std.LawfulEqCmp.eq_of_compare equal
          simp [present, hidden]
        · rfl
      cases accepted <;> exact inserted

/-- A quiet call does not show in the records. -/
theorem StoreCommand.perform_seen {command : StoreCommand}
    (quiet : command.isQuiet = true) (accepted : Bool) :
    (command.perform accepted mgr).2.seen v = mgr.seen v := by
  have leads := (command.perform_leads accepted mgr).1
  have effect : ((command.effect mgr accepted).infos mgr).map
      (fun _ info => v.view info) = mgr.seen v := by
    cases command with
    | getInnerBundleInfo bundleName | disableBundle bundleName
    | enableBundle bundleName =>
        simp only [StoreCommand.effect]
        split
        · rfl
        · exact BundleDataMgr.inPlaceEffect_seen
            (fun info => v.setBundleStatus info _) bundleName _
    | storeSandboxPersistentInfo bundleName info =>
        simp only [StoreCommand.effect]
        split
        · rfl
        · exact BundleDataMgr.inPlaceEffect_seen
            (fun record => v.addSandboxPersistentInfo record info) bundleName _
    | deleteSandboxPersistentInfo bundleName info =>
        simp only [StoreCommand.effect]
        split
        · rfl
        · exact BundleDataMgr.inPlaceEffect_seen
            (fun record => v.removeSandboxPersistentInfo record info)
            bundleName _
    | updateBundleInstallState bundleName state =>
        have stays : (mgr.mayEnter bundleName state && state.isDeleteDataState &&
            decide (state ≠ .installFail)) = false := by
          simp only [isQuiet, Bool.or_eq_true, Bool.not_eq_eq_eq_not,
            Bool.not_true, decide_eq_true_eq] at quiet
          rcases quiet with keeps | failed
          · simp [keeps]
          · simp [failed]
        simp only [StoreCommand.effect, stays, Bool.false_eq_true, ↓reduceIte]
        cases mgr.bundleInfos[bundleName]? <;> rfl
    | saveInnerBundleInfo info => cases accepted <;> rfl
    | hasUserId _ | generateUidAndGid _ | recycleUidAndGid _
    | getClonedBundleName _ | getAllUriPrefix _ _ | getPreInstallBundleInfo _
    | savePreInstallBundleInfo _ => rfl
    | addUserId _ | removeUserId _ | addInnerBundleInfo _ _
    | saveNewInfoToDB _ _ _ | addNewModuleInfo _ _ _ | removeModuleInfo _ _ _
    | updateInnerBundleInfo _ _ _ | addInnerBundleUserInfo _ _
    | removeInnerBundleUserInfo _ _ | setApplicationEnabled _ _ _ _
    | setAbilityEnabled _ _ _ _ _ _ | removeClonedBundleInfo _ => cases quiet
  unfold BundleDataMgr.seen at effect ⊢
  rw [leads, effect]

/-- What a quiet call leaves as it is. -/
theorem quiet_step (step : Step bundleService) (quiet : step.cmd.isQuiet = true) :
    step.after.dataMgr.seen v = step.world.dataMgr.seen v ∧
      step.after.dataMgr.multiUserIdsSet =
        step.world.dataMgr.multiUserIdsSet := by
  obtain ⟨cmd, world, answer⟩ := step
  cases cmd with
  | store command =>
      refine ⟨StoreCommand.perform_seen quiet answer, ?_⟩
      refine StoreCommand.perform_multiUserIdsSet command answer world.dataMgr
        ?_ ?_ <;>
      · rintro userId rfl
        cases quiet
  | sandbox | external | getCloneMgr | setCloneMgr => exact ⟨rfl, rfl⟩

end Seen

/-- Every call an operation can make is quiet. -/
abbrev IsQuietOperation {α : Type} (program : Operation α) : Prop :=
  MakesOnly (fun command : Command => command.isQuiet = true) program

/-- A quiet operation changes nothing that is seen in the records. -/
theorem wp_quiet {α β : Type} {program : Operation β}
    {ok : Step bundleService → Prop} {world : World} (v : RecordView α)
    (quiet : IsQuietOperation program) :
    wp bundleService ok program (fun _ after =>
      after.dataMgr.seen v = world.dataMgr.seen v ∧
        after.dataMgr.multiUserIdsSet = world.dataMgr.multiUserIdsSet) world := by
  refine wp_of_makesOnly quiet (fun step made before => ?_) ⟨rfl, rfl⟩
  have now := @quiet_step _ v step made
  exact ⟨now.1.trans before.1, now.2.trans before.2⟩

namespace BaseBundleInstaller

variable {info oldInfo newInfo : InnerBundleInfo} {userId : Int32}

theorem quiet_request (message : Request) : IsQuietOperation (request message) :=
  .perform rfl

theorem quiet_verifyUriPrefix (isUpdate : Bool) :
    IsQuietOperation (verifyUriPrefix info userId isUpdate) := by
  unfold verifyUriPrefix
  dsimp only
  split
  · trivial
  split
  · trivial
  exact .bind (.perform rfl) fun _ => trivial

theorem quiet_killProcesses (noSkipsKill : Bool) (uid : Int32) :
    IsQuietOperation (killProcesses info noSkipsKill uid) := by
  unfold killProcesses
  split
  · exact .perform rfl
  · trivial

theorem quiet_extractModule (srcModulePath modulePath : String) :
    IsQuietOperation (extractModule info srcModulePath modulePath) := by
  unfold extractModule
  refine .bind (.perform rfl) fun result => ?_
  split <;> trivial

theorem quiet_createBundleCodeDir (bundleName : String) :
    IsQuietOperation (createBundleCodeDir bundleName info) := by
  unfold createBundleCodeDir
  refine .bind (.perform rfl) fun result => ?_
  split <;> trivial

theorem quiet_createBundleDataDir :
    IsQuietOperation (createBundleDataDir info userId) := by
  unfold createBundleDataDir
  split
  · trivial
  refine .bind (.perform rfl) fun generated => ?_
  split
  · trivial
  refine .bind (.perform rfl) fun result => ?_
  split <;> trivial

theorem quiet_setDirApl : IsQuietOperation (setDirApl info userId) := by
  have each (dirs : List String) : IsQuietOperation (setDirAplOf info dirs) := by
    induction dirs with
    | nil => trivial
    | cons dir rest ih =>
        unfold setDirAplOf
        refine .bind (.perform rfl) fun result => ?_
        split
        · trivial
        · exact ih
  exact each _

theorem quiet_changePermissions
    {change : UInt32 → Operation (Option (List String))}
    (quiet : ∀ tokenId, IsQuietOperation (change tokenId))
    (users : List InnerBundleUserInfo) :
    IsQuietOperation (changePermissions info change users) := by
  induction users with
  | nil => trivial
  | cons user rest ih =>
      unfold changePermissions
      split
      · exact ih
      refine .bind (quiet _) fun changed => ?_
      split
      · trivial
      refine .bind (.perform rfl) fun granted => ?_
      split
      · trivial
      · exact ih

theorem quiet_addDefineAndRequestPermissions :
    IsQuietOperation (addDefineAndRequestPermissions oldInfo newInfo) :=
  quiet_changePermissions (fun _ => quiet_request _) _

theorem quiet_updateDefineAndRequestPermissions :
    IsQuietOperation (updateDefineAndRequestPermissions oldInfo newInfo) :=
  quiet_changePermissions (fun _ => quiet_request _) _

theorem quiet_renameModuleDirs (newInfos : NewInfos) :
    IsQuietOperation (renameModuleDirs newInfos) := by
  induction newInfos with
  | nil => trivial
  | cons item rest ih =>
      unfold renameModuleDirs
      split
      · exact ih
      refine .bind (.perform rfl) fun result => ?_
      split
      · trivial
      · exact ih

theorem quiet_savePreInstallInfo (bundleName : String) (newInfos : NewInfos) :
    IsQuietOperation (savePreInstallInfo bundleName info newInfos) :=
  .bind (.perform rfl) fun _ => .bind (.perform rfl) fun _ => trivial

theorem quiet_removeModuleDataDir (modulePackage : String) :
    IsQuietOperation (removeModuleDataDir info modulePackage userId) := by
  unfold removeModuleDataDir
  split
  · trivial
  · exact .perform rfl

theorem quiet_removeModuleAndDataDir (modulePackage : String)
    (isKeepData : Bool) :
    IsQuietOperation
      (removeModuleAndDataDir info modulePackage userId isKeepData) := by
  unfold removeModuleAndDataDir
  refine .bind (.perform rfl) fun result => ?_
  split
  · trivial
  refine .bind (.perform rfl) fun result => ?_
  split
  · trivial
  split
  · split
    · exact .bind (quiet_removeModuleDataDir modulePackage) fun _ => trivial
    · refine .bind (.forM fun user => ?_) fun _ => trivial
      exact .bind (quiet_removeModuleDataDir modulePackage) fun _ => True.intro
  · trivial

theorem quiet_removeBundleAndDataDir (isKeepData : Bool) :
    IsQuietOperation (removeBundleAndDataDir info userId isKeepData) := by
  unfold removeBundleAndDataDir
  refine .bind (.perform rfl) fun result => ?_
  split
  · trivial
  split
  · exact .bind (quiet_request _) fun _ => trivial
  · trivial

theorem quiet_uninstallAllSandboxApps (bundleName : String) :
    IsQuietOperation (uninstallAllSandboxApps bundleName userId) := by
  have one (appIndex userId : Int32) : IsQuietOperation
      (BundleSandboxInstaller.uninstallSandboxApp bundleName appIndex
        userId) := by
    unfold BundleSandboxInstaller.uninstallSandboxApp
    split
    · trivial
    refine .bind (.perform rfl) fun known => ?_
    split
    · trivial
    refine .bind (.perform rfl) fun found => ?_
    split
    · trivial
    split
    · trivial
    refine .bind (.perform rfl) fun _ => .bind (.perform rfl) fun deleted => ?_
    split
    · trivial
    refine .bind (.perform rfl) fun result => ?_
    split
    · trivial
    exact .bind (.perform rfl) fun _ => .bind (.perform rfl) fun _ =>
      .bind (.perform rfl) fun _ => trivial
  have underKey (entry : String × InnerBundleInfo) : IsQuietOperation
      (BundleSandboxInstaller.uninstallUnderKey bundleName userId entry) := by
    unfold BundleSandboxInstaller.uninstallUnderKey
    dsimp only
    split
    · split
      · trivial
      · split
        · trivial
        · split
          · trivial
          · split
            · exact .bind (one _ _) fun _ => trivial
            · trivial
    · trivial
  unfold uninstallAllSandboxApps BundleSandboxInstaller.uninstallAllSandboxApps
  split
  · trivial
  have each (map : List (String × InnerBundleInfo)) : IsQuietOperation
      (map.forM (BundleSandboxInstaller.uninstallUnderKey bundleName userId)) :=
    .forM underKey
  refine .bind (.bind (.perform rfl) fun map => .bind (each map) fun _ => trivial)
    fun result => ?_
  split <;> trivial

theorem quiet_readHapFiles (order : MapOrder) (inBundlePaths : List String)
    (param : InstallParam) (appType : AppType) :
    IsQuietOperation (readHapFiles order inBundlePaths param appType) := by
  have capabilities (sysCaps : List String) :
      IsQuietOperation (hasSystemCapabilities sysCaps) := by
    induction sysCaps with
    | nil => trivial
    | cons sysCap rest ih =>
        unfold hasSystemCapabilities
        refine .bind (.perform rfl) fun has => ?_
        split
        · trivial
        · exact ih
  have sysCap (bundlePaths : List String) :
      IsQuietOperation (checkSysCap bundlePaths) := by
    unfold checkSysCap
    split
    · trivial
    · induction bundlePaths with
      | nil => trivial
      | cons bundlePath rest ih =>
          unfold checkSysCapOf
          refine .bind (.perform rfl) fun parsed => ?_
          split
          · trivial
          refine .bind (capabilities _) fun has => ?_
          split
          · trivial
          · cases rest with
            | nil => trivial
            | cons => exact ih (by simp)
  have verify (bundlePaths : List String) :
      IsQuietOperation (hapVerifyAll bundlePaths) := by
    induction bundlePaths with
    | nil => trivial
    | cons bundlePath rest ih =>
        unfold hapVerifyAll
        refine .bind (.perform rfl) fun verified => ?_
        split
        · trivial
        refine .bind ih fun others => ?_
        split <;> trivial
  have signInfo (bundlePaths : List String) :
      IsQuietOperation (checkMultipleHapsSignInfo bundlePaths) := by
    unfold checkMultipleHapsSignInfo
    split
    · trivial
    refine .bind (verify _) fun verified => ?_
    split
    · trivial
    · trivial
    · split
      · trivial
      · split <;> trivial
  have parseOne (bundlePath : String) (provisionInfo : ProvisionInfo)
      (state : ParseState) : IsQuietOperation
        (parseHapFile param appType bundlePath provisionInfo state) := by
    unfold parseHapFile parseBundleInfo
    refine .bind (.bind (.perform rfl) fun parsed => ?_) fun parsed => ?_
    · split
      · trivial
      split
      · trivial
      refine .bind (.perform rfl) fun packed => ?_
      split <;> trivial
    · split
      · trivial
      split
      · trivial
      refine .bind (.perform rfl) fun enough => ?_
      split <;> trivial
  have parse (haps : List (String × ProvisionInfo)) (state : ParseState) :
      IsQuietOperation (parseHapFiles param appType haps state) := by
    induction haps generalizing state with
    | nil => trivial
    | cons hap rest ih =>
        unfold parseHapFiles
        refine .bind (parseOne _ _ _) fun parsed => ?_
        split
        · trivial
        · exact ih _
  unfold readHapFiles
  refine .bind (.perform rfl) fun paths => ?_
  split
  · trivial
  refine .bind (sysCap _) fun result => ?_
  split
  · trivial
  refine .bind (signInfo _) fun verified => ?_
  split
  · trivial
  refine .bind (parse _ _) fun parsed => ?_
  split
  · trivial
  split
  · trivial
  split <;> trivial

end BaseBundleInstaller

end AppExecFwk
