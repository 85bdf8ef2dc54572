import AppExecFwk.Installer.BundleCloneMgr
import AppExecFwk.Store.BundleIds

/-!
# Clones that fail

The record of a bundle is copied by a getter that disables the bundle, and only
a clone that succeeds enables it again.  A clone that fails goes unnoticed
exactly if it fails before the record is read, or if the bundle was disabled and
the id that is generated for the clone is the one that the bundle has.
-/

namespace AppExecFwk

open CommandProgram

/-- The record of the bundle is as it was, also in its status, and nothing of a
clone is left: no record, no install state, no id and no stored record.  No
other bundle has lost its id. -/
structure IsInvisible (bundleName : String) (before after : BundleDataMgr) :
    Prop where
  original : after.bundleInfos[bundleName]? = before.bundleInfos[bundleName]?
  records : ∀ key : String, key ≠ bundleName →
    after.bundleInfos[key]? = before.bundleInfos[key]?
  installStates : after.installStates = before.installStates
  ids : after.bundleIdMap = before.bundleIdMap
  storage : after.dataStorage = before.dataStorage

/-- The record is not read: the bundle may not be cloned, its clone has a name
already, or there is no record of it. -/
def FailsUnread (env : Environment bundleService) (world : World)
    (bundleName : String) : Prop :=
  env 0 (.external (.checkBundleNameInAllowList bundleName)) = false ∨
    env 1 (.external (.setCloneAppName bundleName)) = false ∨
    bundleName = "" ∨ world.dataMgr.bundleInfos[bundleName]? = none

/-- No new id is given to the name. -/
def BundleDataMgr.KeepsIdsFor (mgr : BundleDataMgr) (bundleName : String) :
    Prop :=
  bundleName = "" ∨ (∃ bundleId : Int32, mgr.bundleIdMap[bundleId]? =
      some bundleName) ∨
    BundleDataMgr.generateBundleId mgr.bundleIdMap bundleName = none

/-- The copied record shows that nothing happens to the bundle: it is disabled
already, and its kind is unknown or its name gets no new id. -/
structure IsUnaffected (mgr : BundleDataMgr) (info : InnerBundleInfo) : Prop where
  disabled : info.bundleStatus = .disabled
  ids : BundleCloneMgr.modifyInstallDirByHapType info = none ∨
    mgr.KeepsIdsFor info.getBundleName

namespace BundleDataMgr

variable {mgr : BundleDataMgr}

theorem generateUidAndGid_keeps_iff (userInfo : InnerBundleUserInfo) :
    (mgr.generateUidAndGid userInfo).2.bundleIdMap = mgr.bundleIdMap ↔
      mgr.KeepsIdsFor userInfo.bundleName := by
  unfold generateUidAndGid KeepsIdsFor
  by_cases unnamed : userInfo.bundleName = ""
  · simp [unnamed]
  · rw [if_neg unnamed, or_iff_right unnamed]
    cases generated : generateBundleId mgr.bundleIdMap userInfo.bundleName with
    | none => simp
    | some outcome =>
        obtain ⟨bundleId, ids⟩ := outcome
        simpa using BundleIdMap.generateBundleId_keeps_iff generated

/-- Only the ids change. -/
theorem generateUidAndGid_eq (userInfo : InnerBundleUserInfo) :
    (mgr.generateUidAndGid userInfo).2 = { mgr with
      bundleIdMap := (mgr.generateUidAndGid userInfo).2.bundleIdMap } := by
  unfold generateUidAndGid
  by_cases unnamed : userInfo.bundleName = ""
  · rw [if_pos unnamed]
  · rw [if_neg unnamed]
    cases generateBundleId mgr.bundleIdMap userInfo.bundleName <;> rfl

/-- A record of a clone that is not saved changes nothing. -/
theorem saveNewInfoToDB_refused {bundleName : String} {info : InnerBundleInfo}
    {time : Int64} {accepted : Bool}
    (refused : (mgr.saveNewInfoToDB bundleName info time accepted).1 = false) :
    (mgr.saveNewInfoToDB bundleName info time accepted).2.2 = mgr := by
  unfold saveNewInfoToDB saveStorageBundleInfo at refused ⊢
  cases accepted with
  | false =>
      dsimp only [Bool.false_eq_true, if_false]
      split
      · rfl
      · split <;> rfl
  | true =>
      dsimp only [if_true] at refused ⊢
      split at refused
      · next unnamed => rw [if_pos unnamed]
      · next named =>
          rw [if_neg named]
          split at refused
          · next known => rw [if_pos known]
          · cases refused

end BundleDataMgr

namespace BundleCloneMgr

/-- What a clone of the record has done to the stores when it fails. -/
def afterFailure (mgr : BundleDataMgr) (info : InnerBundleInfo) :
    BundleDataMgr :=
  match modifyInstallDirByHapType info with
  | none => mgr
  | some _ => (mgr.generateUidAndGid {
      bundleUserInfo := { userId := defaultUserId }
      bundleName := info.getBundleName }).2

/-- Nothing but the ids is changed by then, and they are changed only if the name
gets a new one. -/
theorem exists_afterFailure (mgr : BundleDataMgr) (info : InnerBundleInfo) :
    ∃ ids, afterFailure mgr info = { mgr with bundleIdMap := ids } ∧
      (ids = mgr.bundleIdMap ↔ modifyInstallDirByHapType info = none ∨
        mgr.KeepsIdsFor info.getBundleName) := by
  unfold afterFailure
  cases modifyInstallDirByHapType info with
  | none => exact ⟨mgr.bundleIdMap, rfl, by simp⟩
  | some baseDataPath =>
      let userInfo : InnerBundleUserInfo := {
        bundleUserInfo := { userId := defaultUserId }
        bundleName := info.getBundleName }
      refine ⟨(mgr.generateUidAndGid userInfo).2.bundleIdMap, ?_, ?_⟩
      · exact BundleDataMgr.generateUidAndGid_eq userInfo
      · simpa using BundleDataMgr.generateUidAndGid_keeps_iff userInfo

variable {ok : Step bundleService → Prop}

theorem wp_createBundleAndDataDir (bundleName baseDataPath : String)
    (info : InnerBundleInfo) (world : World) :
    wp bundleService ok (createBundleAndDataDir bundleName baseDataPath info)
      (fun _ after => after.dataMgr = (world.dataMgr.generateUidAndGid {
        bundleUserInfo := { userId := defaultUserId }
        bundleName := bundleName }).2) world := by
  unfold createBundleAndDataDir
  rw [wp_bind, wp_store]
  intro accepted _
  dsimp only [StoreCommand.perform]
  split
  · rfl
  · rw [wp_bind, wp_request]
    intro reply _
    split <;> rfl

/-- Once the record is copied, a failure leaves the bundle disabled. -/
theorem wp_processCloneInstall (world : World) :
    wp bundleService ok processCloneInstall (fun result after =>
      result ≠ .ok → after.dataMgr = afterFailure world.dataMgr
        world.cloneMgr.cloneInfo) world := by
  unfold processCloneInstall afterFailure
  rw [wp_bind, wp_getCloneMgr]
  intro _ _
  dsimp only
  cases modifyInstallDirByHapType world.cloneMgr.cloneInfo with
  | none => exact fun _ => rfl
  | some baseDataPath =>
      dsimp only
      rw [wp_bind, wp_setCloneMgr]
      intro _ _
      refine wp_seq (wp_createBundleAndDataDir _ _ _ _) ?_
      rintro ⟨result, info⟩ middle generated
      rw [wp_bind, wp_setCloneMgr]
      intro _ _
      split
      · exact fun _ => generated
      · rw [wp_bind, wp_request]
        intro time _
        rw [wp_bind, wp_store]
        intro accepted _
        rw [wp_bind, wp_setCloneMgr]
        intro _ _
        split
        · next unsaved =>
            intro _
            have refused := unsaved
            rw [Bool.not_eq_true'] at refused
            exact (BundleDataMgr.saveNewInfoToDB_refused refused).trans generated
        · rw [wp_bind, wp_store]
          intro _ _
          rw [wp_bind, wp_store]
          intro _ _ failed
          exact absurd rfl failed

/-- What follows when the bundle may be cloned. -/
def cloneAdmitted (bundleName : String) : Operation Bool := do
  if !(← createCloneBundleInfo bundleName) then
    let _ ← request (.deleteCloneAppName bundleName)
    return false
  let result ← processCloneInstall
  if result ≠ .ok then
    let _ ← request (.deleteCloneAppName bundleName)
    return false
  return true

theorem bundleClone_eq (bundleName : String) :
    bundleClone bundleName = (do
      if !(← request (.checkBundleNameInAllowList bundleName)) then
        return false
      if !(← request (.setCloneAppName bundleName)) then
        return false
      cloneAdmitted bundleName) :=
  rfl

/-- A clone that reads the record and fails leaves the record disabled. -/
theorem wp_cloneAdmitted (world : World) (bundleName : String) :
    wp bundleService ok (cloneAdmitted bundleName) (fun cloned after =>
      cloned = false → after.dataMgr =
        match (world.dataMgr.getInnerBundleInfo bundleName).1 with
        | none => (world.dataMgr.getInnerBundleInfo bundleName).2
        | some info =>
            afterFailure (world.dataMgr.getInnerBundleInfo bundleName).2
              (info.setIsCloned true)) world := by
  unfold cloneAdmitted createCloneBundleInfo
  simp only [bind_assoc]
  rw [wp_bind, wp_store]
  intro accepted _
  dsimp only [StoreCommand.perform]
  cases (world.dataMgr.getInnerBundleInfo bundleName).1 with
  | none => exact fun _ _ _ => rfl
  | some info =>
      dsimp only
      rw [wp_bind, wp_bind, wp_getCloneMgr]
      intro _ _
      rw [wp_bind, wp_setCloneMgr]
      intro _ _
      refine wp_seq (wp_processCloneInstall _) ?_
      intro result after failure
      split
      · next failed => exact fun _ _ _ => failure failed
      · exact fun impossible => by cases impossible

end BundleCloneMgr

section Runs

variable {env : Environment bundleService} {world : World} {bundleName : String}

/-- A run goes on with the reply to a request. -/
theorem run_request {α : Type} {message : Request} {position : Nat}
    {next : message.Reply → Operation α} {reply : message.Reply}
    (replied : env position (.external message) = reply) :
    let rest := run bundleService env (next reply) (position + 1) world
    let outcome := run bundleService env (request message >>= next) position
      world
    outcome.value = rest.value ∧ outcome.world = rest.world := by
  subst replied
  exact ⟨rfl, rfl⟩

theorem run_bundleClone_of_refused
    (refused :
      env 0 (.external (.checkBundleNameInAllowList bundleName)) = false ∨
        env 1 (.external (.setCloneAppName bundleName)) = false) :
    (run bundleService env (BundleCloneMgr.bundleClone bundleName) 0
      world).world = world := by
  rw [BundleCloneMgr.bundleClone_eq]
  cases allowed : env 0 (.external (.checkBundleNameInAllowList bundleName)) with
  | false => exact (run_request allowed).2
  | true =>
      have taken := refused.resolve_left (by rw [allowed]; exact Bool.noConfusion)
      exact (run_request allowed).2.trans (run_request taken).2

theorem run_bundleClone_of_admitted
    (allowed :
      env 0 (.external (.checkBundleNameInAllowList bundleName)) = true)
    (named : env 1 (.external (.setCloneAppName bundleName)) = true) :
    let admitted := run bundleService env
      (BundleCloneMgr.cloneAdmitted bundleName) 2 world
    let outcome := run bundleService env
      (BundleCloneMgr.bundleClone bundleName) 0 world
    outcome.value = admitted.value ∧ outcome.world = admitted.world := by
  rw [BundleCloneMgr.bundleClone_eq]
  exact ⟨(run_request allowed).1.trans (run_request named).1,
    (run_request allowed).2.trans (run_request named).2⟩

end Runs

/-- What a failed clone of a record that was read has changed. -/
theorem isInvisible_afterFailure_iff {mgr : BundleDataMgr} {bundleName : String}
    {info : InnerBundleInfo} (found : mgr.bundleInfos[bundleName]? = some info) :
    IsInvisible bundleName mgr
        (BundleCloneMgr.afterFailure
          (mgr.putInfo bundleName (info.setBundleStatus .disabled))
          ((info.setBundleStatus .disabled).setIsCloned true)) ↔
      IsUnaffected mgr info := by
  obtain ⟨ids, same, kept⟩ := BundleCloneMgr.exists_afterFailure
    (mgr.putInfo bundleName (info.setBundleStatus .disabled))
    ((info.setBundleStatus .disabled).setIsCloned true)
  rw [same]
  have itself : (mgr.bundleInfos.insert bundleName
      (info.setBundleStatus .disabled))[bundleName]? =
        some (info.setBundleStatus .disabled) :=
    Std.ExtTreeMap.getElem?_insert_self
  constructor
  · intro invisible
    have original := invisible.original
    rw [found] at original
    exact {
      disabled := InnerBundleInfo.setBundleStatus_eq_iff.mp
        (Option.some.inj (itself.symm.trans original))
      ids := kept.mp invisible.ids }
  · intro unaffected
    exact {
      original := by
        rw [found, ← InnerBundleInfo.setBundleStatus_eq_iff.mpr
          unaffected.disabled]
        exact itself
      records := by
        intro key other
        change (mgr.bundleInfos.insert bundleName _)[key]? = _
        rw [Std.ExtTreeMap.getElem?_insert, if_neg]
        simpa using other.symm
      installStates := rfl
      ids := kept.mpr unaffected.ids
      storage := rfl }

/-- A clone that fails goes unnoticed exactly if it fails before the record is
read or nothing happens to the bundle. -/
theorem bundleClone_invisible_iff (env : Environment bundleService)
    (world : World) (bundleName : String)
    (failed : (run bundleService env (BundleCloneMgr.bundleClone bundleName) 0
      world).value = some false) :
    IsInvisible bundleName world.dataMgr (run bundleService env
        (BundleCloneMgr.bundleClone bundleName) 0 world).world.dataMgr ↔
      FailsUnread env world bundleName ∨
        ∃ info, world.dataMgr.bundleInfos[bundleName]? = some info ∧
          IsUnaffected world.dataMgr info := by
  have unchanged : IsInvisible bundleName world.dataMgr world.dataMgr :=
    ⟨rfl, fun _ _ => rfl, rfl, rfl, rfl⟩
  by_cases refused :
      env 0 (.external (.checkBundleNameInAllowList bundleName)) = false ∨
        env 1 (.external (.setCloneAppName bundleName)) = false
  · rw [run_bundleClone_of_refused refused]
    exact iff_of_true unchanged (.inl (refused.imp_right .inl))
  · have allowed := Bool.of_not_eq_false (mt .inl refused)
    have named := Bool.of_not_eq_false (mt .inr refused)
    obtain ⟨value, after⟩ := run_bundleClone_of_admitted allowed named
    rw [value] at failed
    rw [after, wp_run (BundleCloneMgr.wp_cloneAdmitted world bundleName)
      (fun _ _ => trivial) failed rfl]
    unfold BundleDataMgr.getInnerBundleInfo BundleDataMgr.setStatus
    by_cases unnamed : bundleName = ""
    · rw [if_pos unnamed]
      exact iff_of_true unchanged (.inl (.inr (.inr (.inl unnamed))))
    rw [if_neg unnamed]
    cases found : world.dataMgr.bundleInfos[bundleName]? with
    | none => exact iff_of_true unchanged (.inl (.inr (.inr (.inr found))))
    | some info =>
        have read : ¬FailsUnread env world bundleName := by
          simp [FailsUnread, allowed, named, unnamed, found]
        rw [or_iff_right read]
        dsimp only
        rw [isInvisible_afterFailure_iff found]
        simp

/-- One bundle is installed and enabled. -/
def cloneable : World where
  dataMgr := {
    bundleInfos := (∅ : StringMap InnerBundleInfo).insert "com.example.demo"
      { baseApplicationInfo := { bundleName := "com.example.demo" } }
    installStates :=
      (∅ : StringMap InstallState).insert "com.example.demo" .installSuccess
    bundleIdMap := (∅ : Std.ExtTreeMap Int32 String).insert baseAppUid
      "com.example.demo" }

/-- The directory of the clone cannot be made. -/
def noDataDir : Environment bundleService
  | _, .external (.createBundleDataDir _ _ _ _ _) =>
      ErrCode.installdCreateDirFailed
  | _, command => command.plainAnswer

theorem bundleClone_fails_cloneable :
    (run bundleService noDataDir
      (BundleCloneMgr.bundleClone "com.example.demo") 0 cloneable).value =
        some false := by
  decide +kernel

theorem bundleClone_invisible_iff_cloneable :
    IsInvisible "com.example.demo" cloneable.dataMgr
        (run bundleService noDataDir
          (BundleCloneMgr.bundleClone "com.example.demo") 0
          cloneable).world.dataMgr ↔
      FailsUnread noDataDir cloneable "com.example.demo" ∨
        ∃ info, cloneable.dataMgr.bundleInfos["com.example.demo"]? = some info ∧
          IsUnaffected cloneable.dataMgr info :=
  bundleClone_invisible_iff noDataDir cloneable "com.example.demo"
    bundleClone_fails_cloneable

/-- The bundle stays disabled when the directory of its clone is not made. -/
theorem bundleClone_visible :
    ¬∀ (env : Environment bundleService) (world : World) (bundleName : String),
      (run bundleService env (BundleCloneMgr.bundleClone bundleName) 0
          world).value = some false →
        IsInvisible bundleName world.dataMgr (run bundleService env
          (BundleCloneMgr.bundleClone bundleName) 0 world).world.dataMgr := by
  intro invisible
  have same := congrArg (Option.map (·.bundleStatus))
    (invisible noDataDir cloneable "com.example.demo"
      bundleClone_fails_cloneable).original
  revert same
  decide +kernel

end AppExecFwk
