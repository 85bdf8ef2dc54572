import AppExecFwk.Sandbox.Consistency
import AppExecFwk.Store.BundleIds

/-!
# Sandbox installations that fail

The installer of a sandbox application copies the record of the bundle with the
getter that disables the bundle, and only a success enables it again.  What is
reserved afterwards is given back by a scope guard.  An installation that fails
goes unnoticed exactly if it fails before the record is read, or if the bundle
was disabled already and the guard gives back just what was reserved.
-/

namespace AppExecFwk

open CommandProgram

/-- The records of the bundles with their status, what is stored of them, their
ids, and the indices and the records of the sandbox applications are the same. -/
structure IsUnnoticed (before after : World) : Prop where
  records : after.dataMgr.bundleInfos = before.dataMgr.bundleInfos
  storage : after.dataMgr.dataStorage = before.dataMgr.dataStorage
  ids : after.dataMgr.bundleIdMap = before.dataMgr.bundleIdMap
  indices : after.sandboxDataMgr.sandboxAppIndexMap =
    before.sandboxDataMgr.sandboxAppIndexMap
  apps : after.sandboxDataMgr.sandboxAppInfos =
    before.sandboxDataMgr.sandboxAppInfos

/-- A record has one user, who has this uid. -/
def InnerBundleInfo.HasUid (info : InnerBundleInfo) (owner uid : Int32) : Prop :=
  ∃ user, info.innerBundleUserInfos =
      (∅ : StringMap InnerBundleUserInfo).insert
        (nameAndUserIdToKey info.getBundleName owner) user ∧
    user.bundleUserInfo.userId = owner ∧ user.uid = uid

namespace InnerBundleInfo

variable {info : InnerBundleInfo} {owner uid userId : Int32}

theorem hasUid_addInnerBundleUserInfo
    (empty : info.innerBundleUserInfos = ∅) (userInfo : InnerBundleUserInfo) :
    (info.addInnerBundleUserInfo userInfo).HasUid
      userInfo.bundleUserInfo.userId userInfo.uid := by
  refine ⟨userInfo, ?_, rfl, rfl⟩
  simp only [addInnerBundleUserInfo, empty]
  rfl

/-- A change of a user that leaves who the user is and which uid it has. -/
theorem HasUid.modifyUserInfo (has : info.HasUid owner uid) (other : Int32)
    {change : InnerBundleUserInfo → InnerBundleUserInfo}
    (leaves : ∀ user, (change user).bundleUserInfo = user.bundleUserInfo)
    (leavesUid : ∀ user, (change user).uid = user.uid) :
    (info.modifyUserInfo other change).HasUid owner uid := by
  obtain ⟨user, single, same, sameUid⟩ := has
  refine ⟨_, modifyUserInfo_of_single single other change, ?_, ?_⟩
  · split
    · rw [leaves, same]
    · exact same
  · split
    · rw [leavesUid, sameUid]
    · exact sameUid

theorem HasUid.setBundleInstallTime (has : info.HasUid owner uid) (time : Int64)
    (other : Int32) : (info.setBundleInstallTime time other).HasUid owner uid :=
  has.modifyUserInfo other (fun _ => rfl) fun _ => rfl

theorem HasUid.setBundleUpdateTime (has : info.HasUid owner uid) (time : Int64)
    (other : Int32) : (info.setBundleUpdateTime time other).HasUid owner uid :=
  has.modifyUserInfo other (fun _ => rfl) fun _ => rfl

theorem HasUid.setAccessTokenId (has : info.HasUid owner uid) (tokenId : UInt32)
    (other : Int32) : (info.setAccessTokenId tokenId other).HasUid owner uid :=
  has.modifyUserInfo other (fun _ => rfl) fun _ => rfl

/-- The one user is found under its own number. -/
theorem HasUid.getInnerBundleUserInfo_eq (has : info.HasUid owner uid)
    (notNegative : ¬userId < defaultUserId) :
    (userId = owner → ∃ user, info.getInnerBundleUserInfo userId = some user ∧
      user.bundleUserInfo.userId = owner ∧ user.uid = uid) ∧
    (userId ≠ owner → info.getInnerBundleUserInfo userId = none) := by
  obtain ⟨user, single, same, sameUid⟩ := has
  have real : userId ≠ notExistUserId ∧ userId ≠ allUserId := by
    constructor <;> rintro rfl <;> exact notNegative (by decide)
  rw [getInnerBundleUserInfo, if_neg real.1, if_neg real.2, single]
  constructor
  · rintro rfl
    exact ⟨user, Std.ExtTreeMap.getElem?_insert_self, same, sameUid⟩
  · intro other
    rw [Std.ExtTreeMap.getElem?_insert, if_neg, Std.ExtTreeMap.getElem?_empty]
    intro equal
    exact other (nameAndUserIdToKey_inj
      (Std.LawfulEqCmp.eq_of_compare equal)).2.symm

/-- Replacing the one user keeps it the only one. -/
theorem HasUid.begin?_addInnerBundleUserInfo (has : info.HasUid owner uid)
    (user : InnerBundleUserInfo) (same : user.bundleUserInfo.userId = owner) :
    (info.addInnerBundleUserInfo user).innerBundleUserInfos.begin? =
      some user := by
  obtain ⟨old, single, -⟩ := has
  have replaced : (info.addInnerBundleUserInfo user).innerBundleUserInfos =
      (∅ : StringMap InnerBundleUserInfo).insert
        (nameAndUserIdToKey info.getBundleName owner) user := by
    simp only [addInnerBundleUserInfo, single, same]
    apply Std.ExtTreeMap.ext_getElem?
    intro key
    simp only [Std.ExtTreeMap.getElem?_insert]
    split <;> rfl
  rw [StringMap.begin?, replaced, Std.ExtTreeMap.values_eq_map_toList,
    Std.ExtTreeMap.toList_insert_empty]
  rfl

end InnerBundleInfo

/-- The indices after one has been reserved and given back. -/
def BundleSandboxDataMgr.afterRollBack (mgr : BundleSandboxDataMgr)
    (bundleName : String) (info : InnerBundleInfo) : BundleSandboxDataMgr :=
  let reserved := mgr.generateSandboxAppIndex bundleName
  -- Without a new index it is that of the record which is given back.
  let appIndex :=
    if reserved.1 = initialAppIndex then info.appIndex else reserved.1
  (reserved.2.deleteSandboxAppIndex info.getBundleName appIndex).2

namespace BundleSandboxDataMgr

variable (mgr : BundleSandboxDataMgr)

theorem generateSandboxAppIndex_sandboxAppInfos (bundleName : String) :
    (mgr.generateSandboxAppIndex bundleName).2.sandboxAppInfos =
      mgr.sandboxAppInfos := by
  unfold generateSandboxAppIndex
  by_cases unnamed : bundleName = ""
  · rw [if_pos unnamed]
  · rw [if_neg unnamed]
    cases mgr.sandboxAppIndexMap[bundleName]? with
    | none => rfl
    | some appIndices =>
        dsimp only
        split
        · rfl
        · split <;> rfl

theorem deleteSandboxAppIndex_sandboxAppInfos (bundleName : String)
    (appIndex : Int32) :
    (mgr.deleteSandboxAppIndex bundleName appIndex).2.sandboxAppInfos =
      mgr.sandboxAppInfos := by
  by_cases unnamed : bundleName = ""
  · unfold deleteSandboxAppIndex
    rw [if_pos unnamed]
  · exact (mgr.deleteSandboxAppIndex_spec appIndex unnamed).1

theorem afterRollBack_sandboxAppInfos (bundleName : String)
    (info : InnerBundleInfo) :
    (mgr.afterRollBack bundleName info).sandboxAppInfos =
      mgr.sandboxAppInfos := by
  unfold afterRollBack
  rw [deleteSandboxAppIndex_sandboxAppInfos,
    generateSandboxAppIndex_sandboxAppInfos]

end BundleSandboxDataMgr

/-- The ids after a sandbox application has got one and given it back.  Without a
new id it is that of the bundle which is given back. -/
def BundleDataMgr.idsAfterRollBack (mgr : BundleDataMgr)
    (userInfo : InnerBundleUserInfo) (userId : Int32) (key : String) :
    Std.ExtTreeMap Int32 String :=
  let newUserInfo := { userInfo with bundleName := key, gids := [] }
  let (generated, mgr) := mgr.generateUidAndGid newUserInfo
  if userId = userInfo.bundleUserInfo.userId then
    mgr.bundleIdMap.erase
      ((generated.getD newUserInfo).uid - userId * baseUserRange)
  else mgr.bundleIdMap

namespace BundleDataMgr

variable (mgr : BundleDataMgr)

theorem exists_generateUidAndGid (userInfo : InnerBundleUserInfo) :
    ∃ ids, (mgr.generateUidAndGid userInfo).2 =
      { mgr with bundleIdMap := ids } := by
  unfold generateUidAndGid
  by_cases unnamed : userInfo.bundleName = ""
  · rw [if_pos unnamed]
    exact ⟨mgr.bundleIdMap, rfl⟩
  · rw [if_neg unnamed]
    cases generateBundleId mgr.bundleIdMap userInfo.bundleName with
    | none => exact ⟨mgr.bundleIdMap, rfl⟩
    | some outcome => exact ⟨outcome.2, rfl⟩

theorem generateUidAndGid_getD_bundleUserInfo (userInfo : InnerBundleUserInfo) :
    ((mgr.generateUidAndGid userInfo).1.getD userInfo).bundleUserInfo =
      userInfo.bundleUserInfo := by
  unfold generateUidAndGid
  by_cases unnamed : userInfo.bundleName = ""
  · rw [if_pos unnamed, Option.getD_none]
  · rw [if_neg unnamed]
    cases generateBundleId mgr.bundleIdMap userInfo.bundleName with
    | none => rw [Option.getD_none]
    | some outcome => rw [Option.getD_some]

/-- The ids do not depend on the records. -/
theorem idsAfterRollBack_putInfo (name : String) (info : InnerBundleInfo)
    (userInfo : InnerBundleUserInfo) (userId : Int32) (key : String) :
    (mgr.putInfo name info).idsAfterRollBack userInfo userId key =
      mgr.idsAfterRollBack userInfo userId key := by
  unfold idsAfterRollBack generateUidAndGid putInfo
  dsimp only
  by_cases unnamed : key = ""
  · rw [if_pos unnamed, if_pos unnamed]
  · rw [if_neg unnamed, if_neg unnamed]
    cases generateBundleId mgr.bundleIdMap key with
    | none => rfl
    | some outcome => rfl

variable {mgr} in
theorem recycleUidAndGid_of_begin? {info : InnerBundleInfo}
    {userInfo : InnerBundleUserInfo}
    (first : info.innerBundleUserInfos.begin? = some userInfo) :
    mgr.recycleUidAndGid info = { mgr with
      bundleIdMap := mgr.bundleIdMap.erase
        (userInfo.uid - userInfo.bundleUserInfo.userId * baseUserRange) } := by
  unfold recycleUidAndGid
  rw [first]

end BundleDataMgr

namespace BundleSandboxInstaller

variable {ok : Step bundleService → Prop} {world : World}
  {info : InnerBundleInfo} {userInfo : InnerBundleUserInfo}
  {bundleName : String} {userId appIndex : Int32}

/-- The stores after a roll back. -/
def rolledBack (info : InnerBundleInfo) (userId : Int32) (world : World) :
    World :=
  { world with
    sandboxDataMgr := (world.sandboxDataMgr.deleteSandboxAppIndex
      info.getBundleName info.appIndex).2
    dataMgr :=
      match info.getInnerBundleUserInfo userId with
      | none => world.dataMgr
      | some userInfo =>
          world.dataMgr.recycleUidAndGid (info.addInnerBundleUserInfo
            { userInfo with
              bundleName := sandboxKey info.getBundleName info.appIndex }) }

/-- No answer of the environment changes what a roll back does to the stores. -/
theorem wp_rolledBack (info : InnerBundleInfo) (userId : Int32)
    (world : World) :
    wp bundleService ok (sandboxAppRollBack info userId)
      (fun _ after => after = rolledBack info userId world) world := by
  unfold sandboxAppRollBack rolledBack
  simp only [wp_bind, wp_request, wp_sandbox]
  intro _ _ _ _
  cases info.getInnerBundleUserInfo userId with
  | none =>
      simp only [Program.pure_eq, wp_ret, wp_request, wp_bind]
      intro _ _
      rfl
  | some userInfo =>
      simp only [Program.pure_eq, wp_ret, wp_request, wp_bind, wp_store]
      intro _ _ _ _
      rfl

/-- A record without users gives no id back. -/
theorem rolledBack_of_empty (empty : info.innerBundleUserInfos = ∅)
    (notNegative : ¬userId < defaultUserId) :
    rolledBack info userId world = { world with
      sandboxDataMgr := (world.sandboxDataMgr.deleteSandboxAppIndex
        info.getBundleName info.appIndex).2 } := by
  have real : userId ≠ notExistUserId ∧ userId ≠ allUserId := by
    constructor <;> rintro rfl <;> exact notNegative (by decide)
  have nobody : info.getInnerBundleUserInfo userId = none := by
    rw [InnerBundleInfo.getInnerBundleUserInfo, if_neg real.1, if_neg real.2,
      empty]
    exact Std.ExtTreeMap.getElem?_empty
  unfold rolledBack
  rw [nobody]

/-- A record with one user gives the id of this user back. -/
theorem rolledBack_of_hasUid {owner uid : Int32} (has : info.HasUid owner uid)
    (notNegative : ¬userId < defaultUserId) :
    rolledBack info userId world = { world with
      sandboxDataMgr := (world.sandboxDataMgr.deleteSandboxAppIndex
        info.getBundleName info.appIndex).2
      dataMgr := { world.dataMgr with
        bundleIdMap :=
          if userId = owner then
            world.dataMgr.bundleIdMap.erase (uid - userId * baseUserRange)
          else world.dataMgr.bundleIdMap } } := by
  obtain ⟨found, notFound⟩ := has.getInnerBundleUserInfo_eq notNegative
  unfold rolledBack
  by_cases same : userId = owner
  · obtain ⟨user, isUser, owned, itsUid⟩ := found same
    rw [isUser, if_pos same]
    dsimp only
    rw [BundleDataMgr.recycleUidAndGid_of_begin?
      (has.begin?_addInnerBundleUserInfo { user with
        bundleName := sandboxKey info.getBundleName info.appIndex } owned)]
    dsimp only
    rw [itsUid, owned, same]
  · rw [notFound same, if_neg same]

/-- An application that is not installed at its index leaves what the roll back
leaves. -/
theorem wp_installAtIndex_error {tokenId : UInt32}
    (empty : info.innerBundleUserInfos = ∅) (index : info.appIndex = appIndex)
    (notNegative : ¬userId < defaultUserId) :
    wp bundleService ok
      (installAtIndex bundleName info userInfo userId appIndex tokenId)
      (fun result after => ∀ error, result = .error error →
        after = { world with
          sandboxDataMgr := (world.sandboxDataMgr.deleteSandboxAppIndex
            info.getBundleName appIndex).2
          dataMgr := { world.dataMgr with
            bundleIdMap := world.dataMgr.idsAfterRollBack userInfo userId
              (sandboxKey bundleName appIndex) } }) world := by
  unfold installAtIndex
  rw [wp_bind, wp_store]
  intro accepted _
  dsimp only [StoreCommand.perform]
  obtain ⟨ids, onlyIds⟩ := world.dataMgr.exists_generateUidAndGid {
    userInfo with bundleName := sandboxKey bundleName appIndex, gids := [] }
  have sameUser := world.dataMgr.generateUidAndGid_getD_bundleUserInfo {
    userInfo with bundleName := sandboxKey bundleName appIndex, gids := [] }
  unfold BundleDataMgr.idsAfterRollBack
  dsimp only at sameUser ⊢
  generalize world.dataMgr.generateUidAndGid _ = generated
    at onlyIds sameUser ⊢
  obtain ⟨newUserInfo, mgr⟩ := generated
  dsimp only at onlyIds sameUser ⊢
  subst onlyIds
  generalize newUserInfo.getD _ = user at sameUser ⊢
  rw [wp_bind, wp_request]
  intro time _
  dsimp only
  -- The record that is rolled back, and all that matters about it.
  generalize same : InnerBundleInfo.setAccessTokenId _ tokenId userId = record
  have has : record.HasUid userInfo.bundleUserInfo.userId user.uid := by
    rw [← same, ← sameUser]
    exact (((InnerBundleInfo.hasUid_addInnerBundleUserInfo empty
      _).setBundleInstallTime time userId).setBundleUpdateTime 0
        userId).setAccessTokenId tokenId userId
  have name : record.getBundleName = info.getBundleName := by
    rw [← same]
    simp [InnerBundleInfo.setBundleInstallTime,
      InnerBundleInfo.setBundleUpdateTime, InnerBundleInfo.setAccessTokenId]
  have recordIndex : record.appIndex = appIndex := by
    rw [← same, ← index]
    simp [InnerBundleInfo.setBundleInstallTime,
      InnerBundleInfo.setBundleUpdateTime, InnerBundleInfo.setAccessTokenId]
  clear same
  apply wp_bind.mpr
  apply wp_createSandboxDataDir
  · intro result
    refine wp_seq (wp_rolledBack record userId _) ?_
    rintro _ _ rfl error _
    rw [rolledBack_of_hasUid has notNegative, name, recordIndex]
  · simp only [wp_bind, wp_sandbox, wp_store]
    intro _ _ _ _ _ _ error impossible
    cases impossible

end BundleSandboxInstaller

namespace BundleSandboxInstaller

variable {env : Environment bundleService} {world : World}
  {info : InnerBundleInfo} {userInfo : InnerBundleUserInfo}
  {bundleName : String} {dlpType userId appIndex : Int32} {error : ErrCode}
  {after : World}

section Runs

variable {α : Type} {position : Nat}

theorem ending_store {command : StoreCommand}
    {next : command.Result → Operation α} :
    (run bundleService env (store command >>= next) position world).ending =
      (run bundleService env (next (command.perform
        (env position (.store command)) world.dataMgr).1) (position + 1)
          { world with dataMgr := (command.perform
            (env position (.store command)) world.dataMgr).2 }).ending :=
  ending_perform_bind

theorem ending_sandbox {command : SandboxCommand}
    {next : command.Result → Operation α} :
    (run bundleService env (sandbox command >>= next) position world).ending =
      (run bundleService env (next (command.perform
        (env position (.sandbox command)) world.sandboxDataMgr).1)
          (position + 1) { world with sandboxDataMgr := (command.perform
            (env position (.sandbox command)) world.sandboxDataMgr).2 }).ending :=
  ending_perform_bind

theorem ending_request {message : Request}
    {next : message.Reply → Operation α} :
    (run bundleService env (request message >>= next) position world).ending =
      (run bundleService env (next (env position (.external message)))
        (position + 1) world).ending :=
  ending_perform_bind

end Runs

/-- The installation once an index has been reserved, or none was free. -/
def installReserved (bundleName : String) (info : InnerBundleInfo)
    (userInfo : InnerBundleUserInfo) (dlpType userId newAppIndex : Int32) :
    Operation (Except ErrCode Int32) := do
  if newAppIndex = initialAppIndex then
    sandboxAppRollBack info userId
    return .error .sandboxInstallInvalidAppIndex
  let info := sandboxRecord info newAppIndex
  let newTokenId ← request (.createAccessTokenId info info.getBundleName userId
    dlpType)
  if !(← request (.grantRequestPermissions info newTokenId)) then
    sandboxAppRollBack info userId
    return .error .installGrantRequestPermissionsFailed
  installAtIndex bundleName info userInfo userId newAppIndex newTokenId

/-- The installation once the record of the bundle has been copied. -/
def installCopied (bundleName : String) (info : InnerBundleInfo)
    (dlpType userId : Int32) : Operation (Except ErrCode Int32) := do
  if userId < defaultUserId then
    return .error .sandboxInstallParamError
  if !(← store (.hasUserId userId)) then
    return .error .sandboxInstallUserNotExist
  match info.getInnerBundleUserInfo userId with
  | none => return .error .sandboxInstallNotInstalledAtSpecifiedUserid
  | some userInfo =>
      let newAppIndex ← sandbox (.generateSandboxAppIndex bundleName)
      installReserved bundleName info.cleanInnerBundleUserInfos userInfo dlpType
        userId newAppIndex

theorem installSandboxApp_eq (bundleName : String) (dlpType userId : Int32) :
    installSandboxApp bundleName dlpType userId = (do
      if bundleName = "" then
        return .error .sandboxInstallParamError
      match ← store (.getInnerBundleInfo bundleName) with
      | none => return .error .sandboxInstallAppNotExisted
      | some info => installCopied bundleName info dlpType userId) :=
  rfl

/-- Whether the permissions of the new application are granted. -/
def isGranted (env : Environment bundleService) (info : InnerBundleInfo)
    (dlpType userId newAppIndex : Int32) : Bool :=
  let record := sandboxRecord info newAppIndex
  let newTokenId := env 3 (.external (.createAccessTokenId record
    record.getBundleName userId dlpType))
  env 4 (.external (.grantRequestPermissions record newTokenId))

/-- The ids that an installation leaves which fails for a user who has the
bundle: an id has been given back only if there was one to be got. -/
def idsLeft (env : Environment bundleService) (mgr : BundleDataMgr)
    (bundleName : String) (info : InnerBundleInfo)
    (userInfo : InnerBundleUserInfo) (dlpType userId newAppIndex : Int32) :
    Std.ExtTreeMap Int32 String :=
  if newAppIndex ≠ initialAppIndex ∧ isGranted env info dlpType userId newAppIndex
  then mgr.idsAfterRollBack userInfo userId (sandboxKey bundleName newAppIndex)
  else mgr.bundleIdMap

theorem idsLeft_putInfo (mgr : BundleDataMgr) (name : String)
    (stored : InnerBundleInfo) (newAppIndex : Int32) :
    idsLeft env (mgr.putInfo name stored) bundleName info userInfo dlpType userId
        newAppIndex =
      idsLeft env mgr bundleName info userInfo dlpType userId newAppIndex := by
  unfold idsLeft
  rw [BundleDataMgr.idsAfterRollBack_putInfo]
  rfl

/-- What an installation leaves that rolls back and fails. -/
theorem world_of_rollBack {position : Nat} {result : ErrCode}
    (failed : (run bundleService env (do
      sandboxAppRollBack info userId
      return (.error result : Except ErrCode Int32)) position world).ending =
        (some (.error error), after)) :
    after = rolledBack info userId world := by
  have rolls : wp bundleService (fun _ => True) (do
      sandboxAppRollBack info userId
      return (.error result : Except ErrCode Int32))
      (fun _ left => left = rolledBack info userId world) world := by
    refine wp_seq (wp_rolledBack info userId world) ?_
    intro _ _ rolled
    exact rolled
  exact wp_ending rolls failed

/-- What is left of an installation that fails at an index or without one. -/
theorem world_installReserved {newAppIndex : Int32}
    (empty : info.innerBundleUserInfos = ∅)
    (notNegative : ¬userId < defaultUserId)
    (failed : (run bundleService env (installReserved bundleName info userInfo
      dlpType userId newAppIndex) 3 world).ending =
        (some (.error error), after)) :
    after = { world with
      sandboxDataMgr := (world.sandboxDataMgr.deleteSandboxAppIndex
        info.getBundleName (if newAppIndex = initialAppIndex then info.appIndex
          else newAppIndex)).2
      dataMgr := { world.dataMgr with
        bundleIdMap := idsLeft env world.dataMgr bundleName info userInfo dlpType
          userId newAppIndex } } := by
  unfold installReserved at failed
  unfold idsLeft
  by_cases full : newAppIndex = initialAppIndex
  · rw [if_pos full] at failed
    rw [if_pos full, if_neg fun both => both.1 full]
    rw [world_of_rollBack failed, rolledBack_of_empty empty notNegative]
  · rw [if_neg full, ending_request, ending_request] at failed
    have bare : (sandboxRecord info newAppIndex).innerBundleUserInfos = ∅ := empty
    have name : (sandboxRecord info newAppIndex).getBundleName =
        info.getBundleName := rfl
    have index : (sandboxRecord info newAppIndex).appIndex = newAppIndex := rfl
    rw [if_neg full]
    cases granted : isGranted env info dlpType userId newAppIndex with
    | false =>
        have refused := granted
        unfold isGranted at refused
        rw [refused] at failed
        simp only [Bool.not_false, if_true] at failed
        rw [if_neg fun both => Bool.noConfusion both.2]
        rw [world_of_rollBack failed, rolledBack_of_empty bare notNegative, name,
          index]
    | true =>
        have allowed := granted
        unfold isGranted at allowed
        rw [allowed] at failed
        simp only [Bool.not_true, Bool.false_eq_true, if_false] at failed
        rw [if_pos ⟨full, rfl⟩]
        have left := wp_ending (wp_installAtIndex_error bare index notNegative)
          failed error rfl
        rw [name] at left
        exact left

/-- The installation fails before anything is reserved: there is no such user, or
the bundle is not installed for it. -/
def FailsUnreserved (mgr : BundleDataMgr) (info : InnerBundleInfo)
    (userId : Int32) : Prop :=
  userId < defaultUserId ∨ mgr.hasUserId userId = false ∨
    info.getInnerBundleUserInfo userId = none

/-- What is reserved for the user is just what the guard gives back. -/
structure GivesBack (env : Environment bundleService) (world : World)
    (bundleName : String) (info : InnerBundleInfo)
    (userInfo : InnerBundleUserInfo) (dlpType userId : Int32) : Prop where
  indices : (world.sandboxDataMgr.afterRollBack bundleName
    info).sandboxAppIndexMap = world.sandboxDataMgr.sandboxAppIndexMap
  ids : idsLeft env world.dataMgr bundleName info.cleanInnerBundleUserInfos
    userInfo dlpType userId
      (world.sandboxDataMgr.generateSandboxAppIndex bundleName).1 =
        world.dataMgr.bundleIdMap

theorem world_installCopied_unreserved
    (failed : (run bundleService env (installCopied bundleName info dlpType
      userId) 1 world).ending = (some (.error error), after))
    (unreserved : FailsUnreserved world.dataMgr info userId) :
    after = world := by
  unfold installCopied at failed
  by_cases negative : userId < defaultUserId
  · rw [if_pos negative] at failed
    exact (congrArg Prod.snd failed).symm
  rw [if_neg negative, ending_store] at failed
  cases known : world.dataMgr.hasUserId userId with
  | false =>
      simp only [StoreCommand.perform, known, Bool.not_false, if_true] at failed
      exact (congrArg Prod.snd failed).symm
  | true =>
      have nobody : info.getInnerBundleUserInfo userId = none := by
        rcases unreserved with impossible | unknown | nobody
        · exact absurd impossible negative
        · rw [known] at unknown
          cases unknown
        · exact nobody
      simp only [StoreCommand.perform, known, Bool.not_true, Bool.false_eq_true,
        if_false, nobody] at failed
      exact (congrArg Prod.snd failed).symm

theorem world_installCopied_reserved
    (failed : (run bundleService env (installCopied bundleName info dlpType
      userId) 1 world).ending = (some (.error error), after))
    (reserved : ¬FailsUnreserved world.dataMgr info userId) :
    ∃ userInfo, info.getInnerBundleUserInfo userId = some userInfo ∧
      after = { world with
        sandboxDataMgr := world.sandboxDataMgr.afterRollBack bundleName info
        dataMgr := { world.dataMgr with
          bundleIdMap := idsLeft env world.dataMgr bundleName
            info.cleanInnerBundleUserInfos userInfo dlpType userId
              (world.sandboxDataMgr.generateSandboxAppIndex bundleName).1 } } := by
  unfold FailsUnreserved at reserved
  rw [not_or, not_or, Bool.not_eq_false] at reserved
  obtain ⟨notNegative, known, somebody⟩ := reserved
  obtain ⟨userInfo, found⟩ := Option.ne_none_iff_exists'.mp somebody
  refine ⟨userInfo, found, ?_⟩
  unfold installCopied at failed
  rw [if_neg notNegative, ending_store] at failed
  simp only [StoreCommand.perform, known, Bool.not_true, Bool.false_eq_true,
    if_false, found] at failed
  rw [ending_sandbox] at failed
  exact world_installReserved rfl notNegative failed

end BundleSandboxInstaller

/-- There is no record to be copied. -/
def BundleDataMgr.HasNoRecord (mgr : BundleDataMgr) (bundleName : String) : Prop :=
  bundleName = "" ∨ mgr.bundleInfos[bundleName]? = none

/-- A failure of the installation for a user goes unnoticed: the bundle was
disabled already, and nothing was reserved or all of it is given back. -/
structure FailsUnnoticed (env : Environment bundleService) (world : World)
    (bundleName : String) (info : InnerBundleInfo) (dlpType userId : Int32) :
    Prop where
  disabled : info.bundleStatus = .disabled
  givesBack : BundleSandboxInstaller.FailsUnreserved world.dataMgr info userId ∨
    ∃ userInfo, info.getInnerBundleUserInfo userId = some userInfo ∧
      BundleSandboxInstaller.GivesBack env world bundleName info userInfo dlpType
        userId

section Failures

variable {env : Environment bundleService} {world after : World}
  {bundleName : String} {dlpType userId : Int32} {error : ErrCode}
  {info : InnerBundleInfo}

open BundleSandboxInstaller

theorem IsUnnoticed.refl (world : World) : IsUnnoticed world world :=
  ⟨rfl, rfl, rfl, rfl, rfl⟩

theorem world_installSandboxApp_of_hasNoRecord
    (missing : world.dataMgr.HasNoRecord bundleName)
    (failed : (run bundleService env (installSandboxApp bundleName dlpType
      userId) 0 world).ending = (some (.error error), after)) :
    after = world := by
  rw [installSandboxApp_eq] at failed
  by_cases unnamed : bundleName = ""
  · rw [if_pos unnamed] at failed
    exact (congrArg Prod.snd failed).symm
  · rw [if_neg unnamed, ending_store] at failed
    have absent := missing.resolve_left unnamed
    simp only [StoreCommand.perform, BundleDataMgr.getInnerBundleInfo,
      BundleDataMgr.setStatus, if_neg unnamed, absent] at failed
    exact (congrArg Prod.snd failed).symm

theorem ending_installSandboxApp_of_found (named : bundleName ≠ "")
    (found : world.dataMgr.bundleInfos[bundleName]? = some info) :
    (run bundleService env (installSandboxApp bundleName dlpType userId) 0
      world).ending =
    (run bundleService env (installCopied bundleName
      (info.setBundleStatus .disabled) dlpType userId) 1 { world with
        dataMgr := world.dataMgr.putInfo bundleName
          (info.setBundleStatus .disabled) }).ending := by
  rw [installSandboxApp_eq, if_neg named, ending_store]
  simp only [StoreCommand.perform, BundleDataMgr.getInnerBundleInfo,
    BundleDataMgr.setStatus, if_neg named, found]

/-- Copying a record puts it back as it was exactly if it was disabled. -/
theorem BundleDataMgr.putInfo_disabled_iff {mgr : BundleDataMgr}
    (found : mgr.bundleInfos[bundleName]? = some info) :
    (mgr.putInfo bundleName (info.setBundleStatus .disabled)).bundleInfos =
      mgr.bundleInfos ↔ info.bundleStatus = .disabled := by
  rw [← InnerBundleInfo.setBundleStatus_eq_iff]
  constructor
  · intro same
    have itself : (mgr.putInfo bundleName
        (info.setBundleStatus .disabled)).bundleInfos[bundleName]? =
          some (info.setBundleStatus .disabled) :=
      Std.ExtTreeMap.getElem?_insert_self
    rw [same, found] at itself
    exact (Option.some.inj itself).symm
  · intro same
    rw [same]
    apply Std.ExtTreeMap.ext_getElem?
    intro key
    unfold BundleDataMgr.putInfo
    rw [Std.ExtTreeMap.getElem?_insert]
    split
    · next equal => rw [← Std.LawfulEqCmp.eq_of_compare equal, found]
    · rfl

theorem failsUnreserved_copied_iff {mgr : BundleDataMgr} {status : BundleStatus} :
    FailsUnreserved (mgr.putInfo bundleName (info.setBundleStatus status))
        (info.setBundleStatus status) userId ↔
      FailsUnreserved mgr info userId :=
  Iff.rfl

/-- An installation that fails after the record was copied goes unnoticed exactly
if the bundle was disabled and all is given back. -/
theorem isUnnoticed_iff_of_found (named : bundleName ≠ "")
    (found : world.dataMgr.bundleInfos[bundleName]? = some info)
    (failed : (run bundleService env (installSandboxApp bundleName dlpType
      userId) 0 world).ending = (some (.error error), after)) :
    IsUnnoticed world after ↔
      FailsUnnoticed env world bundleName info dlpType userId := by
  rw [ending_installSandboxApp_of_found named found] at failed
  have status := BundleDataMgr.putInfo_disabled_iff found
  by_cases unreserved : FailsUnreserved world.dataMgr info userId
  · have left := world_installCopied_unreserved failed
      (failsUnreserved_copied_iff.mpr unreserved)
    subst left
    constructor
    · intro unnoticed
      exact ⟨status.mp unnoticed.records, .inl unreserved⟩
    · intro fails
      exact ⟨status.mpr fails.disabled, rfl, rfl, rfl, rfl⟩
  · obtain ⟨userInfo, isUser, left⟩ := world_installCopied_reserved failed
      (mt failsUnreserved_copied_iff.mp unreserved)
    subst left
    constructor
    · intro unnoticed
      have disabled := status.mp unnoticed.records
      have ids := unnoticed.ids
      have indices := unnoticed.indices
      dsimp only at ids indices
      rw [InnerBundleInfo.setBundleStatus_eq_iff.mpr disabled]
        at isUser ids indices
      rw [idsLeft_putInfo] at ids
      exact ⟨disabled, .inr ⟨userInfo, isUser, ⟨indices, ids⟩⟩⟩
    · rintro ⟨disabled, fails⟩
      have same := InnerBundleInfo.setBundleStatus_eq_iff.mpr disabled
      rw [same] at isUser
      obtain ⟨user, isSame, index, ids⟩ := fails.resolve_left unreserved
      rw [isUser] at isSame
      cases isSame
      have kept := status.mpr disabled
      rw [← idsLeft_putInfo _ bundleName info] at ids
      rw [same] at kept ⊢
      exact ⟨kept, rfl, ids, index,
        world.sandboxDataMgr.afterRollBack_sandboxAppInfos bundleName info⟩

end Failures

/-- A failed installation of a sandbox application goes unnoticed exactly if it
fails before a record is copied, or the bundle was disabled and what was reserved
is given back. -/
theorem installSandboxApp_unnoticed_iff (env : Environment bundleService)
    (world : World) (bundleName : String) (dlpType userId : Int32)
    (error : ErrCode)
    (failed : (run bundleService env (BundleSandboxInstaller.installSandboxApp
      bundleName dlpType userId) 0 world).value = some (.error error)) :
    IsUnnoticed world (run bundleService env
        (BundleSandboxInstaller.installSandboxApp bundleName dlpType userId) 0
        world).world ↔
      world.dataMgr.HasNoRecord bundleName ∨
        ∃ info, world.dataMgr.bundleInfos[bundleName]? = some info ∧
          FailsUnnoticed env world bundleName info dlpType userId := by
  have ended := Outcome.ending_of_value failed
  by_cases missing : world.dataMgr.HasNoRecord bundleName
  · have left := world_installSandboxApp_of_hasNoRecord missing ended
    rw [left]
    exact iff_of_true (IsUnnoticed.refl world) (.inl missing)
  · rw [or_iff_right missing]
    unfold BundleDataMgr.HasNoRecord at missing
    rw [not_or] at missing
    obtain ⟨info, found⟩ := Option.ne_none_iff_exists'.mp missing.2
    rw [isUnnoticed_iff_of_found missing.1 found ended]
    simp [found]

section Ordinary

variable {mgr : BundleSandboxDataMgr} {bundleName : String}

/-- A reserved index is added to those of the bundle. -/
theorem BundleSandboxDataMgr.generateSandboxAppIndex_adds
    (named : bundleName ≠ "")
    (reserved : (mgr.generateSandboxAppIndex bundleName).1 ≠ initialAppIndex) :
    (mgr.generateSandboxAppIndex bundleName).2 = { mgr with
      sandboxAppIndexMap := mgr.sandboxAppIndexMap.insert bundleName
        ((mgr.sandboxAppIndexMap[bundleName]?.getD ∅).insert
          (mgr.generateSandboxAppIndex bundleName).1) } := by
  unfold generateSandboxAppIndex at reserved ⊢
  rw [if_neg named] at reserved ⊢
  cases found : mgr.sandboxAppIndexMap[bundleName]? with
  | none => rfl
  | some appIndices =>
      simp only [found, Option.getD_some] at reserved ⊢
      by_cases empty : appIndices.isEmpty = true
      · simp only [if_pos empty]
      · simp only [if_neg empty] at reserved ⊢
        split at reserved
        · exact absurd rfl reserved
        · next small => rw [if_neg small]

/-- What is erased after it was inserted for the first time is gone. -/
theorem erase_insert_of_not_mem {appIndices : Std.ExtTreeSet Int32}
    {appIndex : Int32} (fresh : appIndex ∉ appIndices) :
    (appIndices.insert appIndex).erase appIndex = appIndices := by
  ext other
  rw [Std.ExtTreeSet.mem_erase, Std.ExtTreeSet.mem_insert, Ne,
    Std.LawfulEqCmp.compare_eq_iff_eq]
  constructor
  · rintro ⟨different, same | member⟩
    · exact absurd same different
    · exact member
  · intro member
    refine ⟨?_, .inr member⟩
    rintro rfl
    exact fresh member

/-- An index that is reserved for the first time is given back as if nothing had
happened. -/
theorem BundleSandboxDataMgr.afterRollBack_sandboxAppIndexMap
    {info : InnerBundleInfo} (bounded : mgr.IsBounded)
    (named : bundleName ≠ "") (name : info.getBundleName = bundleName)
    (used : mgr.sandboxAppIndexMap[bundleName]? ≠ some ∅)
    (reserved : (mgr.generateSandboxAppIndex bundleName).1 ≠ initialAppIndex) :
    (mgr.afterRollBack bundleName info).sandboxAppIndexMap =
      mgr.sandboxAppIndexMap := by
  obtain full | ⟨-, fresh, -⟩ := mgr.generateSandboxAppIndex_spec bounded bundleName
  · exact absurd (congrArg Prod.fst full) reserved
  have unused : (mgr.generateSandboxAppIndex bundleName).1 ∉
      mgr.sandboxAppIndexMap[bundleName]?.getD ∅ := by
    intro member
    cases found : mgr.sandboxAppIndexMap[bundleName]? with
    | none =>
        rw [found] at member
        exact Std.ExtTreeSet.not_mem_empty member
    | some appIndices =>
        rw [found] at member
        exact fresh ⟨appIndices, found, member⟩
  unfold afterRollBack
  dsimp only
  rw [if_neg reserved, name, generateSandboxAppIndex_adds named reserved]
  generalize (mgr.generateSandboxAppIndex bundleName).1 = appIndex at unused ⊢
  have itself : (mgr.sandboxAppIndexMap.insert bundleName
      ((mgr.sandboxAppIndexMap[bundleName]?.getD ∅).insert
        appIndex))[bundleName]? = some
          ((mgr.sandboxAppIndexMap[bundleName]?.getD ∅).insert appIndex) :=
    Std.ExtTreeMap.getElem?_insert_self
  unfold deleteSandboxAppIndex
  rw [if_neg named]
  simp only [itself, Std.ExtTreeSet.contains_insert_self, if_true]
  rw [erase_insert_of_not_mem unused]
  apply Std.ExtTreeMap.ext_getElem?
  intro key
  cases found : mgr.sandboxAppIndexMap[bundleName]? with
  | none =>
      rw [Option.getD_none, if_pos Std.ExtTreeSet.isEmpty_empty,
        Std.ExtTreeMap.getElem?_erase, Std.ExtTreeMap.getElem?_insert]
      by_cases same : compare bundleName key = .eq
      · rw [if_pos same, ← Std.LawfulEqCmp.eq_of_compare same, found]
      · rw [if_neg same, if_neg same]
  | some appIndices =>
      have nonempty : appIndices.isEmpty ≠ true := by
        intro empty
        exact used (found.trans (congrArg some (Std.ExtTreeSet.isEmpty_iff.mp empty)))
      rw [Option.getD_some, if_neg nonempty, Std.ExtTreeMap.getElem?_insert,
        Std.ExtTreeMap.getElem?_insert]
      by_cases same : compare bundleName key = .eq
      · rw [if_pos same, ← Std.LawfulEqCmp.eq_of_compare same, found]
      · rw [if_neg same, if_neg same]

/-- An id that is got for the first time is given back as if nothing had
happened. -/
theorem BundleDataMgr.idsAfterRollBack_of_new {mgr : BundleDataMgr} {key : String}
    {userInfo : InnerBundleUserInfo} {userId bundleId : Int32}
    {ids : BundleIdMap} (named : key ≠ "")
    (owned : userInfo.bundleUserInfo.userId = userId)
    (isNew : ∀ id : Int32, mgr.bundleIdMap[id]? ≠ some key)
    (free : mgr.bundleIdMap[bundleId]? = none)
    (small : bundleId % baseUserRange = bundleId)
    (generated : generateBundleId mgr.bundleIdMap key = some (bundleId, ids)) :
    mgr.idsAfterRollBack userInfo userId key = mgr.bundleIdMap := by
  have adds := BundleIdMap.generateBundleId_adds isNew generated
  unfold idsAfterRollBack generateUidAndGid
  dsimp only
  rw [if_neg named, generated, if_pos owned.symm]
  dsimp only [Option.getD_some]
  rw [owned, small, Int32.add_comm, Int32.add_sub_cancel, adds]
  apply Std.ExtTreeMap.ext_getElem?
  intro id
  rw [Std.ExtTreeMap.getElem?_erase, Std.ExtTreeMap.getElem?_insert]
  by_cases same : compare bundleId id = .eq
  · rw [if_pos same, ← Std.LawfulEqCmp.eq_of_compare same, free]
  · rw [if_neg same, if_neg same]

/-- In an ordinary state, where an index is free and the application is a new one,
all that was reserved is given back. -/
theorem BundleSandboxInstaller.givesBack_of_new
    {env : Environment bundleService} {world : World} {info : InnerBundleInfo}
    {userInfo : InnerBundleUserInfo} {dlpType userId bundleId : Int32}
    {ids : BundleIdMap} (bounded : world.sandboxDataMgr.IsBounded)
    (named : bundleName ≠ "") (name : info.getBundleName = bundleName)
    (used : world.sandboxDataMgr.sandboxAppIndexMap[bundleName]? ≠ some ∅)
    (reserved : (world.sandboxDataMgr.generateSandboxAppIndex bundleName).1 ≠
      initialAppIndex)
    (owned : userInfo.bundleUserInfo.userId = userId)
    (isNew : ∀ id : Int32, world.dataMgr.bundleIdMap[id]? ≠ some (sandboxKey
      bundleName (world.sandboxDataMgr.generateSandboxAppIndex bundleName).1))
    (free : world.dataMgr.bundleIdMap[bundleId]? = none)
    (small : bundleId % baseUserRange = bundleId)
    (generated : BundleDataMgr.generateBundleId world.dataMgr.bundleIdMap
      (sandboxKey bundleName
        (world.sandboxDataMgr.generateSandboxAppIndex bundleName).1) =
          some (bundleId, ids)) :
    GivesBack env world bundleName info userInfo dlpType userId where
  indices := BundleSandboxDataMgr.afterRollBack_sandboxAppIndexMap bounded named
    name used reserved
  ids := by
    have keyed : sandboxKey bundleName
        (world.sandboxDataMgr.generateSandboxAppIndex bundleName).1 ≠ "" := by
      simp [sandboxKey]
    unfold idsLeft
    split
    · exact BundleDataMgr.idsAfterRollBack_of_new keyed owned isNew free small
        generated
    · rfl

end Ordinary

/-- The directory of the sandbox application cannot be made. -/
def noSandboxDir : Environment bundleService
  | _, .external (.createBundleDataDir _ _ _ _ _) =>
      ErrCode.installdCreateDirFailed
  | _, command => command.plainAnswer

theorem installSandboxApp_fails_oneBundle :
    (run bundleService noSandboxDir (BundleSandboxInstaller.installSandboxApp
      "com.example.demo" 0 100) 0 oneBundle).value =
        some (.error .installdCreateDirFailed) := by
  decide +kernel

theorem installSandboxApp_unnoticed_iff_oneBundle :
    IsUnnoticed oneBundle (run bundleService noSandboxDir
        (BundleSandboxInstaller.installSandboxApp "com.example.demo" 0 100) 0
        oneBundle).world ↔
      oneBundle.dataMgr.HasNoRecord "com.example.demo" ∨
        ∃ info, oneBundle.dataMgr.bundleInfos["com.example.demo"]? = some info ∧
          FailsUnnoticed noSandboxDir oneBundle "com.example.demo" info 0 100 :=
  installSandboxApp_unnoticed_iff noSandboxDir oneBundle "com.example.demo" 0
    100 .installdCreateDirFailed installSandboxApp_fails_oneBundle

/-- The bundle stays disabled when the directory is not made. -/
theorem installSandboxApp_noticed :
    ¬∀ (env : Environment bundleService) (world : World) (bundleName : String)
        (dlpType userId : Int32) (error : ErrCode),
      (run bundleService env (BundleSandboxInstaller.installSandboxApp bundleName
        dlpType userId) 0 world).value = some (.error error) →
        IsUnnoticed world (run bundleService env
          (BundleSandboxInstaller.installSandboxApp bundleName dlpType userId) 0
          world).world := by
  intro unnoticed
  have same := congrArg (fun infos => infos["com.example.demo"]?.map
    (·.bundleStatus)) (unnoticed noSandboxDir oneBundle "com.example.demo" 0 100
      .installdCreateDirFailed installSandboxApp_fails_oneBundle).records
  revert same
  decide +kernel

end AppExecFwk
