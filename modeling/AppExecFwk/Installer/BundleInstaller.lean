import AppExecFwk.Installer.BundleInstall

/-!
# Requests for all users

`BundleInstaller` carries a request out for the user it names, or for each user
of the device in turn, and tells the client once what became of it.  The
installations and the recovery keep the outcome of the last user only; the two
forms of `Uninstall` look at the outcomes of all of them.
-/

namespace AppExecFwk

open CommandProgram


/-- An operation that also talks to the status receiver of a request: the codes
and the texts of the final results that it has heard. -/
abbrev Reporting := StateT (List (ErrCode × String)) Operation

namespace BundleInstaller

def onFinished (resultCode : ErrCode) (resultMsg : String) : Reporting Unit :=
  modify (· ++ [(resultCode, resultMsg)])

/-- The users of the device other than the system's own; there are none as long
as the service has no data manager. -/
def getExistsCommonUserIs : Option BundleDataMgr → List Int32
  | none => []
  | some dataMgr => dataMgr.getAllUser.toList.filter (startUserId ≤ ·)

section Installing

/-- Carry an operation out for the user named, or for each of the users; a
bundle that a user already has is replaced then.  What is returned is the
outcome of the last operation. -/
def installForUsers (dataMgr : Option BundleDataMgr)
    (installParam : InstallParam)
    (operation : InstallParam → Operation ErrCode) : Operation ErrCode :=
  if installParam.userId = allUserId then
    (getExistsCommonUserIs dataMgr).foldlM (fun _ userId =>
      operation { installParam with
        userId := userId, installFlag := .replaceExisting }) ErrCode.ok
  else operation installParam

def install (order : MapOrder) (dataMgr : Option BundleDataMgr)
    (bundleFilePath : String) (installParam : InstallParam) :
    Reporting Unit := do
  let resultCode ← installForUsers dataMgr installParam fun userInstallParam =>
    BaseBundleInstaller.installBundle order [bundleFilePath] userInstallParam
      .thirdPartyApp
  onFinished resultCode ""

def recover (order : MapOrder) (dataMgr : Option BundleDataMgr)
    (bundleName : String) (installParam : InstallParam) : Reporting Unit := do
  let resultCode ← installForUsers dataMgr installParam
    (BaseBundleInstaller.recover order bundleName)
  onFinished resultCode ""

def installPaths (order : MapOrder) (dataMgr : Option BundleDataMgr)
    (bundleFilePaths : List String) (installParam : InstallParam) :
    Reporting Unit := do
  let resultCode ← installForUsers dataMgr installParam fun userInstallParam =>
    BaseBundleInstaller.installBundle order bundleFilePaths userInstallParam
      .thirdPartyApp
  onFinished resultCode ""

end Installing

section Uninstalling

/-- The user had nothing to uninstall. -/
def hadNothing (err : ErrCode) : Bool :=
  err == .uninstallMissingInstalledBundle || err == .userNotInstallHap

/-- The first outcome that is a failure, or success if there is none. -/
def firstFailure : List ErrCode → ErrCode
  | [] => .ok
  | err :: rest =>
      if !(hadNothing err || err == .ok) then err else firstFailure rest

/-- What the outcomes of all users come to. -/
def uninstallResult (errCode : List ErrCode) : ErrCode :=
  if .ok ∈ errCode then firstFailure errCode else errCode.headD .ok

def uninstallForUsers (dataMgr : Option BundleDataMgr)
    (installParam : InstallParam)
    (operation : InstallParam → Operation ErrCode) : Operation ErrCode :=
  if installParam.userId = allUserId then do
    let errCode ← (getExistsCommonUserIs dataMgr).mapM fun userId =>
      operation { installParam with userId := userId }
    return uninstallResult errCode
  else operation installParam

def uninstall (dataMgr : Option BundleDataMgr) (bundleName : String)
    (installParam : InstallParam) : Reporting Unit := do
  let resultCode ← uninstallForUsers dataMgr installParam
    (BaseBundleInstaller.uninstallBundle bundleName)
  onFinished resultCode ""

def uninstallModule (dataMgr : Option BundleDataMgr)
    (bundleName modulePackage : String) (installParam : InstallParam) :
    Reporting Unit := do
  let resultCode ← uninstallForUsers dataMgr installParam
    (BaseBundleInstaller.uninstallModule bundleName modulePackage)
  onFinished resultCode ""

end Uninstalling

end BundleInstaller

/-- A request that may be for all users. -/
inductive UserRequest where
  | install (bundleFilePath : String)
  | recover (bundleName : String)
  | installPaths (bundleFilePaths : List String)
  | uninstall (bundleName : String)
  | uninstallModule (bundleName modulePackage : String)

namespace UserRequest

open BundleInstaller

def perform (order : MapOrder) (dataMgr : Option BundleDataMgr)
    (installParam : InstallParam) : UserRequest → Reporting Unit
  | install bundleFilePath =>
      BundleInstaller.install order dataMgr bundleFilePath installParam
  | recover bundleName =>
      BundleInstaller.recover order dataMgr bundleName installParam
  | installPaths bundleFilePaths =>
      BundleInstaller.installPaths order dataMgr bundleFilePaths installParam
  | uninstall bundleName =>
      BundleInstaller.uninstall dataMgr bundleName installParam
  | uninstallModule bundleName modulePackage =>
      BundleInstaller.uninstallModule dataMgr bundleName modulePackage
        installParam

/-- Whether the request takes something away. -/
def isUninstall : UserRequest → Bool
  | uninstall _ | uninstallModule _ _ => true
  | install _ | recover _ | installPaths _ => false

/-- What is done for one user. -/
def forUser (order : MapOrder) (installParam : InstallParam) (userId : Int32) :
    UserRequest → Operation ErrCode
  | install bundleFilePath =>
      BaseBundleInstaller.installBundle order [bundleFilePath]
        { installParam with userId := userId, installFlag := .replaceExisting }
        .thirdPartyApp
  | recover bundleName =>
      BaseBundleInstaller.recover order bundleName
        { installParam with userId := userId, installFlag := .replaceExisting }
  | installPaths bundleFilePaths =>
      BaseBundleInstaller.installBundle order bundleFilePaths
        { installParam with userId := userId, installFlag := .replaceExisting }
        .thirdPartyApp
  | uninstall bundleName =>
      BaseBundleInstaller.uninstallBundle bundleName
        { installParam with userId := userId }
  | uninstallModule bundleName modulePackage =>
      BaseBundleInstaller.uninstallModule bundleName modulePackage
        { installParam with userId := userId }

/-- The outcomes of what is done for the users, one after another. -/
def outcomes (request : UserRequest) (order : MapOrder)
    (dataMgr : Option BundleDataMgr) (installParam : InstallParam) :
    Operation (List ErrCode) :=
  (getExistsCommonUserIs dataMgr).mapM fun userId =>
    request.forUser order installParam userId

/-- The one code that the outcomes come to. -/
def result (request : UserRequest) (outcomes : List ErrCode) : ErrCode :=
  if request.isUninstall then uninstallResult outcomes
  else outcomes.getLast?.getD .ok

variable {order : MapOrder} {dataMgr : Option BundleDataMgr}
  {installParam : InstallParam}

/-- A loop that keeps the last value is one that collects them all and then
takes the last. -/
private theorem foldlM_keepsLast {m : Type → Type} [Monad m] [LawfulMonad m]
    {α β : Type} (items : List α) (body : α → m β) (before : β) :
    items.foldlM (fun _ item => body item) before =
      items.mapM body >>= fun values => pure (values.getLast?.getD before) := by
  induction items generalizing before with
  | nil => simp
  | cons item rest ih =>
      simp only [List.foldlM_cons, List.mapM_cons, bind_assoc, pure_bind,
        List.getLast?_cons, Option.getD_some]
      exact bind_congr fun value => ih value

theorem installForUsers_eq {operation : InstallParam → Operation ErrCode}
    (everyUser : installParam.userId = allUserId) :
    installForUsers dataMgr installParam operation =
      ((getExistsCommonUserIs dataMgr).mapM fun userId =>
        operation { installParam with
          userId := userId, installFlag := .replaceExisting }) >>=
        fun outcomes => pure (outcomes.getLast?.getD .ok) := by
  rw [installForUsers, if_pos everyUser]
  exact foldlM_keepsLast _ _ _

theorem uninstallForUsers_eq {operation : InstallParam → Operation ErrCode}
    (everyUser : installParam.userId = allUserId) :
    uninstallForUsers dataMgr installParam operation =
      ((getExistsCommonUserIs dataMgr).mapM fun userId =>
        operation { installParam with userId := userId }) >>=
        fun outcomes => pure (uninstallResult outcomes) := by
  rw [uninstallForUsers, if_pos everyUser]

/-- An operation whose outcome is reported. -/
private theorem run_report {operation : Operation ErrCode}
    (heard : List (ErrCode × String)) :
    (do let resultCode ← operation; onFinished resultCode "" :
        Reporting Unit).run heard =
      operation >>= fun resultCode => pure ((), heard ++ [(resultCode, "")]) := by
  simp [onFinished]

/-- A request for all users does what it does for each of them, and then tells
the client what that comes to. -/
theorem perform_run (request : UserRequest)
    (everyUser : installParam.userId = allUserId)
    (heard : List (ErrCode × String)) :
    (request.perform order dataMgr installParam).run heard =
      request.outcomes order dataMgr installParam >>= fun outcomes =>
        pure ((), heard ++ [(request.result outcomes, "")]) := by
  cases request with
  | install bundleFilePath =>
      exact (run_report heard).trans (by
        rw [installForUsers_eq everyUser, bind_assoc]
        rfl)
  | recover bundleName =>
      exact (run_report heard).trans (by
        rw [installForUsers_eq everyUser, bind_assoc]
        rfl)
  | installPaths bundleFilePaths =>
      exact (run_report heard).trans (by
        rw [installForUsers_eq everyUser, bind_assoc]
        rfl)
  | uninstall bundleName =>
      exact (run_report heard).trans (by
        rw [uninstallForUsers_eq everyUser, bind_assoc]
        rfl)
  | uninstallModule bundleName modulePackage =>
      exact (run_report heard).trans (by
        rw [uninstallForUsers_eq everyUser, bind_assoc]
        rfl)

/-- The request has done for a user what it is for; a user who had nothing to
uninstall was not meant. -/
def IsDone (request : UserRequest) (outcome : ErrCode) : Prop :=
  outcome = .ok ∨ (request.isUninstall = true ∧ hadNothing outcome = true)

/-- The client hears of one final result, and of success only if the request is
done for every user. -/
def ReportsTruthfully (request : UserRequest) (outcomes : List ErrCode)
    (heard : List (ErrCode × String)) : Prop :=
  heard.length = 1 ∧
    (ErrCode.ok ∈ heard.map Prod.fst →
      ∀ outcome ∈ outcomes, request.IsDone outcome)

/-- Nothing failed, if what is looked for is not found. -/
theorem firstFailure_eq_ok_iff {outcomes : List ErrCode} :
    firstFailure outcomes = .ok ↔
      ∀ outcome ∈ outcomes, hadNothing outcome = true ∨ outcome = .ok := by
  induction outcomes with
  | nil => simp [firstFailure]
  | cons err rest ih =>
      by_cases passed : hadNothing err = true ∨ err = .ok
      · have tolerated : (hadNothing err || err == .ok) = true := by
          simpa using passed
        simp [firstFailure, tolerated, ih, passed]
      · have refused : (hadNothing err || err == .ok) = false := by
          simpa using passed
        rw [firstFailure, if_pos (by simp [refused]), List.forall_mem_cons]
        exact iff_of_false (fun isOk => passed (.inr isOk))
          fun both => passed both.1

/-- An uninstallation is reported as done only where it is. -/
theorem uninstallResult_eq_ok {outcomes : List ErrCode}
    (reported : uninstallResult outcomes = .ok) :
    ∀ outcome ∈ outcomes, hadNothing outcome = true ∨ outcome = .ok := by
  by_cases someOk : ErrCode.ok ∈ outcomes
  · rw [uninstallResult, if_pos someOk] at reported
    exact firstFailure_eq_ok_iff.mp reported
  · rw [uninstallResult, if_neg someOk] at reported
    cases outcomes with
    | nil => simp
    | cons first rest =>
        exact absurd (reported ▸ List.mem_cons_self) someOk

/-- When success may be reported for these outcomes, it is right, except by an
installation or a recovery whose last user hides an earlier failure. -/
theorem isDone_of_result_eq_ok_iff {request : UserRequest}
    {outcomes : List ErrCode} :
    (request.result outcomes = .ok →
        ∀ outcome ∈ outcomes, request.IsDone outcome) ↔
      request.isUninstall = true ∨ outcomes.getLast? ≠ some .ok ∨
        ∀ outcome ∈ outcomes, outcome = .ok := by
  cases kind : request.isUninstall with
  | true =>
      refine iff_of_true (fun reported outcome member => ?_) (.inl rfl)
      rw [result, if_pos kind] at reported
      rcases uninstallResult_eq_ok reported outcome member with nothing | isOk
      · exact .inr ⟨kind, nothing⟩
      · exact .inl isOk
  | false =>
      have isDone (outcome : ErrCode) :
          request.IsDone outcome ↔ outcome = .ok := by
        simp [IsDone, kind]
      have reported : request.result outcomes = outcomes.getLast?.getD .ok := by
        simp [result, kind]
      simp only [isDone, reported, Bool.false_eq_true, false_or]
      rcases last : outcomes.getLast? with _ | code
      · simp [List.getLast?_eq_none_iff.mp last]
      · simp only [Option.getD_some, ne_eq, Option.some.injEq]
        exact imp_iff_not_or

end UserRequest

open UserRequest in
/-- A request for all users reports one final result, and truthfully, exactly if
it is an uninstallation, its last user fails, or no user does. -/
theorem bundleInstaller_reportsTruthfully_iff (request : UserRequest)
    (order : MapOrder) (dataMgr : Option BundleDataMgr)
    (installParam : InstallParam) (env : Environment bundleService)
    (world : World) (everyUser : installParam.userId = allUserId)
    (outcomes : List ErrCode)
    (ended : (run bundleService env
      (request.outcomes order dataMgr installParam) 0 world).value =
        some outcomes) :
    ∃ heard, (run bundleService env
        ((request.perform order dataMgr installParam).run []) 0 world).value =
          some ((), heard) ∧
      (request.ReportsTruthfully outcomes heard ↔
        request.isUninstall = true ∨ outcomes.getLast? ≠ some .ok ∨
          ∀ outcome ∈ outcomes, outcome = .ok) := by
  refine ⟨[(request.result outcomes, "")], ?_, ?_⟩
  · rw [perform_run request everyUser, run_bind ended]
    rfl
  · rw [← isDone_of_result_eq_ok_iff]
    simp [ReportsTruthfully, eq_comm]

/-- Two users, and a preinstalled bundle that neither of them has. -/
def twoUsers : World where
  dataMgr := {
    bundleInfos := (∅ : StringMap InnerBundleInfo).insert "com.example.demo" {
      baseApplicationInfo := { bundleName := "com.example.demo" } }
    installStates :=
      (∅ : StringMap InstallState).insert "com.example.demo" .installSuccess
    multiUserIdsSet := (∅ : Std.ExtTreeSet Int32).insert 100 |>.insert 101 }

/-- The data directory of the first user cannot be created. -/
def firstUserFails : Environment bundleService
  | _, .external (.createBundleDataDir _ userId _ _ _) =>
      if userId = 100 then ErrCode.installdCreateDirFailed else ErrCode.ok
  | _, command => command.plainAnswer

theorem bundleInstaller_reportsTruthfully_iff_twoUsers :
    ∃ heard, (run bundleService firstUserFails
        (((UserRequest.recover "com.example.demo").perform
          ⟨id, fun _ => .refl _⟩ (some twoUsers.dataMgr)
          { userId := allUserId }).run []) 0 twoUsers).value =
          some ((), heard) ∧
      ((UserRequest.recover "com.example.demo").ReportsTruthfully
          [.installdCreateDirFailed, .ok] heard ↔
        (UserRequest.recover "com.example.demo").isUninstall = true ∨
          [ErrCode.installdCreateDirFailed, .ok].getLast? ≠ some .ok ∨
            ∀ outcome ∈ [ErrCode.installdCreateDirFailed, .ok],
              outcome = .ok) :=
  bundleInstaller_reportsTruthfully_iff (.recover "com.example.demo")
    ⟨id, fun _ => .refl _⟩ (some twoUsers.dataMgr) { userId := allUserId }
    firstUserFails twoUsers rfl [.installdCreateDirFailed, .ok]
    (by decide +kernel)

/-- The bundle is recovered for the second user and not for the first, and the
client hears that it is recovered. -/
theorem bundleInstaller_not_reportsTruthfully :
    (run bundleService firstUserFails
        ((UserRequest.recover "com.example.demo").outcomes
          ⟨id, fun _ => .refl _⟩ (some twoUsers.dataMgr)
          { userId := allUserId }) 0 twoUsers).value =
        some [.installdCreateDirFailed, .ok] ∧
      (run bundleService firstUserFails
        (((UserRequest.recover "com.example.demo").perform
          ⟨id, fun _ => .refl _⟩ (some twoUsers.dataMgr)
          { userId := allUserId }).run []) 0 twoUsers).value =
        some ((), [(.ok, "")]) ∧
      ¬ (UserRequest.recover "com.example.demo").ReportsTruthfully
        [.installdCreateDirFailed, .ok] [(.ok, "")] := by
  refine ⟨by decide +kernel, by decide +kernel, ?_⟩
  rintro ⟨-, truthful⟩
  rcases truthful (by decide) .installdCreateDirFailed (by decide) with
    isOk | ⟨isUninstall, -⟩
  · exact absurd isOk (by decide)
  · exact absurd isUninstall (by decide)

end AppExecFwk
