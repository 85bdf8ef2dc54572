import AppExecFwk.Installer.BundleInstall
import AppExecFwk.Permission.BundlePermissionMgr
import Mathlib.Data.Option.Basic
import Mathlib.Logic.Relation

/-!
# The permissions of a bundle through its versions

An installed bundle gives each of its users a token.  The first package, a new
user, a package in the place of an installed module, a new module and the
removal of the modules a newer version has not brought along each change the
record of the bundle and, for every user, the lists of the token.  The steps
here are those of the installer that succeed, as far as permissions depend on
them: files, install marks and times are left out.
-/

namespace AppExecFwk

open BundlePermissionMgr

/-- The record of a bundle, if it is installed, and the state of the access
token service. -/
structure InstalledBundle (Store : Type) where
  info : Option InnerBundleInfo := none
  store : Store

/-- What the installer may do to a bundle. -/
inductive VersionEvent where
  | installBundle (newInfo : InnerBundleInfo) (userId : Int32)
      (isFreeInstall : Bool)
  | addUser (userId : Int32)
  | updateModule (newInfo : InnerBundleInfo)
  | addModule (newInfo : InnerBundleInfo)
  | uninstallLowerVersionFeature (packageVec : List String)

namespace InnerBundleInfo

variable (info : InnerBundleInfo)

/-- The tokens of the users of a bundle. -/
def tokens : List UInt32 :=
  (info.innerBundleUserInfos.toList.map (·.2.accessTokenId)).filter (· ≠ 0)

/-- The record without the modules that are not among the packages. -/
def withoutLowerVersions (packageVec : List String) : InnerBundleInfo :=
  (info.getModuleNameVec.filter (· ∉ packageVec)).foldl
    (fun info package =>
      (info.removeModuleInfo package).setBundleStatus .enabled) info

end InnerBundleInfo

namespace InstalledBundle

variable {Store : Type} (kit : AccessTokenKit Store)
  (defaultPermissions : StringMap (StringMap Bool))

/-- Make the token of a user that the record has, and grant it all that the
bundle requests. -/
def withNewToken (info : InnerBundleInfo) (userId : Int32) (store : Store) :
    Option (InnerBundleInfo × Store) := do
  let (tokenId, store) :=
    createAccessTokenId kit info info.getBundleName userId 0 store
  let info := info.setAccessTokenId tokenId userId
  let store ← grantAllRequestPermissions kit defaultPermissions info tokenId store
  return (info, store)

/-- Change the lists of the tokens of a bundle, one after another, and grant
each what is new in them. -/
def changeTokens (grantee : InnerBundleInfo)
    (change : UInt32 → Store → Option (Store × List String)) :
    List (String × InnerBundleUserInfo) → Store → Option Store
  | [], store => some store
  | (_, user) :: rest, store =>
      if user.accessTokenId = 0 then changeTokens grantee change rest store
      else do
        let (store, newRequestPermName) ← change user.accessTokenId store
        let store ← grantRequestPermissions kit defaultPermissions grantee
          newRequestPermName user.accessTokenId store
        changeTokens grantee change rest store

/-- A version of the record takes the place of another. -/
def updateTokens (oldInfo newInfo : InnerBundleInfo) (store : Store) :
    Option (InstalledBundle Store) := do
  let store ← changeTokens kit defaultPermissions newInfo
    (fun tokenId store =>
      updateDefineAndRequestPermissions kit tokenId store oldInfo newInfo)
    newInfo.innerBundleUserInfos.toList store
  return ⟨some newInfo, store⟩

/-- A module comes to the record. -/
def addToTokens (oldInfo newInfo : InnerBundleInfo) (store : Store) :
    Option (InstalledBundle Store) := do
  let store ← changeTokens kit defaultPermissions newInfo
    (fun tokenId store => addDefineAndRequestPermissions kit tokenId store newInfo)
    oldInfo.innerBundleUserInfos.toList store
  return ⟨some (BundleDataMgr.withNewModule newInfo oldInfo), store⟩

/-- One step of the installer that succeeds. -/
def step (bundle : InstalledBundle Store) :
    VersionEvent → Option (InstalledBundle Store)
  | .installBundle newInfo userId isFreeInstall =>
      -- The record of a package that has just been parsed has no users.
      if bundle.info.isNone ∧ newInfo.innerBundleUserInfos.isEmpty then do
        let (info, store) ← withNewToken kit defaultPermissions
          ((newInfo.addInnerBundleUserInfo (BaseBundleInstaller.newUserInfo
            newInfo.getBundleName userId)).setIsFreeInstallApp isFreeInstall)
          userId bundle.store
        return ⟨some info, store⟩
      else none
  | .addUser userId => do
      let oldInfo ← bundle.info
      if oldInfo.hasInnerBundleUserInfo userId then none
      else do
        let (info, store) ← withNewToken kit defaultPermissions
          (oldInfo.addInnerBundleUserInfo (BaseBundleInstaller.newUserInfo
            oldInfo.getBundleName userId)) userId bundle.store
        return ⟨some (info.setBundleStatus .enabled), store⟩
  | .updateModule newInfo => do
      let oldInfo ← bundle.info
      if newInfo.currentPackage ≠ "" ∧
          oldInfo.findModule newInfo.currentPackage then
        updateTokens kit defaultPermissions oldInfo
          (BundleDataMgr.withUpdatedModule newInfo oldInfo) bundle.store
      else none
  | .addModule newInfo => do
      let oldInfo ← bundle.info
      -- A package has one module.
      if newInfo.currentPackage ≠ "" ∧
          !oldInfo.findModule newInfo.currentPackage ∧
          newInfo.getModuleNameVec = [newInfo.currentPackage] then
        addToTokens kit defaultPermissions oldInfo newInfo bundle.store
      else none
  | .uninstallLowerVersionFeature packageVec => do
      let oldInfo ← bundle.info
      updateTokens kit defaultPermissions oldInfo
        (oldInfo.withoutLowerVersions packageVec) bundle.store

/-- One step follows another. -/
def Step (before after : InstalledBundle Store) : Prop :=
  ∃ event, before.step kit defaultPermissions event = some after

/-- The steps of a list of events. -/
def run (bundle : InstalledBundle Store) (events : List VersionEvent) :
    Option (InstalledBundle Store) :=
  events.foldlM (step kit defaultPermissions) bundle

end InstalledBundle

section Privileges

variable {Store : Type} (kit : AccessTokenKit Store) (store : Store)
  {info oldInfo brought newInfo : InnerBundleInfo} {name : String}

/-- A bundle of this level and with these exceptions may have the permission,
as the service defines it. -/
def IsGrantable (info : InnerBundleInfo) (name : String) : Prop :=
  ∀ permDef ∈ kit.getDefPermission name store,
    checkGrantPermission permDef info.getAppPrivilegeLevel info.allowedAcls =
      true

/-- What each token of a bundle requests is requested by the bundle. -/
def HasRequestedOnly (info : InnerBundleInfo) : Prop :=
  ∀ tokenId ∈ info.tokens,
    ∀ held ∈ getAllReqPermissionStateFull kit tokenId store,
      ∀ state ∈ held, state.permissionName ∈ info.requestNames

/-- What a token of a bundle has been granted, and the bundle requests, may be
granted to the bundle. -/
def HasGrantableOnly (info : InnerBundleInfo) : Prop :=
  ∀ tokenId ∈ info.tokens,
    ∀ held ∈ getAllReqPermissionStateFull kit tokenId store,
      ∀ state ∈ held, state.isGranted = true →
        state.permissionName ∈ info.requestNames →
          IsGrantable kit store info state.permissionName

/-- No token of the bundle has a permission the bundle does not request any
more, or has been granted one that is above the bundle by now. -/
def InstalledBundle.HasNoStalePrivilege (bundle : InstalledBundle Store) :
    Prop :=
  ∀ info ∈ bundle.info, HasRequestedOnly kit bundle.store info ∧
    HasGrantableOnly kit bundle.store info

/-- The definitions a permission may have once a version has been handed over:
the one it has, and the version's own. -/
def possibleDefs (brought : InnerBundleInfo) (name : String) :
    List PermissionDef :=
  (kit.getDefPermission name store).toList ++
    (getPermissionDefList brought).filter (·.permissionName = name)

/-- What a token of the bundle has been granted already, and the next version
still requests, may be granted to that version. -/
def KeptArePassed (oldInfo brought newInfo : InnerBundleInfo) : Prop :=
  ∀ tokenId ∈ oldInfo.tokens,
    ∀ held ∈ getAllReqPermissionStateFull kit tokenId store,
      ∀ state ∈ held, state.isGranted = true →
        state.permissionName ∈ newInfo.requestNames →
          ∀ permDef ∈ possibleDefs kit store brought state.permissionName,
            checkGrantPermission permDef newInfo.getAppPrivilegeLevel
              newInfo.allowedAcls = true

/-- What a module requests first, and passes the level of the module, passes
the level of the bundle. -/
def AddedArePassed (oldInfo brought newInfo : InnerBundleInfo) : Prop :=
  ∀ name ∈ brought.requestNames, name ∉ oldInfo.requestNames →
    ∀ permDef ∈ possibleDefs kit store brought name,
      checkGrantPermission permDef brought.getAppPrivilegeLevel
          brought.allowedAcls = true →
        checkGrantPermission permDef newInfo.getAppPrivilegeLevel
          newInfo.allowedAcls = true

/-- A step of the installer at which nothing a token keeps, and nothing a module
is granted, is above the bundle afterwards. -/
def InstalledBundle.IsChecked (bundle : InstalledBundle Store) :
    VersionEvent → Prop
  | .installBundle _ _ _ | .addUser _ => True
  | .updateModule newInfo => ∀ oldInfo ∈ bundle.info,
      KeptArePassed kit bundle.store oldInfo
        (BundleDataMgr.withUpdatedModule newInfo oldInfo)
        (BundleDataMgr.withUpdatedModule newInfo oldInfo)
  | .addModule newInfo => ∀ oldInfo ∈ bundle.info,
      KeptArePassed kit bundle.store oldInfo newInfo
          (BundleDataMgr.withNewModule newInfo oldInfo) ∧
        AddedArePassed kit bundle.store oldInfo newInfo
          (BundleDataMgr.withNewModule newInfo oldInfo)
  | .uninstallLowerVersionFeature packageVec => ∀ oldInfo ∈ bundle.info,
      KeptArePassed kit bundle.store oldInfo
        (oldInfo.withoutLowerVersions packageVec)
        (oldInfo.withoutLowerVersions packageVec)

instance : Decidable (IsGrantable kit store info name) :=
  inferInstanceAs (Decidable (∀ permDef ∈ kit.getDefPermission name store, _))

-- The list of the tokens is searched, not the finite type they are of.
instance : Decidable (HasRequestedOnly kit store info) :=
  List.decidableBAll (fun tokenId =>
    ∀ held ∈ getAllReqPermissionStateFull kit tokenId store,
      ∀ state ∈ held, state.permissionName ∈ info.requestNames) info.tokens

instance : Decidable (HasGrantableOnly kit store info) :=
  List.decidableBAll (fun tokenId =>
    ∀ held ∈ getAllReqPermissionStateFull kit tokenId store,
      ∀ state ∈ held, state.isGranted = true →
        state.permissionName ∈ info.requestNames →
          IsGrantable kit store info state.permissionName) info.tokens

instance : Decidable (KeptArePassed kit store oldInfo brought newInfo) :=
  List.decidableBAll (fun tokenId =>
    ∀ held ∈ getAllReqPermissionStateFull kit tokenId store,
      ∀ state ∈ held, state.isGranted = true →
        state.permissionName ∈ newInfo.requestNames →
          ∀ permDef ∈ possibleDefs kit store brought state.permissionName,
            checkGrantPermission permDef newInfo.getAppPrivilegeLevel
              newInfo.allowedAcls = true) oldInfo.tokens

instance : Decidable (AddedArePassed kit store oldInfo brought newInfo) :=
  inferInstanceAs (Decidable (∀ name ∈ brought.requestNames, _))

instance (bundle : InstalledBundle Store) :
    Decidable (bundle.HasNoStalePrivilege kit) :=
  inferInstanceAs (Decidable (∀ info ∈ bundle.info, _))

instance (bundle : InstalledBundle Store) :
    DecidablePred (bundle.IsChecked kit)
  | .installBundle _ _ _ | .addUser _ => instDecidableTrue
  | .updateModule _ | .addModule _ | .uninstallLowerVersionFeature _ =>
      inferInstanceAs (Decidable (∀ oldInfo ∈ bundle.info, _))

/-- A step at which all is checked. -/
def InstalledBundle.CheckedStep
    (defaultPermissions : StringMap (StringMap Bool))
    (before after : InstalledBundle Store) : Prop :=
  ∃ event, before.step kit defaultPermissions event = some after ∧
    before.IsChecked kit event

namespace InstalledBundle

variable (defaultPermissions : StringMap (StringMap Bool))

/-- All the steps of a list of events are checked. -/
def AreChecked (bundle : InstalledBundle Store) : List VersionEvent → Prop
  | [] => True
  | event :: rest => bundle.IsChecked kit event ∧
      ∀ next ∈ bundle.step kit defaultPermissions event, next.AreChecked rest

instance decidableAreChecked (bundle : InstalledBundle Store) :
    DecidablePred (bundle.AreChecked kit defaultPermissions)
  | [] => instDecidableTrue
  | event :: rest =>
      have (next : InstalledBundle Store) :
          Decidable (next.AreChecked kit defaultPermissions rest) :=
        next.decidableAreChecked rest
      inferInstanceAs (Decidable (bundle.IsChecked kit event ∧
        ∀ next ∈ bundle.step kit defaultPermissions event,
          next.AreChecked kit defaultPermissions rest))

variable {kit defaultPermissions} {bundle next : InstalledBundle Store}
  {events : List VersionEvent}

theorem reached_of_run
    (ends : bundle.run kit defaultPermissions events = some next) :
    Relation.ReflTransGen (Step kit defaultPermissions) bundle next := by
  induction events generalizing bundle with
  | nil =>
      obtain rfl := Option.some.inj ends
      exact .refl
  | cons event rest ih =>
      rw [run, List.foldlM_cons] at ends
      obtain ⟨middle, stepped, ends⟩ := Option.bind_eq_some_iff.mp ends
      exact .head ⟨event, stepped⟩ (ih ends)

theorem checkedReached_of_run
    (checked : bundle.AreChecked kit defaultPermissions events)
    (ends : bundle.run kit defaultPermissions events = some next) :
    Relation.ReflTransGen (CheckedStep kit defaultPermissions) bundle next := by
  induction events generalizing bundle with
  | nil =>
      obtain rfl := Option.some.inj ends
      exact .refl
  | cons event rest ih =>
      rw [run, List.foldlM_cons] at ends
      obtain ⟨middle, stepped, ends⟩ := Option.bind_eq_some_iff.mp ends
      exact .head ⟨event, stepped, checked.1⟩ (ih (checked.2 _ stepped) ends)

end InstalledBundle

end Privileges

end AppExecFwk
