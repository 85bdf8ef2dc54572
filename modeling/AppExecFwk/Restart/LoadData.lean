import AppExecFwk.Restart.Recovery
import AppExecFwk.Store.BundleIds
import AppExecFwk.Store.BundleStateStorage

/-!
# The start of the bundle data manager

At its start the manager takes over the records that were loaded: every bundle is
installed, its users are known and its id is in use.  Then the switches are taken
from the storage of their own, which is younger than the records; where there is
none yet, those of the records stay.
-/

namespace AppExecFwk

open CommandProgram

namespace InnerBundleInfo

/-- Switch off what was switched off for one user.  An ability that is not there
any more is passed over. -/
def restoreUserState (info : InnerBundleInfo) (bundleName : String)
    (userState : Int32 × BundleUserInfo) : InnerBundleInfo :=
  userState.2.disabledAbilities.foldl
    (fun info disabledAbility =>
      (info.setAbilityEnabled bundleName "" disabledAbility false
        userState.1).getD info)
    (info.setApplicationEnabled userState.2.enabled userState.1)

end InnerBundleInfo

namespace BundleDataMgr

variable (mgr : BundleDataMgr)

/-- Every bundle that was loaded is installed. -/
def emplaceInstallStates : BundleDataMgr :=
  { mgr with
    installStates := mgr.bundleInfos.keys.foldl
      (fun states bundleName => states.insertIfNew bundleName .installSuccess)
      mgr.installStates }

def resetBundleStateData : BundleDataMgr :=
  { mgr with
    bundleInfos := mgr.bundleInfos.map fun _ info =>
      info.resetBundleState allUserId }

/-- The states of one bundle; a bundle that is not there is passed over. -/
def restoreBundleState
    (bundleState : String × Std.ExtTreeMap Int32 BundleUserInfo)
    (mgr : BundleDataMgr) : BundleDataMgr :=
  match mgr.bundleInfos[bundleState.1]? with
  | none => mgr
  | some info =>
      mgr.putInfo bundleState.1 (bundleState.2.toList.foldl
        (fun info userState => info.restoreUserState bundleState.1 userState)
        info)

def loadAllBundleStateDataFromJsonDb (bundleStateInfos : StateInfos) :
    BundleDataMgr :=
  bundleStateInfos.toList.foldl (fun mgr state => restoreBundleState state mgr) mgr

/-- Take over the records.  There are states only if their storage was there
before. -/
def takeOver (infos : StringMap InnerBundleInfo)
    (preInstallBundleInfos : List PreInstallBundleInfo)
    (bundleStateInfos : Option StateInfos) : BundleDataMgr :=
  let mgr := ({ mgr with bundleInfos := infos } : BundleDataMgr).emplaceInstallStates
  let mgr := { mgr with preInstallBundleInfos := preInstallBundleInfos }
  let mgr := mgr.restoreUidAndGid
  match bundleStateInfos with
  | none => mgr
  | some bundleStateInfos =>
      mgr.resetBundleStateData.loadAllBundleStateDataFromJsonDb bundleStateInfos

/-- Start from the storages.  What those of the preinstalled bundles and of the
states return is handed in. -/
def loadDataFromPersistentStorage
    (preInstallBundleInfos : List PreInstallBundleInfo)
    (bundleStateInfos : Option StateInfos) :
    LoadOperation (Bool × BundleDataMgr) := do
  match ← BundleDataStorageDatabase.loadAllData with
  | none => return (false, mgr)
  | some infos =>
      if infos.isEmpty then
        return (false, { mgr with bundleInfos := infos })
      return (true, mgr.takeOver infos preInstallBundleInfos bundleStateInfos)

end BundleDataMgr

end AppExecFwk
