import AppExecFwk.Codec.StoredEntries
import AppExecFwk.Installer.BundleInstall
import AppExecFwk.Library.Interruption

/-!
# Loading the stored records

When the service starts it reads every entry of the storage, deletes those that
cannot be decoded, goes on with what an installer had left unfinished, forgets
the sandbox applications, and moves an entry that is kept under an old key to
the name of its bundle.  Every access to the storage and every request to
another process is one step, so that a start can be cut short between any two.
-/

namespace AppExecFwk

open CommandProgram

/-- The entries of the storage; a text that is no document has no value. -/
abbrev StoredValues := StringMap (Option Json)

/-- The order in which the storage returns its entries. -/
structure EntryOrder where
  arrange : List (String × Option Json) → List (String × Option Json)
  perm : ∀ entries, (arrange entries).Perm entries

/-- One step of loading. -/
inductive LoadCommand where
  | getEntries
  | put (info : InnerBundleInfo)
  | delete (key : String)
  | ask (request : Request)

namespace LoadCommand

abbrev Result : LoadCommand → Type
  | getEntries => Option (List Entry)
  | put _ | delete _ => Bool
  | ask request => request.Reply

/-- What the environment decides about a step: a storage may fail to return its
entries, or return them in any order, and refuse a write. -/
abbrev Answer : LoadCommand → Type
  | getEntries => Option EntryOrder
  | put _ | delete _ => Bool
  | ask request => request.Reply

def perform : (command : LoadCommand) → command.Answer → StoredValues →
    command.Result × StoredValues
  | getEntries, order, values =>
      (order.map fun order => (order.arrange values.toList).map fun entry =>
        ⟨entry.1, entry.2⟩, values)
  | put info, accepted, values =>
      (accepted, if accepted then
        values.insert info.getBundleName (some info.toJson) else values)
  | delete key, accepted, values =>
      (accepted, if accepted then values.erase key else values)
  | ask _, reply, values => (reply, values)

end LoadCommand

/-- The storage of the records. -/
abbrev recordStorage : System LoadCommand LoadCommand.Result where
  World := StoredValues
  Answer := LoadCommand.Answer
  perform := LoadCommand.perform

abbrev LoadOperation := Program LoadCommand LoadCommand.Result

namespace LoadOperation

def getEntries : LoadOperation (Option (List Entry)) :=
  .perform LoadCommand.getEntries

def saveStorageBundleInfo (info : InnerBundleInfo) : LoadOperation Bool :=
  .perform (LoadCommand.put info)

def deleteKey (key : String) : LoadOperation Bool :=
  .perform (LoadCommand.delete key)

def ask (request : Request) : LoadOperation request.Reply :=
  .perform (LoadCommand.ask request)

end LoadOperation

open LoadOperation

namespace BundleExceptionHandler

/-- The directories of an interrupted installation, as the handler writes them:
no separator stands between the directory of the bundles and the name. -/
def appCodePath (info : InnerBundleInfo) : String :=
  BaseBundleInstaller.bundleCodeDir ++ info.getBundleName

def moduleDir (info : InnerBundleInfo) : String :=
  appCodePath info ++ "/" ++ info.mark.packageName

def moduleDataDir (info : InnerBundleInfo) : String :=
  info.getBundleName ++ "/haps/" ++ info.mark.packageName

def removeBundleAndDataDir (bundleDir bundleOrModuleDir : String)
    (userId : Int32) : LoadOperation Bool := do
  let result ← ask (.removeDir bundleDir)
  if result ≠ .ok then
    return false
  if Text.contains bundleOrModuleDir "/haps/" then
    return (← ask (.removeModuleDataDir bundleOrModuleDir userId)) = .ok
  return (← ask (.removeBundleDataDir bundleOrModuleDir userId)) = .ok

/-- Remove a bundle; it is invalid only if its directories went. -/
def removeInvalidBundle (info : InnerBundleInfo) : LoadOperation Bool := do
  if ← removeBundleAndDataDir (appCodePath info) info.getBundleName info.userId then
    let _ ← deleteKey info.getBundleName
    return true
  return false

/-- The mark of a record that is finished. -/
def finish (info : InnerBundleInfo) : InnerBundleInfo :=
  info.setInstallMark info.mark.bundleName info.mark.packageName .installFinish

/-- Go on with what the mark of a record says was going on; returns the record
and whether the bundle is valid. -/
def handleInvalidBundle (info : InnerBundleInfo) :
    LoadOperation (InnerBundleInfo × Bool) := do
  let status := info.mark.status
  if status = InstallExceptionStatus.installFinish.toInt32 then
    return (info, true)
  if status = InstallExceptionStatus.installStart.toInt32 then
    return (info, !(← removeInvalidBundle info))
  if status = InstallExceptionStatus.updatingExistedStart.toInt32 then
    if (← ask (.removeDir (moduleDir info ++ "_tmp"))) = .ok then
      return ((finish info).setBundleStatus .enabled, true)
    return (info, true)
  if status = InstallExceptionStatus.updatingNewStart.toInt32 then
    if ← removeBundleAndDataDir (moduleDir info) (moduleDataDir info) info.userId then
      return ((finish info).setBundleStatus .enabled, true)
    return (info, true)
  if status = InstallExceptionStatus.uninstallBundleStart.toInt32 then
    return (info, !(← removeInvalidBundle info))
  if status = InstallExceptionStatus.uninstallPackageStart.toInt32 then
    -- Where the directories of the only module stay, its record goes all the same.
    if info.isOnlyModule info.mark.packageName then
      if ← removeInvalidBundle info then
        return (info, false)
    if ← removeBundleAndDataDir (moduleDir info) (moduleDataDir info) info.userId then
      return ((finish (info.removeModuleInfo info.mark.packageName)).setBundleStatus
        .enabled, true)
    return (info, true)
  if status = InstallExceptionStatus.updatingFinish.toInt32 then
    if (← ask (.renameModuleDir (moduleDir info ++ "_tmp") (moduleDir info))) = .ok then
      return (finish info, true)
    return (info, true)
  return (info, true)

end BundleExceptionHandler

namespace BundleSandboxExceptionHandler

/-- What a thread of its own does, which shares nothing with the loading. -/
def removeSandboxDataDirAndTokenId (bundleName : String)
    (sandboxPersistentInfo : List SandboxAppPersistentInfo) :
    LoadOperation PUnit :=
  sandboxPersistentInfo.forM fun sandboxInfo =>
    if sandboxInfo.appIndex ≤ 0 then pure ()
    else do
      let _ ← ask (.deleteAccessTokenId sandboxInfo.accessTokenId)
      let _ ← ask (.removeBundleDataDir
        (bundleName ++ "_" ++ toString sandboxInfo.appIndex) sandboxInfo.userId)
      return ()

/-- Forget the sandbox applications of a bundle.  The record is saved without
them even if the bundle has just been removed. -/
def removeSandboxApp (info : InnerBundleInfo) : LoadOperation InnerBundleInfo := do
  if info.sandboxPersistentInfo = [] then
    return info
  let cleared := info.clearSandboxPersistentInfo
  let _ ← saveStorageBundleInfo cleared
  removeSandboxDataDirAndTokenId info.getBundleName info.sandboxPersistentInfo
  return cleared

end BundleSandboxExceptionHandler

namespace BundleDataStorageDatabase

/-- What has been loaded so far: the result variables, the records, and those
that are kept under an old key. -/
structure Loaded where
  results : ParseResults := {}
  infos : StringMap InnerBundleInfo := ∅
  updateInfos : StringMap InnerBundleInfo := ∅

/-- Keep a record; the first one of its name stays. -/
def keepInfo (loaded : Loaded) (key : String) (info : InnerBundleInfo) : Loaded :=
  { loaded with
    infos := loaded.infos.insertIfNew info.getBundleName info
    updateInfos :=
      if key ≠ info.getBundleName then loaded.updateInfos.insertIfNew key info
      else loaded.updateInfos }

/-- Load one entry.  An exception of the decoder ends the process. -/
def saveEntry (loaded : Loaded) (entry : Entry) : LoadOperation Loaded :=
  match AppExecFwk.saveEntry entry { loaded.results with here := ErrCode.ok } with
  | (.error _, _) => .halt
  | (.ok none, results) => do
      let _ ← deleteKey entry.key
      return { loaded with results := results }
  | (.ok (some info), results) => do
      let loaded := { loaded with results := results }
      let (info, isBundleValid) ← BundleExceptionHandler.handleInvalidBundle info
      let info ← BundleSandboxExceptionHandler.removeSandboxApp info
      if isBundleValid then
        return keepInfo loaded entry.key info
      return loaded

/-- Save a record under its name and delete the entry under its old key. -/
def updateEntry (item : String × InnerBundleInfo) : LoadOperation PUnit := do
  if ← saveStorageBundleInfo item.2 then
    let _ ← deleteKey item.1
    return ()

def updateDataBase (infos : StringMap InnerBundleInfo) : LoadOperation PUnit :=
  infos.toList.forM updateEntry

def saveEntries (allEntries : List Entry) :
    LoadOperation (StringMap InnerBundleInfo) := do
  let loaded ← allEntries.foldlM saveEntry {}
  updateDataBase loaded.updateInfos
  return loaded.infos

/-- Load all records; nothing is loaded if the storage does not return its
entries. -/
def loadAllData : LoadOperation (Option (StringMap InnerBundleInfo)) := do
  match ← getEntries with
  | none => return none
  | some allEntries => return some (← saveEntries allEntries)

end BundleDataStorageDatabase

end AppExecFwk
