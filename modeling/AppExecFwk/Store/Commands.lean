import AppExecFwk.Library.Program
import AppExecFwk.Store.BundleDataMgr
import AppExecFwk.Store.BundleSandboxDataMgr

/-!
# The commands of the bundle service

The installers work on the two stores through their methods, each of which is
one atomic step, and through requests to other processes: the file-system
service, the permission manager, the verifier and the package parser.  What
those answer, and what the storage answers, is left to the environment.
-/

namespace AppExecFwk

open CommandProgram

/-- A call of the bundle data manager. -/
inductive StoreCommand where
  | hasUserId (userId : Int32)
  | addUserId (userId : Int32)
  | removeUserId (userId : Int32)
  | getInnerBundleInfo (bundleName : String)
  | disableBundle (bundleName : String)
  | enableBundle (bundleName : String)
  | updateBundleInstallState (bundleName : String) (state : InstallState)
  | addInnerBundleInfo (bundleName : String) (info : InnerBundleInfo)
  | saveNewInfoToDB (bundleName : String) (info : InnerBundleInfo)
      (time : Int64)
  | addNewModuleInfo (bundleName : String) (newInfo oldInfo : InnerBundleInfo)
  | removeModuleInfo (bundleName modulePackage : String)
      (oldInfo : InnerBundleInfo)
  | updateInnerBundleInfo (bundleName : String)
      (newInfo oldInfo : InnerBundleInfo)
  | addInnerBundleUserInfo (bundleName : String)
      (newUserInfo : InnerBundleUserInfo)
  | removeInnerBundleUserInfo (bundleName : String) (userId : Int32)
  | saveInnerBundleInfo (info : InnerBundleInfo)
  | setApplicationEnabled (bundleName : String) (isEnable : Bool)
      (userId callingUserId : Int32)
  | setAbilityEnabled (bundleName moduleName abilityName : String)
      (isEnabled : Bool) (userId callingUserId : Int32)
  | storeSandboxPersistentInfo (bundleName : String)
      (info : SandboxAppPersistentInfo)
  | deleteSandboxPersistentInfo (bundleName : String)
      (info : SandboxAppPersistentInfo)
  | generateUidAndGid (userInfo : InnerBundleUserInfo)
  | recycleUidAndGid (info : InnerBundleInfo)
  | removeClonedBundleInfo (bundleName : String)
  | getClonedBundleName (bundleName : String)
  | getAllUriPrefix (userId : Int32) (excludeModule : String)
  | getPreInstallBundleInfo (bundleName : String)
  | savePreInstallBundleInfo (info : PreInstallBundleInfo)

namespace StoreCommand

/-- What a call returns. -/
abbrev Result : StoreCommand → Type
  | addUserId _ | removeUserId _ | storeSandboxPersistentInfo _ _
  | deleteSandboxPersistentInfo _ _ | recycleUidAndGid _ => Unit
  | getInnerBundleInfo _ => Option InnerBundleInfo
  | saveNewInfoToDB _ _ _ | addNewModuleInfo _ _ _ | removeModuleInfo _ _ _
  | updateInnerBundleInfo _ _ _ => Bool × InnerBundleInfo
  | generateUidAndGid _ => Option InnerBundleUserInfo
  | getClonedBundleName _ => Option String
  | getAllUriPrefix _ _ => List String
  | getPreInstallBundleInfo _ => Option PreInstallBundleInfo
  | hasUserId _ | disableBundle _ | enableBundle _
  | updateBundleInstallState _ _ | addInnerBundleInfo _ _
  | addInnerBundleUserInfo _ _ | removeInnerBundleUserInfo _ _
  | saveInnerBundleInfo _ | setApplicationEnabled _ _ _ _
  | setAbilityEnabled _ _ _ _ _ _ | removeClonedBundleInfo _
  | savePreInstallBundleInfo _ => Bool

/-- Make a call; `accepted` tells whether the storage does what the call asks of
it, if it asks anything. -/
def perform : (command : StoreCommand) → (accepted : Bool) → BundleDataMgr →
    command.Result × BundleDataMgr
  | hasUserId userId, _, mgr => (mgr.hasUserId userId, mgr)
  | addUserId userId, _, mgr => ((), mgr.addUserId userId)
  | removeUserId userId, _, mgr => ((), mgr.removeUserId userId)
  | getInnerBundleInfo bundleName, _, mgr => mgr.getInnerBundleInfo bundleName
  | disableBundle bundleName, _, mgr => mgr.disableBundle bundleName
  | enableBundle bundleName, _, mgr => mgr.enableBundle bundleName
  | updateBundleInstallState bundleName state, accepted, mgr =>
      mgr.updateBundleInstallState bundleName state accepted
  | addInnerBundleInfo bundleName info, accepted, mgr =>
      mgr.addInnerBundleInfo bundleName info accepted
  | saveNewInfoToDB bundleName info time, accepted, mgr =>
      let (saved, info, mgr) := mgr.saveNewInfoToDB bundleName info time accepted
      ((saved, info), mgr)
  | addNewModuleInfo bundleName newInfo oldInfo, accepted, mgr =>
      let (added, oldInfo, mgr) :=
        mgr.addNewModuleInfo bundleName newInfo oldInfo accepted
      ((added, oldInfo), mgr)
  | removeModuleInfo bundleName modulePackage oldInfo, accepted, mgr =>
      let (removed, oldInfo, mgr) :=
        mgr.removeModuleInfo bundleName modulePackage oldInfo accepted
      ((removed, oldInfo), mgr)
  | updateInnerBundleInfo bundleName newInfo oldInfo, accepted, mgr =>
      let (updated, oldInfo, mgr) :=
        mgr.updateInnerBundleInfo bundleName newInfo oldInfo accepted
      ((updated, oldInfo), mgr)
  | addInnerBundleUserInfo bundleName newUserInfo, accepted, mgr =>
      mgr.addInnerBundleUserInfo bundleName newUserInfo accepted
  | removeInnerBundleUserInfo bundleName userId, accepted, mgr =>
      mgr.removeInnerBundleUserInfo bundleName userId accepted
  | saveInnerBundleInfo info, accepted, mgr =>
      mgr.saveInnerBundleInfo info accepted
  | setApplicationEnabled bundleName isEnable userId callingUserId, _, mgr =>
      mgr.setApplicationEnabled bundleName isEnable userId callingUserId
  | setAbilityEnabled bundleName moduleName abilityName isEnabled userId
      callingUserId, _, mgr =>
      mgr.setAbilityEnabled bundleName moduleName abilityName isEnabled userId
        callingUserId
  | storeSandboxPersistentInfo bundleName info, accepted, mgr =>
      ((), mgr.storeSandboxPersistentInfo bundleName info accepted)
  | deleteSandboxPersistentInfo bundleName info, accepted, mgr =>
      ((), mgr.deleteSandboxPersistentInfo bundleName info accepted)
  | generateUidAndGid userInfo, _, mgr => mgr.generateUidAndGid userInfo
  | recycleUidAndGid info, _, mgr => ((), mgr.recycleUidAndGid info)
  | removeClonedBundleInfo bundleName, accepted, mgr =>
      mgr.removeClonedBundleInfo bundleName accepted
  | getClonedBundleName bundleName, _, mgr =>
      (mgr.getClonedBundleName bundleName, mgr)
  | getAllUriPrefix userId excludeModule, _, mgr =>
      (mgr.getAllUriPrefix userId excludeModule, mgr)
  | getPreInstallBundleInfo bundleName, _, mgr =>
      (mgr.getPreInstallBundleInfo bundleName, mgr)
  | savePreInstallBundleInfo info, accepted, mgr =>
      mgr.savePreInstallBundleInfo info accepted

end StoreCommand

/-- The order in which an unordered map is iterated. -/
structure MapOrder where
  arrange : List (String × InnerBundleInfo) → List (String × InnerBundleInfo)
  perm : ∀ entries, (arrange entries).Perm entries

/-- A call of the sandbox data manager. -/
inductive SandboxCommand where
  | saveSandboxAppInfo (info : InnerBundleInfo) (appIndex : Int32)
  | deleteSandboxAppInfo (bundleName : String) (appIndex : Int32)
  | getSandboxAppInfo (bundleName : String) (appIndex userId : Int32)
  | generateSandboxAppIndex (bundleName : String)
  | deleteSandboxAppIndex (bundleName : String) (appIndex : Int32)
  | getSandboxAppInfoMap

namespace SandboxCommand

abbrev Result : SandboxCommand → Type
  | saveSandboxAppInfo _ _ | deleteSandboxAppInfo _ _ => Unit
  | getSandboxAppInfo _ _ _ => Except ErrCode InnerBundleInfo
  | generateSandboxAppIndex _ => Int32
  | deleteSandboxAppIndex _ _ => Bool
  | getSandboxAppInfoMap => List (String × InnerBundleInfo)

def perform : (command : SandboxCommand) → MapOrder → BundleSandboxDataMgr →
    command.Result × BundleSandboxDataMgr
  | saveSandboxAppInfo info appIndex, _, mgr =>
      ((), mgr.saveSandboxAppInfo info appIndex)
  | deleteSandboxAppInfo bundleName appIndex, _, mgr =>
      ((), mgr.deleteSandboxAppInfo bundleName appIndex)
  | getSandboxAppInfo bundleName appIndex userId, _, mgr =>
      (mgr.getSandboxAppInfo bundleName appIndex userId, mgr)
  | generateSandboxAppIndex bundleName, _, mgr =>
      mgr.generateSandboxAppIndex bundleName
  | deleteSandboxAppIndex bundleName appIndex, _, mgr =>
      mgr.deleteSandboxAppIndex bundleName appIndex
  | getSandboxAppInfoMap, order, mgr =>
      (order.arrange mgr.sandboxAppInfos.toList, mgr)

end SandboxCommand

/-- What the verifier reports about the signature of a package. -/
structure ProvisionInfo where
  appId : String := ""
  apl : String := ""
  appFeature : String := ""
  allowedAcls : List String := []
  fingerprint : String := ""

/-- A bundle name the parsers accept: a letter and then letters, digits, low
lines and dots, neither too short nor too long. -/
def isValidBundleName (name : String) : Bool :=
  7 ≤ name.utf8ByteSize && name.utf8ByteSize ≤ 255 &&
    (name.toList.head?.any Char.isAlpha) &&
    name.toList.all fun c => c.isAlphanum || c = '_' || c = '.'

/-- What a parser fills in from the profile of a package.  It names the module
it has parsed and has checked the name of the bundle. -/
structure ParsedProfile where
  baseApplicationInfo : ApplicationInfo := {}
  baseBundleInfo : BundleInfo := {}
  currentPackage : String := ""
  isNewVersion : Bool := false
  innerModuleInfos : StringMap InnerModuleInfo := ∅
  formInfos : StringMap (List FormInfo) := ∅
  commonEvents : StringMap CommonEventInfo := ∅
  shortcutInfos : StringMap ShortcutInfo := ∅
  baseAbilityInfos : StringMap AbilityInfo := ∅
  skillInfos : StringMap (List Skill) := ∅
  baseExtensionInfos : StringMap ExtensionAbilityInfo := ∅
  extensionSkillInfos : StringMap (List Skill) := ∅
  name_valid : isValidBundleName baseApplicationInfo.bundleName
  name_same : baseBundleInfo.name = baseApplicationInfo.bundleName

/-- A request to another process. -/
inductive Request where
  | createBundleDir (bundleDir : String)
  | removeDir (dir : String)
  | extractModuleFiles (srcModulePath targetPath targetSoPath cpuAbi : String)
  | renameModuleDir (oldPath newPath : String)
  | createBundleDataDir (bundleName : String) (userId uid gid : Int32)
      (apl : String)
  | removeBundleDataDir (bundleName : String) (userId : Int32)
  | removeModuleDataDir (moduleDataDir : String) (userId : Int32)
  | setDirApl (dir bundleName apl : String)
  | createAccessTokenId (info : InnerBundleInfo) (bundleName : String)
      (userId dlpType : Int32)
  | deleteAccessTokenId (tokenId : UInt32)
  | grantRequestPermissions (info : InnerBundleInfo) (tokenId : UInt32)
  | grantNewRequestPermissions (info : InnerBundleInfo)
      (requestPermName : List String) (tokenId : UInt32)
  | addDefineAndRequestPermissions (tokenId : UInt32)
      (newInfo : InnerBundleInfo)
  | updateDefineAndRequestPermissions (tokenId : UInt32)
      (oldInfo newInfo : InnerBundleInfo)
  | uninstallApplicationProcesses (applicationName : String) (uid : Int32)
  | getCurrentTime
  | checkFilePath (bundlePaths : List String)
  | parseSysCap (bundlePath : String)
  | hasSystemCapability (sysCap : String)
  | hapVerify (bundlePath : String)
  | parse (bundlePath : String) (info : InnerBundleInfo)
  | parsePackInfo (bundlePath : String)
  | checkSystemSize (bundlePath : String) (appType : AppType)
  | checkBundleNameInAllowList (bundleName : String)
  | setCloneAppName (bundleName : String)
  | deleteCloneAppName (bundleName : String)

/-- What a request is answered with. -/
abbrev Request.Reply : Request → Type
  | createBundleDir _ | removeDir _ | extractModuleFiles _ _ _ _
  | renameModuleDir _ _ | createBundleDataDir _ _ _ _ _
  | removeBundleDataDir _ _ | removeModuleDataDir _ _ | setDirApl _ _ _ =>
      ErrCode
  | createAccessTokenId _ _ _ _ => UInt32
  | deleteAccessTokenId _ | grantRequestPermissions _ _
  | grantNewRequestPermissions _ _ _ | uninstallApplicationProcesses _ _
  | hasSystemCapability _ | checkSystemSize _ _ | checkBundleNameInAllowList _
  | setCloneAppName _ | deleteCloneAppName _ => Bool
  | addDefineAndRequestPermissions _ _
  | updateDefineAndRequestPermissions _ _ _ => Option (List String)
  | getCurrentTime => Int64
  | checkFilePath _ | parseSysCap _ => Except ErrCode (List String)
  | hapVerify _ => Except ErrCode ProvisionInfo
  | parse _ _ => Except ErrCode ParsedProfile
  | parsePackInfo _ => Except ErrCode BundlePackInfo

/-- The reply when nothing goes wrong and there is nothing to report.  A package
that is parsed has no profile. -/
def Request.plainReply : (request : Request) → request.Reply
  | createBundleDir _ | removeDir _ | extractModuleFiles _ _ _ _
  | renameModuleDir _ _ | createBundleDataDir _ _ _ _ _
  | removeBundleDataDir _ _ | removeModuleDataDir _ _ | setDirApl _ _ _ =>
      ErrCode.ok
  | createAccessTokenId _ _ _ _ => (0 : UInt32)
  | deleteAccessTokenId _ | grantRequestPermissions _ _
  | grantNewRequestPermissions _ _ _ | uninstallApplicationProcesses _ _
  | hasSystemCapability _ | checkSystemSize _ _ | checkBundleNameInAllowList _
  | setCloneAppName _ | deleteCloneAppName _ => true
  | addDefineAndRequestPermissions _ _
  | updateDefineAndRequestPermissions _ _ _ => some []
  | getCurrentTime => (0 : Int64)
  | checkFilePath bundlePaths => .ok bundlePaths
  | parseSysCap _ => .ok []
  | hapVerify _ => .ok {}
  | parse _ _ => .error .parseBadProfile
  | parsePackInfo _ => .ok {}

/-- What the clone manager remembers of the last bundle that was cloned. -/
structure BundleCloneMgr where
  cloneInfo : InnerBundleInfo := {}
  bundleName : String := ""

/-- The two stores, and the clone manager. -/
structure World where
  dataMgr : BundleDataMgr := {}
  sandboxDataMgr : BundleSandboxDataMgr := {}
  cloneMgr : BundleCloneMgr := {}

/-- One atomic step of the service. -/
inductive Command where
  | store (command : StoreCommand)
  | sandbox (command : SandboxCommand)
  | external (request : Request)
  | getCloneMgr
  | setCloneMgr (mgr : BundleCloneMgr)

namespace Command

abbrev Result : Command → Type
  | store command => command.Result
  | sandbox command => command.Result
  | external request => request.Reply
  | getCloneMgr => BundleCloneMgr
  | setCloneMgr _ => Unit

/-- What the environment decides about a step. -/
abbrev Answer : Command → Type
  | store _ => Bool
  | sandbox _ => MapOrder
  | external request => request.Reply
  | getCloneMgr | setCloneMgr _ => Unit

def perform : (command : Command) → command.Answer → World →
    command.Result × World
  | store command, accepted, world =>
      let (result, dataMgr) := command.perform accepted world.dataMgr
      (result, { world with dataMgr := dataMgr })
  | sandbox command, order, world =>
      let (result, sandboxDataMgr) := command.perform order world.sandboxDataMgr
      (result, { world with sandboxDataMgr := sandboxDataMgr })
  | external _, reply, world => (reply, world)
  | getCloneMgr, _, world => (world.cloneMgr, world)
  | setCloneMgr mgr, _, world => ((), { world with cloneMgr := mgr })

end Command

/-- The bundle service: its commands act on the two stores. -/
abbrev bundleService : System Command Command.Result where
  World := World
  Answer := Command.Answer
  perform := Command.perform

/-- The answer when nothing goes wrong. -/
def Command.plainAnswer : (command : Command) → command.Answer
  | store _ => true
  | sandbox _ => ⟨id, fun _ => .refl _⟩
  | external request => request.plainReply
  | getCloneMgr | setCloneMgr _ => ()

/-- An operation of the service. -/
abbrev Operation := Program Command Command.Result

/-- Call the bundle data manager. -/
def store (command : StoreCommand) : Operation command.Result :=
  .perform (Command.store command)

/-- Call the sandbox data manager. -/
def sandbox (command : SandboxCommand) : Operation command.Result :=
  .perform (Command.sandbox command)

/-- Ask another process. -/
def request (request : Request) : Operation request.Reply :=
  .perform (Command.external request)

/-- Read the members of the clone manager. -/
def getCloneMgr : Operation BundleCloneMgr :=
  .perform Command.getCloneMgr

/-- Write the members of the clone manager. -/
def setCloneMgr (mgr : BundleCloneMgr) : Operation Unit :=
  .perform (Command.setCloneMgr mgr)

section Rules

-- The type of a result reduces to a plain type, so the rules do not look at it.
variable {ok : Step bundleService → Prop} {world : World}

@[simp]
theorem wp_store {command : StoreCommand}
    {post : command.Result → World → Prop} :
    @wp _ _ (no_index command.Result) bundleService ok (store command) post world ↔
      ∀ accepted : Bool, ok ⟨.store command, world, accepted⟩ →
        post (command.perform accepted world.dataMgr).1
          { world with
            dataMgr := (command.perform accepted world.dataMgr).2 } :=
  Iff.rfl

@[simp]
theorem wp_sandbox {command : SandboxCommand}
    {post : command.Result → World → Prop} :
    @wp _ _ (no_index command.Result) bundleService ok (sandbox command) post world ↔
      ∀ order : MapOrder, ok ⟨.sandbox command, world, order⟩ →
        post (command.perform order world.sandboxDataMgr).1
          { world with
            sandboxDataMgr :=
              (command.perform order world.sandboxDataMgr).2 } :=
  Iff.rfl

@[simp]
theorem wp_request {message : Request} {post : message.Reply → World → Prop} :
    @wp _ _ (no_index message.Reply) bundleService ok (request message) post world ↔
      ∀ reply : message.Reply, ok ⟨.external message, world, reply⟩ →
        post reply world :=
  Iff.rfl

@[simp]
theorem wp_getCloneMgr {post : BundleCloneMgr → World → Prop} :
    wp bundleService ok getCloneMgr post world ↔
      ∀ answer : Unit, ok ⟨.getCloneMgr, world, answer⟩ →
        post world.cloneMgr world :=
  Iff.rfl

@[simp]
theorem wp_setCloneMgr {mgr : BundleCloneMgr} {post : Unit → World → Prop} :
    wp bundleService ok (setCloneMgr mgr) post world ↔
      ∀ answer : Unit, ok ⟨.setCloneMgr mgr, world, answer⟩ →
        post () { world with cloneMgr := mgr } :=
  Iff.rfl

variable {soFar : Prop}

theorem wpWhether_store {command : StoreCommand}
    {post : command.Result → World → Prop → Prop} :
    @wpWhether _ _ (no_index command.Result) bundleService ok (store command)
        post world soFar ↔
      ∀ accepted : Bool, post (command.perform accepted world.dataMgr).1
        { world with dataMgr := (command.perform accepted world.dataMgr).2 }
        (soFar ∧ ok ⟨.store command, world, accepted⟩) :=
  Iff.rfl

theorem wpWhether_sandbox {command : SandboxCommand}
    {post : command.Result → World → Prop → Prop} :
    @wpWhether _ _ (no_index command.Result) bundleService ok (sandbox command)
        post world soFar ↔
      ∀ order : MapOrder, post (command.perform order world.sandboxDataMgr).1
        { world with
          sandboxDataMgr := (command.perform order world.sandboxDataMgr).2 }
        (soFar ∧ ok ⟨.sandbox command, world, order⟩) :=
  Iff.rfl

theorem wpWhether_request {message : Request}
    {post : message.Reply → World → Prop → Prop} :
    @wpWhether _ _ (no_index message.Reply) bundleService ok (request message)
        post world soFar ↔
      ∀ reply : message.Reply, post reply world
        (soFar ∧ ok ⟨.external message, world, reply⟩) :=
  Iff.rfl

theorem wpWhether_getCloneMgr {post : BundleCloneMgr → World → Prop → Prop} :
    wpWhether bundleService ok getCloneMgr post world soFar ↔
      ∀ answer : Unit, post world.cloneMgr world
        (soFar ∧ ok ⟨.getCloneMgr, world, answer⟩) :=
  Iff.rfl

end Rules

end AppExecFwk
