import AppExecFwk.Info.InnerBundleInfo
import AppExecFwk.Library.SortUnique
import Mathlib.Data.String.Basic

/-!
# The permission manager

`BundlePermissionMgr` stands between the installer and the access token
service, which keeps for each token the permissions it defines and the state of
the permissions it requests.  The manager asks the service what a token has,
adds what a new version brings, takes out what it drops, hands both lists back
and grants what is new.  The service is not part of the repository, so its calls
are parameters.  A call that fails ends the installation, and `none` stands for
that.
-/

namespace AppExecFwk

/-- The privilege levels of the access token service. -/
inductive ATokenAplEnum where
  | invalid
  | normal
  | systemBasic
  | systemCore
  deriving DecidableEq

/-- Who grants a permission. -/
inductive GrantMode where
  | userGrant
  | systemGrant
  deriving DecidableEq

inductive PermissionState where
  | permissionDenied
  | permissionGranted
  deriving DecidableEq

inductive PermissionFlag where
  | permissionDefaultFlag
  | permissionUserSet
  | permissionUserFixed
  | permissionSystemFixed
  deriving DecidableEq

/-- A permission, as the service keeps its definition. -/
structure PermissionDef where
  permissionName : String := ""
  bundleName : String := ""
  grantMode : GrantMode := .userGrant
  availableLevel : ATokenAplEnum := .normal
  provisionEnable : Bool := false
  distributedSceneEnable : Bool := false
  label : String := ""
  labelId : Int32 := 0
  description : String := ""
  descriptionId : Int32 := 0
  deriving DecidableEq

/-- A requested permission and, for each device, whether it is granted. -/
structure PermissionStateFull where
  permissionName : String := ""
  isGeneral : Bool := true
  resDeviceID : List String := []
  grantStatus : List PermissionState := []
  grantFlags : List PermissionFlag := []
  deriving DecidableEq

def PermissionStateFull.isGranted (state : PermissionStateFull) : Bool :=
  state.grantStatus.contains .permissionGranted

/-- The application a token is for. -/
structure HapInfoParams where
  userID : Int32
  bundleName : String
  instIndex : Int32
  appIDDesc : String
  dlpType : Int32

/-- What a token may do. -/
structure HapPolicyParams where
  apl : ATokenAplEnum
  domain : String
  permList : List PermissionDef
  permStateList : List PermissionStateFull

/-- The calls of the access token service, which has a state of its own. -/
structure AccessTokenKit (Store : Type) where
  allocHapToken : HapInfoParams → HapPolicyParams → Store → UInt32 × Store
  updateHapToken : UInt32 → String → HapPolicyParams → Store → Option Store
  getDefPermissions : UInt32 → Store → Option (List PermissionDef)
  getDefPermission : String → Store → Option PermissionDef
  getReqPermissions :
    UInt32 → Bool → Store → Option (List PermissionStateFull)
  grantPermission :
    UInt32 → String → PermissionFlag → Store → Option Store

namespace InnerBundleInfo

variable (info : InnerBundleInfo)

/-- The requested permissions of all modules, sorted by name. -/
def getAllRequestPermissions : List RequestPermission :=
  (info.innerModuleInfos.toList.flatMap (·.2.requestPermissions)).sortUnique
    (·.name)

/-- The defined permissions of all modules, sorted by name. -/
def getAllDefinePermissions : List DefinePermission :=
  (info.innerModuleInfos.toList.flatMap (·.2.definePermissions)).sortUnique
    (·.name)

def requestNames : List String :=
  info.getAllRequestPermissions.map (·.name)

theorem nodup_requestNames : info.requestNames.Nodup :=
  List.nodup_map_sortUnique

/-- A bundle requests what one of its modules requests. -/
theorem mem_requestNames {name : String} :
    name ∈ info.requestNames ↔
      ∃ (key : String) (part : InnerModuleInfo),
        info.innerModuleInfos[key]? = some part ∧
          name ∈ part.requestPermissions.map (·.name) := by
  rw [requestNames, getAllRequestPermissions, List.mem_map_sortUnique]
  simp only [List.mem_map, List.mem_flatMap, Prod.exists,
    Std.ExtTreeMap.mem_toList_iff_getElem?_eq_some]
  constructor
  · rintro ⟨request, ⟨key, part, found, requested⟩, named⟩
    exact ⟨key, part, found, request, requested, named⟩
  · rintro ⟨key, part, found, request, requested, named⟩
    exact ⟨request, ⟨key, part, found, requested⟩, named⟩

end InnerBundleInfo

namespace BundlePermissionMgr

def getTokenApl (apl : String) : ATokenAplEnum :=
  if apl = "system_core" then .systemCore
  else if apl = "system_basic" then .systemBasic
  else .normal

/-- A definition of a module, as the service is given it. -/
def convertPermissionDef (definePermission : DefinePermission)
    (bundleName : String) : PermissionDef where
  permissionName := definePermission.name
  bundleName := bundleName
  grantMode :=
    if definePermission.grantMode = "system_grant" then .systemGrant
    else .userGrant
  availableLevel := getTokenApl definePermission.availableLevel
  provisionEnable := definePermission.provisionEnable
  distributedSceneEnable := definePermission.distributedSceneEnable
  label := definePermission.label
  labelId := definePermission.labelId
  description := definePermission.description
  descriptionId := definePermission.descriptionId

def getPermissionDefList (info : InnerBundleInfo) : List PermissionDef :=
  info.getAllDefinePermissions.map (convertPermissionDef · info.getBundleName)

/-- The requested permissions of a bundle, none of them granted. -/
def getPermissionStateFullList (info : InnerBundleInfo) :
    List PermissionStateFull :=
  info.getAllRequestPermissions.map fun reqPermission =>
    { permissionName := reqPermission.name
      isGeneral := true
      resDeviceID := [info.baseApplicationInfo.deviceId]
      grantStatus := [.permissionDenied]
      grantFlags := [.permissionDefaultFlag] }

def createHapPolicyParam (info : InnerBundleInfo) : HapPolicyParams where
  apl := getTokenApl info.getAppPrivilegeLevel
  domain := "domain"
  permList := getPermissionDefList info
  permStateList := getPermissionStateFullList info

/-- Whether a bundle of this level and with these exceptions may have a
permission. -/
def checkGrantPermission (permDef : PermissionDef) (apl : String)
    (acls : List String) : Bool :=
  let levelSuffices :=
    match permDef.availableLevel with
    | .normal => true
    | .systemBasic => apl = "system_basic" || apl = "system_core"
    | .systemCore => apl = "system_core"
    | .invalid => false
  levelSuffices ||
    (permDef.provisionEnable && acls.contains permDef.permissionName)

/-- The names a bundle has that its next version has not. -/
def getNeedDeleteNames (oldNames newNames : List String) : List String :=
  oldNames.filter (! newNames.contains ·)

def getNeedDeleteDefinePermissionName (oldInfo newInfo : InnerBundleInfo) :
    List String :=
  getNeedDeleteNames (oldInfo.getAllDefinePermissions.map (·.name))
    (newInfo.getAllDefinePermissions.map (·.name))

def getNeedDeleteRequestPermissionName (oldInfo newInfo : InnerBundleInfo) :
    List String :=
  getNeedDeleteNames oldInfo.requestNames newInfo.requestNames

/-- Take the first entry of each name out of a list. -/
def deleteNames {α : Type} (nameOf : α → String) (names : List String)
    (entries : List α) : List α :=
  names.foldl (fun rest name => rest.eraseP (nameOf · = name)) entries

variable {Store : Type} (kit : AccessTokenKit Store)

section Lists

variable (tokenId : UInt32) (store : Store)

/-- What a token requests: first what users grant, then what the system
grants. -/
def getAllReqPermissionStateFull : Option (List PermissionStateFull) := do
  let userGrantReqPermList ← kit.getReqPermissions tokenId false store
  let systemGrantReqPermList ← kit.getReqPermissions tokenId true store
  return userGrantReqPermList ++ systemGrantReqPermList

/-- Add the definitions whose names are not there yet. -/
def addNewDefs (newPermissionDef permissionDef : List PermissionDef) :
    List PermissionDef :=
  permissionDef.foldl (fun known perm =>
    if known.any (·.permissionName = perm.permissionName) then known
    else known ++ [perm]) newPermissionDef

def getNewPermissionDefList (permissionDef : List PermissionDef) :
    Option (List PermissionDef) := do
  let newPermissionDef ← kit.getDefPermissions tokenId store
  return addNewDefs newPermissionDef permissionDef

/-- Add a request whose name is not there yet, and note its name. -/
def addNewState :
    List PermissionStateFull × List String → PermissionStateFull →
      List PermissionStateFull × List String
  | (newPermissionState, newRequestPermName), perm =>
      if newPermissionState.any (·.permissionName = perm.permissionName) then
        (newPermissionState, newRequestPermName)
      else (newPermissionState ++ [perm],
        newRequestPermName ++ [perm.permissionName])

def getNewPermissionStateFull (permissionState : List PermissionStateFull) :
    Option (List PermissionStateFull × List String) := do
  let newPermissionState ← getAllReqPermissionStateFull kit tokenId store
  return permissionState.foldl addNewState (newPermissionState, [])

/-- Hand a token the definitions and requests of a version next to those it
has, less what is dropped; answers the names of the new requests. -/
def handOver (dropDefs dropStates : List String) (info : InnerBundleInfo) :
    Option (Store × List String) := do
  let newDefPermList ←
    getNewPermissionDefList kit tokenId store (getPermissionDefList info)
  let (newPermissionStateList, newRequestPermName) ←
    getNewPermissionStateFull kit tokenId store (getPermissionStateFullList info)
  let store ← kit.updateHapToken tokenId info.baseBundleInfo.appId
    { apl := getTokenApl info.getAppPrivilegeLevel
      domain := "domain"
      permList := deleteNames (·.permissionName) dropDefs newDefPermList
      permStateList :=
        deleteNames (·.permissionName) dropStates newPermissionStateList }
    store
  return (store, newRequestPermName)

/-- A version takes the place of another. -/
def updateDefineAndRequestPermissions (oldInfo newInfo : InnerBundleInfo) :
    Option (Store × List String) :=
  handOver kit tokenId store (getNeedDeleteDefinePermissionName oldInfo newInfo)
    (getNeedDeleteRequestPermissionName oldInfo newInfo) newInfo

/-- A module is added. -/
def addDefineAndRequestPermissions (info : InnerBundleInfo) :
    Option (Store × List String) :=
  handOver kit tokenId store [] [] info

end Lists

def createAccessTokenId (info : InnerBundleInfo) (bundleName : String)
    (userId dlpType : Int32) (store : Store) : UInt32 × Store :=
  kit.allocHapToken
    { userID := userId
      bundleName := bundleName
      instIndex := info.appIndex
      appIDDesc := info.baseBundleInfo.appId
      dlpType := dlpType }
    (createHapPolicyParam info) store

section Grants

-- The permissions that an application of the device has by default, and whether
-- users may take them back.
variable (defaultPermissions : StringMap (StringMap Bool))

def checkPermissionInDefaultPermissions (bundleName permissionName : String) :
    Option Bool := do
  let info ← defaultPermissions[bundleName]?
  info[permissionName]?

/-- Sort requested permissions by who grants them.  A permission nobody defines
is passed over; one that is above the bundle ends the installation. -/
def classifyRequests (info : InnerBundleInfo) (store : Store) :
    List RequestPermission → Option (List String × List String)
  | [] => some ([], [])
  | reqPermission :: rest =>
      match kit.getDefPermission reqPermission.name store with
      | none => classifyRequests info store rest
      | some permDef =>
          if checkGrantPermission permDef info.getAppPrivilegeLevel
              info.allowedAcls then do
            let (systemGrantPermList, userGrantPermList) ←
              classifyRequests info store rest
            if permDef.grantMode = .systemGrant then
              return (reqPermission.name :: systemGrantPermList,
                userGrantPermList)
            else
              return (systemGrantPermList,
                reqPermission.name :: userGrantPermList)
          else none

/-- Grant what users need not be asked for. -/
def grantDefaults (tokenId : UInt32) (bundleName : String) (store : Store)
    (userGrantPermList : List String) : Option Store :=
  userGrantPermList.foldlM (fun store perm =>
    match checkPermissionInDefaultPermissions defaultPermissions bundleName
        perm with
    | none => some store
    | some userCancellable =>
        kit.grantPermission tokenId perm
          (if userCancellable then .permissionDefaultFlag
            else .permissionSystemFixed) store) store

def innerGrantRequestPermissions (tokenId : UInt32)
    (reqPermissions : List RequestPermission) (info : InnerBundleInfo)
    (store : Store) : Option Store := do
  let (systemGrantPermList, userGrantPermList) ←
    classifyRequests kit info store reqPermissions
  let store ← systemGrantPermList.foldlM (fun store perm =>
    kit.grantPermission tokenId perm .permissionSystemFixed store) store
  if info.isPreInstallApp then
    grantDefaults kit defaultPermissions tokenId info.getBundleName store
      userGrantPermList
  else some store

/-- Grant all that a bundle requests. -/
def grantAllRequestPermissions (info : InnerBundleInfo) (tokenId : UInt32)
    (store : Store) : Option Store :=
  innerGrantRequestPermissions kit defaultPermissions tokenId
    info.getAllRequestPermissions info store

/-- Grant the requests of these names. -/
def grantRequestPermissions (info : InnerBundleInfo)
    (requestPermName : List String) (tokenId : UInt32) (store : Store) :
    Option Store :=
  innerGrantRequestPermissions kit defaultPermissions tokenId
    (requestPermName.filterMap fun name =>
      info.getAllRequestPermissions.find? (·.name = name)) info store

end Grants

end BundlePermissionMgr

end AppExecFwk
