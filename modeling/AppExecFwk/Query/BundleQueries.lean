import AppExecFwk.Query.AbilityQueries

/-!
# Querying applications and bundles

The remaining queries of `BundleDataMgr` for one user: for launcher abilities,
for the ability of a uri, for applications and for bundles.  Each goes its own
way through the store.  A query for one thing returns `none` where the source
reports failure, and a query for a list returns its return value and the list.
-/

namespace AppExecFwk

namespace BundleDataMgr

variable (mgr : BundleDataMgr)

section Launcher

variable (want : QueryWant)

/-- The launcher abilities of a record, added to `abilityInfos`.  Whether they
are switched on, or the bundle is there for the user at all, is not asked. -/
def getMatchLauncherAbilityInfos (info : InnerBundleInfo)
    (abilityInfos : List AbilityInfo) (userId callingUserId : Int32) :
    List AbilityInfo :=
  let requestUserId := mgr.getUserId userId callingUserId
  if requestUserId = invalidUserId then abilityInfos
  else
    let responseUserId := info.getResponseUserId requestUserId
    let matched := info.baseAbilityInfos.toList.filter fun entry =>
      info.skillInfos[entry.1]?.any fun skills =>
        skills.any fun skill => skill.matchLauncher want
    abilityInfos ++ matched.map fun entry =>
      { entry.2 with
        applicationInfo := info.getApplicationInfo
          ApplicationFlag.getBasicApplicationInfo responseUserId
          entry.2.applicationInfo }

def queryLauncherAbilityInfos (userId callingUserId : Int32) :
    Bool × List AbilityInfo :=
  let requestUserId := mgr.getUserId userId callingUserId
  let bundleName := want.element.bundleName
  if requestUserId = invalidUserId then (false, [])
  else if mgr.bundleInfos.isEmpty then (false, [])
  else if bundleName = "" then
    (true, mgr.bundleInfos.values.foldl
      (fun found info =>
        if info.isDisabled then found
        else mgr.getMatchLauncherAbilityInfos want info found requestUserId
          callingUserId)
      [])
  else
    match mgr.bundleInfos[bundleName]? with
    | none => (false, [])
    | some info =>
        (true, filterAbilityInfosByModuleName want.element.moduleName
          (mgr.getMatchLauncherAbilityInfos want info [] requestUserId
            callingUserId))

end Launcher

section Uri

/-- The part of a uri between the first two separators behind the prefix, by
which abilities are searched. -/
def uriToSearch (abilityUri : String) : Option String :=
  if abilityUri = "" then none
  else if !Text.contains abilityUri dataAbilityUriPrefix then none
  else do
    let noPrefixUri ← Text.substr abilityUri dataAbilityUriPrefix.toList.length
    let first ← Text.find noPrefixUri dataAbilityUriSeparator
    let rest ← Text.substr noPrefixUri (first + 1)
    match Text.findAfter noPrefixUri dataAbilityUriSeparator (first + 1) with
    | none => return rest
    | some second => return Text.takeChars rest (second - first - 1)

/-- What a record has to answer about a uri. -/
def findByUri (uri : String) (requestUserId : Int32) (info : InnerBundleInfo) :
    Option AbilityInfo :=
  if info.isDisabled then none
  else
    let responseUserId := info.getResponseUserId requestUserId
    if !info.getApplicationEnabled responseUserId then none
    else
      (info.findAbilityInfoByUri uri).map fun ability =>
        { ability with
          applicationInfo := info.getApplicationInfo
            ApplicationFlag.getBasicApplicationInfo responseUserId
            ability.applicationInfo }

/-- The first answer of a record in the order of the store. -/
def queryAbilityInfoByUri (abilityUri : String) (userId callingUserId : Int32) :
    Option AbilityInfo :=
  let requestUserId := mgr.getUserId userId callingUserId
  if requestUserId = invalidUserId then none
  else if mgr.bundleInfos.isEmpty then none
  else
    match uriToSearch abilityUri with
    | none => none
    | some uri => mgr.bundleInfos.values.findSome? (findByUri uri requestUserId)

end Uri

section Applications

/-- The application information of a bundle, written over a fresh variable. -/
def getApplicationInfo (appName : String) (flags userId callingUserId : Int32) :
    Option ApplicationInfo :=
  let requestUserId := mgr.getUserId userId callingUserId
  if requestUserId = invalidUserId then none
  else
    match mgr.getInnerBundleInfoWithFlags appName flags requestUserId
        callingUserId with
    | none => none
    | some info =>
        some (info.getApplicationInfo flags
          (info.getResponseUserId requestUserId) {})

/-- What a record adds to the list of all applications. -/
def addApplicationInfo (flags requestUserId : Int32)
    (appInfos : List ApplicationInfo) (info : InnerBundleInfo) :
    List ApplicationInfo :=
  if info.isDisabled then appInfos
  else
    let responseUserId := info.getResponseUserId requestUserId
    if !anyFlag flags ApplicationFlag.getApplicationInfoWithDisable &&
        !info.getApplicationEnabled responseUserId then appInfos
    else appInfos ++ [info.getApplicationInfo flags responseUserId {}]

/-- The list of all applications; the query succeeds if there is one. -/
def getApplicationInfos (flags userId callingUserId : Int32) :
    Bool × List ApplicationInfo :=
  let requestUserId := mgr.getUserId userId callingUserId
  if requestUserId = invalidUserId then (false, [])
  else if mgr.bundleInfos.isEmpty then (false, [])
  else
    let appInfos := mgr.bundleInfos.values.foldl
      (addApplicationInfo flags requestUserId) []
    (!appInfos.isEmpty, appInfos)

end Applications

section Bundles

variable
  (getAllReqPermissionStateFull : UInt32 → Option (List PermissionStateFull))

/-- The user a request for any user is about. -/
def userOfBundle (bundleName : String) : Option Int32 :=
  if bundleName = "" then none
  else
    match mgr.bundleInfos[bundleName]? with
    | none => none
    | some info =>
        if info.isDisabled then none
        else info.innerBundleUserInfos.begin?.map (·.bundleUserInfo.userId)

/-- The bundle information of a bundle, written over a fresh variable. -/
def getBundleInfo (bundleName : String) (flags userId callingUserId : Int32) :
    Option BundleInfo := do
  let userId ←
    if userId = anyUserId then mgr.userOfBundle bundleName else some userId
  let requestUserId := mgr.getUserId userId callingUserId
  if requestUserId = invalidUserId then none
  else
    let info ← mgr.getInnerBundleInfoWithFlags bundleName flags requestUserId
      callingUserId
    return info.getBundleInfo getAllReqPermissionStateFull flags {}
      (info.getResponseUserId requestUserId)

/-- What a bundle adds to the list of all bundles. -/
def bundleInfoOf (flags requestUserId callingUserId : Int32)
    (bundleName : String) : Option BundleInfo :=
  (mgr.getInnerBundleInfoWithFlags bundleName flags requestUserId
    callingUserId).map fun info =>
      info.getBundleInfo getAllReqPermissionStateFull flags {}
        (info.getResponseUserId requestUserId)

/-- All bundles, whoever they are installed for. -/
def getAllBundleInfos (flags : Int32) : Bool × List BundleInfo :=
  let bundleInfos := (mgr.bundleInfos.values.filter (!·.isDisabled)).map
    fun info => info.getBundleInfo getAllReqPermissionStateFull flags {}
      allUserId
  (!bundleInfos.isEmpty, bundleInfos)

/-- The list of the bundles of a user; the query succeeds if there is one. -/
def getBundleInfos (flags userId callingUserId : Int32) :
    Bool × List BundleInfo :=
  if userId = allUserId then
    mgr.getAllBundleInfos getAllReqPermissionStateFull flags
  else
    let requestUserId := mgr.getUserId userId callingUserId
    if requestUserId = invalidUserId then (false, [])
    else if mgr.bundleInfos.isEmpty then (false, [])
    else
      let bundleInfos := mgr.bundleInfos.keys.filterMap
        (mgr.bundleInfoOf getAllReqPermissionStateFull flags requestUserId
          callingUserId)
      (!bundleInfos.isEmpty, bundleInfos)

/-- The names of the bundles of a user; the query succeeds if there is one. -/
def getBundleList (userId callingUserId : Int32) : Bool × List String :=
  let requestUserId := mgr.getUserId userId callingUserId
  if requestUserId = invalidUserId then (false, [])
  else if mgr.bundleInfos.isEmpty then (false, [])
  else
    let bundleNames := mgr.bundleInfos.keys.filter fun bundleName =>
      (mgr.getInnerBundleInfoWithFlags bundleName BundleFlag.getBundleDefault
        requestUserId callingUserId).isSome
    (!bundleNames.isEmpty, bundleNames)

end Bundles

end BundleDataMgr

end AppExecFwk
