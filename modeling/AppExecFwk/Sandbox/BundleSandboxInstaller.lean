import AppExecFwk.Store.Commands

/-!
# The sandbox installer

`BundleSandboxInstaller` makes a sandbox application out of an installed
bundle: it reserves an index, gets a token and a uid, and keeps a copy of the
bundle's record under the index.  The operations are written down in the order
of the source; a scope guard that has not been dismissed runs where the
operation returns.
-/

namespace AppExecFwk

open CommandProgram

namespace BundleSandboxInstaller

/-- The directory of the data bases of a sandbox application. -/
def sandboxDataBaseDir (bundleName : String) (appIndex : Int32) : String :=
  "/data/app/" ++ "el2" ++ "/database/" ++ sandboxKey bundleName appIndex

/-- Make the data directory of a sandbox application. -/
def createSandboxDataDir (info : InnerBundleInfo) (userId uid appIndex : Int32) :
    Operation (Except ErrCode InnerBundleInfo) := do
  let result ← request (.createBundleDataDir
    (sandboxKey info.getBundleName appIndex) userId uid uid
    info.getAppPrivilegeLevel)
  if result ≠ .ok then
    return .error result
  return .ok (info.setAppDataBaseDir
    (sandboxDataBaseDir info.getBundleName appIndex))

/-- Undo a failed installation: the token, the index, the id and the directory
go. -/
def sandboxAppRollBack (info : InnerBundleInfo) (userId : Int32) :
    Operation Unit := do
  let _ ← request (.deleteAccessTokenId (info.getAccessTokenId userId))
  let bundleName := info.getBundleName
  let appIndex := info.appIndex
  let _ ← sandbox (.deleteSandboxAppIndex bundleName appIndex)
  let key := sandboxKey bundleName appIndex
  match info.getInnerBundleUserInfo userId with
  | none => pure ()
  | some userInfo =>
      store (.recycleUidAndGid
        (info.addInnerBundleUserInfo { userInfo with bundleName := key }))
  let _ ← request (.removeBundleDataDir key userId)

/-- The record of a sandbox application as far as the index is known. -/
def sandboxRecord (info : InnerBundleInfo) (appIndex : Int32) :
    InnerBundleInfo :=
  (info.setAppIndex appIndex).setIsSandbox true

/-- Give the sandbox application its user and its directory, and keep it. -/
def installAtIndex (bundleName : String) (info : InnerBundleInfo)
    (userInfo : InnerBundleUserInfo) (userId appIndex : Int32)
    (tokenId : UInt32) : Operation (Except ErrCode Int32) := do
  -- A uid that cannot be generated is not noticed: the old one stays.
  let userInfo := { userInfo with
    bundleName := sandboxKey bundleName appIndex
    gids := [] }
  let generated ← store (.generateUidAndGid userInfo)
  let userInfo := { generated.getD userInfo with bundleName := bundleName }
  let info := info.addInnerBundleUserInfo userInfo
  let time ← request .getCurrentTime
  let info := ((info.setBundleInstallTime time userId).setBundleUpdateTime 0
    userId).setAccessTokenId tokenId userId
  match ← createSandboxDataDir info userId userInfo.uid appIndex with
  | .error result =>
      sandboxAppRollBack info userId
      return .error result
  | .ok info =>
      sandbox (.saveSandboxAppInfo info appIndex)
      let _ ← store (.enableBundle bundleName)
      store (.storeSandboxPersistentInfo bundleName
        { accessTokenId := tokenId, appIndex := appIndex, userId := userId })
      return .ok appIndex

/-- Install a sandbox application; the new index is the result. -/
def installSandboxApp (bundleName : String) (dlpType userId : Int32) :
    Operation (Except ErrCode Int32) := do
  if bundleName = "" then
    return .error .sandboxInstallParamError
  match ← store (.getInnerBundleInfo bundleName) with
  | none => return .error .sandboxInstallAppNotExisted
  | some info =>
  if userId < defaultUserId then
    return .error .sandboxInstallParamError
  if !(← store (.hasUserId userId)) then
    return .error .sandboxInstallUserNotExist
  match info.getInnerBundleUserInfo userId with
  | none => return .error .sandboxInstallNotInstalledAtSpecifiedUserid
  | some userInfo =>
  let info := info.cleanInnerBundleUserInfos
  let newAppIndex ← sandbox (.generateSandboxAppIndex bundleName)
  if newAppIndex = initialAppIndex then
    sandboxAppRollBack info userId
    return .error .sandboxInstallInvalidAppIndex
  let info := sandboxRecord info newAppIndex
  let newTokenId ← request (.createAccessTokenId info info.getBundleName userId
    dlpType)
  if !(← request (.grantRequestPermissions info newTokenId)) then
    sandboxAppRollBack info userId
    return .error .installGrantRequestPermissionsFailed
  installAtIndex bundleName info userInfo userId newAppIndex newTokenId

/-- Uninstall a sandbox application. -/
def uninstallSandboxApp (bundleName : String) (appIndex userId : Int32) :
    Operation ErrCode := do
  if userId < defaultUserId then
    return .sandboxInstallParamError
  if !(← store (.hasUserId userId)) then
    return .sandboxInstallUserNotExist
  match ← sandbox (.getSandboxAppInfo bundleName appIndex userId) with
  | .error result => return result
  | .ok info =>
  match info.getInnerBundleUserInfo userId with
  | none => return .sandboxInstallNotInstalledAtSpecifiedUserid
  | some userInfo =>
  let accessTokenId := info.getAccessTokenId userId
  let _ ← request (.deleteAccessTokenId accessTokenId)
  if !(← sandbox (.deleteSandboxAppIndex bundleName appIndex)) then
    return .sandboxInstallDeleteAppIndexFailed
  let innerBundleName := sandboxKey bundleName appIndex
  let result ← request (.removeBundleDataDir innerBundleName userId)
  if result ≠ .ok then
    return result
  store (.recycleUidAndGid
    (info.addInnerBundleUserInfo { userInfo with bundleName := innerBundleName }))
  sandbox (.deleteSandboxAppInfo bundleName appIndex)
  store (.deleteSandboxPersistentInfo bundleName
    { accessTokenId := accessTokenId, appIndex := appIndex, userId := userId })
  return .ok

/-- Uninstall the application under a key, if the key is one of the bundle's
and the application belongs to the user.  A key that is the name of the bundle
throws, and so does an application without a user. -/
def uninstallUnderKey (bundleName : String) (userId : Int32)
    (entry : String × InnerBundleInfo) : Operation Unit :=
  if Text.contains entry.1 bundleName then
    match Text.substr entry.1 (bundleName.toList.length + 1) with
    | none => .halt
    | some appIndexStr =>
        match Text.toInt32 appIndexStr with
        | none => pure ()
        | some appIndex =>
            match entry.2.innerBundleUserInfos.begin? with
            | none => .halt
            | some userInfo =>
                let specifiedUserId := userInfo.bundleUserInfo.userId
                if specifiedUserId = userId ∨ userId = invalidUserId then do
                  let _ ← uninstallSandboxApp bundleName appIndex
                    specifiedUserId
                else pure ()
  else pure ()

/-- Uninstall the sandbox applications of a bundle, for one user or for all. -/
def uninstallAllSandboxApps (bundleName : String) (userId : Int32) :
    Operation ErrCode := do
  if bundleName = "" then
    return .sandboxInstallParamError
  let sandboxAppInfoMap ← sandbox .getSandboxAppInfoMap
  sandboxAppInfoMap.forM (uninstallUnderKey bundleName userId)
  return .ok

end BundleSandboxInstaller

end AppExecFwk
