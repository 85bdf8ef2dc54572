import AppExecFwk.Installer.BundleUninstall

/-!
# Reading the packages of an installation

Before anything changes, the installer checks the packages it has been given:
the system capabilities they need, who has signed them, what their profiles and
`pack.info` say, and that they are of one version of one bundle.  Each package
becomes a record of its own.  The records are kept in an unordered map under the
paths of the packages; here the map is a list in the order of its iteration.
-/

namespace AppExecFwk

open CommandProgram

/-- The records of the packages of a request, each with the path it is from. -/
abbrev NewInfos := List (String × InnerBundleInfo)

/-- The record after the parser has filled it in. -/
def InnerBundleInfo.withProfile (info : InnerBundleInfo)
    (profile : ParsedProfile) : InnerBundleInfo :=
  { info with
    baseApplicationInfo := profile.baseApplicationInfo
    baseBundleInfo := profile.baseBundleInfo
    currentPackage := profile.currentPackage
    isNewVersion := profile.isNewVersion
    innerModuleInfos := profile.innerModuleInfos
    formInfos := profile.formInfos
    commonEvents := profile.commonEvents
    shortcutInfos := profile.shortcutInfos
    baseAbilityInfos := profile.baseAbilityInfos
    skillInfos := profile.skillInfos
    baseExtensionInfos := profile.baseExtensionInfos
    extensionSkillInfos := profile.extensionSkillInfos }

namespace BaseBundleInstaller

section Checks

/-- Whether the device has all of these capabilities. -/
def hasSystemCapabilities : List String → Operation Bool
  | [] => pure true
  | sysCap :: rest => do
      if !(← request (.hasSystemCapability sysCap)) then
        return false
      hasSystemCapabilities rest

def checkSysCapOf : List String → Operation ErrCode
  | [] => pure .ok
  | bundlePath :: rest => do
      match ← request (.parseSysCap bundlePath) with
      | .error result => return result
      | .ok bundleSysCaps =>
          if !(← hasSystemCapabilities bundleSysCaps) then
            return .installCheckSyscapFailed
          checkSysCapOf rest

def checkSysCap (bundlePaths : List String) : Operation ErrCode :=
  if bundlePaths.isEmpty then pure .installParamError
  else checkSysCapOf bundlePaths

def hapVerifyAll : List String → Operation (Except ErrCode (List ProvisionInfo))
  | [] => pure (.ok [])
  | bundlePath :: rest => do
      match ← request (.hapVerify bundlePath) with
      | .error result => return .error result
      | .ok provisionInfo =>
          match ← hapVerifyAll rest with
          | .error result => return .error result
          | .ok hapVerifyRes => return .ok (provisionInfo :: hapVerifyRes)

/-- Verify all packages, which must have one signer and one privilege level. -/
def checkMultipleHapsSignInfo (bundlePaths : List String) :
    Operation (Except ErrCode (List ProvisionInfo)) := do
  if bundlePaths.isEmpty then
    return .error .installParamError
  match ← hapVerifyAll bundlePaths with
  | .error result => return .error result
  | .ok [] => return .error .installFailedIncompatibleSignature
  | .ok (first :: rest) =>
      if (first :: rest).any (·.appId ≠ first.appId) then
        return .error .installFailedInconsistentSignature
      if (first :: rest).any (·.apl ≠ first.apl) then
        return .error .installFailedInconsistentSignature
      return .ok (first :: rest)

end Checks

section Parsing

/-- What the loop over the packages has found so far. -/
structure ParseState where
  packInfo : BundlePackInfo := {}
  isContainEntry : Bool := false
  infos : NewInfos := []

/-- Parse a package; only the first record gets the `pack.info`. -/
def parseBundleInfo (bundlePath : String) (info : InnerBundleInfo)
    (packInfo : BundlePackInfo) :
    Operation (Except ErrCode (InnerBundleInfo × BundlePackInfo)) := do
  match ← request (.parse bundlePath info) with
  | .error result => return .error result
  | .ok profile =>
  let info := info.withProfile profile
  if packInfo.isValid then
    return .ok (info, packInfo)
  match ← request (.parsePackInfo bundlePath) with
  | .error result => return .error result
  | .ok packInfo =>
      return .ok (info.setBundlePackInfo packInfo,
        { packInfo with isValid := true })

def setEntryInstallationFree (packInfo : BundlePackInfo)
    (info : InnerBundleInfo) : InnerBundleInfo :=
  if packInfo.isValid then
    info.setEntryInstallationFree (packInfo.summary.modules.any fun module =>
      module.distro.moduleType = "entry" && module.distro.installationFree)
  else info

/-- The record of a package before it is parsed. -/
def newInfoOf (param : InstallParam) (appType : AppType)
    (provisionInfo : ProvisionInfo) : InnerBundleInfo :=
  let isSystemApp := provisionInfo.appFeature = "hos_system_app" ||
    provisionInfo.appFeature = "ohos_system_app"
  (((({} : InnerBundleInfo).setAppType appType).setAppType
    (if isSystemApp then .systemApp else appType)).setUserId
      param.userId).setIsPreInstallApp param.isPreInstallApp

/-- What the verifier has reported becomes part of the record. -/
def withProvisionInfo (info : InnerBundleInfo) (provisionInfo : ProvisionInfo) :
    InnerBundleInfo :=
  ((((info.setProvisionId provisionInfo.appId).setAppFeature
    provisionInfo.appFeature).setAppPrivilegeLevel
      provisionInfo.apl).setAllowedAcls
        provisionInfo.allowedAcls).setCertificateFingerprint
          provisionInfo.fingerprint

/-- Keep a record under its path, unless the path has one. -/
def emplaceInfo (infos : NewInfos) (bundlePath : String)
    (info : InnerBundleInfo) : NewInfos :=
  if infos.any (·.1 = bundlePath) then infos else infos ++ [(bundlePath, info)]

/-- Make the record of one package. -/
def parseHapFile (param : InstallParam) (appType : AppType)
    (bundlePath : String) (provisionInfo : ProvisionInfo) (state : ParseState) :
    Operation (Except ErrCode ParseState) := do
  match ← parseBundleInfo bundlePath (newInfoOf param appType provisionInfo)
      state.packInfo with
  | .error result => return .error result
  | .ok (newInfo, packInfo) =>
  if newInfo.hasEntry && state.isContainEntry then
    return .error .installInvalidNumberOfEntryHap
  if !(← request (.checkSystemSize bundlePath appType)) then
    return .error .installDiskMemInsufficient
  return .ok {
    packInfo := packInfo
    isContainEntry := newInfo.hasEntry || state.isContainEntry
    infos := emplaceInfo state.infos bundlePath
      (withProvisionInfo (setEntryInstallationFree packInfo newInfo)
        provisionInfo) }

def parseHapFiles (param : InstallParam) (appType : AppType) :
    List (String × ProvisionInfo) → ParseState →
      Operation (Except ErrCode ParseState)
  | [], state => pure (.ok state)
  | (bundlePath, provisionInfo) :: rest, state => do
      match ← parseHapFile param appType bundlePath provisionInfo state with
      | .error result => return .error result
      | .ok state => parseHapFiles param appType rest state

end Parsing

section Agreement

/-- Give the modules the hash values that the request has for them, every one
of which has to be used. -/
def checkHashParamsOf : NewInfos → List String → StringMap String →
    Except ErrCode NewInfos
  | [], _, hashParams =>
      if hashParams.isEmpty then .ok []
      else .error .installFailedCheckHapHashParam
  | (bundlePath, info) :: rest, hapModuleNames, hashParams =>
      match info.getModuleNames.head? with
      | none => .error .installFailedModuleNameEmpty
      | some moduleName =>
          if moduleName ∈ hapModuleNames then
            .error .installFailedModuleNameDuplicate
          else
            let checked :=
              match hashParams[moduleName]? with
              | none => info
              | some hashValue => info.setModuleHashValue hashValue
            match checkHashParamsOf rest (hapModuleNames ++ [moduleName])
                (hashParams.erase moduleName) with
            | .error result => .error result
            | .ok infos => .ok ((bundlePath, checked) :: infos)

def checkHapHashParams (infos : NewInfos) (hashParams : StringMap String) :
    Except ErrCode NewInfos :=
  if hashParams.isEmpty then .ok infos
  else checkHashParamsOf infos [] hashParams

/-- What a package says otherwise than the first one, if anything. -/
def labelDifference (first info : InnerBundleInfo) : Option ErrCode :=
  if first.getBundleName ≠ info.getBundleName then
    some .installBundlenameNotSame
  else if first.getVersionCode ≠ info.getVersionCode then
    some .installVersioncodeNotSame
  else if first.getVersionName ≠ info.getVersionName then
    some .installVersionnameNotSame
  else if first.getMinCompatibleVersionCode ≠
      info.getMinCompatibleVersionCode then
    some .installMincompatibleVersioncodeNotSame
  else if first.getVendor ≠ info.getVendor then
    some .installVendorNotSame
  else if first.getTargetVersion ≠ info.getTargetVersion then
    some .installReleasetypeTargetNotSame
  else if first.getCompatibleVersion ≠ info.getCompatibleVersion then
    some .installReleasetypeCompatibleNotSame
  else if first.getReleaseType ≠ info.getReleaseType then
    some .installReleasetypeNotSame
  else if first.isSingleton ≠ info.isSingleton then
    some .installSingletonNotSame
  else if first.appType ≠ info.appType then
    some .installApptypeNotSame
  else none

/-- Whether the packages belong together: the first difference from the first
record. -/
def checkAppLabelInfo (infos : NewInfos) : Option ErrCode :=
  match infos with
  | [] => none
  | (_, first) :: _ => infos.findSome? fun item => labelDifference first item.2

end Agreement

/-- Read the packages and check them; `order` is that of the unordered map. -/
def readHapFiles (order : MapOrder) (inBundlePaths : List String)
    (param : InstallParam) (appType : AppType) :
    Operation (Except ErrCode (NewInfos × Bool)) := do
  match ← request (.checkFilePath inBundlePaths) with
  | .error result => return .error result
  | .ok bundlePaths =>
  let result ← checkSysCap bundlePaths
  if result ≠ .ok then
    return .error result
  match ← checkMultipleHapsSignInfo bundlePaths with
  | .error result => return .error result
  | .ok hapVerifyRes =>
  match ← parseHapFiles param appType (bundlePaths.zip hapVerifyRes) {} with
  | .error result => return .error result
  | .ok parsed =>
  match checkHapHashParams (order.arrange parsed.infos) param.hashParams with
  | .error result => return .error result
  | .ok newInfos =>
  match checkAppLabelInfo newInfos with
  | some result => return .error result
  | none => return .ok (newInfos, parsed.isContainEntry)

end BaseBundleInstaller

end AppExecFwk
