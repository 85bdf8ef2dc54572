import Mathlib.Tactic.Common

/-!
# Error codes

The codes an operation of the bundle manager can return.  A code is a 32-bit
integer, zero for success; what the file-system service and the verifier return
is passed on as it is.
-/

namespace AppExecFwk

abbrev ErrCode := Int32

namespace ErrCode

def ok : ErrCode := 0
def noInit : ErrCode := -19
def parcelError : ErrCode := 8388613
def installInternalError : ErrCode := 8519681
def installVersionDowngrade : ErrCode := 8519684
def installParamError : ErrCode := 8519686
def installEntryAlreadyExist : ErrCode := 8519688
def installStateError : ErrCode := 8519689
def installInvalidBundleFile : ErrCode := 8519692
def installGenerateUidError : ErrCode := 8519694
def installInstalldServiceError : ErrCode := 8519695
def installBundleMgrServiceError : ErrCode := 8519696
def installAlreadyExist : ErrCode := 8519697
def installBundlenameNotSame : ErrCode := 8519698
def installVersioncodeNotSame : ErrCode := 8519699
def installVersionnameNotSame : ErrCode := 8519700
def installMincompatibleVersioncodeNotSame : ErrCode := 8519701
def installVendorNotSame : ErrCode := 8519702
def installReleasetypeTargetNotSame : ErrCode := 8519703
def installReleasetypeNotSame : ErrCode := 8519704
def installReleasetypeCompatibleNotSame : ErrCode := 8519705
def installVersionNotCompatible : ErrCode := 8519706
def installInvalidNumberOfEntryHap : ErrCode := 8519707
def installDiskMemInsufficient : ErrCode := 8519708
def installGrantRequestPermissionsFailed : ErrCode := 8519709
def installUpdateHapTokenFailed : ErrCode := 8519710
def installSingletonNotSame : ErrCode := 8519711
def installZeroUserWithNoSingleton : ErrCode := 8519712
def installCheckSyscapFailed : ErrCode := 8519713
def installApptypeNotSame : ErrCode := 8519714
def installUriDuplicate : ErrCode := 8519715
def installTypeError : ErrCode := 8519716
def installFailedIncompatibleSignature : ErrCode := 8519731
def installFailedInconsistentSignature : ErrCode := 8519732
def installFailedModuleNameEmpty : ErrCode := 8519733
def installFailedModuleNameDuplicate : ErrCode := 8519734
def installFailedCheckHapHashParam : ErrCode := 8519735
def sandboxInstallAppNotExisted : ErrCode := 8519801
def sandboxInstallParamError : ErrCode := 8519802
def sandboxInstallUserNotExist : ErrCode := 8519806
def sandboxInstallInvalidAppIndex : ErrCode := 8519807
def sandboxInstallNotInstalledAtSpecifiedUserid : ErrCode := 8519808
def sandboxInstallNoSandboxAppInfo : ErrCode := 8519809
def sandboxInstallUnknownInstallType : ErrCode := 8519810
def sandboxInstallDeleteAppIndexFailed : ErrCode := 8519811
def parseUnexpected : ErrCode := 8519880
def parseBadProfile : ErrCode := 8519884
def parseProfilePropTypeError : ErrCode := 8519885
def parseProfileMissingProp : ErrCode := 8519886
def parseProfilePropCheckError : ErrCode := 8519888
def parseRpcidFailed : ErrCode := 8519889
def installdParamError : ErrCode := 8519890
def installdGetProxyError : ErrCode := 8519891
def installdCreateDirFailed : ErrCode := 8519892
def installdRemoveDirFailed : ErrCode := 8519895
def installdCleanDirFailed : ErrCode := 8519898
def uninstallSystemAppError : ErrCode := 8519899
def uninstallKillingAppError : ErrCode := 8519900
def uninstallInvalidName : ErrCode := 8519901
def uninstallBundleMgrServiceError : ErrCode := 8519904
def uninstallMissingInstalledBundle : ErrCode := 8519905
def uninstallMissingInstalledModule : ErrCode := 8519906
def recoverGetBundlepathError : ErrCode := 8520193
def userNotExist : ErrCode := 8520449
def userNotInstallHap : ErrCode := 8520452

end ErrCode

end AppExecFwk
