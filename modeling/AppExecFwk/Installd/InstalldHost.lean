import AppExecFwk.Installd.FileSystem

/-!
# Directories of a bundle

The operations of installd that make, remove and empty directories, from
`InstalldOperator` and `InstalldHostImpl`.  A step that fails ends a request; what
the steps before it have done stays.
-/

namespace AppExecFwk

open CommandProgram DirectoryTree FilePath

/-- The one function of `directory_ex.h` that makes no system call: it ends a
path with a separator. -/
structure DirectoryEx where
  includeTrailingPathDelimiter : ByteString → ByteString
  names_eq : ∀ path,
    names kSeparator (includeTrailingPathDelimiter path) = names kSeparator path
  delimited : ∀ path, path ≠ [] →
    (includeTrailingPathDelimiter path).getLast? = some kSeparator

namespace InstalldOperator

def isExistFile (path : ByteString) : FileOperation Bool := do
  if path = [] then
    return false
  return decide ((← systemCall (.stat path)) = some .file)

def isExistDir (path : ByteString) : FileOperation Bool := do
  if path = [] then
    return false
  return decide ((← systemCall (.stat path)) = some .directory)

def deleteDir (path : ByteString) : FileOperation Bool := do
  if ← isExistFile path then
    return ← systemCall (.removeFile path)
  if ← isExistDir path then
    return ← systemCall (.forceRemoveDirectory path)
  return true

/-- What the loop of `DeleteFiles` does with an entry; an entry that it passes
over leaves the result as it is. -/
def deleteEntry (directoryEx : DirectoryEx) (dataPath : ByteString)
    (ptr : Dirent) (ret : Bool) : FileOperation Bool := do
  if ptr.name = kCurrentDirectory ∨ ptr.name = kParentDirectory then
    return ret
  let subPath := directoryEx.includeTrailingPathDelimiter dataPath ++ ptr.name
  if ptr.isDirectory then
    return ← systemCall (.forceRemoveDirectory subPath)
  if ← systemCall (.access subPath) then
    return ← systemCall (.removeFile subPath)
  return ret

/-- The loop of `DeleteFiles` over the entries still to be read. -/
def deleteEntries (directoryEx : DirectoryEx) (dataPath : ByteString) :
    List Dirent → Bool → FileOperation Bool
  | [], ret => return ret
  | next :: rest, ret => do
      match ← systemCall (.readdir next) with
      | none => return ret
      | some ptr =>
          let ret ← deleteEntry directoryEx dataPath ptr ret
          deleteEntries directoryEx dataPath rest ret

def deleteFiles (directoryEx : DirectoryEx) (dataPath : ByteString) :
    FileOperation Bool := do
  match ← systemCall (.opendir dataPath) with
  | none => return false
  | some entries => deleteEntries directoryEx dataPath entries true

def changeFileAttr (filePath : ByteString) (uid gid : Int32) :
    FileOperation Bool :=
  systemCall (.chown filePath uid gid)

def mkOwnerDir (path : ByteString) (mode : UInt32) (uid gid : Int32) :
    FileOperation Bool := do
  if !(← systemCall (.forceCreateDirectory path)) then
    return false
  if !(← systemCall (.changeModeDirectory path mode)) then
    return false
  changeFileAttr path uid gid

end InstalldOperator

namespace InstalldHostImpl

open InstalldOperator

/-- `S_IRWXU` -/
def ownerMode : UInt32 := 0o700

/-- `S_IRWXU | S_IRWXG | S_ISGID` -/
def groupMode : UInt32 := 0o2770

def databaseDirGid : Int32 := 1000
def dfsGid : Int32 := 1009

def bundleEl : List ByteString :=
  [bytes "el1", bytes "el2"]

def bundleDataDirs : List ByteString :=
  [bytes "/cache", bytes "/files", bytes "/temp", bytes "/preferences",
    bytes "/haps", bytes "/el3/base", bytes "/el4/base"]

def distributedFile : ByteString :=
  bytes "/data/service/el2/%/hmdfs/account/data/"

def distributedFileNonAccount : ByteString :=
  bytes "/data/service/el2/%/hmdfs/non_account/data/"

def distributedFileProperty : String :=
  "const.distributed_file_property.enabled"

/-- `std::to_string` -/
def idText (userid : Int32) : ByteString :=
  bytes (toString userid.toInt)

def getBundleDataDir (el : ByteString) (userid : Int32) : ByteString :=
  bytes "/data/app/" ++ el ++ [kSeparator] ++ idText userid

/-- Put the user in the place of the percent sign. -/
def ofUser (distributedfile : ByteString) (userid : Int32) : ByteString :=
  let position := distributedfile.findIdx (· = 37)
  distributedfile.take position ++ idText userid ++
    distributedfile.drop (position + 1)

/-- Label a directory, in a build with SELinux. -/
def setDirApl (withSelinux : Bool) (dir bundleName apl : ByteString) :
    FileOperation ErrCode := do
  if !withSelinux then
    return .ok
  if dir = [] ∨ bundleName = [] then
    return .installdParamError
  let aplLevel := if apl = [] then bytes "normal" else apl
  systemCall (.hapFileRestorecon dir aplLevel bundleName)

def baseDir (bundleName : ByteString) (userid : Int32) (el : ByteString) :
    ByteString :=
  getBundleDataDir el userid ++ bytes "/base/" ++ bundleName

def databaseDir (bundleName : ByteString) (userid : Int32) (el : ByteString) :
    ByteString :=
  getBundleDataDir el userid ++ bytes "/database/" ++ bundleName

/-- Only the base directory of `el2` has directories inside. -/
def subDirsOf (el : ByteString) : List ByteString :=
  if el = bytes "el2" then bundleDataDirs else []

/-- The loop over the directories inside a base directory. -/
def createSubDirs (bundleDataDir : ByteString) (uid gid : Int32) :
    List ByteString → FileOperation Bool
  | [] => return true
  | dir :: rest => do
      if !(← mkOwnerDir (bundleDataDir ++ dir) ownerMode uid gid) then
        return false
      createSubDirs bundleDataDir uid gid rest

/-- What is created in each area. -/
def createOfEl (withSelinux : Bool) (bundleName : ByteString)
    (userid uid gid : Int32) (apl el : ByteString) : FileOperation ErrCode := do
  let bundleDataDir := baseDir bundleName userid el
  if !(← mkOwnerDir bundleDataDir ownerMode uid gid) then
    return .installdCreateDirFailed
  if !(← createSubDirs bundleDataDir uid gid (subDirsOf el)) then
    return .installdCreateDirFailed
  let ret ← setDirApl withSelinux bundleDataDir bundleName apl
  if ret ≠ .ok then
    return ret
  let databaseDir := databaseDir bundleName userid el
  if !(← mkOwnerDir databaseDir groupMode uid databaseDirGid) then
    return .installdCreateDirFailed
  setDirApl withSelinux databaseDir bundleName apl

/-- The loop over the areas. -/
def createOfEls (withSelinux : Bool) (bundleName : ByteString)
    (userid uid gid : Int32) (apl : ByteString) :
    List ByteString → FileOperation ErrCode
  | [] => return .ok
  | el :: rest => do
      let ret ← createOfEl withSelinux bundleName userid uid gid apl el
      if ret ≠ .ok then
        return ret
      createOfEls withSelinux bundleName userid uid gid apl rest

def accountDir (bundleName : ByteString) (userid : Int32) : ByteString :=
  ofUser distributedFile userid ++ bundleName

def nonAccountDir (bundleName : ByteString) (userid : Int32) : ByteString :=
  ofUser distributedFileNonAccount userid ++ bundleName

def createDistributed (bundleName : ByteString) (userid uid gid : Int32) :
    FileOperation ErrCode := do
  if !(← mkOwnerDir (accountDir bundleName userid) groupMode uid gid) then
    return .installdCreateDirFailed
  if !(← mkOwnerDir (nonAccountDir bundleName userid) groupMode uid
      dfsGid) then
    return .installdCreateDirFailed
  return .ok

def createBundleDataDir (withSelinux : Bool) (bundleName : ByteString)
    (userid uid gid : Int32) (apl : ByteString) : FileOperation ErrCode := do
  if bundleName = [] ∨ userid < 0 ∨ uid < 0 ∨ gid < 0 then
    return .installdParamError
  let ret ← createOfEls withSelinux bundleName userid uid gid apl bundleEl
  if ret ≠ .ok then
    return ret
  if ← systemCall (.getBoolParameter distributedFileProperty) then
    return ← createDistributed bundleName userid uid gid
  return .ok

/-- The loop over the areas. -/
def removeOfEls (bundleName : ByteString) (userid : Int32) :
    List ByteString → FileOperation ErrCode
  | [] => return .ok
  | el :: rest => do
      if !(← deleteDir (baseDir bundleName userid el)) then
        return .installdRemoveDirFailed
      if !(← deleteDir (databaseDir bundleName userid el)) then
        return .installdRemoveDirFailed
      removeOfEls bundleName userid rest

def removeBundleDataDir (bundleName : ByteString) (userid : Int32) :
    FileOperation ErrCode := do
  if bundleName = [] ∨ userid < 0 then
    return .installdParamError
  removeOfEls bundleName userid bundleEl

def cleanBundleDataDir (directoryEx : DirectoryEx) (dataDir : ByteString) :
    FileOperation ErrCode := do
  if dataDir = [] then
    return .installdParamError
  if !(← deleteFiles directoryEx dataDir) then
    return .installdCleanDirFailed
  return .ok

end InstalldHostImpl

end AppExecFwk
