import AppExecFwk.Archive.ZipWriter
import AppExecFwk.Library.WorkList

/-!
# Zipping a directory

`Zip` lists what is below a directory, takes out what a filter does not let
through, and gives the rest to a writer under its path relative to the directory.
The task around it looks at its paths first and calls back when it is done.
-/

namespace AppExecFwk

open DirectoryTree FilePath

namespace SourceFiles

variable (files : SourceFiles)

/-- All files and empty directories below a directory.  What comes of a directory
below it is not looked at: the result is set anew before each `readdir`. -/
def getZipAllDirFiles (path : ByteString) : Bool × List ByteString :=
  if path = [] ∨ path = kCurrentDirectory ∨ path = kParentDirectory then
    (true, [])
  else
    match listed : files.opendir path with
    | none => (false, [])
    | some entries =>
        (true, entries.flatMap fun entry =>
          if entry.dName = kCurrentDirectory ∨ entry.dName = kParentDirectory then []
          else
            let child := includeTrailingPathDelimiter path ++ entry.dName
            if entry.isDirectory then
              let itemFiles := (getZipAllDirFiles child).2
              if itemFiles = [] then [child] else itemFiles
            else [child])
termination_by files.rank path
decreasing_by
  next member named _ =>
    rw [not_or] at named
    exact files.descends path entries listed entry member named.1 named.2

/-- What there is of one entry of a directory. -/
def entryFiles (path : ByteString) (entry : DirEntry) : List ByteString :=
  if entry.dName = kCurrentDirectory ∨ entry.dName = kParentDirectory then []
  else
    let child := includeTrailingPathDelimiter path ++ entry.dName
    if entry.isDirectory then
      let itemFiles := (files.getZipAllDirFiles child).2
      if itemFiles = [] then [child] else itemFiles
    else [child]

variable {files}

theorem getZipAllDirFiles_of_special {path : ByteString}
    (special : path = [] ∨ path = kCurrentDirectory ∨ path = kParentDirectory) :
    files.getZipAllDirFiles path = (true, []) := by
  rw [getZipAllDirFiles, if_pos special]

theorem getZipAllDirFiles_of_opendir {path : ByteString}
    (ordinary : ¬(path = [] ∨ path = kCurrentDirectory ∨ path = kParentDirectory)) :
    files.getZipAllDirFiles path =
      match files.opendir path with
      | none => (false, [])
      | some entries => (true, entries.flatMap (files.entryFiles path)) := by
  rw [getZipAllDirFiles, if_neg ordinary]
  split
  · next none => rw [none]
  · next entries some =>
      rw [some]
      rfl

/-- What is listed below a path has a lower rank. -/
theorem rank_lt_of_mem {path file : ByteString}
    (member : file ∈ (files.getZipAllDirFiles path).2) :
    files.rank file < files.rank path := by
  induction path using getZipAllDirFiles.induct files generalizing file with
  | case1 path special =>
      rw [getZipAllDirFiles_of_special special] at member
      cases member
  | case2 path ordinary listed =>
      rw [getZipAllDirFiles_of_opendir ordinary, listed] at member
      cases member
  | case3 path ordinary entries listed ih =>
      rw [getZipAllDirFiles_of_opendir ordinary, listed] at member
      obtain ⟨entry, inEntries, isFile⟩ := List.mem_flatMap.mp member
      unfold entryFiles at isFile
      split at isFile
      · cases isFile
      · next named =>
          have below := files.descends path entries listed entry inEntries
            (not_or.mp named).1 (not_or.mp named).2
          have child {file : ByteString} (single : file ∈
              [includeTrailingPathDelimiter path ++ entry.dName]) :
              files.rank file < files.rank path := by
            rw [List.mem_singleton.mp single]
            exact below
          dsimp only at isFile
          split at isFile
          · split at isFile
            · exact child isFile
            · exact Nat.lt_trans (ih entry inEntries named isFile) below
          · exact child isFile

end SourceFiles

namespace Zip

structure DirectoryContentEntry where
  path : FilePath
  isDirectory : Bool

structure ZipParams where
  srcDir : FilePath
  destFile : FilePath
  destFd : Int32 := kInvalidPlatformFile
  srcFiles : List FilePath := []
  filterCallback : Option (FilePath → Bool) := none
  includeHiddenFiles : Bool := true

/-- The base name is taken, but the first character of the whole path is looked
at. -/
def isHiddenFile (filePath : FilePath) : Bool :=
  filePath.path.head? = some kDot

def excludeNoFilesFilter (_ : FilePath) : Bool :=
  true

def excludeHiddenFilesFilter (filePath : FilePath) : Bool :=
  !isHiddenFile filePath

section Listing

variable (files : SourceFiles)

def listDirectoryContent (filePath : FilePath) :
    Bool × List DirectoryContentEntry :=
  match files.getZipAllDirFiles filePath.path with
  | (false, _) => (false, [])
  | (true, filelist) =>
      (true, (filelist.filter (· ≠ [])).map fun str =>
        { path := { path := str }
          isDirectory := files.directoryExists { path := str } })

/-- What is listed below a directory. -/
def subEntries (entry : DirectoryContentEntry) : List DirectoryContentEntry :=
  if entry.isDirectory then (listDirectoryContent files entry.path).2 else []

/-- The entries lead to entries of lower ranks. -/
def entryDescent : Descent DirectoryContentEntry where
  successors := subEntries files
  rank entry := files.rank entry.path.path
  descends := by
    intro entry next member
    unfold subEntries listDirectoryContent at member
    split at member
    · split at member
      · cases member
      · next filelist listed =>
          obtain ⟨file, inList, rfl⟩ := List.mem_map.mp member
          apply SourceFiles.rank_lt_of_mem
          rw [listed]
          exact (List.mem_filter.mp inList).1
    · cases member

/-- Whether an entry is not to be zipped. -/
def isSkipped (params : ZipParams) (path : FilePath) : Bool :=
  (!params.includeHiddenFiles && isHiddenFile path) ||
    params.filterCallback.any fun filterCallback => !filterCallback path

/-- The loop of `Zip` over a list of entries that grows at its end. -/
def zipLoop (params : ZipParams) (isBegin : Bool)
    (entries : List DirectoryContentEntry) (allRelativeFiles : List FilePath) :
    List FilePath :=
  match entries with
  | [] => allRelativeFiles
  | entry :: rest =>
      if !isBegin && isSkipped params entry.path then
        zipLoop params false rest allRelativeFiles
      else
        let allRelativeFiles :=
          if isBegin then allRelativeFiles
          else
            match params.srcDir.appendRelativePath entry.path (some {}) with
            | (true, some relativePath) => allRelativeFiles ++ [relativePath]
            | _ => allRelativeFiles
        zipLoop params false (rest ++ subEntries files entry) allRelativeFiles
termination_by (entryDescent files).work entries
decreasing_by
  · exact (entryDescent files).work_lt_cons entry rest
  · exact (entryDescent files).work_append_lt entry rest

/-- A directory gets a separator behind it. -/
def filePathEndIsSeparator (paramPath : FilePath) : FilePath :=
  if files.isDir paramPath && !endsWith paramPath.path separatorText then
    { path := paramPath.path ++ separatorText }
  else paramPath

/-- The entries that are to be zipped. -/
def filesToAdd (params : ZipParams) : List FilePath :=
  let paramPath := filePathEndIsSeparator files params.srcDir
  if params.srcFiles ≠ [] then params.srcFiles
  else if endsWith paramPath.path separatorText then
    zipLoop files params true [{ path := params.srcDir, isDirectory := true }] []
  else [paramPath.baseName]

end Listing

section Task

variable (files : SourceFiles) (answers : ZipAnswers)

/-- `Zip` of what the parameters say. -/
def zipByParams (params : ZipParams) : Bool × ZipOutput :=
  let paramPath := filePathEndIsSeparator files params.srcDir
  let filesToAdd := filesToAdd files params
  let zipWriter :=
    if params.destFd ≠ kInvalidPlatformFile then
      ZipWriter.createWithFd answers params.destFd paramPath
    else ZipWriter.create answers params.destFile paramPath
  match zipWriter with
  | none => (false, ZipOutput.call {} .errno)
  | some zipWriter => zipWriter.writeEntries files answers filesToAdd {}

/-- A path with `.zip` behind it; `substr` throws for a path that is too short. -/
def checkDestDirTail (filePath : FilePath) : Option FilePath :=
  if filePath.path.length < zip.length then none
  else if filePath.path.drop (filePath.path.length - zip.length) = zip then
    some filePath
  else some { path := filePath.path ++ zip }

/-- What the task of `Zip` does; it has no result when an exception is thrown. -/
def zipWithFilterCallback (srcDir destFile : FilePath)
    (filterCB : FilePath → Bool) : Option (Bool × ZipOutput) :=
  let destIsValid :=
    if files.directoryExists destFile then files.pathIsValid destFile
    else files.pathIsValid destFile.dirName
  if !destIsValid then some (false, ZipOutput.call {} .errno)
  else
    let srcIsValid :=
      if files.directoryExists srcDir then files.pathIsValid srcDir
      else files.pathIsValid srcDir
    if !srcIsValid then some (false, ZipOutput.call {} .errno)
    else
      match checkDestDirTail destFile with
      | none => none
      | some destFile =>
          some (zipByParams files answers
            { srcDir := srcDir, destFile := destFile, filterCallback := some filterCB })

/-- Zip a file or a directory: what is returned, and what comes of the task that
is posted, if there is one. -/
def zipPath (srcDir destFile : FilePath) (includeHiddenFiles : Bool) :
    Bool × Option ZipOutput :=
  if srcDir.path.length = 0 ∨ destFile.path.length = 0 then
    (false, some (ZipOutput.call {} .errno))
  else
    let filterCB :=
      if includeHiddenFiles then excludeNoFilesFilter else excludeHiddenFilesFilter
    (true, (zipWithFilterCallback files answers srcDir destFile filterCB).map
      (·.2))

end Task

section Report

variable {files : SourceFiles} {answers : ZipAnswers} {srcDir destFile : FilePath}
  {includeHiddenFiles : Bool}

/-- What a task that is posted gives to `Zip`. -/
def taskParams (srcDir destFile : FilePath) (includeHiddenFiles : Bool) :
    ZipParams where
  srcDir := srcDir
  destFile := destFile
  filterCallback := some
    (if includeHiddenFiles then excludeNoFilesFilter else excludeHiddenFilesFilter)

theorem zipLoop_destFile (params : ZipParams) (other : FilePath) (isBegin : Bool)
    (entries : List DirectoryContentEntry) (allRelativeFiles : List FilePath) :
    zipLoop files { params with destFile := other } isBegin entries
        allRelativeFiles =
      zipLoop files params isBegin entries allRelativeFiles := by
  induction isBegin, entries, allRelativeFiles using
    zipLoop.induct files params with
  | case1 isBegin allRelativeFiles =>
      rw [zipLoop, zipLoop]
  | case2 isBegin allRelativeFiles entry rest skipped ih =>
      have sameSkipped : (!isBegin && isSkipped { params with destFile := other }
          entry.path) = true := skipped
      rw [zipLoop, zipLoop, if_pos sameSkipped, if_pos skipped, ih]
  | case3 isBegin allRelativeFiles entry rest kept _ ih =>
      have sameKept : ¬(!isBegin && isSkipped { params with destFile := other }
          entry.path) = true := kept
      rw [zipLoop, zipLoop, if_neg sameKept, if_neg kept]
      exact ih

/-- Which entries there are does not depend on where they are written. -/
theorem filesToAdd_destFile (params : ZipParams) (other : FilePath) :
    filesToAdd files { params with destFile := other } =
      filesToAdd files params := by
  unfold filesToAdd
  simp only [zipLoop_destFile]

/-- The entries of a task, and what its archive is to have. -/
def taskFiles (files : SourceFiles) (srcDir : FilePath)
    (includeHiddenFiles : Bool) : List FilePath :=
  filesToAdd files (taskParams srcDir {} includeHiddenFiles)

def taskEntries (files : SourceFiles) (srcDir : FilePath)
    (includeHiddenFiles : Bool) : List ArchivedEntry :=
  ZipWriter.wholeEntries files (filePathEndIsSeparator files srcDir)
    (taskFiles files srcDir includeHiddenFiles)

/-- The paths that a task takes. -/
def PathsAreValid (files : SourceFiles) (srcDir destFile : FilePath) : Prop :=
  (if files.directoryExists destFile then files.pathIsValid destFile
    else files.pathIsValid destFile.dirName) = true ∧
  files.pathIsValid srcDir = true

/-- When the writing of the entries of a task is reported once. -/
def WritingIsReported (files : SourceFiles) (answers : ZipAnswers)
    (srcDir : FilePath) (includeHiddenFiles : Bool) : Prop :=
  let rootDir := filePathEndIsSeparator files srcDir
  let paths := taskFiles files srcDir includeHiddenFiles
  if paths.length < maxPendingEntriesCount then
    ¬ZipWriter.AddsAll files answers rootDir 0 paths ∨
      answers.closesArchive = true ∧ ZipWriter.ReadsAll files answers rootDir 0 paths
  else
    ¬ZipWriter.AddsAll files answers rootDir 0
      (paths.take (ZipWriter.flushedCount false paths.length))

theorem writeEntries_reportsOnce_iff (rootDir : FilePath) (paths : List FilePath) :
    ZipWriter.ReportsOnce
        (ZipWriter.writeEntries files answers paths { rootDir := rootDir } {}).2
        (ZipWriter.wholeEntries files rootDir paths) ↔
      if paths.length < maxPendingEntriesCount then
        ¬ZipWriter.AddsAll files answers rootDir 0 paths ∨
          answers.closesArchive = true ∧
            ZipWriter.ReadsAll files answers rootDir 0 paths
      else
        ¬ZipWriter.AddsAll files answers rootDir 0
          (paths.take (ZipWriter.flushedCount false paths.length)) := by
  split
  · next few => exact ZipWriter.writeEntries_few few
  · next many => exact ZipWriter.writeEntries_many (Nat.not_lt.mp many)

/-- A task that cannot do anything reports so. -/
theorem reportsOnce_errno (whole : List ArchivedEntry) :
    ZipWriter.ReportsOnce (ZipOutput.call {} .errno) whole :=
  ZipWriter.reportsOnce_of_hasFailed ⟨rfl, rfl⟩

theorem zipByParams_eq (named : destFile.path ≠ []) :
    zipByParams files answers (taskParams srcDir destFile includeHiddenFiles) =
      if answers.opensArchive && answers.hasRoom then
        ZipWriter.writeEntries files answers
          (taskFiles files srcDir includeHiddenFiles)
          { rootDir := filePathEndIsSeparator files srcDir } {}
      else (false, ZipOutput.call {} .errno) := by
  have sameFiles : filesToAdd files (taskParams srcDir destFile includeHiddenFiles) =
      taskFiles files srcDir includeHiddenFiles :=
    filesToAdd_destFile (taskParams srcDir {} includeHiddenFiles) destFile
  have noFd : ¬(taskParams srcDir destFile includeHiddenFiles).destFd ≠
      kInvalidPlatformFile :=
    not_not.mpr rfl
  have destNamed : ¬(taskParams srcDir destFile includeHiddenFiles).destFile.path =
      [] :=
    named
  unfold zipByParams
  dsimp only
  rw [sameFiles, if_neg noFd]
  unfold ZipWriter.create
  rw [if_neg destNamed]
  cases answers.opensArchive with
  | false => rfl
  | true =>
      cases answers.hasRoom with
      | false => rfl
      | true => rfl

theorem zipByParams_reportsOnce_iff (named : destFile.path ≠ []) :
    ZipWriter.ReportsOnce
        (zipByParams files answers
          (taskParams srcDir destFile includeHiddenFiles)).2
        (taskEntries files srcDir includeHiddenFiles) ↔
      (answers.opensArchive = true ∧ answers.hasRoom = true →
        WritingIsReported files answers srcDir includeHiddenFiles) := by
  rw [zipByParams_eq named]
  by_cases opened : answers.opensArchive = true ∧ answers.hasRoom = true
  · rw [if_pos (Bool.and_eq_true_iff.mpr opened)]
    simp only [opened, and_self, true_implies]
    exact writeEntries_reportsOnce_iff _ _
  · rw [if_neg (fun both => opened (Bool.and_eq_true_iff.mp both))]
    simp only [opened, false_implies, iff_true]
    exact reportsOnce_errno _

theorem checkDestDirTail_of_le (sized : zip.length ≤ destFile.path.length) :
    ∃ checked, checkDestDirTail destFile = some checked ∧ checked.path ≠ [] := by
  have present : destFile.path ≠ [] := by
    rintro empty
    rw [empty] at sized
    exact absurd sized (by decide)
  unfold checkDestDirTail
  rw [if_neg (Nat.not_lt.mpr sized)]
  split
  · exact ⟨destFile, rfl, present⟩
  · exact ⟨_, rfl, by simp [zip]⟩

/-- A task for two paths calls back once and truthfully exactly if it does not take
its paths, or the destination is long enough for its suffix to be looked at and the
writing is reported. -/
theorem zipPath_reportsOnce_iff (srcPresent : srcDir.path ≠ [])
    (destPresent : destFile.path ≠ []) :
    (∃ output, (zipPath files answers srcDir destFile includeHiddenFiles).2 =
        some output ∧
      ZipWriter.ReportsOnce output (taskEntries files srcDir includeHiddenFiles)) ↔
    (PathsAreValid files srcDir destFile →
      zip.length ≤ destFile.path.length ∧
        (answers.opensArchive = true ∧ answers.hasRoom = true →
          WritingIsReported files answers srcDir includeHiddenFiles)) := by
  have nonempty : ¬(srcDir.path.length = 0 ∨ destFile.path.length = 0) := by
    simp [srcPresent, destPresent]
  unfold zipPath
  rw [if_neg nonempty]
  unfold zipWithFilterCallback PathsAreValid
  simp only [ite_self]
  cases destIsValid : (if files.directoryExists destFile = true then
    files.pathIsValid destFile else files.pathIsValid destFile.dirName) with
  | false => simp [reportsOnce_errno]
  | true =>
      cases srcIsValid : files.pathIsValid srcDir with
      | false => simp [reportsOnce_errno]
      | true =>
          by_cases sized : zip.length ≤ destFile.path.length
          · obtain ⟨checked, isChecked, named⟩ := checkDestDirTail_of_le sized
            have reports := @zipByParams_reportsOnce_iff files answers srcDir checked
              includeHiddenFiles named
            simp only [Bool.not_true, Bool.false_eq_true, if_false, isChecked,
              Option.map_some, Option.some.injEq, exists_eq_left', and_self,
              true_implies, sized, true_and]
            exact reports
          · have throws : checkDestDirTail destFile = none :=
              if_pos (Nat.not_le.mp sized)
            simp [throws, sized]

/-- A file `a` in the current directory. -/
def singleFile : SourceFiles where
  stat path :=
    if path = [97] then some .file
    else if path = kCurrentDirectory then some .directory
    else none
  access path := path = [97] || path = kCurrentDirectory
  opendir _ := none
  contents _ := [1, 2]
  rank _ := 0
  descends := by
    intro path entries impossible
    cases impossible

theorem zipPath_reportsOnce_single :
    ∃ output, (zipPath singleFile { entry := fun _ => { reads := some [[1, 2]] } }
        { path := [97] } { path := 98 :: zip } true).2 = some output ∧
      ZipWriter.ReportsOnce output (taskEntries singleFile { path := [97] } true) := by
  apply (zipPath_reportsOnce_iff (by decide) (by decide)).mpr
  refine fun _ => ⟨by decide, fun _ => .inr ⟨rfl, ?_⟩⟩
  exact ⟨fun _ => rfl, trivial⟩

/-- The destination `b` is in the current directory, but it is too short. -/
theorem not_zipPath_reportsOnce :
    ¬∀ files answers srcDir destFile includeHiddenFiles,
      srcDir.path ≠ [] → destFile.path ≠ [] →
        ∃ output, (zipPath files answers srcDir destFile includeHiddenFiles).2 =
            some output ∧
          ZipWriter.ReportsOnce output
            (taskEntries files srcDir includeHiddenFiles) := by
  intro all
  obtain ⟨output, ends, -⟩ := all singleFile {} { path := [97] } { path := [98] }
    true (by decide) (by decide)
  have throws : (zipPath singleFile {} { path := [97] } { path := [98] } true).2 =
      none :=
    rfl
  rw [throws] at ends
  cases ends

end Report

end Zip

end AppExecFwk
