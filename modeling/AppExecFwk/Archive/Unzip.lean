import AppExecFwk.Archive.FilePath

/-!
# Unzipping an archive into a directory

`Unzip` goes through the entries of an archive.  An entry whose name is unsafe
ends it; for any other one it makes a directory or writes a file at the path of
the destination with the name behind it, and makes the directories on the way
first.  What the zip library and the system answer comes in from outside: the
entries as the library gives them out, and whether the system does what it is
asked.
-/

namespace AppExecFwk

open DirectoryTree FilePath

/-- Something that is made or written. -/
inductive FileEffect where
  | createDirectory (place : Place UInt8)
  | openFile (place : Place UInt8)
  | writeBytes (place : Place UInt8) (count : Nat)
  deriving DecidableEq

def FileEffect.place : FileEffect → Place UInt8
  | createDirectory place | openFile place | writeBytes place _ => place

/-- The files and what has been done to them so far, the last first. -/
structure Disk where
  tree : FileTree UInt8
  workingDirectory : Place UInt8 := []
  effects : List FileEffect := []

/-- Whether the system does what it is asked, given what has been done so far. -/
abbrev Permits := List FileEffect → FileEffect → Bool

/-- A path as the system sees it: `c_str()` ends at the first zero. -/
def FilePath.cStr (filePath : FilePath) : FilePath where
  path := filePath.path.takeWhile (· ≠ 0)

/-- Where a path starts. -/
def FilePath.originFrom (filePath : FilePath) (workingDirectory : Place UInt8) :
    Place UInt8 :=
  if filePath.cStr.isAbsolute then [] else workingDirectory

/-- Where a path leads once `.` and `..` are resolved. -/
def FilePath.placeFrom (filePath : FilePath) (workingDirectory : Place UInt8) :
    Place UInt8 :=
  walk kDot (filePath.originFrom workingDirectory) filePath.cStr.names

namespace Disk

variable (disk : Disk)

def origin (filePath : FilePath) : Place UInt8 :=
  filePath.originFrom disk.workingDirectory

def placeOf (filePath : FilePath) : Place UInt8 :=
  filePath.placeFrom disk.workingDirectory

def endsWithSeparator (filePath : FilePath) : Bool :=
  filePath.path.getLast? = some kSeparator

/-- `stat()` -/
def stat (filePath : FilePath) : Option FileKind :=
  if filePath.cStr.path = [] then none
  else
    match disk.tree.traverse kDot (disk.origin filePath)
        filePath.cStr.names with
    | none => none
    | some place =>
        match disk.tree.kind place with
        | some .file =>
            if endsWithSeparator filePath.cStr then none else some .file
        | kind => kind

/-- The directory and the name in it that a path ends with. -/
def lookup (filePath : FilePath) : Option (Place UInt8 × ByteString) :=
  match filePath.cStr.names.getLast? with
  | none => none
  | some name =>
      match disk.tree.traverse kDot (disk.origin filePath)
          filePath.cStr.names.dropLast with
      | none => none
      | some place =>
          if IsPlain kDot name ∧ disk.tree.kind place = some .directory then
            some (place, name)
          else none

/-- `mkdir()` -/
def mkdir (permits : Permits) (filePath : FilePath) : Bool × Disk :=
  match disk.lookup filePath with
  | none => (false, disk)
  | some (place, name) =>
      if free : disk.tree.kind place = some .directory ∧
          disk.tree.kind (name :: place) = none then
        if permits disk.effects (.createDirectory (name :: place)) then
          (true, { disk with
            tree := disk.tree.create .directory name place free.1 free.2
            effects := .createDirectory (name :: place) :: disk.effects })
        else (false, disk)
      else (false, disk)

/-- `fopen(.., "wb")` -/
def fopen (permits : Permits) (filePath : FilePath) :
    Option (Place UInt8) × Disk :=
  if endsWithSeparator filePath.cStr then (none, disk)
  else
    match disk.lookup filePath with
    | none => (none, disk)
    | some (place, name) =>
        if permits disk.effects (.openFile (name :: place)) then
          if disk.tree.kind (name :: place) = some .file then
            (some (name :: place), { disk with
              effects := .openFile (name :: place) :: disk.effects })
          else if free : disk.tree.kind place = some .directory ∧
              disk.tree.kind (name :: place) = none then
            (some (name :: place), { disk with
              tree := disk.tree.create .file name place free.1 free.2
              effects := .openFile (name :: place) :: disk.effects })
          else (none, disk)
        else (none, disk)

/-- `fwrite()` -/
def fwrite (permits : Permits) (place : Place UInt8) (count : Nat) :
    Bool × Disk :=
  if permits disk.effects (.writeBytes place count) then
    (true, { disk with effects := .writeBytes place count :: disk.effects })
  else (false, disk)

def directoryExists (filePath : FilePath) : Bool :=
  disk.stat filePath = some .directory

def pathIsValid (filePath : FilePath) : Bool :=
  (disk.stat filePath).isSome

/-- The loop of `FilePath::CreateDirectory` over the missing directories. -/
def createDirectories (permits : Permits) :
    Disk → List FilePath → Bool × Disk
  | disk, [] => (true, disk)
  | disk, path :: rest =>
      if disk.directoryExists path then createDirectories permits disk rest
      else
        match disk.mkdir permits path with
        | (true, disk) => createDirectories permits disk rest
        | (false, disk) =>
            if disk.directoryExists path then
              createDirectories permits disk rest
            else (false, disk)

end Disk

/-- Make a directory and those on the way to it. -/
def FilePath.createDirectory (permits : Permits) (disk : Disk)
    (fullPath : FilePath) : Bool × Disk :=
  disk.createDirectories permits fullPath.subpaths.reverse

/-- The characters of a path that the library takes: `[0-9A-Za-z/+_=\-,.]`. -/
def isPathCharacter (character : UInt8) : Bool :=
  (48 ≤ character && character ≤ 57) || (65 ≤ character && character ≤ 90) ||
    (97 ≤ character && character ≤ 122) ||
    [47, 43, 95, 61, 45, 44, 46].elem character

def filePathCheckValid (path : ByteString) : Bool :=
  path ≠ [] ∧ path.all isPathCharacter

/-- The writer of one file. -/
structure FilePathWriterDelegate where
  outputFilePath : FilePath
  file : Option (Place UInt8) := none

namespace FilePathWriterDelegate

variable (delegate : FilePathWriterDelegate)

/-- Make the directory of the file and open it. -/
def prepareOutput (permits : Permits) (disk : Disk) :
    Bool × FilePathWriterDelegate × Disk :=
  if !filePathCheckValid delegate.outputFilePath.path then
    (false, delegate, disk)
  else
    match delegate.outputFilePath.dirName.createDirectory permits disk with
    | (false, disk) => (false, delegate, disk)
    | (true, disk) =>
        let (file, disk) := disk.fopen permits delegate.outputFilePath
        (disk.pathIsValid delegate.outputFilePath,
          { delegate with file := file }, disk)

def writeBytes (permits : Permits) (disk : Disk) (numBytes : Nat) :
    Bool × Disk :=
  match delegate.file with
  | none => (false, disk)
  | some place =>
      if numBytes = 0 then (false, disk)
      else disk.fwrite permits place numBytes

end FilePathWriterDelegate

/-- What the zip library gives out about one entry. -/
structure UnzEntry where
  /-- The name of `unzGetCurrentFileInfo`, none if the call fails. -/
  rawFileName : Option ByteString
  /-- Whether `unzOpenCurrentFile` succeeds. -/
  opens : Bool := true
  /-- What `unzReadCurrentFile` returns, call by call; then the file ends. -/
  reads : List Int32 := []
  /-- Whether `unzGetFilePos` succeeds. -/
  hasPosition : Bool := true
  /-- Whether `unzGoToNextFile` succeeds. -/
  goesOn : Bool := true

/-- What the zip library gives out about an archive. -/
structure UnzArchive where
  opens : Bool := true
  /-- The number of entries of `unzGetGlobalInfo`, none if the call fails. -/
  numberEntry : Option Int32
  entries : List UnzEntry

def kZipMaxPath : Nat := 256

/-- The name of an entry as it is in the buffer, up to a zero. -/
def UnzEntry.fileName (entry : UnzEntry) : Option ByteString :=
  entry.rawFileName.map fun name =>
    (name.take (kZipMaxPath - 1)).takeWhile (· ≠ 0)

namespace ZipReader

structure EntryInfo where
  filePath : FilePath
  isDirectory : Bool
  isUnsafe : Bool

def EntryInfo.ofName (fileNameInZip : ByteString) : EntryInfo :=
  let filePath : FilePath := { path := fileNameInZip }
  { filePath := filePath
    isDirectory := fileNameInZip.getLast? = some kSeparator
    isUnsafe :=
      -- An absolute name is meant to be unsafe, but the flag is cleared.
      if filePath.isAbsolute || fileNameInZip.head? = some kSeparator then false
      else filePath.referencesParent }

/-- The loop of `ExtractCurrentEntry`. -/
def extractLoop (permits : Permits) (delegate : FilePathWriterDelegate) :
    List Int32 → Nat → Disk → Bool × Disk
  | [], remainingCapacity, disk => (0 < remainingCapacity, disk)
  | numBytesRead :: reads, remainingCapacity, disk =>
      if remainingCapacity = 0 then (false, disk)
      else if numBytesRead = 0 then (true, disk)
      else if numBytesRead < 0 then (false, disk)
      else
        let numBytes := numBytesRead.toNatClampNeg
        let numBytesToWrite := min remainingCapacity numBytes
        match delegate.writeBytes permits disk numBytesToWrite with
        | (false, disk) => (false, disk)
        | (true, disk) =>
            if remainingCapacity = numBytes then
              (reads.head?.getD 0 = 0, disk)
            else
              extractLoop permits delegate reads
                (remainingCapacity - numBytesToWrite) disk

/-- The largest number of bytes that `Unzip` extracts of an entry. -/
def maxNumBytes : Nat := 2 ^ 64 - 1

def extractCurrentEntry (permits : Permits) (entry : UnzEntry)
    (delegate : FilePathWriterDelegate) (disk : Disk) : Bool × Disk :=
  if !entry.opens then (false, disk)
  else
    match delegate.prepareOutput permits disk with
    | (false, _, disk) => (false, disk)
    | (true, delegate, disk) =>
        extractLoop permits delegate entry.reads maxNumBytes disk

end ZipReader

namespace Zip

inductive ErrorCode where
  | ok
  | errno
  deriving DecidableEq

/-- The path of an entry in a directory. -/
def entryPath (extractDir : FilePath) (fileName : FilePath) : FilePath where
  path :=
    if Disk.endsWithSeparator extractDir then extractDir.path ++ fileName.path
    else extractDir.path ++ kSeparator :: fileName.path

/-- Make the directory of an entry. -/
def createDirectory (permits : Permits) (extractDir fileName : FilePath)
    (disk : Disk) : Bool × Disk :=
  (entryPath extractDir fileName).createDirectory permits disk

def createFilePathWriterDelegate (extractDir fileName : FilePath) :
    FilePathWriterDelegate where
  outputFilePath := entryPath extractDir fileName

/-- Make the directory or the file of an entry. -/
def unzipEntry (permits : Permits) (destDir : FilePath) (entry : UnzEntry)
    (info : ZipReader.EntryInfo) (disk : Disk) : Bool × Disk :=
  if info.isDirectory then createDirectory permits destDir info.filePath disk
  else
    ZipReader.extractCurrentEntry permits entry
      (createFilePathWriterDelegate destDir info.filePath) disk

/-- The loop of `UnzipWithFilterAndWriters` from the entry at an index, which is
the first of those that are left. -/
def unzipLoop (permits : Permits) (destDir : FilePath)
    (filter : FilePath → Bool) (numEntries : Int) :
    Int → List UnzEntry → Disk → ErrorCode × Disk
  | _, [], disk => (.errno, disk)
  | index, entry :: rest, disk =>
      match entry.fileName with
      | none => (.errno, disk)
      | some fileName =>
          let info := ZipReader.EntryInfo.ofName fileName
          if fileName = [] || info.isUnsafe then (.errno, disk)
          else
            match if filter info.filePath then
                unzipEntry permits destDir entry info disk
              else (true, disk) with
            | (false, disk) => (.errno, disk)
            | (true, disk) =>
                if !entry.hasPosition then (.errno, disk)
                else if index + 1 = numEntries then (.ok, disk)
                else if entry.goesOn then
                  unzipLoop permits destDir filter numEntries (index + 1) rest
                    disk
                else (.errno, disk)

def unzipWithFilterAndWriters (permits : Permits) (archive : UnzArchive)
    (destDir : FilePath) (filter : FilePath → Bool) (disk : Disk) :
    ErrorCode × Disk :=
  if !archive.opens then (.errno, disk)
  else
    match archive.numberEntry with
    | none => (.errno, disk)
    | some numEntries =>
        if numEntries < 0 then (.errno, disk)
        else if numEntries = 0 then (.ok, disk)
        else
          unzipLoop permits destDir filter numEntries.toInt 0 archive.entries
            disk

/-- `opened` tells whether the source file can be opened. -/
def unzipWithFilterCallback (permits : Permits) (archive : UnzArchive)
    (opened : Bool) (srcFile destDir : FilePath) (filter : FilePath → Bool)
    (disk : Disk) : ErrorCode × Disk :=
  if !filePathCheckValid srcFile.path then (.errno, disk)
  else if !disk.pathIsValid srcFile then (.errno, disk)
  else if !opened then (.errno, disk)
  else unzipWithFilterAndWriters permits archive destDir filter disk

/-- `.zip` -/
def zip : ByteString := [46, 122, 105, 112]

/-- Unzip an archive; the result is what the callback is told. -/
def unzip (permits : Permits) (archive : UnzArchive) (opened : Bool)
    (srcFile destDir : FilePath) (disk : Disk) : ErrorCode × Disk :=
  if destDir.path.length = 0 ∨ srcFile.path.length = 0 ∨
      srcFile.path.length ≤ zip.length then (.errno, disk)
  else if srcFile.path.drop (srcFile.path.length - zip.length) ≠ zip then
    (.errno, disk)
  else if !disk.pathIsValid srcFile then (.errno, disk)
  else if !disk.directoryExists destDir then (.errno, disk)
  else
    unzipWithFilterCallback permits archive opened srcFile destDir
      (fun _ => true) disk

end Zip

/-- What is made between two states of the disk is at places that were no
directories before, and nothing is removed. -/
structure Disk.Makes (allowed : Place UInt8 → Prop) (before after : Disk) :
    Prop where
  sameDirectory : after.workingDirectory = before.workingDirectory
  keeps : ∀ place kind, before.tree.kind place = some kind →
    after.tree.kind place = some kind
  made : ∃ effects, after.effects = effects ++ before.effects ∧
    ∀ effect ∈ effects, allowed effect.place ∧
      before.tree.kind effect.place ≠ some .directory

/-- A place that a path leads along. -/
def Disk.IsOnWay (disk : Disk) (filePath : FilePath) (place : Place UInt8) :
    Prop :=
  ∃ way, way <+: filePath.cStr.names ∧
    place = walk kDot (disk.origin filePath) way

namespace Disk

variable {disk before middle after : Disk} {allowed : Place UInt8 → Prop}
  {filePath front : FilePath} {permits : Permits} {place : Place UInt8}
  {name : ByteString}

theorem Makes.refl (disk : Disk) : Makes allowed disk disk :=
  ⟨rfl, fun _ _ present => present, [], rfl, by simp⟩

theorem Makes.trans (first : Makes allowed before middle)
    (second : Makes allowed middle after) : Makes allowed before after := by
  obtain ⟨made, madeEq, madeAllowed⟩ := first.made
  obtain ⟨others, othersEq, othersAllowed⟩ := second.made
  refine ⟨second.sameDirectory.trans first.sameDirectory, ?_,
    others ++ made, by rw [othersEq, madeEq, List.append_assoc], ?_⟩
  · intro place kind present
    exact second.keeps place kind (first.keeps place kind present)
  · intro effect member
    rcases List.mem_append.mp member with later | earlier
    · obtain ⟨isAllowed, absent⟩ := othersAllowed effect later
      refine ⟨isAllowed, ?_⟩
      intro present
      exact absent (first.keeps _ _ present)
    · exact madeAllowed effect earlier

theorem Makes.mono {others : Place UInt8 → Prop} (makes : Makes allowed before after)
    (wider : ∀ place, allowed place → others place) :
    Makes others before after := by
  obtain ⟨made, madeEq, madeAllowed⟩ := makes.made
  refine ⟨makes.sameDirectory, makes.keeps, made, madeEq, ?_⟩
  intro effect member
  exact ⟨wider _ (madeAllowed effect member).1, (madeAllowed effect member).2⟩

theorem origin_congr (same : after.workingDirectory = before.workingDirectory)
    (filePath : FilePath) : after.origin filePath = before.origin filePath := by
  unfold origin
  rw [same]

theorem placeOf_congr (same : after.workingDirectory = before.workingDirectory)
    (filePath : FilePath) : after.placeOf filePath = before.placeOf filePath := by
  unfold placeOf
  rw [same]

theorem isOnWay_congr (same : after.workingDirectory = before.workingDirectory)
    (onWay : after.IsOnWay filePath place) : before.IsOnWay filePath place := by
  obtain ⟨way, isPrefix, isPlace⟩ := onWay
  exact ⟨way, isPrefix, by rw [isPlace, origin_congr same]⟩

theorem isOnWay_placeOf (disk : Disk) (filePath : FilePath) :
    disk.IsOnWay filePath (disk.placeOf filePath) :=
  ⟨_, List.prefix_refl _, rfl⟩

theorem cStr_isAbsolute_of_ne_nil (nonempty : front.path ≠ [])
    {rest : ByteString} :
    (cStr { path := front.path ++ rest }).isAbsolute = front.cStr.isAbsolute := by
  obtain ⟨first, others, path⟩ := List.exists_cons_of_ne_nil nonempty
  simp only [cStr, isAbsolute, path, List.cons_append, List.takeWhile_cons]
  split <;> rfl

/-- A path in front of another one leads to a place on its way. -/
theorem isOnWay_of_isFrontOf (isFront : front.IsFrontOf filePath) :
    disk.IsOnWay filePath (disk.placeOf front) := by
  rcases isFront with ⟨current, relative⟩ | ⟨rest, all, nonempty, meet⟩
  · have front : front = { path := kCurrentDirectory } := by
      cases front
      exact congrArg FilePath.mk current
    have relative : filePath.cStr.isAbsolute = false := by
      rw [Bool.eq_false_iff, ne_eq, isAbsolute_iff] at relative ⊢
      intro first
      apply relative
      unfold cStr at first
      cases path : filePath.path with
      | nil => simp [path] at first
      | cons character rest =>
          rw [path, List.takeWhile_cons] at first
          split at first
          · exact first
          · simp at first
    refine ⟨[], List.nil_prefix, ?_⟩
    subst front
    have currentRelative : (cStr { path := kCurrentDirectory }).isAbsolute = false := by
      decide
    unfold placeOf placeFrom origin originFrom
    rw [relative, currentRelative]
    rfl
  · have path : filePath = { path := front.path ++ rest } := by
      cases filePath
      exact congrArg FilePath.mk all
    subst path
    have sameOrigin : disk.origin { path := front.path ++ rest } =
        disk.origin front := by
      unfold origin originFrom
      rw [cStr_isAbsolute_of_ne_nil nonempty]
    refine ⟨front.cStr.names, ?_, by rw [sameOrigin]; rfl⟩
    unfold cStr FilePath.names
    simp only
    rw [List.takeWhile_append]
    split
    · next whole =>
        have same : front.path.takeWhile (· ≠ 0) = front.path :=
          (List.takeWhile_prefix _).eq_of_length whole
        rw [same, names_append]
        · exact List.prefix_append _ _
        · rcases meet with rfl | behind | before
          · exact .inl rfl
          · obtain ⟨others, rfl⟩ := List.head?_eq_some_iff.mp behind
            exact .inr (.inl rfl)
          · exact .inr (.inr before)
    · exact List.prefix_refl _

/-- What is looked up is a name in an existing directory, at the place that the
path leads to. -/
theorem lookup_eq_some (found : disk.lookup filePath = some (place, name)) :
    disk.placeOf filePath = name :: place ∧ IsPlain kDot name := by
  unfold lookup at found
  split at found
  · cases found
  · next last isLast =>
      split at found
      · cases found
      · next directory traversed =>
          split at found
          · next plain =>
              cases found
              have names := List.dropLast_append_getLast? name isLast
              have walked := (FileTree.traverse_eq_some.mp traversed).1
              refine ⟨?_, plain.1⟩
              unfold placeOf placeFrom
              unfold origin at walked
              rw [← names, walk_concat, ← walked, step_of_isPlain plain.1]
          · cases found

theorem makes_mkdir (permits : Permits) (disk : Disk) (filePath : FilePath) :
    Makes (· = disk.placeOf filePath) disk (disk.mkdir permits filePath).2 := by
  unfold mkdir
  split
  · exact .refl disk
  · next place name found =>
      split
      · next free =>
          split
          · refine ⟨rfl, ?_, [.createDirectory (name :: place)], rfl, ?_⟩
            · intro other kind present
              exact FileTree.create_keeps free.1 free.2 present
            · intro effect member
              rw [List.mem_singleton.mp member]
              refine ⟨(lookup_eq_some found).1.symm, ?_⟩
              unfold FileEffect.place
              rw [free.2]
              simp
          · exact .refl disk
      · exact .refl disk

theorem makes_createDirectories (permits : Permits) (disk : Disk)
    (paths : List FilePath) :
    Makes (fun place => ∃ path ∈ paths, place = disk.placeOf path) disk
      (createDirectories permits disk paths).2 := by
  induction paths generalizing disk with
  | nil => exact .refl disk
  | cons path rest ih =>
      have wider : ∀ place, (∃ path ∈ rest, place = disk.placeOf path) →
          ∃ other ∈ path :: rest, place = disk.placeOf other := by
        rintro place ⟨other, member, isPlace⟩
        exact ⟨other, List.mem_cons_of_mem _ member, isPlace⟩
      unfold createDirectories
      split
      · exact (ih disk).mono wider
      · have makes := makes_mkdir permits disk path
        have first : Makes (fun place =>
            ∃ other ∈ path :: rest, place = disk.placeOf other) disk
            (disk.mkdir permits path).2 := by
          apply makes.mono
          rintro place rfl
          exact ⟨path, List.mem_cons_self, rfl⟩
        have second : Makes (fun place =>
            ∃ other ∈ path :: rest, place = disk.placeOf other)
            (disk.mkdir permits path).2
            (createDirectories permits (disk.mkdir permits path).2 rest).2 := by
          apply (ih (disk.mkdir permits path).2).mono
          rintro place ⟨other, member, isPlace⟩
          refine ⟨other, List.mem_cons_of_mem _ member, ?_⟩
          rw [isPlace, placeOf_congr makes.sameDirectory]
        split
        · next made =>
            rw [made] at first second
            exact first.trans second
        · next failed =>
            rw [failed] at first second
            split
            · exact first.trans second
            · exact first

/-- A path made by `CreateDirectory` is one on the way. -/
theorem makes_createDirectory (permits : Permits) (disk : Disk)
    (isFront : front.IsFrontOf filePath) :
    Makes (disk.IsOnWay filePath) disk
      (front.createDirectory permits disk).2 := by
  apply (makes_createDirectories permits disk front.subpaths.reverse).mono
  rintro place ⟨path, member, rfl⟩
  apply isOnWay_of_isFrontOf
  rw [List.mem_reverse] at member
  rcases List.mem_cons.mp member with rfl | above
  · exact isFront
  · exact isFrontOf_of_mem_subpathsFrom isFront above

theorem makes_fopen (permits : Permits) (disk : Disk) (filePath : FilePath) :
    Makes (disk.IsOnWay filePath) disk (disk.fopen permits filePath).2 ∧
      ∀ place, (disk.fopen permits filePath).1 = some place →
        place = disk.placeOf filePath ∧
          (disk.fopen permits filePath).2.tree.kind place = some .file := by
  unfold fopen
  split
  · exact ⟨.refl disk, nofun⟩
  · split
    · exact ⟨.refl disk, nofun⟩
    · next place name found =>
        have isPlace := (lookup_eq_some found).1
        have onWay := disk.isOnWay_placeOf filePath
        rw [isPlace] at onWay
        split
        · split
          · next isFile =>
              refine ⟨⟨rfl, fun _ _ present => present,
                [.openFile (name :: place)], rfl, ?_⟩, ?_⟩
              · intro effect member
                rw [List.mem_singleton.mp member]
                refine ⟨onWay, ?_⟩
                unfold FileEffect.place
                rw [isFile]
                simp
              · rintro opened ⟨⟩
                exact ⟨isPlace.symm, isFile⟩
          · split
            · next free =>
                refine ⟨⟨rfl, ?_, [.openFile (name :: place)], rfl, ?_⟩, ?_⟩
                · intro other kind present
                  exact FileTree.create_keeps free.1 free.2 present
                · intro effect member
                  rw [List.mem_singleton.mp member]
                  refine ⟨onWay, ?_⟩
                  unfold FileEffect.place
                  rw [free.2]
                  simp
                · rintro opened ⟨⟩
                  refine ⟨isPlace.symm, ?_⟩
                  simp only
                  rw [FileTree.create_kind, if_pos rfl]
            · exact ⟨.refl disk, nofun⟩
        · exact ⟨.refl disk, nofun⟩

theorem makes_fwrite (permits : Permits) (disk : Disk) (count : Nat)
    (isFile : disk.tree.kind place = some .file) (isAllowed : allowed place) :
    Makes allowed disk (disk.fwrite permits place count).2 := by
  unfold fwrite
  split
  · refine ⟨rfl, fun _ _ present => present, [.writeBytes place count], rfl, ?_⟩
    intro effect member
    rw [List.mem_singleton.mp member]
    refine ⟨isAllowed, ?_⟩
    unfold FileEffect.place
    rw [isFile]
    simp
  · exact .refl disk

end Disk

section Entries

variable {disk : Disk} {allowed : Place UInt8 → Prop} {permits : Permits}
  {delegate : FilePathWriterDelegate}

/-- The writer makes the directories of its file and the file, and has the file
open if anything. -/
theorem FilePathWriterDelegate.makes_prepareOutput (permits : Permits)
    (disk : Disk) (closed : delegate.file = none) :
    Disk.Makes (disk.IsOnWay delegate.outputFilePath) disk
        (delegate.prepareOutput permits disk).2.2 ∧
      ∀ place, (delegate.prepareOutput permits disk).2.1.file = some place →
        disk.IsOnWay delegate.outputFilePath place ∧
          (delegate.prepareOutput permits disk).2.2.tree.kind place =
            some .file := by
  unfold prepareOutput
  split
  · exact ⟨.refl disk, by simp [closed]⟩
  · have made := Disk.makes_createDirectory permits disk
      (dirName_spec delegate.outputFilePath).1
    split
    · next disk' failed =>
        rw [failed] at made
        exact ⟨made, by simp [closed]⟩
    · next disk' done =>
        rw [done] at made
        obtain ⟨opened, file⟩ :=
          Disk.makes_fopen permits disk' delegate.outputFilePath
        have same := made.sameDirectory
        refine ⟨made.trans (opened.mono fun place => Disk.isOnWay_congr same), ?_⟩
        intro place isOpen
        obtain ⟨isPlace, isFile⟩ := file place isOpen
        refine ⟨?_, isFile⟩
        rw [isPlace, Disk.placeOf_congr same]
        exact disk.isOnWay_placeOf _

theorem ZipReader.makes_extractLoop (reads : List Int32) (capacity : Nat)
    (disk : Disk)
    (isFile : ∀ place, delegate.file = some place →
      allowed place ∧ disk.tree.kind place = some .file) :
    Disk.Makes allowed disk
      (extractLoop permits delegate reads capacity disk).2 := by
  induction reads generalizing capacity disk with
  | nil => exact .refl disk
  | cons numBytesRead reads ih =>
      unfold extractLoop
      split
      · exact .refl disk
      split
      · exact .refl disk
      split
      · exact .refl disk
      have written (count : Nat) : Disk.Makes allowed disk
          (delegate.writeBytes permits disk count).2 := by
        unfold FilePathWriterDelegate.writeBytes
        split
        · exact .refl disk
        · next place isOpen =>
            split
            · exact .refl disk
            · exact Disk.makes_fwrite permits disk count (isFile place isOpen).2
                (isFile place isOpen).1
      dsimp only
      split
      · next disk' failed =>
          have first := written (min capacity numBytesRead.toNatClampNeg)
          rw [failed] at first
          exact first
      · next disk' done =>
          have first := written (min capacity numBytesRead.toNatClampNeg)
          rw [done] at first
          split
          · exact first
          · apply first.trans
            apply ih
            intro place isOpen
            exact ⟨(isFile place isOpen).1, first.keeps _ _ (isFile place isOpen).2⟩

theorem ZipReader.makes_extractCurrentEntry (permits : Permits)
    (entry : UnzEntry) (disk : Disk) (closed : delegate.file = none) :
    Disk.Makes (disk.IsOnWay delegate.outputFilePath) disk
      (extractCurrentEntry permits entry delegate disk).2 := by
  unfold extractCurrentEntry
  split
  · exact .refl disk
  · obtain ⟨made, file⟩ := FilePathWriterDelegate.makes_prepareOutput permits disk
      closed
    split
    · next failed =>
        rw [failed] at made
        exact made
    · next done =>
        rw [done] at made file
        exact made.trans (makes_extractLoop _ _ _ file)

/-- An entry makes nothing but places on the way of its path. -/
theorem Zip.makes_unzipEntry (permits : Permits) (destDir : FilePath)
    (entry : UnzEntry) (info : ZipReader.EntryInfo) (disk : Disk)
    (named : info.filePath.path ≠ []) :
    Disk.Makes (disk.IsOnWay (entryPath destDir info.filePath)) disk
      (unzipEntry permits destDir entry info disk).2 := by
  unfold unzipEntry
  split
  · apply Disk.makes_createDirectory
    apply IsFrontOf.refl
    unfold entryPath
    split <;> simp [named]
  · have closed : (createFilePathWriterDelegate destDir info.filePath).file =
        none := rfl
    exact ZipReader.makes_extractCurrentEntry permits entry disk closed

end Entries

end AppExecFwk
