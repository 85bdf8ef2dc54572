import AppExecFwk.Archive.ZipFile

/-!
# Opening an archive

What an archive says about its entries is defined here in exact arithmetic, and
`Open` is compared with it over all sequences of calls.  The two agree exactly
as long as `Open` only ever reads well formed archives: it calls an object open
even if the archive could not be read, adds two numbers of 32 bits without
carry, cuts names to 255 bytes and reads on behind the end of the archive.
-/

namespace AppExecFwk

open ByteFile ZipFile

/-- An archive from some offset on: records of the central directory, one after
the other, with their names.  Everything that is read lies in the archive. -/
inductive Directory (archive : List UInt8) :
    Nat → List (CentralDirEntry × ByteString) → Prop where
  | nil (offset : Nat) : Directory archive offset []
  | cons {offset : Nat} {header : CentralDirEntry}
      {rest : List (CentralDirEntry × ByteString)}
      (inside : offset + CentralDirEntry.size + header.nameSize.toNat ≤
        archive.length)
      (read : header =
        .ofBytes (slice archive offset CentralDirEntry.size))
      (signature : header.signature = centralSignature)
      (next : Directory archive
        (offset + CentralDirEntry.size + (header.nameSize.toNat +
          header.extraSize.toNat + header.commentSize.toNat)) rest) :
      Directory archive offset
        ((header, slice archive (offset + CentralDirEntry.size)
          header.nameSize.toNat) :: rest)

/-- The record that an archive ends with. -/
def endRecord (archive : List UInt8) : EndDir :=
  .ofBytes (slice archive (archive.length - EndDir.size) EndDir.size)

/-- An archive lists records in its central directory. -/
structure Lists (archive : List UInt8)
    (records : List (CentralDirEntry × ByteString)) : Prop where
  signature : (endRecord archive).signature = eocdSignature
  consistent : (endRecord archive).offset.toNat +
    (endRecord archive).sizeOfCentralDir.toNat + EndDir.size ≤ archive.length
  directory : Directory archive (endRecord archive).offset.toNat records
  count : records.length = (endRecord archive).totalEntries.toNat

/-- The entry of a record. -/
def entryOf (record : CentralDirEntry × ByteString) : ZipEntry :=
  { ZipEntry.ofCentral record.1 with fileName := record.2 }

/-- The entries of the records under their names, the last one of every name. -/
def entriesOf (records : List (CentralDirEntry × ByteString))
    (entriesMap : ZipEntryMap) : ZipEntryMap :=
  records.foldl (fun entriesMap record =>
    entriesMap.insert record.2 (entryOf record)) entriesMap

/-- The part of a file that is the archive. -/
def contentOf (file : RegularFile) (start length : UInt64) : List UInt8 :=
  slice file.bytes start.toNat length.toNat

/-- The map of an open archive has exactly the entries of its central
directory. -/
def ZipFile.IsSound (zip : ZipFile) : Prop :=
  ∃ file records, zip.file = some file ∧
    zip.fileStartPos.toNat + zip.fileLength.toNat ≤ file.bytes.length ∧
    Lists (contentOf file zip.fileStartPos zip.fileLength) records ∧
    zip.entriesMap = entriesOf records ∅

/-- The archives that `Open` reads: they lie in the file, have one disk and no
comment, the end of the directory is consistent, and every name has between 1
and 255 bytes. -/
structure WellFormed (file : RegularFile) (start length : UInt64) : Prop where
  inFile : start.toNat + length.toNat ≤ file.bytes.length
  longEnough : EndDir.size < length.toNat
  oneDisk : (endRecord (contentOf file start length)).numDisk = 0 ∧
    (endRecord (contentOf file start length)).startDiskOfCentralDir = 0
  allEntries : (endRecord (contentOf file start length)).totalEntriesInThisDisk =
    (endRecord (contentOf file start length)).totalEntries
  noComment : (endRecord (contentOf file start length)).commentLen = 0
  lists : ∃ records, Lists (contentOf file start length) records ∧
    ∀ record ∈ records, 0 < record.1.nameSize.toNat ∧
      record.1.nameSize.toNat < maxFileName

section Reading

variable {file : RegularFile} {start length currentPos : UInt64} {offset : Nat}

theorem length_contentOf
    (inFile : start.toNat + length.toNat ≤ file.bytes.length) :
    (contentOf file start length).length = length.toNat :=
  length_slice_of_le inFile

theorem readNameSize_le (nameSize : UInt16) :
    readNameSize nameSize ≤ nameSize.toNat := by
  unfold readNameSize
  split <;> omega

/-- When a record is read, and which. -/
theorem readCentralEntry_eq_some {header : CentralDirEntry}
    {name : ByteString} :
    readCentralEntry file currentPos = some (header, name) ↔
      header = .ofBytes
        (slice file.bytes currentPos.toNat CentralDirEntry.size) ∧
      header.signature = centralSignature ∧
      0 < readNameSize header.nameSize ∧
      currentPos.toNat + CentralDirEntry.size + readNameSize header.nameSize ≤
        file.bytes.length ∧
      name = slice file.bytes (currentPos.toNat + CentralDirEntry.size)
        (readNameSize header.nameSize) := by
  have bound := file.length_lt
  simp only [readCentralEntry, Option.bind_eq_bind, Option.bind_eq_some_iff,
    Prod.exists, Stream.seek_eq_some, Stream.readItem_eq_some]
  constructor
  · rintro ⟨stream, ⟨seekable, rfl⟩, record, next, ⟨-, inside, rfl, rfl⟩, read⟩
    split at read
    · cases read
    · next signature =>
        simp only [Option.bind_eq_some_iff, Prod.exists,
          Stream.readItem_eq_some] at read
        obtain ⟨fileName, last, ⟨positive, insideName, rfl, -⟩, same⟩ := read
        cases same
        exact ⟨rfl, not_not.mp signature, positive, insideName, rfl⟩
  · rintro ⟨rfl, signature, positive, inside, rfl⟩
    refine ⟨_, ⟨by omega, rfl⟩, _, _, ⟨by decide, ?_, rfl, rfl⟩, ?_⟩
    · dsimp only
      omega
    · rw [if_neg (not_not.mpr signature)]
      simp only [Option.bind_eq_some_iff, Prod.exists, Stream.readItem_eq_some]
      exact ⟨_, _, ⟨positive, inside, rfl, rfl⟩, rfl⟩

theorem nextEntryPos_toNat (header : CentralDirEntry)
    (bound : currentPos.toNat < 2 ^ 63) :
    (nextEntryPos currentPos header).toNat =
      currentPos.toNat + CentralDirEntry.size + (header.nameSize.toNat +
        header.extraSize.toNat + header.commentSize.toNat) := by
  have nameBound := header.nameSize.toNat_lt
  have extraBound := header.extraSize.toNat_lt
  have commentBound := header.commentSize.toNat_lt
  simp only [nextEntryPos, CentralDirEntry.size, UInt64.toNat_add,
    UInt16.toNat_toUInt64, UInt64.reduceOfNat, UInt64.reduceToNat]
  omega

/-- What lies in the archive lies in the file. -/
theorem slice_contentOf {inner innerLength : Nat}
    (inside : inner + innerLength ≤ length.toNat) :
    slice (contentOf file start length) inner innerLength =
      slice file.bytes (start.toNat + inner) innerLength :=
  slice_slice inside

theorem Directory.length_le {archive : List UInt8} {offset : Nat}
    {header : CentralDirEntry} {rest : List (CentralDirEntry × ByteString)}
    {name : ByteString}
    (directory : Directory archive offset ((header, name) :: rest)) :
    name.length = header.nameSize.toNat := by
  cases directory with
  | cons inside read signature next => exact length_slice_of_le inside

/-- A directory is read completely if its names fit into the name buffer. -/
theorem parseEntriesLoop_of_directory (entriesMap : ZipEntryMap)
    {records : List (CentralDirEntry × ByteString)}
    (inFile : start.toNat + length.toNat ≤ file.bytes.length)
    (directory : Directory (contentOf file start length) offset records)
    (named : ∀ record ∈ records, 0 < record.1.nameSize.toNat ∧
      record.1.nameSize.toNat < maxFileName)
    (position : currentPos.toNat = start.toNat + offset) :
    parseEntriesLoop file records.length currentPos entriesMap =
      (true, entriesOf records entriesMap) := by
  have bound := file.length_lt
  induction directory generalizing currentPos entriesMap with
  | nil => rfl
  | @cons offset header rest inside read signature next ih =>
      obtain ⟨positive, short⟩ := named _ List.mem_cons_self
      rw [length_contentOf inFile] at inside
      have size : readNameSize header.nameSize = header.nameSize.toNat :=
        readNameSize_of_lt short
      have found : readCentralEntry file currentPos =
          some (header, slice (contentOf file start length)
            (offset + CentralDirEntry.size) header.nameSize.toNat) := by
        rw [readCentralEntry_eq_some, size, position]
        refine ⟨?_, signature, positive, by omega, ?_⟩
        · rw [read, slice_contentOf (by omega)]
        · rw [slice_contentOf inside, Nat.add_assoc]
      simp only [List.length_cons, parseEntriesLoop, found]
      apply ih
      · intro record member
        exact named record (List.mem_cons_of_mem _ member)
      · rw [nextEntryPos_toNat header (by omega), position]
        omega

/-- If the directory is read completely, no name is empty, and a name that is
found in the map afterwards fits into the name buffer. -/
theorem parseEntriesLoop_names
    {records : List (CentralDirEntry × ByteString)}
    {entriesMap parsed : ZipEntryMap}
    (inFile : start.toNat + length.toNat ≤ file.bytes.length)
    (directory : Directory (contentOf file start length) offset records)
    (position : currentPos.toNat = start.toNat + offset)
    (short : ∀ name ∈ entriesMap, name.length < maxFileName)
    (read : parseEntriesLoop file records.length currentPos entriesMap =
      (true, parsed)) :
    (∀ record ∈ records, 0 < record.1.nameSize.toNat) ∧
      ∀ name ∈ parsed, name.length < maxFileName := by
  have bound := file.length_lt
  induction directory generalizing currentPos entriesMap with
  | nil =>
      cases read
      exact ⟨nofun, short⟩
  | @cons offset header rest inside headerRead signature next ih =>
      rw [length_contentOf inFile] at inside
      simp only [List.length_cons, parseEntriesLoop] at read
      split at read
      · cases read
      · next found fileName entryRead =>
          obtain ⟨rfl, -, positive, insideName, rfl⟩ :=
            readCentralEntry_eq_some.mp entryRead
          have same : CentralDirEntry.ofBytes
              (slice file.bytes currentPos.toNat CentralDirEntry.size) =
                header := by
            rw [headerRead, slice_contentOf (by omega), position]
          rw [same] at read positive insideName
          have nextPosition := nextEntryPos_toNat header
            (show currentPos.toNat < 2 ^ 63 by omega)
          obtain ⟨restPositive, restShort⟩ := by
            refine ih (by omega) ?_ read
            intro name member
            rcases Std.ExtTreeMap.mem_insert.mp member with sameName | before
            · obtain rfl := Std.LawfulEqCmp.eq_of_compare sameName
              rw [length_slice_of_le insideName]
              exact readNameSize_lt _
            · exact short name before
          refine ⟨fun record member => ?_, restShort⟩
          rcases List.mem_cons.mp member with rfl | inRest
          · exact Nat.lt_of_lt_of_le positive (readNameSize_le _)
          · exact restPositive record inRest

/-- Every name of the records is in the map. -/
theorem mem_entriesOf {records : List (CentralDirEntry × ByteString)}
    {entriesMap : ZipEntryMap} {name : ByteString}
    (member : name ∈ entriesMap ∨ ∃ record ∈ records, record.2 = name) :
    name ∈ entriesOf records entriesMap := by
  induction records generalizing entriesMap with
  | nil => simpa [entriesOf] using member
  | cons record rest ih =>
      apply ih
      rcases member with before | ⟨other, inRecords, rfl⟩
      · exact .inl (Std.ExtTreeMap.mem_insert.mpr (.inr before))
      · rcases List.mem_cons.mp inRecords with rfl | inRest
        · exact .inl (Std.ExtTreeMap.mem_insert.mpr
            (.inl Std.ReflCmp.compare_self))
        · exact .inr ⟨other, inRest, rfl⟩

/-- The length of a name is the one its record gives. -/
theorem Directory.length_name {archive : List UInt8}
    {records : List (CentralDirEntry × ByteString)}
    (directory : Directory archive offset records) :
    ∀ record ∈ records, record.2.length = record.1.nameSize.toNat := by
  induction directory with
  | nil => exact nofun
  | cons inside read signature next ih =>
      intro record member
      rcases List.mem_cons.mp member with rfl | inRest
      · exact length_slice_of_le inside
      · exact ih record inRest

end Reading

namespace ZipFile

variable {zip : ZipFile} {file : RegularFile}

theorem checkEndDir_iff {endDir : EndDir} :
    zip.checkEndDir endDir = true ↔
      endDir.numDisk = 0 ∧ endDir.signature = eocdSignature ∧
      endDir.startDiskOfCentralDir = 0 ∧
      endDir.offset.toNat < zip.fileLength.toNat ∧
      endDir.totalEntriesInThisDisk = endDir.totalEntries ∧
      endDir.commentLen = 0 ∧
      (endDir.offset.toNat + endDir.sizeOfCentralDir.toNat) % 2 ^ 32 +
        EndDir.size ≤ zip.fileLength.toNat := by
  have sum : ((endDir.offset + endDir.sizeOfCentralDir).toUInt64 +
      UInt64.ofNat EndDir.size).toNat =
        (endDir.offset.toNat + endDir.sizeOfCentralDir.toNat) % 2 ^ 32 +
          EndDir.size := by
    simp only [EndDir.size, UInt64.toNat_add, UInt32.toNat_toUInt64,
      UInt32.toNat_add, UInt64.reduceOfNat, UInt64.reduceToNat]
    omega
  simp only [checkEndDir, Bool.not_eq_true', Bool.or_eq_false_iff,
    decide_eq_false_iff_not, not_not, ge_iff_le, gt_iff_lt,
    UInt64.le_iff_toNat_le, UInt64.lt_iff_toNat_lt, UInt32.toNat_toUInt64, sum,
    Nat.not_le, Nat.not_lt, and_assoc]

/-- The record at the end of an archive that lies in the file. -/
theorem readEndDir_of_inFile
    (inFile : zip.fileStartPos.toNat + zip.fileLength.toNat ≤ file.bytes.length)
    (longEnough : EndDir.size < zip.fileLength.toNat) :
    zip.readEndDir file =
      some (endRecord (contentOf file zip.fileStartPos zip.fileLength)) := by
  have bound := file.length_lt
  have short : ¬zip.fileLength ≤ UInt64.ofNat EndDir.size := by
    rw [UInt64.le_iff_toNat_le]
    exact Nat.not_le.mpr longEnough
  have position : (zip.fileStartPos + zip.fileLength -
      UInt64.ofNat EndDir.size).toNat =
        zip.fileStartPos.toNat + (zip.fileLength.toNat - EndDir.size) := by
    have sum : (zip.fileStartPos + zip.fileLength).toNat =
        zip.fileStartPos.toNat + zip.fileLength.toNat := by
      rw [UInt64.toNat_add]
      omega
    rw [UInt64.toNat_sub_of_le, sum]
    · change _ - EndDir.size = _
      omega
    · rw [UInt64.le_iff_toNat_le, sum]
      change EndDir.size ≤ _
      omega
  simp only [readEndDir, if_neg short, Option.bind_eq_bind,
    Option.bind_eq_some_iff, Prod.exists, Stream.seek_eq_some,
    Stream.readItem_eq_some, position]
  refine ⟨_, ⟨by omega, rfl⟩, _, _, ⟨by decide, ?_, rfl, rfl⟩, ?_⟩
  · dsimp only
    omega
  · rw [endRecord, length_contentOf inFile, slice_contentOf (by omega)]
    rfl

/-- A parse succeeds if it finds the end of the directory and then reads all
entries. -/
theorem parse_eq_true :
    (zip.parse file).1 = true ↔
      ∃ endDir, zip.readEndDir file = some endDir ∧
        zip.checkEndDir endDir = true ∧
        (parseEntriesLoop file endDir.totalEntries.toNat
          (endDir.offset.toUInt64 + zip.fileStartPos) zip.entriesMap).1 = true :=
  by
  have sameCheck (endDir : EndDir) :
      ({ zip with file := some file } : ZipFile).checkEndDir endDir =
        zip.checkEndDir endDir := rfl
  cases found : zip.readEndDir file with
  | none =>
      have same : ({ zip with file := some file } : ZipFile).readEndDir file =
        none := found
      simp [parse, parseEndDirectory, same]
  | some endDir =>
      have same : ({ zip with file := some file } : ZipFile).readEndDir file =
        some endDir := found
      cases checked : zip.checkEndDir endDir with
      | false => simp [parse, parseEndDirectory, same, sameCheck, checked]
      | true =>
          simp [parse, parseEndDirectory, same, sameCheck, checked,
            parseAllEntries]

/-- What a parse leaves behind. -/
theorem parse_fields {endDir : EndDir} (found : zip.readEndDir file = some endDir)
    (checked : zip.checkEndDir endDir = true) :
    (zip.parse file).2 =
      { zip with
        file := some file
        endDir := endDir
        centralDirPos := endDir.offset.toUInt64 + zip.fileStartPos
        entriesMap := (parseEntriesLoop file endDir.totalEntries.toNat
          (endDir.offset.toUInt64 + zip.fileStartPos) zip.entriesMap).2
        isOpen := true } := by
  have same : ({ zip with file := some file } : ZipFile).readEndDir file =
      some endDir := found
  have sameCheck : ({ zip with file := some file } : ZipFile).checkEndDir endDir =
      true := checked
  simp [parse, parseEndDirectory, same, sameCheck, parseAllEntries]

@[simp]
theorem parse_isOpen : (zip.parse file).2.isOpen = true := rfl

theorem lt_of_readEndDir {endDir : EndDir}
    (found : zip.readEndDir file = some endDir) :
    EndDir.size < zip.fileLength.toNat := by
  dsimp only [readEndDir] at found
  split at found
  · cases found
  · next long =>
      rw [UInt64.le_iff_toNat_le] at long
      exact Nat.not_le.mp long

/-- Where the directory of an archive that lies in the file starts. -/
theorem directoryPos_toNat {endDir : EndDir}
    (inFile : zip.fileStartPos.toNat + zip.fileLength.toNat ≤ file.bytes.length)
    (inside : endDir.offset.toNat ≤ zip.fileLength.toNat) :
    (endDir.offset.toUInt64 + zip.fileStartPos).toNat =
      zip.fileStartPos.toNat + endDir.offset.toNat := by
  have bound := file.length_lt
  rw [UInt64.toNat_add, UInt32.toNat_toUInt64]
  omega

/-- An archive is read, and read as it is, exactly if it is well formed. -/
theorem parse_isSound_iff (empty : zip.entriesMap = ∅) :
    ((zip.parse file).1 = true ∧ (zip.parse file).2.IsSound) ↔
      WellFormed file zip.fileStartPos zip.fileLength := by
  constructor
  · rintro ⟨success, sound⟩
    obtain ⟨endDir, found, checked, read⟩ := parse_eq_true.mp success
    rw [parse_fields found checked] at sound
    dsimp only [IsSound] at sound
    obtain ⟨_, records, ⟨⟩, inFile, lists, sameMap⟩ := sound
    have longEnough := lt_of_readEndDir found
    rw [readEndDir_of_inFile inFile longEnough] at found
    obtain rfl := Option.some.inj found
    obtain ⟨numDisk, -, startDisk, offset, allEntries, noComment, -⟩ :=
      checkEndDir_iff.mp checked
    refine ⟨inFile, longEnough, ⟨numDisk, startDisk⟩, allEntries, noComment,
      records, lists, ?_⟩
    have start : ∀ name ∈ zip.entriesMap, name.length < maxFileName := by
      simp [empty]
    have all : parseEntriesLoop file records.length
        ((endRecord (contentOf file zip.fileStartPos
          zip.fileLength)).offset.toUInt64 + zip.fileStartPos)
        zip.entriesMap = (true, entriesOf records ∅) := by
      rw [lists.count]
      exact Prod.ext read sameMap
    obtain ⟨positive, short⟩ := parseEntriesLoop_names inFile lists.directory
      (directoryPos_toNat inFile (Nat.le_of_lt offset)) start all
    intro record member
    refine ⟨positive record member, ?_⟩
    rw [← lists.directory.length_name record member]
    exact short record.2 (mem_entriesOf (.inr ⟨record, member, rfl⟩))
  · intro wellFormed
    obtain ⟨inFile, longEnough, oneDisk, allEntries, noComment, records, lists,
      named⟩ := wellFormed
    have consistent := lists.consistent
    rw [length_contentOf inFile] at consistent
    have size : 0 < EndDir.size := by decide
    have found := readEndDir_of_inFile inFile longEnough
    have checked : zip.checkEndDir
        (endRecord (contentOf file zip.fileStartPos zip.fileLength)) = true := by
      rw [checkEndDir_iff]
      refine ⟨oneDisk.1, lists.signature, oneDisk.2, by omega, allEntries,
        noComment, ?_⟩
      exact Nat.le_trans (Nat.add_le_add_right (Nat.mod_le _ _) _) consistent
    have position := directoryPos_toNat inFile
      (show (endRecord (contentOf file zip.fileStartPos
        zip.fileLength)).offset.toNat ≤ zip.fileLength.toNat by omega)
    have read := parseEntriesLoop_of_directory zip.entriesMap inFile
      lists.directory named position
    rw [lists.count] at read
    refine ⟨parse_eq_true.mpr ⟨_, found, checked, by rw [read]⟩, ?_⟩
    rw [parse_fields found checked, read, empty]
    exact ⟨file, records, rfl, inFile, lists, rfl⟩

/-- The file that `Open` gets to read, with the length of the archive in it. -/
def reads (zip : ZipFile) (files : FileSystem) : Option (RegularFile × UInt64) :=
  if zip.isOpen || zip.pathName.length > pathMax then none
  else do
    let file ← files zip.pathName
    let fileLength := UInt64.ofNat file.bytes.length
    if zip.fileLength ≠ 0 then return (file, zip.fileLength)
    else if zip.fileStartPos < fileLength then
      return (file, fileLength - zip.fileStartPos)
    else none

/-- `Open` reports success only for an open archive whose map is right; after a
failure the object is not open, has no entries and does not report success again
without reading a file. -/
def OpensRight (zip : ZipFile) (files : FileSystem) : Prop :=
  let next := (zip.open files).2
  if (zip.open files).1 then next.IsSound
  else next.isOpen = false ∧ next.entriesMap = ∅ ∧
    ∀ later, (next.open later).1 = true → (next.reads later).isSome

/-- `Open` reads only a well formed archive. -/
def OpensWellFormed (zip : ZipFile) (files : FileSystem) : Prop :=
  ∀ file length, zip.reads files = some (file, length) →
    WellFormed file zip.fileStartPos length

/-- An object that is not open has no entries, and an open one the right ones. -/
def IsKept (zip : ZipFile) : Prop :=
  if zip.isOpen then zip.IsSound else zip.entriesMap = ∅

/-- What `Open` does, by whether it reads a file. -/
theorem open_spec (zip : ZipFile) (files : FileSystem) :
    (zip.isOpen = true ∧ zip.reads files = none ∧ zip.open files = (true, zip)) ∨
    (zip.isOpen = false ∧ zip.reads files = none ∧ ∃ fileLength,
      zip.open files = (false, { zip with fileLength := fileLength })) ∨
    (zip.isOpen = false ∧ ∃ file fileLength,
      zip.reads files = some (file, fileLength) ∧
      zip.open files = { zip with fileLength := fileLength }.parse file) := by
  rcases zip with ⟨pathName, opened, endDir, entriesMap, centralDirPos, start,
    length, isOpen⟩
  cases isOpen with
  | true => simp [ZipFile.open, reads]
  | false =>
      by_cases long : pathName.length > pathMax
      · exact .inr (.inl ⟨rfl, by simp [reads, long], length,
          by simp [ZipFile.open, long]⟩)
      cases found : files pathName with
      | none =>
          exact .inr (.inl ⟨rfl, by simp [reads, found], length,
            by simp [ZipFile.open, long, found]⟩)
      | some file =>
          by_cases known : length = 0
          · by_cases behind : start ≥ UInt64.ofNat file.bytes.length
            · refine .inr (.inl ⟨rfl, ?_, UInt64.ofNat file.bytes.length, ?_⟩)
              · simpa [reads, long, found, known] using behind
              · simp [ZipFile.open, long, found, known, behind]
            · refine .inr (.inr ⟨rfl, file,
                UInt64.ofNat file.bytes.length - start, ?_, ?_⟩)
              · simpa [reads, long, found, known] using behind
              · simp [ZipFile.open, long, found, known, behind]
          · refine .inr (.inr ⟨rfl, file, length, ?_, ?_⟩)
            · simp [reads, long, found, known]
            · simp [ZipFile.open, long, found, known]

/-- A single `Open` does what it should exactly if it reads no malformed
archive. -/
theorem IsKept.opensRight_iff {files : FileSystem} (kept : zip.IsKept) :
    zip.OpensRight files ↔ zip.OpensWellFormed files := by
  unfold OpensRight OpensWellFormed
  unfold IsKept at kept
  rcases zip.open_spec files with ⟨isOpen, nothing, opened⟩ |
    ⟨isOpen, nothing, fileLength, opened⟩ |
    ⟨isOpen, file, fileLength, found, opened⟩
  · rw [isOpen] at kept
    rw [opened, nothing]
    exact iff_of_true kept nofun
  · rw [isOpen] at kept
    rw [opened, nothing]
    refine iff_of_true ⟨isOpen, kept, fun later success => ?_⟩ nofun
    rcases ({ zip with fileLength := fileLength } : ZipFile).open_spec later with
      ⟨stillOpen, -, -⟩ | ⟨-, -, other, failed⟩ | ⟨-, other, length, read, -⟩
    · rw [isOpen] at stillOpen
      cases stillOpen
    · rw [failed] at success
      cases success
    · rw [read]
      rfl
  · rw [isOpen] at kept
    let located : ZipFile := { zip with fileLength := fileLength }
    have parsed : ((located.parse file).1 = true ∧
        (located.parse file).2.IsSound) ↔
          WellFormed file zip.fileStartPos fileLength :=
      parse_isSound_iff kept
    have only : (∀ other length, some (file, fileLength) = some (other, length) →
        WellFormed other zip.fileStartPos length) ↔
          WellFormed file zip.fileStartPos fileLength :=
      ⟨fun all => all file fileLength rfl, by rintro wellFormed _ _ ⟨⟩; exact wellFormed⟩
    rw [opened, found, only, ← parsed]
    dsimp only
    change (if (located.parse file).1 = true then _ else _) ↔ _
    cases success : (located.parse file).1 with
    | true => simp [located]
    | false =>
        -- A parse that fails leaves the object open.
        simp

theorem IsKept.open {files : FileSystem} (kept : zip.IsKept)
    (right : zip.OpensRight files) : (zip.open files).2.IsKept := by
  unfold OpensRight at right
  rcases zip.open_spec files with ⟨isOpen, -, opened⟩ |
    ⟨isOpen, -, fileLength, opened⟩ | ⟨isOpen, file, fileLength, -, opened⟩
  · rw [opened]
    exact kept
  · rw [opened]
    unfold IsKept at kept ⊢
    rw [isOpen] at kept ⊢
    exact kept
  · rw [opened] at right ⊢
    unfold IsKept
    rw [parse_isOpen, if_pos rfl]
    split at right
    · exact right
    · exact absurd right.1 (by simp)

theorem IsKept.close (kept : zip.IsKept) : zip.close.IsKept := by
  unfold ZipFile.close
  split
  · exact kept
  · simp [IsKept]

end ZipFile

/-- A call made of an archive. -/
inductive ZipCall where
  | «open» (files : FileSystem)
  | close

/-- Every `Open` among the calls meets a property. -/
def EveryOpen (property : ZipFile → FileSystem → Prop) :
    List ZipCall → ZipFile → Prop
  | [], _ => True
  | .open files :: rest, zip =>
      property zip files ∧ EveryOpen property rest (zip.open files).2
  | .close :: rest, zip => EveryOpen property rest zip.close

theorem everyOpen_right_iff {zip : ZipFile} (kept : zip.IsKept)
    (calls : List ZipCall) :
    EveryOpen ZipFile.OpensRight calls zip ↔
      EveryOpen ZipFile.OpensWellFormed calls zip := by
  induction calls generalizing zip with
  | nil => rfl
  | cons call rest ih =>
      cases call with
      | «open» files =>
          unfold EveryOpen
          rw [kept.opensRight_iff]
          refine and_congr_right fun wellFormed => ?_
          exact ih (kept.open (kept.opensRight_iff.mpr wellFormed))
      | close => exact ih kept.close

/-- Whatever calls are made of a new object, every `Open` reports success only
for an archive whose entries it has read right and leaves nothing behind when it
fails, exactly if no `Open` reads an archive that is not well formed. -/
theorem open_right_iff (pathName : ByteString) (start length : UInt64)
    (calls : List ZipCall) :
    let zip := ({ pathName := pathName } : ZipFile).setContentLocation start
      length
    EveryOpen ZipFile.OpensRight calls zip ↔
      EveryOpen ZipFile.OpensWellFormed calls zip :=
  everyOpen_right_iff (by simp [ZipFile.IsKept, ZipFile.setContentLocation])
    calls

/-- A file that is no archive. -/
def unreadable : RegularFile := ⟨[1, 2, 3], by decide⟩

/-- An archive without entries whose directory would end behind the file: its
offset and its size add up to 2^32. -/
def overflowing : RegularFile where
  bytes := [0, 0x50, 0x4b, 5, 6, 0, 0, 0, 0, 0, 0, 0, 0, 0xff, 0xff, 0xff, 0xff,
    1, 0, 0, 0, 0, 0]
  length_lt := by decide

theorem open_not_right :
    let zip : ZipFile := { pathName := [0x61] }
    ¬EveryOpen ZipFile.OpensRight [.open fun _ => some unreadable] zip ∧
      ¬EveryOpen ZipFile.OpensRight [.open fun _ => some overflowing] zip := by
  constructor
  · rintro ⟨right, -⟩
    have failed : (({ pathName := [0x61] } : ZipFile).open
        fun _ => some unreadable).1 = false := by decide
    unfold ZipFile.OpensRight at right
    rw [failed] at right
    exact absurd right.1 (by decide)
  · rintro ⟨right, -⟩
    have success : (({ pathName := [0x61] } : ZipFile).open
        fun _ => some overflowing).1 = true := by decide
    unfold ZipFile.OpensRight at right
    rw [success] at right
    obtain ⟨file, records, same, -, lists, -⟩ := right
    obtain rfl : overflowing = file := Option.some.inj same
    exact absurd lists.consistent (by decide)

end AppExecFwk
