import Std.Data.ExtTreeMap.Lemmas
import AppExecFwk.Library.ByteFile

/-!
# HAP archives

`ZipFile` opens a HAP: it reads the end of the central directory, lists the
entries of the directory in a map and extracts entries by name.  A stream is
sought before it is read, so a function starts with the open file at any
position.  Records are read as they lie in the file; only their members that
some function reads are here.
-/

namespace AppExecFwk

open ByteFile

/-- A `std::string`: file names are bytes in any encoding. -/
abbrev ByteString := List UInt8

namespace ZipFile

def pathMax : Nat := 4096
def maxFileName : Nat := 256
def unzipBufferSize : Nat := 1024
def unzipBufInLen : Nat := 160 * unzipBufferSize
def unzipBufOutLen : Nat := 320 * unzipBufferSize
def localHeaderSignature : UInt32 := 0x04034b50
def centralSignature : UInt32 := 0x02014b50
def eocdSignature : UInt32 := 0x06054b50
def dataDescSignature : UInt32 := 0x08074b50
def flagDataDesc : UInt16 := 0x8
def inflateErrorTimes : UInt8 := 5
def zDeflated : UInt16 := 8

end ZipFile

open ZipFile

structure LocalHeader where
  signature : UInt32 := 0
  flags : UInt16 := 0
  compressionMethod : UInt16 := 0
  crc : UInt32 := 0
  compressedSize : UInt32 := 0
  uncompressedSize : UInt32 := 0
  nameSize : UInt16 := 0
  extraSize : UInt16 := 0
  deriving DecidableEq

/-- `sizeof(LocalHeader)` -/
def LocalHeader.size : Nat := 30

def LocalHeader.ofBytes (bytes : List UInt8) : LocalHeader where
  signature := uint32At bytes 0
  flags := uint16At bytes 6
  compressionMethod := uint16At bytes 8
  crc := uint32At bytes 14
  compressedSize := uint32At bytes 18
  uncompressedSize := uint32At bytes 22
  nameSize := uint16At bytes 26
  extraSize := uint16At bytes 28

structure CentralDirEntry where
  signature : UInt32 := 0
  flags : UInt16 := 0
  compressionMethod : UInt16 := 0
  crc : UInt32 := 0
  compressedSize : UInt32 := 0
  uncompressedSize : UInt32 := 0
  nameSize : UInt16 := 0
  extraSize : UInt16 := 0
  commentSize : UInt16 := 0
  localHeaderOffset : UInt32 := 0
  deriving DecidableEq

/-- `sizeof(CentralDirEntry)` -/
def CentralDirEntry.size : Nat := 46

def CentralDirEntry.ofBytes (bytes : List UInt8) : CentralDirEntry where
  signature := uint32At bytes 0
  flags := uint16At bytes 8
  compressionMethod := uint16At bytes 10
  crc := uint32At bytes 16
  compressedSize := uint32At bytes 20
  uncompressedSize := uint32At bytes 24
  nameSize := uint16At bytes 28
  extraSize := uint16At bytes 30
  commentSize := uint16At bytes 32
  localHeaderOffset := uint32At bytes 42

structure EndDir where
  signature : UInt32 := 0
  numDisk : UInt16 := 0
  startDiskOfCentralDir : UInt16 := 0
  totalEntriesInThisDisk : UInt16 := 0
  totalEntries : UInt16 := 0
  sizeOfCentralDir : UInt32 := 0
  offset : UInt32 := 0
  commentLen : UInt16 := 0
  deriving DecidableEq

/-- `sizeof(EndDir)` -/
def EndDir.size : Nat := 22

def EndDir.ofBytes (bytes : List UInt8) : EndDir where
  signature := uint32At bytes 0
  numDisk := uint16At bytes 4
  startDiskOfCentralDir := uint16At bytes 6
  totalEntriesInThisDisk := uint16At bytes 8
  totalEntries := uint16At bytes 10
  sizeOfCentralDir := uint32At bytes 12
  offset := uint32At bytes 16
  commentLen := uint16At bytes 20

structure DataDesc where
  signature : UInt32 := 0
  crc : UInt32 := 0
  compressedSize : UInt32 := 0
  uncompressedSize : UInt32 := 0
  deriving DecidableEq

/-- `sizeof(DataDesc)` -/
def DataDesc.size : Nat := 16

def DataDesc.ofBytes (bytes : List UInt8) : DataDesc where
  signature := uint32At bytes 0
  crc := uint32At bytes 4
  compressedSize := uint32At bytes 8
  uncompressedSize := uint32At bytes 12

structure ZipEntry where
  compressionMethod : UInt16 := 0
  uncompressedSize : UInt32 := 0
  compressedSize : UInt32 := 0
  localHeaderOffset : UInt32 := 0
  crc : UInt32 := 0
  flags : UInt16 := 0
  fileName : ByteString := []
  deriving DecidableEq

def ZipEntry.ofCentral (centralEntry : CentralDirEntry) : ZipEntry where
  compressionMethod := centralEntry.compressionMethod
  uncompressedSize := centralEntry.uncompressedSize
  compressedSize := centralEntry.compressedSize
  localHeaderOffset := centralEntry.localHeaderOffset
  crc := centralEntry.crc
  flags := centralEntry.flags

/-- The entries of an archive under their names. -/
abbrev ZipEntryMap := Std.ExtTreeMap ByteString ZipEntry compare

/-- `realpath` and `fopen`: the regular file that a path leads to. -/
abbrev FileSystem := ByteString → Option RegularFile

structure ZipFile where
  pathName : ByteString
  file : Option RegularFile := none
  endDir : EndDir := {}
  entriesMap : ZipEntryMap := ∅
  /-- Where the central directory starts in the file. -/
  centralDirPos : UInt64 := 0
  /-- Where the archive starts in the file. -/
  fileStartPos : UInt64 := 0
  /-- The length of the archive; 0 if it is still to be found out. -/
  fileLength : UInt64 := 0
  isOpen : Bool := false

/-- How many bytes of a name are read into the name buffer. -/
def readNameSize (nameSize : UInt16) : Nat :=
  if nameSize.toNat ≥ maxFileName then maxFileName - 1 else nameSize.toNat

theorem readNameSize_of_lt {nameSize : UInt16}
    (short : nameSize.toNat < maxFileName) :
    readNameSize nameSize = nameSize.toNat := by
  rw [readNameSize, if_neg (Nat.not_le.mpr short)]

theorem readNameSize_lt (nameSize : UInt16) :
    readNameSize nameSize < maxFileName := by
  unfold readNameSize
  split
  · decide
  · omega

/-- The record of the central directory at a position, with its name. -/
def readCentralEntry (file : RegularFile) (currentPos : UInt64) :
    Option (CentralDirEntry × ByteString) := do
  let stream ← ({ file := file } : Stream).seek currentPos
  let (record, stream) ← stream.readItem CentralDirEntry.size
  let directoryEntry := CentralDirEntry.ofBytes record
  if directoryEntry.signature ≠ centralSignature then none
  else
    let (fileName, _) ← stream.readItem (readNameSize directoryEntry.nameSize)
    return (directoryEntry, fileName)

/-- Where the next record of the central directory starts. -/
def nextEntryPos (currentPos : UInt64) (directoryEntry : CentralDirEntry) :
    UInt64 :=
  currentPos + UInt64.ofNat CentralDirEntry.size +
    (directoryEntry.nameSize.toUInt64 + directoryEntry.extraSize.toUInt64 +
      directoryEntry.commentSize.toUInt64)

/-- The loop of `ParseAllEntries`, with the number of entries left. -/
def parseEntriesLoop (file : RegularFile) :
    Nat → UInt64 → ZipEntryMap → Bool × ZipEntryMap
  | 0, _, entriesMap => (true, entriesMap)
  | left + 1, currentPos, entriesMap =>
      match readCentralEntry file currentPos with
      | none => (false, entriesMap)
      | some (directoryEntry, fileName) =>
          let currentEntry :=
            { ZipEntry.ofCentral directoryEntry with fileName := fileName }
          parseEntriesLoop file left (nextEntryPos currentPos directoryEntry)
            (entriesMap.insert fileName currentEntry)

namespace ZipFile

variable (zip : ZipFile)

def setContentLocation (start length : UInt64) : ZipFile :=
  { zip with fileStartPos := start, fileLength := length }

/-- The sum of offset and size is one of 32 bits. -/
def checkEndDir (endDir : EndDir) : Bool :=
  !(endDir.numDisk ≠ 0 || endDir.signature ≠ eocdSignature ||
    endDir.startDiskOfCentralDir ≠ 0 ||
    endDir.offset.toUInt64 ≥ zip.fileLength ||
    endDir.totalEntriesInThisDisk ≠ endDir.totalEntries ||
    endDir.commentLen ≠ 0 ||
    (endDir.offset + endDir.sizeOfCentralDir).toUInt64 +
      UInt64.ofNat EndDir.size > zip.fileLength)

/-- The record at the end of the archive. -/
def readEndDir (file : RegularFile) : Option EndDir :=
  let endDirLen := UInt64.ofNat EndDir.size
  let endFilePos := zip.fileStartPos + zip.fileLength
  if zip.fileLength ≤ endDirLen then none
  else do
    let stream ← ({ file := file } : Stream).seek (endFilePos - endDirLen)
    let (record, _) ← stream.readItem EndDir.size
    return EndDir.ofBytes record

def parseEndDirectory (file : RegularFile) : Bool × ZipFile :=
  match zip.readEndDir file with
  | none => (false, zip)
  | some endDir =>
      (zip.checkEndDir endDir,
        { zip with
          endDir := endDir
          centralDirPos := endDir.offset.toUInt64 + zip.fileStartPos })

def parseAllEntries (file : RegularFile) : Bool × ZipFile :=
  let (ret, entriesMap) := parseEntriesLoop file zip.endDir.totalEntries.toNat
    zip.centralDirPos zip.entriesMap
  (ret, { zip with entriesMap := entriesMap })

/-- The parsing part of `Open`. -/
def parse (file : RegularFile) : Bool × ZipFile :=
  let zip := { zip with file := some file }
  let (found, zip) := zip.parseEndDirectory file
  let (result, zip) := if found then zip.parseAllEntries file else (false, zip)
  (result, { zip with isOpen := true })

/-- Open the archive.  The length of the archive is found out once and kept, also
when the archive turns out to start behind the end of the file. -/
def «open» (files : FileSystem) : Bool × ZipFile :=
  if zip.isOpen then (true, zip)
  else if zip.pathName.length > pathMax then (false, zip)
  else
    match files zip.pathName with
    | none => (false, zip)
    | some file =>
        if zip.fileLength = 0 then
          let fileLength := UInt64.ofNat file.bytes.length
          if zip.fileStartPos ≥ fileLength then
            (false, { zip with fileLength := fileLength })
          else
            { zip with fileLength := fileLength - zip.fileStartPos }.parse file
        else zip.parse file

def close : ZipFile :=
  if !zip.isOpen || zip.file.isNone then zip
  else { zip with
    entriesMap := ∅, pathName := [], isOpen := false, file := none }

end ZipFile

end AppExecFwk
