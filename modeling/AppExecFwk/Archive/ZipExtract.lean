import Mathlib.Data.Option.Basic
import AppExecFwk.Archive.ZipFile
import AppExecFwk.Library.Inflater

/-!
# Extracting an entry

`ExtractFile` compares the entry with its local header, seeks to the data and
copies or inflates it through fixed buffers.  What is written is compared here
with the content of the entry.  `ExtractFile` looks only at whether the data was
used up: not at how long the output is, nor at whether zlib has reached the end
of the stream.
-/

namespace AppExecFwk

open ByteFile ZipFile Inflation

/-- zlib, with the results that do not depend on the data. -/
structure Zlib where
  inflater : Inflater
  /-- What `inflateInit2` returns. -/
  initCode : Int := zOk
  /-- There is memory for both buffers. -/
  hasBuffers : Bool := true
  /-- What `inflateEnd` returns. -/
  endCode : Int := zOk

def getLocalHeaderSize (nameSize extraSize : UInt16) : UInt64 :=
  UInt64.ofNat LocalHeader.size + nameSize.toUInt64 + extraSize.toUInt64

/-- Copy what remains through the buffer; false if the file ends before. -/
def storeLoop (stream : Stream) (remainSize : Nat) (dest : List UInt8) :
    Bool × List UInt8 :=
  if remainSize = 0 then (true, dest)
  else
    let readLen := min unzipBufOutLen remainSize
    let readBytes := (stream.readBytes readLen).1
    if readBytes.length = 0 then (false, dest)
    else storeLoop (stream.readBytes readLen).2
      (remainSize - readBytes.length) (dest ++ readBytes)
termination_by remainSize
decreasing_by exact Nat.sub_lt (Nat.pos_of_ne_zero ‹_›) (Nat.pos_of_ne_zero ‹_›)

/-- Fill the input buffer if it is empty, from the file and the number of bytes
that remain. -/
def readZStream (stream : Stream) (availIn : List UInt8)
    (remainCompressedSize : Nat) : Option (Stream × List UInt8 × Nat) :=
  if availIn = [] then
    let remainBytes := min unzipBufInLen remainCompressedSize
    let (buffer, stream) := stream.readBytes remainBytes
    if buffer.length = 0 then none
    else some (stream, buffer, remainCompressedSize - buffer.length)
  else some (stream, availIn, remainCompressedSize)

/-- The loop of `UnzipWithInflated`, if it comes to an end within a number of
rounds.  The output buffer is empty at the start of each. -/
def inflateLoop (inflater : Inflater) :
    Nat → Stream → Nat → List UInt8 → inflater.State → Nat → List UInt8 →
      Option (Bool × List UInt8)
  | 0, _, _, _, _, _, _ => none
  | fuel + 1, stream, remainCompressedSize, availIn, zstream, errorTimes, dest =>
      if remainCompressedSize = 0 ∧ availIn = [] then some (true, dest)
      else
        match readZStream stream availIn remainCompressedSize with
        | none => some (false, dest)
        | some (stream, availIn, remainCompressedSize) =>
            let given := inflater.inflate zstream availIn unzipBufOutLen
            if zOk ≤ given.code ∧ given.hasMessage then some (false, dest)
            else
              let errorTimes := if given.output = [] then errorTimes + 1 else 0
              let dest := dest ++ given.output
              if errorTimes ≥ inflateErrorTimes.toNat then some (false, dest)
              else inflateLoop inflater fuel stream remainCompressedSize
                (availIn.drop given.consumed) given.state errorTimes dest

namespace ZipFile

variable (zip : ZipFile) (file : RegularFile) (zipEntry : ZipEntry)

def getEntry (entryName : ByteString) : Option ZipEntry :=
  zip.entriesMap[entryName]?

/-- The descriptor behind the data of an entry. -/
def readDataDesc (localHeader : LocalHeader) : Option DataDesc := do
  let descPos := zipEntry.localHeaderOffset.toUInt64 +
    getLocalHeaderSize localHeader.nameSize localHeader.extraSize +
    (zip.fileStartPos + zipEntry.compressedSize.toUInt64)
  let stream ← ({ file := file } : Stream).seek descPos
  let (record, _) ← stream.readItem DataDesc.size
  let dataDesc := DataDesc.ofBytes record
  guard (dataDesc.signature = dataDescSignature)
  return dataDesc

def checkDataDesc (localHeader : LocalHeader) : Bool :=
  let found :=
    if localHeader.flags &&& flagDataDesc ≠ 0 then
      zip.readDataDesc file zipEntry localHeader
    else some {
      crc := localHeader.crc
      compressedSize := localHeader.compressedSize
      uncompressedSize := localHeader.uncompressedSize }
  match found with
  | none => false
  | some dataDesc =>
      !(zipEntry.crc ≠ dataDesc.crc ||
        zipEntry.compressedSize ≠ dataDesc.compressedSize ||
        zipEntry.uncompressedSize ≠ dataDesc.uncompressedSize)

/-- The size of the extra field, if the local header agrees with the entry. -/
def checkCoherencyLocalHeader : Option UInt16 := do
  guard (zipEntry.localHeaderOffset.toUInt64 < zip.fileLength)
  let stream ← ({ file := file } : Stream).seek
    (zip.fileStartPos + zipEntry.localHeaderOffset.toUInt64)
  let (record, stream) ← stream.readItem LocalHeader.size
  let localHeader := LocalHeader.ofBytes record
  guard (localHeader.signature = localHeaderSignature ∧
    zipEntry.compressionMethod = localHeader.compressionMethod)
  guard (zipEntry.compressionMethod = zDeflated ∨
    zipEntry.compressionMethod = 0)
  let fileLength := readNameSize localHeader.nameSize
  guard (fileLength = zipEntry.fileName.length)
  let (fileName, _) ← stream.readItem fileLength
  guard (zipEntry.fileName = fileName)
  guard (zip.checkDataDesc file zipEntry localHeader)
  return localHeader.extraSize

/-- Where the data of an entry starts in the file. -/
def getEntryDataOffset (extraSize : UInt16) : UInt64 :=
  zipEntry.localHeaderOffset.toUInt64 +
    getLocalHeaderSize (UInt16.ofNat zipEntry.fileName.length) extraSize +
    zip.fileStartPos

def seekToEntryStart (extraSize : UInt16) : Option Stream :=
  let startOffset := zipEntry.localHeaderOffset.toUInt64 +
    getLocalHeaderSize (UInt16.ofNat zipEntry.fileName.length) extraSize
  if startOffset + zipEntry.compressedSize.toUInt64 > zip.fileLength then none
  else ({ file := file } : Stream).seek (startOffset + zip.fileStartPos)

def unzipWithStore (extraSize : UInt16) : Bool × List UInt8 :=
  match zip.seekToEntryStart file zipEntry extraSize with
  | none => (false, [])
  | some stream => storeLoop stream zipEntry.compressedSize.toNat []

/-- The rounds bound those of the loop.  An error of `inflateEnd` comes last. -/
def unzipWithInflated (zlib : Zlib) (fuel : Nat) (extraSize : UInt16) :
    Option (Bool × List UInt8) :=
  match zip.seekToEntryStart file zipEntry extraSize with
  | none => some (false, [])
  | some stream =>
      if zlib.initCode ≠ zOk ∨ !zlib.hasBuffers then some (false, [])
      else do
        let (ret, dest) ← inflateLoop zlib.inflater fuel stream
          zipEntry.compressedSize.toNat [] zlib.inflater.initial 0 []
        return (if zlib.endCode ≠ zOk then false else ret, dest)

/-- The offset and the length of the data of an entry. -/
def getDataOffsetRelative (entryName : ByteString) : Option (UInt64 × UInt32) := do
  let zipEntry ← zip.getEntry entryName
  let extraSize ← zip.checkCoherencyLocalHeader file zipEntry
  return (zip.getEntryDataOffset zipEntry extraSize, zipEntry.compressedSize)

/-- Whether the entry is extracted, and what is written of it; nothing if the
rounds do not suffice.  The archive is open: without a file there are no
entries. -/
def extractFile (zlib : Zlib) (fuel : Nat) (entryName : ByteString) :
    Option (Bool × List UInt8) :=
  match zip.file, zip.getEntry entryName with
  | some file, some zipEntry =>
      match zip.checkCoherencyLocalHeader file zipEntry with
      | none => some (false, [])
      | some extraSize =>
          if zipEntry.compressionMethod = 0 then
            some (zip.unzipWithStore file zipEntry extraSize)
          else zip.unzipWithInflated file zipEntry zlib fuel extraSize
  | _, _ => some (false, [])

end ZipFile

section Loops

variable {inflater : Inflater} {stream : Stream} {dest : List UInt8}

/-- The store loop copies what is there, and tells whether that was all. -/
theorem storeLoop_eq (stream : Stream) (remainSize : Nat) (dest : List UInt8) :
    storeLoop stream remainSize dest =
      (decide ((stream.available remainSize).length = remainSize),
        dest ++ stream.available remainSize) := by
  have bufferLen : 0 < unzipBufOutLen := by decide
  fun_induction storeLoop with
  | case1 => simp [Stream.available]
  | case2 stream remainSize dest more readLen readBytes nothing =>
      have positive : 0 < readLen := by omega
      rw [stream.available_eq_nil positive nothing]
      simpa using Ne.symm more
  | case3 stream remainSize dest more readLen readBytes something ih =>
      have le : readLen ≤ remainSize := Nat.min_le_right _ _
      have inside : readBytes.length ≤ readLen := by
        rw [Stream.length_readBytes]
        exact Nat.min_le_left _ _
      have parts : stream.available remainSize = readBytes ++
          (stream.readBytes readLen).2.available
            (remainSize - readBytes.length) := stream.available_eq_append le
      rw [ih, parts, List.append_assoc, List.length_append]
      congr 1
      rw [decide_eq_decide]
      omega

/-- How a fed inflater ends the loop. -/
def loopResult : Fed → Bool × List UInt8
  | .stuck out => (false, out)
  | .usedUp out _ => (true, out)

/-- Filling the buffer from the file is filling it from the bytes that remain, if
the file has them. -/
theorem readZStream_of_whole {remain : Nat} {availIn : List UInt8}
    (zstream : inflater.State) (dest : List UInt8) (code : Option Int)
    (idle : Nat) (whole : (stream.available remain).length = remain)
    (more : ¬(remain = 0 ∧ availIn = [])) :
    ∃ next nextIn nextRemain, readZStream stream availIn remain =
        some (next, nextIn, nextRemain) ∧
      (next.available nextRemain).length = nextRemain ∧
      Feeding.refill ⟨stream.available remain, availIn, zstream, dest, code, idle⟩
        unzipBufInLen =
          ⟨next.available nextRemain, nextIn, zstream, dest, code, idle⟩ := by
  by_cases empty : availIn = []
  · have inputLen : 0 < unzipBufInLen := by decide
    have positive : remain ≠ 0 := fun none => more ⟨none, empty⟩
    generalize least : min unzipBufInLen remain = number
    have parts := stream.available_eq_append
      (show number ≤ remain by omega)
    have size : (stream.readBytes number).1.length = number := by
      rw [Stream.available, length_slice] at whole
      rw [Stream.length_readBytes]
      omega
    have taken : (stream.available remain).take unzipBufInLen =
        (stream.readBytes number).1 := by
      simp only [Stream.available, Stream.readBytes, slice, List.take_take, least]
    rw [size] at parts
    have lengths := congrArg List.length parts
    rw [List.length_append, whole, size] at lengths
    have left : (stream.available remain).drop unzipBufInLen =
        (stream.readBytes number).2.available (remain - number) := by
      rw [parts, List.drop_append, List.drop_eq_nil_of_le (by omega), size,
        List.nil_append]
      by_cases last : unzipBufInLen ≤ number
      · rw [Nat.sub_eq_zero_of_le last, List.drop_zero]
      · rw [List.drop_eq_nil_of_le (by omega)]
        exact (List.length_eq_zero_iff.mp (by omega)).symm
    refine ⟨(stream.readBytes number).2, (stream.readBytes number).1,
      remain - number, ?_, by omega, ?_⟩
    · have found : (stream.readBytes number).1.length ≠ 0 := by omega
      simp only [readZStream, if_pos empty, least, if_neg found]
      rw [size]
    · simp only [Feeding.refill, if_pos empty, taken, left]
  · refine ⟨stream, availIn, remain, ?_, whole, ?_⟩
    · rw [readZStream, if_neg empty]
    · rw [Feeding.refill, if_neg empty]

/-- If the file has all bytes that remain, the loop feeds them to zlib. -/
theorem inflateLoop_of_whole (fuel : Nat) {remain idle : Nat}
    {availIn : List UInt8} {zstream : inflater.State} (code : Option Int)
    (whole : (stream.available remain).length = remain) :
    inflateLoop inflater fuel stream remain availIn zstream idle dest =
      (feed unzipBufInLen unzipBufOutLen inflateErrorTimes.toNat fuel
        ⟨stream.available remain, availIn, zstream, dest, code, idle⟩).map
          loopResult := by
  induction fuel generalizing stream remain availIn zstream idle dest code with
  | zero => rfl
  | succ fuel ih =>
      have last : (stream.available remain = [] ∧ availIn = []) ↔
          remain = 0 ∧ availIn = [] := by
        rw [← List.length_eq_zero_iff, whole]
      by_cases done : remain = 0 ∧ availIn = []
      · simp only [inflateLoop, feed, if_pos done, if_pos (last.mpr done)]
        rfl
      · obtain ⟨next, nextIn, nextRemain, read, nextWhole, refilled⟩ :=
          readZStream_of_whole zstream dest code idle whole done
        simp only [inflateLoop, feed, if_neg done, if_neg (mt last.mp done), read,
          refilled, Feeding.call]
        split
        · rfl
        -- The call has given output or none; either may have been the last.
        split
        all_goals
          split
          · rfl
          · exact ih _ nextWhole

/-- What is missing at the end of the file is missing after a read, too. -/
theorem readZStream_of_short {remain nextRemain : Nat} {next : Stream}
    {availIn nextIn : List UInt8}
    (short : (stream.available remain).length < remain)
    (read : readZStream stream availIn remain =
      some (next, nextIn, nextRemain)) :
    (next.available nextRemain).length < nextRemain := by
  unfold readZStream at read
  split at read
  · dsimp only at read
    split at read
    · cases read
    · cases read
      have parts := congrArg List.length (stream.available_eq_append
        (show min unzipBufInLen remain ≤ remain from Nat.min_le_right _ _))
      rw [List.length_append] at parts
      omega
  · cases read
    exact short

/-- If the file lacks some of the bytes that remain, the loop does not succeed. -/
theorem inflateLoop_of_short {fuel remain errorTimes : Nat}
    {availIn written : List UInt8} {zstream : inflater.State}
    (short : (stream.available remain).length < remain) :
    inflateLoop inflater fuel stream remain availIn zstream errorTimes dest ≠
      some (true, written) := by
  induction fuel generalizing stream remain availIn zstream errorTimes dest with
  | zero => exact nofun
  | succ fuel ih =>
      intro success
      have more : ¬(remain = 0 ∧ availIn = []) := by
        rintro ⟨rfl, -⟩
        exact Nat.not_lt_zero _ short
      simp only [inflateLoop, if_neg more] at success
      split at success
      · cases success
      · next read =>
          split at success
          · cases success
          split at success
          all_goals
            split at success
            · cases success
            · exact ih (readZStream_of_short short read) success

end Loops

namespace ZipFile

variable (zip : ZipFile) (file : RegularFile) (zipEntry : ZipEntry)

/-- Where the local header of an entry starts in the file. -/
def localHeaderPos : Nat :=
  (zip.fileStartPos + zipEntry.localHeaderOffset.toUInt64).toNat

def localHeaderAt : LocalHeader :=
  .ofBytes (slice file.bytes (zip.localHeaderPos zipEntry) LocalHeader.size)

/-- The file at the place behind the local header of an entry, a name of some
length and the extra field. -/
def behindName (nameSize : Nat) : Stream where
  file := file
  position := zip.localHeaderPos zipEntry + LocalHeader.size + nameSize +
    (zip.localHeaderAt file zipEntry).extraSize.toNat

/-- The compressed bytes of an entry. -/
def dataOf : List UInt8 :=
  (zip.behindName file zipEntry
    (zip.localHeaderAt file zipEntry).nameSize.toNat).available
      zipEntry.compressedSize.toNat

/-- Where `ExtractFile` looks for the compressed bytes. -/
def readingPlace : Stream :=
  zip.behindName file zipEntry
    (readNameSize (zip.localHeaderAt file zipEntry).nameSize)

/-- The bytes there. -/
def dataRead : List UInt8 :=
  (zip.readingPlace file zipEntry).available zipEntry.compressedSize.toNat

/-- The content of an entry: its data, or what it inflates to.  All of the data
is there, and the content is as long as the entry says. -/
structure IsContent (inflated : List UInt8 → Option (List UInt8))
    (content : List UInt8) : Prop where
  whole : (zip.dataOf file zipEntry).length = zipEntry.compressedSize.toNat
  size : content.length = zipEntry.uncompressedSize.toNat
  content : if zipEntry.compressionMethod = 0 then
      content = zip.dataOf file zipEntry
    else inflated (zip.dataOf file zipEntry) = some content

/-- What `ExtractFile` writes when it reports success is the content of the
entry. -/
def ExtractsExactly (zlib : Zlib) (inflated : List UInt8 → Option (List UInt8))
    (entryName : ByteString) : Prop :=
  ∀ fuel written, zip.extractFile zlib fuel entryName = some (true, written) →
    ∃ file zipEntry, zip.file = some file ∧
      zip.getEntry entryName = some zipEntry ∧
      zip.IsContent file zipEntry inflated written

end ZipFile

/-- zlib can be used at all. -/
def Zlib.Works (zlib : Zlib) : Prop :=
  zlib.initCode = zOk ∧ zlib.hasBuffers = true ∧ zlib.endCode = zOk

/-- zlib takes all bytes of some data, a buffer full at a time, and never gives
no output for five times in a row; its last call gives a code. -/
def Zlib.Takes (zlib : Zlib) (data out : List UInt8) (code : Option Int) :
    Prop :=
  zlib.Works ∧ ∃ fuel, feed unzipBufInLen unzipBufOutLen
    inflateErrorTimes.toNat fuel ({ rest := data } : Feeding zlib.inflater) =
      some (.usedUp out code)

namespace ZipFile

variable (zip : ZipFile) (file : RegularFile) (zipEntry : ZipEntry)

/-- An entry agrees with its local header and its data lies in the archive. -/
structure IsReadable : Prop where
  coherent : (zip.checkCoherencyLocalHeader file zipEntry).isSome
  inArchive : zipEntry.localHeaderOffset.toNat + LocalHeader.size +
    readNameSize (zip.localHeaderAt file zipEntry).nameSize +
    (zip.localHeaderAt file zipEntry).extraSize.toNat +
    zipEntry.compressedSize.toNat ≤ zip.fileLength.toNat
  seekable : (zip.readingPlace file zipEntry).position < 2 ^ 63
  whole : (zip.dataRead file zipEntry).length = zipEntry.compressedSize.toNat

/-- The data of an entry is as its sizes say: the same size twice if it is
stored; if it is deflated and zlib takes all of it, the end of the stream is
reached then, after as many bytes as the entry says. -/
def IsComplete (zlib : Zlib) : Prop :=
  if zipEntry.compressionMethod = 0 then
    zipEntry.compressedSize = zipEntry.uncompressedSize
  else ∀ out code, zlib.Takes (zip.dataOf file zipEntry) out code →
    code = some zStreamEnd ∧ out.length = zipEntry.uncompressedSize.toNat

/-- The bytes at the place where `ExtractFile` looks for the data have the
content by chance. -/
def IsReplaceable (zlib : Zlib) (inflated : List UInt8 → Option (List UInt8)) :
    Prop :=
  if zipEntry.compressionMethod = 0 then
    zip.IsContent file zipEntry inflated (zip.dataRead file zipEntry)
  else ∀ out code, zlib.Takes (zip.dataRead file zipEntry) out code →
    zip.IsContent file zipEntry inflated out

/-- The archives that are extracted exactly: the data is complete, or its name
does not fit into the name buffer and the bytes behind the part that does have
the same content. -/
def IsExtractable (zlib : Zlib) (inflated : List UInt8 → Option (List UInt8))
    (entryName : ByteString) : Prop :=
  ∀ file zipEntry, zip.file = some file → zip.getEntry entryName = some zipEntry →
    zip.IsReadable file zipEntry →
    if (zip.localHeaderAt file zipEntry).nameSize.toNat < maxFileName then
      zip.IsComplete file zipEntry zlib
    else zip.IsReplaceable file zipEntry zlib inflated

variable {zip file zipEntry}

theorem getLocalHeaderSize_toNat (nameSize extraSize : UInt16) :
    (getLocalHeaderSize nameSize extraSize).toNat =
      LocalHeader.size + nameSize.toNat + extraSize.toNat := by
  have nameBound := nameSize.toNat_lt
  have extraBound := extraSize.toNat_lt
  simp only [getLocalHeaderSize, LocalHeader.size, UInt64.toNat_add,
    UInt16.toNat_toUInt64, UInt64.reduceOfNat, UInt64.reduceToNat]
  omega

/-- What is known of an entry that agrees with its local header. -/
theorem coherent_spec {extraSize : UInt16}
    (checked : zip.checkCoherencyLocalHeader file zipEntry = some extraSize) :
    extraSize = (zip.localHeaderAt file zipEntry).extraSize ∧
      zipEntry.fileName.length =
        readNameSize (zip.localHeaderAt file zipEntry).nameSize ∧
      zip.localHeaderPos zipEntry + LocalHeader.size ≤ file.bytes.length := by
  simp only [checkCoherencyLocalHeader, Option.bind_eq_bind,
    Option.bind_eq_some_iff, Prod.exists, Stream.seek_eq_some,
    Stream.readItem_eq_some, Option.guard_eq_some', Option.pure_def] at checked
  obtain ⟨-, -, stream, ⟨-, rfl⟩, record, next, ⟨-, inside, rfl, rfl⟩, -, -, -, -,
    -, named, fileName, last, -, -, -, -, -, found⟩ := checked
  cases found
  exact ⟨rfl, named.symm, inside⟩

/-- Where the data starts in the archive, for an entry that agrees with its local
header. -/
theorem startOffset_toNat {extraSize : UInt16}
    (checked : zip.checkCoherencyLocalHeader file zipEntry = some extraSize) :
    (zipEntry.localHeaderOffset.toUInt64 + getLocalHeaderSize
      (UInt16.ofNat zipEntry.fileName.length) extraSize).toNat =
        zipEntry.localHeaderOffset.toNat + LocalHeader.size +
          readNameSize (zip.localHeaderAt file zipEntry).nameSize +
          (zip.localHeaderAt file zipEntry).extraSize.toNat := by
  obtain ⟨rfl, nameLength, -⟩ := coherent_spec checked
  generalize zip.localHeaderAt file zipEntry = localHeader at *
  have short : readNameSize localHeader.nameSize < 256 := readNameSize_lt _
  have extraBound := localHeader.extraSize.toNat_lt
  have offsetBound := zipEntry.localHeaderOffset.toNat_lt
  have headerSize : (getLocalHeaderSize (UInt16.ofNat zipEntry.fileName.length)
      localHeader.extraSize).toNat = 30 + readNameSize localHeader.nameSize +
        localHeader.extraSize.toNat := by
    rw [getLocalHeaderSize_toNat, nameLength, UInt16.toNat_ofNat_of_lt']
    · rfl
    · rw [UInt16.size]
      omega
  rw [UInt64.toNat_add, UInt32.toNat_toUInt64, headerSize]
  simp only [LocalHeader.size]
  omega

/-- The offset that is given for the data is the place where it is looked for. -/
theorem getEntryDataOffset_toNat {extraSize : UInt16}
    (checked : zip.checkCoherencyLocalHeader file zipEntry = some extraSize) :
    (zip.getEntryDataOffset zipEntry extraSize).toNat =
      (zip.readingPlace file zipEntry).position := by
  obtain ⟨-, -, inside⟩ := coherent_spec checked
  have bound := file.length_lt
  have short := readNameSize_lt (zip.localHeaderAt file zipEntry).nameSize
  have extraBound := (zip.localHeaderAt file zipEntry).extraSize.toNat_lt
  rw [localHeaderPos, UInt64.toNat_add, UInt32.toNat_toUInt64] at inside
  rw [getEntryDataOffset, UInt64.toNat_add, startOffset_toNat checked]
  simp only [readingPlace, behindName, localHeaderPos, UInt64.toNat_add,
    UInt32.toNat_toUInt64]
  simp only [LocalHeader.size, maxFileName] at *
  omega

theorem getDataOffsetRelative_eq_some {entryName : ByteString} {offset : UInt64}
    {length : UInt32}
    (given : zip.getDataOffsetRelative file entryName = some (offset, length)) :
    ∃ zipEntry, zip.getEntry entryName = some zipEntry ∧
      offset.toNat = (zip.readingPlace file zipEntry).position ∧
      length = zipEntry.compressedSize := by
  simp only [getDataOffsetRelative, Option.bind_eq_bind,
    Option.bind_eq_some_iff] at given
  obtain ⟨zipEntry, found, extraSize, checked, same⟩ := given
  cases same
  exact ⟨zipEntry, found, getEntryDataOffset_toNat checked, rfl⟩

/-- Where `ExtractFile` seeks to, for an entry that agrees with its local
header. -/
theorem seekToEntryStart_eq_some {extraSize : UInt16} {stream : Stream}
    (checked : zip.checkCoherencyLocalHeader file zipEntry = some extraSize) :
    zip.seekToEntryStart file zipEntry extraSize = some stream ↔
      zipEntry.localHeaderOffset.toNat + LocalHeader.size +
        readNameSize (zip.localHeaderAt file zipEntry).nameSize +
        (zip.localHeaderAt file zipEntry).extraSize.toNat +
        zipEntry.compressedSize.toNat ≤ zip.fileLength.toNat ∧
      (zip.readingPlace file zipEntry).position < 2 ^ 63 ∧
      stream = zip.readingPlace file zipEntry := by
  have start := startOffset_toNat checked
  have place := getEntryDataOffset_toNat checked
  have short := readNameSize_lt (zip.localHeaderAt file zipEntry).nameSize
  have extraBound := (zip.localHeaderAt file zipEntry).extraSize.toNat_lt
  have offsetBound := zipEntry.localHeaderOffset.toNat_lt
  have sizeBound := zipEntry.compressedSize.toNat_lt
  rw [getEntryDataOffset] at place
  simp only [LocalHeader.size, maxFileName] at *
  have end_toNat : (zipEntry.localHeaderOffset.toUInt64 + getLocalHeaderSize
      (UInt16.ofNat zipEntry.fileName.length) extraSize +
        zipEntry.compressedSize.toUInt64).toNat =
      zipEntry.localHeaderOffset.toNat + 30 +
        readNameSize (zip.localHeaderAt file zipEntry).nameSize +
        (zip.localHeaderAt file zipEntry).extraSize.toNat +
        zipEntry.compressedSize.toNat := by
    rw [UInt64.toNat_add, start, UInt32.toNat_toUInt64]
    omega
  unfold seekToEntryStart
  dsimp only
  split
  · next tooLong =>
      rw [gt_iff_lt, UInt64.lt_iff_toNat_lt, end_toNat] at tooLong
      simp only [false_iff, reduceCtorEq]
      rintro ⟨inArchive, -⟩
      omega
  · next inArchive =>
      rw [gt_iff_lt, UInt64.lt_iff_toNat_lt, end_toNat] at inArchive
      rw [Stream.seek_eq_some, place]
      constructor
      · rintro ⟨seekable, rfl⟩
        exact ⟨by omega, seekable, rfl⟩
      · rintro ⟨-, seekable, rfl⟩
        exact ⟨seekable, rfl⟩

/-- The stream that reads the data of a readable entry. -/
theorem seekToEntryStart_whole {extraSize : UInt16}
    (checked : zip.checkCoherencyLocalHeader file zipEntry = some extraSize) :
    (∃ stream, zip.seekToEntryStart file zipEntry extraSize = some stream ∧
        (stream.available zipEntry.compressedSize.toNat).length =
          zipEntry.compressedSize.toNat) ↔
      zip.IsReadable file zipEntry := by
  constructor
  · rintro ⟨stream, found, whole⟩
    obtain ⟨inArchive, seekable, rfl⟩ :=
      (seekToEntryStart_eq_some checked).mp found
    exact ⟨by rw [checked]; rfl, inArchive, seekable, whole⟩
  · intro readable
    exact ⟨_, (seekToEntryStart_eq_some checked).mpr
      ⟨readable.inArchive, readable.seekable, rfl⟩, readable.whole⟩

/-- A stored entry is copied from the place where its data is looked for. -/
theorem unzipWithStore_eq_true {extraSize : UInt16} {written : List UInt8}
    (checked : zip.checkCoherencyLocalHeader file zipEntry = some extraSize) :
    zip.unzipWithStore file zipEntry extraSize = (true, written) ↔
      zip.IsReadable file zipEntry ∧ written = zip.dataRead file zipEntry := by
  rw [← seekToEntryStart_whole checked, unzipWithStore]
  cases found : zip.seekToEntryStart file zipEntry extraSize with
  | none => simp
  | some stream =>
      obtain ⟨-, -, rfl⟩ := (seekToEntryStart_eq_some checked).mp found
      simp only [storeLoop_eq, Prod.mk.injEq, decide_eq_true_eq,
        List.nil_append, Option.some.injEq, exists_eq_left']
      exact and_congr_right fun _ => eq_comm

/-- The data of a deflated entry is fed to zlib from the place where it is looked
for. -/
theorem unzipWithInflated_eq_true {extraSize : UInt16} {written : List UInt8}
    {zlib : Zlib} {fuel : Nat}
    (checked : zip.checkCoherencyLocalHeader file zipEntry = some extraSize) :
    zip.unzipWithInflated file zipEntry zlib fuel extraSize =
        some (true, written) ↔
      zip.IsReadable file zipEntry ∧ zlib.Works ∧
        ∃ code, feed unzipBufInLen unzipBufOutLen inflateErrorTimes.toNat fuel
          ({ rest := zip.dataRead file zipEntry } : Feeding zlib.inflater) =
            some (.usedUp written code) := by
  rw [← seekToEntryStart_whole checked, unzipWithInflated]
  cases found : zip.seekToEntryStart file zipEntry extraSize with
  | none => simp
  | some stream =>
      obtain ⟨-, -, rfl⟩ := (seekToEntryStart_eq_some checked).mp found
      simp only [Option.some.injEq, exists_eq_left']
      by_cases fails : zlib.initCode ≠ zOk ∨ !zlib.hasBuffers
      · simp only [if_pos fails, Option.some.injEq, Prod.mk.injEq, false_and,
          false_iff, reduceCtorEq]
        rintro ⟨-, ⟨inits, buffers, -⟩, -⟩
        rcases fails with noInit | noBuffers
        · exact noInit inits
        · simp [buffers] at noBuffers
      · simp only [not_or, not_not, Bool.not_eq_true, Bool.not_eq_false',
          ne_eq] at fails
        have works : zlib.Works ↔ zlib.endCode = zOk := by
          simp [Zlib.Works, fails]
        rw [if_neg (by simp [fails]), works]
        simp only [Option.bind_eq_bind, Option.bind_eq_some_iff, Prod.exists,
          Option.pure_def, Option.some.injEq, Prod.mk.injEq]
        constructor
        · rintro ⟨ret, dest, looped, success, rfl⟩
          have ends : zlib.endCode = zOk := by
            by_contra fails
            simp [fails] at success
          rw [if_neg (not_not.mpr ends)] at success
          subst success
          by_cases whole : ((zip.readingPlace file zipEntry).available
              zipEntry.compressedSize.toNat).length =
                zipEntry.compressedSize.toNat
          · rw [inflateLoop_of_whole fuel none whole,
              Option.map_eq_some_iff] at looped
            obtain ⟨fed, same, result⟩ := looped
            cases fed with
            | stuck out => cases result
            | usedUp out code =>
                cases result
                exact ⟨whole, ends, code, same⟩
          · have short := Nat.lt_of_le_of_ne
              (Stream.length_available_le (zip.readingPlace file zipEntry) _) whole
            exact absurd looped (inflateLoop_of_short short)
        · rintro ⟨whole, ends, code, fed⟩
          refine ⟨true, written, ?_, by simp [ends], rfl⟩
          rw [inflateLoop_of_whole fuel none whole]
          exact congrArg (Option.map loopResult) fed

/-- When an extraction reports success, and what it has written then. -/
theorem extractFile_eq_true {zlib : Zlib} {fuel : Nat} {entryName : ByteString}
    {written : List UInt8} :
    zip.extractFile zlib fuel entryName = some (true, written) ↔
      ∃ file zipEntry, zip.file = some file ∧
        zip.getEntry entryName = some zipEntry ∧
        zip.IsReadable file zipEntry ∧
        if zipEntry.compressionMethod = 0 then
          written = zip.dataRead file zipEntry
        else zlib.Works ∧ ∃ code,
          feed unzipBufInLen unzipBufOutLen inflateErrorTimes.toNat fuel
            ({ rest := zip.dataRead file zipEntry } : Feeding zlib.inflater) =
              some (.usedUp written code) := by
  unfold extractFile
  cases opened : zip.file with
  | none => simp
  | some file =>
      cases found : zip.getEntry entryName with
      | none => simp
      | some zipEntry =>
          simp only [Option.some.injEq, exists_eq_left', exists_and_left]
          cases checked : zip.checkCoherencyLocalHeader file zipEntry with
          | none =>
              have unreadable : ¬zip.IsReadable file zipEntry := by
                intro readable
                simpa [checked] using readable.coherent
              simp [unreadable]
          | some extraSize =>
              dsimp only
              split
              · rw [Option.some.injEq, unzipWithStore_eq_true checked]
              · rw [unzipWithInflated_eq_true checked]

theorem dataRead_of_short
    (short : (zip.localHeaderAt file zipEntry).nameSize.toNat < maxFileName) :
    zip.dataRead file zipEntry = zip.dataOf file zipEntry := by
  rw [dataRead, readingPlace, readNameSize_of_lt short, dataOf]

/-- The inflater's last call tells whether what comes out of the data of an entry
is its content. -/
theorem isContent_iff {zlib : Zlib} {inflated : List UInt8 → Option (List UInt8)}
    (documented : Documented zlib.inflater inflated)
    (whole : (zip.dataOf file zipEntry).length = zipEntry.compressedSize.toNat)
    (deflated : zipEntry.compressionMethod ≠ 0) {out : List UInt8}
    {code : Option Int} (takes : zlib.Takes (zip.dataOf file zipEntry) out code) :
    zip.IsContent file zipEntry inflated out ↔
      code = some zStreamEnd ∧ out.length = zipEntry.uncompressedSize.toNat := by
  obtain ⟨-, fuel, fed⟩ := takes
  rw [inflated_of_feed documented fed]
  constructor
  · intro isContent
    have content := isContent.content
    rw [if_neg deflated] at content
    exact ⟨content, isContent.size⟩
  · rintro ⟨content, size⟩
    exact ⟨whole, size, by rwa [if_neg deflated]⟩

theorem isContent_stored_iff {inflated : List UInt8 → Option (List UInt8)}
    (whole : (zip.dataOf file zipEntry).length = zipEntry.compressedSize.toNat)
    (stored : zipEntry.compressionMethod = 0) :
    zip.IsContent file zipEntry inflated (zip.dataOf file zipEntry) ↔
      zipEntry.compressedSize = zipEntry.uncompressedSize := by
  rw [← UInt32.toNat_inj, ← whole]
  constructor
  · intro isContent
    exact isContent.size
  · intro size
    exact ⟨whole, size, by rw [if_pos stored]⟩

/-- Extraction is exact if whatever comes out of the bytes that are read is the
content. -/
theorem extractsExactly_iff_replaceable {zlib : Zlib}
    {inflated : List UInt8 → Option (List UInt8)} {entryName : ByteString} :
    zip.ExtractsExactly zlib inflated entryName ↔
      ∀ file zipEntry, zip.file = some file →
        zip.getEntry entryName = some zipEntry →
        zip.IsReadable file zipEntry →
        zip.IsReplaceable file zipEntry zlib inflated := by
  constructor
  · intro exactly file zipEntry opened found readable
    have content {fuel : Nat} {written : List UInt8}
        (extracted : zip.extractFile zlib fuel entryName =
          some (true, written)) :
        zip.IsContent file zipEntry inflated written := by
      obtain ⟨_, _, sameFile, sameEntry, isContent⟩ :=
        exactly fuel written extracted
      obtain rfl := Option.some.inj (opened.symm.trans sameFile)
      obtain rfl := Option.some.inj (found.symm.trans sameEntry)
      exact isContent
    unfold IsReplaceable
    split
    · next stored =>
        apply content (extractFile_eq_true.mpr
          ⟨file, zipEntry, opened, found, readable, _⟩)
        · exact 0
        · rw [if_pos stored]
    · next deflated =>
        rintro out code ⟨works, fuel, fed⟩
        apply content (extractFile_eq_true.mpr
          ⟨file, zipEntry, opened, found, readable, _⟩)
        · exact fuel
        · rw [if_neg deflated]
          exact ⟨works, code, fed⟩
  · intro replaceable fuel written success
    obtain ⟨file, zipEntry, opened, found, readable, extracted⟩ :=
      extractFile_eq_true.mp success
    refine ⟨file, zipEntry, opened, found, ?_⟩
    have content := replaceable file zipEntry opened found readable
    unfold IsReplaceable at content
    split at extracted
    · next stored =>
        rw [if_pos stored] at content
        rw [extracted]
        exact content
    · next deflated =>
        rw [if_neg deflated] at content
        obtain ⟨works, code, fed⟩ := extracted
        exact content written code ⟨works, fuel, fed⟩

/-- If the name fits into the buffer, the bytes that are read are the data, and
what comes out of them is the content if the data is complete. -/
theorem isReplaceable_iff_complete {zlib : Zlib}
    {inflated : List UInt8 → Option (List UInt8)}
    (documented : Documented zlib.inflater inflated)
    (readable : zip.IsReadable file zipEntry)
    (short : (zip.localHeaderAt file zipEntry).nameSize.toNat < maxFileName) :
    zip.IsReplaceable file zipEntry zlib inflated ↔
      zip.IsComplete file zipEntry zlib := by
  have whole := readable.whole
  rw [dataRead_of_short short] at whole
  unfold IsReplaceable IsComplete
  rw [dataRead_of_short short]
  split
  · next stored => exact isContent_stored_iff whole stored
  · next deflated =>
      refine forall₃_congr fun out code takes => ?_
      exact isContent_iff documented whole deflated takes

/-- Extracting an entry, from an archive that `Open` has accepted or any other,
writes exactly its content if it reports success, exactly for the entries that
are extractable. -/
theorem extractFile_exact_iff (zip : ZipFile) (zlib : Zlib)
    (inflated : List UInt8 → Option (List UInt8))
    (documented : Documented zlib.inflater inflated) (entryName : ByteString) :
    zip.ExtractsExactly zlib inflated entryName ↔
      zip.IsExtractable zlib inflated entryName := by
  rw [extractsExactly_iff_replaceable]
  refine forall₅_congr fun file zipEntry _ _ readable => ?_
  split
  · next short => exact isReplaceable_iff_complete documented readable short
  · rfl

end ZipFile

/-- The extraction of the entries of an archive, each of which comes to an
end. -/
structure Extraction (zip : ZipFile) where
  zlib : Zlib
  result : ByteString → Bool × List UInt8
  ends : ∀ entryName, ∃ fuel,
    zip.extractFile zlib fuel entryName = some (result entryName)

namespace BundleExtractor

/-- `Init` of an extractor for the archive at a path. -/
def init (archives : FileSystem) (sourcePath : ByteString) : Bool × ZipFile :=
  ({ pathName := sourcePath } : ZipFile).open archives

end BundleExtractor

/-- An archive with one entry `a`, which is stored or deflated and has the sizes
given. -/
def oneEntry (method compressedSize uncompressedSize : UInt8)
    (data : List UInt8) : List UInt8 :=
  [0x50, 0x4b, 3, 4, 10, 0, 0, 0, method, 0, 0, 0, 0, 0, 0, 0, 0, 0,
    compressedSize, 0, 0, 0, uncompressedSize, 0, 0, 0, 1, 0, 0, 0, 0x61] ++
  data ++
  [0x50, 0x4b, 1, 2, 10, 0, 10, 0, 0, 0, method, 0, 0, 0, 0, 0, 0, 0, 0, 0,
    compressedSize, 0, 0, 0, uncompressedSize, 0, 0, 0, 1, 0, 0, 0, 0, 0, 0, 0,
    0, 0, 0, 0, 0, 0, 0, 0, 0, 0, 0x61] ++
  [0x50, 0x4b, 5, 6, 0, 0, 0, 0, 1, 0, 1, 0, 47, 0, 0, 0,
    31 + UInt8.ofNat data.length, 0, 0, 0, 0, 0]

/-- An object that has opened a file. -/
def opened (file : RegularFile) : ZipFile :=
  (({ pathName := [0x61] } : ZipFile).open fun _ => some file).2

/-- A stream of one stored block. -/
def storedBlock : List UInt8 → Option (List UInt8)
  | 1 :: low :: high :: lowCheck :: highCheck :: content =>
      if lowCheck = ~~~low ∧ highCheck = ~~~high ∧
          content.length = low.toNat + 256 * high.toNat then some content
      else none
  | _ => none

/-- A deflated entry of one byte. -/
def deflated : RegularFile :=
  ⟨oneEntry 8 6 1 [1, 1, 0, 0xfe, 0xff, 0x62], by decide⟩

theorem extractFile_exact_deflated :
    ((opened deflated).ExtractsExactly { inflater := buffering storedBlock }
        storedBlock [0x61] ↔
      (opened deflated).IsExtractable { inflater := buffering storedBlock }
        storedBlock [0x61]) ∧
      (opened deflated).extractFile { inflater := buffering storedBlock } 2
        [0x61] = some (true, [0x62]) :=
  ⟨extractFile_exact_iff _ _ _ (documented_buffering rfl) _, by decide⟩

/-- A stored entry of two bytes that has one. -/
def shortened : RegularFile := ⟨oneEntry 0 1 2 [0x62], by decide⟩

/-- A deflated entry of five bytes without any data. -/
def hollow : RegularFile := ⟨oneEntry 8 0 5 [], by decide⟩

theorem extractFile_not_exact :
    (({ pathName := [0x61] } : ZipFile).open fun _ => some shortened).1 = true ∧
      (∀ zlib inflated,
        ¬(opened shortened).ExtractsExactly zlib inflated [0x61]) ∧
      (({ pathName := [0x61] } : ZipFile).open fun _ => some hollow).1 = true ∧
      ∀ zlib inflated, Documented zlib.inflater inflated → zlib.Works →
        ¬(opened hollow).ExtractsExactly zlib inflated [0x61] := by
  refine ⟨by decide, fun zlib inflated exactly => ?_, by decide,
    fun zlib inflated documented works exactly => ?_⟩
  · have readable : (opened shortened).IsReadable shortened
        { compressedSize := 1, uncompressedSize := 2, fileName := [0x61] } :=
      ⟨by decide, by decide, by decide, by decide⟩
    have content := extractsExactly_iff_replaceable.mp exactly shortened _ rfl
      (by decide) readable
    exact absurd content.size (by decide)
  · have readable : (opened hollow).IsReadable hollow
        { compressionMethod := 8, uncompressedSize := 5, fileName := [0x61] } :=
      ⟨by decide, by decide, by decide, by decide⟩
    have content := extractsExactly_iff_replaceable.mp exactly hollow _ rfl
      (by decide) readable [] none ⟨works, 1, rfl⟩
    exact absurd content.size (by decide)

end AppExecFwk
