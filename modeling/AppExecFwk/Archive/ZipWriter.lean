import AppExecFwk.Archive.Unzip

/-!
# Writing entries into an archive

The writer keeps the entries that it is given in a list, and writes them in
batches once there are enough of them, and all that are left when it closes.
Whatever it asks the system or the zip library for may fail.  What the one flush
and the other report is worked out here from what the answers are.
-/

namespace AppExecFwk

open DirectoryTree FilePath Zip

/-- An entry of a directory as `readdir` gives it out. -/
structure DirEntry where
  dName : ByteString
  /-- `d_type == DT_DIR` -/
  isDirectory : Bool
  deriving DecidableEq

/-- A path with a separator behind it. -/
def includeTrailingPathDelimiter (path : ByteString) : ByteString :=
  if endsWith path separatorText then path else path ++ separatorText

/-- What the system answers about paths; the names that it lists do not lead on
for ever. -/
structure SourceFiles where
  stat : ByteString → Option FileKind
  access : ByteString → Bool
  opendir : ByteString → Option (List DirEntry)
  contents : ByteString → ByteString
  rank : ByteString → Nat
  descends : ∀ path entries, opendir path = some entries → ∀ entry ∈ entries,
    entry.dName ≠ kCurrentDirectory → entry.dName ≠ kParentDirectory →
      rank (includeTrailingPathDelimiter path ++ entry.dName) < rank path

namespace SourceFiles

variable (files : SourceFiles)

def directoryExists (path : FilePath) : Bool :=
  files.stat path.path = some .directory

def isDir (path : FilePath) : Bool :=
  if path.path = [] ∨ path.path = kCurrentDirectory ∨
      path.path = kParentDirectory then true
  else files.stat path.path = some .directory

def pathIsValid (path : FilePath) : Bool :=
  files.access path.path

end SourceFiles

/-- An entry in an archive. -/
structure ArchivedEntry where
  name : ByteString
  data : ByteString
  deriving DecidableEq

/-- What is answered while one entry is added. -/
structure EntryAnswers where
  /-- Whether `localtime` gives a time. -/
  hasTime : Bool := true
  /-- Whether `zipOpenNewFileInZip4` succeeds. -/
  opens : Bool := true
  /-- What `fread` gives call by call up to the end, none if `fopen` fails. -/
  reads : Option (List ByteString) := some []
  /-- Which calls of `zipWriteInFileInZip` succeed. -/
  writes : Nat → Bool := fun _ => true
  /-- Whether `zipCloseFileInZip` succeeds. -/
  closes : Bool := true

/-- What is read of a file. -/
def EntryAnswers.readData (answers : EntryAnswers) : ByteString :=
  ((answers.reads.getD []).takeWhile (· ≠ [])).flatten

/-- What is answered to the writer of an archive. -/
structure ZipAnswers where
  /-- Whether `zipOpen2` gives a file. -/
  opensArchive : Bool := true
  /-- Whether there is room for the writer. -/
  hasRoom : Bool := true
  entry : Nat → EntryAnswers := fun _ => {}
  /-- Whether `zipClose` succeeds. -/
  closesArchive : Bool := true

/-- What has come of a task so far. -/
structure ZipOutput where
  entries : List ArchivedEntry := []
  /-- The number of entries that were begun. -/
  begun : Nat := 0
  isClosed : Bool := false
  /-- What the callback was called with. -/
  calls : List ErrorCode := []

def ZipOutput.call (output : ZipOutput) (result : ErrorCode) : ZipOutput :=
  { output with calls := output.calls ++ [result] }

structure ZipWriter where
  rootDir : FilePath
  /-- Whether `zipFile_` is set. -/
  hasZipFile : Bool := true
  pendingEntries : List FilePath := []

def kInvalidPlatformFile : Int32 := -1

/-- `g_MaxPendingEntriesCount` -/
def maxPendingEntriesCount : Nat := 50

namespace ZipWriter

/-- The loop of `AddFileContentToZip`: whether it succeeds, and what it has
written. -/
def copyLoop (writes : Nat → Bool) :
    Nat → List ByteString → ByteString → Bool × ByteString
  | _, [], data => (true, data)
  | call, buf :: reads, data =>
      if buf = [] then (true, data)
      else if writes call then copyLoop writes (call + 1) reads (data ++ buf)
      else (false, data)

section Entries

variable (files : SourceFiles) (answers : EntryAnswers)

def addFileContentToZip (filePath : FilePath) : Bool × ByteString :=
  if !filePathCheckValid filePath.path then (false, [])
  else if !files.pathIsValid filePath then (false, [])
  else
    match answers.reads with
    | none => (false, [])
    | some reads => copyLoop answers.writes 0 reads []

def addFileEntryToZip (relativePath absolutePath : FilePath)
    (archive : List ArchivedEntry) : Bool × List ArchivedEntry :=
  if !answers.hasTime then (false, archive)
  else if !answers.opens then (false, archive)
  else
    let (success, data) := addFileContentToZip files answers absolutePath
    if !answers.closes then (false, archive)
    else (success, archive ++ [{ name := relativePath.path, data := data }])

/-- The time is not looked at here. -/
def addDirectoryEntryToZip (path : FilePath) (archive : List ArchivedEntry) :
    Bool × List ArchivedEntry :=
  if answers.opens && answers.closes then
    (true, archive ++ [{ name := path.path ++ separatorText, data := [] }])
  else (false, archive)

end Entries

section Writer

variable (files : SourceFiles) (answers : ZipAnswers)

def absolutePath (rootDir relativePath : FilePath) : FilePath :=
  if files.isDir rootDir then { path := rootDir.path ++ relativePath.path }
  else { path := rootDir.path }

/-- Whether an entry is written as a file; one that is missing is written as a
directory. -/
def isFile (rootDir relativePath : FilePath) : Bool :=
  let path := absolutePath files rootDir relativePath
  files.pathIsValid path && !files.isDir path

def addEntry (rootDir relativePath : FilePath) (output : ZipOutput) :
    Bool × ZipOutput :=
  let entryAnswers := answers.entry output.begun
  let (success, entries) :=
    if isFile files rootDir relativePath then
      addFileEntryToZip files entryAnswers relativePath
        (absolutePath files rootDir relativePath) output.entries
    else addDirectoryEntryToZip entryAnswers relativePath output.entries
  (success, { output with entries := entries, begun := output.begun + 1 })

/-- Add the entries of a batch. -/
def addBatch (rootDir : FilePath) :
    List FilePath → ZipOutput → Bool × ZipOutput
  | [], output => (true, output)
  | relativePath :: rest, output =>
      match addEntry files answers rootDir relativePath output with
      | (true, output) => addBatch rootDir rest output
      | (false, output) => (false, output.call .errno)

/-- The loop of `FlushEntriesIfNeeded`. -/
def flushLoop (rootDir : FilePath) (force : Bool)
    (pendingEntries : List FilePath) (output : ZipOutput) :
    Bool × List FilePath × ZipOutput :=
  if pendingEntries.length ≥ maxPendingEntriesCount ∨
      force = true ∧ pendingEntries ≠ [] then
    match addBatch files answers rootDir
        (pendingEntries.take maxPendingEntriesCount) output with
    | (false, output) => (false, pendingEntries.drop maxPendingEntriesCount, output)
    | (true, output) =>
        flushLoop rootDir force (pendingEntries.drop maxPendingEntriesCount) output
  else (true, pendingEntries, output)
termination_by pendingEntries.length
decreasing_by
  next more =>
    have present : 0 < pendingEntries.length := by
      rcases more with enough | ⟨-, present⟩
      · exact Nat.lt_of_lt_of_le (by decide) enough
      · exact List.length_pos_iff.mpr present
    rw [List.length_drop]
    exact Nat.sub_lt present (by decide)

def flushEntriesIfNeeded (force : Bool) (writer : ZipWriter)
    (output : ZipOutput) : Bool × ZipWriter × ZipOutput :=
  if writer.pendingEntries.length < maxPendingEntriesCount ∧ force = false then
    (true, writer, output)
  else
    match flushLoop files answers writer.rootDir force writer.pendingEntries
        output with
    | (true, pendingEntries, output) =>
        (true, { writer with pendingEntries := pendingEntries }, output.call .ok)
    | (false, pendingEntries, output) =>
        (false, { writer with pendingEntries := pendingEntries }, output)

def addEntries (paths : List FilePath) (writer : ZipWriter)
    (output : ZipOutput) : Bool × ZipWriter × ZipOutput :=
  if !writer.hasZipFile then (false, writer, output)
  else
    flushEntriesIfNeeded files answers false
      { writer with pendingEntries := writer.pendingEntries ++ paths } output

def close (writer : ZipWriter) (output : ZipOutput) :
    Bool × ZipWriter × ZipOutput :=
  match flushEntriesIfNeeded files answers true writer output with
  | (true, writer, output) =>
      (answers.closesArchive, { writer with hasZipFile := false },
        { output with isClosed := answers.closesArchive })
  | (false, writer, output) =>
      (false, { writer with hasZipFile := false }, output)

def writeEntries (paths : List FilePath) (writer : ZipWriter)
    (output : ZipOutput) : Bool × ZipOutput :=
  match addEntries files answers paths writer output with
  | (false, _, output) => (false, output)
  | (true, writer, output) =>
      let (success, _, output) := close files answers writer output
      (success, output)

/-- Open an archive to write entries below a directory. -/
def createWithFd (zipFilefd : Int32) (rootDir : FilePath) : Option ZipWriter :=
  if zipFilefd = kInvalidPlatformFile then none
  else if !answers.opensArchive then none
  else if !answers.hasRoom then none
  else some { rootDir := rootDir }

def create (zipFilePath rootDir : FilePath) : Option ZipWriter :=
  if zipFilePath.path = [] then none
  else if !answers.opensArchive then none
  else if !answers.hasRoom then none
  else some { rootDir := rootDir }

end Writer

section Outcomes

variable {files : SourceFiles} {answers : ZipAnswers} {rootDir : FilePath}

theorem copyLoop_spec (writes : Nat → Bool) (call : Nat)
    (reads : List ByteString) (data : ByteString) :
    ((copyLoop writes call reads data).1 = true ↔
        ∀ later < (reads.takeWhile (· ≠ [])).length, writes (call + later) = true) ∧
      ((copyLoop writes call reads data).1 = true →
        (copyLoop writes call reads data).2 =
          data ++ (reads.takeWhile (· ≠ [])).flatten) := by
  induction reads generalizing call data with
  | nil => simp [copyLoop]
  | cons buf reads ih =>
      unfold copyLoop
      by_cases ends : buf = []
      · simp [ends]
      · rw [if_neg ends, List.takeWhile_cons_of_pos (by simpa using ends),
          List.length_cons, List.flatten_cons, ← List.append_assoc]
        by_cases writesFirst : writes call = true
        · obtain ⟨succeeds, all⟩ := ih (call + 1) (data ++ buf)
          rw [if_pos writesFirst]
          refine ⟨succeeds.trans ?_, all⟩
          have shift (later : Nat) : call + 1 + later = call + (later + 1) := by
            omega
          constructor
          · intro others later inside
            cases later with
            | zero => exact writesFirst
            | succ later =>
                rw [← shift]
                exact others later (by omega)
          · intro every later inside
            rw [shift]
            exact every (later + 1) (by omega)
        · rw [if_neg writesFirst]
          refine ⟨⟨fun impossible => Bool.noConfusion impossible, fun every => ?_⟩,
            fun impossible => Bool.noConfusion impossible⟩
          exact absurd (every 0 (by omega)) writesFirst

/-- Nothing that is asked for an entry fails. -/
def Adds (files : SourceFiles) (answers : EntryAnswers)
    (rootDir relativePath : FilePath) : Prop :=
  answers.opens = true ∧ answers.closes = true ∧
    (isFile files rootDir relativePath = true →
      answers.hasTime = true ∧
        filePathCheckValid (absolutePath files rootDir relativePath).path = true ∧
        ∃ reads, answers.reads = some reads ∧
          ∀ call < (reads.takeWhile (· ≠ [])).length, answers.writes call = true)

/-- An entry of a file with some data, or of a directory. -/
def archivedEntry (files : SourceFiles) (rootDir relativePath : FilePath)
    (data : ByteString) : ArchivedEntry :=
  if isFile files rootDir relativePath then
    { name := relativePath.path, data := data }
  else { name := relativePath.path ++ separatorText, data := [] }

theorem addFileContentToZip_spec {answers : EntryAnswers}
    {filePath : FilePath} (valid : files.pathIsValid filePath = true) :
    ((addFileContentToZip files answers filePath).1 = true ↔
        filePathCheckValid filePath.path = true ∧
          ∃ reads, answers.reads = some reads ∧
            ∀ call < (reads.takeWhile (· ≠ [])).length,
              answers.writes call = true) ∧
      ((addFileContentToZip files answers filePath).1 = true →
        (addFileContentToZip files answers filePath).2 = answers.readData) := by
  unfold addFileContentToZip EntryAnswers.readData
  rw [valid]
  cases checked : filePathCheckValid filePath.path with
  | false => simp
  | true =>
      cases read : answers.reads with
      | none => simp
      | some reads =>
          obtain ⟨succeeds, all⟩ := copyLoop_spec answers.writes 0 reads []
          simp only [Nat.zero_add, List.nil_append] at succeeds all
          simp only [Bool.not_true, Bool.false_eq_true, if_false, true_and,
            Option.some.injEq, exists_eq_left', Option.getD_some]
          exact ⟨succeeds, all⟩

theorem addEntry_of_adds {relativePath : FilePath} {output : ZipOutput}
    (adds : Adds files (answers.entry output.begun) rootDir relativePath) :
    addEntry files answers rootDir relativePath output =
      (true, { output with
        entries := output.entries ++ [archivedEntry files rootDir relativePath
          (answers.entry output.begun).readData]
        begun := output.begun + 1 }) := by
  obtain ⟨opens, closes, file⟩ := adds
  unfold addEntry archivedEntry
  by_cases isFile : isFile files rootDir relativePath = true
  · obtain ⟨hasTime, content⟩ := file isFile
    have valid : files.pathIsValid (absolutePath files rootDir relativePath) =
        true :=
      (Bool.and_eq_true_iff.mp isFile).1
    have spec := @addFileContentToZip_spec files (answers.entry output.begun) _ valid
    have succeeds := spec.1.mpr content
    simp only [isFile, if_true, addFileEntryToZip, opens, closes, hasTime,
      succeeds, spec.2 succeeds, Bool.not_true, Bool.false_eq_true, if_false]
  · simp only [isFile, if_false, addDirectoryEntryToZip, opens, closes,
      Bool.and_self, if_true, Bool.false_eq_true]

theorem adds_of_addEntry {relativePath : FilePath} {output : ZipOutput}
    (succeeds : (addEntry files answers rootDir relativePath output).1 = true) :
    Adds files (answers.entry output.begun) rootDir relativePath := by
  unfold addEntry at succeeds
  by_cases isFile : isFile files rootDir relativePath = true
  · have valid : files.pathIsValid (absolutePath files rootDir relativePath) =
        true :=
      (Bool.and_eq_true_iff.mp isFile).1
    simp only [isFile, if_true, addFileEntryToZip] at succeeds
    cases hasTime : (answers.entry output.begun).hasTime with
    | false => simp [hasTime] at succeeds
    | true =>
        cases opens : (answers.entry output.begun).opens with
        | false => simp [opens] at succeeds
        | true =>
            cases closes : (answers.entry output.begun).closes with
            | false => simp [closes] at succeeds
            | true =>
                simp only [hasTime, opens, closes, Bool.not_true,
                  Bool.false_eq_true, if_false] at succeeds
                have content := (addFileContentToZip_spec valid).1.mp succeeds
                exact ⟨opens, closes, fun _ => ⟨hasTime, content⟩⟩
  · simp only [isFile, Bool.false_eq_true, if_false, addDirectoryEntryToZip]
      at succeeds
    split at succeeds
    · next both =>
        obtain ⟨opens, closes⟩ := Bool.and_eq_true_iff.mp both
        exact ⟨opens, closes, fun file => absurd file isFile⟩
    · cases succeeds

theorem addEntry_of_not_adds {relativePath : FilePath} {output : ZipOutput}
    (fails : ¬Adds files (answers.entry output.begun) rootDir relativePath) :
    ∃ entries, addEntry files answers rootDir relativePath output =
      (false, { output with entries := entries, begun := output.begun + 1 }) := by
  cases succeeds : (addEntry files answers rootDir relativePath output).1 with
  | true => exact absurd (adds_of_addEntry succeeds) fails
  | false => exact ⟨_, Prod.ext succeeds rfl⟩

variable (files answers rootDir)

/-- Every one of the entries can be added, when the first of them gets the answers
at a position. -/
def AddsAll : Nat → List FilePath → Prop
  | _, [] => True
  | begun, relativePath :: rest =>
      Adds files (answers.entry begun) rootDir relativePath ∧
        AddsAll (begun + 1) rest

/-- What is then in the archive. -/
def archivedEntries : Nat → List FilePath → List ArchivedEntry
  | _, [] => []
  | begun, relativePath :: rest =>
      archivedEntry files rootDir relativePath (answers.entry begun).readData ::
        archivedEntries (begun + 1) rest

variable {files answers rootDir}

theorem addsAll_append {begun : Nat} {paths others : List FilePath} :
    AddsAll files answers rootDir begun (paths ++ others) ↔
      AddsAll files answers rootDir begun paths ∧
        AddsAll files answers rootDir (begun + paths.length) others := by
  induction paths generalizing begun with
  | nil => simp [AddsAll]
  | cons path paths ih =>
      simp only [List.cons_append, AddsAll, ih, List.length_cons, and_assoc,
        Nat.add_right_comm begun 1, ← Nat.add_assoc]

theorem archivedEntries_append {begun : Nat} {paths others : List FilePath} :
    archivedEntries files answers rootDir begun (paths ++ others) =
      archivedEntries files answers rootDir begun paths ++
        archivedEntries files answers rootDir (begun + paths.length) others := by
  induction paths generalizing begun with
  | nil => simp [archivedEntries]
  | cons path paths ih =>
      simp only [List.cons_append, archivedEntries, ih, List.length_cons,
        Nat.add_right_comm begun 1, ← Nat.add_assoc]

/-- What has come of the entries when all of them were added. -/
def added (files : SourceFiles) (answers : ZipAnswers) (rootDir : FilePath)
    (paths : List FilePath) (output : ZipOutput) : ZipOutput :=
  { output with
    entries := output.entries ++
      archivedEntries files answers rootDir output.begun paths
    begun := output.begun + paths.length }

/-- An entry could not be added, which was reported. -/
def HasFailed (output later : ZipOutput) : Prop :=
  later.calls = output.calls ++ [.errno] ∧ later.isClosed = output.isClosed

theorem added_append {output : ZipOutput} {paths others : List FilePath} :
    added files answers rootDir others
        (added files answers rootDir paths output) =
      added files answers rootDir (paths ++ others) output := by
  simp only [added, archivedEntries_append, List.append_assoc, List.length_append,
    Nat.add_assoc]

theorem addBatch_of_addsAll {batch : List FilePath} {output : ZipOutput}
    (adds : AddsAll files answers rootDir output.begun batch) :
    addBatch files answers rootDir batch output =
      (true, added files answers rootDir batch output) := by
  induction batch generalizing output with
  | nil => simp [addBatch, added, archivedEntries]
  | cons relativePath batch ih =>
      unfold addBatch
      rw [addEntry_of_adds adds.1]
      dsimp only
      rw [ih adds.2]
      simp only [added, archivedEntries, List.append_assoc, List.singleton_append,
        List.length_cons, Nat.add_right_comm output.begun 1, Nat.add_assoc]

theorem addBatch_of_not_addsAll {batch : List FilePath} {output : ZipOutput}
    (fails : ¬AddsAll files answers rootDir output.begun batch) :
    ∃ later, addBatch files answers rootDir batch output = (false, later) ∧
      HasFailed output later := by
  induction batch generalizing output with
  | nil => exact absurd trivial fails
  | cons relativePath batch ih =>
      unfold addBatch
      by_cases adds : Adds files (answers.entry output.begun) rootDir relativePath
      · rw [addEntry_of_adds adds]
        exact ih fun others => fails ⟨adds, others⟩
      · obtain ⟨entries, ends⟩ := addEntry_of_not_adds adds
        rw [ends]
        exact ⟨_, rfl, rfl, rfl⟩

/-- How many of the pending entries a flush writes. -/
def flushedCount (force : Bool) (pendingCount : Nat) : Nat :=
  if force then pendingCount
  else pendingCount / maxPendingEntriesCount * maxPendingEntriesCount

theorem flushedCount_of_batch {force : Bool} {pendingEntries : List FilePath}
    (more : pendingEntries.length ≥ maxPendingEntriesCount ∨
      force = true ∧ pendingEntries ≠ []) :
    pendingEntries.take (flushedCount force pendingEntries.length) =
        pendingEntries.take maxPendingEntriesCount ++
          (pendingEntries.drop maxPendingEntriesCount).take
            (flushedCount force
              (pendingEntries.drop maxPendingEntriesCount).length) ∧
      pendingEntries.drop (flushedCount force pendingEntries.length) =
        (pendingEntries.drop maxPendingEntriesCount).drop
          (flushedCount force
            (pendingEntries.drop maxPendingEntriesCount).length) := by
  by_cases enough : maxPendingEntriesCount ≤ pendingEntries.length
  · have counted : flushedCount force pendingEntries.length =
        maxPendingEntriesCount + flushedCount force
          (pendingEntries.drop maxPendingEntriesCount).length := by
      rw [List.length_drop]
      unfold flushedCount
      unfold maxPendingEntriesCount at enough ⊢
      split
      · omega
      · omega
    rw [counted, List.take_add, List.drop_drop]
    exact ⟨rfl, rfl⟩
  · obtain ⟨rfl, -⟩ : force = true ∧ pendingEntries ≠ [] :=
      more.resolve_left enough
    have none : pendingEntries.drop maxPendingEntriesCount = [] :=
      List.drop_eq_nil_of_le (by omega)
    have whole : pendingEntries.take maxPendingEntriesCount = pendingEntries :=
      List.take_of_length_le (by omega)
    rw [none, whole]
    simp [flushedCount]

theorem flushedCount_eq_zero {force : Bool} {pendingEntries : List FilePath}
    (stops : ¬(pendingEntries.length ≥ maxPendingEntriesCount ∨
      force = true ∧ pendingEntries ≠ [])) :
    flushedCount force pendingEntries.length = 0 := by
  rw [not_or, not_and, not_not] at stops
  unfold flushedCount
  split
  · next forced => rw [stops.2 forced, List.length_nil]
  · rw [Nat.div_eq_of_lt (Nat.not_le.mp stops.1), Nat.zero_mul]

/-- A flush that succeeds has written its entries. -/
theorem flushLoop_of_addsAll {force : Bool} {pendingEntries : List FilePath}
    {output : ZipOutput}
    (adds : AddsAll files answers rootDir output.begun
      (pendingEntries.take (flushedCount force pendingEntries.length))) :
    flushLoop files answers rootDir force pendingEntries output =
      (true, pendingEntries.drop (flushedCount force pendingEntries.length),
        added files answers rootDir
          (pendingEntries.take (flushedCount force pendingEntries.length))
          output) := by
  induction pendingEntries, output using
    flushLoop.induct files answers rootDir force with
  | case1 pendingEntries output more later failed =>
      rw [(flushedCount_of_batch more).1, addsAll_append] at adds
      rw [addBatch_of_addsAll adds.1] at failed
      cases failed
  | case2 pendingEntries output more later wrote ih =>
      obtain ⟨taken, dropped⟩ := flushedCount_of_batch more
      rw [taken, addsAll_append] at adds
      rw [addBatch_of_addsAll adds.1] at wrote
      cases wrote
      rw [flushLoop, if_pos more, addBatch_of_addsAll adds.1]
      dsimp only
      rw [ih adds.2, added_append, taken, dropped]
  | case3 pendingEntries output stops =>
      rw [flushLoop, if_neg stops, flushedCount_eq_zero stops]
      simp [added, archivedEntries]

theorem flushLoop_of_not_addsAll {force : Bool} {pendingEntries : List FilePath}
    {output : ZipOutput}
    (fails : ¬AddsAll files answers rootDir output.begun
      (pendingEntries.take (flushedCount force pendingEntries.length))) :
    ∃ rest later, flushLoop files answers rootDir force pendingEntries output =
        (false, rest, later) ∧ HasFailed output later := by
  induction pendingEntries, output using
    flushLoop.induct files answers rootDir force with
  | case1 pendingEntries output more later failed =>
      have fails : ¬AddsAll files answers rootDir output.begun
          (pendingEntries.take maxPendingEntriesCount) := by
        intro adds
        rw [addBatch_of_addsAll adds] at failed
        cases failed
      obtain ⟨_, failed, hasFailed⟩ := addBatch_of_not_addsAll fails
      rw [flushLoop, if_pos more, failed]
      exact ⟨_, _, rfl, hasFailed⟩
  | case2 pendingEntries output more later wrote ih =>
      rw [(flushedCount_of_batch more).1, addsAll_append] at fails
      have adds : AddsAll files answers rootDir output.begun
          (pendingEntries.take maxPendingEntriesCount) := by
        by_contra never
        obtain ⟨_, failed, -⟩ := addBatch_of_not_addsAll never
        rw [failed] at wrote
        cases wrote
      rw [addBatch_of_addsAll adds] at wrote
      cases wrote
      obtain ⟨rest, later, ends, hasFailed⟩ := ih fun others => fails ⟨adds, others⟩
      rw [flushLoop, if_pos more, addBatch_of_addsAll adds]
      exact ⟨rest, later, ends, hasFailed⟩
  | case3 pendingEntries output stops =>
      rw [flushedCount_eq_zero stops] at fails
      exact absurd trivial fails

/-- What is read of every file is all that is in it. -/
def ReadsAll (files : SourceFiles) (answers : ZipAnswers) (rootDir : FilePath) :
    Nat → List FilePath → Prop
  | _, [] => True
  | begun, relativePath :: rest =>
      (isFile files rootDir relativePath = true →
        (answers.entry begun).readData =
          files.contents (absolutePath files rootDir relativePath).path) ∧
        ReadsAll files answers rootDir (begun + 1) rest

/-- What is to be in the archive. -/
def wholeEntries (files : SourceFiles) (rootDir : FilePath)
    (paths : List FilePath) : List ArchivedEntry :=
  paths.map fun relativePath =>
    archivedEntry files rootDir relativePath
      (files.contents (absolutePath files rootDir relativePath).path)

theorem archivedEntries_eq_wholeEntries_iff {begun : Nat}
    {paths : List FilePath} :
    archivedEntries files answers rootDir begun paths =
        wholeEntries files rootDir paths ↔
      ReadsAll files answers rootDir begun paths := by
  induction paths generalizing begun with
  | nil => simp [archivedEntries, wholeEntries, ReadsAll]
  | cons relativePath paths ih =>
      have first (data other : ByteString) :
          archivedEntry files rootDir relativePath data =
              archivedEntry files rootDir relativePath other ↔
            (isFile files rootDir relativePath = true → data = other) := by
        unfold archivedEntry
        split
        · next file => simp [file]
        · next directory => simp [directory]
      have rest := @ih (begun + 1)
      unfold wholeEntries at rest ⊢
      rw [archivedEntries, List.map_cons, List.cons.injEq, first, rest, ReadsAll]

/-- What the callback was called with is right: all that was to be written is in a
closed archive, or it is not. -/
def ReportsOnce (output : ZipOutput) (whole : List ArchivedEntry) : Prop :=
  ∃ result, output.calls = [result] ∧
    (result = .ok ↔ output.entries = whole ∧ output.isClosed = true)

theorem reportsOnce_of_hasFailed {output : ZipOutput} {whole : List ArchivedEntry}
    (failed : HasFailed {} output) : ReportsOnce output whole := by
  obtain ⟨calls, isClosed⟩ := failed
  refine ⟨.errno, calls, fun impossible => ?_, fun done => ?_⟩
  · cases impossible
  · rw [isClosed] at done
    cases done.2

theorem reportsOnce_of_ok {output : ZipOutput} {whole : List ArchivedEntry}
    (calls : output.calls = [.ok]) :
    ReportsOnce output whole ↔ output.entries = whole ∧ output.isClosed = true := by
  constructor
  · rintro ⟨result, isCall, right⟩
    rw [calls, List.singleton_inj] at isCall
    exact right.mp isCall.symm
  · intro done
    exact ⟨.ok, calls, iff_of_true rfl done⟩

theorem not_reportsOnce_of_calls {output : ZipOutput}
    {whole : List ArchivedEntry} {first second : ErrorCode}
    (calls : output.calls = [first, second]) : ¬ReportsOnce output whole := by
  rintro ⟨result, isCall, -⟩
  rw [calls] at isCall
  cases isCall

theorem flushEntries_of_addsAll {force : Bool} {writer : ZipWriter}
    {output : ZipOutput}
    (flushes : ¬(writer.pendingEntries.length < maxPendingEntriesCount ∧
      force = false))
    (adds : AddsAll files answers writer.rootDir output.begun
      (writer.pendingEntries.take
        (flushedCount force writer.pendingEntries.length))) :
    flushEntriesIfNeeded files answers force writer output =
      (true, { writer with
        pendingEntries := writer.pendingEntries.drop
          (flushedCount force writer.pendingEntries.length) },
        (added files answers writer.rootDir (writer.pendingEntries.take
          (flushedCount force writer.pendingEntries.length)) output).call .ok) := by
  unfold flushEntriesIfNeeded
  rw [if_neg flushes, flushLoop_of_addsAll adds]

theorem flushEntries_of_not_addsAll {force : Bool} {writer : ZipWriter}
    {output : ZipOutput}
    (flushes : ¬(writer.pendingEntries.length < maxPendingEntriesCount ∧
      force = false))
    (fails : ¬AddsAll files answers writer.rootDir output.begun
      (writer.pendingEntries.take
        (flushedCount force writer.pendingEntries.length))) :
    ∃ rest later, flushEntriesIfNeeded files answers force writer output =
        (false, rest, later) ∧ HasFailed output later := by
  obtain ⟨rest, later, ends, hasFailed⟩ := flushLoop_of_not_addsAll fails
  unfold flushEntriesIfNeeded
  rw [if_neg flushes, ends]
  exact ⟨_, _, rfl, hasFailed⟩

/-- To close is to write all that is left, to report that, and then to close. -/
theorem close_of_addsAll {writer : ZipWriter} {output : ZipOutput}
    (adds : AddsAll files answers writer.rootDir output.begun
      writer.pendingEntries) :
    (close files answers writer output).2.2 =
      { (added files answers writer.rootDir writer.pendingEntries output).call .ok
        with isClosed := answers.closesArchive } := by
  have whole : writer.pendingEntries.take
      (flushedCount true writer.pendingEntries.length) = writer.pendingEntries :=
    List.take_length
  have flushes : ¬(writer.pendingEntries.length < maxPendingEntriesCount ∧
      true = false) := by
    simp
  unfold close
  rw [flushEntries_of_addsAll flushes (by rwa [whole]), whole]

theorem close_of_not_addsAll {writer : ZipWriter} {output : ZipOutput}
    (fails : ¬AddsAll files answers writer.rootDir output.begun
      writer.pendingEntries) :
    HasFailed output (close files answers writer output).2.2 := by
  have whole : writer.pendingEntries.take
      (flushedCount true writer.pendingEntries.length) = writer.pendingEntries :=
    List.take_length
  have flushes : ¬(writer.pendingEntries.length < maxPendingEntriesCount ∧
      true = false) := by
    simp
  obtain ⟨rest, later, ends, hasFailed⟩ :=
    flushEntries_of_not_addsAll flushes (by rwa [whole])
  unfold close
  rw [ends]
  exact hasFailed

/-- Fewer entries than a batch has wait until the writer closes. -/
theorem addEntries_few {paths : List FilePath}
    (few : paths.length < maxPendingEntriesCount) :
    addEntries files answers paths { rootDir := rootDir } {} =
      (true, { rootDir := rootDir, pendingEntries := paths }, {}) := by
  simp [addEntries, flushEntriesIfNeeded, few]

/-- The writer that is left when full batches were written. -/
def flushedWriter (rootDir : FilePath) (paths : List FilePath) : ZipWriter where
  rootDir := rootDir
  pendingEntries := paths.drop (flushedCount false paths.length)

/-- What has come of full batches when they were written, which is reported. -/
def flushedOutput (files : SourceFiles) (answers : ZipAnswers) (rootDir : FilePath)
    (paths : List FilePath) : ZipOutput :=
  (added files answers rootDir (paths.take (flushedCount false paths.length))
    {}).call .ok

theorem addEntries_of_addsAll {paths : List FilePath}
    (many : maxPendingEntriesCount ≤ paths.length)
    (adds : AddsAll files answers rootDir 0
      (paths.take (flushedCount false paths.length))) :
    addEntries files answers paths { rootDir := rootDir } {} =
      (true, flushedWriter rootDir paths,
        flushedOutput files answers rootDir paths) := by
  have flushes : ¬(paths.length < maxPendingEntriesCount ∧ false = false) := by
    omega
  exact flushEntries_of_addsAll flushes adds

theorem addEntries_of_not_addsAll {paths : List FilePath}
    (many : maxPendingEntriesCount ≤ paths.length)
    (fails : ¬AddsAll files answers rootDir 0
      (paths.take (flushedCount false paths.length))) :
    ∃ rest later, addEntries files answers paths { rootDir := rootDir } {} =
        (false, rest, later) ∧ HasFailed {} later := by
  have flushes : ¬(paths.length < maxPendingEntriesCount ∧ false = false) := by
    omega
  exact flushEntries_of_not_addsAll flushes fails

/-- When the writing of fewer entries than a batch has is reported once. -/
theorem writeEntries_few {paths : List FilePath}
    (few : paths.length < maxPendingEntriesCount) :
    ReportsOnce (writeEntries files answers paths { rootDir := rootDir } {}).2
        (wholeEntries files rootDir paths) ↔
      ¬AddsAll files answers rootDir 0 paths ∨
        answers.closesArchive = true ∧ ReadsAll files answers rootDir 0 paths := by
  unfold writeEntries
  rw [addEntries_few few]
  dsimp only
  by_cases adds : AddsAll files answers rootDir 0 paths
  · rw [close_of_addsAll adds, reportsOnce_of_ok rfl]
    have entries := @archivedEntries_eq_wholeEntries_iff files answers rootDir 0 paths
    simp only [added, ZipOutput.call, List.nil_append, entries, adds, not_true,
      false_or, and_comm]
  · have hasFailed := @close_of_not_addsAll files answers
      { rootDir := rootDir, pendingEntries := paths } {} adds
    exact iff_of_true (reportsOnce_of_hasFailed hasFailed) (.inl adds)

/-- When the writing of a batch or more is reported once: full batches are reported
by themselves, so only if one of those fails. -/
theorem writeEntries_many {paths : List FilePath}
    (many : maxPendingEntriesCount ≤ paths.length) :
    ReportsOnce (writeEntries files answers paths { rootDir := rootDir } {}).2
        (wholeEntries files rootDir paths) ↔
      ¬AddsAll files answers rootDir 0
        (paths.take (flushedCount false paths.length)) := by
  unfold writeEntries
  by_cases adds : AddsAll files answers rootDir 0
      (paths.take (flushedCount false paths.length))
  · refine iff_of_false ?_ (not_not.mpr adds)
    rw [addEntries_of_addsAll many adds]
    dsimp only
    -- The rest is reported once more, whether it is written or not.
    by_cases others : AddsAll files answers rootDir
        (flushedOutput files answers rootDir paths).begun
        (flushedWriter rootDir paths).pendingEntries
    · have closes := @close_of_addsAll files answers (flushedWriter rootDir paths)
        _ others
      rw [closes]
      exact not_reportsOnce_of_calls rfl
    · have hasFailed := @close_of_not_addsAll files answers
        (flushedWriter rootDir paths) _ others
      exact not_reportsOnce_of_calls hasFailed.1
  · obtain ⟨rest, later, ends, hasFailed⟩ :=
      addEntries_of_not_addsAll many adds
    rw [ends]
    exact iff_of_true (reportsOnce_of_hasFailed hasFailed) adds

/-- The archive has all entries when every one of them can be added. -/
theorem writeEntries_of_addsAll {paths : List FilePath}
    (adds : AddsAll files answers rootDir 0 paths) :
    (writeEntries files answers paths { rootDir := rootDir } {}).2.entries =
        archivedEntries files answers rootDir 0 paths ∧
      (writeEntries files answers paths { rootDir := rootDir } {}).2.isClosed =
        answers.closesArchive := by
  unfold writeEntries
  by_cases few : paths.length < maxPendingEntriesCount
  · rw [addEntries_few few]
    dsimp only
    rw [close_of_addsAll adds]
    exact ⟨rfl, rfl⟩
  · rw [← List.take_append_drop (flushedCount false paths.length) paths,
      addsAll_append] at adds
    rw [addEntries_of_addsAll (Nat.not_lt.mp few) adds.1]
    have closes := @close_of_addsAll files answers (flushedWriter rootDir paths)
      (flushedOutput files answers rootDir paths) adds.2
    dsimp only
    rw [closes]
    refine ⟨?_, rfl⟩
    conv_rhs => rw [← List.take_append_drop (flushedCount false paths.length) paths]
    rw [archivedEntries_append]
    rfl

/-- The archive is not closed when one of the entries cannot be added. -/
theorem writeEntries_of_not_addsAll {paths : List FilePath}
    (fails : ¬AddsAll files answers rootDir 0 paths) :
    (writeEntries files answers paths { rootDir := rootDir } {}).2.isClosed =
      false := by
  unfold writeEntries
  by_cases few : paths.length < maxPendingEntriesCount
  · rw [addEntries_few few]
    exact (@close_of_not_addsAll files answers
      { rootDir := rootDir, pendingEntries := paths } {} fails).2
  · have many := Nat.not_lt.mp few
    by_cases adds : AddsAll files answers rootDir 0
        (paths.take (flushedCount false paths.length))
    · rw [← List.take_append_drop (flushedCount false paths.length) paths,
        addsAll_append, not_and] at fails
      rw [addEntries_of_addsAll many adds]
      exact (@close_of_not_addsAll files answers (flushedWriter rootDir paths)
        (flushedOutput files answers rootDir paths) (fails adds)).2
    · obtain ⟨rest, later, ends, hasFailed⟩ :=
        addEntries_of_not_addsAll many adds
      rw [ends]
      exact hasFailed.2

end Outcomes

end ZipWriter

end AppExecFwk
