import Mathlib.Data.List.TakeWhile
import AppExecFwk.Archive.ZipExtract
import AppExecFwk.Installd.InstalldHost

/-!
# Extracting a HAP

`ExtractFiles` writes the entries of an archive below the directory of the
module, and its native libraries below a directory of their own.  Which entries
are native libraries is decided by what their names contain, and whether a
native library is written does not count.
-/

namespace AppExecFwk

open ByteFile CommandProgram DirectoryTree FilePath Inflation

namespace BundleExtractor

variable {zip : ZipFile}

def extractFile (extraction : Extraction zip) (fileName targetPath : ByteString) :
    FileOperation Bool := do
  if !(← systemCall (.openEntry fileName targetPath)) then
    return false
  let (extracted, data) := extraction.result fileName
  let good ← systemCall (.writeEntry fileName targetPath data)
  if !extracted || !good then
    let _ ← systemCall (.remove targetPath)
    return false
  return true

end BundleExtractor

namespace InstalldOperator

open BundleExtractor

/-- `S_IRWXU | S_IRGRP | S_IXGRP | S_IXOTH`, and `S_IROTH` for a directory that
others may read. -/
def dirMode (isReadByOthers : Bool) : UInt32 :=
  if isReadByOthers then 0o755 else 0o751

def mkRecursiveDir (path : ByteString) (isReadByOthers : Bool) :
    FileOperation Bool := do
  if !(← systemCall (.forceCreateDirectory path)) then
    return false
  systemCall (.changeModeDirectory path (dirMode isReadByOthers))

/-- Where the libraries for an ABI are in an archive. -/
def libsPrefix (cpuAbi : ByteString) : ByteString :=
  bytes "libs/" ++ cpuAbi ++ [kSeparator]

def soSuffix : ByteString :=
  bytes ".so"

def isNativeSo (entryName targetSoPath cpuAbi : ByteString) : Bool :=
  targetSoPath ≠ [] ∧ libsPrefix cpuAbi <:+: entryName ∧ soSuffix <:+: entryName

def getPathDir (path : ByteString) : ByteString :=
  match findLastSeparator path with
  | none => []
  | some position => path.take (position + 1)

/-- The file that is written for a native library. -/
def soPath (entryName targetSoPath cpuAbi : ByteString) : ByteString :=
  targetSoPath ++ entryName.drop (libsPrefix cpuAbi).length

section Extracting

variable {zip : ZipFile}

/-- The directory of the native libraries is made if it does not exist. -/
def makeSoDir (targetSoPath : ByteString) : FileOperation Bool := do
  if ← isExistDir targetSoPath then
    return true
  mkRecursiveDir targetSoPath true

def extractSo (extraction : Extraction zip)
    (entryName targetSoPath cpuAbi : ByteString) : FileOperation Unit := do
  if !(← makeSoDir targetSoPath) then
    return
  let targetSo := soPath entryName targetSoPath cpuAbi
  if !(← extractFile extraction entryName targetSo) then
    return
  let _ ← systemCall (.changeModeFile targetSo 0o755)

/-- The directory of an entry is made if its name has one. -/
def makeEntryDir (targetDir dir : ByteString) : FileOperation Bool :=
  if dir = [] then pure true else mkRecursiveDir (targetDir ++ dir) true

/-- What the loop of `ExtractFiles` does with an entry that is no native
library. -/
def extractEntry (extraction : Extraction zip) (entryName targetDir : ByteString) :
    FileOperation Bool := do
  if !(← makeEntryDir targetDir (getPathDir entryName)) then
    return false
  let filePath := targetDir ++ entryName
  if !(← extractFile extraction entryName filePath) then
    return false
  let _ ← systemCall (.changeModeFile filePath 0o644)
  return true

/-- The loop of `ExtractFiles` over the names of the entries. -/
def extractEntries (extraction : Extraction zip)
    (targetDir targetSoPath cpuAbi : ByteString) :
    List ByteString → FileOperation Bool
  | [] => return true
  | entryName :: rest => do
      if kParentDirectory <:+: entryName then
        return false
      if entryName.getLast? = some kSeparator then
        return ← extractEntries extraction targetDir targetSoPath cpuAbi rest
      if isNativeSo entryName targetSoPath cpuAbi then
        extractSo extraction entryName targetSoPath cpuAbi
        return ← extractEntries extraction targetDir targetSoPath cpuAbi rest
      if !(← extractEntry extraction entryName targetDir) then
        return false
      extractEntries extraction targetDir targetSoPath cpuAbi rest

/-- A target path that ends with a separator. -/
def targetDirOf (targetPath : ByteString) : ByteString :=
  if targetPath.getLast? ≠ some kSeparator then targetPath ++ [kSeparator]
  else targetPath

end Extracting

def extractFiles (archives : FileSystem) (sourcePath : ByteString)
    (extraction : Extraction (init archives sourcePath).2)
    (targetPath targetSoPath cpuAbi : ByteString) : FileOperation Bool := do
  if !(init archives sourcePath).1 then
    return false
  let entryNames := (init archives sourcePath).2.entriesMap.keys
  if entryNames = [] then
    return false
  extractEntries extraction (targetDirOf targetPath) targetSoPath cpuAbi
    entryNames

end InstalldOperator

open BundleExtractor InstalldOperator

/-- What a step writes: for which entry, to which path, and what of it reaches
the file. -/
structure WrittenEntry where
  entryName : ByteString
  path : ByteString
  content : ByteString
  good : Bool

def writtenEntry : Step installd → Option WrittenEntry
  | ⟨.writeEntry entryName path data, _, answer⟩ =>
      some ⟨entryName, path, data.take answer.kept, answer.good⟩
  | _ => none

/-- The file that a step opens, and for which entry. -/
def openedEntry : Step installd → Option (ByteString × ByteString)
  | ⟨.openEntry entryName path, files, answer⟩ =>
      if answer && files.canOpen (placeOf (cString path)) then
        some (entryName, path)
      else none
  | _ => none

/-- The calls that the extraction of an entry to a path makes. -/
def IsCallFor (entryName path : ByteString) : SystemCall → Prop
  | .openEntry other otherPath | .writeEntry other otherPath _ =>
      other = entryName ∧ otherPath = path
  | .stat _ | .forceCreateDirectory _ | .changeModeDirectory _ _ | .remove _
  | .changeModeFile _ _ => True
  | _ => False

section Entry

variable {zip : ZipFile} {extraction : Extraction zip}
  {entryName path targetDir targetSoPath cpuAbi : ByteString}
  {env : Environment installd} {position : Nat} {files : Files}

/-- An entry is reported to be extracted: all of its data is there, and the
stream it was written to is good. -/
def IsReported (extraction : Extraction zip) (entryName : ByteString)
    (steps : List (Step installd)) : Prop :=
  (extraction.result entryName).1 = true ∧
    ∃ step ∈ steps, ∃ entry, writtenEntry step = some entry ∧
      entry.entryName = entryName ∧ entry.good = true

theorem makesOnly_extractFile :
    MakesOnly (IsCallFor entryName path)
      (extractFile extraction entryName path) := by
  unfold extractFile
  refine (MakesOnly.perform ⟨rfl, rfl⟩).bind fun isOpen => ?_
  split
  · trivial
  · refine (MakesOnly.perform ⟨rfl, rfl⟩).bind fun good => ?_
    split
    · exact (MakesOnly.perform trivial).bind fun _ => trivial
    · trivial

/-- An extraction tells whether the entry is reported to be extracted. -/
theorem extractFile_value :
    ∃ extracted, (run installd env (extractFile extraction entryName path)
        position files).value = some extracted ∧
      (extracted = true ↔ IsReported extraction entryName
        (run installd env (extractFile extraction entryName path) position
          files).steps) := by
  unfold extractFile systemCall Program.perform
  simp only [Program.call_bind, Program.ret_bind, run, Step.result, Step.after]
  by_cases isOpen : ((SystemCall.openEntry entryName path).perform
      (env position (.openEntry entryName path)) files).1 = true
  · simp only [isOpen, Bool.not_true, Bool.false_eq_true, if_false, run,
      Step.result, Step.after]
    cases extracted : (extraction.result entryName).1 with
    | false => exact ⟨false, rfl, by simp [IsReported, extracted]⟩
    | true =>
        cases good : (env (position + 1) (.writeEntry entryName path
            (extraction.result entryName).2)).good with
        | false =>
            simp only [SystemCall.perform, good]
            refine ⟨false, rfl, ?_⟩
            simp [IsReported, run, writtenEntry, good]
        | true =>
            simp only [SystemCall.perform, good]
            refine ⟨true, rfl, ?_⟩
            simp [IsReported, run, writtenEntry, good, extracted]
  · rw [Bool.not_eq_true] at isOpen
    simp only [isOpen]
    exact ⟨false, rfl, by simp [IsReported, run, writtenEntry]⟩

/-- A program whose value tells whether an entry is reported to be extracted. -/
def Tells (extraction : Extraction zip) (entryName : ByteString)
    (outcome : Outcome installd Bool) : Prop :=
  ∃ extracted, outcome.value = some extracted ∧
    (extracted = true ↔ IsReported extraction entryName outcome.steps)

/-- The calls that open and write nothing. -/
def IsQuiet : SystemCall → Prop
  | .openEntry _ _ | .writeEntry _ _ _ => False
  | _ => True

theorem makesOnly_mkRecursiveDir {dir : ByteString} {isReadByOthers : Bool}
    {isMade : SystemCall → Prop} (creates : isMade (.forceCreateDirectory dir))
    (changes : isMade (.changeModeDirectory dir (dirMode isReadByOthers))) :
    MakesOnly isMade (mkRecursiveDir dir isReadByOthers) := by
  unfold mkRecursiveDir
  refine (MakesOnly.perform creates).bind fun made => ?_
  split
  · trivial
  · exact MakesOnly.perform changes

theorem alwaysReturns_mkRecursiveDir {dir : ByteString} {isReadByOthers : Bool} :
    AlwaysReturns (mkRecursiveDir dir isReadByOthers) := by
  intro made
  cases made with
  | false => exact trivial
  | true => exact fun _ => trivial

theorem makesOnly_isExistDir {dir : ByteString} {isMade : SystemCall → Prop}
    (asks : isMade (.stat dir)) : MakesOnly isMade (isExistDir dir) := by
  unfold isExistDir
  split
  · trivial
  · exact (MakesOnly.perform asks).bind fun _ => trivial

theorem makesOnly_makeSoDir {isMade : SystemCall → Prop}
    (asks : isMade (.stat targetSoPath))
    (creates : isMade (.forceCreateDirectory targetSoPath))
    (changes : isMade (.changeModeDirectory targetSoPath (dirMode true))) :
    MakesOnly isMade (makeSoDir targetSoPath) := by
  unfold makeSoDir
  refine (makesOnly_isExistDir asks).bind fun isThere => ?_
  split
  · trivial
  · exact makesOnly_mkRecursiveDir creates changes

theorem makesOnly_makeEntryDir {dir : ByteString} {isMade : SystemCall → Prop}
    (creates : isMade (.forceCreateDirectory (targetDir ++ dir)))
    (changes : isMade (.changeModeDirectory (targetDir ++ dir)
      (dirMode true))) :
    MakesOnly isMade (makeEntryDir targetDir dir) := by
  unfold makeEntryDir
  split
  · trivial
  · exact makesOnly_mkRecursiveDir creates changes

theorem makesOnly_extractSo :
    MakesOnly (IsCallFor entryName (soPath entryName targetSoPath cpuAbi))
      (extractSo extraction entryName targetSoPath cpuAbi) := by
  unfold extractSo
  refine (makesOnly_makeSoDir trivial trivial trivial).bind fun made => ?_
  split
  · trivial
  · refine makesOnly_extractFile.bind fun extracted => ?_
    split
    · trivial
    · exact (MakesOnly.perform trivial).bind fun _ => trivial

theorem makesOnly_extractEntry :
    MakesOnly (IsCallFor entryName (targetDir ++ entryName))
      (extractEntry extraction entryName targetDir) := by
  unfold extractEntry
  refine (makesOnly_makeEntryDir trivial trivial).bind fun made => ?_
  split
  · trivial
  · refine makesOnly_extractFile.bind fun extracted => ?_
    split
    · trivial
    · exact (MakesOnly.perform trivial).bind fun _ => trivial

theorem alwaysReturns_extractFile :
    AlwaysReturns (extractFile extraction entryName path) := by
  refine AlwaysReturns.bind (fun _ => trivial) fun isOpen => ?_
  split
  · trivial
  · refine AlwaysReturns.bind (fun _ => trivial) fun good => ?_
    split
    · exact fun _ => trivial
    · trivial

theorem alwaysReturns_makeSoDir : AlwaysReturns (makeSoDir targetSoPath) := by
  unfold makeSoDir isExistDir
  refine AlwaysReturns.bind ?_ fun isThere => ?_
  · split
    · trivial
    · exact fun _ => trivial
  · split
    · trivial
    · exact alwaysReturns_mkRecursiveDir

theorem alwaysReturns_makeEntryDir {dir : ByteString} :
    AlwaysReturns (makeEntryDir targetDir dir) := by
  unfold makeEntryDir
  split
  · trivial
  · exact alwaysReturns_mkRecursiveDir

theorem alwaysReturns_extractSo :
    AlwaysReturns (extractSo extraction entryName targetSoPath cpuAbi) := by
  unfold extractSo
  refine alwaysReturns_makeSoDir.bind fun made => ?_
  split
  · trivial
  · refine alwaysReturns_extractFile.bind fun extracted => ?_
    split
    · trivial
    · exact fun _ => trivial

theorem IsReported.append {first : List (Step installd)}
    (reported : IsReported extraction entryName first)
    (rest : List (Step installd)) :
    IsReported extraction entryName (first ++ rest) := by
  obtain ⟨whole, step, member, writes⟩ := reported
  exact ⟨whole, step, List.mem_append_left _ member, writes⟩

/-- Steps that write nothing of the entry do not report it. -/
theorem isReported_append {first rest : List (Step installd)}
    (others : ∀ step ∈ first, ∀ entry, writtenEntry step = some entry →
      entry.entryName ≠ entryName) :
    IsReported extraction entryName (first ++ rest) ↔
      IsReported extraction entryName rest := by
  refine and_congr_right fun _ => ⟨?_, ?_⟩
  · rintro ⟨step, member, entry, writes, same, good⟩
    rcases List.mem_append.mp member with inFirst | inRest
    · exact absurd same (others step inFirst entry writes)
    · exact ⟨step, inRest, entry, writes, same, good⟩
  · rintro ⟨step, member, rest⟩
    exact ⟨step, List.mem_append_right _ member, rest⟩

theorem writtenEntry_of_isQuiet {step : Step installd} (quiet : IsQuiet step.cmd) :
    writtenEntry step = none := by
  obtain ⟨call, files, answer⟩ := step
  cases call <;> first | rfl | exact quiet.elim

/-- What is done without writing does not change what a run tells. -/
theorem tells_bind {β : Type} {program : FileOperation β}
    {next : β → FileOperation Bool} (quiet : MakesOnly IsQuiet program)
    (returns : AlwaysReturns program)
    (rest : ∀ value position files,
      Tells extraction entryName (run installd env (next value) position files)) :
    Tells extraction entryName
      (run installd env (program >>= next) position files) := by
  obtain ⟨value, returned⟩ := returns.exists_value
  rw [run_bind returned]
  obtain ⟨extracted, told, reported⟩ := rest value _ _
  refine ⟨extracted, told, reported.trans (isReported_append ?_).symm⟩
  intro step member entry writes
  rw [writtenEntry_of_isQuiet (quiet.of_mem_steps step member)] at writes
  cases writes

theorem extractEntry_tells :
    Tells extraction entryName (run installd env
      (extractEntry extraction entryName targetDir) position files) := by
  have silent (position : Nat) (files : Files) : Tells extraction entryName
      (run installd env (.ret false) position files) :=
    ⟨false, rfl, by simp [IsReported, run]⟩
  refine tells_bind (makesOnly_makeEntryDir trivial trivial)
    alwaysReturns_makeEntryDir fun made position files => ?_
  cases made with
  | false => exact silent position files
  | true =>
      obtain ⟨extracted, told, reported⟩ := @extractFile_value zip extraction
        entryName (targetDir ++ entryName) env position files
      change Tells extraction entryName (run installd env
        (extractFile extraction entryName (targetDir ++ entryName) >>= _)
        position files)
      rw [run_bind told]
      cases extracted with
      | false =>
          refine ⟨false, rfl, reported.trans ?_⟩
          exact iff_of_eq (congrArg _ (List.append_nil _).symm)
      | true =>
          exact ⟨true, rfl, iff_of_true rfl ((reported.mp rfl).append _)⟩

end Entry

section Loop

variable {zip : ZipFile} {extraction : Extraction zip}
  {targetDir targetSoPath cpuAbi : ByteString} {entryNames : List ByteString}
  {env : Environment installd} {position : Nat} {files : Files}

/-- The file that is written for an entry. -/
def pathFor (targetDir targetSoPath cpuAbi entryName : ByteString) : ByteString :=
  if isNativeSo entryName targetSoPath cpuAbi then
    soPath entryName targetSoPath cpuAbi
  else targetDir ++ entryName

/-- The entry is a directory. -/
def IsDirectory (entryName : ByteString) : Prop :=
  entryName.getLast? = some kSeparator

/-- Nothing makes `ExtractFiles` stop: no name has two dots in a row, and the
entries that are no native libraries are reported to be extracted. -/
def Passes (extraction : Extraction zip) (targetSoPath cpuAbi : ByteString)
    (entryNames : List ByteString) (steps : List (Step installd)) : Prop :=
  ∀ entryName ∈ entryNames, ¬ kParentDirectory <:+: entryName ∧
    (¬ IsDirectory entryName → isNativeSo entryName targetSoPath cpuAbi = false →
      IsReported extraction entryName steps)

/-- The calls that the extraction of some of the entries makes. -/
def IsCallForSome (targetDir targetSoPath cpuAbi : ByteString)
    (entryNames : List ByteString) (call : SystemCall) : Prop :=
  ∃ entryName ∈ entryNames, ¬ kParentDirectory <:+: entryName ∧
    ¬ IsDirectory entryName ∧
    IsCallFor entryName (pathFor targetDir targetSoPath cpuAbi entryName) call

theorem makesOnly_mono {isMade isAlsoMade : SystemCall → Prop} {α : Type}
    {program : FileOperation α} (made : MakesOnly isMade program)
    (implies : ∀ call, isMade call → isAlsoMade call) :
    MakesOnly isAlsoMade program := by
  induction program with
  | ret value => trivial
  | halt => trivial
  | call cmd next ih => exact ⟨implies cmd made.1, fun result => ih result (made.2 result)⟩

theorem makesOnly_extractEntries :
    MakesOnly (IsCallForSome targetDir targetSoPath cpuAbi entryNames)
      (extractEntries extraction targetDir targetSoPath cpuAbi entryNames) := by
  induction entryNames with
  | nil => trivial
  | cons entryName rest ih =>
      have later : MakesOnly
          (IsCallForSome targetDir targetSoPath cpuAbi (entryName :: rest))
          (extractEntries extraction targetDir targetSoPath cpuAbi rest) :=
        makesOnly_mono ih fun call ⟨other, member, is⟩ =>
          ⟨other, List.mem_cons_of_mem _ member, is⟩
      unfold extractEntries
      split
      · trivial
      · next noDots =>
          split
          · exact later
          · next isFile =>
              have here {path : ByteString}
                  (same : pathFor targetDir targetSoPath cpuAbi entryName = path)
                  (call : SystemCall) (is : IsCallFor entryName path call) :
                  IsCallForSome targetDir targetSoPath cpuAbi
                    (entryName :: rest) call :=
                ⟨entryName, List.mem_cons_self, noDots, isFile, same ▸ is⟩
              split
              · next isSo =>
                  exact (makesOnly_mono makesOnly_extractSo
                    (here (if_pos isSo))).bind fun _ => later
              · next isOther =>
                  refine (makesOnly_mono makesOnly_extractEntry
                    (here (if_neg isOther))).bind fun extracted => ?_
                  split
                  · trivial
                  · exact later

theorem writtenEntry_of_isCallFor {entryName path : ByteString}
    {step : Step installd} {entry : WrittenEntry}
    (isMade : IsCallFor entryName path step.cmd)
    (writes : writtenEntry step = some entry) :
    entry.entryName = entryName ∧ entry.path = path := by
  obtain ⟨call, files, answer⟩ := step
  cases call with
  | writeEntry other otherPath data =>
      obtain rfl := Option.some.inj writes
      exact isMade
  | _ => cases writes

/-- What is done for one entry does not make others pass. -/
theorem passes_append {entryName path : ByteString}
    {first rest : List (Step installd)} (others : entryName ∉ entryNames)
    (isMade : ∀ step ∈ first, IsCallFor entryName path step.cmd) :
    Passes extraction targetSoPath cpuAbi entryNames (first ++ rest) ↔
      Passes extraction targetSoPath cpuAbi entryNames rest := by
  refine forall₂_congr fun other member => ?_
  rw [isReported_append]
  intro step inFirst entry writes
  rw [(writtenEntry_of_isCallFor (isMade step inFirst) writes).1]
  rintro rfl
  exact others member

theorem passes_cons {entryName : ByteString} {rest : List ByteString}
    {steps : List (Step installd)} :
    Passes extraction targetSoPath cpuAbi (entryName :: rest) steps ↔
      (¬ kParentDirectory <:+: entryName ∧
        (¬ IsDirectory entryName →
          isNativeSo entryName targetSoPath cpuAbi = false →
          IsReported extraction entryName steps)) ∧
        Passes extraction targetSoPath cpuAbi rest steps :=
  List.forall_mem_cons

/-- The loop returns true exactly if nothing makes it stop. -/
theorem extractEntries_value (distinct : entryNames.Nodup) :
    ∃ result, (run installd env (extractEntries extraction targetDir targetSoPath
        cpuAbi entryNames) position files).value = some result ∧
      (result = true ↔ Passes extraction targetSoPath cpuAbi entryNames
        (run installd env (extractEntries extraction targetDir targetSoPath
          cpuAbi entryNames) position files).steps) := by
  induction entryNames generalizing position files with
  | nil => exact ⟨true, rfl, iff_of_true rfl (by simp [Passes])⟩
  | cons entryName rest ih =>
      obtain ⟨fresh, distinct⟩ := List.nodup_cons.mp distinct
      unfold extractEntries
      split
      · next dots =>
          refine ⟨false, rfl, iff_of_false (by simp) fun passes => ?_⟩
          exact (passes entryName List.mem_cons_self).1 dots
      · next noDots =>
          split
          · next isDirectory =>
              obtain ⟨result, returned, passes⟩ := @ih position files distinct
              refine ⟨result, returned, passes.trans ?_⟩
              rw [passes_cons, and_iff_right]
              exact ⟨noDots, fun isFile => absurd isDirectory isFile⟩
          · next isFile =>
              split
              · next isSo =>
                  obtain ⟨done, returned⟩ := @AlwaysReturns.exists_value _ _ _
                    installd env files position _ (@alwaysReturns_extractSo _
                      extraction entryName targetSoPath cpuAbi)
                  rw [run_bind returned]
                  obtain ⟨result, told, passes⟩ := @ih _ _ distinct
                  refine ⟨result, told, passes.trans ?_⟩
                  rw [passes_cons, and_iff_right]
                  · exact (passes_append fresh
                      makesOnly_extractSo.of_mem_steps).symm
                  · exact ⟨noDots, fun _ isOther => by simp [isSo] at isOther⟩
              · next isOther =>
                  obtain ⟨extracted, returned, reported⟩ :=
                    @extractEntry_tells _ extraction entryName targetDir env
                      position files
                  rw [run_bind returned]
                  cases extracted with
                  | false =>
                      refine ⟨false, rfl, iff_of_false (by simp) fun passes => ?_⟩
                      have isReported : IsReported extraction entryName
                          ((run installd env (extractEntry extraction entryName
                            targetDir) position files).steps ++ []) :=
                        (passes_cons.mp passes).1.2 isFile (by simpa using isOther)
                      rw [List.append_nil] at isReported
                      exact absurd (reported.mpr isReported) (by simp)
                  | true =>
                      obtain ⟨result, told, passes⟩ := @ih _ _ distinct
                      refine ⟨result, told, passes.trans ?_⟩
                      rw [passes_cons, and_iff_right]
                      · exact (passes_append fresh
                          makesOnly_extractEntry.of_mem_steps).symm
                      · exact ⟨noDots, fun _ _ => (reported.mp rfl).append _⟩

end Loop

section Places

variable {targetPath targetDir entryName cpuAbi targetSoPath : ByteString}

/-- The place that the system finds for a path. -/
def systemPlace (path : ByteString) : Place UInt8 :=
  placeOf (cString path)

theorem cString_append (front rest : ByteString) :
    cString (front ++ rest) =
      if 0 ∈ front then cString front else front ++ cString rest := by
  unfold cString
  rw [List.takeWhile_append]
  by_cases zero : 0 ∈ front
  · rw [if_pos zero, if_neg]
    intro whole
    have all : front.takeWhile (· ≠ 0) = front :=
      (List.takeWhile_prefix _).eq_of_length whole
    rw [← all] at zero
    simpa using List.mem_takeWhile_imp zero
  · rw [if_neg zero, if_pos]
    rw [List.takeWhile_eq_self_iff.mpr]
    intro character member
    simpa using fun same : character = 0 => zero (same ▸ member)

/-- What is appended to a directory and has no two dots in a row leads into
it. -/
theorem suffix_systemPlace {front rest : ByteString}
    (separated : front.getLast? = some kSeparator)
    (noDots : ¬ kParentDirectory <:+: rest) :
    systemPlace front <:+ systemPlace (front ++ rest) := by
  unfold systemPlace
  rw [cString_append]
  split
  · exact List.suffix_refl _
  · next plain =>
      have whole : cString front = front := by
        have nothing := cString_append front []
        rw [List.append_nil, if_neg plain] at nothing
        simpa [cString] using nothing
      have stays : [kDot, kDot] ∉ names kSeparator (cString rest) := by
        intro member
        refine noDots ((isInfix_of_mem_names member).trans ?_)
        exact (List.takeWhile_prefix _).isInfix
      rw [whole, placeOf, placeOf, names_append (.inr (.inr separated)),
        walk_append]
      exact suffix_walk stays _

theorem getLast?_targetDirOf :
    (targetDirOf targetPath).getLast? = some kSeparator := by
  unfold targetDirOf
  split
  · simp
  · next separated => exact not_not.mp separated

theorem systemPlace_targetDirOf :
    systemPlace (targetDirOf targetPath) = systemPlace targetPath := by
  unfold targetDirOf systemPlace
  split
  · rw [cString_append]
    split
    · rfl
    · next plain =>
        have whole : cString targetPath = targetPath := by
          have nothing := cString_append targetPath []
          rw [List.append_nil, if_neg plain] at nothing
          simpa [cString] using nothing
        have last : cString [kSeparator] = [kSeparator] := by decide
        rw [whole, last, placeOf, names_append_separator, names_nil,
          List.append_nil]
        rfl
  · rfl

end Places

section Whole

variable {archives : FileSystem} {sourcePath targetPath targetSoPath cpuAbi :
    ByteString} {extraction : Extraction (init archives sourcePath).2}
  {env : Environment installd} {files : Files}

/-- An archive that cannot be opened or has no entries is not extracted; in any
other one the loop decides. -/
theorem extractFiles_eq :
    extractFiles archives sourcePath extraction targetPath targetSoPath cpuAbi =
      if (init archives sourcePath).1 = true ∧
          (init archives sourcePath).2.entriesMap.keys ≠ [] then
        extractEntries extraction (targetDirOf targetPath) targetSoPath cpuAbi
          (init archives sourcePath).2.entriesMap.keys
      else .ret false := by
  unfold extractFiles
  cases (init archives sourcePath).1 with
  | false => rfl
  | true =>
      by_cases nothing : (init archives sourcePath).2.entriesMap.keys = []
      · simp [nothing]
      · simp [nothing]

/-- The calls of an extraction are for its entries. -/
theorem isCallForSome_of_mem {step : Step installd}
    (member : step ∈ (run installd env (extractFiles archives sourcePath
      extraction targetPath targetSoPath cpuAbi) 0 files).steps) :
    IsCallForSome (targetDirOf targetPath) targetSoPath cpuAbi
      (init archives sourcePath).2.entriesMap.keys step.cmd := by
  rw [extractFiles_eq] at member
  split at member
  · exact makesOnly_extractEntries.of_mem_steps step member
  · cases member

/-- What is written for an entry is written to the file for it. -/
theorem path_of_written {step : Step installd} {entry : WrittenEntry}
    (member : step ∈ (run installd env (extractFiles archives sourcePath
      extraction targetPath targetSoPath cpuAbi) 0 files).steps)
    (writes : writtenEntry step = some entry) :
    entry.path =
      pathFor (targetDirOf targetPath) targetSoPath cpuAbi entry.entryName := by
  obtain ⟨entryName, -, -, -, isMade⟩ := isCallForSome_of_mem member
  obtain ⟨rfl, samePath⟩ := writtenEntry_of_isCallFor isMade writes
  exact samePath

/-- A file that is opened is the one for an entry. -/
theorem path_of_opened {step : Step installd} {entryName path : ByteString}
    (member : step ∈ (run installd env (extractFiles archives sourcePath
      extraction targetPath targetSoPath cpuAbi) 0 files).steps)
    (opens : openedEntry step = some (entryName, path)) :
    entryName ∈ (init archives sourcePath).2.entriesMap.keys ∧
      ¬ kParentDirectory <:+: entryName ∧
      path = pathFor (targetDirOf targetPath) targetSoPath cpuAbi entryName := by
  obtain ⟨other, inKeys, noDots, -, isMade⟩ := isCallForSome_of_mem member
  obtain ⟨call, before, answer⟩ := step
  cases call with
  | openEntry called calledPath =>
      simp only [openedEntry, Option.ite_none_right_eq_some, Option.some.injEq,
        Prod.mk.injEq] at opens
      obtain ⟨-, rfl, rfl⟩ := opens
      obtain ⟨rfl, rfl⟩ := isMade
      exact ⟨inKeys, noDots, rfl⟩
  | _ => cases opens

/-- When an extraction returns true. -/
theorem extractFiles_value :
    (run installd env (extractFiles archives sourcePath extraction targetPath
        targetSoPath cpuAbi) 0 files).value = some true ↔
      (init archives sourcePath).1 = true ∧
        (init archives sourcePath).2.entriesMap.keys ≠ [] ∧
        Passes extraction targetSoPath cpuAbi
          (init archives sourcePath).2.entriesMap.keys
          (run installd env (extractFiles archives sourcePath extraction
            targetPath targetSoPath cpuAbi) 0 files).steps := by
  rw [extractFiles_eq, ← and_assoc]
  split
  · next goesOn =>
      have distinct : (init archives sourcePath).2.entriesMap.keys.Nodup :=
        Std.ExtTreeMap.nodup_keys
      obtain ⟨result, returned, passes⟩ := @extractEntries_value _ extraction
        (targetDirOf targetPath) targetSoPath cpuAbi _ env 0 files distinct
      rw [and_iff_right goesOn, returned, ← passes, Option.some_inj]
  · next stops => exact iff_of_false (by simp [run]) fun all => stops all.1

end Whole

/-- A native library for an ABI: its name starts with the directory of the
libraries and ends with their suffix. -/
def IsNativeLibrary (entryName cpuAbi : ByteString) : Prop :=
  libsPrefix cpuAbi <+: entryName ∧ soSuffix <:+ entryName

instance (entryName cpuAbi : ByteString) :
    Decidable (IsNativeLibrary entryName cpuAbi) :=
  inferInstanceAs (Decidable (_ ∧ _))

/-- The directory in which an entry is to be written. -/
def homeOf (targetPath targetSoPath cpuAbi entryName : ByteString) :
    Place UInt8 :=
  if IsNativeLibrary entryName cpuAbi then systemPlace targetSoPath
  else systemPlace targetPath

/-- What is to be written for an entry of an archive. -/
def IsContentOf (zip : ZipFile) (inflated : List UInt8 → Option (List UInt8))
    (entryName content : ByteString) : Prop :=
  ∃ file zipEntry, zip.file = some file ∧
    zip.getEntry entryName = some zipEntry ∧
    zip.IsContent file zipEntry inflated content

/-- The content of an entry reaches a file. -/
def Arrives (zip : ZipFile) (inflated : List UInt8 → Option (List UInt8))
    (steps : List (Step installd)) (entryName : ByteString) : Prop :=
  ∃ step ∈ steps, ∃ entry, writtenEntry step = some entry ∧
    entry.entryName = entryName ∧
    IsContentOf zip inflated entryName entry.content

/-- The place is in one of the two target directories. -/
def IsInside (targetPath targetSoPath path : ByteString) : Prop :=
  systemPlace targetPath <:+ systemPlace path ∨
    systemPlace targetSoPath <:+ systemPlace path

/-- Success means that every entry other than a directory has been written where
it is to be and as it is, and no file is opened outside the two directories. -/
def HandlesEntries (zip : ZipFile) (inflated : List UInt8 → Option (List UInt8))
    (targetPath targetSoPath cpuAbi : ByteString)
    (outcome : Outcome installd Bool) : Prop :=
  (outcome.value = some true →
    ∀ entryName ∈ zip.entriesMap.keys, ¬ IsDirectory entryName →
      ∃ step ∈ outcome.steps, ∃ entry, writtenEntry step = some entry ∧
        entry.entryName = entryName ∧
        homeOf targetPath targetSoPath cpuAbi entryName <:+
          systemPlace entry.path ∧
        IsContentOf zip inflated entryName entry.content) ∧
    ∀ step ∈ outcome.steps, ∀ entryName path,
      openedEntry step = some (entryName, path) →
        IsInside targetPath targetSoPath path

section Homes

variable {targetPath targetSoPath cpuAbi entryName : ByteString}

/-- An entry that is not taken for a native library is at home in the directory
of the module. -/
theorem homeOf_suffix (noDots : ¬ kParentDirectory <:+: entryName)
    (isOther : isNativeSo entryName targetSoPath cpuAbi = false) :
    homeOf targetPath targetSoPath cpuAbi entryName <:+
      systemPlace (targetDirOf targetPath ++ entryName) := by
  unfold homeOf
  split
  · next isLibrary =>
      have noTarget : targetSoPath = [] := by
        by_contra some
        have taken : isNativeSo entryName targetSoPath cpuAbi = true := by
          simp [isNativeSo, some, isLibrary.1.isInfix, isLibrary.2.isInfix]
        rw [taken] at isOther
        cases isOther
      rw [noTarget]
      exact List.nil_suffix
  · rw [← systemPlace_targetDirOf]
    exact suffix_systemPlace getLast?_targetDirOf noDots

theorem isInside_of_isOther (noDots : ¬ kParentDirectory <:+: entryName) :
    IsInside targetPath targetSoPath (targetDirOf targetPath ++ entryName) := by
  left
  rw [← systemPlace_targetDirOf]
  exact suffix_systemPlace getLast?_targetDirOf noDots

/-- Native libraries stay in a directory whose path ends with a separator. -/
theorem isInside_soPath (noDots : ¬ kParentDirectory <:+: entryName)
    (separated : targetSoPath.getLast? = some kSeparator) :
    IsInside targetPath targetSoPath (soPath entryName targetSoPath cpuAbi) := by
  right
  refine suffix_systemPlace separated fun dots => noDots (dots.trans ?_)
  exact (List.drop_suffix _ _).isInfix

end Homes

/-- Stored entries are extracted in no time. -/
def Extraction.ofStored (zip : ZipFile) (zlib : Zlib)
    (stored : ∀ entry ∈ zip.entriesMap.toList,
      entry.2.compressionMethod = 0) : Extraction zip where
  zlib := zlib
  result entryName := (zip.extractFile zlib 0 entryName).getD (false, [])
  ends entryName := by
    refine ⟨0, ?_⟩
    unfold ZipFile.extractFile
    split
    · next file zipEntry _ found =>
        have isStored : zipEntry.compressionMethod = 0 :=
          stored (entryName, zipEntry)
            (Std.ExtTreeMap.mem_toList_iff_getElem?_eq_some.mpr found)
        split
        · rfl
        · rw [if_pos isStored]
          rfl
    · rfl

/-- An archive with one stored entry. -/
def storedArchive (name data : List UInt8) : List UInt8 :=
  let sizes : List UInt8 := [UInt8.ofNat data.length, 0, 0, 0,
    UInt8.ofNat data.length, 0, 0, 0, UInt8.ofNat name.length, 0]
  [0x50, 0x4b, 3, 4, 10, 0, 0, 0, 0, 0, 0, 0, 0, 0, 0, 0, 0, 0] ++ sizes ++
    [0, 0] ++ name ++ data ++
  [0x50, 0x4b, 1, 2, 10, 0, 10, 0, 0, 0, 0, 0, 0, 0, 0, 0, 0, 0, 0, 0] ++ sizes ++
    [0, 0, 0, 0, 0, 0, 0, 0, 0, 0, 0, 0, 0, 0, 0, 0] ++ name ++
  [0x50, 0x4b, 5, 6, 0, 0, 0, 0, 1, 0, 1, 0, UInt8.ofNat (46 + name.length), 0,
    0, 0, UInt8.ofNat (30 + name.length + data.length), 0, 0, 0, 0, 0]

/-- A native library in a directory inside that of the libraries. -/
def nestedLibrary : RegularFile :=
  ⟨storedArchive (bytes "libs/arm/sub/a.so") [0x62], by decide +kernel⟩

/-- A directory for a module and, in it, one for its libraries. -/
def moduleDirs : Files :=
  ["/", "/t", "/t/libs"].foldl
    (fun files path => files.insert (placeOf (bytes path)) {}) (∅ : Files)

/-- The extraction of the nested library. -/
def nestedExtraction :
    Extraction (init (fun _ => some nestedLibrary) (bytes "/a.hap")).2 :=
  .ofStored _ { inflater := buffering storedBlock } (by decide +kernel)

end AppExecFwk
