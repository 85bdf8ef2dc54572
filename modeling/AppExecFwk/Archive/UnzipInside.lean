import Mathlib.Algebra.Order.BigOperators.Group.List
import Mathlib.Algebra.Order.Group.Nat
import Mathlib.Data.List.TakeWhile
import Mathlib.Data.Set.Basic
import AppExecFwk.Archive.Unzip

/-!
# Unzipping stays inside the destination

Every name that leads upwards makes an entry unsafe, unless it belongs to an
absolute name: there the flag is cleared, so the path of the destination with the
name behind it may lead out of the destination again.  It does no harm only as
long as it leads nowhere but into the destination and to directories that the
destination itself lies in.
-/

namespace AppExecFwk

open DirectoryTree FilePath

/-- Everything made or written lies in a place. -/
def Disk.StaysIn (place : Place UInt8) (disk : Disk) : Prop :=
  ∀ effect ∈ disk.effects, place <:+ effect.place

/-- A directory that is there because the destination is. -/
def FilePath.LeadsPast (destDir : FilePath) (workingDirectory place : Place UInt8) :
    Prop :=
  ∃ front, front <+: destDir.cStr.names ∧
    place <:+ walk kDot (destDir.originFrom workingDirectory) front

/-- The path of an entry leads nowhere but into the destination and to
directories above it. -/
def Zip.IsContained (workingDirectory : Place UInt8) (destDir : FilePath)
    (fileName : ByteString) : Prop :=
  let path := entryPath destDir { path := fileName }
  ∀ way, way <+: path.cStr.names →
    let place := walk kDot (path.originFrom workingDirectory) way
    destDir.placeFrom workingDirectory <:+ place ∨
      destDir.LeadsPast workingDirectory place

/-- An entry makes something: it is a directory, or a file that can be opened
under a path that the library takes. -/
def Zip.MakesSomething (destDir : FilePath) (entry : UnzEntry)
    (fileName : ByteString) : Prop :=
  fileName.getLast? = some kSeparator ∨
    entry.opens = true ∧
      filePathCheckValid (entryPath destDir { path := fileName }).path = true

/-- An entry whose name is absolute does not lead out of the destination. -/
def UnzEntry.KeepsInside (workingDirectory : Place UInt8) (destDir : FilePath)
    (entry : UnzEntry) : Prop :=
  ∀ fileName, entry.fileName = some fileName →
    fileName.head? = some kSeparator →
      Zip.MakesSomething destDir entry fileName →
        Zip.IsContained workingDirectory destDir fileName

namespace Zip

section Paths

variable {destDir : FilePath} {fileName : ByteString}
  {workingDirectory : Place UInt8}

theorem zero_notMem_fileName {entry : UnzEntry}
    (named : entry.fileName = some fileName) : 0 ∉ fileName := by
  unfold UnzEntry.fileName at named
  cases raw : entry.rawFileName with
  | none => simp [raw] at named
  | some name =>
      rw [raw, Option.map_some, Option.some.injEq] at named
      rw [← named]
      intro member
      simpa using List.mem_takeWhile_imp member

theorem cStr_of_notMem {filePath : FilePath} (plain : 0 ∉ filePath.path) :
    filePath.cStr = filePath := by
  unfold cStr
  rw [List.takeWhile_eq_self_iff.mpr]
  intro character member
  have apart : character ≠ 0 := by
    rintro rfl
    exact plain member
  simpa using apart

theorem entryPath_ne_nil (nonempty : destDir.path ≠ []) :
    (entryPath destDir { path := fileName }).path ≠ [] := by
  unfold entryPath
  split <;> simp [nonempty]

theorem originFrom_entryPath (nonempty : destDir.path ≠ []) :
    (entryPath destDir { path := fileName }).originFrom workingDirectory =
      destDir.originFrom workingDirectory := by
  unfold entryPath originFrom
  split <;> rw [Disk.cStr_isAbsolute_of_ne_nil nonempty]

/-- The path of an entry leads along the destination first and along the name
then; of a destination with a zero in it nothing but the part in front is
seen. -/
theorem names_entryPath (plain : 0 ∉ fileName) :
    (entryPath destDir { path := fileName }).cStr.names =
      destDir.cStr.names ++
        if 0 ∈ destDir.path then []
        else DirectoryTree.names kSeparator fileName := by
  unfold entryPath
  by_cases zero : 0 ∈ destDir.path
  · have cut (rest : ByteString) : (destDir.path ++ rest).takeWhile (· ≠ 0) =
        destDir.path.takeWhile (· ≠ 0) := by
      rw [List.takeWhile_append, if_neg]
      intro whole
      have same := (List.takeWhile_prefix _).eq_of_length whole
      rw [List.takeWhile_eq_self_iff] at same
      simpa using same 0 zero
    rw [if_pos zero, List.append_nil]
    unfold cStr FilePath.names
    simp only
    split <;> rw [cut]
  · rw [if_neg zero]
    have destPlain : destDir.cStr = destDir := cStr_of_notMem zero
    split
    · next ends =>
        rw [cStr_of_notMem, destPlain]
        · unfold FilePath.names
          rw [names_append]
          right
          right
          simpa [Disk.endsWithSeparator] using ends
        · simp [zero, plain]
    · rw [cStr_of_notMem, destPlain]
      · unfold FilePath.names
        rw [names_append_separator]
      · have separator : (0 : UInt8) ≠ kSeparator := by decide
        simp [zero, plain, separator]

/-- Names that do not lead upwards stay inside. -/
theorem isContained_of_notMem (nonempty : destDir.path ≠ []) (plain : 0 ∉ fileName)
    (stays : kParentDirectory ∉ DirectoryTree.names kSeparator fileName) :
    IsContained workingDirectory destDir fileName := by
  intro way isPrefix place
  have isPlace : place = walk kDot (destDir.originFrom workingDirectory) way := by
    rw [← originFrom_entryPath nonempty]
  rw [isPlace]
  rw [names_entryPath plain] at isPrefix
  rcases List.prefix_or_prefix_of_prefix isPrefix (List.prefix_append _ _) with
    inDest | ⟨rest, rfl⟩
  · exact .inr ⟨way, inDest, List.suffix_refl _⟩
  · left
    have inName := (List.prefix_append_right_inj _).mp isPrefix
    rw [walk_append]
    apply suffix_walk
    intro member
    have inNames := inName.subset member
    split at inNames
    · simp at inNames
    · exact stays inNames

end Paths

section Runs

variable {permits : Permits} {destDir : FilePath} {disk : Disk}
  {entry : UnzEntry} {fileName : ByteString}

/-- The directories on the way to the destination are there. -/
def IsThere (destDir : FilePath) (disk : Disk) : Prop :=
  ∀ front, front <+: destDir.cStr.names →
    disk.tree.kind (walk kDot (disk.origin destDir) front) = some .directory

theorem isThere_of_directoryExists
    (directory : disk.directoryExists destDir = true) : IsThere destDir disk := by
  unfold Disk.directoryExists Disk.stat at directory
  simp only [decide_eq_true_eq] at directory
  split at directory
  · cases directory
  · split at directory
    · cases directory
    · next place traversed =>
        obtain ⟨isPlace, onWay⟩ := FileTree.traverse_eq_some.mp traversed
        have isDirectory : disk.tree.kind place = some .directory := by
          split at directory
          · split at directory <;> cases directory
          · exact directory
        rintro front ⟨rest, all⟩
        cases rest with
        | nil =>
            rw [List.append_nil] at all
            rw [all, ← isPlace]
            exact isDirectory
        | cons name rest => exact onWay front name rest all.symm

/-- What an entry makes under a contained path is in the destination. -/
theorem staysIn_of_isContained {after : Disk}
    (there : IsThere destDir disk)
    (makes : disk.Makes
      (disk.IsOnWay (entryPath destDir { path := fileName })) after)
    (stays : disk.StaysIn (disk.placeOf destDir))
    (contained : IsContained disk.workingDirectory destDir fileName) :
    after.StaysIn (disk.placeOf destDir) := by
  obtain ⟨made, madeEq, allowed⟩ := makes.made
  intro effect member
  rw [madeEq, List.mem_append] at member
  rcases member with isNew | before
  · obtain ⟨⟨way, isPrefix, isPlace⟩, absent⟩ := allowed effect isNew
    rcases contained way isPrefix with inside | ⟨front, isFront, past⟩
    · rw [isPlace]
      exact inside
    · -- A directory above the destination is there already.
      have directory := FileTree.kind_of_suffix_directory (there front isFront) past
      rw [isPlace] at absent
      exact absurd directory absent
  · exact stays effect before

/-- An entry that makes nothing leaves the disk alone. -/
theorem unzipEntry_eq_self
    (nothing : ¬MakesSomething destDir entry fileName) :
    (unzipEntry permits destDir entry (ZipReader.EntryInfo.ofName fileName)
      disk).2 = disk := by
  unfold MakesSomething at nothing
  simp only [not_or, not_and] at nothing
  unfold unzipEntry ZipReader.EntryInfo.ofName
  simp only [nothing.1, decide_false, Bool.false_eq_true, if_false]
  unfold ZipReader.extractCurrentEntry
  split
  · rfl
  · next opens =>
      have isOpen : entry.opens = true := by simpa using opens
      have invalid := nothing.2 isOpen
      unfold FilePathWriterDelegate.prepareOutput createFilePathWriterDelegate
      simp [invalid]

theorem staysIn_unzipEntry (nonempty : destDir.path ≠ [])
    (there : IsThere destDir disk)
    (stays : disk.StaysIn (disk.placeOf destDir))
    (named : entry.fileName = some fileName) (present : fileName ≠ [])
    (isSafe : (ZipReader.EntryInfo.ofName fileName).isUnsafe = false)
    (keeps : entry.KeepsInside disk.workingDirectory destDir) :
    (unzipEntry permits destDir entry (ZipReader.EntryInfo.ofName fileName)
      disk).2.StaysIn (disk.placeOf destDir) := by
  by_cases something : MakesSomething destDir entry fileName
  · apply staysIn_of_isContained there (makes_unzipEntry permits destDir entry
      (ZipReader.EntryInfo.ofName fileName) disk present) stays
    by_cases absolute : fileName.head? = some kSeparator
    · exact keeps fileName named absolute something
    · -- A relative name that leads upwards would have been unsafe.
      apply isContained_of_notMem nonempty (zero_notMem_fileName named)
      intro upwards
      have relative : isAbsolute { path := fileName } = false := by
        rw [Bool.eq_false_iff, ne_eq, isAbsolute_iff]
        exact absolute
      have noticed := referencesParent_of_mem relative upwards
      unfold ZipReader.EntryInfo.ofName at isSafe
      simp [relative, absolute, noticed] at isSafe
  · rw [unzipEntry_eq_self something]
    exact stays

theorem staysIn_unzipLoop {filter : FilePath → Bool} {numEntries index : Int}
    {entries : List UnzEntry} (nonempty : destDir.path ≠ [])
    (there : IsThere destDir disk)
    (stays : disk.StaysIn (disk.placeOf destDir))
    (keeps : ∀ entry ∈ entries,
      entry.KeepsInside disk.workingDirectory destDir) :
    (unzipLoop permits destDir filter numEntries index entries disk).2.StaysIn
      (disk.placeOf destDir) := by
  induction entries generalizing index disk with
  | nil => exact stays
  | cons entry rest ih =>
      unfold unzipLoop
      split
      · exact stays
      · next fileName named =>
          dsimp only
          split
          · exact stays
          · next accepted =>
              simp only [Bool.or_eq_true, decide_eq_true_eq, not_or,
                Bool.not_eq_true] at accepted
              have keepsEntry := keeps entry List.mem_cons_self
              generalize handled :
                (if filter (ZipReader.EntryInfo.ofName fileName).filePath then
                  unzipEntry permits destDir entry
                    (ZipReader.EntryInfo.ofName fileName) disk
                else (true, disk)) = result
              obtain ⟨there', same, stays'⟩ : IsThere destDir result.2 ∧
                  result.2.workingDirectory = disk.workingDirectory ∧
                    result.2.StaysIn (disk.placeOf destDir) := by
                rw [← handled]
                split
                · have makes := makes_unzipEntry permits destDir entry
                    (ZipReader.EntryInfo.ofName fileName) disk accepted.1
                  refine ⟨?_, makes.sameDirectory, staysIn_unzipEntry nonempty there
                    stays named accepted.1 accepted.2 keepsEntry⟩
                  intro front isFront
                  rw [Disk.origin_congr makes.sameDirectory]
                  exact makes.keeps _ _ (there front isFront)
                · exact ⟨there, rfl, stays⟩
              have samePlace := Disk.placeOf_congr same destDir
              split
              · exact stays'
              · split
                · exact stays'
                · split
                  · exact stays'
                  · split
                    · rw [← samePlace]
                      apply ih there'
                      · rw [samePlace]
                        exact stays'
                      · rw [same]
                        intro other member
                        exact keeps other (List.mem_cons_of_mem _ member)
                    · exact stays'

/-- As long as no absolute name leads out of the destination, everything is made
in the destination. -/
theorem staysIn_unzip {archive : UnzArchive} {opened : Bool} {srcFile : FilePath}
    (fresh : disk.effects = [])
    (keeps : ∀ entry ∈ archive.entries,
      entry.KeepsInside disk.workingDirectory destDir) :
    (unzip permits archive opened srcFile destDir disk).2.StaysIn
      (disk.placeOf destDir) := by
  have stays : disk.StaysIn (disk.placeOf destDir) := by
    unfold Disk.StaysIn
    rw [fresh]
    simp
  unfold unzip
  split
  · exact stays
  next named =>
  split
  · exact stays
  split
  · exact stays
  split
  · exact stays
  next exists' =>
  have nonempty : destDir.path ≠ [] := by
    intro empty
    exact named (.inl (by rw [empty]; rfl))
  have there : IsThere destDir disk :=
    isThere_of_directoryExists (by simpa using exists')
  unfold unzipWithFilterCallback unzipWithFilterAndWriters
  split
  · exact stays
  split
  · exact stays
  split
  · exact stays
  split
  · exact stays
  split
  · exact stays
  split
  · exact stays
  exact staysIn_unzipLoop nonempty there stays keeps

end Runs

/-! ### A path that leads out of the destination -/

section Escape

/-- A system that does whatever it is asked. -/
def permitsAll : Permits := fun _ _ => true

variable {destDir : FilePath} {workingDirectory : Place UInt8}
  {source : ByteString} {disk : Disk}

/-- A disk on which nothing was there but the directories that the destination
needs and the source file, and nothing has been made outside so far. -/
structure IsBare (destDir : FilePath) (workingDirectory : Place UInt8)
    (source : ByteString) (disk : Disk) : Prop where
  sameDirectory : disk.workingDirectory = workingDirectory
  past : ∀ place, destDir.LeadsPast workingDirectory place →
    disk.tree.kind place = some .directory
  isFile : disk.tree.kind [source] = some .file
  only : ∀ place, disk.tree.kind place ≠ none → place ≠ [source] →
    disk.tree.kind place = some .directory ∧
      (destDir.placeFrom workingDirectory <:+ place ∨
        destDir.LeadsPast workingDirectory place)

/-- Something has been made outside the destination. -/
def Escapes (destDir : FilePath) (workingDirectory : Place UInt8) (disk : Disk) :
    Prop :=
  ∃ effect ∈ disk.effects, ¬destDir.placeFrom workingDirectory <:+ effect.place

theorem Escapes.makes {allowed : Place UInt8 → Prop} {after : Disk}
    (escapes : Escapes destDir workingDirectory disk)
    (makes : disk.Makes allowed after) :
    Escapes destDir workingDirectory after := by
  obtain ⟨effect, member, outside⟩ := escapes
  obtain ⟨made, madeEq, -⟩ := makes.made
  exact ⟨effect, by rw [madeEq]; exact List.mem_append_right _ member, outside⟩

/-- The directories on the way of a path are there. -/
def IsOpen (disk : Disk) (origin : Place UInt8) (names : List ByteString) : Prop :=
  ∀ way, way <+: names → disk.tree.kind (walk kDot origin way) = some .directory

theorem traverse_of_isOpen {origin : Place UInt8} {names : List ByteString}
    (isOpen : IsOpen disk origin names) :
    disk.tree.traverse kDot origin names = some (walk kDot origin names) := by
  apply FileTree.traverse_eq_some.mpr
  refine ⟨rfl, ?_⟩
  rintro front name rest rfl
  exact isOpen front (List.prefix_append _ _)

/-- What follows an open path is there, or it is a new name in a directory. -/
theorem kind_step {origin : Place UInt8} {names : List ByteString}
    {name : ByteString} (isOpen : IsOpen disk origin names) :
    disk.tree.kind (walk kDot origin (names ++ [name])) = some .directory ∨
      IsPlain kDot name ∧
        walk kDot origin (names ++ [name]) = name :: walk kDot origin names := by
  have directory := isOpen names (List.prefix_refl _)
  by_cases plain : IsPlain kDot name
  · right
    rw [walk_concat, step_of_isPlain plain]
    exact ⟨plain, rfl⟩
  · left
    rw [walk_concat]
    unfold step
    split
    · exact directory
    · next notCurrent =>
        have isParent : name = [kDot, kDot] := by
          unfold IsPlain at plain
          by_contra notParent
          exact plain ⟨notCurrent, notParent⟩
        rw [if_pos isParent]
        exact FileTree.kind_of_suffix_directory directory (List.tail_suffix _)

theorem createDirectories_append (permits : Permits) (disk : Disk)
    (paths others : List FilePath) :
    Disk.createDirectories permits disk (paths ++ others) =
      match Disk.createDirectories permits disk paths with
      | (true, disk) => Disk.createDirectories permits disk others
      | (false, disk) => (false, disk) := by
  induction paths generalizing disk with
  | nil => rfl
  | cons path paths ih =>
      simp only [List.cons_append, Disk.createDirectories]
      split
      · exact ih disk
      · split
        · exact ih _
        · split
          · exact ih _
          · rfl

/-- A path is handed to the system as it is and is not the source file. -/
structure IsUsable (source : ByteString) (origin : Place UInt8) (path : FilePath) :
    Prop where
  plain : 0 ∉ path.path
  nonempty : path.path ≠ []
  apart : ∀ way, way <+: path.names → walk kDot origin way ≠ [source]

theorem directoryExists_of_isOpen {path : FilePath}
    (usable : IsUsable source (disk.origin path) path)
    (isOpen : IsOpen disk (disk.origin path) path.names) :
    disk.directoryExists path = true := by
  have directory := isOpen path.names (List.prefix_refl _)
  unfold Disk.directoryExists Disk.stat
  rw [cStr_of_notMem usable.plain, if_neg usable.nonempty,
    traverse_of_isOpen isOpen]
  simp [directory]

theorem directoryExists_eq_false {path : FilePath} (plain : 0 ∉ path.path)
    (absent : disk.tree.kind (walk kDot (disk.origin path) path.names) = none) :
    disk.directoryExists path = false := by
  unfold Disk.directoryExists Disk.stat
  rw [cStr_of_notMem plain, decide_eq_false_iff_not]
  split
  · simp
  · split
    · simp
    · next place traversed =>
        rw [(FileTree.traverse_eq_some.mp traversed).1, absent]
        simp

/-- A new name in a directory is looked up there. -/
theorem lookup_of_isOpen {path : FilePath} {front : List ByteString}
    {name : ByteString} (usable : IsUsable source (disk.origin path) path)
    (names : path.names = front ++ [name]) (plain : IsPlain kDot name)
    (isOpen : IsOpen disk (disk.origin path) front) :
    disk.lookup path = some (walk kDot (disk.origin path) front, name) := by
  have directory := isOpen front (List.prefix_refl _)
  unfold Disk.lookup
  rw [cStr_of_notMem usable.plain, names, List.getLast?_concat,
    List.dropLast_concat]
  simp only [traverse_of_isOpen isOpen]
  rw [if_pos ⟨plain, directory⟩]

/-- A directory that is missing is made, in the destination or outside. -/
theorem createDirectory_step (bare : IsBare destDir workingDirectory source disk)
    {path : FilePath} {front : List ByteString} {name : ByteString}
    (usable : IsUsable source (disk.origin path) path)
    (names : path.names = front ++ [name])
    (isOpen : IsOpen disk (disk.origin path) front) :
    let result := Disk.createDirectories permitsAll disk [path]
    Escapes destDir workingDirectory result.2 ∨
      result.1 = true ∧ IsBare destDir workingDirectory source result.2 ∧
        IsOpen result.2 (disk.origin path) path.names := by
  have isAll (after : Disk) (keeps : IsOpen after (disk.origin path) front)
      (last : after.tree.kind (walk kDot (disk.origin path) (front ++ [name])) =
        some .directory) : IsOpen after (disk.origin path) path.names := by
    intro way isPrefix
    rw [names, List.prefix_concat_iff] at isPrefix
    rcases isPrefix with rfl | before
    · exact last
    · exact keeps way before
  by_cases present : disk.tree.kind
      (walk kDot (disk.origin path) (front ++ [name])) = none
  · obtain ⟨plain, place⟩ : IsPlain kDot name ∧
        walk kDot (disk.origin path) (front ++ [name]) =
          name :: walk kDot (disk.origin path) front := by
      rcases kind_step isOpen with impossible | new
      · rw [present] at impossible
        cases impossible
      · exact new
    have directory := isOpen front (List.prefix_refl _)
    have missing : disk.directoryExists path = false := by
      apply directoryExists_eq_false usable.plain
      rw [names]
      exact present
    have found := lookup_of_isOpen usable names plain isOpen
    rw [place] at present
    have made : Disk.createDirectories permitsAll disk [path] =
        (true, { disk with
          tree := disk.tree.create .directory name
            (walk kDot (disk.origin path) front) directory present
          effects := .createDirectory (name :: walk kDot (disk.origin path) front)
            :: disk.effects }) := by
      simp [Disk.createDirectories, missing, Disk.mkdir, found, directory, present,
        permitsAll]
    intro result
    rw [show result = _ from made]
    by_cases inside : destDir.placeFrom workingDirectory <:+
        name :: walk kDot (disk.origin path) front
    · refine .inr ⟨rfl, ⟨bare.sameDirectory, ?_, ?_, ?_⟩, ?_⟩
      · intro other past
        exact FileTree.create_keeps directory present (bare.past other past)
      · exact FileTree.create_keeps directory present bare.isFile
      · intro other stands apart
        simp only [FileTree.create_kind] at stands ⊢
        split
        · next same =>
            rw [same]
            exact ⟨rfl, .inl inside⟩
        · next different =>
            rw [if_neg different] at stands
            exact bare.only other stands apart
      · apply isAll
        · intro way isPrefix
          exact FileTree.create_keeps directory present (isOpen way isPrefix)
        · simp only [FileTree.create_kind, place, if_true]
    · left
      exact ⟨_, List.mem_cons_self, inside⟩
  · have apart := usable.apart (front ++ [name]) (by rw [names])
    have directory := (bare.only _ present apart).1
    have open' := isAll disk isOpen directory
    have exists' := directoryExists_of_isOpen usable open'
    right
    simp only [Disk.createDirectories, exists', if_true]
    exact ⟨trivial, bare, open'⟩

/-- The last directory of a path is there afterwards if those above it are. -/
theorem createDirectory_last (bare : IsBare destDir workingDirectory source disk)
    {path : FilePath}
    (usable : IsUsable source (path.originFrom workingDirectory) path)
    (isOpen : IsOpen disk (path.originFrom workingDirectory)
      path.names.dropLast) :
    let result := Disk.createDirectories permitsAll disk [path]
    Escapes destDir workingDirectory result.2 ∨
      result.1 = true ∧ IsBare destDir workingDirectory source result.2 ∧
        IsOpen result.2 (path.originFrom workingDirectory) path.names := by
  have origin : disk.origin path = path.originFrom workingDirectory := by
    unfold Disk.origin
    rw [bare.sameDirectory]
  rw [← origin] at usable isOpen ⊢
  rcases List.eq_nil_or_concat path.names with none | ⟨front, name, names⟩
  · have all : IsOpen disk (disk.origin path) path.names := by
      rw [none] at isOpen ⊢
      exact isOpen
    have exists' := directoryExists_of_isOpen usable all
    right
    simp only [Disk.createDirectories, exists', if_true]
    exact ⟨trivial, bare, all⟩
  · rw [List.concat_eq_append] at names
    apply createDirectory_step bare usable names
    rw [names, List.dropLast_concat] at isOpen
    exact isOpen

theorem IsUsable.isFrontOf {origin : Place UInt8} {path front : FilePath}
    (usable : IsUsable source origin path) (isFront : front.IsFrontOf path)
    (names : front.path = kCurrentDirectory ∨ front.names <+: path.names) :
    IsUsable source origin front where
  plain := by
    rcases isFront with ⟨current, -⟩ | ⟨rest, all, -, -⟩
    · rw [current]
      decide
    · intro zero
      apply usable.plain
      rw [all]
      exact List.mem_append_left _ zero
  nonempty := by
    rcases isFront with ⟨current, -⟩ | ⟨rest, -, nonempty, -⟩
    · rw [current]
      decide
    · exact nonempty
  apart := by
    intro way isPrefix
    rcases names with current | front
    · -- The current directory leads nowhere.
      have start := usable.apart [] List.nil_prefix
      have currentNames : FilePath.names front = [[kDot]] := by
        unfold FilePath.names
        rw [current]
        rfl
      rw [currentNames, ← List.nil_append [[kDot]], List.prefix_concat_iff] at isPrefix
      rcases isPrefix with rfl | none
      · exact start
      · rw [List.prefix_nil.mp none]
        exact start
    · exact usable.apart way (isPrefix.trans front)

theorem originFrom_of_isFrontOf {path front : FilePath} (plain : 0 ∉ path.path)
    (frontPlain : 0 ∉ front.path) (isFront : front.IsFrontOf path) :
    front.originFrom workingDirectory = path.originFrom workingDirectory := by
  unfold originFrom
  rw [cStr_of_notMem plain, cStr_of_notMem frontPlain,
    isAbsolute_of_isFrontOf isFront]

theorem length_names_current {path : FilePath}
    (isCurrent : path.path = kCurrentDirectory) : path.names.length ≤ 1 := by
  unfold FilePath.names
  rw [isCurrent]
  decide

/-- A path of one name starts in a directory that is there. -/
theorem createDirectory_alone {path : FilePath}
    (bare : IsBare destDir workingDirectory source disk)
    (short : path.names.length ≤ 1)
    (usable : IsUsable source (path.originFrom workingDirectory) path)
    (start : destDir.LeadsPast workingDirectory
      (path.originFrom workingDirectory)) :
    let result := Disk.createDirectories permitsAll disk [path]
    Escapes destDir workingDirectory result.2 ∨
      result.1 = true ∧ IsBare destDir workingDirectory source result.2 ∧
        IsOpen result.2 (path.originFrom workingDirectory) path.names := by
  apply createDirectory_last bare usable
  intro way isPrefix
  have none : path.names.dropLast = [] := by
    apply List.eq_nil_of_length_eq_zero
    rw [List.length_dropLast]
    omega
  rw [none, List.prefix_nil] at isPrefix
  rw [isPrefix]
  exact bare.past _ start

/-- Making a directory with those on the way to it leaves the destination, or
finds or makes all of them. -/
theorem createDirectory_chain {fuel : Nat} {path : FilePath}
    (bare : IsBare destDir workingDirectory source disk)
    (enough : path.path.length < fuel ∨ path.path = kCurrentDirectory)
    (usable : IsUsable source (path.originFrom workingDirectory) path)
    (start : destDir.LeadsPast workingDirectory
      (path.originFrom workingDirectory)) :
    let result := Disk.createDirectories permitsAll disk
      (path :: subpathsFrom fuel path).reverse
    Escapes destDir workingDirectory result.2 ∨
      result.1 = true ∧ IsBare destDir workingDirectory source result.2 ∧
        IsOpen result.2 (path.originFrom workingDirectory) path.names := by
  induction fuel generalizing path with
  | zero =>
      rcases enough with impossible | isCurrent
      · exact absurd impossible (Nat.not_lt_zero _)
      · exact createDirectory_alone bare (length_names_current isCurrent) usable start
  | succ fuel ih =>
      unfold subpathsFrom
      split
      · next same =>
          rcases names_of_dirName_eq same with none | isCurrent
          · exact createDirectory_alone bare (by rw [none]; decide) usable start
          · exact createDirectory_alone bare (length_names_current isCurrent) usable
              start
      · next goesOn =>
          have isFront := (dirName_spec path).1
          have dirNames : path.dirName.path = kCurrentDirectory ∧
              path.names.length ≤ 1 ∨
                path.dirName.names = path.names.dropLast := by
            rcases (dirName_spec path).2 with ⟨isCurrent, -, short⟩ | ⟨-, dropped⟩
            · exact .inl ⟨isCurrent, short⟩
            · exact .inr dropped
          have dirUsable := usable.isFrontOf isFront (by
            rcases dirNames with ⟨isCurrent, -⟩ | dropped
            · exact .inl isCurrent
            · rw [dropped]
              exact .inr (List.dropLast_prefix _))
          have sameOrigin : path.dirName.originFrom workingDirectory =
              path.originFrom workingDirectory :=
            originFrom_of_isFrontOf usable.plain dirUsable.plain isFront
          have dirEnough : path.dirName.path.length < fuel ∨
              path.dirName.path = kCurrentDirectory := by
            rcases dirName_length path with same | isCurrent | shorter
            · exact absurd same goesOn
            · exact .inr isCurrent
            · rcases enough with enough | isCurrent
              · exact .inl (by omega)
              · have isPath : path = { path := kCurrentDirectory } := by
                  cases path
                  exact congrArg FilePath.mk isCurrent
                rw [isPath, dirName_current] at goesOn
                exact absurd rfl goesOn
          have above := ih dirEnough (by rw [sameOrigin]; exact dirUsable)
            (by rw [sameOrigin]; exact start)
          rw [List.reverse_cons, createDirectories_append]
          generalize Disk.createDirectories permitsAll disk
            (path.dirName :: subpathsFrom fuel path.dirName).reverse = result
            at above
          obtain ⟨done, disk'⟩ := result
          rcases above with escapes | ⟨rfl, bare', isOpen⟩
          · left
            cases done with
            | true => exact escapes.makes (Disk.makes_createDirectories _ _ _)
            | false => exact escapes
          · apply createDirectory_last bare' usable
            rw [sameOrigin] at isOpen
            rcases dirNames with ⟨-, short⟩ | dropped
            · intro way isPrefix
              have none : path.names.dropLast = [] := by
                apply List.eq_nil_of_length_eq_zero
                rw [List.length_dropLast]
                omega
              rw [none] at isPrefix
              rw [List.prefix_nil.mp isPrefix]
              exact isOpen [] List.nil_prefix
            · rw [← dropped]
              exact isOpen

/-- A place that is neither in the destination nor above it is free. -/
theorem kind_eq_none (bare : IsBare destDir workingDirectory source disk)
    {place : Place UInt8} (apart : place ≠ [source])
    (outside : ¬(destDir.placeFrom workingDirectory <:+ place ∨
      destDir.LeadsPast workingDirectory place)) :
    disk.tree.kind place = none := by
  by_contra present
  exact outside (bare.only place present apart).2

/-- A file is opened at a free place although it is outside the destination. -/
theorem fopen_escapes (bare : IsBare destDir workingDirectory source disk)
    {path : FilePath}
    (usable : IsUsable source (path.originFrom workingDirectory) path)
    (noSeparator : path.path.getLast? ≠ some kSeparator)
    (isOpen : IsOpen disk (path.originFrom workingDirectory) path.names.dropLast)
    (outside : ¬∀ way, way <+: path.names →
      let place := walk kDot (path.originFrom workingDirectory) way
      destDir.placeFrom workingDirectory <:+ place ∨
        destDir.LeadsPast workingDirectory place) :
    Escapes destDir workingDirectory (disk.fopen permitsAll path).2 := by
  have origin : disk.origin path = path.originFrom workingDirectory := by
    unfold Disk.origin
    rw [bare.sameDirectory]
  simp only [not_forall] at outside
  obtain ⟨way, isPrefix, outside⟩ := outside
  have free := kind_eq_none bare (usable.apart way isPrefix) outside
  have notFront : ¬way <+: path.names.dropLast := by
    intro front
    have directory := isOpen way front
    rw [free] at directory
    cases directory
  obtain ⟨front, name, names⟩ : ∃ front name, path.names = front ++ [name] := by
    rcases List.eq_nil_or_concat path.names with none | ⟨front, name, names⟩
    · rw [none] at isPrefix notFront
      exact absurd isPrefix notFront
    · exact ⟨front, name, by rw [names, List.concat_eq_append]⟩
  rw [names, List.dropLast_concat] at isOpen notFront
  rw [names, List.prefix_concat_iff] at isPrefix
  have whole : way = front ++ [name] := by
    rcases isPrefix with whole | before
    · exact whole
    · exact absurd before notFront
  rw [whole] at free outside
  rw [← origin] at isOpen usable free outside
  obtain ⟨plain, place⟩ : IsPlain kDot name ∧
      walk kDot (disk.origin path) (front ++ [name]) =
        name :: walk kDot (disk.origin path) front := by
    rcases kind_step isOpen with impossible | new
    · rw [free] at impossible
      cases impossible
    · exact new
  have directory := isOpen front (List.prefix_refl _)
  have found := lookup_of_isOpen usable names plain isOpen
  rw [place] at free outside
  have notEnd : Disk.endsWithSeparator path = false := by
    simpa [Disk.endsWithSeparator] using noSeparator
  have opened : (disk.fopen permitsAll path).2.effects =
      .openFile (name :: walk kDot (disk.origin path) front) :: disk.effects := by
    simp [Disk.fopen, cStr_of_notMem usable.plain, notEnd, found, free, directory,
      permitsAll]
  refine ⟨.openFile (name :: walk kDot (disk.origin path) front), ?_, ?_⟩
  · rw [opened]
    exact List.mem_cons_self
  · intro inside
    exact outside (.inl inside)

/-- `CreateDirectory` leaves the destination, or all directories are there. -/
theorem createDirectory_isOpen
    (bare : IsBare destDir workingDirectory source disk) {path : FilePath}
    (usable : IsUsable source (path.originFrom workingDirectory) path)
    (start : destDir.LeadsPast workingDirectory
      (path.originFrom workingDirectory)) :
    let result := path.createDirectory permitsAll disk
    Escapes destDir workingDirectory result.2 ∨
      result.1 = true ∧ IsBare destDir workingDirectory source result.2 ∧
        IsOpen result.2 (path.originFrom workingDirectory) path.names := by
  apply createDirectory_chain bare _ usable start
  left
  unfold dirNameFuel
  omega

/-- The directory of a file is there afterwards, unless the way to it left the
destination. -/
theorem prepareOutput_escapes
    (bare : IsBare destDir workingDirectory source disk) {path : FilePath}
    (usable : IsUsable source (path.originFrom workingDirectory) path)
    (start : destDir.LeadsPast workingDirectory
      (path.originFrom workingDirectory))
    (valid : filePathCheckValid path.path = true)
    (noSeparator : path.path.getLast? ≠ some kSeparator)
    (outside : ¬∀ way, way <+: path.names →
      let place := walk kDot (path.originFrom workingDirectory) way
      destDir.placeFrom workingDirectory <:+ place ∨
        destDir.LeadsPast workingDirectory place) :
    Escapes destDir workingDirectory
      (FilePathWriterDelegate.prepareOutput { outputFilePath := path } permitsAll
        disk).2.2 := by
  have isFront := (dirName_spec path).1
  have dirNames : path.dirName.path = kCurrentDirectory ∧
      path.names.length ≤ 1 ∨ path.dirName.names = path.names.dropLast := by
    rcases (dirName_spec path).2 with ⟨isCurrent, -, short⟩ | ⟨-, dropped⟩
    · exact .inl ⟨isCurrent, short⟩
    · exact .inr dropped
  have dirUsable := usable.isFrontOf isFront (by
    rcases dirNames with ⟨isCurrent, -⟩ | dropped
    · exact .inl isCurrent
    · rw [dropped]
      exact .inr (List.dropLast_prefix _))
  have sameOrigin : path.dirName.originFrom workingDirectory =
      path.originFrom workingDirectory :=
    originFrom_of_isFrontOf usable.plain dirUsable.plain isFront
  have above := createDirectory_isOpen bare (by rw [sameOrigin]; exact dirUsable)
    (by rw [sameOrigin]; exact start)
  unfold FilePathWriterDelegate.prepareOutput
  simp only [valid, Bool.not_true, Bool.false_eq_true, if_false]
  generalize path.dirName.createDirectory permitsAll disk = result at above
  obtain ⟨done, disk'⟩ := result
  rcases above with escapes | ⟨rfl, bare', isOpen⟩
  · cases done with
    | true => exact escapes.makes (Disk.makes_fopen _ _ _).1
    | false => exact escapes
  · refine fopen_escapes bare' usable noSeparator ?_ outside
    rw [sameOrigin] at isOpen
    rcases dirNames with ⟨-, short⟩ | dropped
    · intro way isPrefix
      have none : path.names.dropLast = [] := by
        apply List.eq_nil_of_length_eq_zero
        rw [List.length_dropLast]
        omega
      rw [none] at isPrefix
      rw [List.prefix_nil.mp isPrefix]
      exact isOpen [] List.nil_prefix
    · rw [← dropped]
      exact isOpen

/-- An entry whose path leads out of the destination makes something there on a
disk where nothing stands in its way. -/
theorem unzipEntry_escapes (bare : IsBare destDir workingDirectory source disk)
    {entry : UnzEntry} {fileName : ByteString} (nonempty : destDir.path ≠ [])
    (present : fileName ≠ [])
    (usable : IsUsable source (destDir.originFrom workingDirectory)
      (entryPath destDir { path := fileName }))
    (something : MakesSomething destDir entry fileName)
    (outside : ¬IsContained workingDirectory destDir fileName) :
    Escapes destDir workingDirectory
      (unzipEntry permitsAll destDir entry (ZipReader.EntryInfo.ofName fileName)
        disk).2 := by
  have origin : (entryPath destDir { path := fileName }).originFrom
      workingDirectory = destDir.originFrom workingDirectory :=
    originFrom_entryPath nonempty
  have start : destDir.LeadsPast workingDirectory
      (destDir.originFrom workingDirectory) :=
    ⟨[], List.nil_prefix, List.suffix_refl _⟩
  unfold IsContained at outside
  simp only [cStr_of_notMem usable.plain] at outside
  rw [← origin] at usable start
  unfold unzipEntry
  split
  · rcases createDirectory_isOpen bare usable start with
      escapes | ⟨-, bare', isOpen⟩
    · exact escapes
    · exfalso
      apply outside
      intro way isPrefix
      have directory := isOpen way isPrefix
      exact (bare'.only _ (by rw [directory]; simp) (usable.apart way isPrefix)).2
  · next isFile =>
      have notDirectory : fileName.getLast? ≠ some kSeparator := by
        simpa [ZipReader.EntryInfo.ofName] using isFile
      rcases something with impossible | ⟨opens, valid⟩
      · exact absurd impossible notDirectory
      · have noSeparator : (entryPath destDir { path := fileName }).path.getLast? ≠
            some kSeparator := by
          obtain ⟨front, last, isLast⟩ : ∃ front last, fileName = front ++ [last] := by
            rcases List.eq_nil_or_concat fileName with none | ⟨front, last, isLast⟩
            · exact absurd none present
            · exact ⟨front, last, by rw [isLast, List.concat_eq_append]⟩
          rw [isLast, List.getLast?_concat] at notDirectory
          unfold entryPath
          rw [isLast]
          split <;> simpa [List.getLast?_append, List.getLast?_cons] using
            notDirectory
        have prepared := prepareOutput_escapes bare usable start valid noSeparator
          outside
        have closed : (createFilePathWriterDelegate destDir
            (ZipReader.EntryInfo.ofName fileName).filePath).file = none := rfl
        obtain ⟨-, file⟩ := FilePathWriterDelegate.makes_prepareOutput permitsAll
          disk closed
        unfold ZipReader.extractCurrentEntry
        simp only [opens, Bool.not_true, Bool.false_eq_true, if_false]
        split
        · next failed =>
            have same : FilePathWriterDelegate.prepareOutput
              { outputFilePath := entryPath destDir { path := fileName } }
                permitsAll disk = _ := failed
            rw [same] at prepared
            exact prepared
        · next done =>
            have same : FilePathWriterDelegate.prepareOutput
              { outputFilePath := entryPath destDir { path := fileName } }
                permitsAll disk = _ := done
            rw [same] at prepared
            rw [done] at file
            exact prepared.makes (ZipReader.makes_extractLoop _ _ _ file)

/-- Some name of an archive is not among finitely many others. -/
theorem exists_source (names : List ByteString) : ∃ source, source ∉ names ∧
    kSeparator ∉ source ∧ 0 ∉ source ∧ source.all isPathCharacter ∧
      ∃ start, source = start ++ zip := by
  refine ⟨List.replicate (names.map List.length).sum 97 ++ zip, ?_, ?_, ?_, ?_, _,
    rfl⟩
  · intro member
    have inLengths : (List.replicate (names.map List.length).sum 97 ++ zip).length ∈
        names.map List.length := List.mem_map_of_mem member
    have bound := List.single_le_sum (fun _ _ => Nat.zero_le _) _ inLengths
    rw [List.length_append, List.length_replicate] at bound
    have some : 0 < zip.length := by decide
    omega
  · rw [List.mem_append, not_or]
    refine ⟨?_, by decide⟩
    intro member
    exact absurd (List.eq_of_mem_replicate member) (by decide)
  · rw [List.mem_append, not_or]
    refine ⟨?_, by decide⟩
    intro member
    exact absurd (List.eq_of_mem_replicate member) (by decide)
  · rw [List.all_append, Bool.and_eq_true, List.all_eq_true]
    refine ⟨?_, by decide⟩
    intro character member
    rw [List.eq_of_mem_replicate member]
    decide

open Classical in
/-- The tree of nothing but the directories that the destination needs and the
source file. -/
noncomputable def bareTree (destDir : FilePath) (workingDirectory : Place UInt8)
    (source : ByteString) : FileTree UInt8 where
  kind place :=
    if destDir.LeadsPast workingDirectory place then some .directory
    else if place = [source] then some .file
    else none
  root := by
    rw [if_pos]
    exact ⟨[], List.nil_prefix, List.nil_suffix⟩
  inDirectory := by
    intro name place present
    rw [if_pos]
    split at present
    · next past =>
        obtain ⟨front, isFront, inside⟩ := past
        exact ⟨front, isFront, (List.suffix_cons name place).trans inside⟩
    · split at present
      · next isSource =>
          rw [List.cons.injEq] at isSource
          rw [isSource.2]
          exact ⟨[], List.nil_prefix, List.nil_suffix⟩
      · exact absurd rfl present

theorem isBare_bareTree
    (apart : ¬destDir.LeadsPast workingDirectory [source]) :
    IsBare destDir workingDirectory source
      { tree := bareTree destDir workingDirectory source
        workingDirectory := workingDirectory } where
  sameDirectory := rfl
  past place past := if_pos past
  isFile := by
    simp [bareTree, apart]
  only place present other := by
    simp only [bareTree] at present ⊢
    split at present
    · next past =>
        rw [if_pos past]
        exact ⟨rfl, .inr past⟩
    · simp at present

/-- The source file of an archive is found on such a disk. -/
theorem pathIsValid_source
    (bare : IsBare destDir workingDirectory source disk)
    (plain : kSeparator ∉ source) (noZero : 0 ∉ source)
    (long : 2 < source.length) :
    disk.pathIsValid { path := kSeparator :: source } = true := by
  have present : source ≠ [] := by
    rintro rfl
    simp at long
  have path : (cStr { path := kSeparator :: source }) =
      { path := kSeparator :: source } := by
    apply cStr_of_notMem
    intro member
    rcases List.mem_cons.mp member with zero | member
    · exact absurd zero (by decide)
    · exact noZero member
  have noEnd : Disk.endsWithSeparator { path := kSeparator :: source } = false := by
    have notLast : source.getLast? ≠ some kSeparator := by
      intro last
      exact plain (List.mem_of_getLast? last)
    obtain ⟨first, rest, rfl⟩ := List.exists_cons_of_ne_nil present
    simpa [Disk.endsWithSeparator] using notLast
  have names : FilePath.names { path := kSeparator :: source } = [source] := by
    unfold FilePath.names
    rw [names_separator, names_of_notMem plain present]
  have isPlain : step kDot [] source = [source] := by
    apply step_of_isPlain
    constructor
    · rintro rfl
      simp at long
    · rintro rfl
      simp at long
  have origin : disk.origin { path := kSeparator :: source } = [] := by
    unfold Disk.origin originFrom
    rw [path, if_pos (isAbsolute_iff.mpr rfl)]
  have traversed : disk.tree.traverse kDot [] [source] = some [source] := by
    simp [FileTree.traverse, disk.tree.root, isPlain]
  unfold Disk.pathIsValid Disk.stat
  simp [path, names, origin, traversed, bare.isFile, noEnd]

/-- On such a disk an archive of one entry is unpacked. -/
theorem unzip_single (bare : IsBare destDir workingDirectory source disk)
    {entry : UnzEntry} {fileName : ByteString}
    (named : entry.fileName = some fileName) (present : fileName ≠ [])
    (isSafe : (ZipReader.EntryInfo.ofName fileName).isUnsafe = false)
    (nonempty : destDir.path ≠ [])
    (usable : IsUsable source (disk.origin destDir) destDir)
    (plain : kSeparator ∉ source) (noZero : 0 ∉ source)
    (valid : source.all isPathCharacter) {start : ByteString}
    (isZip : source = start ++ zip) :
    (unzip permitsAll { numberEntry := some 1, entries := [entry] } true
        { path := kSeparator :: source } destDir disk).2 =
      (unzipEntry permitsAll destDir entry (ZipReader.EntryInfo.ofName fileName)
        disk).2 := by
  have length : source.length = start.length + 4 := by
    rw [isZip, List.length_append]
    rfl
  have there : disk.directoryExists destDir = true := by
    apply directoryExists_of_isOpen usable
    intro front isFront
    apply bare.past
    refine ⟨front, ?_, ?_⟩
    · rw [cStr_of_notMem usable.plain]
      exact isFront
    · unfold Disk.origin
      rw [bare.sameDirectory]
  have found := pathIsValid_source bare plain noZero (by omega)
  have validPath : filePathCheckValid (kSeparator :: source) = true := by
    have first : isPathCharacter kSeparator = true := by decide
    simpa [filePathCheckValid, first] using valid
  have tail : (kSeparator :: source).drop
      ((kSeparator :: source).length - zip.length) = zip := by
    have cut : (kSeparator :: source).length - zip.length = start.length + 1 := by
      rw [List.length_cons, length]
      rfl
    rw [cut, isZip, List.drop_succ_cons, List.drop_left]
  have long : ¬(destDir.path.length = 0 ∨ (kSeparator :: source).length = 0 ∨
      (kSeparator :: source).length ≤ zip.length) := by
    have four : zip.length = 4 := rfl
    rw [List.length_eq_zero_iff, List.length_cons, length, four]
    simp only [nonempty, false_or]
    omega
  unfold unzip
  rw [if_neg long, if_neg (not_not.mpr tail)]
  simp only [found, there, validPath, unzipWithFilterCallback,
    unzipWithFilterAndWriters, Bool.not_true, Bool.false_eq_true, if_false]
  rw [if_neg (by decide), if_neg (by decide)]
  simp only [unzipLoop, named, present, isSafe, decide_false, Bool.or_false,
    Bool.false_eq_true, if_false, if_true]
  generalize unzipEntry permitsAll destDir entry
    (ZipReader.EntryInfo.ofName fileName) disk = result
  obtain ⟨done, disk'⟩ := result
  cases done with
  | false => rfl
  | true =>
      simp only
      split
      · rfl
      · split
        · rfl
        · split <;> rfl

theorem exists_escape {entry : UnzEntry} (nonempty : destDir.path ≠ [])
    (leaves : ¬entry.KeepsInside workingDirectory destDir) :
    ∃ srcFile disk, disk.workingDirectory = workingDirectory ∧ disk.effects = [] ∧
      Escapes destDir workingDirectory
        (unzip permitsAll { numberEntry := some 1, entries := [entry] } true
          srcFile destDir disk).2 := by
  unfold UnzEntry.KeepsInside at leaves
  simp only [not_forall] at leaves
  obtain ⟨fileName, named, absolute, something, outside⟩ := leaves
  have plainName := zero_notMem_fileName named
  have present : fileName ≠ [] := by
    rintro rfl
    cases absolute
  have plainDest : 0 ∉ destDir.path := by
    intro zero
    apply outside
    intro way isPrefix
    rw [names_entryPath plainName, if_pos zero, List.append_nil] at isPrefix
    exact .inr ⟨way, isPrefix, by rw [originFrom_entryPath nonempty]⟩
  have destNames : destDir.cStr.names = destDir.names := by
    rw [cStr_of_notMem plainDest]
  have plainPath : 0 ∉ (entryPath destDir { path := fileName }).path := by
    have separator : (0 : UInt8) ≠ kSeparator := by decide
    unfold entryPath
    split <;> simp [plainDest, plainName, separator]
  have pathNames : (entryPath destDir { path := fileName }).names =
      destDir.names ++ DirectoryTree.names kSeparator fileName := by
    rw [← cStr_of_notMem plainPath, names_entryPath plainName, if_neg plainDest,
      destNames]
  obtain ⟨source, isNew, plain, noZero, valid, start, isZip⟩ :=
    exists_source (destDir.originFrom workingDirectory ++
      (entryPath destDir { path := fileName }).names)
  rw [List.mem_append, not_or] at isNew
  -- The name of the source file is on no walk along the path.
  have notOnWalk (way : List ByteString)
      (isPrefix : way <+: (entryPath destDir { path := fileName }).names) :
      source ∉ walk kDot (destDir.originFrom workingDirectory) way := by
    intro member
    rcases mem_walk member with inOrigin | inWay
    · exact isNew.1 inOrigin
    · exact isNew.2 (isPrefix.subset inWay)
  have destPrefix : destDir.names <+: (entryPath destDir { path := fileName }).names := by
    rw [pathNames]
    exact List.prefix_append _ _
  have apart (way : List ByteString)
      (isPrefix : way <+: (entryPath destDir { path := fileName }).names) :
      walk kDot (destDir.originFrom workingDirectory) way ≠ [source] := by
    intro same
    apply notOnWalk way isPrefix
    rw [same]
    exact List.mem_singleton_self source
  have notPast : ¬destDir.LeadsPast workingDirectory [source] := by
    rintro ⟨front, isFront, inside⟩
    rw [destNames] at isFront
    apply notOnWalk front (isFront.trans destPrefix)
    exact inside.subset (List.mem_singleton_self source)
  have bare := isBare_bareTree notPast
  have usable : IsUsable source (destDir.originFrom workingDirectory)
      (entryPath destDir { path := fileName }) :=
    ⟨plainPath, entryPath_ne_nil nonempty, apart⟩
  have usableDest : IsUsable source (destDir.originFrom workingDirectory) destDir :=
    ⟨plainDest, nonempty, fun way isPrefix => apart way (isPrefix.trans destPrefix)⟩
  have isSafe : (ZipReader.EntryInfo.ofName fileName).isUnsafe = false := by
    simp [ZipReader.EntryInfo.ofName, absolute]
  refine ⟨{ path := kSeparator :: source },
    { tree := bareTree destDir workingDirectory source
      workingDirectory := workingDirectory }, rfl, rfl, ?_⟩
  rw [unzip_single bare named present isSafe nonempty usableDest plain noZero valid
    isZip]
  exact unzipEntry_escapes bare nonempty present usable something outside

end Escape

/-- Of the archives made up of some entries every one is unpacked inside the
destination, whatever is on the disk, exactly if none of the entries that make
something has an absolute name that leads out of the destination.  Relative names
never do. -/
theorem unzip_staysIn_iff (destDir : FilePath) (workingDirectory : Place UInt8)
    (entries : Set UnzEntry) :
    (∀ permits archive opened srcFile (disk : Disk),
      disk.workingDirectory = workingDirectory → disk.effects = [] →
        (∀ entry ∈ archive.entries, entry ∈ entries) →
          (unzip permits archive opened srcFile destDir disk).2.StaysIn
            (disk.placeOf destDir)) ↔
      destDir.path = [] ∨
        ∀ entry ∈ entries, entry.KeepsInside workingDirectory destDir := by
  constructor
  · intro stays
    by_cases empty : destDir.path = []
    · exact .inl empty
    · right
      intro entry member
      by_contra leaves
      obtain ⟨srcFile, disk, same, fresh, effect, made, outside⟩ :=
        exists_escape empty leaves
      apply outside
      have inside := stays permitsAll
        { numberEntry := some 1, entries := [entry] } true srcFile disk same fresh
        (by simpa using member) effect made
      unfold Disk.placeOf at inside
      rw [same] at inside
      exact inside
  · rintro (empty | keeps) permits archive opened srcFile disk same fresh members
    · unfold unzip
      rw [if_pos (.inl (by rw [empty]; rfl))]
      unfold Disk.StaysIn
      rw [fresh]
      simp
    · apply staysIn_unzip fresh
      intro entry member
      rw [same]
      exact keeps entry (members entry member)

/-- A disk with a directory `d` and a file `a.zip`. -/
def smallTree : FileTree UInt8 where
  kind place :=
    if place = [] ∨ place = [[100]] then some .directory
    else if place = [97 :: zip] then some .file
    else none
  root := rfl
  inDirectory := by
    intro name place present
    by_cases inRoot : place = []
    · rw [if_pos (.inl inRoot)]
    · have deeper (other : ByteString) : name :: place ≠ [other] := by
        intro same
        exact inRoot (List.cons.inj same).2
      simp [deeper] at present

/-- The file `/../x` is written to the directory above the destination `/d`. -/
theorem unzip_leavesDestination :
    ¬(unzip permitsAll
        { numberEntry := some 1
          entries := [{ rawFileName := some [47, 46, 46, 47, 120] }] }
        true { path := 47 :: 97 :: zip } { path := [47, 100] }
        { tree := smallTree }).2.StaysIn [[100]] := by
  intro inside
  have made : FileEffect.openFile [[120]] ∈
      (unzip permitsAll
        { numberEntry := some 1
          entries := [{ rawFileName := some [47, 46, 46, 47, 120] }] }
        true { path := 47 :: 97 :: zip } { path := [47, 100] }
        { tree := smallTree }).2.effects := by
    decide +kernel
  exact absurd (inside _ made) (by decide)

end Zip

end AppExecFwk
