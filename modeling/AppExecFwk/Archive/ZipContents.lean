import AppExecFwk.Archive.PathComponents
import AppExecFwk.Archive.ZipTask
import Mathlib.Data.List.Nodup
import Mathlib.Data.List.Perm.Subperm

/-!
# What is in the archive of a directory

In a tree of files and directories a path leads to a place, and what is listed
below it are the files and the empty directories below that place.  The writer
gets those that pass the test for hidden files, which looks at the path that is
listed, and whose path starts with the components of the directory's.
-/

namespace AppExecFwk

open DirectoryTree FilePath

/-- A tree of directories that can all be read, with the order in which their
names are given out. -/
structure ListedTree where
  tree : FileTree UInt8
  workingDirectory : Place UInt8
  listing : Place UInt8 → List ByteString
  nodup : ∀ place, (listing place).Nodup
  mem_listing : ∀ place name,
    name ∈ listing place ↔ tree.kind (name :: place) ≠ none
  isName : ∀ name place, tree.kind (name :: place) ≠ none →
    name ≠ [] ∧ kSeparator ∉ name ∧ IsPlain kDot name
  depth : Nat
  length_le : ∀ place, tree.kind place ≠ none → place.length ≤ depth
  contents : Place UInt8 → ByteString

namespace ListedTree

variable (listed : ListedTree)

/-- Where a path leads. -/
def resolve (path : ByteString) : Option (Place UInt8) :=
  if path = [] then none
  else
    listed.tree.traverse kDot
      (if FilePath.isAbsolute { path := path } then [] else listed.workingDirectory)
      (names kSeparator path)

/-- What stands where a path leads; a file has no separator behind it. -/
def stat (path : ByteString) : Option FileKind :=
  match listed.resolve path with
  | none => none
  | some place =>
      if listed.tree.kind place = some .file ∧ endsWith path separatorText = true
      then none
      else listed.tree.kind place

def dirEntry (place : Place UInt8) (name : ByteString) : DirEntry where
  dName := name
  isDirectory := listed.tree.kind (name :: place) = some .directory

/-- The directory itself and the one above it are listed too. -/
def opendir (path : ByteString) : Option (List DirEntry) :=
  match listed.resolve path with
  | none => none
  | some place =>
      if listed.tree.kind place = some .directory then
        some ([{ dName := kCurrentDirectory, isDirectory := true },
          { dName := kParentDirectory, isDirectory := true }] ++
            (listed.listing place).map (listed.dirEntry place))
      else none

variable {listed} {path name : ByteString} {place : Place UInt8}

theorem resolve_ne_nil (leads : listed.resolve path = some place) : path ≠ [] := by
  rintro rfl
  cases leads

theorem includeTrailingPathDelimiter_ne_nil :
    includeTrailingPathDelimiter path ≠ [] := by
  unfold includeTrailingPathDelimiter
  split
  · next ends =>
      rintro rfl
      cases ends
  · simp [separatorText]

/-- A name behind a path is one more name, and starts where the path does. -/
theorem names_child (path other : ByteString) :
    names kSeparator (includeTrailingPathDelimiter path ++ other) =
      names kSeparator path ++ names kSeparator other := by
  unfold includeTrailingPathDelimiter
  split
  · next ends =>
      obtain ⟨start, rfl⟩ := List.isSuffixOf_iff_suffix.mp ends
      rw [separatorText, List.append_assoc, List.singleton_append,
        names_append_separator, names_append_separator, names_nil, List.append_nil]
  · rw [separatorText, List.append_assoc, List.singleton_append,
      names_append_separator]

theorem head?_child (present : path ≠ []) (other : ByteString) :
    (includeTrailingPathDelimiter path ++ other).head? = path.head? := by
  unfold includeTrailingPathDelimiter
  split
  · rw [List.head?_append_of_ne_nil _ present]
  · rw [List.append_assoc, List.head?_append_of_ne_nil _ present]

/-- A name in a directory is where the path of the directory leads with the name
behind it. -/
theorem resolve_child (leads : listed.resolve path = some place)
    (directory : listed.tree.kind place = some .directory)
    (nonempty : name ≠ []) (plain : kSeparator ∉ name)
    (isPlain : IsPlain kDot name) :
    listed.resolve (includeTrailingPathDelimiter path ++ name) =
      some (name :: place) := by
  have present := resolve_ne_nil leads
  have absolute : isAbsolute
      { path := includeTrailingPathDelimiter path ++ name } =
        isAbsolute { path := path } := by
    unfold isAbsolute
    rw [head?_child present]
  have named : includeTrailingPathDelimiter path ++ name ≠ [] := by
    simp [nonempty]
  unfold resolve at leads ⊢
  rw [if_neg present] at leads
  rw [if_neg named, absolute, names_child, names_of_notMem plain nonempty]
  rw [FileTree.traverse_append, leads, Option.bind_some]
  unfold FileTree.traverse
  rw [if_pos directory, step_of_isPlain isPlain]
  rfl

theorem resolve_includeTrailing (present : path ≠ []) :
    listed.resolve (includeTrailingPathDelimiter path) = listed.resolve path := by
  have sameNames := names_child path []
  have sameHead := head?_child present []
  rw [List.append_nil, names_nil, List.append_nil] at sameNames
  rw [List.append_nil] at sameHead
  unfold resolve isAbsolute
  rw [if_neg includeTrailingPathDelimiter_ne_nil, if_neg present, sameNames, sameHead]

variable (listed)

def rank (path : ByteString) : Nat :=
  match listed.resolve path with
  | none => 0
  | some place => listed.depth + 1 - place.length

variable {listed}

theorem opendir_eq_some {entries : List DirEntry}
    (opened : listed.opendir path = some entries) :
    ∃ place, listed.resolve path = some place ∧
      listed.tree.kind place = some .directory ∧
      entries = [{ dName := kCurrentDirectory, isDirectory := true },
        { dName := kParentDirectory, isDirectory := true }] ++
          (listed.listing place).map (listed.dirEntry place) := by
  unfold opendir at opened
  split at opened
  · cases opened
  · next place leads =>
      split at opened
      · next directory => exact ⟨place, leads, directory, (Option.some.inj opened).symm⟩
      · cases opened

theorem rank_child_lt {entries : List DirEntry}
    (opened : listed.opendir path = some entries) {entry : DirEntry}
    (member : entry ∈ entries) (notCurrent : entry.dName ≠ kCurrentDirectory)
    (notParent : entry.dName ≠ kParentDirectory) :
    listed.rank (includeTrailingPathDelimiter path ++ entry.dName) <
      listed.rank path := by
  obtain ⟨place, leads, directory, rfl⟩ := opendir_eq_some opened
  simp only [List.cons_append, List.nil_append, List.mem_cons, List.mem_map] at member
  rcases member with rfl | rfl | ⟨name, isListed, rfl⟩
  · exact absurd rfl notCurrent
  · exact absurd rfl notParent
  · have present := (listed.mem_listing place name).mp isListed
    obtain ⟨nonempty, plain, isPlain⟩ := listed.isName name place present
    have below := resolve_child leads directory nonempty plain isPlain
    have length := listed.length_le _ present
    rw [List.length_cons] at length
    unfold rank
    rw [leads]
    simp only [dirEntry, below, List.length_cons]
    omega

variable (listed)

/-- The tree as the system answers about it. -/
def sourceFiles : SourceFiles where
  stat := listed.stat
  access path := (listed.stat path).isSome
  opendir := listed.opendir
  contents path := ((listed.resolve path).map listed.contents).getD []
  rank := listed.rank
  descends _ _ opened _ member notCurrent notParent :=
    rank_child_lt opened member notCurrent notParent

/-- The names lead from a place to a file or to an empty directory. -/
def IsItem (place : Place UInt8) (item : List ByteString) : Prop :=
  item ≠ [] ∧
    (listed.tree.kind (item.reverse ++ place) = some .file ∨
      listed.tree.kind (item.reverse ++ place) = some .directory ∧
        listed.listing (item.reverse ++ place) = [])

/-- The files and empty directories below a place in the order in which they are
found. -/
def itemsBelow (place : Place UInt8) : List (List ByteString) :=
  (listed.listing place).flatMap fun name =>
    if listed.tree.kind (name :: place) = some .directory then
      if itemsBelow (name :: place) = [] then [[name]]
      else (itemsBelow (name :: place)).map (name :: ·)
    else [[name]]
termination_by listed.depth + 1 - place.length
decreasing_by
  all_goals
    next member _ =>
      have length := listed.length_le _ ((listed.mem_listing place name).mp member)
      rw [List.length_cons] at length ⊢
      omega

/-- The items of one name. -/
def itemsOf (place : Place UInt8) (name : ByteString) : List (List ByteString) :=
  if listed.tree.kind (name :: place) = some .directory then
    if listed.itemsBelow (name :: place) = [] then [[name]]
    else (listed.itemsBelow (name :: place)).map (name :: ·)
  else [[name]]

variable {listed}

theorem itemsBelow_eq (place : Place UInt8) :
    listed.itemsBelow place =
      (listed.listing place).flatMap (listed.itemsOf place) := by
  rw [itemsBelow]
  rfl

/-- An item of a name starts with it. -/
theorem exists_of_mem_itemsOf {item : List ByteString}
    (member : item ∈ listed.itemsOf place name) :
    ∃ rest, item = name :: rest := by
  unfold itemsOf at member
  split at member
  · split at member
    · exact ⟨[], List.mem_singleton.mp member⟩
    · obtain ⟨rest, -, rfl⟩ := List.mem_map.mp member
      exact ⟨rest, rfl⟩
  · exact ⟨[], List.mem_singleton.mp member⟩

theorem itemsBelow_eq_nil_iff :
    listed.itemsBelow place = [] ↔ listed.listing place = [] := by
  rw [itemsBelow_eq]
  constructor
  · intro none
    by_contra present
    obtain ⟨name, names, some⟩ := List.exists_cons_of_ne_nil present
    rw [some, List.flatMap_cons, List.append_eq_nil_iff] at none
    have first := none.1
    unfold itemsOf at first
    split at first
    · split at first
      · cases first
      · next items => exact items (List.map_eq_nil_iff.mp first)
    · cases first
  · intro none
    rw [none]
    rfl

theorem nodup_itemsBelow (place : Place UInt8) :
    (listed.itemsBelow place).Nodup := by
  induction place using itemsBelow.induct listed with
  | case1 place ih =>
      rw [itemsBelow_eq, List.nodup_flatMap]
      constructor
      · intro name isListed
        unfold itemsOf
        split
        · split
          · exact List.nodup_singleton _
          · exact (ih name isListed).map fun _ _ same => (List.cons.inj same).2
        · exact List.nodup_singleton _
      · apply (listed.nodup place).imp
        intro name other apart item inName inOther
        obtain ⟨rest, rfl⟩ := exists_of_mem_itemsOf inName
        obtain ⟨others, same⟩ := exists_of_mem_itemsOf inOther
        exact apart (List.cons.inj same).1

theorem isItem_cons {rest : List ByteString} :
    listed.IsItem place (name :: rest) ↔
      if rest = [] then
        listed.tree.kind (name :: place) = some .file ∨
          listed.tree.kind (name :: place) = some .directory ∧
            listed.listing (name :: place) = []
      else listed.IsItem (name :: place) rest := by
  unfold IsItem
  rw [List.reverse_cons, List.append_assoc, List.singleton_append]
  split
  · next none => simp [none]
  · next some => simp [some]

/-- The name in front leads to something. -/
theorem kind_of_isItem {item : List ByteString} (isItem : listed.IsItem place item) :
    listed.tree.kind (item.reverse ++ place) ≠ none := by
  rcases isItem.2 with file | ⟨directory, -⟩
  · rw [file]
    simp
  · rw [directory]
    simp

theorem mem_itemsBelow {item : List ByteString} :
    item ∈ listed.itemsBelow place ↔ listed.IsItem place item := by
  induction place using itemsBelow.induct listed generalizing item with
  | case1 place ih =>
      rw [itemsBelow_eq, List.mem_flatMap]
      constructor
      · rintro ⟨name, isListed, member⟩
        have present := (listed.mem_listing place name).mp isListed
        unfold itemsOf at member
        split at member
        · next directory =>
            split at member
            · next none =>
                rw [List.mem_singleton.mp member, isItem_cons, if_pos rfl]
                exact .inr ⟨directory, itemsBelow_eq_nil_iff.mp none⟩
            · obtain ⟨rest, inRest, rfl⟩ := List.mem_map.mp member
              have isItem := (ih name isListed).mp inRest
              rw [isItem_cons, if_neg isItem.1]
              exact isItem
        · next notDirectory =>
            rw [List.mem_singleton.mp member, isItem_cons, if_pos rfl]
            left
            cases found : listed.tree.kind (name :: place) with
            | none => exact absurd found present
            | some kind =>
                cases kind with
                | file => rfl
                | directory => exact absurd found notDirectory
      · intro isItem
        obtain ⟨name, rest, rfl⟩ := List.exists_cons_of_ne_nil isItem.1
        have whole := kind_of_isItem isItem
        rw [List.reverse_cons, List.append_assoc, List.singleton_append] at whole
        rw [isItem_cons] at isItem
        by_cases last : rest = []
        · subst last
          refine ⟨name, (listed.mem_listing place name).mpr whole, ?_⟩
          rw [if_pos rfl] at isItem
          unfold itemsOf
          rcases isItem with file | ⟨directory, empty⟩
          · simp [file]
          · simp [directory, itemsBelow_eq_nil_iff.mpr empty]
        · rw [if_neg last] at isItem
          have directory : listed.tree.kind (name :: place) = some .directory := by
            apply FileTree.kind_of_suffix whole (List.suffix_append _ _)
            intro same
            apply last
            have length := congrArg List.length same
            rw [List.length_append, List.length_reverse] at length
            exact List.eq_nil_of_length_eq_zero (by omega)
          have isListed : name ∈ listed.listing place := by
            rw [listed.mem_listing, directory]
            simp
          have inRest := (ih name isListed).mpr isItem
          refine ⟨name, isListed, ?_⟩
          unfold itemsOf
          rw [if_pos directory, if_neg (List.ne_nil_of_mem inRest)]
          exact List.mem_map_of_mem inRest

/-- The path of an item below a path. -/
def pathBelow (path : ByteString) : List ByteString → ByteString
  | [] => path
  | name :: rest => pathBelow (includeTrailingPathDelimiter path ++ name) rest

/-- A path with a separator in it is no special one. -/
theorem child_ordinary (path name : ByteString) :
    ¬(includeTrailingPathDelimiter path ++ name = [] ∨
      includeTrailingPathDelimiter path ++ name = kCurrentDirectory ∨
        includeTrailingPathDelimiter path ++ name = kParentDirectory) := by
  have separates : kSeparator ∈ includeTrailingPathDelimiter path ++ name := by
    apply List.mem_append_left
    unfold includeTrailingPathDelimiter
    split
    · next ends =>
        obtain ⟨start, rfl⟩ := List.isSuffixOf_iff_suffix.mp ends
        exact List.mem_append_right _ List.mem_cons_self
    · exact List.mem_append_right _ List.mem_cons_self
  rintro (same | same | same)
  · rw [same] at separates
    cases separates
  · rw [same] at separates
    exact absurd separates (by decide)
  · rw [same] at separates
    exact absurd separates (by decide)

theorem entryFiles_dirEntry (isPlain : IsPlain kDot name)
    (below : listed.tree.kind (name :: place) = some .directory →
      listed.sourceFiles.getZipAllDirFiles
          (includeTrailingPathDelimiter path ++ name) =
        (true, (listed.itemsBelow (name :: place)).map
          (pathBelow (includeTrailingPathDelimiter path ++ name)))) :
    listed.sourceFiles.entryFiles path (listed.dirEntry place name) =
      (listed.itemsOf place name).map (pathBelow path) := by
  have ordinary : ¬(name = kCurrentDirectory ∨ name = kParentDirectory) :=
    not_or.mpr isPlain
  unfold SourceFiles.entryFiles itemsOf dirEntry
  dsimp only
  rw [if_neg ordinary]
  by_cases directory : listed.tree.kind (name :: place) = some .directory
  · rw [below directory]
    simp only [directory, decide_true, if_true, List.map_eq_nil_iff]
    split
    · rfl
    · rw [List.map_map]
      rfl
  · simp only [directory, decide_false, if_false, Bool.false_eq_true]
    rfl

/-- What is listed below a directory are the paths of the items below it. -/
theorem getZipAllDirFiles_eq (leads : listed.resolve path = some place)
    (directory : listed.tree.kind place = some .directory)
    (ordinary : path ≠ kCurrentDirectory ∧ path ≠ kParentDirectory) :
    listed.sourceFiles.getZipAllDirFiles path =
      (true, (listed.itemsBelow place).map (pathBelow path)) := by
  induction place using itemsBelow.induct listed generalizing path with
  | case1 place ih =>
      have named := not_or.mpr ⟨resolve_ne_nil leads, not_or.mpr ordinary⟩
      have opened : listed.sourceFiles.opendir path = some
          ([{ dName := kCurrentDirectory, isDirectory := true },
            { dName := kParentDirectory, isDirectory := true }] ++
              (listed.listing place).map (listed.dirEntry place)) := by
        unfold sourceFiles opendir
        dsimp only
        rw [leads]
        exact if_pos directory
      have dots : [({ dName := kCurrentDirectory, isDirectory := true } : DirEntry),
          { dName := kParentDirectory, isDirectory := true }].flatMap
            (listed.sourceFiles.entryFiles path) = [] := by
        simp [SourceFiles.entryFiles]
      rw [SourceFiles.getZipAllDirFiles_of_opendir named, opened]
      dsimp only
      rw [List.flatMap_append, dots, List.nil_append, List.flatMap_map,
        itemsBelow_eq, List.map_flatMap]
      congr 1
      apply List.flatMap_congr
      intro name isListed
      have present := (listed.mem_listing place name).mp isListed
      obtain ⟨nonempty, plain, isPlain⟩ := listed.isName name place present
      apply entryFiles_dirEntry isPlain
      intro below
      have child := child_ordinary path name
      rw [not_or, not_or] at child
      exact ih name isListed (resolve_child leads directory nonempty plain isPlain)
        below child.2

/-- What stands below a directory is called by names. -/
theorem isName_of_kind {item : List ByteString}
    (present : listed.tree.kind (item.reverse ++ place) ≠ none) :
    ∀ name ∈ item, name ≠ [] ∧ kSeparator ∉ name ∧ IsPlain kDot name := by
  induction item generalizing place with
  | nil => simp
  | cons first rest ih =>
      rw [List.reverse_cons, List.append_assoc, List.singleton_append] at present
      have here : listed.tree.kind (first :: place) ≠ none := by
        by_cases last : first :: place = rest.reverse ++ first :: place
        · rw [last]
          exact present
        · rw [FileTree.kind_of_suffix present (List.suffix_append _ _) last]
          simp
      exact List.forall_mem_cons.mpr ⟨listed.isName first place here, ih present⟩

theorem endsWith_append_name (start : ByteString) (nonempty : name ≠ [])
    (plain : kSeparator ∉ name) :
    endsWith (start ++ name) separatorText = false := by
  rw [Bool.eq_false_iff]
  intro ends
  obtain ⟨front, split⟩ := List.isSuffixOf_iff_suffix.mp ends
  have last := congrArg List.getLast? split
  rw [List.getLast?_append_of_ne_nil _ nonempty, separatorText,
    List.getLast?_concat] at last
  exact plain (List.mem_of_getLast? last.symm)

/-- The path of an item has its names with separators between them. -/
theorem pathBelow_eq {item : List ByteString} (present : item ≠ [])
    (isName : ∀ name ∈ item, name ≠ [] ∧ kSeparator ∉ name ∧ IsPlain kDot name)
    (path : ByteString) :
    pathBelow path item =
      includeTrailingPathDelimiter path ++ separatorText.intercalate item := by
  induction item generalizing path with
  | nil => exact absurd rfl present
  | cons name rest ih =>
      obtain ⟨⟨nonempty, plain, -⟩, others⟩ := List.forall_mem_cons.mp isName
      cases rest with
      | nil => simp [pathBelow]
      | cons next rest =>
          have separated : includeTrailingPathDelimiter
              (includeTrailingPathDelimiter path ++ name) =
                includeTrailingPathDelimiter path ++ name ++ separatorText :=
            if_neg (by simp [endsWith_append_name _ nonempty plain])
          rw [pathBelow, ih (List.cons_ne_nil next rest) others, separated,
            List.intercalate_cons_cons]
          simp only [List.append_assoc]

theorem names_pathBelow {item : List ByteString}
    (isName : ∀ name ∈ item, name ≠ [] ∧ kSeparator ∉ name ∧ IsPlain kDot name)
    (path : ByteString) :
    names kSeparator (pathBelow path item) = names kSeparator path ++ item := by
  induction item generalizing path with
  | nil => simp [pathBelow]
  | cons name rest ih =>
      obtain ⟨⟨nonempty, plain, -⟩, others⟩ := List.forall_mem_cons.mp isName
      rw [pathBelow, ih others, names_child, names_of_notMem plain nonempty,
        List.append_assoc, List.singleton_append]

theorem head?_pathBelow (present : path ≠ []) (item : List ByteString) :
    (pathBelow path item).head? = path.head? := by
  induction item generalizing path with
  | nil => rfl
  | cons name rest ih =>
      have named : includeTrailingPathDelimiter path ++ name ≠ [] := by
        simp [includeTrailingPathDelimiter_ne_nil]
      rw [pathBelow, ih named, head?_child present]

theorem pathBelow_ne_nil (present : path ≠ []) (item : List ByteString) :
    pathBelow path item ≠ [] := by
  have head := head?_pathBelow present item
  intro empty
  rw [empty, List.head?_nil, eq_comm, List.head?_eq_none_iff] at head
  exact present head

/-- The path of an item leads to it. -/
theorem resolve_pathBelow {item : List ByteString}
    (leads : listed.resolve path = some place)
    (directory : listed.tree.kind place = some .directory)
    (present : listed.tree.kind (item.reverse ++ place) ≠ none) :
    listed.resolve (pathBelow path item) = some (item.reverse ++ place) := by
  induction item generalizing path place with
  | nil => exact leads
  | cons name rest ih =>
      have isName := isName_of_kind present
      obtain ⟨⟨nonempty, plain, isPlain⟩, -⟩ := List.forall_mem_cons.mp isName
      rw [List.reverse_cons, List.append_assoc, List.singleton_append] at present ⊢
      have child := resolve_child leads directory nonempty plain isPlain
      by_cases last : rest = []
      · rw [last]
        exact child
      · apply ih child _ present
        apply FileTree.kind_of_suffix present (List.suffix_append _ _)
        intro same
        apply last
        have length := congrArg List.length same
        rw [List.length_append, List.length_reverse] at length
        exact List.eq_nil_of_length_eq_zero (by omega)

theorem endsWith_pathBelow {item : List ByteString} (present : item ≠ [])
    (isName : ∀ name ∈ item, name ≠ [] ∧ kSeparator ∉ name ∧ IsPlain kDot name)
    (path : ByteString) :
    endsWith (pathBelow path item) separatorText = false := by
  induction item generalizing path with
  | nil => exact absurd rfl present
  | cons name rest ih =>
      obtain ⟨⟨nonempty, plain, -⟩, others⟩ := List.forall_mem_cons.mp isName
      cases rest with
      | nil => exact endsWith_append_name _ nonempty plain
      | cons next rest => exact ih (List.cons_ne_nil next rest) others _

theorem stat_pathBelow {item : List ByteString} (nonempty : item ≠ [])
    (leads : listed.resolve path = some place)
    (directory : listed.tree.kind place = some .directory)
    (present : listed.tree.kind (item.reverse ++ place) ≠ none) :
    listed.stat (pathBelow path item) =
      listed.tree.kind (item.reverse ++ place) := by
  have noSeparator := endsWith_pathBelow nonempty (isName_of_kind present) path
  unfold stat
  rw [resolve_pathBelow leads directory present]
  simp [noSeparator]

end ListedTree

/-- Everything that is asked while an archive is written succeeds. -/
structure ZipAnswers.Succeeds (answers : ZipAnswers) : Prop where
  opensArchive : answers.opensArchive = true
  hasRoom : answers.hasRoom = true
  hasTime : ∀ index, (answers.entry index).hasTime = true
  opens : ∀ index, (answers.entry index).opens = true
  reads : ∀ index, (answers.entry index).reads ≠ none
  writes : ∀ index call, (answers.entry index).writes call = true
  closes : ∀ index, (answers.entry index).closes = true
  closesArchive : answers.closesArchive = true

namespace FilePath

open ListedTree

/-- A name that an entry of a directory can have. -/
def IsEntryName (name : ByteString) : Prop :=
  name ≠ [] ∧ kSeparator ∉ name ∧ IsPlain kDot name

/-- Three separators, which a name behind them makes the root of two. -/
def IsTripleRoot (filePath : FilePath) : Prop :=
  filePath.path = List.replicate 3 kSeparator

/-- The path of an item below a path. -/
def below (filePath : FilePath) (item : List ByteString) : FilePath where
  path := pathBelow filePath.path item

variable {filePath : FilePath} {item : List ByteString}

theorem names_below (isName : ∀ name ∈ item, IsEntryName name) :
    (filePath.below item).names = filePath.names ++ item :=
  names_pathBelow isName filePath.path

theorem isAbsolute_below (present : filePath.path ≠ []) :
    (filePath.below item).isAbsolute = filePath.isAbsolute := by
  unfold isAbsolute below
  rw [head?_pathBelow present]

theorem getComponents_reverse (notDot : ¬filePath.IsDotDirectory) :
    filePath.getComponents.reverse =
      (if filePath.isAbsolute then [filePath.root] else []) ++ filePath.parts := by
  have finds : filePath.FindsComponents := findsComponents_of_not notDot
  rw [finds, List.reverse_append, List.reverse_reverse]
  split
  · rfl
  · rfl

theorem not_isDotDirectory_below (someNames : item ≠ [])
    (isName : ∀ name ∈ item, IsEntryName name) :
    ¬(filePath.below item).IsDotDirectory := by
  intro isDot
  have only := names_of_isDotDirectory isDot
  rw [names_below isName] at only
  have last := List.getLast_mem someNames
  have lastIs := congrArg List.getLast? only
  rw [List.getLast?_append_of_ne_nil _ someNames,
    List.getLast?_eq_some_getLast someNames] at lastIs
  have isPlain := (isName _ last).2.2.1
  exact isPlain (Option.some.inj lastIs)

theorem parts_below (present : filePath.path ≠ [])
    (isName : ∀ name ∈ item, IsEntryName name) :
    (filePath.below item).parts = filePath.parts ++ item := by
  have sameStart := @isAbsolute_below filePath item present
  have names := @names_below filePath item isName
  cases absolute : filePath.isAbsolute with
  | true =>
      rw [parts_of_absolute absolute, parts_of_absolute (sameStart.trans absolute),
        names]
  | false =>
      obtain ⟨first, rest, some⟩ : ∃ first rest, filePath.names = first :: rest := by
        apply List.exists_cons_of_ne_nil
        intro none
        obtain ⟨character, others, split⟩ := List.exists_cons_of_ne_nil present
        unfold FilePath.names at none
        rw [names_eq_nil_iff, split, List.forall_mem_cons] at none
        rw [isAbsolute, split, none.1] at absolute
        cases absolute
      rw [some, List.cons_append] at names
      rw [parts_of_relative absolute some,
        parts_of_relative (sameStart.trans absolute) names]
      split
      · rfl
      · rfl

/-- Of separators only, three become the root of two when a name is behind them. -/
theorem root_below_of_separators {count : Nat}
    (all : filePath.path = List.replicate (count + 1) kSeparator)
    (someNames : item ≠ []) (isName : ∀ name ∈ item, IsEntryName name) :
    (filePath.below item).root =
      if count = 1 ∨ count = 2 then [kSeparator, kSeparator] else [kSeparator] := by
  have ends : endsWith filePath.path separatorText = true := by
    apply List.isSuffixOf_iff_suffix.mpr
    rw [all, List.replicate_succ']
    exact List.suffix_append _ _
  have path : (filePath.below item).path =
      filePath.path ++ separatorText.intercalate item := by
    have separated := pathBelow_eq someNames isName filePath.path
    rw [includeTrailingPathDelimiter, if_pos ends] at separated
    exact separated
  have named : (filePath.below item).names ≠ [] := by
    rw [names_below isName]
    simp [someNames]
  obtain ⟨name, rest, rfl⟩ := List.exists_cons_of_ne_nil someNames
  obtain ⟨nonempty, plain, -⟩ := isName name List.mem_cons_self
  have starts : ∃ other, separatorText.intercalate (name :: rest) = name ++ other := by
    cases rest with
    | nil => exact ⟨[], by simp⟩
    | cons next rest =>
        rw [List.intercalate_cons_cons, List.append_assoc]
        exact ⟨_, rfl⟩
  obtain ⟨other, starts⟩ := starts
  unfold root
  rw [path, all, starts, leading_replicate nonempty plain]
  have sizes : (count + 1 = 2 ∨ count + 1 = 3) ↔ (count = 1 ∨ count = 2) := by
    omega
  simp only [ne_eq, named, not_false_eq_true, and_true, sizes]

theorem root_below (present : filePath.path ≠ []) (someNames : item ≠ [])
    (isName : ∀ name ∈ item, IsEntryName name)
    (notTriple : ¬filePath.IsTripleRoot) :
    (filePath.below item).root = filePath.root := by
  have path : (filePath.below item).path =
      includeTrailingPathDelimiter filePath.path ++ separatorText.intercalate item :=
    pathBelow_eq someNames isName filePath.path
  have named : (filePath.below item).names ≠ [] := by
    rw [names_below isName]
    simp [someNames]
  by_cases none : filePath.names = []
  · obtain ⟨count, all⟩ : ∃ count,
        filePath.path = List.replicate (count + 1) kSeparator := by
      obtain ⟨character, others, split⟩ := List.exists_cons_of_ne_nil present
      refine ⟨others.length, List.eq_replicate_iff.mpr ⟨?_, ?_⟩⟩
      · rw [split, List.length_cons]
      · exact fun character => names_eq_nil_iff.mp none character
    have notTwo : count ≠ 2 := by
      rintro rfl
      exact notTriple all
    rw [root_below_of_separators all someNames isName, root_of_separators all]
    simp only [notTwo, or_false]
  · have longer : ∃ other, (filePath.below item).path = filePath.path ++ other := by
      rw [path]
      unfold includeTrailingPathDelimiter
      split
      · exact ⟨_, rfl⟩
      · exact ⟨_, List.append_assoc _ _ _⟩
    obtain ⟨other, extended⟩ := longer
    unfold root
    rw [extended, leading_append none]
    simp only [ne_eq, named, none, not_false_eq_true, and_true]

theorem getComponents_ne_nil (present : filePath.path ≠ [])
    (notCurrent : filePath.path ≠ kCurrentDirectory)
    (notDot : ¬filePath.IsDotDirectory) : filePath.getComponents ≠ [] := by
  intro none
  have reversed := getComponents_reverse notDot
  rw [none, List.reverse_nil, eq_comm, List.append_eq_nil_iff] at reversed
  obtain ⟨noRoot, noParts⟩ := reversed
  cases absolute : filePath.isAbsolute with
  | true =>
      rw [absolute] at noRoot
      cases noRoot
  | false =>
      cases named : filePath.names with
      | nil =>
          obtain ⟨character, others, split⟩ := List.exists_cons_of_ne_nil present
          unfold FilePath.names at named
          rw [names_eq_nil_iff, split, List.forall_mem_cons] at named
          rw [isAbsolute, split, named.1] at absolute
          cases absolute
      | cons first rest =>
          rw [parts_of_relative absolute named] at noParts
          split at noParts
          · next current =>
              rw [current, noParts] at named
              rcases eq_or_isDotDirectory (strip_of_names_eq absolute named) with
                isCurrent | isDot
              · exact notCurrent isCurrent
              · exact notDot isDot
          · cases noParts

/-- The components of a path are in front of those of its items. -/
theorem isBelow_below (present : filePath.path ≠ []) (someNames : item ≠ [])
    (isName : ∀ name ∈ item, IsEntryName name)
    (notCurrent : filePath.path ≠ kCurrentDirectory)
    (notDot : ¬filePath.IsDotDirectory) (notTriple : ¬filePath.IsTripleRoot) :
    filePath.IsBelow (filePath.below item) item := by
  refine ⟨getComponents_ne_nil present notCurrent notDot, someNames, ?_⟩
  rw [getComponents_reverse notDot,
    getComponents_reverse (not_isDotDirectory_below someNames isName),
    isAbsolute_below present, parts_below present isName,
    root_below present someNames isName notTriple, List.append_assoc]

/-- Of the current directory with separators behind it and of three separators they
are not. -/
theorem not_isBelow_below (someNames : item ≠ [])
    (isName : ∀ name ∈ item, IsEntryName name)
    (lost : filePath.IsDotDirectory ∨ filePath.IsTripleRoot)
    (rest : List ByteString) : ¬filePath.IsBelow (filePath.below item) rest := by
  rintro ⟨-, -, all⟩
  have childNotDot := @not_isDotDirectory_below filePath item someNames isName
  rw [getComponents_reverse childNotDot] at all
  rcases lost with isDot | triple
  · obtain ⟨found, none, relative⟩ := getComponents_of_isDotDirectory isDot
    have present : filePath.path ≠ [] := by
      obtain ⟨count, split⟩ := isDot
      rw [split]
      simp [kCurrentDirectory]
    rw [found, isAbsolute_below present, relative, parts_below present isName,
      none] at all
    simp only [Bool.false_eq_true, if_false, List.nil_append, List.reverse_singleton,
      List.singleton_append] at all
    have isPlain := (isName kCurrentDirectory (by rw [all]; simp)).2.2.1
    exact isPlain rfl
  · have root := root_below_of_separators triple someNames isName
    obtain ⟨path⟩ := filePath
    obtain rfl : path = List.replicate 3 kSeparator := triple
    have found : getComponents { path := List.replicate 3 kSeparator } =
        [[kSeparator]] := by
      decide
    have absolute : isAbsolute { path := List.replicate 3 kSeparator } = true := rfl
    rw [found, isAbsolute_below (by simp), absolute, root] at all
    exact absurd (List.cons.inj all).1 (by decide)

end FilePath

namespace Zip

variable {listed : ListedTree} {srcDir destFile : FilePath}
  {includeHiddenFiles : Bool} {place : Place UInt8}

/-- An item as an entry of a directory. -/
def itemEntry (listed : ListedTree) (srcDir : FilePath) (place : Place UInt8)
    (item : List ByteString) : DirectoryContentEntry where
  path := { path := ListedTree.pathBelow srcDir.path item }
  isDirectory := listed.tree.kind (item.reverse ++ place) = some .directory

/-- The paths below which nothing is listed. -/
def IsSpecial (srcDir : FilePath) : Prop :=
  srcDir.path = kCurrentDirectory ∨ srcDir.path = kParentDirectory

theorem subEntries_of_directory (leads : listed.resolve srcDir.path = some place)
    (directory : listed.tree.kind place = some .directory)
    (ordinary : ¬IsSpecial srcDir) :
    subEntries listed.sourceFiles { path := srcDir, isDirectory := true } =
      (listed.itemsBelow place).map (itemEntry listed srcDir place) := by
  have present := ListedTree.resolve_ne_nil leads
  unfold subEntries listDirectoryContent
  rw [if_pos rfl, ListedTree.getZipAllDirFiles_eq leads directory
    (not_or.mp ordinary)]
  dsimp only
  have named : ((listed.itemsBelow place).map
      (ListedTree.pathBelow srcDir.path)).filter (· ≠ []) =
        (listed.itemsBelow place).map (ListedTree.pathBelow srcDir.path) := by
    rw [List.filter_eq_self]
    intro path member
    obtain ⟨item, -, rfl⟩ := List.mem_map.mp member
    exact decide_eq_true (ListedTree.pathBelow_ne_nil present item)
  rw [named, List.map_map]
  apply List.map_congr_left
  intro item member
  have isItem := ListedTree.mem_itemsBelow.mp member
  have stat := ListedTree.stat_pathBelow isItem.1 leads directory
    (ListedTree.kind_of_isItem isItem)
  unfold itemEntry
  simp only [Function.comp_apply, SourceFiles.directoryExists,
    ListedTree.sourceFiles, stat]

/-- Nothing is found below an item. -/
theorem subEntries_itemEntry {item : List ByteString}
    (leads : listed.resolve srcDir.path = some place)
    (directory : listed.tree.kind place = some .directory)
    (isItem : listed.IsItem place item) :
    subEntries listed.sourceFiles (itemEntry listed srcDir place item) = [] := by
  rcases isItem.2 with file | ⟨isDirectory, empty⟩
  · have noDirectory : (itemEntry listed srcDir place item).isDirectory = false := by
      simp [itemEntry, file]
    unfold subEntries
    rw [noDirectory]
    rfl
  · have present := ListedTree.kind_of_isItem isItem
    have ordinary : ¬IsSpecial
        { path := ListedTree.pathBelow srcDir.path item } := by
      unfold IsSpecial
      rw [ListedTree.pathBelow_eq isItem.1 (ListedTree.isName_of_kind present)]
      exact (not_or.mp (ListedTree.child_ordinary _ _)).2
    have below := subEntries_of_directory
      (ListedTree.resolve_pathBelow leads directory present) isDirectory ordinary
    rw [ListedTree.itemsBelow_eq_nil_iff.mpr empty] at below
    simpa [itemEntry, isDirectory] using below

/-- What is added for an entry that leads to no others. -/
def entryFile (params : ZipParams) (entry : DirectoryContentEntry) :
    Option FilePath :=
  if isSkipped params entry.path then none
  else
    match params.srcDir.appendRelativePath entry.path (some {}) with
    | (true, some relativePath) => some relativePath
    | _ => none

theorem zipLoop_of_leaves {files : SourceFiles} {params : ZipParams}
    {entries : List DirectoryContentEntry}
    (leaves : ∀ entry ∈ entries, subEntries files entry = [])
    (allRelativeFiles : List FilePath) :
    zipLoop files params false entries allRelativeFiles =
      allRelativeFiles ++ entries.filterMap (entryFile params) := by
  induction entries generalizing allRelativeFiles with
  | nil => rw [zipLoop, List.filterMap_nil, List.append_nil]
  | cons entry entries ih =>
      obtain ⟨leaf, others⟩ := List.forall_mem_cons.mp leaves
      rw [zipLoop]
      simp only [Bool.not_false, Bool.true_and, Bool.false_eq_true, if_false]
      by_cases skipped : isSkipped params entry.path = true
      · have none : entryFile params entry = none := if_pos skipped
        rw [if_pos skipped, ih others, List.filterMap_cons_none none]
      · rw [if_neg skipped, leaf, List.append_nil, ih others, List.filterMap_cons]
        unfold entryFile
        rw [if_neg skipped]
        cases params.srcDir.appendRelativePath entry.path (some {}) with
        | mk isParent relativePath =>
            cases isParent with
            | false => rfl
            | true =>
                cases relativePath with
                | none => rfl
                | some relativePath => simp

/-- Nothing of what is below these paths gets an entry. -/
def LosesFiles (srcDir : FilePath) : Prop :=
  IsSpecial srcDir ∨ srcDir.IsDotDirectory ∨ srcDir.IsTripleRoot

/-- What is below a path gets entries. -/
def Passes (srcDir : FilePath) (includeHiddenFiles : Bool) : Prop :=
  ¬LosesFiles srcDir ∧ (includeHiddenFiles = true ∨ isHiddenFile srcDir = false)

theorem isSkipped_taskParams (path : FilePath) :
    isSkipped (taskParams srcDir destFile includeHiddenFiles) path =
      (!includeHiddenFiles && isHiddenFile path) := by
  cases includeHiddenFiles with
  | true => rfl
  | false => simp [isSkipped, taskParams, excludeHiddenFilesFilter]

theorem isHiddenFile_below (present : srcDir.path ≠ []) (item : List ByteString) :
    isHiddenFile (srcDir.below item) = isHiddenFile srcDir := by
  unfold isHiddenFile FilePath.below
  rw [ListedTree.head?_pathBelow present]

/-- The relative path of an item. -/
def itemPath (item : List ByteString) : FilePath where
  path := separatorText.intercalate item

theorem entryFile_itemEntry (present : srcDir.path ≠ []) (item : List ByteString) :
    entryFile (taskParams srcDir destFile includeHiddenFiles)
        (itemEntry listed srcDir place item) =
      if (!includeHiddenFiles && isHiddenFile srcDir) = true then none
      else
        match srcDir.appendRelativePath (srcDir.below item) (some {}) with
        | (true, some relativePath) => some relativePath
        | _ => none := by
  unfold entryFile
  rw [isSkipped_taskParams]
  have hidden : isHiddenFile (itemEntry listed srcDir place item).path =
      isHiddenFile srcDir :=
    isHiddenFile_below present item
  rw [hidden]
  rfl

theorem entryFile_of_passes {item : List ByteString}
    (present : srcDir.path ≠ []) (someNames : item ≠ [])
    (isName : ∀ name ∈ item, IsEntryName name)
    (passes : Passes srcDir includeHiddenFiles) :
    entryFile (taskParams srcDir destFile includeHiddenFiles)
        (itemEntry listed srcDir place item) = some (itemPath item) := by
  obtain ⟨finds, visible⟩ := passes
  simp only [LosesFiles, IsSpecial, not_or] at finds
  have isBelow := isBelow_below present someNames isName finds.1.1 finds.2.1 finds.2.2
  have kept : ¬(!includeHiddenFiles && isHiddenFile srcDir) = true := by
    rcases visible with all | visible
    · simp [all]
    · simp [visible]
  rw [entryFile_itemEntry present, if_neg kept, appendRelativePath_of_isBelow isBelow]
  rfl

theorem entryFile_of_not_passes {item : List ByteString}
    (present : srcDir.path ≠ []) (someNames : item ≠ [])
    (isName : ∀ name ∈ item, IsEntryName name) (ordinary : ¬IsSpecial srcDir)
    (fails : ¬Passes srcDir includeHiddenFiles) :
    entryFile (taskParams srcDir destFile includeHiddenFiles)
        (itemEntry listed srcDir place item) = none := by
  rw [entryFile_itemEntry present]
  split
  · rfl
  · next kept =>
      have visible : includeHiddenFiles = true ∨ isHiddenFile srcDir = false := by
        cases includeHiddenFiles with
        | true => exact .inl rfl
        | false => simpa using kept
      have lost : srcDir.IsDotDirectory ∨ srcDir.IsTripleRoot := by
        by_contra finds
        exact fails ⟨not_or.mpr ⟨ordinary, finds⟩, visible⟩
      cases parent : srcDir.appendRelativePath (srcDir.below item) (some {}) with
      | mk isParent relativePath =>
          cases isParent with
          | false => rfl
          | true =>
              obtain ⟨rest, isBelow⟩ := @exists_isBelow srcDir (srcDir.below item)
                (some {}) (by rw [parent])
              exact absurd isBelow (not_isBelow_below someNames isName lost rest)

section Contents

theorem stat_of_directory (leads : listed.resolve srcDir.path = some place)
    (directory : listed.tree.kind place = some .directory) :
    listed.stat srcDir.path = some .directory := by
  unfold ListedTree.stat
  rw [leads]
  simp [directory]

theorem filePathEndIsSeparator_eq
    (leads : listed.resolve srcDir.path = some place)
    (directory : listed.tree.kind place = some .directory) :
    filePathEndIsSeparator listed.sourceFiles srcDir =
      { path := includeTrailingPathDelimiter srcDir.path } := by
  have isDir : listed.sourceFiles.isDir srcDir = true := by
    unfold SourceFiles.isDir
    split
    · rfl
    · exact decide_eq_true (stat_of_directory leads directory)
  unfold filePathEndIsSeparator includeTrailingPathDelimiter
  rw [isDir]
  cases ends : endsWith srcDir.path separatorText with
  | true => rfl
  | false => rfl

theorem endsWith_includeTrailing (path : ByteString) :
    endsWith (includeTrailingPathDelimiter path) separatorText = true := by
  unfold includeTrailingPathDelimiter
  split
  · assumption
  · exact List.isSuffixOf_iff_suffix.mpr (List.suffix_append _ _)

/-- The entries of a directory are found by going through what is listed below
it. -/
theorem taskFiles_eq_zipLoop (leads : listed.resolve srcDir.path = some place)
    (directory : listed.tree.kind place = some .directory) :
    taskFiles listed.sourceFiles srcDir includeHiddenFiles =
      zipLoop listed.sourceFiles (taskParams srcDir {} includeHiddenFiles) false
        (subEntries listed.sourceFiles { path := srcDir, isDirectory := true }) [] := by
  have ends : endsWith (filePathEndIsSeparator listed.sourceFiles srcDir).path
      separatorText = true := by
    rw [filePathEndIsSeparator_eq leads directory]
    exact endsWith_includeTrailing srcDir.path
  have noFiles : ¬(taskParams srcDir {} includeHiddenFiles).srcFiles ≠ [] :=
    not_not.mpr rfl
  unfold taskFiles filesToAdd
  dsimp only
  rw [if_neg noFiles]
  have sameDir : (taskParams srcDir {} includeHiddenFiles).srcDir = srcDir := rfl
  rw [sameDir, if_pos ends, zipLoop]
  rfl

/-- The items lead to nothing more. -/
theorem zipLoop_of_items {params : ZipParams}
    (leads : listed.resolve srcDir.path = some place)
    (directory : listed.tree.kind place = some .directory)
    (ordinary : ¬IsSpecial srcDir) :
    zipLoop listed.sourceFiles params false
        (subEntries listed.sourceFiles { path := srcDir, isDirectory := true }) [] =
      (listed.itemsBelow place).filterMap fun item =>
        entryFile params (itemEntry listed srcDir place item) := by
  have leaves : ∀ entry ∈ (listed.itemsBelow place).map
      (itemEntry listed srcDir place), subEntries listed.sourceFiles entry = [] := by
    intro entry member
    obtain ⟨item, inItems, rfl⟩ := List.mem_map.mp member
    exact subEntries_itemEntry leads directory (ListedTree.mem_itemsBelow.mp inItems)
  rw [subEntries_of_directory leads directory ordinary, zipLoop_of_leaves leaves,
    List.nil_append, List.filterMap_map]
  rfl

theorem taskFiles_of_passes (leads : listed.resolve srcDir.path = some place)
    (directory : listed.tree.kind place = some .directory)
    (passes : Passes srcDir includeHiddenFiles) :
    taskFiles listed.sourceFiles srcDir includeHiddenFiles =
      (listed.itemsBelow place).map itemPath := by
  have present := ListedTree.resolve_ne_nil leads
  rw [taskFiles_eq_zipLoop leads directory,
    zipLoop_of_items leads directory (not_or.mp passes.1).1,
    ← List.filterMap_eq_map]
  apply List.filterMap_congr
  intro item member
  have isItem := ListedTree.mem_itemsBelow.mp member
  exact entryFile_of_passes present isItem.1
    (ListedTree.isName_of_kind (ListedTree.kind_of_isItem isItem)) passes

theorem taskFiles_of_not_passes (leads : listed.resolve srcDir.path = some place)
    (directory : listed.tree.kind place = some .directory)
    (fails : ¬Passes srcDir includeHiddenFiles) :
    taskFiles listed.sourceFiles srcDir includeHiddenFiles = [] := by
  have present := ListedTree.resolve_ne_nil leads
  rw [taskFiles_eq_zipLoop leads directory]
  by_cases special : IsSpecial srcDir
  · have nothing : subEntries listed.sourceFiles
        { path := srcDir, isDirectory := true } = [] := by
      unfold subEntries listDirectoryContent
      rw [if_pos rfl, SourceFiles.getZipAllDirFiles_of_special (.inr special)]
      rfl
    rw [nothing, zipLoop]
  · rw [zipLoop_of_items leads directory special, List.filterMap_eq_nil_iff]
    intro item member
    have isItem := ListedTree.mem_itemsBelow.mp member
    exact entryFile_of_not_passes present isItem.1
      (ListedTree.isName_of_kind (ListedTree.kind_of_isItem isItem)) special fails

theorem absolutePath_itemPath {item : List ByteString}
    (leads : listed.resolve srcDir.path = some place)
    (directory : listed.tree.kind place = some .directory)
    (isItem : listed.IsItem place item) :
    ZipWriter.absolutePath listed.sourceFiles
        (filePathEndIsSeparator listed.sourceFiles srcDir) (itemPath item) =
      srcDir.below item := by
  have present := ListedTree.resolve_ne_nil leads
  have isName := ListedTree.isName_of_kind (ListedTree.kind_of_isItem isItem)
  have rootLeads : listed.resolve (includeTrailingPathDelimiter srcDir.path) =
      some place := by
    rw [ListedTree.resolve_includeTrailing present]
    exact leads
  have rootIs := @stat_of_directory listed
    { path := includeTrailingPathDelimiter srcDir.path } place rootLeads directory
  have isDir : listed.sourceFiles.isDir
      { path := includeTrailingPathDelimiter srcDir.path } = true := by
    unfold SourceFiles.isDir
    split
    · rfl
    · exact decide_eq_true rootIs
  unfold ZipWriter.absolutePath FilePath.below
  rw [filePathEndIsSeparator_eq leads directory, if_pos isDir,
    ListedTree.pathBelow_eq isItem.1 isName]
  rfl

theorem isFile_itemPath {item : List ByteString}
    (leads : listed.resolve srcDir.path = some place)
    (directory : listed.tree.kind place = some .directory)
    (isItem : listed.IsItem place item) :
    ZipWriter.isFile listed.sourceFiles
        (filePathEndIsSeparator listed.sourceFiles srcDir) (itemPath item) = true ↔
      listed.tree.kind (item.reverse ++ place) = some .file := by
  have whole := ListedTree.kind_of_isItem isItem
  have stat := ListedTree.stat_pathBelow isItem.1 leads directory whole
  have ordinary : ¬((srcDir.below item).path = [] ∨
      (srcDir.below item).path = kCurrentDirectory ∨
        (srcDir.below item).path = kParentDirectory) := by
    unfold FilePath.below
    rw [ListedTree.pathBelow_eq isItem.1 (ListedTree.isName_of_kind whole)]
    exact ListedTree.child_ordinary _ _
  unfold ZipWriter.isFile
  rw [absolutePath_itemPath leads directory isItem]
  unfold SourceFiles.isDir SourceFiles.pathIsValid
  dsimp only
  rw [if_neg ordinary]
  unfold FilePath.below ListedTree.sourceFiles
  dsimp only
  rcases isItem.2 with file | ⟨isDirectory, -⟩
  · rw [file] at stat
    simp [stat, file]
  · rw [isDirectory] at stat
    simp [stat, isDirectory]

/-- Then all that can keep an entry out is a character in the path of its file. -/
theorem adds_iff_of_succeeds {files : SourceFiles} {answers : ZipAnswers}
    (succeeds : answers.Succeeds) (index : Nat) (rootDir relativePath : FilePath) :
    ZipWriter.Adds files (answers.entry index) rootDir relativePath ↔
      (ZipWriter.isFile files rootDir relativePath = true →
        filePathCheckValid
          (ZipWriter.absolutePath files rootDir relativePath).path = true) := by
  constructor
  · rintro ⟨-, -, file⟩ isFile
    exact (file isFile).2.1
  · intro valid
    obtain ⟨reads, opened⟩ := Option.ne_none_iff_exists'.mp (succeeds.reads index)
    exact ⟨succeeds.opens index, succeeds.closes index, fun isFile =>
      ⟨succeeds.hasTime index, valid isFile, reads, opened,
        fun call _ => succeeds.writes index call⟩⟩

/-- The path of every file among the items has only characters that the library
takes. -/
def PathsAreTaken (listed : ListedTree) (srcDir : FilePath) (place : Place UInt8)
    (items : List (List ByteString)) : Prop :=
  ∀ item ∈ items, listed.tree.kind (item.reverse ++ place) = some .file →
    filePathCheckValid (srcDir.below item).path = true

variable {answers : ZipAnswers}

theorem addsAll_itemPath_iff (succeeds : answers.Succeeds)
    (leads : listed.resolve srcDir.path = some place)
    (directory : listed.tree.kind place = some .directory)
    {items : List (List ByteString)}
    (areItems : ∀ item ∈ items, listed.IsItem place item) (begun : Nat) :
    ZipWriter.AddsAll listed.sourceFiles answers
        (filePathEndIsSeparator listed.sourceFiles srcDir) begun
        (items.map itemPath) ↔
      PathsAreTaken listed srcDir place items := by
  induction items generalizing begun with
  | nil => simp [ZipWriter.AddsAll, PathsAreTaken]
  | cons item items ih =>
      obtain ⟨isItem, others⟩ := List.forall_mem_cons.mp areItems
      rw [List.map_cons, ZipWriter.AddsAll, adds_iff_of_succeeds succeeds,
        isFile_itemPath leads directory isItem,
        absolutePath_itemPath leads directory isItem, ih others]
      unfold PathsAreTaken
      rw [List.forall_mem_cons]

/-- The name of an item in the archive: a directory has a separator behind it. -/
def itemName (listed : ListedTree) (place : Place UInt8) (item : List ByteString) :
    ByteString :=
  separatorText.intercalate item ++
    if listed.tree.kind (item.reverse ++ place) = some .directory then separatorText
    else []

theorem archivedEntries_names (leads : listed.resolve srcDir.path = some place)
    (directory : listed.tree.kind place = some .directory)
    {items : List (List ByteString)}
    (areItems : ∀ item ∈ items, listed.IsItem place item) (begun : Nat) :
    (ZipWriter.archivedEntries listed.sourceFiles answers
        (filePathEndIsSeparator listed.sourceFiles srcDir) begun
        (items.map itemPath)).map (·.name) =
      items.map (itemName listed place) := by
  induction items generalizing begun with
  | nil => rfl
  | cons item items ih =>
      obtain ⟨isItem, others⟩ := List.forall_mem_cons.mp areItems
      have isFile := isFile_itemPath leads directory isItem
      rw [List.map_cons, ZipWriter.archivedEntries, List.map_cons, ih others,
        List.map_cons]
      congr 1
      unfold ZipWriter.archivedEntry itemName
      rcases isItem.2 with file | ⟨isDirectory, -⟩
      · rw [if_pos (isFile.mpr file), file]
        simp [itemPath]
      · have noFile : ¬ZipWriter.isFile listed.sourceFiles
            (filePathEndIsSeparator listed.sourceFiles srcDir) (itemPath item) =
              true := by
          rw [isFile, isDirectory]
          simp
        rw [if_neg noFile, isDirectory, if_pos rfl]
        rfl

/-- An item that is to be in the archive: with hidden files left out, none of its
names begins with a dot. -/
def IsExpected (listed : ListedTree) (place : Place UInt8)
    (includeHiddenFiles : Bool) (item : List ByteString) : Prop :=
  listed.IsItem place item ∧
    (includeHiddenFiles = true ∨ ∀ name ∈ item, name.head? ≠ some kDot)

/-- The archive is closed and has one entry for every item that is to be in it. -/
def HasExactly (listed : ListedTree) (place : Place UInt8)
    (includeHiddenFiles : Bool) (output : ZipOutput) : Prop :=
  output.isClosed = true ∧
    ∃ items : List (List ByteString), items.Nodup ∧
      (∀ item, item ∈ items ↔ IsExpected listed place includeHiddenFiles item) ∧
      output.entries.map (·.name) = items.map (itemName listed place)

theorem zipByParams_of_succeeds (succeeds : answers.Succeeds) {files : SourceFiles}
    (named : destFile.path ≠ []) :
    zipByParams files answers (taskParams srcDir destFile includeHiddenFiles) =
      ZipWriter.writeEntries files answers
        (taskFiles files srcDir includeHiddenFiles)
        { rootDir := filePathEndIsSeparator files srcDir } {} := by
  rw [zipByParams_eq named, succeeds.opensArchive, succeeds.hasRoom]
  rfl

/-- When the items get entries, all of them do. -/
theorem hasExactly_of_passes_iff (succeeds : answers.Succeeds)
    (named : destFile.path ≠ [])
    (leads : listed.resolve srcDir.path = some place)
    (directory : listed.tree.kind place = some .directory)
    (passes : Passes srcDir includeHiddenFiles) :
    HasExactly listed place includeHiddenFiles
        (zipByParams listed.sourceFiles answers
          (taskParams srcDir destFile includeHiddenFiles)).2 ↔
      (∀ item, listed.IsItem place item →
          IsExpected listed place includeHiddenFiles item) ∧
        PathsAreTaken listed srcDir place (listed.itemsBelow place) := by
  have areItems : ∀ item ∈ listed.itemsBelow place, listed.IsItem place item :=
    fun item member => ListedTree.mem_itemsBelow.mp member
  have added := addsAll_itemPath_iff succeeds leads directory areItems 0
  rw [zipByParams_of_succeeds succeeds named,
    taskFiles_of_passes leads directory passes]
  by_cases taken : PathsAreTaken listed srcDir place (listed.itemsBelow place)
  · obtain ⟨entries, isClosed⟩ := ZipWriter.writeEntries_of_addsAll (added.mpr taken)
    have names := @archivedEntries_names listed srcDir place answers leads directory
      _ areItems 0
    simp only [HasExactly, isClosed, succeeds.closesArchive, true_and, entries, names,
      taken, and_true]
    constructor
    · rintro ⟨items, nodup, complete, sameNames⟩ item isItem
      have inside : items ⊆ listed.itemsBelow place := by
        intro item member
        exact ListedTree.mem_itemsBelow.mpr ((complete item).mp member).1
      have length := congrArg List.length sameNames
      rw [List.length_map, List.length_map] at length
      have perm := (nodup.subperm inside).perm_of_length_le length.le
      exact (complete item).mp (perm.mem_iff.mpr (ListedTree.mem_itemsBelow.mpr isItem))
    · intro all
      refine ⟨listed.itemsBelow place, ListedTree.nodup_itemsBelow place, ?_, rfl⟩
      intro item
      rw [ListedTree.mem_itemsBelow]
      exact ⟨all item, fun expected => expected.1⟩
  · have notClosed := ZipWriter.writeEntries_of_not_addsAll
      (fun adds => taken (added.mp adds))
    refine iff_of_false ?_ fun both => taken both.2
    rintro ⟨isClosed, -⟩
    rw [notClosed] at isClosed
    cases isClosed

/-- When the items do not get entries, none of them does. -/
theorem hasExactly_of_not_passes_iff (succeeds : answers.Succeeds)
    (named : destFile.path ≠ [])
    (leads : listed.resolve srcDir.path = some place)
    (directory : listed.tree.kind place = some .directory)
    (fails : ¬Passes srcDir includeHiddenFiles) :
    HasExactly listed place includeHiddenFiles
        (zipByParams listed.sourceFiles answers
          (taskParams srcDir destFile includeHiddenFiles)).2 ↔
      ∀ item, ¬IsExpected listed place includeHiddenFiles item := by
  rw [zipByParams_of_succeeds succeeds named,
    taskFiles_of_not_passes leads directory fails]
  obtain ⟨entries, isClosed⟩ := @ZipWriter.writeEntries_of_addsAll
    listed.sourceFiles answers (filePathEndIsSeparator listed.sourceFiles srcDir) []
    trivial
  simp only [HasExactly, isClosed, succeeds.closesArchive, true_and, entries,
    ZipWriter.archivedEntries, List.map_nil]
  constructor
  · rintro ⟨items, -, complete, noNames⟩ item expected
    have inItems := (complete item).mpr expected
    rw [List.map_eq_nil_iff.mp noNames.symm] at inItems
    cases inItems
  · intro none
    exact ⟨[], List.nodup_nil, fun item => by simp [none item], rfl⟩

/-- The condition on a source, its tree and the wish to have hidden files. -/
def ContentsAreExact (listed : ListedTree) (srcDir : FilePath)
    (place : Place UInt8) (includeHiddenFiles : Bool) : Prop :=
  (Passes srcDir includeHiddenFiles →
      (∀ item, listed.IsItem place item →
        IsExpected listed place includeHiddenFiles item) ∧
      PathsAreTaken listed srcDir place (listed.itemsBelow place)) ∧
    (¬Passes srcDir includeHiddenFiles →
      ∀ item, ¬IsExpected listed place includeHiddenFiles item)

/-- The archive of a directory has exactly one entry for each item that is to be in it
if and only if all items get entries, and are to get them, and the paths of the files
are taken, or none of them gets one and none is to get one. -/
theorem hasExactly_iff (succeeds : answers.Succeeds) (named : destFile.path ≠ [])
    (leads : listed.resolve srcDir.path = some place)
    (directory : listed.tree.kind place = some .directory) :
    HasExactly listed place includeHiddenFiles
        (zipByParams listed.sourceFiles answers
          (taskParams srcDir destFile includeHiddenFiles)).2 ↔
      ContentsAreExact listed srcDir place includeHiddenFiles := by
  unfold ContentsAreExact
  by_cases passes : Passes srcDir includeHiddenFiles
  · rw [hasExactly_of_passes_iff succeeds named leads directory passes]
    simp only [passes, true_implies, not_true, false_implies, and_true]
  · rw [hasExactly_of_not_passes_iff succeeds named leads directory passes]
    simp only [passes, false_implies, not_false_eq_true, true_implies, true_and]

/-- A root directory with nothing in it but the file `.h`. -/
def hiddenRoot : ListedTree where
  tree :=
    { kind := fun place =>
        if place = [] then some .directory
        else if place = [[kDot, 104]] then some .file
        else none
      root := rfl
      inDirectory := by
        intro name place present
        by_cases inRoot : place = []
        · exact if_pos inRoot
        · simp [inRoot] at present }
  workingDirectory := []
  listing place := if place = [] then [[kDot, 104]] else []
  nodup place := by
    split
    · exact List.nodup_singleton _
    · exact List.nodup_nil
  mem_listing place name := by
    dsimp only
    by_cases inRoot : place = []
    · simp [inRoot]
    · simp [inRoot]
  isName name place present := by
    simp only [List.cons_ne_nil, if_false, ne_eq, ite_eq_right_iff, reduceCtorEq,
      imp_false, not_not, List.cons.injEq] at present
    rw [present.1]
    decide
  depth := 1
  length_le place present := by
    simp only [ne_eq] at present
    split at present
    · next inRoot => simp [inRoot]
    · split at present
      · next isFile => simp [isFile]
      · exact absurd rfl present
  contents _ := []

theorem isItem_hiddenRoot {item : List ByteString} :
    hiddenRoot.IsItem [] item ↔ item = [[kDot, 104]] := by
  unfold ListedTree.IsItem
  rw [List.append_nil]
  have kind : hiddenRoot.tree.kind item.reverse =
      if item.reverse = [] then some .directory
      else if item.reverse = [[kDot, 104]] then some .file
      else none :=
    rfl
  have single : item.reverse = [[kDot, 104]] ↔ item = [[kDot, 104]] := by
    rw [List.reverse_eq_iff]
    rfl
  rw [kind]
  simp only [List.reverse_eq_nil_iff, single]
  by_cases none : item = []
  · simp [none]
  · simp [none]

theorem passes_root (includeHiddenFiles : Bool) :
    Passes { path := [kSeparator] } includeHiddenFiles := by
  refine ⟨?_, .inr (by decide)⟩
  rintro ((isCurrent | isParent) | ⟨count, isDot⟩ | isTriple)
  · exact absurd isCurrent (by decide)
  · exact absurd isParent (by decide)
  · exact absurd (List.cons.inj isDot).1 (by decide)
  · exact absurd (congrArg List.length isTriple) (by decide)

theorem succeeds_default : ZipAnswers.Succeeds {} :=
  ⟨rfl, rfl, fun _ => rfl, fun _ => rfl, fun _ => Option.some_ne_none [],
    fun _ _ => rfl, fun _ => rfl, rfl⟩

theorem hasExactly_hiddenRoot :
    HasExactly hiddenRoot [] true
      (zipByParams hiddenRoot.sourceFiles {}
        (taskParams { path := [kSeparator] } { path := 97 :: zip } true)).2 := by
  apply (hasExactly_iff succeeds_default (by decide) rfl rfl).mpr
  refine ⟨fun _ => ⟨fun item isItem => ⟨isItem, .inl rfl⟩, fun item member _ => ?_⟩,
    fun fails => absurd (passes_root true) fails⟩
  rw [isItem_hiddenRoot.mp (ListedTree.mem_itemsBelow.mp member)]
  decide

/-- The hidden file of the root directory is in an archive without hidden files. -/
theorem not_hasExactly :
    ¬∀ (listed : ListedTree) (srcDir destFile : FilePath) (place : Place UInt8)
      (includeHiddenFiles : Bool) (answers : ZipAnswers),
      answers.Succeeds → destFile.path ≠ [] →
      listed.resolve srcDir.path = some place →
      listed.tree.kind place = some .directory →
        HasExactly listed place includeHiddenFiles
          (zipByParams listed.sourceFiles answers
            (taskParams srcDir destFile includeHiddenFiles)).2 := by
  intro all
  have exactly := all hiddenRoot { path := [kSeparator] } { path := 97 :: zip } []
    false {} succeeds_default (by decide) rfl rfl
  have expected := ((hasExactly_of_passes_iff succeeds_default (by decide) rfl rfl
    (passes_root false)).mp exactly).1 _ (isItem_hiddenRoot.mpr rfl)
  rcases expected.2 with impossible | visible
  · cases impossible
  · exact visible _ List.mem_cons_self rfl

end Contents

end Zip

end AppExecFwk
