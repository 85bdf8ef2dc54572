import AppExecFwk.Archive.ZipFile
import AppExecFwk.Library.DirectoryTree

/-!
# File paths of the zip library

`FilePath` takes a path apart from its end: the directory name is the path up to
the last separator, and the components are the base names of a path, of its
directory name and so on.  What the library makes of an entry's name depends on
these texts alone, so they are connected here with the names of the path.
-/

namespace AppExecFwk

open DirectoryTree

structure FilePath where
  path : ByteString := []
  deriving DecidableEq

namespace FilePath

def kSeparator : UInt8 := 47
def kDot : UInt8 := 46
def kCurrentDirectory : ByteString := [kDot]
def kParentDirectory : ByteString := [kDot, kDot]

/-- The characters that a component of nothing but dots may have besides. -/
def dotsAndBlanks : ByteString := [kDot, 32, 10, 13, 9]

def isSeparator (character : UInt8) : Bool :=
  character = kSeparator

def isAbsolute (filePath : FilePath) : Bool :=
  filePath.path.head?.any isSeparator

/-- The position of the last separator. -/
def findLastSeparator (path : ByteString) : Option Nat :=
  (path.reverse.findIdx? isSeparator).map fun index => path.length - 1 - index

/-- The loop of `StripTrailingSeparatorsInternal`: two separators that make up
the whole path stay. -/
def stripLoop : Nat → ByteString → Option Nat → ByteString
  | 0, path, _ => path
  | pos + 1, path, lastStripped =>
      if pos + 1 > 1 ∧ path[pos]?.any isSeparator then
        if pos + 1 ≠ 2 ∨ lastStripped = some 3 ∨ !path.head?.any isSeparator then
          stripLoop pos (path.take pos) (some (pos + 1))
        else stripLoop pos path lastStripped
      else path

def stripTrailingSeparators (path : ByteString) : ByteString :=
  stripLoop path.length path none

/-- The path up to the last separator. -/
def dirName (filePath : FilePath) : FilePath :=
  let newPath := stripTrailingSeparators filePath.path
  let newPath :=
    match findLastSeparator newPath with
    | none => []
    | some lastSeparator =>
        if lastSeparator = 0 then newPath.take 1
        else if lastSeparator = 1 ∧ newPath.head?.any isSeparator then
          newPath.take 2
        else newPath.take lastSeparator
  let newPath := stripTrailingSeparators newPath
  { path := if newPath = [] then kCurrentDirectory else newPath }

/-- The path behind the last separator. -/
def baseName (filePath : FilePath) : FilePath :=
  let newPath := stripTrailingSeparators filePath.path
  match findLastSeparator newPath with
  | none => { path := newPath }
  | some lastSeparator =>
      if lastSeparator < newPath.length - 1 then
        { path := newPath.drop (lastSeparator + 1) }
      else { path := newPath }

def areAllSeparators (input : ByteString) : Bool :=
  input.all isSeparator

/-- How often a path can be replaced by its directory name. -/
def dirNameFuel (filePath : FilePath) : Nat :=
  filePath.path.length + 2

/-- The loop of `GetComponents`, down to a path that is its own directory
name. -/
def getComponentsLoop : Nat → FilePath → List ByteString → List ByteString × FilePath
  | 0, current, components => (components, current)
  | fuel + 1, current, components =>
      if current ≠ current.dirName then
        let base := current.baseName.path
        getComponentsLoop fuel current.dirName
          (if areAllSeparators base then components else components ++ [base])
      else (components, current)

/-- The components of a path, the last one first. -/
def getComponents (filePath : FilePath) : List ByteString :=
  if filePath.path = [] then []
  else
    let (components, current) :=
      getComponentsLoop filePath.dirNameFuel filePath []
    let base := current.baseName.path
    if base ≠ [] ∧ base ≠ kCurrentDirectory then components ++ [base]
    else components

/-- Whether a component may lead upwards. -/
def referencesParent (filePath : FilePath) : Bool :=
  filePath.getComponents.any fun component =>
    component.all (· ∈ dotsAndBlanks) && decide (kParentDirectory <:+: component)

/-- The path and all its directory names, the path itself first. -/
def subpathsFrom : Nat → FilePath → List FilePath
  | 0, _ => []
  | fuel + 1, lastPath =>
      if lastPath.dirName = lastPath then []
      else lastPath.dirName :: subpathsFrom fuel lastPath.dirName

def subpaths (filePath : FilePath) : List FilePath :=
  filePath :: subpathsFrom filePath.dirNameFuel filePath

/-- `SEPARATOR`. -/
def separatorText : ByteString := [kSeparator]

def startsWith (str searchFor : ByteString) : Bool :=
  searchFor.isPrefixOf str

def endsWith (str searchFor : ByteString) : Bool :=
  searchFor.isSuffixOf str

/-- Put a component behind a path.  An absolute component takes the place of a path
that ends in a separator. -/
def append (filePath : FilePath) (component : ByteString) : FilePath :=
  if component = [] then filePath
  else if filePath.path = [] then { path := component }
  else if endsWith filePath.path separatorText then
    if startsWith component separatorText then { path := component.drop 1 }
    else { path := filePath.path ++ separatorText ++ component }
  else if startsWith component separatorText then
    { path := filePath.path ++ component }
  else { path := filePath.path ++ separatorText ++ component }

/-- The components of a child behind those of its parent; none if it is not below
the parent. -/
def componentsBelow : List ByteString → List ByteString →
    Option (List ByteString)
  | [], childIt => some childIt
  | _ :: _, [] => none
  | parent :: parentIt, child :: childIt =>
      if parent = child then componentsBelow parentIt childIt else none

/-- Whether a path is a parent of another; appends to a path what leads from the
one to the other. -/
def appendRelativePath (filePath child : FilePath) (path : Option FilePath) :
    Bool × Option FilePath :=
  let parentComponents := filePath.getComponents
  let childComponents := child.getComponents
  if parentComponents = [] ∨
      parentComponents.length ≥ childComponents.length then (false, path)
  else
    match componentsBelow parentComponents.reverse childComponents.reverse with
    | none => (false, path)
    | some childIt =>
        let childIt :=
          if childIt.head? = some separatorText then childIt.tail else childIt
        (true, path.map fun path => childIt.foldl append path)

section Lemmas

theorem findLastSeparator_eq_none {path : ByteString} :
    findLastSeparator path = none ↔ kSeparator ∉ path := by
  simp only [findLastSeparator, Option.map_eq_none_iff, List.findIdx?_eq_none_iff,
    List.mem_reverse, isSeparator, decide_eq_false_iff_not]
  constructor
  · intro plain member
    exact plain _ member rfl
  · rintro plain character member rfl
    exact plain member

theorem findLastSeparator_append (start name : ByteString)
    (plain : kSeparator ∉ name) :
    findLastSeparator (start ++ kSeparator :: name) = some start.length := by
  have absent : name.reverse.findIdx? isSeparator = none := by
    have none := findLastSeparator_eq_none.mpr plain
    simpa [findLastSeparator] using none
  unfold findLastSeparator
  rw [List.reverse_append, List.reverse_cons, List.append_assoc,
    List.singleton_append, List.findIdx?_append, absent, List.findIdx?_cons]
  simp [isSeparator]

/-- A path with a separator has a last one. -/
theorem exists_lastSeparator {path : ByteString} (member : kSeparator ∈ path) :
    ∃ start name, path = start ++ kSeparator :: name ∧ kSeparator ∉ name := by
  obtain ⟨name, start, split, plain⟩ :=
    List.eq_append_cons_of_mem (List.mem_reverse.mpr member)
  refine ⟨start.reverse, name.reverse, ?_, by simpa using plain⟩
  rw [← List.reverse_reverse path, split]
  simp

/-- What is left of a path without its trailing separators. -/
def IsStripped (path : ByteString) : Prop :=
  path.length ≤ 1 ∨ path.getLast? ≠ some kSeparator ∨
    path = [kSeparator, kSeparator]

theorem stripLoop_spec (pos : Nat) (path : ByteString) (lastStripped : Option Nat)
    (length : path.length = pos) :
    IsStripped (stripLoop pos path lastStripped) ∧
      (path ≠ [] → stripLoop pos path lastStripped ≠ []) ∧
      ∃ count, path = stripLoop pos path lastStripped ++
        List.replicate count kSeparator := by
  induction pos generalizing path lastStripped with
  | zero =>
      refine ⟨.inl (by simp [stripLoop, length]), fun present => present, 0, ?_⟩
      simp [stripLoop]
  | succ pos ih =>
      obtain ⟨start, last, rfl⟩ : ∃ start last, path = start ++ [last] := by
        rcases List.eq_nil_or_concat path with rfl | ⟨start, last, rfl⟩
        · simp at length
        · exact ⟨start, last, by simp⟩
      have startLength : start.length = pos := by simpa using length
      have atPos : (start ++ [last])[pos]? = some last := by
        simp [← startLength]
      unfold stripLoop
      rw [atPos]
      split
      · next strips =>
          have isLast : last = kSeparator := by
            simpa [isSeparator] using strips.2
          subst isLast
          split
          · next resized =>
              have taken : (start ++ [kSeparator]).take pos = start := by
                simp [← startLength]
              obtain ⟨stripped, nonempty, count, all⟩ :=
                ih start (some (pos + 1)) startLength
              rw [taken]
              refine ⟨stripped, fun _ => nonempty ?_, count + 1, ?_⟩
              · rintro rfl
                simp at startLength
                omega
              · rw [List.replicate_succ', ← List.append_assoc, ← all]
          · next kept =>
              -- Two separators that make up the path stay.
              simp only [not_or, not_not] at kept
              have one : pos = 1 := by omega
              subst one
              obtain ⟨first, rfl⟩ := List.length_eq_one_iff.mp startLength
              have isFirst : first = kSeparator := by
                simpa [isSeparator] using kept.2.2
              subst isFirst
              refine ⟨.inr (.inr ?_), ?_, 0, ?_⟩ <;> simp [stripLoop]
      · next ends =>
          refine ⟨?_, fun present => present, 0, by simp⟩
          by_cases short : pos = 0
          · exact .inl (by simp [startLength, short])
          · refine .inr (.inl ?_)
            intro isLast
            have isLast : last = kSeparator := by simpa using isLast
            exact ends ⟨by omega, by simp [isLast, isSeparator]⟩

theorem stripTrailingSeparators_spec (path : ByteString) :
    IsStripped (stripTrailingSeparators path) ∧
      (path ≠ [] → stripTrailingSeparators path ≠ []) ∧
      ∃ count, path = stripTrailingSeparators path ++
        List.replicate count kSeparator :=
  stripLoop_spec path.length path none rfl

/-- The names that a path leads along. -/
def names (filePath : FilePath) : List ByteString :=
  DirectoryTree.names kSeparator filePath.path

theorem names_strip (path : ByteString) :
    DirectoryTree.names kSeparator (stripTrailingSeparators path) =
      DirectoryTree.names kSeparator path := by
  obtain ⟨-, -, count, all⟩ := stripTrailingSeparators_spec path
  conv_rhs => rw [all]
  rw [names_append_replicate]

/-- A path without separators is in the current directory. -/
theorem dirName_of_plain {filePath : FilePath}
    (plain : kSeparator ∉ stripTrailingSeparators filePath.path) :
    filePath.dirName.path = kCurrentDirectory := by
  unfold dirName
  simp only [findLastSeparator_eq_none.mpr plain]
  rfl

theorem dirName_of_split {filePath : FilePath} {start name : ByteString}
    (split : stripTrailingSeparators filePath.path = start ++ kSeparator :: name)
    (plain : kSeparator ∉ name) :
    filePath.dirName.path =
      if start = [] then [kSeparator]
      else if start = [kSeparator] then [kSeparator, kSeparator]
      else stripTrailingSeparators start := by
  unfold dirName
  simp only [split, findLastSeparator_append start name plain]
  by_cases empty : start = []
  · subst empty
    rfl
  · by_cases root : start = [kSeparator]
    · subst root
      rfl
    · have nonempty := (stripTrailingSeparators_spec start).2.1 empty
      have apart : ¬(start.length = 1 ∧
          (start ++ kSeparator :: name).head?.any isSeparator) := by
        rintro ⟨one, first⟩
        obtain ⟨character, rfl⟩ := List.length_eq_one_iff.mp one
        apply root
        simpa [isSeparator] using first
      simp only [List.length_eq_zero_iff, empty, root, if_false, if_neg apart,
        List.take_left']
      simp [nonempty]

/-- The path is one in front of a separator of another path, or the current
directory in front of a relative one. -/
def IsFrontOf (front filePath : FilePath) : Prop :=
  (front.path = kCurrentDirectory ∧ filePath.isAbsolute = false) ∨
    ∃ rest, filePath.path = front.path ++ rest ∧ front.path ≠ [] ∧
      MeetAtSeparator kSeparator front.path rest

theorem isAbsolute_iff {filePath : FilePath} :
    filePath.isAbsolute = true ↔ filePath.path.head? = some kSeparator := by
  unfold isAbsolute
  cases filePath.path.head? <;> simp [isSeparator]

theorem head?_strip (path : ByteString) :
    (stripTrailingSeparators path).head? = path.head? := by
  obtain ⟨-, nonempty, count, all⟩ := stripTrailingSeparators_spec path
  by_cases empty : path = []
  · subst empty
    rfl
  · conv_rhs => rw [all]
    rw [List.head?_append_of_ne_nil _ (nonempty empty)]

theorem isAbsolute_of_isFrontOf {front filePath : FilePath}
    (isFront : front.IsFrontOf filePath) :
    front.isAbsolute = filePath.isAbsolute := by
  rcases isFront with ⟨current, relative⟩ | ⟨rest, all, nonempty, -⟩
  · rw [relative]
    simp only [isAbsolute, current]
    rfl
  · unfold isAbsolute
    rw [all, List.head?_append_of_ne_nil _ nonempty]

/-- The directory name of a path is in front of it and lacks its last name; a path
of one relative name is in the current directory. -/
theorem dirName_spec (filePath : FilePath) :
    filePath.dirName.IsFrontOf filePath ∧
      ((filePath.dirName.path = kCurrentDirectory ∧
          filePath.isAbsolute = false ∧ filePath.names.length ≤ 1) ∨
        filePath.dirName.path.length ≤ filePath.path.length ∧
          filePath.dirName.names = filePath.names.dropLast) := by
  obtain ⟨stripped, -, count, all⟩ := stripTrailingSeparators_spec filePath.path
  by_cases plain : kSeparator ∈ stripTrailingSeparators filePath.path
  · obtain ⟨start, name, split, plainName⟩ := exists_lastSeparator plain
    have path := dirName_of_split split plainName
    obtain ⟨-, startNonempty, startCount, allStart⟩ :=
      stripTrailingSeparators_spec start
    have startNames : DirectoryTree.names kSeparator filePath.dirName.path =
        DirectoryTree.names kSeparator start := by
      rw [path]
      split_ifs with empty root
      · rw [empty]
        rfl
      · rw [root]
        rfl
      · exact names_strip start
    have allNames : filePath.names =
        DirectoryTree.names kSeparator start ++
          DirectoryTree.names kSeparator name := by
      unfold FilePath.names
      rw [← names_strip, split, names_append_separator]
    refine ⟨.inr ?_, .inr ⟨?_, ?_⟩⟩
    · have whole : filePath.path = start ++ kSeparator ::
          (name ++ List.replicate count kSeparator) := by
        rw [all, split]
        simp
      rw [whole, path]
      split_ifs with empty root
      · subst empty
        exact ⟨_, rfl, by simp, .inr (.inr rfl)⟩
      · subst root
        exact ⟨_, rfl, by simp, .inr (.inr rfl)⟩
      · refine ⟨List.replicate startCount kSeparator ++ kSeparator ::
          (name ++ List.replicate count kSeparator), ?_, startNonempty empty, ?_⟩
        · rw [← List.append_assoc, ← allStart]
        · refine .inr (.inl ?_)
          cases startCount <;> simp [List.replicate_succ]
    · have length : filePath.path.length = start.length + (name.length + 1) + count := by
        rw [all, split]
        simp only [List.length_append, List.length_cons, List.length_replicate]
      have startLength : start.length =
          (stripTrailingSeparators start).length + startCount := by
        conv_lhs => rw [allStart]
        simp
      rw [path, length]
      split_ifs with empty root
      · rw [List.length_singleton]
        omega
      · rw [root]
        simp only [List.length_cons, List.length_nil]
        omega
      · omega
    · unfold FilePath.names at allNames ⊢
      rw [startNames, allNames]
      by_cases empty : name = []
      · -- Only a path of separators ends with one when it is stripped.
        subst empty
        rw [split] at stripped
        have nothing : DirectoryTree.names kSeparator start = [] := by
          rcases stripped with short | last | root
          · have empty : start = [] := by
              simpa using short
            rw [empty]
            rfl
          · simp at last
          · have root : start = [kSeparator] := by
              have same : start ++ [kSeparator] = [kSeparator] ++ [kSeparator] :=
                root
              exact List.append_cancel_right same
            rw [root]
            rfl
        simp [nothing]
      · rw [names_of_notMem plainName empty]
        simp
  · have path := dirName_of_plain plain
    have relative : filePath.isAbsolute = false := by
      rw [Bool.eq_false_iff, ne_eq, isAbsolute_iff, ← head?_strip]
      intro first
      exact plain (List.mem_of_head? first)
    refine ⟨.inl ⟨path, relative⟩, .inl ⟨path, relative, ?_⟩⟩
    unfold FilePath.names
    rw [← names_strip]
    by_cases empty : stripTrailingSeparators filePath.path = []
    · simp [empty]
    · simp [names_of_notMem plain empty]

theorem dirName_current : dirName { path := kCurrentDirectory } =
    { path := kCurrentDirectory } := by
  decide

/-- Of a path that is its own directory name no name but the current directory is
left. -/
theorem names_of_dirName_eq {filePath : FilePath}
    (same : filePath.dirName = filePath) :
    filePath.names = [] ∨ filePath.path = kCurrentDirectory := by
  rcases (dirName_spec filePath).2 with ⟨current, -⟩ | ⟨-, dropped⟩
  · rw [same] at current
    exact .inr current
  · rw [same] at dropped
    refine .inl (List.eq_nil_of_length_eq_zero ?_)
    have length := congrArg List.length dropped
    rw [List.length_dropLast] at length
    omega

theorem IsFrontOf.refl {filePath : FilePath} (nonempty : filePath.path ≠ []) :
    filePath.IsFrontOf filePath :=
  .inr ⟨[], by simp, nonempty, .inl rfl⟩

theorem IsFrontOf.dirName {front filePath : FilePath}
    (isFront : front.IsFrontOf filePath) :
    front.dirName.IsFrontOf filePath := by
  have absolute := isAbsolute_of_isFrontOf isFront
  rcases isFront with ⟨current, relative⟩ | ⟨rest, all, -, meet⟩
  · have same : front = { path := kCurrentDirectory } := by
      cases front
      simpa using current
    rw [same, dirName_current]
    exact .inl ⟨rfl, relative⟩
  · rcases (dirName_spec front).1 with ⟨current, relative⟩ |
      ⟨frontRest, allFront, nonempty, frontMeet⟩
    · exact .inl ⟨current, by rw [← absolute, relative]⟩
    · refine .inr ⟨frontRest ++ rest, by rw [all, allFront, List.append_assoc],
        nonempty, ?_⟩
      rcases frontMeet with rfl | behind | before
      · rw [List.append_nil] at allFront
        rw [← allFront]
        exact meet
      · obtain ⟨others, rfl⟩ := List.head?_eq_some_iff.mp behind
        exact .inr (.inl rfl)
      · exact .inr (.inr before)

theorem isFrontOf_of_mem_subpathsFrom {front last filePath : FilePath} {fuel : Nat}
    (isFront : last.IsFrontOf filePath) (member : front ∈ subpathsFrom fuel last) :
    front.IsFrontOf filePath := by
  induction fuel generalizing last with
  | zero => simp [subpathsFrom] at member
  | succ fuel ih =>
      unfold subpathsFrom at member
      split at member
      · simp at member
      · rcases List.mem_cons.mp member with rfl | inRest
        · exact isFront.dirName
        · exact ih isFront.dirName inRest

section Split

variable {filePath : FilePath} {start name : ByteString}

/-- The names of a path in front of its last name. -/
theorem names_of_inside (nonempty : name ≠ []) (plain : kSeparator ∉ name)
    (strip : stripTrailingSeparators filePath.path =
      start ++ kSeparator :: name) :
    filePath.names = DirectoryTree.names kSeparator start ++ [name] := by
  unfold FilePath.names
  rw [← names_strip, strip, names_append_separator,
    names_of_notMem plain nonempty]

theorem names_of_single (nonempty : name ≠ []) (plain : kSeparator ∉ name)
    (strip : stripTrailingSeparators filePath.path = name) :
    filePath.names = [name] := by
  unfold FilePath.names
  rw [← names_strip, strip, names_of_notMem plain nonempty]

theorem names_dirName_of_inside (plain : kSeparator ∉ name)
    (strip : stripTrailingSeparators filePath.path =
      start ++ kSeparator :: name) :
    filePath.dirName.names = DirectoryTree.names kSeparator start := by
  unfold FilePath.names
  rw [dirName_of_split strip plain]
  split_ifs with empty root
  · rw [empty]
    rfl
  · rw [root]
    rfl
  · exact names_strip start

theorem baseName_of_inside (nonempty : name ≠ []) (plain : kSeparator ∉ name)
    (strip : stripTrailingSeparators filePath.path =
      start ++ kSeparator :: name) : filePath.baseName.path = name := by
  have inside : start.length < (start ++ kSeparator :: name).length - 1 := by
    have present := List.length_pos_iff.mpr nonempty
    rw [List.length_append, List.length_cons]
    omega
  unfold baseName
  simp only [strip, findLastSeparator_append start name plain]
  rw [if_pos inside]
  simp

theorem baseName_of_single (plain : kSeparator ∉ name)
    (strip : stripTrailingSeparators filePath.path = name) :
    filePath.baseName.path = name := by
  unfold baseName
  simp only [strip, findLastSeparator_eq_none.mpr plain]

theorem areAllSeparators_eq_false (nonempty : name ≠ [])
    (plain : kSeparator ∉ name) : areAllSeparators name = false := by
  obtain ⟨first, rest, rfl⟩ := List.exists_cons_of_ne_nil nonempty
  have apart : first ≠ kSeparator := by
    rintro rfl
    exact plain List.mem_cons_self
  simp [areAllSeparators, isSeparator, apart]

end Split

/-- The last name of a relative path is its base name. -/
theorem baseName_spec {filePath : FilePath} (relative : filePath.isAbsolute = false) :
    filePath.names = [] ∨
      areAllSeparators filePath.baseName.path = false ∧
        ((filePath.dirName.path = kCurrentDirectory ∧
            filePath.names = [filePath.baseName.path]) ∨
          filePath.names = filePath.dirName.names ++ [filePath.baseName.path]) := by
  obtain ⟨stripped, -, count, all⟩ := stripTrailingSeparators_spec filePath.path
  have relativeFirst : (stripTrailingSeparators filePath.path).head? ≠
      some kSeparator := by
    rw [head?_strip, ne_eq, ← isAbsolute_iff, relative]
    simp
  by_cases empty : stripTrailingSeparators filePath.path = []
  · left
    unfold FilePath.names
    rw [← names_strip, empty]
    rfl
  by_cases plain : kSeparator ∈ stripTrailingSeparators filePath.path
  · obtain ⟨start, name, split, plainName⟩ := exists_lastSeparator plain
    rw [split] at relativeFirst
    have startPresent : start ≠ [] := by
      rintro rfl
      exact relativeFirst rfl
    have apart : start ≠ [kSeparator] := by
      rintro rfl
      exact relativeFirst rfl
    have namePresent : name ≠ [] := by
      rintro rfl
      rw [split] at stripped
      rcases stripped with short | last | root
      · have one : (start ++ [kSeparator]).length ≤ 1 := short
        rw [List.length_append, List.length_singleton] at one
        exact startPresent (List.eq_nil_of_length_eq_zero (by omega))
      · simp at last
      · have root : start ++ [kSeparator] = [kSeparator] ++ [kSeparator] := root
        exact apart (List.append_cancel_right root)
    have base := baseName_of_inside namePresent plainName split
    refine .inr ⟨?_, .inr ?_⟩
    · rw [base]
      exact areAllSeparators_eq_false namePresent plainName
    · rw [names_dirName_of_inside plainName split, base]
      exact names_of_inside namePresent plainName split
  · have base := baseName_of_single plain rfl
    refine .inr ⟨?_, .inl ⟨dirName_of_plain plain, ?_⟩⟩
    · rw [base]
      exact areAllSeparators_eq_false empty plain
    · rw [base]
      exact names_of_single empty plain rfl

/-- A directory name is shorter, unless it is the path itself or the current
directory. -/
theorem dirName_length (filePath : FilePath) :
    filePath.dirName = filePath ∨ filePath.dirName.path = kCurrentDirectory ∨
      filePath.dirName.path.length < filePath.path.length := by
  rcases (dirName_spec filePath).1 with ⟨current, -⟩ | ⟨rest, all, -, -⟩
  · exact .inr (.inl current)
  · by_cases nothing : rest = []
    · left
      rw [nothing, List.append_nil] at all
      cases filePath
      exact congrArg FilePath.mk all.symm
    · right
      right
      have present := List.length_pos_iff.mpr nothing
      rw [all, List.length_append]
      omega

/-- A step of the walk upwards needs less fuel than the walk. -/
theorem enough_dirName {filePath : FilePath} {fuel : Nat}
    (enough : filePath.path.length < fuel + 1 ∨ filePath.path = kCurrentDirectory)
    (goesOn : filePath ≠ filePath.dirName) :
    filePath.dirName.path.length < fuel ∨
      filePath.dirName.path = kCurrentDirectory := by
  rcases dirName_length filePath with same | isCurrent | shorter
  · exact absurd same.symm goesOn
  · exact .inr isCurrent
  · rcases enough with enough | isCurrent
    · exact .inl (by omega)
    · have current : filePath = { path := kCurrentDirectory } := by
        cases filePath
        exact congrArg FilePath.mk isCurrent
      rw [current, dirName_current] at goesOn
      exact absurd rfl goesOn

/-- The loop finds every name of a relative path. -/
theorem mem_getComponentsLoop {fuel : Nat} {current : FilePath}
    {components : List ByteString} {name : ByteString}
    (enough : current.path.length < fuel ∨ current.path = kCurrentDirectory)
    (relative : current.isAbsolute = false)
    (found : name ∈ components ∨
      name ∈ current.names ∧ name ≠ kCurrentDirectory) :
    name ∈ (getComponentsLoop fuel current components).1 := by
  induction fuel generalizing current components with
  | zero =>
      have current : current.path = kCurrentDirectory := by
        rcases enough with impossible | isCurrent
        · exact absurd impossible (Nat.not_lt_zero _)
        · exact isCurrent
      rcases found with before | ⟨inNames, apart⟩
      · exact before
      · unfold FilePath.names at inNames
        rw [current] at inNames
        exact absurd (List.mem_singleton.mp inNames) apart
  | succ fuel ih =>
      unfold getComponentsLoop
      split
      · next goesOn =>
          have dirRelative : current.dirName.isAbsolute = false := by
            rw [isAbsolute_of_isFrontOf (dirName_spec current).1, relative]
          apply ih _ dirRelative
          · rcases found with before | ⟨inNames, apart⟩
            · left
              split
              · exact before
              · exact List.mem_append_left _ before
            · rcases baseName_spec relative with none | ⟨base, only | last⟩
              · rw [none] at inNames
                simp at inNames
              · rw [only.2] at inNames
                left
                simp [base, List.mem_singleton.mp inNames]
              · rw [last, List.mem_append, List.mem_singleton] at inNames
                rcases inNames with inDir | isBase
                · exact .inr ⟨inDir, apart⟩
                · left
                  simp [base, isBase]
          · exact enough_dirName enough goesOn
      · next same =>
          rcases found with before | ⟨inNames, apart⟩
          · exact before
          · simp only [ne_eq, not_not] at same
            rcases names_of_dirName_eq same.symm with none | isCurrent
            · rw [none] at inNames
              simp at inNames
            · unfold FilePath.names at inNames
              rw [isCurrent] at inNames
              exact absurd (List.mem_singleton.mp inNames) apart

/-- A relative path with a name that leads upwards is noticed. -/
theorem referencesParent_of_mem {filePath : FilePath}
    (relative : filePath.isAbsolute = false)
    (member : kParentDirectory ∈ filePath.names) :
    filePath.referencesParent = true := by
  have present : filePath.path ≠ [] := by
    intro empty
    unfold FilePath.names at member
    rw [empty] at member
    simp at member
  have inLoop : kParentDirectory ∈
      (getComponentsLoop filePath.dirNameFuel filePath []).1 := by
    apply mem_getComponentsLoop _ relative
    · exact .inr ⟨member, by decide⟩
    · left
      unfold dirNameFuel
      omega
  unfold referencesParent getComponents
  rw [if_neg present]
  apply List.any_eq_true.mpr
  refine ⟨kParentDirectory, ?_, by decide⟩
  dsimp only
  split
  · exact List.mem_append_left _ inLoop
  · exact inLoop

end Lemmas

end FilePath

end AppExecFwk
