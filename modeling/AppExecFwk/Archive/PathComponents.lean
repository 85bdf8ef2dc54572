import AppExecFwk.Archive.FilePath
import Mathlib.Data.List.TakeWhile
import Mathlib.Logic.Function.Iterate

/-!
# The components of a path

A path is empty, nothing but separators, one name, or something in front of a
last name.  The directory name of the first three is where the walk upwards
ends; that of the last lacks the last name.  From this follows what the walk
finds on its way.  It misses one form: of `./` it finds the component `.`, which
it leaves out of every other path that starts with it.
-/

namespace AppExecFwk

open DirectoryTree

namespace FilePath

section Shapes

/-- Separators are stripped down to one, except that two of them stay. -/
theorem strip_replicate (count : Nat) :
    stripTrailingSeparators (List.replicate (count + 1) kSeparator) =
      if count = 1 then [kSeparator, kSeparator] else [kSeparator] := by
  have behindStrip (count : Nat) : stripLoop (count + 2)
      (List.replicate (count + 2) kSeparator) (some (count + 3)) =
        [kSeparator] := by
    induction count with
    | zero => decide
    | succ count ih =>
        have last : (List.replicate (count + 3) kSeparator)[count + 2]?.any
            isSeparator = true := by
          rw [List.getElem?_replicate, if_pos (Nat.lt_succ_self _)]
          rfl
        rw [stripLoop, if_pos ⟨by omega, last⟩, if_pos (.inl (by omega)),
          List.take_replicate, Nat.min_eq_left (Nat.le_succ _)]
        exact ih
  rcases count with _ | _ | count
  · decide
  · decide
  · have last : (List.replicate (count + 3) kSeparator)[count + 2]?.any
        isSeparator = true := by
      rw [List.getElem?_replicate, if_pos (Nat.lt_succ_self _)]
      rfl
    rw [stripTrailingSeparators, List.length_replicate, stripLoop,
      if_pos ⟨by omega, last⟩, if_pos (.inl (by omega)), List.take_replicate,
      Nat.min_eq_left (Nat.le_succ _), behindStrip, if_neg (by omega)]

/-- The forms of a path, with what is left of it without trailing separators. -/
inductive Shape (path : ByteString) : Prop where
  | empty (isEmpty : path = [])
  | separators (count : Nat)
      (all : path = List.replicate (count + 1) kSeparator)
  | single (name : ByteString) (nonempty : name ≠ []) (plain : kSeparator ∉ name)
      (strip : stripTrailingSeparators path = name)
  | inside (start name : ByteString) (nonempty : name ≠ [])
      (plain : kSeparator ∉ name)
      (strip : stripTrailingSeparators path = start ++ kSeparator :: name)

theorem shape (path : ByteString) : Shape path := by
  obtain ⟨stripped, nonempty, count, all⟩ := stripTrailingSeparators_spec path
  by_cases empty : path = []
  · exact .empty empty
  by_cases plain : kSeparator ∈ stripTrailingSeparators path
  · obtain ⟨start, name, split, plainName⟩ := exists_lastSeparator plain
    by_cases present : name = []
    · subst present
      rw [split] at stripped all
      rcases stripped with short | last | root
      · rw [List.length_append, List.length_singleton] at short
        obtain rfl := List.eq_nil_of_length_eq_zero (by omega : start.length = 0)
        exact .separators count all
      · simp at last
      · rw [root] at all
        exact .separators (count + 1) all
    · exact .inside start name present plainName split
  · exact .single _ (nonempty empty) plain rfl

variable {filePath : FilePath} {start name : ByteString}

/-- A path that is nothing but separators has the same directory name and base
name, and no names. -/
theorem of_separators {count : Nat}
    (all : filePath.path = List.replicate (count + 1) kSeparator) :
    filePath.dirName.path =
        (if count = 1 then [kSeparator, kSeparator] else [kSeparator]) ∧
      filePath.baseName.path =
        (if count = 1 then [kSeparator, kSeparator] else [kSeparator]) ∧
      filePath.names = [] := by
  have strip := strip_replicate count
  rw [← all] at strip
  refine ⟨?_, ?_, ?_⟩
  · by_cases two : count = 1
    · rw [if_pos two] at strip ⊢
      have split : stripTrailingSeparators filePath.path =
          [kSeparator] ++ kSeparator :: [] := strip
      exact dirName_of_split split List.not_mem_nil
    · rw [if_neg two] at strip ⊢
      have split : stripTrailingSeparators filePath.path =
          [] ++ kSeparator :: [] := strip
      exact dirName_of_split split List.not_mem_nil
  · unfold baseName
    by_cases two : count = 1
    · rw [if_pos two] at strip ⊢
      simp only [strip]
      decide
    · rw [if_neg two] at strip ⊢
      simp only [strip]
      decide
  · rw [FilePath.names, names_eq_nil_iff, all]
    intro character member
    exact List.eq_of_mem_replicate member

/-- The directory name of a path with something in front of its last name is
shorter. -/
theorem dirName_ne_of_inside (nonempty : name ≠ []) (plain : kSeparator ∉ name)
    (strip : stripTrailingSeparators filePath.path =
      start ++ kSeparator :: name) : filePath.dirName ≠ filePath := by
  intro same
  have names := names_dirName_of_inside plain strip
  rw [same, names_of_inside nonempty plain strip] at names
  have length := congrArg List.length names
  rw [List.length_append, List.length_singleton] at length
  omega

/-- The paths that are their own directory names. -/
theorem dirName_eq_iff : filePath.dirName = filePath ↔
    filePath.path = kCurrentDirectory ∨ filePath.path = [kSeparator] ∨
      filePath.path = [kSeparator, kSeparator] := by
  constructor
  · intro same
    have path := congrArg FilePath.path same
    rcases shape filePath.path with isEmpty | ⟨count, all⟩ |
      ⟨name, nonempty, plain, strip⟩ | ⟨start, name, nonempty, plain, strip⟩
    · have plain : kSeparator ∉ stripTrailingSeparators filePath.path := by
        rw [isEmpty]
        exact List.not_mem_nil
      rw [dirName_of_plain plain] at path
      exact .inl path.symm
    · rw [(of_separators all).1] at path
      split at path
      · exact .inr (.inr path.symm)
      · exact .inr (.inl path.symm)
    · rw [dirName_of_plain (by rwa [strip])] at path
      exact .inl path.symm
    · exact absurd same (dirName_ne_of_inside nonempty plain strip)
  · cases filePath
    rintro (rfl | rfl | rfl) <;> decide

end Shapes

/-- The names of a path; one that does not start at the root is thought to start
at the current directory, so a first name for that is left out. -/
def parts (filePath : FilePath) : List ByteString :=
  match filePath.names with
  | [] => []
  | first :: rest =>
      if filePath.isAbsolute = false ∧ first = kCurrentDirectory then rest
      else first :: rest

/-- Where an absolute path starts: two separators are a root of their own, and
three are when a name is behind them. -/
def root (filePath : FilePath) : ByteString :=
  let leading := (filePath.path.takeWhile isSeparator).length
  if leading = 2 ∨ leading = 3 ∧ filePath.names ≠ [] then
    [kSeparator, kSeparator]
  else [kSeparator]

/-- The current directory with separators behind it. -/
def IsDotDirectory (filePath : FilePath) : Prop :=
  ∃ count, filePath.path =
    kCurrentDirectory ++ List.replicate (count + 1) kSeparator

/-- What `GetComponents` is to find, the last one first. -/
def FindsComponents (filePath : FilePath) : Prop :=
  filePath.getComponents = filePath.parts.reverse ++
    if filePath.isAbsolute then [filePath.root] else []

section Walk

variable {filePath : FilePath} {start name : ByteString}

theorem root_of_separators {count : Nat}
    (all : filePath.path = List.replicate (count + 1) kSeparator) :
    filePath.root =
      if count = 1 then [kSeparator, kSeparator] else [kSeparator] := by
  have leading : (filePath.path.takeWhile isSeparator).length = count + 1 := by
    rw [all, List.takeWhile_replicate]
    simp [isSeparator]
  unfold root
  rw [leading, (of_separators all).2.2]
  by_cases two : count = 1
  · simp [two]
  · simp [two]

/-- Separators in front of a name are counted in front of what is behind it. -/
theorem leading_append {path other : ByteString}
    (named : DirectoryTree.names kSeparator path ≠ []) :
    ((path ++ other).takeWhile isSeparator).length =
      (path.takeWhile isSeparator).length := by
  have stops : (path.takeWhile isSeparator).length ≠ path.length := by
    intro whole
    apply named
    rw [names_eq_nil_iff]
    intro character member
    have same := (List.takeWhile_prefix isSeparator).eq_of_length whole
    rw [← same] at member
    simpa [isSeparator] using List.mem_takeWhile_imp member
  rw [List.takeWhile_append, if_neg stops]

theorem leading_replicate {count : Nat} {other : ByteString}
    (nonempty : name ≠ []) (plain : kSeparator ∉ name) :
    ((List.replicate count kSeparator ++ (name ++ other)).takeWhile
      isSeparator).length = count := by
  obtain ⟨first, rest, rfl⟩ := List.exists_cons_of_ne_nil nonempty
  have apart : ¬isSeparator first = true := by
    simp only [isSeparator, decide_eq_true_eq]
    rintro rfl
    exact plain List.mem_cons_self
  have leads : ∀ character ∈ List.replicate count kSeparator,
      isSeparator character = true := by
    intro character member
    rw [List.eq_of_mem_replicate member]
    rfl
  rw [List.takeWhile_append_of_pos leads, List.cons_append,
    List.takeWhile_cons_of_neg apart, List.append_nil, List.length_replicate]

/-- A path and its directory name start at the same root. -/
theorem root_dirName_of_inside (nonempty : name ≠ []) (plain : kSeparator ∉ name)
    (strip : stripTrailingSeparators filePath.path =
      start ++ kSeparator :: name) : filePath.dirName.root = filePath.root := by
  obtain ⟨-, -, count, all⟩ := stripTrailingSeparators_spec filePath.path
  have named : filePath.names ≠ [] := by
    rw [names_of_inside nonempty plain strip]
    simp
  have dir := dirName_of_split strip plain
  by_cases only : DirectoryTree.names kSeparator start = []
  · -- Nothing but separators is in front of the name.
    obtain ⟨leading, rfl⟩ : ∃ leading, start =
        List.replicate leading kSeparator :=
      ⟨start.length, List.eq_replicate_iff.mpr
        ⟨rfl, fun character => names_eq_nil_iff.mp only character⟩⟩
    have whole : filePath.path = List.replicate (leading + 1) kSeparator ++
        (name ++ List.replicate count kSeparator) := by
      rw [all, strip, List.replicate_succ']
      simp
    have rootHere : filePath.root = if leading = 1 ∨ leading = 2 then
        [kSeparator, kSeparator] else [kSeparator] := by
      unfold root
      rw [whole, leading_replicate nonempty plain]
      simp [named]
    match leading with
    | 0 =>
        have one : filePath.dirName.path = List.replicate 1 kSeparator := dir
        rw [root_of_separators one, rootHere]
        rfl
    | 1 =>
        have two : filePath.dirName.path = List.replicate 2 kSeparator := dir
        rw [root_of_separators two, rootHere]
        rfl
    | leading + 2 =>
        have stripped : filePath.dirName.path = stripTrailingSeparators
            (List.replicate (leading + 2) kSeparator) := by
          rw [dir, if_neg (by simp), if_neg]
          intro one
          have length := congrArg List.length one
          rw [List.length_replicate, List.length_singleton] at length
          omega
        rw [strip_replicate] at stripped
        by_cases two : leading = 0
        · rw [if_pos (by omega)] at stripped
          have two : filePath.dirName.path = List.replicate 2 kSeparator :=
            stripped
          rw [root_of_separators two, rootHere, if_pos rfl, if_pos (by omega)]
        · rw [if_neg (by omega)] at stripped
          have one : filePath.dirName.path = List.replicate 1 kSeparator :=
            stripped
          rw [root_of_separators one, rootHere, if_neg (by omega),
            if_neg (by omega)]
  · obtain ⟨-, -, startCount, allStart⟩ := stripTrailingSeparators_spec start
    have notEmpty : start ≠ [] := by
      rintro rfl
      exact only rfl
    have notOne : start ≠ [kSeparator] := by
      rintro rfl
      exact only rfl
    rw [if_neg notEmpty, if_neg notOne] at dir
    have namedDir : filePath.dirName.names ≠ [] := by
      rwa [names_dirName_of_inside plain strip]
    have sameLeading : (filePath.path.takeWhile isSeparator).length =
        (filePath.dirName.path.takeWhile isSeparator).length := by
      have front : ((stripTrailingSeparators start ++
          List.replicate startCount kSeparator).takeWhile isSeparator).length =
            ((stripTrailingSeparators start).takeWhile isSeparator).length :=
        leading_append (by rwa [names_strip])
      rw [← allStart] at front
      rw [dir, ← front, all, strip, List.append_assoc, leading_append only]
    unfold root
    simp only [sameLeading, ne_eq, named, namedDir, not_false_eq_true, and_true]

theorem parts_of_absolute (absolute : filePath.isAbsolute = true) :
    filePath.parts = filePath.names := by
  unfold parts
  rw [absolute]
  cases filePath.names with
  | nil => rfl
  | cons first rest => simp

theorem parts_of_relative (relative : filePath.isAbsolute = false)
    {first : ByteString} {rest : List ByteString}
    (named : filePath.names = first :: rest) :
    filePath.parts = if first = kCurrentDirectory then rest else first :: rest := by
  unfold parts
  simp only [named, relative, true_and]

/-- A path has the parts of its directory name and its last name. -/
theorem parts_of_inside (nonempty : name ≠ []) (plain : kSeparator ∉ name)
    (strip : stripTrailingSeparators filePath.path =
      start ++ kSeparator :: name) :
    filePath.parts = filePath.dirName.parts ++ [name] := by
  have names := names_of_inside nonempty plain strip
  have dirNames := names_dirName_of_inside plain strip
  have sameStart := isAbsolute_of_isFrontOf (dirName_spec filePath).1
  cases absolute : filePath.isAbsolute with
  | true =>
      rw [parts_of_absolute absolute, parts_of_absolute (sameStart.trans absolute),
        names, dirNames]
  | false =>
      have startsPlain : start.head? ≠ some kSeparator ∧ start ≠ [] := by
        have head : (start ++ kSeparator :: name).head? ≠ some kSeparator := by
          rw [← strip, head?_strip, ne_eq, ← isAbsolute_iff, absolute]
          simp
        constructor
        · intro separates
          apply head
          rw [List.head?_append, separates]
          rfl
        · rintro rfl
          exact head rfl
      obtain ⟨first, rest, some⟩ : ∃ first rest,
          DirectoryTree.names kSeparator start = first :: rest := by
        apply List.exists_cons_of_ne_nil
        intro none
        obtain ⟨character, others, rfl⟩ :=
          List.exists_cons_of_ne_nil startsPlain.2
        rw [names_eq_nil_iff, List.forall_mem_cons] at none
        exact startsPlain.1 (congrArg some none.1)
      rw [some] at names dirNames
      rw [parts_of_relative absolute names,
        parts_of_relative (sameStart.trans absolute) dirNames]
      split
      · rfl
      · rfl

theorem isStripped_dirName : IsStripped filePath.dirName.path := by
  have kept (path : ByteString) : IsStripped
      (if stripTrailingSeparators path = [] then kCurrentDirectory
        else stripTrailingSeparators path) := by
    split
    · exact .inl (by decide)
    · exact (stripTrailingSeparators_spec path).1
  exact kept _

theorem not_isDotDirectory_of_isStripped (stripped : IsStripped filePath.path) :
    ¬filePath.IsDotDirectory := by
  rintro ⟨count, all⟩
  rw [all] at stripped
  rcases stripped with short | last | root
  · simp [kCurrentDirectory] at short
  · rw [List.replicate_succ', ← List.append_assoc] at last
    simp at last
  · have first := congrArg List.head? root
    simp [kCurrentDirectory, kDot, kSeparator] at first

theorem names_of_isDotDirectory (isDot : filePath.IsDotDirectory) :
    filePath.names = [kCurrentDirectory] := by
  obtain ⟨count, all⟩ := isDot
  rw [FilePath.names, all, names_append_replicate]
  rfl

/-- A relative path of one name is that name with separators behind it. -/
theorem strip_of_names_eq (relative : filePath.isAbsolute = false)
    (only : filePath.names = [name]) :
    stripTrailingSeparators filePath.path = name := by
  have first : (stripTrailingSeparators filePath.path).head? ≠ some kSeparator := by
    rw [head?_strip, ne_eq, ← isAbsolute_iff, relative]
    simp
  rcases shape filePath.path with isEmpty | ⟨leading, separators⟩ |
    ⟨other, nonempty, plain, strip⟩ | ⟨start, other, nonempty, plain, strip⟩
  · rw [FilePath.names, isEmpty] at only
    cases only
  · rw [(of_separators separators).2.2] at only
    cases only
  · rw [names_of_single nonempty plain strip, List.singleton_inj] at only
    rw [strip, only]
  · rw [names_of_inside nonempty plain strip] at only
    have length := congrArg List.length only
    rw [List.length_append, List.length_singleton, List.length_singleton] at length
    have nothing := names_eq_nil_iff.mp
      (List.eq_nil_of_length_eq_zero (by omega :
        (DirectoryTree.names kSeparator start).length = 0))
    rw [strip] at first
    cases start with
    | nil => exact absurd rfl first
    | cons character start =>
        rw [nothing character List.mem_cons_self] at first
        exact absurd rfl first

/-- A single name for the current directory has nothing or separators behind
it. -/
theorem eq_or_isDotDirectory
    (strip : stripTrailingSeparators filePath.path = kCurrentDirectory) :
    filePath.path = kCurrentDirectory ∨ filePath.IsDotDirectory := by
  obtain ⟨-, -, count, all⟩ := stripTrailingSeparators_spec filePath.path
  rw [strip] at all
  match count with
  | 0 => exact .inl (by rw [all]; rfl)
  | count + 1 => exact .inr ⟨count, all⟩

/-- Where the walk upwards ends. -/
def top (filePath : FilePath) : FilePath where
  path := if filePath.isAbsolute then filePath.root else kCurrentDirectory

theorem eq_top_of_dirName_eq (same : filePath.dirName = filePath) :
    filePath.parts = [] ∧ filePath.top = filePath := by
  cases filePath
  rcases dirName_eq_iff.mp same with rfl | rfl | rfl <;> decide

/-- One step of the walk takes the last part, if there is one, and keeps the top. -/
theorem step_of_dirName_ne (goesOn : filePath ≠ filePath.dirName)
    (notDot : ¬filePath.IsDotDirectory) :
    filePath.parts = filePath.dirName.parts ++
        (if areAllSeparators filePath.baseName.path then []
          else [filePath.baseName.path]) ∧
      filePath.dirName.top = filePath.top := by
  have sameStart := isAbsolute_of_isFrontOf (dirName_spec filePath).1
  rcases shape filePath.path with isEmpty | ⟨count, all⟩ |
    ⟨name, nonempty, plain, strip⟩ | ⟨start, name, nonempty, plain, strip⟩
  · cases filePath
    subst isEmpty
    decide
  · obtain ⟨dir, base, none⟩ := of_separators all
    have notTwo : count ≠ 1 := by
      rintro rfl
      exact goesOn (dirName_eq_iff.mpr (.inr (.inr all))).symm
    rw [if_neg notTwo] at dir base
    have dirIs : filePath.dirName = { path := [kSeparator] } := by
      rw [← dir]
    have absolute : filePath.isAbsolute = true := by
      rw [← sameStart, dirIs]
      rfl
    refine ⟨?_, ?_⟩
    · rw [parts_of_absolute absolute, none, base, dirIs]
      rfl
    · rw [top, top, sameStart, absolute, root_of_separators all, if_neg notTwo,
        dirIs]
      rfl
  · have current : filePath.dirName.path = kCurrentDirectory :=
      dirName_of_plain (by rwa [strip])
    have relative : filePath.isAbsolute = false := by
      rw [← sameStart, isAbsolute, current]
      rfl
    have apart : name ≠ kCurrentDirectory := by
      rintro rfl
      rcases eq_or_isDotDirectory strip with isCurrent | isDot
      · exact goesOn (dirName_eq_iff.mpr (.inl isCurrent)).symm
      · exact notDot isDot
    have dirIs : filePath.dirName = { path := kCurrentDirectory } := by
      rw [← current]
    refine ⟨?_, ?_⟩
    · rw [parts_of_relative relative (names_of_single nonempty plain strip),
        if_neg apart, baseName_of_single plain strip,
        areAllSeparators_eq_false nonempty plain, dirIs]
      rfl
    · rw [top, top, sameStart, relative]
      rfl
  · refine ⟨?_, ?_⟩
    · rw [parts_of_inside nonempty plain strip,
        baseName_of_inside nonempty plain strip,
        areAllSeparators_eq_false nonempty plain]
      rfl
    · rw [top, top, sameStart, root_dirName_of_inside nonempty plain strip]

end Walk

/-- The walk finds the parts of a path, and ends at its top. -/
theorem getComponentsLoop_eq {fuel : Nat} {current : FilePath}
    {components : List ByteString}
    (enough : current.path.length < fuel ∨ current.path = kCurrentDirectory)
    (notDot : ¬current.IsDotDirectory) :
    getComponentsLoop fuel current components =
      (components ++ current.parts.reverse, current.top) := by
  induction fuel generalizing current components with
  | zero =>
      rcases enough with impossible | isCurrent
      · exact absurd impossible (Nat.not_lt_zero _)
      · have same := dirName_eq_iff.mpr (.inl isCurrent)
        obtain ⟨none, top⟩ := eq_top_of_dirName_eq same
        rw [none, top]
        simp [getComponentsLoop]
  | succ fuel ih =>
      unfold getComponentsLoop
      split
      case isFalse same =>
        obtain ⟨none, top⟩ := eq_top_of_dirName_eq (not_not.mp same).symm
        rw [none, top]
        simp
      case isTrue goesOn =>
        rw [ih (enough_dirName enough goesOn)
          (not_isDotDirectory_of_isStripped isStripped_dirName)]
        obtain ⟨added, sameTop⟩ := step_of_dirName_ne goesOn notDot
        rw [sameTop, added]
        split
        · rw [List.append_nil]
        · simp

section Laws

variable {filePath child : FilePath}

theorem baseName_top :
    (if filePath.top.baseName.path ≠ [] ∧
        filePath.top.baseName.path ≠ kCurrentDirectory then
      [filePath.top.baseName.path] else []) =
      if filePath.isAbsolute then [filePath.root] else [] := by
  have roots : filePath.root = [kSeparator] ∨
      filePath.root = [kSeparator, kSeparator] := by
    unfold root
    dsimp only
    split
    · exact .inr rfl
    · exact .inl rfl
  unfold top
  cases filePath.isAbsolute with
  | true => rcases roots with one | two <;> simp only [*] <;> decide
  | false =>
      simp only [Bool.false_eq_true, if_false]
      decide

theorem getComponents_eq (present : filePath.path ≠ []) :
    filePath.getComponents =
      (getComponentsLoop filePath.dirNameFuel filePath []).1 ++
        if (getComponentsLoop filePath.dirNameFuel filePath []).2.baseName.path ≠
            [] ∧ (getComponentsLoop filePath.dirNameFuel filePath
              []).2.baseName.path ≠ kCurrentDirectory then
          [(getComponentsLoop filePath.dirNameFuel filePath []).2.baseName.path]
        else [] := by
  unfold getComponents
  rw [if_neg present]
  dsimp only
  split
  · rfl
  · rw [List.append_nil]

theorem findsComponents_of_not (notDot : ¬filePath.IsDotDirectory) :
    filePath.FindsComponents := by
  unfold FindsComponents
  by_cases present : filePath.path = []
  · cases filePath
    subst present
    decide
  · have enough : filePath.path.length < filePath.dirNameFuel := by
      unfold dirNameFuel
      omega
    rw [getComponents_eq present, getComponentsLoop_eq (.inl enough) notDot,
      List.nil_append, baseName_top]

/-- Of the current directory with separators behind it, the walk finds the current
directory. -/
theorem getComponents_of_isDotDirectory (isDot : filePath.IsDotDirectory) :
    filePath.getComponents = [kCurrentDirectory] ∧ filePath.parts = [] ∧
      filePath.isAbsolute = false := by
  obtain ⟨count, all⟩ := isDot
  have notSeparator : kSeparator ∉ kCurrentDirectory := by
    decide
  have relative : filePath.isAbsolute = false := by
    rw [isAbsolute, all]
    rfl
  have only := names_of_isDotDirectory ⟨count, all⟩
  have strip := strip_of_names_eq relative only
  have dir : filePath.dirName = { path := kCurrentDirectory } := by
    have path := @dirName_of_plain filePath (by rwa [strip])
    rw [← path]
  have goesOn : filePath ≠ filePath.dirName := by
    intro same
    have path := congrArg FilePath.path (same.trans dir)
    rw [all] at path
    simp at path
  have base := baseName_of_single notSeparator strip
  refine ⟨?_, ?_, relative⟩
  · have present : filePath.path ≠ [] := by
      rw [all]
      simp [kCurrentDirectory]
    have first : getComponentsLoop filePath.dirNameFuel filePath [] =
        ([kCurrentDirectory], { path := kCurrentDirectory }) := by
      have notDot : ¬IsDotDirectory { path := kCurrentDirectory } :=
        not_isDotDirectory_of_isStripped (.inl (by decide))
      have rest (fuel : Nat) (components : List ByteString) :
          getComponentsLoop fuel { path := kCurrentDirectory } components =
            (components ++ [], { path := kCurrentDirectory }) :=
        getComponentsLoop_eq (.inr rfl) notDot
      unfold dirNameFuel getComponentsLoop
      rw [if_pos goesOn]
      dsimp only
      rw [base, dir, rest]
      rfl
    rw [getComponents_eq present, first]
    decide
  · rw [parts_of_relative relative
      (names_of_single (by decide) notSeparator strip), if_pos rfl]

theorem findsComponents_iff :
    filePath.FindsComponents ↔ ¬filePath.IsDotDirectory := by
  refine ⟨fun finds isDot => ?_, findsComponents_of_not⟩
  obtain ⟨found, none, relative⟩ := getComponents_of_isDotDirectory isDot
  rw [FindsComponents, found, none, relative] at finds
  simp at finds

/-- A path at which the walk upwards stays. -/
def IsEnd (filePath : FilePath) : Prop :=
  filePath.dirName = filePath ∧
    (filePath.path = kCurrentDirectory ∨ filePath.path = [kSeparator] ∨
      filePath.path = [kSeparator, kSeparator])

theorem isEnd_of_dirName_eq (same : filePath.dirName = filePath) :
    filePath.IsEnd :=
  ⟨same, dirName_eq_iff.mp same⟩

theorem exists_isEnd (fuel : Nat)
    (enough : filePath.path.length < fuel ∨ filePath.path = kCurrentDirectory) :
    ∃ steps, (dirName^[steps] filePath).IsEnd := by
  by_cases same : filePath.dirName = filePath
  · exact ⟨0, isEnd_of_dirName_eq same⟩
  · induction fuel generalizing filePath with
    | zero =>
        rcases enough with impossible | isCurrent
        · exact absurd impossible (Nat.not_lt_zero _)
        · exact absurd (dirName_eq_iff.mpr (.inl isCurrent)) same
    | succ fuel ih =>
        by_cases stays : filePath.dirName.dirName = filePath.dirName
        · exact ⟨1, isEnd_of_dirName_eq stays⟩
        · obtain ⟨steps, isEnd⟩ := ih (enough_dirName enough (Ne.symm same)) stays
          exact ⟨steps + 1, isEnd⟩

/-- With enough fuel, the loop is over before the fuel is. -/
theorem getComponentsLoop_ends {fuel : Nat} {components : List ByteString}
    (enough : filePath.path.length < fuel ∨ filePath.path = kCurrentDirectory) :
    (getComponentsLoop fuel filePath components).2.IsEnd ∧
      ∀ more, getComponentsLoop (fuel + more) filePath components =
        getComponentsLoop fuel filePath components := by
  induction fuel generalizing filePath components with
  | zero =>
      rcases enough with impossible | isCurrent
      · exact absurd impossible (Nat.not_lt_zero _)
      · have same := dirName_eq_iff.mpr (.inl isCurrent)
        refine ⟨isEnd_of_dirName_eq same, fun more => ?_⟩
        rw [Nat.zero_add]
        cases more with
        | zero => rfl
        | succ more =>
            unfold getComponentsLoop
            rw [if_neg (not_not.mpr same.symm)]
  | succ fuel ih =>
      by_cases goesOn : filePath ≠ filePath.dirName
      · have rest := @ih filePath.dirName (if areAllSeparators filePath.baseName.path
          then components else components ++ [filePath.baseName.path])
            (enough_dirName enough goesOn)
        rw [getComponentsLoop, if_pos goesOn]
        refine ⟨rest.1, fun more => ?_⟩
        rw [Nat.add_right_comm, getComponentsLoop, if_pos goesOn]
        exact rest.2 more
      · rw [getComponentsLoop, if_neg goesOn]
        refine ⟨isEnd_of_dirName_eq (not_not.mp goesOn).symm, fun more => ?_⟩
        rw [Nat.add_right_comm, getComponentsLoop, if_neg goesOn]

theorem subpathsFrom_ends {fuel : Nat}
    (enough : filePath.path.length < fuel ∨ filePath.path = kCurrentDirectory) :
    (∃ last, (filePath :: subpathsFrom fuel filePath).getLast? = some last ∧
        last.IsEnd) ∧
      ∀ more, subpathsFrom (fuel + more) filePath = subpathsFrom fuel filePath := by
  induction fuel generalizing filePath with
  | zero =>
      rcases enough with impossible | isCurrent
      · exact absurd impossible (Nat.not_lt_zero _)
      · have same := dirName_eq_iff.mpr (.inl isCurrent)
        refine ⟨⟨filePath, rfl, isEnd_of_dirName_eq same⟩, fun more => ?_⟩
        rw [Nat.zero_add]
        cases more with
        | zero => rfl
        | succ more =>
            unfold subpathsFrom
            rw [if_pos same]
  | succ fuel ih =>
      by_cases same : filePath.dirName = filePath
      · rw [subpathsFrom, if_pos same]
        refine ⟨⟨filePath, rfl, isEnd_of_dirName_eq same⟩, fun more => ?_⟩
        rw [Nat.add_right_comm, subpathsFrom, if_pos same]
      · obtain ⟨⟨last, isLast, isEnd⟩, keeps⟩ :=
          ih (enough_dirName enough (Ne.symm same))
        rw [subpathsFrom, if_neg same]
        refine ⟨⟨last, ?_, isEnd⟩, fun more => ?_⟩
        · rw [List.getLast?_cons_cons]
          exact isLast
        · rw [Nat.add_right_comm, subpathsFrom, if_neg same, keeps more]

theorem kParentDirectory_notMem (stays : filePath.referencesParent = false) :
    kParentDirectory ∉ filePath.getComponents := by
  intro member
  have found : filePath.referencesParent = true :=
    List.any_eq_true.mpr ⟨kParentDirectory, member, by decide⟩
  rw [found] at stays
  cases stays

/-- A relative path leads on from the directory it is put behind. -/
theorem names_append_of_relative (directory : FilePath)
    (relative : filePath.isAbsolute = false) :
    (directory.append filePath.path).names = directory.names ++ filePath.names := by
  have plain : startsWith filePath.path separatorText = false := by
    rw [Bool.eq_false_iff]
    intro starts
    obtain ⟨rest, split⟩ := List.isPrefixOf_iff_prefix.mp starts
    rw [isAbsolute, ← split] at relative
    exact Bool.noConfusion relative
  unfold append
  simp only [plain, Bool.false_eq_true, if_false]
  split
  · next none =>
      simp only [FilePath.names, none, names_nil, List.append_nil]
  · split
    · next none =>
        simp only [FilePath.names, none, names_nil, List.nil_append]
    · have whole : directory.path ++ separatorText ++ filePath.path =
          directory.path ++ kSeparator :: filePath.path := by
        simp [separatorText]
      simp only [ite_self, FilePath.names, whole, names_append_separator]

/-- The names of a relative path that does not lead upwards stay below the
directory that it is put behind. -/
theorem suffix_walk_append (stays : filePath.referencesParent = false)
    (relative : filePath.isAbsolute = false) (place : Place UInt8)
    {directory front : List ByteString} (isFront : front <+: filePath.names) :
    walk kDot place directory <:+ walk kDot place (directory ++ front) := by
  have noParent : kParentDirectory ∉ filePath.names := by
    intro member
    rw [referencesParent_of_mem relative member] at stays
    cases stays
  rw [walk_append]
  exact suffix_walk (fun member => noParent (isFront.subset member)) _

/-- What is behind the components of a path in those of its child. -/
def IsBelow (filePath child : FilePath) (below : List ByteString) : Prop :=
  filePath.getComponents ≠ [] ∧ below ≠ [] ∧
    child.getComponents.reverse = filePath.getComponents.reverse ++ below

theorem componentsBelow_eq_some {parent child below : List ByteString} :
    componentsBelow parent child = some below ↔ child = parent ++ below := by
  induction parent generalizing child with
  | nil => simp [componentsBelow]
  | cons first parent ih =>
      cases child with
      | nil => simp [componentsBelow]
      | cons other child =>
          unfold componentsBelow
          split
          · next same => simp [ih, same]
          · next apart => simp [Ne.symm apart]

/-- A child's components below its parent are names. -/
theorem isName_of_isBelow {below : List ByteString}
    (isBelow : filePath.IsBelow child below) {name : ByteString}
    (member : name ∈ below) : name ≠ [] ∧ kSeparator ∉ name := by
  obtain ⟨parents, present, all⟩ := isBelow
  have length := congrArg List.length all
  have parentsLength := List.length_pos_iff.mpr parents
  have belowLength := List.length_pos_iff.mpr present
  rw [List.length_append, List.length_reverse, List.length_reverse] at length
  by_cases isDot : child.IsDotDirectory
  · rw [(getComponents_of_isDotDirectory isDot).1, List.length_singleton] at length
    omega
  · have finds : child.FindsComponents := findsComponents_of_not isDot
    have shorter : below.length ≤ child.parts.length := by
      rw [finds, List.length_append, List.length_reverse] at length
      split at length
      · rw [List.length_singleton] at length
        omega
      · rw [List.length_nil] at length
        omega
    rw [finds, List.reverse_append, List.reverse_reverse] at all
    have behind := List.suffix_append filePath.getComponents.reverse below
    rw [← all] at behind
    have inParts : below <:+ child.parts :=
      List.suffix_of_suffix_length_le behind (List.suffix_append _ _) shorter
    have partsNames : child.parts ⊆ child.names := by
      unfold parts
      split
      · next none => simp
      · next first rest some =>
          rw [some]
          split
          · exact List.subset_cons_self first rest
          · exact List.Subset.refl _
    exact isName_of_mem_names (partsNames (inParts.subset member))

/-- Names are put behind a path with separators between them. -/
theorem foldl_append_eq {path : ByteString} {names : List ByteString}
    (nonempty : path ≠ []) (ends : path.getLast? ≠ some kSeparator)
    (plain : ∀ name ∈ names, name ≠ [] ∧ kSeparator ∉ name) :
    names.foldl append { path := path } =
      { path := separatorText.intercalate (path :: names) } := by
  induction names generalizing path with
  | nil => simp
  | cons name names ih =>
      obtain ⟨⟨present, noSeparator⟩, others⟩ := List.forall_mem_cons.mp plain
      have pathEnds : endsWith path separatorText = false := by
        rw [Bool.eq_false_iff]
        intro suffix
        obtain ⟨start, split⟩ := List.isSuffixOf_iff_suffix.mp suffix
        rw [← split] at ends
        exact ends (by simp [separatorText])
      have nameStarts : startsWith name separatorText = false := by
        rw [Bool.eq_false_iff]
        intro starts
        obtain ⟨rest, split⟩ := List.isPrefixOf_iff_prefix.mp starts
        apply noSeparator
        rw [← split]
        exact List.mem_cons_self
      have step : append { path := path } name =
          { path := path ++ separatorText ++ name } := by
        simp [append, present, nonempty, pathEnds, nameStarts]
      have nameEnds : (path ++ separatorText ++ name).getLast? ≠
          some kSeparator := by
        rw [List.getLast?_append_of_ne_nil _ present]
        exact fun last => noSeparator (List.mem_of_getLast? last)
      rw [List.foldl_cons, step, ih (by simp [present]) nameEnds others,
        List.intercalate_cons_cons]
      cases names with
      | nil => simp
      | cons next names =>
          simp only [List.intercalate_cons_cons, List.append_assoc]

theorem foldl_append_nil {names : List ByteString}
    (plain : ∀ name ∈ names, name ≠ [] ∧ kSeparator ∉ name) :
    names.foldl append {} = { path := separatorText.intercalate names } := by
  cases names with
  | nil => rfl
  | cons name names =>
      obtain ⟨⟨present, noSeparator⟩, others⟩ := List.forall_mem_cons.mp plain
      have first : append {} name = { path := name } := by
        simp [append, present]
      rw [List.foldl_cons, first, foldl_append_eq present _ others]
      exact fun last => noSeparator (List.mem_of_getLast? last)

theorem appendRelativePath_of_isBelow {below : List ByteString}
    (isBelow : filePath.IsBelow child below) :
    filePath.appendRelativePath child (some {}) =
      (true, some { path := separatorText.intercalate below }) := by
  obtain ⟨parents, present, all⟩ := id isBelow
  have found := componentsBelow_eq_some.mpr all
  have shorter : ¬(filePath.getComponents = [] ∨
      filePath.getComponents.length ≥ child.getComponents.length) := by
    have length := congrArg List.length all
    have belowLength := List.length_pos_iff.mpr present
    rw [List.length_append, List.length_reverse, List.length_reverse] at length
    rintro (none | longer)
    · exact parents none
    · omega
  have noRoot : below.head? ≠ some separatorText := by
    intro head
    have isName := isName_of_isBelow isBelow (List.mem_of_head? head)
    exact isName.2 List.mem_cons_self
  unfold appendRelativePath
  dsimp only
  rw [if_neg shorter, found]
  dsimp only
  rw [if_neg noRoot, Option.map_some, foldl_append_nil]
  exact fun name member => isName_of_isBelow isBelow member

theorem exists_isBelow {path : Option FilePath}
    (isParent : (filePath.appendRelativePath child path).1 = true) :
    ∃ below, filePath.IsBelow child below := by
  unfold appendRelativePath at isParent
  dsimp only at isParent
  split at isParent
  · cases isParent
  · next shorter =>
      rw [not_or] at shorter
      split at isParent
      · cases isParent
      · next below found =>
          have all := componentsBelow_eq_some.mp found
          refine ⟨below, shorter.1, ?_, all⟩
          rintro rfl
          have length := congrArg List.length all
          rw [List.append_nil, List.length_reverse, List.length_reverse] at length
          omega

/-- The laws of the components of a path. -/
structure ComponentLaws (filePath : FilePath) : Prop where
  reachesEnd : ∃ steps, (dirName^[steps] filePath).IsEnd
  getComponentsEnds :
    (getComponentsLoop filePath.dirNameFuel filePath []).2.IsEnd ∧
      ∀ more, getComponentsLoop (filePath.dirNameFuel + more) filePath [] =
        getComponentsLoop filePath.dirNameFuel filePath []
  createDirectoryEnds :
    (∃ last, filePath.subpaths.getLast? = some last ∧ last.IsEnd) ∧
      ∀ more, subpathsFrom (filePath.dirNameFuel + more) filePath =
        subpathsFrom filePath.dirNameFuel filePath
  findsComponents : filePath.FindsComponents
  noticesParent : filePath.referencesParent = false →
    kParentDirectory ∉ filePath.getComponents
  /-- Wherever the directory is, all the way from there is below it. -/
  staysBelow : filePath.referencesParent = false → filePath.isAbsolute = false →
    ∀ directory : FilePath,
      (directory.append filePath.path).names = directory.names ++ filePath.names ∧
        ∀ place, ∀ front, front <+: filePath.names →
          walk kDot place directory.names <:+
            walk kDot place (directory.names ++ front)
  leadsToChild : ∀ child,
    ((filePath.appendRelativePath child (some {})).1 = true ↔
        ∃ below, filePath.IsBelow child below) ∧
      ∀ below, filePath.IsBelow child below →
        (filePath.appendRelativePath child (some {})).2 =
          some { path := separatorText.intercalate below }

/-- The laws hold of every path but the current directory with separators behind
it. -/
theorem componentLaws_iff :
    filePath.ComponentLaws ↔ ¬filePath.IsDotDirectory := by
  have enough : filePath.path.length < filePath.dirNameFuel ∨
      filePath.path = kCurrentDirectory := by
    unfold dirNameFuel
    omega
  constructor
  · intro laws
    exact findsComponents_iff.mp laws.findsComponents
  · intro notDot
    refine ⟨exists_isEnd _ enough, getComponentsLoop_ends enough,
      subpathsFrom_ends enough, findsComponents_iff.mpr notDot,
      kParentDirectory_notMem, fun stays relative directory => ?_,
      fun child => ?_⟩
    · exact ⟨names_append_of_relative directory relative, fun place front isFront =>
        suffix_walk_append stays relative place isFront⟩
    · refine ⟨⟨exists_isBelow, fun ⟨below, isBelow⟩ => ?_⟩, fun below isBelow => ?_⟩
      · rw [appendRelativePath_of_isBelow isBelow]
      · rw [appendRelativePath_of_isBelow isBelow]

theorem not_componentLaws :
    ¬∀ filePath : FilePath, filePath.ComponentLaws := by
  intro all
  have finds := (all { path := [kDot, kSeparator] }).findsComponents
  revert finds
  unfold FindsComponents
  decide

end Laws

end FilePath

end AppExecFwk
