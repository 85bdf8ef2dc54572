import Mathlib.Data.List.Infix
import Mathlib.Logic.Function.Basic

/-!
# Path names in a tree of directories

A path is a text with separators; what stands between them are the names to walk
along, where one name stays in a directory and one goes to the directory above.
A place is the list of the names that lead to it from the root, the last one
first, so the places in a directory are those whose list ends with its own.
-/

namespace DirectoryTree

section Names

variable {α : Type} [DecidableEq α] (separator : α)

/-- Put a name in front of others, unless it is empty. -/
def push (name : List α) (names : List (List α)) : List (List α) :=
  if name = [] then names else name :: names

/-- The text in front of the first separator, and the names behind it. -/
def scan : List α → List α × List (List α)
  | [] => ([], [])
  | first :: rest =>
      let (name, names) := scan rest
      if first = separator then ([], push name names) else (first :: name, names)

/-- The names of a path. -/
def names (path : List α) : List (List α) :=
  push (scan separator path).1 (scan separator path).2

variable {separator}

@[simp]
theorem names_nil : names separator [] = [] :=
  rfl

@[simp]
theorem names_separator (path : List α) :
    names separator (separator :: path) = names separator path := by
  simp [names, scan, push]

theorem scan_append (path other : List α) :
    scan separator (path ++ separator :: other) =
      ((scan separator path).1,
        (scan separator path).2 ++ names separator other) := by
  induction path with
  | nil => simp [scan, names]
  | cons first rest ih =>
      simp only [List.cons_append, scan, ih]
      split
      · unfold push
        split <;> simp
      · rfl

/-- A separator ends one name and begins another. -/
theorem names_append_separator (path other : List α) :
    names separator (path ++ separator :: other) =
      names separator path ++ names separator other := by
  unfold names
  rw [scan_append]
  unfold push
  split <;> simp [names, push]

theorem scan_of_notMem {name : List α} (plain : separator ∉ name) :
    scan separator name = (name, []) := by
  induction name with
  | nil => rfl
  | cons first rest ih =>
      simp only [List.mem_cons, not_or] at plain
      simp [scan, ih plain.2, Ne.symm plain.1]

theorem names_of_notMem {name : List α} (plain : separator ∉ name)
    (nonempty : name ≠ []) : names separator name = [name] := by
  simp [names, scan_of_notMem plain, push, nonempty]

/-- Two texts meet at a separator, so no name goes across. -/
def MeetAtSeparator (separator : α) (path other : List α) : Prop :=
  other = [] ∨ other.head? = some separator ∨ path.getLast? = some separator

theorem names_append {path other : List α}
    (meet : MeetAtSeparator separator path other) :
    names separator (path ++ other) =
      names separator path ++ names separator other := by
  rcases meet with rfl | behind | before
  · simp
  · obtain ⟨rest, rfl⟩ := List.head?_eq_some_iff.mp behind
    rw [names_append_separator, names_separator]
  · obtain ⟨start, rfl⟩ := List.getLast?_eq_some_iff.mp before
    rw [List.append_assoc, List.singleton_append, names_append_separator,
      names_append_separator]
    simp

theorem names_append_replicate (path : List α) (count : Nat) :
    names separator (path ++ List.replicate count separator) =
      names separator path := by
  induction count generalizing path with
  | zero => simp
  | succ count ih =>
      rw [List.replicate_succ, names_append_separator]
      have none := ih []
      simp only [List.nil_append, names_nil] at none
      simp [none]

theorem isInfix_of_mem_scan {path name : List α} :
    (scan separator path).1 <+: path ∧
      (name ∈ (scan separator path).2 → name <:+: path) := by
  induction path generalizing name with
  | nil => simp [scan]
  | cons first rest ih =>
      have inRest {name : List α} (member : name ∈ (scan separator rest).2) :
          name <:+: first :: rest :=
        (ih.2 member).trans (List.suffix_cons first rest).isInfix
      by_cases separates : first = separator
      · simp only [scan, if_pos separates]
        refine ⟨List.nil_prefix, fun member => ?_⟩
        unfold push at member
        split at member
        · exact inRest member
        · rcases List.mem_cons.mp member with rfl | member
          · exact (@ih []).1.isInfix.trans (List.suffix_cons first rest).isInfix
          · exact inRest member
      · simp only [scan, if_neg separates]
        exact ⟨List.cons_prefix_cons.mpr ⟨rfl, (@ih []).1⟩, inRest⟩

/-- A name of a path occurs in it. -/
theorem isInfix_of_mem_names {path name : List α}
    (member : name ∈ names separator path) : name <:+: path := by
  have inScan := @isInfix_of_mem_scan _ _ separator path name
  unfold names push at member
  split at member
  · exact inScan.2 member
  · rcases List.mem_cons.mp member with rfl | member
    · exact inScan.1.isInfix
    · exact inScan.2 member

/-- A path without names is nothing but separators. -/
theorem names_eq_nil_iff {path : List α} :
    names separator path = [] ↔ ∀ character ∈ path, character = separator := by
  induction path with
  | nil => simp
  | cons first rest ih =>
      by_cases separates : first = separator
      · subst separates
        rw [names_separator, ih, List.forall_mem_cons]
        exact ⟨fun all => ⟨rfl, all⟩, fun all => all.2⟩
      · simp [names, scan, push, separates]

/-- A name has characters, and none of them is a separator. -/
theorem isName_of_mem_names {path name : List α}
    (member : name ∈ names separator path) : name ≠ [] ∧ separator ∉ name := by
  have scanned : separator ∉ (scan separator path).1 ∧
      ∀ name ∈ (scan separator path).2, name ≠ [] ∧ separator ∉ name := by
    clear member
    induction path with
    | nil => simp [scan]
    | cons first rest ih =>
        obtain ⟨plain, others⟩ := ih
        by_cases separates : first = separator
        · simp only [scan, if_pos separates]
          refine ⟨List.not_mem_nil, fun name member => ?_⟩
          unfold push at member
          split at member
          · exact others name member
          · next present =>
              rcases List.mem_cons.mp member with rfl | member
              · exact ⟨present, plain⟩
              · exact others name member
        · simp only [scan, if_neg separates, List.mem_cons, not_or]
          exact ⟨⟨Ne.symm separates, plain⟩, others⟩
  unfold names push at member
  split at member
  · exact scanned.2 name member
  · next present =>
      rcases List.mem_cons.mp member with rfl | member
      · exact ⟨present, scanned.1⟩
      · exact scanned.2 name member

end Names

/-- A place in the tree. -/
abbrev Place (α : Type) := List (List α)

section Walk

variable {α : Type} [DecidableEq α] (dot : α)

/-- A name that only a directory entry can have. -/
def IsPlain (name : List α) : Prop :=
  name ≠ [dot] ∧ name ≠ [dot, dot]

instance (name : List α) : Decidable (IsPlain dot name) :=
  inferInstanceAs (Decidable (_ ∧ _))

/-- Where a name leads from a place; there is nothing above the root. -/
def step (place : Place α) (name : List α) : Place α :=
  if name = [dot] then place
  else if name = [dot, dot] then place.tail
  else name :: place

/-- Where the names lead one after the other. -/
def walk (place : Place α) (names : List (List α)) : Place α :=
  names.foldl (step dot) place

variable {dot}

@[simp]
theorem walk_nil (place : Place α) : walk dot place [] = place :=
  rfl

theorem walk_append (place : Place α) (names others : List (List α)) :
    walk dot place (names ++ others) = walk dot (walk dot place names) others :=
  List.foldl_append

theorem walk_concat (place : Place α) (names : List (List α)) (name : List α) :
    walk dot place (names ++ [name]) = step dot (walk dot place names) name := by
  rw [walk_append]
  rfl

theorem step_of_isPlain {name : List α} (plain : IsPlain dot name)
    (place : Place α) : step dot place name = name :: place := by
  unfold step
  rw [if_neg plain.1, if_neg plain.2]

/-- Names that do not lead upwards lead further into a directory. -/
theorem suffix_walk {names : List (List α)} (stays : [dot, dot] ∉ names)
    (place : Place α) : place <:+ walk dot place names := by
  induction names generalizing place with
  | nil => exact List.suffix_refl place
  | cons name names ih =>
      simp only [List.mem_cons, not_or] at stays
      have inside := ih stays.2 (step dot place name)
      refine List.IsSuffix.trans ?_ inside
      unfold step
      rw [if_neg (Ne.symm stays.1)]
      split
      · exact List.suffix_refl place
      · exact List.suffix_cons name place

/-- A walk comes along no other names than the given ones. -/
theorem mem_walk {names : List (List α)} {place : Place α} {name : List α}
    (member : name ∈ walk dot place names) : name ∈ place ∨ name ∈ names := by
  induction names generalizing place with
  | nil => exact .inl member
  | cons first names ih =>
      rcases ih member with before | inNames
      · unfold step at before
        split at before
        · exact .inl before
        · split at before
          · exact .inl (List.mem_of_mem_tail before)
          · rcases List.mem_cons.mp before with rfl | before
            · exact .inr List.mem_cons_self
            · exact .inl before
      · exact .inr (List.mem_cons_of_mem _ inNames)

end Walk

/-- What stands at a place. -/
inductive FileKind where
  | directory
  | file
  deriving DecidableEq

/-- A tree of files, each of them in a directory. -/
structure FileTree (α : Type) where
  kind : Place α → Option FileKind
  root : kind [] = some .directory
  inDirectory : ∀ name place, kind (name :: place) ≠ none →
    kind place = some .directory

namespace FileTree

variable {α : Type} [DecidableEq α]

/-- Put a new file or directory into a directory. -/
def create (tree : FileTree α) (kind : FileKind) (name : List α) (place : Place α)
    (directory : tree.kind place = some .directory)
    (free : tree.kind (name :: place) = none) : FileTree α where
  kind := Function.update tree.kind (name :: place) (some kind)
  root := by
    rw [Function.update_of_ne (by simp)]
    exact tree.root
  inDirectory := by
    intro other above present
    by_cases same : other :: above = name :: place
    · cases same
      rw [Function.update_of_ne (List.cons_ne_self name place).symm]
      exact directory
    · rw [Function.update_of_ne same] at present
      have parent := tree.inDirectory other above present
      rw [Function.update_of_ne]
      · exact parent
      · rintro rfl
        rw [free] at parent
        cases parent

theorem create_kind (tree : FileTree α) (kind : FileKind) (name : List α)
    (place other : Place α) (directory : tree.kind place = some .directory)
    (free : tree.kind (name :: place) = none) :
    (tree.create kind name place directory free).kind other =
      if other = name :: place then some kind else tree.kind other := by
  unfold create
  simp only [Function.update_apply]

/-- What stands in the tree stays there. -/
theorem create_keeps {tree : FileTree α} {kind present : FileKind} {name : List α}
    {place other : Place α} (directory : tree.kind place = some .directory)
    (free : tree.kind (name :: place) = none)
    (stands : tree.kind other = some present) :
    (tree.create kind name place directory free).kind other = some present := by
  rw [create_kind, if_neg]
  · exact stands
  · rintro rfl
    rw [free] at stands
    cases stands

/-- Walk along names through directories. -/
def traverse (dot : α) (tree : FileTree α) :
    Place α → List (List α) → Option (Place α)
  | place, [] => some place
  | place, name :: names =>
      if tree.kind place = some .directory then
        traverse dot tree (step dot place name) names
      else none

variable {dot : α} {tree : FileTree α} {place found : Place α}

theorem traverse_eq_some {names : List (List α)} :
    tree.traverse dot place names = some found ↔
      found = walk dot place names ∧
        ∀ before name after, names = before ++ name :: after →
          tree.kind (walk dot place before) = some .directory := by
  induction names generalizing place with
  | nil => simp [traverse, eq_comm]
  | cons first names ih =>
      unfold traverse
      split
      · next directory =>
          rw [ih]
          refine and_congr_right fun _ => ⟨?_, ?_⟩
          · intro rest before name after split
            rcases List.cons_eq_append_iff.mp split with ⟨rfl, -⟩ | ⟨tail, rfl, inRest⟩
            · exact directory
            · exact rest tail name after inRest
          · intro all before name after split
            exact all (first :: before) name after (by rw [split]; rfl)
      · next blocked =>
          simp only [reduceCtorEq, false_iff, not_and, not_forall]
          intro _
          exact ⟨[], first, names, rfl, blocked⟩

theorem traverse_append {names others : List (List α)} :
    tree.traverse dot place (names ++ others) =
      (tree.traverse dot place names).bind fun found =>
        tree.traverse dot found others := by
  induction names generalizing place with
  | nil => rfl
  | cons name names ih =>
      simp only [List.cons_append, traverse, ih]
      split
      · rfl
      · rfl

/-- What stands above a file or directory is a directory. -/
theorem kind_of_suffix {above : Place α} (present : tree.kind place ≠ none)
    (inside : above <:+ place) (apart : above ≠ place) :
    tree.kind above = some .directory := by
  induction place with
  | nil => exact absurd (List.suffix_nil.mp inside) apart
  | cons name place ih =>
      have directory := tree.inDirectory name place present
      rcases List.suffix_cons_iff.mp inside with same | inside
      · exact absurd same apart
      · by_cases same : above = place
        · rw [same]
          exact directory
        · exact ih (by rw [directory]; simp) inside same

theorem kind_of_suffix_directory {above : Place α}
    (directory : tree.kind place = some .directory) (inside : above <:+ place) :
    tree.kind above = some .directory := by
  by_cases same : above = place
  · rw [same]
    exact directory
  · exact kind_of_suffix (by rw [directory]; simp) inside same

end FileTree

end DirectoryTree
