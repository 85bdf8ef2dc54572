import Mathlib.Data.List.TakeWhile
import AppExecFwk.Installd.FileSystem
import AppExecFwk.Library.PlaceSums

/-!
# A tree of files at rest

A call that only looks at files sees a tree without symbolic links that stays as it
is, in which every system call works.  `realpath` then turns a path into the one
that has the names of its place, and such a path leads back to the place.
-/

namespace AppExecFwk

open DirectoryTree FilePath

/-- A tree of files, the size that `stat` tells of each, and the order in which each
directory lists its entries.  No name has a zero byte. -/
structure QuietTree extends Tree where
  noZero : ∀ name place, name :: place ∈ files → (0 : UInt8) ∉ name
  stSize : Place UInt8 → Nat
  listing : Place UInt8 → ListingOrder

/-- The path with the names of a place. -/
def pathOf (place : Place UInt8) : ByteString :=
  if place = [] then [kSeparator]
  else place.reverse.flatMap fun name => kSeparator :: name

/-- A path that another one can be put behind. -/
def delimited (path : ByteString) : ByteString :=
  if path.getLast? = some kSeparator then path else path ++ [kSeparator]

namespace QuietTree

variable (tree : QuietTree)

def isDirectory (place : Place UInt8) : Bool :=
  (tree.files[place]?.map Node.kind) = some .directory

/-- Where the names lead, through directories. -/
def follow : Place UInt8 → List ByteString → Option (Place UInt8)
  | place, [] => if place ∈ tree.files then some place else none
  | place, name :: rest =>
      if tree.isDirectory place then follow (step kDot place name) rest else none

/-- The place that a path leads to. -/
def lookUp (path : ByteString) : Option (Place UInt8) :=
  if cString path = [] then none
  else tree.follow [] (names kSeparator (cString path))

def pathToRealPath (path : ByteString) : Option ByteString :=
  (tree.lookUp path).map pathOf

def opendir (path : ByteString) : Option (List Dirent) :=
  (tree.lookUp path).bind fun place =>
    if tree.isDirectory place then
      some ((tree.listing place).arrange (tree.files.entries place))
    else none

def stat (path : ByteString) : Option Nat :=
  (tree.lookUp path).map tree.stSize

/-- All places of the tree. -/
def places : Finset (Place UInt8) :=
  tree.files.keys.toFinset

end QuietTree

section Paths

variable {tree : QuietTree} {place other : Place UInt8} {name path : ByteString}

/-- A place with names that entries can have. -/
def IsNamed (place : Place UInt8) : Prop :=
  ∀ name ∈ place, IsFileName name ∧ (0 : UInt8) ∉ name

theorem pathOf_ne_nil : pathOf place ≠ [] := by
  unfold pathOf
  split
  · exact List.cons_ne_nil _ _
  · next some =>
      obtain ⟨names, name, isConcat⟩ := List.eq_nil_or_concat place |>.resolve_left some
      rw [isConcat]
      simp

theorem pathOf_cons (name : ByteString) (place : Place UInt8) :
    pathOf (name :: place) =
      (if place = [] then [] else pathOf place) ++ kSeparator :: name := by
  rw [pathOf, if_neg (List.cons_ne_nil name place), List.reverse_cons,
    List.flatMap_append]
  split
  · next empty =>
      subst empty
      simp
  · next some =>
      rw [pathOf, if_neg some]
      simp

theorem names_pathOf (named : IsNamed place) :
    names kSeparator (pathOf place) = place.reverse := by
  induction place with
  | nil => rfl
  | cons name place ih =>
      have isName := (named name List.mem_cons_self).1
      have above : names kSeparator (if place = [] then [] else pathOf place) =
          place.reverse := by
        split
        · next empty =>
            subst empty
            rfl
        · exact ih fun other member => named other (List.mem_cons_of_mem name member)
      rw [pathOf_cons, names_append_separator, above,
        names_of_notMem isName.2.1 isName.1, List.reverse_cons]

theorem cString_pathOf (named : IsNamed place) : cString (pathOf place) = pathOf place := by
  rw [cString, List.takeWhile_eq_self_iff]
  intro character member
  rw [decide_eq_true_iff]
  rintro rfl
  unfold pathOf at member
  split at member
  · exact absurd (List.mem_singleton.mp member) (by decide)
  · obtain ⟨name, nameMem, inName⟩ := List.mem_flatMap.mp member
    rcases List.mem_cons.mp inName with isSeparator | inName
    · exact absurd isSeparator (by decide)
    · exact (named name (List.mem_reverse.mp nameMem)).2 inName

/-- The path of an entry is the one of its directory, a separator and its name. -/
theorem delimited_pathOf (named : IsNamed place) (name : ByteString) :
    delimited (pathOf place) ++ name = pathOf (name :: place) := by
  rw [pathOf_cons]
  cases place with
  | nil => rfl
  | cons last place =>
      obtain ⟨⟨nonempty, noSeparator, -⟩, -⟩ := named last List.mem_cons_self
      have ends : (pathOf (last :: place)).getLast? = last.getLast? := by
        rw [pathOf_cons, ← List.singleton_append, ← List.append_assoc,
          List.getLast?_append_of_ne_nil _ nonempty]
      have notSeparator : last.getLast? ≠ some kSeparator := by
        intro isSeparator
        exact noSeparator (List.mem_of_getLast? isSeparator)
      rw [delimited, ends, if_neg notSeparator, if_neg (List.cons_ne_nil last place)]
      simp

end Paths

namespace QuietTree

variable {tree : QuietTree} {place other : Place UInt8} {name path : ByteString}

@[simp]
theorem mem_places : place ∈ tree.places ↔ place ∈ tree.files := by
  simp [places]

theorem isDirectory_of_cons (member : name :: place ∈ tree.files) :
    tree.isDirectory place = true :=
  decide_eq_true (tree.inDirectory name place member)

theorem mem_of_isDirectory (directory : tree.isDirectory place = true) :
    place ∈ tree.files := by
  rw [Files.mem_iff]
  intro absent
  rw [isDirectory, absent] at directory
  cases directory

theorem isRooted : IsRooted tree.places := by
  intro name place member
  rw [mem_places] at member ⊢
  exact .inl (mem_of_isDirectory (isDirectory_of_cons member))

theorem isNamed_of_mem (member : place ∈ tree.files) : IsNamed place := by
  induction place with
  | nil => exact nofun
  | cons name place ih =>
      have above := ih (mem_of_isDirectory (isDirectory_of_cons member))
      intro other otherMem
      rcases List.mem_cons.mp otherMem with rfl | inPlace
      · exact ⟨tree.named _ _ member, tree.noZero _ _ member⟩
      · exact above other inPlace

/-- The names of a place in the tree lead to it. -/
theorem follow_reverse (member : place ∈ tree.files) (rest : List ByteString) :
    tree.follow [] (place.reverse ++ rest) = tree.follow place rest := by
  induction place generalizing rest with
  | nil => rfl
  | cons name place ih =>
      have directory := isDirectory_of_cons member
      rw [List.reverse_cons, List.append_assoc, List.singleton_append,
        ih (mem_of_isDirectory directory), follow, if_pos directory,
        step_of_isPlain (tree.named name place member).2.2]

theorem lookUp_pathOf (member : place ∈ tree.files) :
    tree.lookUp (pathOf place) = some place := by
  have named := isNamed_of_mem member
  have found := follow_reverse member []
  rw [lookUp, cString_pathOf named, if_neg pathOf_ne_nil, names_pathOf named]
  rw [List.append_nil] at found
  rw [found, follow, if_pos member]

theorem mem_of_follow {names : List ByteString}
    (found : tree.follow place names = some other) : other ∈ tree.files := by
  induction names generalizing place with
  | nil =>
      unfold follow at found
      split at found
      · next member =>
          cases found
          exact member
      · cases found
  | cons name names ih =>
      unfold follow at found
      split at found
      · exact ih found
      · cases found

theorem mem_of_lookUp (found : tree.lookUp path = some place) : place ∈ tree.files := by
  unfold lookUp at found
  split at found
  · cases found
  · exact mem_of_follow found

theorem pathToRealPath_of_lookUp (found : tree.lookUp path = some place) :
    tree.pathToRealPath path = some (pathOf place) := by
  rw [pathToRealPath, found]
  rfl

theorem opendir_pathOf (member : place ∈ tree.files) :
    tree.opendir (pathOf place) =
      if tree.isDirectory place then
        some ((tree.listing place).arrange (tree.files.entries place))
      else none := by
  rw [opendir, lookUp_pathOf member]
  rfl

theorem stat_pathOf (member : place ∈ tree.files) :
    tree.stat (pathOf place) = some (tree.stSize place) := by
  rw [stat, lookUp_pathOf member]
  rfl

/-- Nothing stands below what is no directory. -/
theorem below_eq_empty (file : tree.isDirectory place = false) :
    below tree.places place = ∅ := by
  rw [Finset.eq_empty_iff_forall_notMem]
  intro other member
  obtain ⟨otherMem, strictly⟩ := mem_below.mp member
  obtain ⟨names, name, rfl⟩ := suffix_iff_append.mp strictly
  have child : name :: place ∈ tree.places :=
    isRooted.mem_of_append (List.cons_ne_nil name place) otherMem
  rw [isDirectory_of_cons (mem_places.mp child)] at file
  cases file

end QuietTree

end AppExecFwk
