import Mathlib.Algebra.GroupWithZero.Nat
import Mathlib.Algebra.Order.BigOperators.Group.Finset
import AppExecFwk.Installd.QuietTree
import AppExecFwk.Installd.InstalldHost

/-!
# Disk usage

`GetDiskUsage` adds up the sizes of all that stands below a directory, and
`TraverseCacheDirectory` collects the directories named cache that are not inside
another one.  Both call themselves for the directories they find; how often they may
do so is a number that the tree bounds.
-/

namespace AppExecFwk

open DirectoryTree FilePath Finset

/-- A sum in 64 bits. -/
def addInt64 (first second : Int) : Int :=
  (first + second).bmod (2 ^ 64)

theorem addInt64_eq {first second : Int} (nonneg : 0 ≤ first + second)
    (fits : first + second < 2 ^ 63) : addInt64 first second = first + second := by
  apply Int.bmod_eq_of_le <;> omega

namespace InstalldOperator

def pathMaxSize : Nat := 256
def cacheDir : ByteString := bytes "cache"

/-- The entries of a directory for itself and for the one above it. -/
def IsDots (name : ByteString) : Prop :=
  name = kCurrentDirectory ∨ name = kParentDirectory

instance (name : ByteString) : Decidable (IsDots name) :=
  inferInstanceAs (Decidable (_ ∨ _))

section Functions

variable (tree : QuietTree)

/-- What the loop of `GetDiskUsage` does with an entry. -/
def addEntry (usage : ByteString → Int) (filePath : ByteString) (size : Int)
    (entry : Dirent) : Int :=
  if IsDots entry.name then size
  else
    match tree.pathToRealPath (filePath ++ entry.name) with
    | none => size
    | some realPath =>
        let size := addInt64 size ((tree.stat realPath).getD 0)
        if entry.isDirectory then addInt64 size (usage realPath) else size

def getDiskUsage : Nat → ByteString → Int
  | 0, _ => 0
  | calls + 1, dir =>
      if dir = [] ∨ dir.length > pathMaxSize then 0
      else
        match tree.pathToRealPath dir with
        | none => 0
        | some filePath =>
            match tree.opendir filePath with
            | none => 0
            | some entries =>
                entries.foldl
                  (addEntry tree (getDiskUsage calls) (delimited filePath)) 0

/-- What the loop of `TraverseCacheDirectory` does with an entry. -/
def collectEntry (traverse : ByteString → List ByteString → List ByteString)
    (filePath : ByteString) (cacheDirs : List ByteString) (ptr : Dirent) :
    List ByteString :=
  if IsDots ptr.name then cacheDirs
  else if ptr.isDirectory && ptr.name = cacheDir then
    cacheDirs ++ [filePath ++ ptr.name]
  else if ptr.isDirectory then traverse (filePath ++ ptr.name) cacheDirs
  else cacheDirs

def traverseCacheDirectory : Nat → ByteString → List ByteString → List ByteString
  | 0, _, cacheDirs => cacheDirs
  | calls + 1, currentPath, cacheDirs =>
      if currentPath = [] ∨ currentPath.length > pathMaxSize then cacheDirs
      else
        match tree.pathToRealPath currentPath with
        | none => cacheDirs
        | some filePath =>
            match tree.opendir filePath with
            | none => cacheDirs
            | some entries =>
                entries.foldl
                  (collectEntry (traverseCacheDirectory calls) (delimited filePath))
                  cacheDirs

def getDiskUsageFromPath (calls : Nat) (path : List ByteString) : Int :=
  path.foldl (fun fileSize st => addInt64 fileSize (getDiskUsage tree calls st)) 0

end Functions

end InstalldOperator

namespace QuietTree

open InstalldOperator

variable (tree : QuietTree)

/-- The size of all that stands below a place. -/
def sizeBelow (place : Place UInt8) : Nat :=
  ∑ other ∈ below tree.places place, tree.stSize other

/-- The size of all below a place that stands inside a directory named cache there. -/
def cacheBelow (place : Place UInt8) : Nat :=
  ∑ other ∈ below tree.places place with DirectoryTree.IsInside cacheDir place other,
    tree.stSize other

/-- The size of all below a place that does not stand inside such a directory. -/
def localBelow (place : Place UInt8) : Nat :=
  ∑ other ∈ below tree.places place with ¬DirectoryTree.IsInside cacheDir place other,
    tree.stSize other

/-- Calls that go from a place down to all below it. -/
def Suffices (calls : Nat) (place : Place UInt8) : Prop :=
  ∀ other ∈ tree.files, place <:+ other → other.length < place.length + calls

/-- The paths of all that stands below a place are not too long. -/
def IsShort (place : Place UInt8) : Prop :=
  ∀ other ∈ below tree.places place, (pathOf other).length ≤ pathMaxSize

variable {tree} {place other : Place UInt8} {name : ByteString} {calls : Nat}

theorem cacheBelow_add_localBelow (tree : QuietTree) (place : Place UInt8) :
    tree.cacheBelow place + tree.localBelow place = tree.sizeBelow place :=
  sum_filter_add_sum_filter_not _ _ _

theorem sizeBelow_eq_sum_children : tree.sizeBelow place =
    ∑ child ∈ children tree.places place, (tree.stSize child + tree.sizeBelow child) :=
  sum_below isRooted place tree.stSize

theorem cacheBelow_eq_sum_children : tree.cacheBelow place =
    ∑ child ∈ children tree.places place,
      if child.head? = some cacheDir then tree.sizeBelow child
      else tree.cacheBelow child :=
  sum_inside isRooted cacheDir place tree.stSize

theorem sizeBelow_of_file (file : tree.isDirectory place = false) :
    tree.sizeBelow place = 0 := by
  rw [sizeBelow, below_eq_empty file, sum_empty]

theorem cacheBelow_of_file (file : tree.isDirectory place = false) :
    tree.cacheBelow place = 0 := by
  rw [cacheBelow, below_eq_empty file, filter_empty, sum_empty]

theorem below_child_subset :
    below tree.places (name :: place) ⊆ below tree.places place := by
  intro other member
  obtain ⟨otherMem, ⟨names, rfl⟩, -⟩ := mem_below.mp member
  exact mem_below.mpr ⟨otherMem, suffix_iff_append.mpr ⟨names, name, rfl⟩⟩

theorem sizeBelow_child_le : tree.sizeBelow (name :: place) ≤ tree.sizeBelow place :=
  sum_le_sum_of_subset below_child_subset

theorem Suffices.child (suffices' : tree.Suffices (calls + 1) place) :
    tree.Suffices calls (name :: place) := by
  intro other member inside
  have bound := suffices' other member ((List.suffix_cons name place).trans inside)
  rw [List.length_cons]
  omega

theorem IsShort.child (short : tree.IsShort place) : tree.IsShort (name :: place) := by
  intro other member
  exact short other (below_child_subset member)

theorem IsShort.length_le (short : tree.IsShort place)
    (member : name :: place ∈ tree.files) :
    (pathOf (name :: place)).length ≤ pathMaxSize :=
  short _ (mem_below.mpr
    ⟨mem_places.mpr member, suffix_iff_append.mpr ⟨[], name, rfl⟩⟩)

theorem sum_map_filterMap {α β : Type*} (choose : α → Option β) (weight : β → Nat)
    (items : List α) :
    ((items.filterMap choose).map weight).sum =
      (items.map fun item => ((choose item).map weight).getD 0).sum := by
  induction items with
  | nil => rfl
  | cons item items ih =>
      rw [List.filterMap_cons, List.map_cons, List.sum_cons, ← ih]
      cases choose item with
      | none => simp
      | some value => simp

/-- A sum over the entries that a directory lists, without the dots, is a sum over its
children. -/
theorem sum_entries (tree : QuietTree) (place : Place UInt8)
    (weight : Place UInt8 → Nat) :
    (((tree.listing place).arrange (tree.files.entries place)).map fun entry =>
        if IsDots entry.name then 0 else weight (entry.name :: place)).sum =
      ∑ child ∈ children tree.places place, weight child := by
  have anyOrder := ((tree.listing place).perm (tree.files.entries place)).map
    fun entry : Dirent => if IsDots entry.name then 0 else weight (entry.name :: place)
  have dots : IsDots kCurrentDirectory ∧ IsDots kParentDirectory :=
    ⟨.inl rfl, .inr rfl⟩
  rw [anyOrder.sum_eq, Files.entries, List.map_cons, List.map_cons, List.sum_cons,
    List.sum_cons, if_pos dots.1, if_pos dots.2, zero_add, zero_add, sum_map_filterMap,
    children, sum_filter, places, List.sum_toFinset _ tree.files.nodup_keys,
    ← Std.ExtTreeMap.map_fst_toList_eq_keys, List.map_map]
  congr 1
  apply List.map_congr_left
  rintro ⟨other, node⟩ member
  have present : other ∈ tree.files := by
    rw [← Std.ExtTreeMap.mem_keys, ← Std.ExtTreeMap.map_fst_toList_eq_keys]
    exact List.mem_map_of_mem member
  cases other with
  | nil => rfl
  | cons name above =>
      have notDots : ¬IsDots name := by
        rintro (rfl | rfl)
        · exact (tree.named _ _ present).2.2.1 rfl
        · exact (tree.named _ _ present).2.2.2 rfl
      by_cases same : above = place
      · subst same
        simp [notDots]
      · simp [same]

/-- An entry that is not one of the dots stands in the directory. -/
theorem mem_of_mem_entries {entry : Dirent} (member : entry ∈ tree.files.entries place)
    (notDots : ¬IsDots entry.name) : entry.name :: place ∈ tree.files ∧
      entry.isDirectory = tree.isDirectory (entry.name :: place) := by
  rcases Files.mem_entries.mp member with rfl | rfl | ⟨node, present, kind⟩
  · exact absurd (.inl rfl) notDots
  · exact absurd (.inr rfl) notDots
  · constructor
    · rw [Files.mem_iff, present]
      exact Option.some_ne_none node
    · rw [kind, isDirectory, present]
      simp

section Usage

variable {usage : ByteString → Int} {entries : List Dirent} {size : Nat}

theorem addEntry_eq {entry : Dirent} (atPlace : place ∈ tree.files)
    (member : entry ∈ tree.files.entries place)
    (usageEq : ∀ name, name :: place ∈ tree.files →
      usage (pathOf (name :: place)) = tree.sizeBelow (name :: place))
    (fits : size + (if IsDots entry.name then 0
      else tree.stSize (entry.name :: place) + tree.sizeBelow (entry.name :: place)) <
        2 ^ 63) :
    addEntry tree usage (delimited (pathOf place)) size entry =
      ((size + if IsDots entry.name then 0
        else tree.stSize (entry.name :: place) +
          tree.sizeBelow (entry.name :: place) : Nat) : Int) := by
  unfold addEntry
  by_cases dots : IsDots entry.name
  · rw [if_pos dots, if_pos dots, Nat.add_zero]
  · obtain ⟨present, kind⟩ := mem_of_mem_entries member dots
    rw [if_neg dots] at fits
    rw [if_neg dots, if_neg dots, delimited_pathOf (isNamed_of_mem atPlace),
      pathToRealPath_of_lookUp (lookUp_pathOf present)]
    simp only [stat_pathOf present, Option.getD_some]
    have sum : addInt64 size (tree.stSize (entry.name :: place)) =
        size + tree.stSize (entry.name :: place) :=
      addInt64_eq (by omega) (by omega)
    rw [sum, usageEq _ present]
    split
    · rw [addInt64_eq (by omega) (by omega)]
      omega
    · next file =>
        rw [kind, Bool.not_eq_true] at file
        rw [sizeBelow_of_file file]
        rfl

theorem foldl_addEntry (size : Nat) (atPlace : place ∈ tree.files)
    (members : ∀ entry ∈ entries, entry ∈ tree.files.entries place)
    (usageEq : ∀ name, name :: place ∈ tree.files →
      usage (pathOf (name :: place)) = tree.sizeBelow (name :: place))
    (fits : size + (entries.map fun entry => if IsDots entry.name then 0
      else tree.stSize (entry.name :: place) +
        tree.sizeBelow (entry.name :: place)).sum < 2 ^ 63) :
    entries.foldl (addEntry tree usage (delimited (pathOf place))) size =
      ((size + (entries.map fun entry => if IsDots entry.name then 0
        else tree.stSize (entry.name :: place) +
          tree.sizeBelow (entry.name :: place)).sum : Nat) : Int) := by
  induction entries generalizing size with
  | nil => simp
  | cons entry entries ih =>
      rw [List.forall_mem_cons] at members
      rw [List.map_cons, List.sum_cons, ← Nat.add_assoc] at fits ⊢
      rw [List.foldl_cons, addEntry_eq atPlace members.1 usageEq (by omega)]
      exact ih _ members.2 fits

/-- `GetDiskUsage` of a path returns the size of all that stands below its place. -/
theorem getDiskUsage_eq {dir : ByteString} (found : tree.lookUp dir = some place)
    (dirShort : dir.length ≤ pathMaxSize) (suffices' : tree.Suffices calls place)
    (short : tree.IsShort place) (fits : tree.sizeBelow place < 2 ^ 63) :
    getDiskUsage tree calls dir = tree.sizeBelow place := by
  induction calls generalizing place dir with
  | zero =>
      have bound := suffices' place (mem_of_lookUp found) (List.suffix_refl place)
      omega
  | succ calls ih =>
      have atPlace := mem_of_lookUp found
      have nonempty : dir ≠ [] := by
        rintro rfl
        cases found
      rw [getDiskUsage, if_neg (by simp [nonempty, dirShort]),
        pathToRealPath_of_lookUp found]
      simp only [opendir_pathOf atPlace]
      by_cases directory : tree.isDirectory place = true
      · rw [if_pos directory]
        have usageEq : ∀ name, name :: place ∈ tree.files →
            getDiskUsage tree calls (pathOf (name :: place)) =
              tree.sizeBelow (name :: place) := by
          intro name member
          apply ih (lookUp_pathOf member) (short.length_le member) suffices'.child
            short.child
          exact sizeBelow_child_le.trans_lt fits
        have members : ∀ entry ∈ (tree.listing place).arrange (tree.files.entries place),
            entry ∈ tree.files.entries place :=
          fun entry => ((tree.listing place).perm _).mem_iff.mp
        have total := sum_entries tree place fun child =>
          tree.stSize child + tree.sizeBelow child
        rw [← sizeBelow_eq_sum_children] at total
        have sum := foldl_addEntry 0 atPlace members usageEq
          (by rw [total, Nat.zero_add]; exact fits)
        rw [total, Nat.zero_add] at sum
        exact sum
      · rw [if_neg directory, sizeBelow_of_file (Bool.eq_false_of_not_eq_true directory)]
        rfl

end Usage

section Caches

variable {traverse : ByteString → List ByteString → List ByteString}
  {entries : List Dirent} {cacheDirs collected : List ByteString}

/-- The collected paths are those that were there before and the paths of directories
below a place, below which a given size stands in all. -/
def Collects (tree : QuietTree) (place : Place UInt8) (cacheDirs : List ByteString)
    (size : Nat) (collected : List ByteString) : Prop :=
  ∃ caches : List (Place UInt8), collected = cacheDirs ++ caches.map pathOf ∧
    (∀ cache ∈ caches, cache ∈ below tree.places place) ∧
    (caches.map tree.sizeBelow).sum = size

theorem Collects.refl : tree.Collects place cacheDirs 0 cacheDirs :=
  ⟨[], by simp, nofun, rfl⟩

theorem Collects.trans {middle : List ByteString} {first second : Nat}
    (begins : tree.Collects place cacheDirs first middle)
    (ends : tree.Collects place middle second collected) :
    tree.Collects place cacheDirs (first + second) collected := by
  obtain ⟨caches, rfl, inside, size⟩ := begins
  obtain ⟨others, rfl, othersInside, othersSize⟩ := ends
  refine ⟨caches ++ others, by simp, ?_, ?_⟩
  · intro cache member
    rcases List.mem_append.mp member with earlier | later
    · exact inside cache earlier
    · exact othersInside cache later
  · rw [List.map_append, List.sum_append, size, othersSize]

theorem Collects.of_child {size : Nat}
    (collects : tree.Collects (name :: place) cacheDirs size collected) :
    tree.Collects place cacheDirs size collected := by
  obtain ⟨caches, rfl, inside, sum⟩ := collects
  exact ⟨caches, rfl, fun cache member => below_child_subset (inside cache member), sum⟩

theorem collects_collectEntry {entry : Dirent} (atPlace : place ∈ tree.files)
    (member : entry ∈ tree.files.entries place)
    (traverseEq : ∀ name cacheDirs, name :: place ∈ tree.files →
      tree.Collects (name :: place) cacheDirs (tree.cacheBelow (name :: place))
        (traverse (pathOf (name :: place)) cacheDirs)) :
    tree.Collects place cacheDirs
      (if IsDots entry.name then 0
        else if entry.name = cacheDir then tree.sizeBelow (entry.name :: place)
        else tree.cacheBelow (entry.name :: place))
      (collectEntry traverse (delimited (pathOf place)) cacheDirs entry) := by
  unfold collectEntry
  by_cases dots : IsDots entry.name
  · rw [if_pos dots, if_pos dots]
    exact .refl
  · obtain ⟨present, kind⟩ := mem_of_mem_entries member dots
    rw [if_neg dots, if_neg dots, delimited_pathOf (isNamed_of_mem atPlace), kind]
    by_cases directory : tree.isDirectory (entry.name :: place) = true
    · simp only [directory, Bool.true_and, decide_eq_true_iff, if_true]
      split
      · refine ⟨[entry.name :: place], rfl, ?_, by simp⟩
        intro cache isCache
        obtain rfl := List.mem_singleton.mp isCache
        exact mem_below.mpr
          ⟨mem_places.mpr present, suffix_iff_append.mpr ⟨[], entry.name, rfl⟩⟩
      · exact (traverseEq entry.name cacheDirs present).of_child
    · have file := Bool.eq_false_of_not_eq_true directory
      simp only [file, Bool.false_and, Bool.false_eq_true, if_false,
        sizeBelow_of_file file, cacheBelow_of_file file, ite_self]
      exact .refl

theorem collects_foldl (cacheDirs : List ByteString) (atPlace : place ∈ tree.files)
    (members : ∀ entry ∈ entries, entry ∈ tree.files.entries place)
    (traverseEq : ∀ name cacheDirs, name :: place ∈ tree.files →
      tree.Collects (name :: place) cacheDirs (tree.cacheBelow (name :: place))
        (traverse (pathOf (name :: place)) cacheDirs)) :
    tree.Collects place cacheDirs
      (entries.map fun entry => if IsDots entry.name then 0
        else if entry.name = cacheDir then tree.sizeBelow (entry.name :: place)
        else tree.cacheBelow (entry.name :: place)).sum
      (entries.foldl (collectEntry traverse (delimited (pathOf place))) cacheDirs) := by
  induction entries generalizing cacheDirs with
  | nil => exact .refl
  | cons entry entries ih =>
      rw [List.forall_mem_cons] at members
      rw [List.map_cons, List.sum_cons, List.foldl_cons]
      exact (collects_collectEntry atPlace members.1 traverseEq).trans
        (ih _ members.2)

/-- `TraverseCacheDirectory` collects directories with all that stands inside a
directory named cache, none of it twice. -/
theorem collects_traverseCacheDirectory {currentPath : ByteString}
    (cacheDirs : List ByteString) (found : tree.lookUp currentPath = some place)
    (pathShort : currentPath.length ≤ pathMaxSize)
    (suffices' : tree.Suffices calls place) (short : tree.IsShort place) :
    tree.Collects place cacheDirs (tree.cacheBelow place)
      (traverseCacheDirectory tree calls currentPath cacheDirs) := by
  induction calls generalizing place currentPath cacheDirs with
  | zero =>
      have bound := suffices' place (mem_of_lookUp found) (List.suffix_refl place)
      omega
  | succ calls ih =>
      have atPlace := mem_of_lookUp found
      have nonempty : currentPath ≠ [] := by
        rintro rfl
        cases found
      rw [traverseCacheDirectory, if_neg (by simp [nonempty, pathShort]),
        pathToRealPath_of_lookUp found]
      simp only [opendir_pathOf atPlace]
      by_cases directory : tree.isDirectory place = true
      · rw [if_pos directory]
        have traverseEq : ∀ name cacheDirs, name :: place ∈ tree.files →
            tree.Collects (name :: place) cacheDirs (tree.cacheBelow (name :: place))
              (traverseCacheDirectory tree calls (pathOf (name :: place)) cacheDirs) := by
          intro name cacheDirs member
          exact ih cacheDirs (lookUp_pathOf member) (short.length_le member)
            suffices'.child short.child
        have members : ∀ entry ∈ (tree.listing place).arrange (tree.files.entries place),
            entry ∈ tree.files.entries place :=
          fun entry => ((tree.listing place).perm _).mem_iff.mp
        have total := sum_entries tree place fun child =>
          if child.head? = some cacheDir then tree.sizeBelow child
          else tree.cacheBelow child
        simp only [List.head?_cons, Option.some.injEq] at total
        rw [cacheBelow_eq_sum_children, ← total]
        exact collects_foldl cacheDirs atPlace members traverseEq
      · rw [if_neg directory,
          cacheBelow_of_file (Bool.eq_false_of_not_eq_true directory)]
        exact .refl

end Caches

end QuietTree

end AppExecFwk
