import Std.Data.ExtTreeMap.Lemmas
import AppExecFwk.Archive.FilePath
import AppExecFwk.Info.ErrCode
import AppExecFwk.Library.OrderedMap
import AppExecFwk.Library.Program

/-!
# The file system that installd works on

The installer's helper process makes, fills and removes directories through
system calls and through a library of its platform.  Any of these may fail, and
those of the library may have done a part of their work by then, so what they
do is left to the environment as far as it is not promised.
-/

namespace AppExecFwk

open CommandProgram DirectoryTree FilePath

/-- A text of the source as the bytes of a path. -/
def bytes (text : String) : ByteString :=
  text.toUTF8.toList

/-- Who may do what with a file; the label is a level and a bundle name. -/
structure Attributes where
  mode : UInt32 := 0
  uid : Int32 := 0
  gid : Int32 := 0
  label : Option (ByteString × ByteString) := none
  deriving DecidableEq

/-- A directory, or a file with its content. -/
structure Node where
  content : Option ByteString := none
  attributes : Attributes := {}
  deriving DecidableEq

def Node.kind (node : Node) : FileKind :=
  if node.content.isSome then .file else .directory

instance instTransOrdPlace : Std.TransOrd (Place UInt8) :=
  List.instTransOrd

/-- What stands at the places of the file system. -/
abbrev Files := Std.ExtTreeMap (Place UInt8) Node compare

/-- The place of a path; the process works in the root directory. -/
def placeOf (path : ByteString) : Place UInt8 :=
  walk kDot [] (names kSeparator path)

/-- `c_str()`: the system sees a path up to the first zero. -/
def cString (path : ByteString) : ByteString :=
  path.takeWhile (· ≠ 0)

/-- A name that an entry of a directory can have. -/
def IsFileName (name : ByteString) : Prop :=
  name ≠ [] ∧ kSeparator ∉ name ∧ IsPlain kDot name

instance (name : ByteString) : Decidable (IsFileName name) :=
  inferInstanceAs (Decidable (_ ∧ _))

/-- A tree of directories: everything in it has a name and stands in a
directory. -/
structure Tree where
  files : Files
  named : ∀ name place, name :: place ∈ files → IsFileName name
  inDirectory : ∀ name place, name :: place ∈ files →
    (files[place]?.map Node.kind) = some .directory

/-- Everything in the files has a name and stands in a directory. -/
def Files.areTree (files : Files) : Bool :=
  files.keys.all fun
    | name :: place =>
        decide (IsFileName name) &&
          decide ((files[place]?.map Node.kind) = some .directory)
    | [] => true

/-- Files that are seen to make up a tree. -/
def Tree.ofFiles (files : Files) (areTree : files.areTree = true) : Tree where
  files := files
  named name place present := by
    have checked := List.all_eq_true.mp areTree (name :: place)
      (Std.ExtTreeMap.mem_keys.mpr present)
    simp only [Bool.and_eq_true, decide_eq_true_eq] at checked
    exact checked.1
  inDirectory name place present := by
    have checked := List.all_eq_true.mp areTree (name :: place)
      (Std.ExtTreeMap.mem_keys.mpr present)
    simp only [Bool.and_eq_true, decide_eq_true_eq] at checked
    exact checked.2

/-- An entry of a directory as `readdir()` returns it. -/
structure Dirent where
  name : ByteString
  isDirectory : Bool
  deriving DecidableEq

/-- The calls that installd makes, those of `directory_ex.h` included.  A file
that is written carries the name of the entry it is written for. -/
inductive SystemCall where
  | stat (path : ByteString)
  | opendir (path : ByteString)
  | readdir (next : Dirent)
  | access (path : ByteString)
  | removeFile (path : ByteString)
  | forceRemoveDirectory (path : ByteString)
  | forceCreateDirectory (path : ByteString)
  | changeModeDirectory (path : ByteString) (mode : UInt32)
  | chown (path : ByteString) (uid gid : Int32)
  | hapFileRestorecon (path apl bundleName : ByteString)
  | getBoolParameter (key : String)
  | openEntry (entryName path : ByteString)
  | writeEntry (entryName path data : ByteString)
  | remove (path : ByteString)
  | changeModeFile (path : ByteString) (mode : UInt32)

/-- The order in which a directory lists its entries. -/
structure ListingOrder where
  arrange : List Dirent → List Dirent
  perm : ∀ entries, (arrange entries).Perm entries

/-- What a removal comes to: what it returns, and which of the places at and
below its path are still there. -/
structure FileRemoval where
  result : Bool
  stays : Place UInt8 → Bool

/-- What a creation comes to: what it returns, and where it has made
directories. -/
structure FileCreation where
  result : Bool
  created : List (Place UInt8)

/-- What writing comes to: whether the stream is still good, and how many bytes
reach the file; some may be lost when the stream is closed. -/
structure FileWriting where
  good : Bool
  kept : Nat

namespace SystemCall

abbrev Result : SystemCall → Type
  | stat _ => Option FileKind
  | opendir _ => Option (List Dirent)
  | readdir _ => Option Dirent
  | access _ | removeFile _ | forceRemoveDirectory _ | forceCreateDirectory _
  | changeModeDirectory _ _ | chown _ _ _ | getBoolParameter _
  | openEntry _ _ | writeEntry _ _ _ | remove _ | changeModeFile _ _ => Bool
  | hapFileRestorecon _ _ _ => ErrCode

/-- What the environment decides about a call: whether it works, and for an
entry that is read, whether its type is known. -/
abbrev Answer : SystemCall → Type
  | stat _ | access _ | changeModeDirectory _ _ | chown _ _ _
  | getBoolParameter _ | openEntry _ _ | remove _ | changeModeFile _ _ => Bool
  | opendir _ => Option ListingOrder
  | readdir _ => Option Bool
  | removeFile _ | forceRemoveDirectory _ => FileRemoval
  | forceCreateDirectory _ => FileCreation
  | hapFileRestorecon _ _ _ => ErrCode
  | writeEntry _ _ _ => FileWriting

end SystemCall

namespace Files

/-- The entries of a directory, with the two that stand for the directory
itself and the one above it. -/
def entries (files : Files) (place : Place UInt8) : List Dirent :=
  ⟨kCurrentDirectory, true⟩ :: ⟨kParentDirectory, true⟩ ::
    files.toList.filterMap fun
      | (name :: directory, node) =>
          if directory = place then
            some ⟨name, node.kind = .directory⟩
          else none
      | ([], _) => none

/-- Take away what stands at a place and below it, apart from what stays. -/
def remove (files : Files) (place : Place UInt8)
    (stays : Place UInt8 → Bool) : Files :=
  files.filter fun other _ => !decide (place <:+ other) || stays other

/-- Make directories where there is nothing yet. -/
def create (files : Files) (places : List (Place UInt8)) : Files :=
  places.foldl (fun files place => files.insertIfNew place {}) files

/-- Change the attributes of what stands at a place and below it. -/
def change (files : Files) (place : Place UInt8)
    (attributes : Attributes → Attributes) : Files :=
  files.map fun other node =>
    if place <:+ other then
      { node with attributes := attributes node.attributes }
    else node

/-- A file can be at the place: in a directory, and where no directory is. -/
def canOpen (files : Files) : Place UInt8 → Bool
  | [] => false
  | name :: directory =>
      decide ((files[directory]?.map Node.kind) = some .directory) &&
        decide ((files[name :: directory]?.map Node.kind) ≠ some .directory)

/-- Put content into the file at a place. -/
def write (files : Files) (place : Place UInt8) (content : ByteString) : Files :=
  files.insert place { files[place]?.getD {} with content := some content }

end Files

def SystemCall.perform : (call : SystemCall) → call.Answer → Files →
    call.Result × Files
  | stat path, answer, files =>
      (if path = [] ∨ answer = false then none
        else files[placeOf path]?.map Node.kind, files)
  | opendir path, answer, files =>
      (if path = [] ∨ (files[placeOf path]?.map Node.kind) ≠ some .directory then
        none
        else answer.map fun order => order.arrange (files.entries (placeOf path)),
        files)
  | readdir next, answer, files =>
      (answer.map fun typeKnown =>
        { next with isDirectory := next.isDirectory && typeKnown }, files)
  | access path, answer, files =>
      (answer && files.contains (placeOf path), files)
  | removeFile path, answer, files
  | forceRemoveDirectory path, answer, files =>
      (answer.result, files.remove (placeOf path) answer.stays)
  | forceCreateDirectory _, answer, files =>
      (answer.result, files.create answer.created)
  | changeModeDirectory path mode, answer, files =>
      (answer, files.change (placeOf path) fun attributes =>
        { attributes with mode := mode })
  | chown path uid gid, answer, files =>
      (answer, files.change (placeOf path) fun attributes =>
        if answer then { attributes with uid := uid, gid := gid } else attributes)
  | hapFileRestorecon path apl bundleName, answer, files =>
      (answer, files.change (placeOf path) fun attributes =>
        { attributes with label := some (apl, bundleName) })
  | getBoolParameter _, answer, files => (answer, files)
  | openEntry _ path, answer, files =>
      if answer && files.canOpen (placeOf (cString path)) then
        (true, files.write (placeOf (cString path)) [])
      else (false, files)
  | writeEntry _ path data, answer, files =>
      (answer.good,
        files.write (placeOf (cString path)) (data.take answer.kept))
  | remove path, answer, files =>
      (answer,
        if answer then files.erase (placeOf (cString path)) else files)
  | changeModeFile path mode, answer, files =>
      (answer, files.change (placeOf (cString path)) fun attributes =>
        { attributes with mode := mode })

/-- The process and the file system. -/
abbrev installd : System SystemCall SystemCall.Result where
  World := Files
  Answer := SystemCall.Answer
  perform := SystemCall.perform

/-- What installd does between two requests. -/
abbrev FileOperation := Program SystemCall SystemCall.Result

/-- Make a system call. -/
def systemCall (call : SystemCall) : FileOperation call.Result :=
  .perform call

/-- A removal says truly whether the place is empty afterwards. -/
def IsTrueFileRemoval (place : Place UInt8) (files : Files) (removal : FileRemoval) :
    Prop :=
  (removal.result = true →
    ∀ other, place <:+ other → other ∉ files.remove place removal.stays) ∧
  (removal.result = false → place ∈ files →
    place ∈ files.remove place removal.stays)

instance (place : Place UInt8) (files : Files) (removal : FileRemoval) :
    Decidable (IsTrueFileRemoval place files removal) :=
  have goes : (∀ other ∈ (files.remove place removal.stays).keys,
      ¬ place <:+ other) ↔
        ∀ other, place <:+ other → other ∉ files.remove place removal.stays := by
    simp only [Std.ExtTreeMap.mem_keys]
    exact forall_congr' fun other => imp_not_comm
  decidable_of_iff
    ((removal.result = true → ∀ other ∈ (files.remove place removal.stays).keys,
        ¬ place <:+ other) ∧
      (removal.result = false → place ∈ files →
        place ∈ files.remove place removal.stays))
    (and_congr_left' (imp_congr_right fun _ => goes))

/-- What installd relies on in the removals of `directory_ex.h`. -/
def RemovesTruly : Step installd → Prop
  | ⟨.removeFile path, files, removal⟩
  | ⟨.forceRemoveDirectory path, files, removal⟩ =>
      IsTrueFileRemoval (placeOf path) files removal
  | _ => True

instance : DecidablePred RemovesTruly
  | ⟨.removeFile path, files, removal⟩
  | ⟨.forceRemoveDirectory path, files, removal⟩ =>
      inferInstanceAs
        (Decidable (IsTrueFileRemoval (placeOf path) files removal))
  | ⟨.stat _, _, _⟩ | ⟨.opendir _, _, _⟩ | ⟨.readdir _, _, _⟩
  | ⟨.access _, _, _⟩ | ⟨.forceCreateDirectory _, _, _⟩
  | ⟨.changeModeDirectory _ _, _, _⟩ | ⟨.chown _ _ _, _, _⟩
  | ⟨.hapFileRestorecon _ _ _, _, _⟩ | ⟨.getBoolParameter _, _, _⟩
  | ⟨.openEntry _ _, _, _⟩ | ⟨.writeEntry _ _ _, _, _⟩ | ⟨.remove _, _, _⟩
  | ⟨.changeModeFile _ _, _, _⟩ =>
      .isTrue trivial

namespace Files

variable {files : Files} {place other : Place UInt8}

@[simp]
theorem getElem?_remove {stays : Place UInt8 → Bool} :
    (files.remove place stays)[other]? =
      if place <:+ other ∧ stays other = false then none else files[other]? := by
  unfold remove
  rw [Std.ExtTreeMap.getElem?_filter']
  by_cases gone : place <:+ other ∧ stays other = false
  · simp [gone]
  · have kept : (!decide (place <:+ other) || stays other) = true := by
      simpa [or_iff_not_imp_left] using gone
    rw [if_neg gone, kept]
    cases files[other]? <;> simp

@[simp]
theorem getElem?_change {attributes : Attributes → Attributes} :
    (files.change place attributes)[other]? =
      files[other]?.map fun node =>
        if place <:+ other then
          { node with attributes := attributes node.attributes }
        else node :=
  Std.ExtTreeMap.getElem?_map

theorem getElem?_create {places : List (Place UInt8)} :
    (files.create places)[other]? =
      files[other]?.or (if other ∈ places then some {} else none) := by
  unfold create
  induction places generalizing files with
  | nil => simp
  | cons first rest ih =>
      rw [List.foldl_cons, ih, Std.ExtTreeMap.getElem?_insertIfNew]
      by_cases same : first = other
      · subst same
        cases present : files[first]? with
        | none =>
            have absent : first ∉ files := by simpa using present
            simp [absent]
        | some node =>
            have member : first ∈ files :=
              Std.ExtTreeMap.mem_iff_isSome_getElem?.mpr (by simp [present])
            simp [member]
      · simp [same, Ne.symm same]

theorem mem_iff : place ∈ files ↔ files[place]? ≠ none := by
  rw [Std.ExtTreeMap.mem_iff_isSome_getElem?, Option.isSome_iff_ne_none]

theorem mem_remove {stays : Place UInt8 → Bool} :
    other ∈ files.remove place stays ↔
      other ∈ files ∧ (place <:+ other → stays other = true) := by
  simp only [mem_iff, getElem?_remove]
  by_cases gone : place <:+ other ∧ stays other = false
  · simp [gone]
  · rw [if_neg gone]
    simpa using fun _ => gone

theorem mem_change {attributes : Attributes → Attributes} :
    other ∈ files.change place attributes ↔ other ∈ files :=
  Std.ExtTreeMap.mem_map

theorem mem_create {places : List (Place UInt8)} :
    other ∈ files.create places ↔ other ∈ files ∨ other ∈ places := by
  simp only [mem_iff, getElem?_create]
  cases files[other]? <;> simp

theorem mem_entries {entry : Dirent} :
    entry ∈ files.entries place ↔
      entry = ⟨kCurrentDirectory, true⟩ ∨ entry = ⟨kParentDirectory, true⟩ ∨
        ∃ node, files[entry.name :: place]? = some node ∧
          entry.isDirectory = decide (node.kind = .directory) := by
  simp only [entries, List.mem_cons, List.mem_filterMap]
  refine or_congr_right (or_congr_right ⟨?_, ?_⟩)
  · rintro ⟨⟨_ | ⟨name, directory⟩, node⟩, member, listed⟩
    · cases listed
    · have present := Std.ExtTreeMap.mem_toList_iff_getElem?_eq_some.mp member
      dsimp only at listed
      split at listed
      · next same =>
          subst same
          cases listed
          exact ⟨node, present, rfl⟩
      · cases listed
  · rintro ⟨node, present, type⟩
    refine ⟨(entry.name :: place, node),
      Std.ExtTreeMap.mem_toList_iff_getElem?_eq_some.mpr present, ?_⟩
    simp [← type]

end Files

/-- Every call works; files are shared among devices if `shares` says so. -/
def allWorks (shares : Bool) : Environment installd
  | _, .opendir _ => some ⟨id, fun _ => .refl _⟩
  | _, .readdir _ => some true
  | _, .removeFile _ | _, .forceRemoveDirectory _ => ⟨true, fun _ => false⟩
  | _, .forceCreateDirectory path => ⟨true, (placeOf path).tails⟩
  | _, .hapFileRestorecon _ _ _ => ErrCode.ok
  | _, .writeEntry _ _ data => ⟨true, data.length⟩
  | _, .stat _ | _, .access _ | _, .changeModeDirectory _ _ | _, .chown _ _ _
  | _, .openEntry _ _ | _, .remove _ | _, .changeModeFile _ _ => true
  | _, .getBoolParameter _ => shares

end AppExecFwk
