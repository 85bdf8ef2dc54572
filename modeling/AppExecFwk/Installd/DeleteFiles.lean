import AppExecFwk.Installd.InstalldHost

/-!
# Emptying a directory

`DeleteFiles` removes the entries of a directory one after another.  Its result
is that of the last removal, and an entry that is passed over does not count, so
it says truly that the directory is empty only where no earlier entry stays.
-/

namespace AppExecFwk

open CommandProgram DirectoryTree FilePath InstalldOperator

/-- What a removal that a step makes has returned. -/
def removalResult : Step installd → Option Bool
  | ⟨.removeFile _, _, removal⟩ | ⟨.forceRemoveDirectory _, _, removal⟩ =>
      some removal.result
  | _ => none

/-- The step removes what stands at a place. -/
def RemovesAt (place : Place UInt8) : Step installd → Prop
  | ⟨.removeFile path, _, removal⟩ | ⟨.forceRemoveDirectory path, _, removal⟩ =>
      placeOf path = place ∧ removal.result = true
  | _ => False

/-- The calls of the loop, each of them about one entry of the directory. -/
def IsDeletionIn (directory : Place UInt8) : SystemCall → Prop
  | .readdir _ => True
  | .access path | .removeFile path | .forceRemoveDirectory path =>
      ∃ name, placeOf path = name :: directory
  | _ => False

section Paths

variable {directoryEx : DirectoryEx} {dataPath name : ByteString}

/-- The path of an entry leads to the entry. -/
theorem placeOf_subPath (nonempty : dataPath ≠ []) (isName : IsFileName name) :
    placeOf (directoryEx.includeTrailingPathDelimiter dataPath ++ name) =
      name :: placeOf dataPath := by
  have meet : MeetAtSeparator kSeparator
      (directoryEx.includeTrailingPathDelimiter dataPath) name :=
    .inr (.inr (directoryEx.delimited dataPath nonempty))
  rw [placeOf, names_append meet, directoryEx.names_eq,
    names_of_notMem isName.2.1 isName.1, walk_concat, step_of_isPlain isName.2.2]
  rfl

end Paths

section Loop

variable {directoryEx : DirectoryEx} {dataPath : ByteString}
  {directory : Place UInt8} {env : Environment installd} {position : Nat}
  {files : Files} {ret : Bool}

/-- The calls of a run are about entries of the directory only, and what it
returns is what its last removal has returned. -/
def ReturnsLast (directory : Place UInt8) (ret : Bool)
    (outcome : Outcome installd Bool) : Prop :=
  outcome.value =
      some ((outcome.steps.filterMap removalResult).getLast?.getD ret) ∧
    ∀ step ∈ outcome.steps, IsDeletionIn directory step.cmd

theorem returnsLast_ret (value : Bool) :
    ReturnsLast directory value (run installd env (.ret value) position files) :=
  ⟨rfl, by simp [run]⟩

theorem returnsLast_passing {call : SystemCall}
    {next : call.Result → FileOperation Bool} (about : IsDeletionIn directory call)
    (passes : removalResult ⟨call, files, env position call⟩ = none)
    (rest : ReturnsLast directory ret (run installd env
      (next (call.perform (env position call) files).1) (position + 1)
      (call.perform (env position call) files).2)) :
    ReturnsLast directory ret
      (run installd env (.call call next) position files) := by
  refine ⟨?_, List.forall_mem_cons.mpr ⟨about, rest.2⟩⟩
  simp only [run, List.filterMap_cons, passes]
  exact rest.1

theorem returnsLast_removal {call : SystemCall} (about : IsDeletionIn directory call)
    {next : call.Result → FileOperation Bool} {result : Bool}
    (removes : removalResult ⟨call, files, env position call⟩ = some result)
    (returns : next (call.perform (env position call) files).1 = .ret result) :
    ReturnsLast directory ret
      (run installd env (.call call next) position files) := by
  have after : run installd env (.call call next) position files =
      ⟨some result, (call.perform (env position call) files).2,
        [⟨call, files, env position call⟩]⟩ := by
    simp only [run, Step.result, Step.after, returns]
  rw [after]
  refine ⟨by simp [removes], ?_⟩
  simpa using about

theorem returnsLast_bind {program : FileOperation Bool}
    {next : Bool → FileOperation Bool}
    (first : ReturnsLast directory ret (run installd env program position files))
    (second : ∀ ret position files, ReturnsLast directory ret
      (run installd env (next ret) position files)) :
    ReturnsLast directory ret
      (run installd env (program >>= next) position files) := by
  rw [run_bind first.1]
  have rest := second ((((run installd env program position files).steps.filterMap
    removalResult).getLast?.getD ret))
    (position + (run installd env program position files).steps.length)
    (run installd env program position files).world
  refine ⟨rest.1.trans ?_, List.forall_mem_append.mpr ⟨first.2, rest.2⟩⟩
  rw [List.filterMap_append, List.getLast?_append, Option.some_inj]
  cases (List.filterMap removalResult (run installd env (next _) _ _).steps).getLast? with
  | none => simp
  | some result => simp

/-- The entry of a listing is one of the two that every directory has, or has
the name of a file. -/
def IsListed (entry : Dirent) : Prop :=
  entry.name = kCurrentDirectory ∨ entry.name = kParentDirectory ∨
    IsFileName entry.name

theorem returnsLast_deleteEntry (nonempty : dataPath ≠ []) {ptr : Dirent}
    (listed : IsListed ptr) :
    ReturnsLast (placeOf dataPath) ret
      (run installd env (deleteEntry directoryEx dataPath ptr ret) position
        files) := by
  unfold deleteEntry
  split
  · exact returnsLast_ret ret
  · next passed =>
      rw [not_or] at passed
      have isName : IsFileName ptr.name :=
        (listed.resolve_left passed.1).resolve_left passed.2
      have inDirectory : ∃ name, placeOf
          (directoryEx.includeTrailingPathDelimiter dataPath ++ ptr.name) =
            name :: placeOf dataPath :=
        ⟨ptr.name, placeOf_subPath nonempty isName⟩
      dsimp only
      split
      · refine returnsLast_removal ?_ rfl rfl
        exact inDirectory
      · refine returnsLast_passing ?_ rfl ?_
        · exact inDirectory
        · simp only [Program.bind]
          split
          · refine returnsLast_removal ?_ rfl rfl
            exact inDirectory
          · exact returnsLast_ret ret

/-- The loop makes calls about the entries only, and returns what the last
removal has returned. -/
theorem returnsLast_deleteEntries (nonempty : dataPath ≠ [])
    {entries : List Dirent} (listed : ∀ entry ∈ entries, IsListed entry) :
    ReturnsLast (placeOf dataPath) ret (run installd env
      (deleteEntries directoryEx dataPath entries ret) position files) := by
  induction entries generalizing ret position files with
  | nil => exact returnsLast_ret ret
  | cons next rest ih =>
      have others := fun {ret position files} =>
        @ih ret position files fun entry inRest =>
          listed entry (List.mem_cons_of_mem next inRest)
      refine returnsLast_passing trivial rfl ?_
      cases read : env position (.readdir next) with
      | none => exact returnsLast_ret ret
      | some typeKnown =>
          refine returnsLast_bind (returnsLast_deleteEntry nonempty ?_)
            fun ret position files => others
          exact listed next List.mem_cons_self

end Loop

section Entries

variable {directory : Place UInt8} {name : ByteString}

/-- A call about the entries of a directory takes an entry away only by removing
it. -/
theorem mem_after_iff {step : Step installd}
    (about : IsDeletionIn directory step.cmd) (truly : RemovesTruly step) :
    name :: directory ∈ step.after ↔
      name :: directory ∈ step.world ∧ ¬ RemovesAt (name :: directory) step := by
  obtain ⟨call, files, answer⟩ := step
  have removal {path : ByteString} {answer : FileRemoval}
      (about : ∃ name, placeOf path = name :: directory)
      (truly : IsTrueFileRemoval (placeOf path) files answer) :
      name :: directory ∈ files.remove (placeOf path) answer.stays ↔
        name :: directory ∈ files ∧
          ¬ (placeOf path = name :: directory ∧ answer.result = true) := by
    obtain ⟨other, at_⟩ := about
    by_cases same : other = name
    · subst same
      rw [at_] at truly ⊢
      cases result : answer.result with
      | true =>
          have gone := truly.1 result (other :: directory) (List.suffix_refl _)
          exact iff_of_false gone (by simp)
      | false =>
          have stays := truly.2 result
          refine ⟨fun present => ⟨?_, by simp⟩, fun present => stays present.1⟩
          exact (Files.mem_remove.mp present).1
    · have apart : ¬ placeOf path <:+ name :: directory := by
        rw [at_]
        intro inside
        have equal := inside.eq_of_length (by simp)
        exact same (List.head_eq_of_cons_eq equal)
      have elsewhere : placeOf path ≠ name :: directory := by
        intro equal
        exact apart (equal ▸ List.suffix_refl _)
      rw [Files.mem_remove]
      simp [apart, elsewhere]
  cases call with
  | readdir next => exact ⟨fun present => ⟨present, id⟩, And.left⟩
  | access path => exact ⟨fun present => ⟨present, id⟩, And.left⟩
  | removeFile path => exact removal about truly
  | forceRemoveDirectory path => exact removal about truly
  | _ => exact about.elim

/-- After a run of such calls an entry is gone exactly if a call has removed
it. -/
theorem mem_run_iff {α : Type} {program : FileOperation α}
    {env : Environment installd} {position : Nat} {files : Files}
    (about : ∀ step ∈ (run installd env program position files).steps,
      IsDeletionIn directory step.cmd)
    (truly : ∀ step ∈ (run installd env program position files).steps,
      RemovesTruly step) :
    name :: directory ∈ (run installd env program position files).world ↔
      name :: directory ∈ files ∧
        ∀ step ∈ (run installd env program position files).steps,
          ¬ RemovesAt (name :: directory) step := by
  induction program generalizing position files with
  | ret value => simp [run]
  | halt => simp [run]
  | call cmd next ih =>
      simp only [run, List.forall_mem_cons] at about truly ⊢
      rw [ih _ about.2 truly.2, mem_after_iff about.1 truly.1, and_assoc]

end Entries

/-- Nothing is in the directory. -/
def Files.IsEmptyAt (files : Files) (directory : Place UInt8) : Prop :=
  ∀ name, name :: directory ∉ files

section Result

variable {directoryEx : DirectoryEx} {tree : Tree} {dataPath : ByteString}
  {env : Environment installd}

/-- The entries that a directory of a tree lists. -/
theorem isListed_of_opendir {path : ByteString} {answer : Option ListingOrder}
    {entries : List Dirent}
    (opened : ((SystemCall.opendir path).perform answer tree.files).1 =
      some entries) :
    path ≠ [] ∧ ∀ entry ∈ entries, IsListed entry := by
  simp only [SystemCall.perform] at opened
  split at opened
  · cases opened
  · next isDirectory =>
      rw [not_or] at isDirectory
      obtain ⟨order, -, rfl⟩ := Option.map_eq_some_iff.mp opened
      refine ⟨isDirectory.1, fun entry member => ?_⟩
      have listed := (order.perm _).mem_iff.mp member
      rcases Files.mem_entries.mp listed with rfl | rfl | ⟨node, present, -⟩
      · exact .inl rfl
      · exact .inr (.inl rfl)
      · refine .inr (.inr (tree.named entry.name (placeOf path) ?_))
        rw [Files.mem_iff, present]
        simp

/-- A directory that cannot be opened is left alone. -/
theorem run_deleteFiles_of_none
    (closed : ((SystemCall.opendir dataPath).perform
      (env 0 (.opendir dataPath)) tree.files).1 = none) :
    (run installd env (deleteFiles directoryEx dataPath) 0 tree.files).value =
      some false := by
  unfold deleteFiles systemCall Program.perform
  simp only [Program.call_bind, Program.ret_bind, run, Step.result, closed,
    Program.pure_eq]

/-- A directory that is opened is gone through. -/
theorem run_deleteFiles_of_some {entries : List Dirent}
    (opened : ((SystemCall.opendir dataPath).perform
      (env 0 (.opendir dataPath)) tree.files).1 = some entries) :
    let rest := run installd env
      (deleteEntries directoryEx dataPath entries true) 1 tree.files
    run installd env (deleteFiles directoryEx dataPath) 0 tree.files =
      { rest with steps :=
        ⟨.opendir dataPath, tree.files, env 0 (.opendir dataPath)⟩ ::
          rest.steps } := by
  unfold deleteFiles systemCall Program.perform
  simp only [Program.call_bind, Program.ret_bind, run, Step.result, opened,
    Step.after]
  rfl

/-- What `DeleteFiles` comes to: it cannot open the directory, or it returns
what the last removal has returned, and what it has not removed is there. -/
theorem deleteFiles_spec
    (truly : ∀ step ∈ (run installd env (deleteFiles directoryEx dataPath) 0
      tree.files).steps, RemovesTruly step) :
    let outcome := run installd env (deleteFiles directoryEx dataPath) 0
      tree.files
    (((SystemCall.opendir dataPath).perform (env 0 (.opendir dataPath))
          tree.files).1 = none ∧ outcome.value = some false) ∨
      (((SystemCall.opendir dataPath).perform (env 0 (.opendir dataPath))
          tree.files).1 ≠ none ∧
        outcome.value =
          some ((outcome.steps.filterMap removalResult).getLast?.getD true) ∧
        ∀ name, name :: placeOf dataPath ∈ outcome.world ↔
          name :: placeOf dataPath ∈ tree.files ∧
            ∀ step ∈ outcome.steps,
              ¬ RemovesAt (name :: placeOf dataPath) step) := by
  intro outcome
  cases opened : ((SystemCall.opendir dataPath).perform
      (env 0 (.opendir dataPath)) tree.files).1 with
  | none => exact .inl ⟨rfl, run_deleteFiles_of_none opened⟩
  | some entries =>
      obtain ⟨nonempty, listed⟩ := isListed_of_opendir opened
      have loop : ReturnsLast (placeOf dataPath) true (run installd env
          (deleteEntries directoryEx dataPath entries true) 1 tree.files) :=
        returnsLast_deleteEntries nonempty listed
      unfold outcome
      rw [run_deleteFiles_of_some opened] at truly ⊢
      refine .inr ⟨by simp, loop.1, fun name => ?_⟩
      rw [mem_run_iff loop.2 (List.forall_mem_cons.mp truly).2,
        List.forall_mem_cons]
      exact and_congr_right fun _ => (and_iff_right id).symm

/-- Cleaning the data of a bundle succeeds where its directory is emptied. -/
theorem deleted_of_cleaned
    (cleaned : (run installd env
      (InstalldHostImpl.cleanBundleDataDir directoryEx dataPath) 0
        tree.files).value = some .ok) :
    (run installd env (deleteFiles directoryEx dataPath) 0 tree.files).value =
        some true ∧
      (run installd env
          (InstalldHostImpl.cleanBundleDataDir directoryEx dataPath) 0
          tree.files).world =
        (run installd env (deleteFiles directoryEx dataPath) 0
          tree.files).world := by
  unfold InstalldHostImpl.cleanBundleDataDir at cleaned ⊢
  by_cases isEmpty : dataPath = []
  · rw [if_pos isEmpty] at cleaned
    have refused : ErrCode.installdParamError = .ok := Option.some.inj cleaned
    exact absurd refused (by decide)
  · rw [if_neg isEmpty] at cleaned ⊢
    cases deleted : (run installd env (deleteFiles directoryEx dataPath) 0
        tree.files).value with
    | none =>
        rw [run_bind_of_none deleted] at cleaned
        cases cleaned
    | some result =>
        rw [run_bind deleted] at cleaned ⊢
        cases result with
        | true => exact ⟨rfl, rfl⟩
        | false =>
            have refused : ErrCode.installdCleanDirFailed = .ok :=
              Option.some.inj cleaned
            exact absurd refused (by decide)

end Result

/-- What succeeds has emptied the directory. -/
def EmptiesTruly (directoryEx : DirectoryEx) (env : Environment installd)
    (files : Files) (dataPath : ByteString) : Prop :=
  let outcome := run installd env (deleteFiles directoryEx dataPath) 0 files
  let cleaned := run installd env
    (InstalldHostImpl.cleanBundleDataDir directoryEx dataPath) 0 files
  (outcome.value = some true → outcome.world.IsEmptyAt (placeOf dataPath)) ∧
    (cleaned.value = some .ok → cleaned.world.IsEmptyAt (placeOf dataPath))

/-- Two files in a directory. -/
def twoFiles : Tree :=
  .ofFiles ((∅ : Files).insert [] {} |>.insert [bytes "data"] {}
    |>.insert [bytes "first", bytes "data"] { content := some [] }
    |>.insert [bytes "second", bytes "data"] { content := some [] })
    (by decide +kernel)

/-- A separator at the end of every path. -/
def plainDirectoryEx : DirectoryEx where
  includeTrailingPathDelimiter path :=
    if path.getLast? = some kSeparator then path else path ++ [kSeparator]
  names_eq path := by
    split
    · rfl
    · simpa using names_append_replicate path 1
  delimited path _ := by
    split
    · next delimited => exact delimited
    · simp

/-- The first file cannot be removed, everything else works. -/
def firstStays : Environment installd
  | position, .removeFile path =>
      if path = bytes "/data/first" then ⟨false, fun _ => true⟩
      else allWorks false position (.removeFile path)
  | position, call => allWorks false position call

end AppExecFwk
