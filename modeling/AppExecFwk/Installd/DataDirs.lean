import AppExecFwk.Installd.DeleteFiles

/-!
# The data directories of a bundle

`CreateBundleDataDir` may be cut short by a failing call at any point, and the
installer then calls `RemoveBundleDataDir`.  The removal takes away the base and
the database directories and everything in them; what the creation has made
elsewhere stays.
-/

namespace AppExecFwk

open CommandProgram DirectoryTree FilePath InstalldOperator InstalldHostImpl

/-- The directories that a removal takes away. -/
def ownDirs (bundleName : ByteString) (userid : Int32) : List ByteString :=
  bundleEl.flatMap fun el =>
    [baseDir bundleName userid el, databaseDir bundleName userid el]

/-- The directories for files that are shared among devices. -/
def distributedDirs (bundleName : ByteString) (userid : Int32) :
    List ByteString :=
  [accountDir bundleName userid, nonAccountDir bundleName userid]

/-- The place is in a directory that a removal takes away. -/
def IsOwn (bundleName : ByteString) (userid : Int32) (place : Place UInt8) :
    Prop :=
  ∃ dir ∈ ownDirs bundleName userid, placeOf dir <:+ place

/-- There is no directory of the bundle. -/
def HasNoDirs (bundleName : ByteString) (userid : Int32) (files : Files) :
    Prop :=
  ∀ dir ∈ ownDirs bundleName userid ++ distributedDirs bundleName userid,
    placeOf dir ∉ files

/-- Where there was nothing, the step makes directories only for a removal to
take away. -/
def CreatesOwn (bundleName : ByteString) (userid : Int32) :
    Step installd → Prop
  | ⟨.forceCreateDirectory _, files, creation⟩ =>
      ∀ place ∈ creation.created, place ∉ files →
        IsOwn bundleName userid place
  | _ => True

/-- The calls of a creation; attributes are changed in the directories of the
bundle. -/
def IsCreationOf (bundleName : ByteString) (userid : Int32) :
    SystemCall → Prop
  | .forceCreateDirectory _ | .getBoolParameter _ => True
  | .changeModeDirectory path _ | .chown path _ _
  | .hapFileRestorecon path _ _ =>
      ∃ dir ∈ ownDirs bundleName userid ++ distributedDirs bundleName userid,
        placeOf dir <:+ placeOf path
  | _ => False

section Trees

variable {tree : Tree}

/-- What stands below a place stands in a directory there. -/
theorem Tree.mem_of_suffix {above place : Place UInt8}
    (present : place ∈ tree.files) (inside : above <:+ place) :
    above ∈ tree.files := by
  induction place with
  | nil => exact List.suffix_nil.mp inside ▸ present
  | cons name place ih =>
      rcases List.suffix_cons_iff.mp inside with rfl | inside
      · exact present
      · have directory := tree.inDirectory name place present
        refine ih (Files.mem_iff.mpr fun absent => ?_) inside
        rw [absent] at directory
        cases directory

end Trees

section Creation

variable {withSelinux : Bool} {bundleName apl el path : ByteString}
  {userid uid gid : Int32} {mode : UInt32}

theorem makesOnly_mkOwnerDir
    (inside : ∃ dir ∈
      ownDirs bundleName userid ++ distributedDirs bundleName userid,
        placeOf dir <:+ placeOf path) :
    MakesOnly (IsCreationOf bundleName userid)
      (mkOwnerDir path mode uid gid) := by
  unfold mkOwnerDir changeFileAttr
  refine (MakesOnly.perform trivial).bind fun made => ?_
  split
  · trivial
  · refine (MakesOnly.perform ?_).bind fun changed => ?_
    · exact inside
    · split
      · trivial
      · refine MakesOnly.perform ?_
        exact inside

theorem makesOnly_setDirApl
    (inside : ∃ dir ∈
      ownDirs bundleName userid ++ distributedDirs bundleName userid,
        placeOf dir <:+ placeOf path) :
    MakesOnly (IsCreationOf bundleName userid)
      (setDirApl withSelinux path bundleName apl) := by
  unfold setDirApl
  split
  · trivial
  · split
    · trivial
    · refine MakesOnly.perform ?_
      exact inside

/-- The directories inside the base directory are inside it. -/
theorem suffix_placeOf_subDir {bundleDataDir dir : ByteString}
    (member : dir ∈ bundleDataDirs) :
    placeOf bundleDataDir <:+ placeOf (bundleDataDir ++ dir) := by
  have plain : ∀ dir ∈ bundleDataDirs, dir.head? = some kSeparator ∧
      [kDot, kDot] ∉ names kSeparator dir := by
    decide +kernel
  obtain ⟨separated, stays⟩ := plain dir member
  have joined : placeOf (bundleDataDir ++ dir) =
      walk kDot (placeOf bundleDataDir) (names kSeparator dir) := by
    rw [placeOf, names_append (.inr (.inl separated)), walk_append]
    rfl
  rw [joined]
  exact suffix_walk stays (placeOf bundleDataDir)

theorem makesOnly_createSubDirs {bundleDataDir : ByteString}
    {dirs : List ByteString} (subDirs : dirs ⊆ bundleDataDirs)
    (own : bundleDataDir ∈ ownDirs bundleName userid) :
    MakesOnly (IsCreationOf bundleName userid)
      (createSubDirs bundleDataDir uid gid dirs) := by
  induction dirs with
  | nil => trivial
  | cons dir rest ih =>
      refine (makesOnly_mkOwnerDir ⟨bundleDataDir,
        List.mem_append_left _ own, ?_⟩).bind fun made => ?_
      · exact suffix_placeOf_subDir (subDirs List.mem_cons_self)
      · split
        · trivial
        · exact ih (List.subset_of_cons_subset subDirs)

theorem makesOnly_createOfEl (area : el ∈ bundleEl) :
    MakesOnly (IsCreationOf bundleName userid)
      (createOfEl withSelinux bundleName userid uid gid apl el) := by
  have base : baseDir bundleName userid el ∈ ownDirs bundleName userid :=
    List.mem_flatMap.mpr ⟨el, area, by simp⟩
  have database : databaseDir bundleName userid el ∈ ownDirs bundleName userid :=
    List.mem_flatMap.mpr ⟨el, area, by simp⟩
  have inside {dir : ByteString} (own : dir ∈ ownDirs bundleName userid) :
      ∃ other ∈ ownDirs bundleName userid ++ distributedDirs bundleName userid,
        placeOf other <:+ placeOf dir :=
    ⟨dir, List.mem_append_left _ own, List.suffix_refl _⟩
  unfold createOfEl
  refine (makesOnly_mkOwnerDir (inside base)).bind fun made => ?_
  split
  · trivial
  · refine (makesOnly_createSubDirs ?_ base).bind fun made => ?_
    · unfold subDirsOf
      split
      · exact List.Subset.refl _
      · exact List.nil_subset _
    · split
      · trivial
      · refine (makesOnly_setDirApl (inside base)).bind fun ret => ?_
        split
        · trivial
        · refine (makesOnly_mkOwnerDir (inside database)).bind fun made => ?_
          split
          · trivial
          · exact makesOnly_setDirApl (inside database)

theorem makesOnly_createOfEls {els : List ByteString} (areas : els ⊆ bundleEl) :
    MakesOnly (IsCreationOf bundleName userid)
      (createOfEls withSelinux bundleName userid uid gid apl els) := by
  induction els with
  | nil => trivial
  | cons el rest ih =>
      refine (makesOnly_createOfEl (areas List.mem_cons_self)).bind fun ret => ?_
      split
      · trivial
      · exact ih (List.subset_of_cons_subset areas)

theorem makesOnly_createBundleDataDir :
    MakesOnly (IsCreationOf bundleName userid)
      (createBundleDataDir withSelinux bundleName userid uid gid apl) := by
  have inside {dir : ByteString} (shared : dir ∈ distributedDirs bundleName userid) :
      ∃ other ∈ ownDirs bundleName userid ++ distributedDirs bundleName userid,
        placeOf other <:+ placeOf dir :=
    ⟨dir, List.mem_append_right _ shared, List.suffix_refl _⟩
  have account := @inside (accountDir bundleName userid) (by simp [distributedDirs])
  have nonAccount :=
    @inside (nonAccountDir bundleName userid) (by simp [distributedDirs])
  unfold createBundleDataDir
  split
  · trivial
  · refine (makesOnly_createOfEls (List.Subset.refl _)).bind fun ret => ?_
    split
    · trivial
    · refine (MakesOnly.perform trivial).bind fun isShared => ?_
      split
      · refine (makesOnly_mkOwnerDir account).bind fun made => ?_
        split
        · trivial
        · refine (makesOnly_mkOwnerDir nonAccount).bind fun made => ?_
          split <;> trivial
      · trivial

end Creation

section CutShort

variable {bundleName : ByteString} {userid : Int32} {step : Step installd}
  {place : Place UInt8}

/-- A step of a creation takes nothing away. -/
theorem mem_after_of_creation (isMade : IsCreationOf bundleName userid step.cmd)
    (present : place ∈ step.world) : place ∈ step.after := by
  obtain ⟨call, files, answer⟩ := step
  cases call with
  | forceCreateDirectory path => exact Files.mem_create.mpr (.inl present)
  | getBoolParameter key => exact present
  | changeModeDirectory path mode =>
      simp only [Step.after, SystemCall.perform]
      exact Files.mem_change.mpr present
  | chown path uid gid =>
      simp only [Step.after, SystemCall.perform]
      exact Files.mem_change.mpr present
  | hapFileRestorecon path apl bundleName =>
      simp only [Step.after, SystemCall.perform]
      exact Files.mem_change.mpr present
  | _ => exact isMade.elim

/-- Apart from the bundle's own directories everything is as it was. -/
def IsElsewhereSame (bundleName : ByteString) (userid : Int32)
    (before after : Files) : Prop :=
  ∀ place, ¬ IsOwn bundleName userid place → after[place]? = before[place]?

/-- A step that makes no other directories leaves everything else as it is. -/
theorem isElsewhereSame_after {tree : Tree}
    (absent : HasNoDirs bundleName userid tree.files)
    (isMade : IsCreationOf bundleName userid step.cmd)
    (creates : CreatesOwn bundleName userid step)
    (same : IsElsewhereSame bundleName userid tree.files step.world) :
    IsElsewhereSame bundleName userid tree.files step.after := by
  intro place elsewhere
  rw [← same place elsewhere]
  obtain ⟨call, files, answer⟩ := step
  have changes {path : ByteString} {attributes : Attributes → Attributes}
      (isMade : ∃ dir ∈
        ownDirs bundleName userid ++ distributedDirs bundleName userid,
          placeOf dir <:+ placeOf path) :
      (files.change (placeOf path) attributes)[place]? = files[place]? := by
    obtain ⟨dir, member, inside⟩ := isMade
    rw [Files.getElem?_change]
    by_cases below : placeOf path <:+ place
    · have gone : files[place]? = none := by
        rw [same place elsewhere]
        by_contra present
        exact absent dir member (Tree.mem_of_suffix (Files.mem_iff.mpr present)
          (inside.trans below))
      rw [gone]
      rfl
    · simp [below]
  cases call with
  | forceCreateDirectory path =>
      change (Files.create files answer.created)[place]? = files[place]?
      rw [Files.getElem?_create]
      by_cases made : place ∈ answer.created
      · have present : place ∈ files := by
          by_contra absent
          exact elsewhere (creates place made absent)
        obtain ⟨node, there⟩ := Option.ne_none_iff_exists'.mp
          (Files.mem_iff.mp present)
        simp [there]
      · simp [made]
  | getBoolParameter key => rfl
  | changeModeDirectory path mode =>
      simp only [Step.after, SystemCall.perform]
      exact changes isMade
  | chown path uid gid =>
      simp only [Step.after, SystemCall.perform]
      exact changes isMade
  | hapFileRestorecon path apl bundleName =>
      simp only [Step.after, SystemCall.perform]
      exact changes isMade
  | _ => exact isMade.elim

/-- What stands before a creation stands wherever it is cut short. -/
theorem mem_runFor {α : Type} {program : FileOperation α}
    {env : Environment installd} {count position : Nat} {files : Files}
    (isMade : MakesOnly (IsCreationOf bundleName userid) program)
    (present : place ∈ files) :
    place ∈ (runFor installd env count program position files).2 :=
  runFor_invariant (fun _ => True) (fun files : Files => place ∈ files)
    (fun _ isMade _ present => mem_after_of_creation isMade present) isMade
    (fun _ _ => trivial) present

/-- A directory made elsewhere is there in the end. -/
theorem exists_elsewhere {α : Type} {program : FileOperation α}
    {env : Environment installd} {count position : Nat} {files : Files}
    (isMade : MakesOnly (IsCreationOf bundleName userid) program)
    (creates : ¬ ∀ step ∈ (runFor installd env count program position files).1,
      CreatesOwn bundleName userid step) :
    ∃ place, ¬ IsOwn bundleName userid place ∧ place ∉ files ∧
      place ∈ (runFor installd env count program position files).2 := by
  induction program generalizing count position files with
  | ret value => cases count <;> exact absurd (by simp [runFor]) creates
  | halt => cases count <;> exact absurd (by simp [runFor]) creates
  | call cmd next ih =>
      cases count with
      | zero => exact absurd (by simp [runFor]) creates
      | succ count =>
          simp only [runFor, List.forall_mem_cons, not_and_or] at creates ⊢
          rcases creates with here | later
          · obtain ⟨place, elsewhere, absent, made⟩ :
                ∃ place, ¬ IsOwn bundleName userid place ∧ place ∉ files ∧
                  place ∈ (⟨cmd, files, env position cmd⟩ :
                    Step installd).after := by
              cases cmd with
              | forceCreateDirectory path =>
                  simp only [CreatesOwn, not_forall] at here
                  obtain ⟨place, made, absent, elsewhere⟩ := here
                  exact ⟨place, elsewhere, absent,
                    Files.mem_create.mpr (.inr made)⟩
              | _ => exact absurd trivial here
            exact ⟨place, elsewhere, absent, mem_runFor (isMade.2 _) made⟩
          · obtain ⟨place, elsewhere, absent, made⟩ := ih _ (isMade.2 _) later
            refine ⟨place, elsewhere, fun present => absent ?_, made⟩
            exact mem_after_of_creation isMade.1 present

end CutShort

section Removal

variable {bundleName path : ByteString} {userid : Int32}

/-- The calls of a removal. -/
def IsRemovalOf (bundleName : ByteString) (userid : Int32) :
    SystemCall → Prop
  | .stat _ => True
  | .removeFile path | .forceRemoveDirectory path =>
      path ∈ ownDirs bundleName userid
  | _ => False

theorem makesOnly_deleteDir (own : path ∈ ownDirs bundleName userid) :
    MakesOnly (IsRemovalOf bundleName userid) (deleteDir path) := by
  unfold deleteDir isExistFile isExistDir
  by_cases isEmpty : path = []
  · simp [isEmpty, MakesOnly]
  · rw [if_neg isEmpty, if_neg isEmpty]
    refine (MakesOnly.perform trivial).bind fun kind => ?_
    dsimp only
    split
    · exact MakesOnly.perform own
    · refine (MakesOnly.perform trivial).bind fun kind => ?_
      dsimp only
      split
      · exact MakesOnly.perform own
      · trivial

theorem makesOnly_removeOfEls {els : List ByteString} (areas : els ⊆ bundleEl) :
    MakesOnly (IsRemovalOf bundleName userid)
      (removeOfEls bundleName userid els) := by
  induction els with
  | nil => trivial
  | cons el rest ih =>
      have area := areas List.mem_cons_self
      refine (makesOnly_deleteDir ?_).bind fun removed => ?_
      · exact List.mem_flatMap.mpr ⟨el, area, by simp⟩
      · split
        · trivial
        · refine (makesOnly_deleteDir ?_).bind fun removed => ?_
          · exact List.mem_flatMap.mpr ⟨el, area, by simp⟩
          · split
            · trivial
            · exact ih (List.subset_of_cons_subset areas)

theorem makesOnly_removeBundleDataDir :
    MakesOnly (IsRemovalOf bundleName userid)
      (removeBundleDataDir bundleName userid) := by
  unfold removeBundleDataDir
  split
  · trivial
  · exact makesOnly_removeOfEls (List.Subset.refl _)

/-- The step is no removal that fails. -/
def Succeeds (step : Step installd) : Prop :=
  removalResult step ≠ some false

/-- To ask what stands at a path is no removal. -/
theorem wpWhether_isExist {files : Files} {soFar : Prop} (kind : FileKind)
    {post : Bool → Files → Prop → Prop}
    (after : ∀ found allSucceeded, (soFar → allSucceeded) →
      post found files allSucceeded) :
    wpWhether installd Succeeds
      (if path = [] then pure false
        else do return decide ((← systemCall (.stat path)) = some kind))
      post files soFar := by
  split
  · exact after false soFar id
  · exact fun answer => after _ _ fun before => ⟨before, nofun⟩

/-- If the removal of a path returns true, no call has failed. -/
theorem wpWhether_deleteDir {files : Files} {soFar : Prop} :
    wpWhether installd Succeeds (deleteDir path)
      (fun removed _ allSucceeded => soFar → removed = true → allSucceeded)
      files soFar := by
  have removes {call : SystemCall} {answer : call.Answer} {result : Bool}
      (is : removalResult ⟨call, files, answer⟩ = some result)
      (removed : result = true) : Succeeds ⟨call, files, answer⟩ := by
    rw [Succeeds, is, removed]
    decide
  refine wpWhether_bind.mpr (wpWhether_isExist .file ?_)
  intro isFile noneFailed before
  cases isFile with
  | true =>
      exact fun removal started removed =>
        ⟨before started, removes rfl removed⟩
  | false =>
      refine wpWhether_bind.mpr (wpWhether_isExist .directory ?_)
      intro isDirectory stillNoneFailed still
      cases isDirectory with
      | true =>
          exact fun removal started removed =>
            ⟨still (before started), removes rfl removed⟩
      | false => exact fun started _ => still (before started)

theorem wpWhether_removeOfEls {els : List ByteString} {files : Files}
    {soFar : Prop} (before : soFar) :
    wpWhether installd Succeeds (removeOfEls bundleName userid els)
      (fun result _ allSucceeded => result = .ok → allSucceeded) files soFar := by
  induction els generalizing files soFar with
  | nil => exact fun _ => before
  | cons el rest ih =>
      refine wpWhether_bind.mpr (wpWhether_mono wpWhether_deleteDir ?_)
      intro removed files allSucceeded baseRemoved
      cases removed with
      | false => exact fun refused => absurd refused (by decide)
      | true =>
          refine wpWhether_bind.mpr (wpWhether_mono wpWhether_deleteDir ?_)
          intro removed files allSucceeded databaseRemoved
          cases removed with
          | false => exact fun refused => absurd refused (by decide)
          | true => exact ih (databaseRemoved (baseRemoved before rfl) rfl)

/-- After a removal that succeeds, no removal that it has made has failed. -/
theorem succeeds_of_removed {env : Environment installd} {files : Files}
    (removed : (run installd env (removeBundleDataDir bundleName userid) 0
      files).value = some .ok) :
    ∀ step ∈ (run installd env (removeBundleDataDir bundleName userid) 0
      files).steps, Succeeds step := by
  have whether : wpWhether installd Succeeds
      (removeBundleDataDir bundleName userid)
      (fun result _ allSucceeded => result = .ok → allSucceeded) files True := by
    unfold removeBundleDataDir
    split
    · exact fun refused => absurd refused (by decide)
    · exact wpWhether_removeOfEls trivial
  exact (wpWhether_run whether removed rfl).2

/-- The step removes a place or a directory that it is in. -/
def Sweeps (place : Place UInt8) (step : Step installd) : Prop :=
  ∃ above, above <:+ place ∧ RemovesAt above step

/-- A step of a removal that succeeds sweeps a place or leaves it alone. -/
theorem getElem?_after_of_removal {step : Step installd} (place : Place UInt8)
    (isMade : IsRemovalOf bundleName userid step.cmd)
    (succeeds : Succeeds step) (truly : RemovesTruly step) :
    (Sweeps place step ∧ step.after[place]? = none) ∨
      (¬ Sweeps place step ∧ step.after[place]? = step.world[place]?) := by
  obtain ⟨call, files, answer⟩ := step
  have removal {path : ByteString} {answer : FileRemoval}
      (succeeds : some answer.result ≠ some false)
      (truly : IsTrueFileRemoval (placeOf path) files answer) :
      ((∃ above, above <:+ place ∧
          placeOf path = above ∧ answer.result = true) ∧
        (files.remove (placeOf path) answer.stays)[place]? = none) ∨
      (¬ (∃ above, above <:+ place ∧
          placeOf path = above ∧ answer.result = true) ∧
        (files.remove (placeOf path) answer.stays)[place]? =
          files[place]?) := by
    have result : answer.result = true := by
      cases same : answer.result with
      | true => rfl
      | false => exact absurd (congrArg some same) succeeds
    by_cases inside : placeOf path <:+ place
    · refine .inl ⟨⟨_, inside, rfl, result⟩, ?_⟩
      by_contra present
      exact truly.1 result place inside (Files.mem_iff.mpr present)
    · refine .inr ⟨?_, ?_⟩
      · rintro ⟨above, below, rfl, -⟩
        exact inside below
      · rw [Files.getElem?_remove, if_neg fun gone => inside gone.1]
  cases call with
  | stat path => exact .inr ⟨fun swept => swept.choose_spec.2.elim, rfl⟩
  | removeFile path => exact removal succeeds truly
  | forceRemoveDirectory path => exact removal succeeds truly
  | _ => exact isMade.elim

/-- A removal that succeeds leaves nothing where a step has swept, and
everything else as it was. -/
theorem getElem?_run_of_removal {α : Type} {program : FileOperation α}
    {env : Environment installd} {position : Nat} {files : Files}
    {place : Place UInt8}
    (isMade : MakesOnly (IsRemovalOf bundleName userid) program)
    (succeeds : ∀ step ∈ (run installd env program position files).steps,
      Succeeds step)
    (truly : ∀ step ∈ (run installd env program position files).steps,
      RemovesTruly step) :
    ((∃ step ∈ (run installd env program position files).steps,
        Sweeps place step) →
      (run installd env program position files).world[place]? = none) ∧
    ((∀ step ∈ (run installd env program position files).steps,
        ¬ Sweeps place step) →
      (run installd env program position files).world[place]? =
        files[place]?) := by
  induction program generalizing position files with
  | ret value => simp [run]
  | halt => simp [run]
  | call cmd next ih =>
      simp only [run, List.forall_mem_cons, List.exists_mem_cons_iff]
        at succeeds truly ⊢
      obtain ⟨swept, unswept⟩ :=
        ih _ (isMade.2 _) succeeds.2 truly.2
      have first :=
        getElem?_after_of_removal place isMade.1 succeeds.1 truly.1
      by_cases later : ∃ step ∈ (run installd env
          (next (Step.result ⟨cmd, files, env position cmd⟩)) (position + 1)
          (Step.after ⟨cmd, files, env position cmd⟩)).steps, Sweeps place step
      · refine ⟨fun _ => swept later, fun none => ?_⟩
        obtain ⟨step, member, sweeps⟩ := later
        exact absurd sweeps (none.2 step member)
      · have same := unswept fun step member sweeps =>
          later ⟨step, member, sweeps⟩
        rw [same]
        rcases first with ⟨here, gone⟩ | ⟨notHere, kept⟩
        · exact ⟨fun _ => gone, fun none => absurd here none.1⟩
        · refine ⟨fun some => ?_, fun _ => kept⟩
          exact absurd some (not_or.mpr ⟨notHere, later⟩)

/-- A removal sweeps only the directories that it is to take away. -/
theorem isOwn_of_sweeps {step : Step installd} {place : Place UInt8}
    (isMade : IsRemovalOf bundleName userid step.cmd)
    (swept : Sweeps place step) : IsOwn bundleName userid place := by
  obtain ⟨call, files, answer⟩ := step
  obtain ⟨above, inside, removes⟩ := swept
  cases call with
  | removeFile path =>
      obtain ⟨rfl, -⟩ := removes
      exact ⟨path, isMade, inside⟩
  | forceRemoveDirectory path =>
      obtain ⟨rfl, -⟩ := removes
      exact ⟨path, isMade, inside⟩
  | _ => exact removes.elim

end Removal

/-- The directories in which those of bundles are made for user 100. -/
def userDirs : Tree :=
  .ofFiles (["/", "/data", "/data/app", "/data/app/el1", "/data/app/el1/100",
      "/data/app/el1/100/base", "/data/app/el1/100/database", "/data/app/el2",
      "/data/app/el2/100", "/data/app/el2/100/base",
      "/data/app/el2/100/database", "/data/service", "/data/service/el2",
      "/data/service/el2/100", "/data/service/el2/100/hmdfs",
      "/data/service/el2/100/hmdfs/account",
      "/data/service/el2/100/hmdfs/account/data",
      "/data/service/el2/100/hmdfs/non_account",
      "/data/service/el2/100/hmdfs/non_account/data"].foldl
    (fun files path => files.insert (placeOf (bytes path)) {}) (∅ : Files))
    (by decide +kernel)

/-- A creation and a removal for user 100. -/
def createdFor100 (shares : Bool) : List (Step installd) × Files :=
  runFor installd (allWorks shares) 100
    (createBundleDataDir false (bytes "com.example.demo") 100 20010001 20010001
      []) 0 userDirs.files

def removedFor100 (shares : Bool) : Outcome installd ErrCode :=
  run installd (allWorks shares)
    (removeBundleDataDir (bytes "com.example.demo") 100) 0
    (createdFor100 shares).2

theorem hasNoDirs_userDirs :
    HasNoDirs (bytes "com.example.demo") 100 userDirs.files := by
  unfold HasNoDirs
  decide +kernel

end AppExecFwk
