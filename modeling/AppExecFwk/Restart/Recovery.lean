import AppExecFwk.Library.Returning
import AppExecFwk.Restart.Boots

/-!
# What a start makes of unfinished work

At a start in which nothing fails every record is brought to an end: an
installation or the removal of a bundle that was interrupted is undone or
completed, and an update goes back to what was there before.  The storage keeps
the marks of the records that stay, so the next start does the same again.
-/

namespace AppExecFwk

open CommandProgram LoadOperation

/-- An answer with which nothing fails. -/
def LoadCommand.IsGood : (command : LoadCommand) → command.Answer → Prop
  | .getEntries, order => order.isSome
  | .put _, accepted | .delete _, accepted => accepted = true
  | .ask (.removeDir _), reply | .ask (.renameModuleDir _ _), reply
  | .ask (.removeBundleDataDir _ _), reply
  | .ask (.removeModuleDataDir _ _), reply => reply = ErrCode.ok
  | .ask _, _ => True

/-- Nothing fails in a step. -/
def Obliges (step : Step recordStorage) : Prop :=
  step.cmd.IsGood step.answer

namespace BundleExceptionHandler

/-- What becomes of a record when nothing fails, and whether it stays. -/
def resume (info : InnerBundleInfo) : InnerBundleInfo × Bool :=
  let status := info.mark.status
  if status = InstallExceptionStatus.installStart.toInt32 ∨
      status = InstallExceptionStatus.uninstallBundleStart.toInt32 then
    (info, false)
  else if status = InstallExceptionStatus.updatingExistedStart.toInt32 ∨
      status = InstallExceptionStatus.updatingNewStart.toInt32 then
    ((finish info).setBundleStatus .enabled, true)
  else if status = InstallExceptionStatus.uninstallPackageStart.toInt32 then
    if info.isOnlyModule info.mark.packageName then (info, false)
    else ((finish (info.removeModuleInfo info.mark.packageName)).setBundleStatus
      .enabled, true)
  else if status = InstallExceptionStatus.updatingFinish.toInt32 then
    (finish info, true)
  else (info, true)

variable {info : InnerBundleInfo} {values : StoredValues}

theorem wpReturns_removeBundleAndDataDir (bundleDir bundleOrModuleDir : String)
    (userId : Int32) :
    wpReturns recordStorage Obliges
      (removeBundleAndDataDir bundleDir bundleOrModuleDir userId)
      (fun removed after => removed = true ∧ after = values) values := by
  unfold removeBundleAndDataDir
  refine wpReturns_perform_bind fun reply good => ?_
  obtain rfl : reply = ErrCode.ok := good
  change wpReturns recordStorage Obliges (if Text.contains bundleOrModuleDir "/haps/" then
    _ else _) _ _
  split
  · refine wpReturns_perform_bind fun reply good => ?_
    obtain rfl : reply = ErrCode.ok := good
    exact ⟨rfl, rfl⟩
  · refine wpReturns_perform_bind fun reply good => ?_
    obtain rfl : reply = ErrCode.ok := good
    exact ⟨rfl, rfl⟩

theorem wpReturns_removeInvalidBundle :
    wpReturns recordStorage Obliges (removeInvalidBundle info)
      (fun removed after => removed = true ∧
        after = values.erase info.getBundleName) values := by
  unfold removeInvalidBundle
  refine wpReturns_seq (wpReturns_removeBundleAndDataDir _ _ _) ?_
  rintro _ _ ⟨rfl, rfl⟩
  rw [if_pos rfl]
  refine wpReturns_perform_bind fun accepted good => ?_
  obtain rfl : accepted = true := good
  exact ⟨rfl, rfl⟩

theorem wpReturns_handleInvalidBundle :
    wpReturns recordStorage Obliges (handleInvalidBundle info)
      (fun result after => result = resume info ∧
        after = if (resume info).2 then values
          else values.erase info.getBundleName) values := by
  have ends {result : InnerBundleInfo × Bool} (resumed : resume info = result)
      {after : StoredValues} (left : after = if result.2 then values
        else values.erase info.getBundleName) :
      wpReturns recordStorage Obliges (pure result) (fun result after =>
        result = resume info ∧ after = if (resume info).2 then values
          else values.erase info.getBundleName) after := by
    rw [resumed]
    exact ⟨rfl, left⟩
  have removal {rest : Bool → LoadOperation (InnerBundleInfo × Bool)}
      (resumed : resume info = (info, false)) (last : rest true = pure (info, false)) :
      wpReturns recordStorage Obliges (removeInvalidBundle info >>= rest)
        (fun result after => result = resume info ∧
          after = if (resume info).2 then values
            else values.erase info.getBundleName) values := by
    refine wpReturns_seq wpReturns_removeInvalidBundle ?_
    rintro _ _ ⟨rfl, rfl⟩
    rw [last]
    exact ends resumed rfl
  unfold handleInvalidBundle
  dsimp only
  split
  · next status =>
    exact ends (by simp [resume, status, InstallExceptionStatus.toInt32]) rfl
  split
  · next status =>
    exact removal (by simp [resume, status]) rfl
  split
  · next status =>
    refine wpReturns_perform_bind fun reply good => ?_
    obtain rfl : reply = ErrCode.ok := good
    exact ends (by simp [resume, status, InstallExceptionStatus.toInt32]) rfl
  split
  · next status =>
    refine wpReturns_seq (wpReturns_removeBundleAndDataDir _ _ _) ?_
    rintro _ _ ⟨rfl, rfl⟩
    exact ends (by simp [resume, status, InstallExceptionStatus.toInt32]) rfl
  split
  · next status =>
    exact removal (by simp [resume, status]) rfl
  split
  · next status =>
    split
    · next only =>
      refine removal ?_ rfl
      simp [resume, status, only, InstallExceptionStatus.toInt32]
    · next several =>
      refine wpReturns_seq (wpReturns_removeBundleAndDataDir _ _ _) ?_
      rintro _ _ ⟨rfl, rfl⟩
      refine ends ?_ rfl
      simp [resume, status, several, InstallExceptionStatus.toInt32]
  split
  · next status =>
    refine wpReturns_perform_bind fun reply good => ?_
    obtain rfl : reply = ErrCode.ok := good
    exact ends (by simp [resume, status, InstallExceptionStatus.toInt32]) rfl
  · exact ends (by simp [resume, *]) rfl

theorem resume_getBundleName (info : InnerBundleInfo) :
    (resume info).1.getBundleName = info.getBundleName := by
  have removed := info.removeModuleInfo_getBundleName info.mark.packageName
  unfold resume
  dsimp only
  split_ifs <;> first | rfl | exact removed

theorem resume_sandboxPersistentInfo (info : InnerBundleInfo) :
    (resume info).1.sandboxPersistentInfo = info.sandboxPersistentInfo := by
  have removed : (info.removeModuleInfo
      info.mark.packageName).sandboxPersistentInfo =
        info.sandboxPersistentInfo := by
    unfold InnerBundleInfo.removeModuleInfo
    split <;> rfl
  unfold resume
  dsimp only
  split_ifs <;> first | rfl | exact removed

end BundleExceptionHandler

namespace BundleSandboxExceptionHandler

variable {info : InnerBundleInfo} {values : StoredValues}

theorem wpReturns_removeSandboxApp :
    wpReturns recordStorage Obliges (removeSandboxApp info)
      (fun cleared after => cleared = info.clearSandboxPersistentInfo ∧
        after = if info.sandboxPersistentInfo = [] then values
          else values.insert info.getBundleName
            (some info.clearSandboxPersistentInfo.toJson)) values := by
  unfold removeSandboxApp
  split
  · next none =>
    refine ⟨?_, rfl⟩
    rw [InnerBundleInfo.clearSandboxPersistentInfo, ← none]
  · refine wpReturns_perform_bind fun accepted good => ?_
    obtain rfl : accepted = true := good
    have asks : wpReturns recordStorage Obliges (removeSandboxDataDirAndTokenId
        info.getBundleName info.sandboxPersistentInfo) (fun _ after => after =
          values.insert info.getBundleName
            (some info.clearSandboxPersistentInfo.toJson))
        (values.insert info.getBundleName
          (some info.clearSandboxPersistentInfo.toJson)) := by
      refine wpReturns_forM rfl fun sandbox _ world same => ?_
      split
      · exact same
      · exact fun _ _ _ _ => same
    refine wpReturns_seq asks ?_
    rintro _ _ rfl
    exact ⟨rfl, rfl⟩

end BundleSandboxExceptionHandler

section Start

open BundleDataStorageDatabase BundleExceptionHandler
  BundleSandboxExceptionHandler

/-- Every value is decoded to a record of the bundle it is kept under. -/
def IsOrderlyStorage (values : StoredValues) : Prop :=
  ∀ (key : String) value, values[key]? = some value →
    LeavesNoError value ∧ ∃ record, recordOf value = some record ∧
      record.getBundleName = key

/-- What a start in which nothing fails makes of a record it has read. -/
def loadedFrom (record : InnerBundleInfo) : Option InnerBundleInfo :=
  if (resume record).2 then some (resume record).1.clearSandboxPersistentInfo
  else none

/-- What it leaves in the storage.  A record with sandboxes is saved even if the
bundle has just been removed. -/
def leftFrom (record : InnerBundleInfo) (value : Option Json) :
    Option (Option Json) :=
  if record.sandboxPersistentInfo = [] then
    if (resume record).2 then some value else none
  else some (some (resume record).1.clearSandboxPersistentInfo.toJson)

/-- What has been done so far by a start in which nothing fails. -/
structure Settles (read : StoredValues) (done : List Entry) (loaded : Loaded)
    (values : StoredValues) : Prop where
  reader : ReaderClean loaded.results
  profile : ProfileClean loaded.results
  updates : loaded.updateInfos = ∅
  settled : ∀ (key : String) record value, read[key]? = some value →
    recordOf value = some record → key ∈ done.map (·.key) →
    loaded.infos[key]? = loadedFrom record ∧ values[key]? = leftFrom record value
  untouched : ∀ key : String, key ∉ done.map (·.key) →
    loaded.infos[key]? = none ∧ values[key]? = read[key]?

variable {read values : StoredValues} {loaded : Loaded} {done : List Entry}
  {entry : Entry} {record : InnerBundleInfo}

theorem saveEntry_eq_of_recordOf (reader : ReaderClean loaded.results)
    (profile : ProfileClean loaded.results) (decoded : recordOf entry.value = some record) :
    ∃ results, AppExecFwk.saveEntry entry { loaded.results with here := ErrCode.ok } =
      (.ok (some record), results) := by
  rw [eq_initial_of_clean reader profile]
  unfold recordOf at decoded
  cases same : AppExecFwk.saveEntry ⟨"", entry.value⟩ {} with
  | mk outcome results =>
      rw [same] at decoded
      cases outcome with
      | error exception => cases decoded
      | ok found =>
          refine ⟨results, ?_⟩
          rw [← (decoded : found = some record), ← same]
          rfl

/-- Changing the value under one key. -/
theorem leftFrom_spec (record : InnerBundleInfo) (value : Option Json)
    (stored : values[record.getBundleName]? = some value) :
    let removed := if (resume record).2 then values
      else values.erase record.getBundleName
    let after := if (resume record).1.sandboxPersistentInfo = [] then removed
      else removed.insert (resume record).1.getBundleName
        (some (resume record).1.clearSandboxPersistentInfo.toJson)
    after[record.getBundleName]? = leftFrom record value ∧
      ∀ key : String, key ≠ record.getBundleName → after[key]? = values[key]? := by
  dsimp only
  rw [resume_sandboxPersistentInfo, resume_getBundleName]
  unfold leftFrom
  constructor
  · split_ifs
    · exact stored
    · exact Std.ExtTreeMap.getElem?_erase_self
    · exact Std.ExtTreeMap.getElem?_insert_self
    · exact Std.ExtTreeMap.getElem?_insert_self
  · intro key different
    have apart : compare record.getBundleName key ≠ .eq := by
      rw [ne_eq, Std.compare_eq_iff_eq]
      exact Ne.symm different
    split_ifs
    · rfl
    · rw [Std.ExtTreeMap.getElem?_erase, if_neg apart]
    · rw [Std.ExtTreeMap.getElem?_insert, if_neg apart]
    · rw [Std.ExtTreeMap.getElem?_insert, if_neg apart,
        Std.ExtTreeMap.getElem?_erase, if_neg apart]

/-- One more entry is done. -/
theorem Settles.step (settles : Settles read done loaded values)
    (wasRead : read[entry.key]? = some entry.value)
    (decoded : recordOf entry.value = some record)
    {next : Loaded} {after : StoredValues}
    (reader : ReaderClean next.results) (profile : ProfileClean next.results)
    (updates : next.updateInfos = ∅)
    (kept : next.infos[entry.key]? = loadedFrom record)
    (keptOthers : ∀ key : String, key ≠ entry.key →
      next.infos[key]? = loaded.infos[key]?)
    (left : after[entry.key]? = leftFrom record entry.value)
    (leftOthers : ∀ key : String, key ≠ entry.key → after[key]? = values[key]?) :
    Settles read (done ++ [entry]) next after where
  reader := reader
  profile := profile
  updates := updates
  settled := by
    intro key other value otherRead otherDecoded isDone
    by_cases same : key = entry.key
    · subst same
      obtain rfl : value = entry.value := Option.some.inj (otherRead.symm.trans wasRead)
      obtain rfl : other = record := Option.some.inj (otherDecoded.symm.trans decoded)
      exact ⟨kept, left⟩
    · rw [keptOthers key same, leftOthers key same]
      refine settles.settled key other value otherRead otherDecoded ?_
      simpa [same] using isDone
  untouched := by
    intro key isNotDone
    simp only [List.map_append, List.map_cons, List.map_nil, List.mem_append,
      List.mem_singleton, not_or] at isNotDone
    rw [keptOthers key isNotDone.2, leftOthers key isNotDone.2]
    exact settles.untouched key isNotDone.1

/-- One entry is settled. -/
theorem wpReturns_saveEntry (orderly : IsOrderlyStorage read)
    (wasRead : read[entry.key]? = some entry.value)
    (isNew : entry.key ∉ done.map (·.key)) (settles : Settles read done loaded values) :
    wpReturns recordStorage Obliges
      (BundleDataStorageDatabase.saveEntry loaded entry)
      (Settles read (done ++ [entry])) values := by
  obtain ⟨clean, record, decoded, named⟩ := orderly _ _ wasRead
  obtain ⟨results, decodes⟩ :=
    saveEntry_eq_of_recordOf settles.reader settles.profile decoded
  have alone := decodes
  rw [eq_initial_of_clean settles.reader settles.profile] at alone
  have reader : ReaderClean results := clean _ _ alone
  have profile : ProfileClean results :=
    saveEntry_preserves_profileClean entry {} _ _ rfl alone
  have stored : values[record.getBundleName]? = some entry.value := by
    rw [named, (settles.untouched entry.key isNew).2, wasRead]
  obtain ⟨left, others⟩ := leftFrom_spec record entry.value stored
  unfold BundleDataStorageDatabase.saveEntry
  rw [decodes]
  refine wpReturns_seq wpReturns_handleInvalidBundle ?_
  rintro _ _ ⟨rfl, rfl⟩
  dsimp only
  refine wpReturns_seq wpReturns_removeSandboxApp ?_
  rintro _ after ⟨rfl, leaves⟩
  rw [← leaves] at left others
  have sameName : (resume record).1.clearSandboxPersistentInfo.getBundleName =
      entry.key := (resume_getBundleName record).trans named
  rw [named] at left others
  split
  · next stays =>
    refine settles.step wasRead decoded reader profile ?_ ?_ ?_ left others
    · simp [keepInfo, sameName, settles.updates]
    · simp only [keepInfo, sameName, Std.ExtTreeMap.getElem?_insertIfNew]
      have absent := (settles.untouched entry.key isNew).1
      rw [if_pos, loadedFrom, if_pos stays]
      refine ⟨Std.compare_eq_iff_eq.mpr rfl, ?_⟩
      rw [← Std.ExtTreeMap.contains_iff_mem,
        Std.ExtTreeMap.contains_eq_isSome_getElem?, absent]
      exact Bool.false_ne_true
    · intro key different
      simp only [keepInfo, sameName, Std.ExtTreeMap.getElem?_insertIfNew]
      rw [if_neg]
      rintro ⟨same, -⟩
      exact different (Std.compare_eq_iff_eq.mp same).symm
  · next goes =>
    refine settles.step wasRead decoded reader profile settles.updates ?_
      (fun _ _ => rfl) left others
    rw [loadedFrom, if_neg goes]
    exact (settles.untouched entry.key isNew).1

/-- What a start in which nothing fails comes to. -/
structure Recovers (read : StoredValues) (infos : StringMap InnerBundleInfo)
    (after : StoredValues) : Prop where
  settled : ∀ (key : String) record value, read[key]? = some value →
    recordOf value = some record →
    infos[key]? = loadedFrom record ∧ after[key]? = leftFrom record value
  absent : ∀ key : String, read[key]? = none →
    infos[key]? = none ∧ after[key]? = none

theorem wpReturns_saveEntries (orderly : IsOrderlyStorage read) {entries : List Entry}
    (readAll : HasRead entries read) :
    wpReturns recordStorage Obliges
      (BundleDataStorageDatabase.saveEntries entries) (Recovers read) read := by
  have initially : Settles read [] {} read := by
    constructor <;> first | rfl | simp
  unfold BundleDataStorageDatabase.saveEntries
  refine wpReturns_seq (wpReturns_foldlM (Settles read) entries
    initially ?_) ?_
  · intro done entry rest loaded values split settles
    refine wpReturns_saveEntry orderly (readAll.member entry ?_) ?_ settles
    · rw [split]
      simp
    · have distinct := readAll.nodup
      rw [split, List.map_append, List.map_cons, List.nodup_append] at distinct
      intro isDone
      exact distinct.2.2 _ isDone _ List.mem_cons_self rfl
  · intro loaded values settles
    have nothing : updateDataBase ∅ = pure ⟨⟩ := rfl
    rw [settles.updates, nothing, pure_bind]
    constructor
    case settled =>
      intro key record value wasRead decoded
      refine settles.settled key record value wasRead decoded ?_
      exact List.mem_map.mpr ⟨_, readAll.all key value wasRead, rfl⟩
    case absent =>
      intro key absent
      rw [← absent]
      refine settles.untouched key fun isDone => ?_
      obtain ⟨entry, member, rfl⟩ := List.mem_map.mp isDone
      rw [readAll.member entry member] at absent
      cases absent

theorem wpReturns_loadAllData (orderly : IsOrderlyStorage read) :
    wpReturns recordStorage Obliges BundleDataStorageDatabase.loadAllData
      (fun loaded after => ∃ infos, loaded = some infos ∧
        Recovers read infos after) read := by
  unfold BundleDataStorageDatabase.loadAllData
  refine wpReturns_perform_bind fun order good => ?_
  obtain ⟨order, rfl⟩ := Option.isSome_iff_exists.mp good
  refine wpReturns_seq (wpReturns_saveEntries orderly
    (hasRead_arrange order read)) fun infos after recovers => ?_
  exact ⟨infos, rfl, recovers⟩

end Start

namespace InnerBundleInfo

open BundleExceptionHandler

/-- What was going on leaves nothing of the bundle: its installation had only
begun, or it was being removed. -/
def IsLeaving (info : InnerBundleInfo) : Prop :=
  info.mark.status = InstallExceptionStatus.installStart.toInt32 ∨
    info.mark.status = InstallExceptionStatus.uninstallBundleStart.toInt32 ∨
      info.mark.status = InstallExceptionStatus.uninstallPackageStart.toInt32 ∧
        info.isOnlyModule info.mark.packageName = true

variable {info : InnerBundleInfo}

theorem resume_of_finished (finished : ¬info.IsUnfinished) :
    resume info = (info, true) := by
  simp only [IsUnfinished, List.map_cons, List.map_nil, List.mem_cons,
    List.not_mem_nil, or_false, not_or] at finished
  simp [resume, finished]

/-- A record whose mark is replaced by that of a finished installation. -/
theorem not_isUnfinished_finish {record : InnerBundleInfo}
    (marked : record.mark.status = InstallExceptionStatus.installFinish.toInt32) :
    ¬record.IsUnfinished := by
  unfold IsUnfinished
  rw [marked]
  decide

/-- What stays is finished. -/
theorem not_isUnfinished_resume (stays : (resume info).2 = true) :
    ¬(resume info).1.IsUnfinished := by
  unfold resume at stays ⊢
  dsimp only at stays ⊢
  split_ifs at stays ⊢ with removed updating package only rename
  · exact not_isUnfinished_finish rfl
  · exact not_isUnfinished_finish rfl
  · exact not_isUnfinished_finish rfl
  · simp only [IsUnfinished, List.map_cons, List.map_nil, List.mem_cons,
      List.not_mem_nil, or_false]
    simp_all

theorem resume_leaving_iff : (resume info).2 = false ↔ info.IsLeaving := by
  unfold resume IsLeaving
  dsimp only
  split_ifs with removed updating package only rename <;>
    simp_all [InstallExceptionStatus.toInt32]
  rcases removed with status | status <;> simp [status]
  rcases updating with status | status <;> simp [status]

theorem resume_of_leaving (leaving : (resume info).2 = false) :
    (resume info).1 = info := by
  unfold resume at leaving ⊢
  dsimp only at leaving ⊢
  split_ifs at leaving ⊢ <;> rfl

/-- What a record is after the next start is decided by its mark and modules,
which the storage keeps. -/
theorem resume_clear_persisted :
    (resume info.clearSandboxPersistentInfo.persisted).2 = (resume info).2 := by
  unfold resume
  dsimp only
  split_ifs <;> first | rfl | contradiction

theorem lasting_clear_persisted (info : InnerBundleInfo) :
    info.clearSandboxPersistentInfo.persisted.clearSandboxPersistentInfo.lasting =
      info.clearSandboxPersistentInfo.lasting :=
  rfl

end InnerBundleInfo

section TwoStarts

open BundleExceptionHandler InnerBundleInfo

variable {read after last : StoredValues}
  {infos again : StringMap InnerBundleInfo}

/-- What a start leaves is as orderly as what it found. -/
theorem Recovers.orderly (recovers : Recovers read infos after)
    (orderly : IsOrderlyStorage read) : IsOrderlyStorage after := by
  intro key value stored
  cases wasRead : read[key]? with
  | none =>
      rw [(recovers.absent key wasRead).2] at stored
      cases stored
  | some before =>
      obtain ⟨clean, record, decoded, named⟩ := orderly key before wasRead
      rw [(recovers.settled key record before wasRead decoded).2, leftFrom] at stored
      split_ifs at stored with sandboxes stays
      · cases stored
        exact ⟨clean, record, decoded, named⟩
      · rw [← Option.some.inj stored]
        refine ⟨leavesNoError_toJson _, _, recordOf_toJson _, ?_⟩
        exact (resume_getBundleName record).trans named

/-- The bundles that are there after a start are those that were not leaving. -/
theorem Recovers.contains_iff (recovers : Recovers read infos after)
    (orderly : IsOrderlyStorage read) (bundleName : String) :
    infos.contains bundleName ↔ ∃ value record,
      read[bundleName]? = some value ∧ recordOf value = some record ∧
        ¬record.IsLeaving := by
  rw [Std.ExtTreeMap.contains_eq_isSome_getElem?]
  constructor
  · intro present
    cases wasRead : read[bundleName]? with
    | none =>
        rw [(recovers.absent bundleName wasRead).1] at present
        cases present
    | some value =>
        obtain ⟨-, record, decoded, -⟩ := orderly bundleName value wasRead
        refine ⟨value, record, rfl, decoded, fun leaving => ?_⟩
        have goes := resume_leaving_iff.mpr leaving
        rw [(recovers.settled bundleName record value wasRead decoded).1,
          loadedFrom, goes] at present
        cases present
  · rintro ⟨value, record, wasRead, decoded, staying⟩
    rw [(recovers.settled bundleName record value wasRead decoded).1, loadedFrom,
      if_pos]
    · rfl
    · rw [← Bool.not_eq_false, resume_leaving_iff]
      exact staying

/-- No record that is loaded is unfinished. -/
theorem Recovers.not_isUnfinished (recovers : Recovers read infos after)
    (orderly : IsOrderlyStorage read) {bundleName : String} {info : InnerBundleInfo}
    (loaded : infos[bundleName]? = some info) : ¬info.IsUnfinished := by
  cases wasRead : read[bundleName]? with
  | none =>
      rw [(recovers.absent bundleName wasRead).1] at loaded
      cases loaded
  | some value =>
      obtain ⟨-, record, decoded, -⟩ := orderly bundleName value wasRead
      rw [(recovers.settled bundleName record value wasRead decoded).1,
        loadedFrom] at loaded
      split_ifs at loaded with stays
      rw [← Option.some.inj loaded]
      exact not_isUnfinished_resume stays

/-- A second start loads the same records, and then no bundle is stored that is
not loaded. -/
theorem Recovers.same_again (recovers : Recovers read infos after)
    (orderly : IsOrderlyStorage read) (recoversAgain : Recovers after again last)
    (bundleName : String) :
    again[bundleName]?.map (·.lasting) = infos[bundleName]?.map (·.lasting) ∧
      last.contains bundleName = again.contains bundleName := by
  simp only [Std.ExtTreeMap.contains_eq_isSome_getElem?]
  have gone (left : after[bundleName]? = none)
      (unloaded : infos[bundleName]? = none) :
      again[bundleName]?.map (·.lasting) = infos[bundleName]?.map (·.lasting) ∧
        last[bundleName]?.isSome = again[bundleName]?.isSome := by
    obtain ⟨nothing, removed⟩ := recoversAgain.absent bundleName left
    rw [nothing, removed, unloaded]
    exact ⟨rfl, rfl⟩
  cases wasRead : read[bundleName]? with
  | none =>
      obtain ⟨unloaded, left⟩ := recovers.absent bundleName wasRead
      exact gone left unloaded
  | some value =>
      obtain ⟨-, record, decoded, -⟩ := orderly bundleName value wasRead
      obtain ⟨loaded, left⟩ :=
        recovers.settled bundleName record value wasRead decoded
      by_cases sandboxes : record.sandboxPersistentInfo = []
      · rw [leftFrom, if_pos sandboxes] at left
        split at left
        · next stays =>
          obtain ⟨loadedAgain, leftAgain⟩ :=
            recoversAgain.settled bundleName record value left decoded
          rw [loadedAgain, leftAgain, loaded, leftFrom, if_pos sandboxes,
            if_pos stays, loadedFrom, if_pos stays]
          exact ⟨rfl, rfl⟩
        · next goes =>
          rw [loadedFrom, if_neg goes] at loaded
          exact gone left loaded
      · -- The record was saved without its sandboxes.
        rw [leftFrom, if_neg sandboxes] at left
        obtain ⟨loadedAgain, leftAgain⟩ := recoversAgain.settled bundleName _ _
          left (recordOf_toJson _)
        have cleared (info : InnerBundleInfo) :
            info.clearSandboxPersistentInfo.persisted.sandboxPersistentInfo = [] :=
          rfl
        rw [loadedAgain, leftAgain, loaded]
        cases stays : (resume record).2 with
        | true =>
            have finished := @resume_of_finished
              (resume record).1.clearSandboxPersistentInfo.persisted
                (not_isUnfinished_resume stays)
            have before : loadedFrom record =
                some (resume record).1.clearSandboxPersistentInfo := by
              rw [loadedFrom, if_pos stays]
            rw [before, loadedFrom, leftFrom, if_pos (cleared _), finished]
            simp [lasting_clear_persisted]
        | false =>
            have goes := @resume_clear_persisted record
            rw [stays] at goes
            have before : loadedFrom record = none := by
              rw [loadedFrom, stays]
              rfl
            rw [before, resume_of_leaving stays, loadedFrom, leftFrom,
              if_pos (cleared _), goes]
            exact ⟨rfl, rfl⟩

end TwoStarts

theorem obliging_isGood (position : Nat) (command : LoadCommand) :
    command.IsGood (obliging position command) := by
  cases command with
  | getEntries => rfl
  | put info => rfl
  | delete key => rfl
  | ask request => cases request <;> trivial

/-- A storage that holds its records under their names is orderly. -/
theorem IsFiled.orderly {values : StoredValues} (filed : IsFiled values) :
    IsOrderlyStorage values := by
  intro key value stored
  obtain ⟨record, rfl, named⟩ := filed key value stored
  exact ⟨leavesNoError_toJson record, record.persisted, recordOf_toJson record,
    named⟩

end AppExecFwk
