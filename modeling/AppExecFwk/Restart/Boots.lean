import AppExecFwk.Profile.DecodeSequence
import AppExecFwk.Restart.StorageDatabase
import AppExecFwk.Store.RecordEffect

/-!
# Bundles survive restarts

The device may be switched off at any moment, also while the service loads its
records, and what the service asks of others may fail.  A bundle whose
installation was finished is there again after the next start that comes to its
end.
-/

namespace AppExecFwk

open CommandProgram LoadOperation

/-- The record that a stored value is decoded to on its own. -/
def recordOf (value : Option Json) : Option InnerBundleInfo :=
  match (saveEntry ⟨"", value⟩ {}).1 with
  | .ok record => record
  | .error _ => none

/-- Decoding the value leaves no error behind for the one that follows. -/
def LeavesNoError (value : Option Json) : Prop :=
  ∀ record after, saveEntry ⟨"", value⟩ {} = (.ok record, after) →
    ReaderClean after

/-- What a record is after a restart, whatever became of its sandboxes. -/
def InnerBundleInfo.lasting (info : InnerBundleInfo) : InnerBundleInfo :=
  info.clearSandboxPersistentInfo.persisted

/-- Something was going on when the record was saved. -/
def InnerBundleInfo.IsUnfinished (info : InnerBundleInfo) : Prop :=
  info.mark.status ∈ [InstallExceptionStatus.installStart,
    .updatingExistedStart, .updatingNewStart, .updatingFinish,
    .uninstallBundleStart, .uninstallPackageStart].map (·.toInt32)

/-- A stored value is that of a record, up to its sandboxes. -/
def IsRecordOf (info : InnerBundleInfo) (value : Option Json) : Prop :=
  ∃ record, recordOf value = some record ∧ record.lasting = info.lasting

/-- The storage has a record of the bundle, and no other record can be taken for
it or be put into its place. -/
structure Survives (info : InnerBundleInfo) (values : StoredValues) : Prop where
  stored : ∃ (key : String) (value : Option Json), values[key]? = some value ∧
    IsRecordOf info value
  same : ∀ (key : String) value, values[key]? = some value →
    key = info.getBundleName ∨
      (recordOf value).map (·.getBundleName) = some info.getBundleName →
    IsRecordOf info value
  apart : ∀ (key : String) value, values[key]? = some value →
    IsRecordOf info value → ∀ (other : String) otherValue,
      values[other]? = some otherValue → (recordOf otherValue).map (·.getBundleName) = some key →
      key = info.getBundleName
  clean : ∀ (key : String) value, values[key]? = some value →
    LeavesNoError value

section Decoding

theorem recordOf_toJson (info : InnerBundleInfo) :
    recordOf (some info.toJson) = some info.persisted := by
  have decoded := info.fromJson_toJson {} rfl
  unfold recordOf saveEntry
  simp only [bind, Decoder.bind, decoded]
  rfl

theorem leavesNoError_toJson (info : InnerBundleInfo) :
    LeavesNoError (some info.toJson) := by
  intro record after decodes
  have decoded := info.fromJson_toJson {} rfl
  unfold saveEntry at decodes
  simp only [bind, Decoder.bind, decoded] at decodes
  cases decodes
  rfl

/-- Decoding a record that is named leaves its name as it is. -/
theorem lasting_getBundleName (info : InnerBundleInfo) :
    info.lasting.getBundleName = info.getBundleName :=
  rfl

theorem getBundleName_of_lasting {info record : InnerBundleInfo}
    (same : record.lasting = info.lasting) :
    record.getBundleName = info.getBundleName := by
  rw [← lasting_getBundleName record, same, lasting_getBundleName]

theorem not_isUnfinished_of_lasting {info record : InnerBundleInfo}
    (finished : ¬info.IsUnfinished) (same : record.lasting = info.lasting) :
    ¬record.IsUnfinished := by
  have mark : record.lasting.mark = info.lasting.mark := by rw [same]
  unfold InnerBundleInfo.IsUnfinished at finished ⊢
  change record.mark = info.mark at mark
  rw [mark]
  exact finished

theorem IsRecordOf.name {info : InnerBundleInfo} {value : Option Json}
    (isRecord : IsRecordOf info value) :
    (recordOf value).map (·.getBundleName) = some info.getBundleName := by
  obtain ⟨record, decoded, same⟩ := isRecord
  rw [decoded, Option.map_some, getBundleName_of_lasting same]

end Decoding

section Boot

variable {info : InnerBundleInfo} {entries : List Entry}
  {values : StoredValues}

/-- What a start has read: all entries that were there, in some order. -/
structure HasRead (entries : List Entry) (values : StoredValues) : Prop where
  member : ∀ entry ∈ entries, values[entry.key]? = some entry.value
  all : ∀ (key : String) value, values[key]? = some value →
    ⟨key, value⟩ ∈ entries
  nodup : (entries.map (·.key)).Nodup

theorem hasRead_arrange (order : EntryOrder) (values : StoredValues) :
    HasRead ((order.arrange values.toList).map fun entry =>
      ⟨entry.1, entry.2⟩) values := by
  have members (entry : String × Option Json) :
      entry ∈ order.arrange values.toList ↔ values[entry.1]? = some entry.2 := by
    rw [(order.perm _).mem_iff]
    exact Std.ExtTreeMap.mem_toList_iff_getElem?_eq_some
  constructor
  case member =>
    intro entry member
    obtain ⟨pair, listed, rfl⟩ := List.mem_map.mp member
    exact (members pair).mp listed
  case all =>
    intro key value stored
    exact List.mem_map.mpr ⟨(key, value), (members (key, value)).mpr stored, rfl⟩
  case nodup =>
    rw [List.map_map]
    refine ((order.perm values.toList).map _).nodup_iff.mpr ?_
    have keys := values.nodup_keys
    rw [← Std.ExtTreeMap.map_fst_toList_eq_keys] at keys
    exact keys

/-- While a start is going on, the record is under its own name, or under a key
it was read from. -/
structure Kept (info : InnerBundleInfo) (read values : StoredValues) : Prop
    extends Survives info values where
  found : ∃ (key : String) (value : Option Json), values[key]? = some value ∧
    IsRecordOf info value ∧ (key = info.getBundleName ∨
      ∃ before, read[key]? = some before ∧ IsRecordOf info before)

variable {read : StoredValues}

theorem Kept.of_survives (survives : Survives info values) :
    Kept info values values where
  toSurvives := survives
  found := by
    obtain ⟨key, value, stored, isRecord⟩ := survives.stored
    exact ⟨key, value, stored, isRecord, .inr ⟨value, stored, isRecord⟩⟩

/-- An entry may go if it is not under the name of the bundle, and if there is
one under that name or no record of the bundle was read from it. -/
theorem Kept.erase (kept : Kept info read values) {key : String}
    (different : key ≠ info.getBundleName)
    (harmless : (∃ value, values[info.getBundleName]? = some value) ∨
      ∀ before, read[key]? = some before → ¬IsRecordOf info before) :
    Kept info read (values.erase key) := by
  have present {other : String} {value : Option Json}
      (stored : (values.erase key)[other]? = some value) :
      values[other]? = some value := by
    rw [Std.ExtTreeMap.getElem?_erase] at stored
    split at stored
    · cases stored
    · exact stored
  have found : ∃ (other : String) (value : Option Json),
      (values.erase key)[other]? = some value ∧ IsRecordOf info value ∧
        (other = info.getBundleName ∨
          ∃ before, read[other]? = some before ∧ IsRecordOf info before) := by
    rcases harmless with ⟨value, stored⟩ | harmless
    · refine ⟨info.getBundleName, value, ?_,
        kept.same _ value stored (.inl rfl), .inl rfl⟩
      rw [Std.ExtTreeMap.getElem?_erase, if_neg]
      · exact stored
      · rw [Std.compare_eq_iff_eq]
        exact different
    · obtain ⟨other, value, stored, isRecord, place⟩ := kept.found
      refine ⟨other, value, ?_, isRecord, place⟩
      rw [Std.ExtTreeMap.getElem?_erase, if_neg]
      · exact stored
      · intro same
        rw [Std.compare_eq_iff_eq] at same
        subst same
        rcases place with named | ⟨before, wasRead, wasRecord⟩
        · exact different named
        · exact harmless before wasRead wasRecord
  constructor
  case found => exact found
  constructor
  case stored =>
    obtain ⟨other, value, stored, isRecord, -⟩ := found
    exact ⟨other, value, stored, isRecord⟩
  case same => exact fun other value stored => kept.same other value (present stored)
  case apart =>
    intro other value stored isRecord third thirdValue thirdStored
    exact kept.apart other value (present stored) isRecord third thirdValue
      (present thirdStored)
  case clean => exact fun other value stored => kept.clean other value (present stored)

/-- A record may be put under its name if it is the one of the bundle, or if no
record of the bundle was read from there. -/
theorem Kept.insert (kept : Kept info read values) {record : InnerBundleInfo}
    (harmless : record.lasting = info.lasting ∨
      record.getBundleName ≠ info.getBundleName ∧
        ∀ before, read[record.getBundleName]? = some before →
          ¬IsRecordOf info before) :
    Kept info read
      (values.insert record.getBundleName (some record.toJson)) := by
  have decoded := recordOf_toJson record
  -- The value that is put is one of the bundle exactly if its name is.
  have isRecord_iff : IsRecordOf info (some record.toJson) ↔
      record.getBundleName = info.getBundleName := by
    constructor
    · intro isRecord
      have named := isRecord.name
      rw [decoded] at named
      exact Option.some.inj named
    · intro named
      rcases harmless with same | ⟨different, -⟩
      · exact ⟨record.persisted, decoded, same⟩
      · exact absurd named different
  have cases_of_stored {other : String} {value : Option Json}
      (stored : (values.insert record.getBundleName
        (some record.toJson))[other]? = some value) :
      other = record.getBundleName ∧ value = some record.toJson ∨
        other ≠ record.getBundleName ∧ values[other]? = some value := by
    rw [Std.ExtTreeMap.getElem?_insert] at stored
    split at stored
    · next same =>
        rw [Std.compare_eq_iff_eq] at same
        exact .inl ⟨same.symm, (Option.some.inj stored).symm⟩
    · next different =>
        rw [Std.compare_eq_iff_eq] at different
        exact .inr ⟨Ne.symm different, stored⟩
  have found : ∃ (key : String) (value : Option Json),
      (values.insert record.getBundleName (some record.toJson))[key]? =
        some value ∧ IsRecordOf info value ∧ (key = info.getBundleName ∨
          ∃ before, read[key]? = some before ∧ IsRecordOf info before) := by
    by_cases named : record.getBundleName = info.getBundleName
    · exact ⟨record.getBundleName, some record.toJson,
        Std.ExtTreeMap.getElem?_insert_self, isRecord_iff.mpr named, .inl named⟩
    · obtain ⟨key, value, stored, isRecord, place⟩ := kept.found
      refine ⟨key, value, ?_, isRecord, place⟩
      rw [Std.ExtTreeMap.getElem?_insert, if_neg]
      · exact stored
      · intro same
        rw [Std.compare_eq_iff_eq] at same
        subst same
        rcases place with own | ⟨before, wasRead, wasRecord⟩
        · exact named own
        · rcases harmless with same | ⟨-, harmless⟩
          · exact named (getBundleName_of_lasting same)
          · exact harmless before wasRead wasRecord
  constructor
  case found => exact found
  constructor
  case stored =>
    obtain ⟨key, value, stored, isRecord, -⟩ := found
    exact ⟨key, value, stored, isRecord⟩
  case same =>
    intro key value stored place
    rcases cases_of_stored stored with ⟨rfl, rfl⟩ | ⟨-, stored⟩
    · rw [isRecord_iff]
      rcases place with named | named
      · exact named
      · rw [decoded] at named
        exact Option.some.inj named
    · exact kept.same key value stored place
  case apart =>
    intro key value stored isRecord other otherValue otherStored named
    rcases cases_of_stored stored with ⟨rfl, rfl⟩ | ⟨different, stored⟩
    · exact isRecord_iff.mp isRecord
    · rcases cases_of_stored otherStored with ⟨rfl, rfl⟩ | ⟨-, otherStored⟩
      · rw [decoded] at named
        exact absurd (Option.some.inj named).symm different
      · exact kept.apart key value stored isRecord other otherValue otherStored
          named
  case clean =>
    intro key value stored
    rcases cases_of_stored stored with ⟨rfl, rfl⟩ | ⟨-, stored⟩
    · exact leavesNoError_toJson record
    · exact kept.clean key value stored

section Calls

variable {key : String} {record : InnerBundleInfo}

/-- A call that leaves alone what is kept: it asks another process, or deletes
or puts an entry that may go or come. -/
inductive IsHarmless (info : InnerBundleInfo) (read : StoredValues) :
    LoadCommand → Prop where
  | ask (request : Request) : IsHarmless info read (.ask request)
  | delete (key : String) (different : key ≠ info.getBundleName)
      (harmless : ∀ before, read[key]? = some before →
        ¬IsRecordOf info before) : IsHarmless info read (.delete key)
  | put (record : InnerBundleInfo) (harmless : record.lasting = info.lasting ∨
      record.getBundleName ≠ info.getBundleName ∧
        ∀ before, read[record.getBundleName]? = some before →
          ¬IsRecordOf info before) : IsHarmless info read (.put record)

theorem IsHarmless.kept {command : LoadCommand}
    (harmless : IsHarmless info read command) (answer : command.Answer)
    (values : StoredValues) (kept : Kept info read values) :
    Kept info read (command.perform answer values).2 := by
  cases harmless with
  | ask request => exact kept
  | delete key different harmless =>
      cases answer with
      | false => exact kept
      | true => exact kept.erase different (.inr harmless)
  | put record harmless =>
      cases answer with
      | false => exact kept
      | true => exact kept.insert harmless

theorem always_of_conforms {α : Type} {program : LoadOperation α}
    {isReturned : α → Prop}
    (conforms : Conforms (IsHarmless info read) isReturned program)
    (kept : Kept info read values) :
    wpAlways recordStorage (Kept info read) program
      (fun value _ => isReturned value) values :=
  wpAlways_of_conforms conforms
    (fun _ harmless answer world before => harmless.kept answer world before) kept

theorem removeBundleAndDataDir_conforms (bundleDir bundleOrModuleDir : String)
    (userId : Int32) :
    Conforms (IsHarmless info read) (fun _ => True)
      (BundleExceptionHandler.removeBundleAndDataDir bundleDir bundleOrModuleDir
        userId) := by
  unfold BundleExceptionHandler.removeBundleAndDataDir
  refine Conforms.bind (Conforms.perform (.ask _)) fun result _ => ?_
  split
  · trivial
  · split <;>
      exact Conforms.bind (Conforms.perform (.ask _)) fun _ _ => trivial

theorem removeInvalidBundle_conforms
    (different : record.getBundleName ≠ info.getBundleName)
    (harmless : ∀ before, read[record.getBundleName]? = some before →
      ¬IsRecordOf info before) :
    Conforms (IsHarmless info read) (fun _ => True)
      (BundleExceptionHandler.removeInvalidBundle record) := by
  unfold BundleExceptionHandler.removeInvalidBundle
  refine (removeBundleAndDataDir_conforms _ _ _).bind fun removed _ => ?_
  split
  · refine Conforms.bind (Conforms.perform ?_) fun _ _ => trivial
    exact .delete _ different harmless
  · trivial

/-- Nothing is left to do for a record whose installation was finished. -/
theorem handleInvalidBundle_of_finished (finished : ¬record.IsUnfinished) :
    BundleExceptionHandler.handleInvalidBundle record = pure (record, true) := by
  simp only [InnerBundleInfo.IsUnfinished, List.map_cons, List.map_nil,
    List.mem_cons, List.not_mem_nil, or_false, not_or] at finished
  simp [BundleExceptionHandler.handleInvalidBundle, finished]

/-- A record that is not the one of the bundle is handled without harm to the
bundle, and keeps its name. -/
theorem handleInvalidBundle_conforms
    (different : record.getBundleName ≠ info.getBundleName)
    (harmless : ∀ before, read[record.getBundleName]? = some before →
      ¬IsRecordOf info before) :
    Conforms (IsHarmless info read)
      (fun result => result.1.getBundleName = record.getBundleName)
      (BundleExceptionHandler.handleInvalidBundle record) := by
  have removal := removeInvalidBundle_conforms different harmless
  have removed := record.removeModuleInfo_getBundleName record.mark.packageName
  unfold BundleExceptionHandler.handleInvalidBundle
  dsimp only
  split
  · rfl
  split
  · exact removal.bind fun _ _ => rfl
  split
  · refine Conforms.bind (Conforms.perform (.ask _)) fun result _ => ?_
    split <;> rfl
  split
  · refine (removeBundleAndDataDir_conforms _ _ _).bind fun removed _ => ?_
    split <;> rfl
  split
  · exact removal.bind fun _ _ => rfl
  split
  · have module : Conforms (IsHarmless info read)
        (fun result => result.1.getBundleName = record.getBundleName) (do
          if ← BundleExceptionHandler.removeBundleAndDataDir
              (BundleExceptionHandler.moduleDir record)
              (BundleExceptionHandler.moduleDataDir record) record.userId then
            return ((BundleExceptionHandler.finish (record.removeModuleInfo
              record.mark.packageName)).setBundleStatus .enabled, true)
          return (record, true)) := by
      refine (removeBundleAndDataDir_conforms _ _ _).bind fun _ _ => ?_
      split
      · exact removed
      · rfl
    split
    · refine removal.bind fun isRemoved _ => ?_
      split
      · rfl
      · exact module
    · exact module
  split
  · refine Conforms.bind (Conforms.perform (.ask _)) fun result _ => ?_
    split <;> rfl
  · rfl

/-- Forgetting the sandboxes of a record: it may be put into the storage. -/
theorem removeSandboxApp_conforms
    (harmless : record.lasting = info.lasting ∨
      record.getBundleName ≠ info.getBundleName ∧
        ∀ before, read[record.getBundleName]? = some before →
          ¬IsRecordOf info before) :
    Conforms (IsHarmless info read)
      (fun cleared => cleared = record.clearSandboxPersistentInfo)
      (BundleSandboxExceptionHandler.removeSandboxApp record) := by
  have puts : IsHarmless info read
      (.put record.clearSandboxPersistentInfo) := .put _ harmless
  unfold BundleSandboxExceptionHandler.removeSandboxApp
  split
  · next none =>
      change record = record.clearSandboxPersistentInfo
      rw [InnerBundleInfo.clearSandboxPersistentInfo, ← none]
  · refine Conforms.bind (Conforms.perform puts) fun _ _ => ?_
    refine Conforms.bind (Conforms.forM ?_) fun _ _ => rfl
    intro sandbox _
    split
    · trivial
    · refine Conforms.bind (Conforms.perform (.ask _)) fun _ _ => ?_
      exact Conforms.bind (Conforms.perform (.ask _)) fun _ _ => trivial

end Calls

section Loading

open BundleDataStorageDatabase

/-- What has been loaded from the entries that are done. -/
structure LoadsWell (info : InnerBundleInfo) (read : StoredValues)
    (done : List Entry) (loaded : Loaded) : Prop where
  reader : ReaderClean loaded.results
  profile : ProfileClean loaded.results
  same : ∀ record, loaded.infos[info.getBundleName]? = some record →
    record.lasting = info.lasting
  found : (∃ entry ∈ done, IsRecordOf info entry.value) →
    loaded.infos.contains info.getBundleName
  updates : ∀ (key : String) record, loaded.updateInfos[key]? = some record →
    key ≠ record.getBundleName ∧
      (record.getBundleName = info.getBundleName →
        record.lasting = info.lasting) ∧
      ∃ before, read[key]? = some before ∧
        (recordOf before).map (·.getBundleName) = some record.getBundleName

/-- In a clean state an entry is decoded as it is on its own. -/
theorem saveEntry_of_clean {loaded : Loaded} {done : List Entry}
    (well : LoadsWell info read done loaded) (entry : Entry) :
    AppExecFwk.saveEntry entry { loaded.results with here := ErrCode.ok } =
      AppExecFwk.saveEntry ⟨"", entry.value⟩ {} := by
  rw [eq_initial_of_clean well.reader well.profile]
  rfl

/-- An entry from which nothing was loaded adds nothing. -/
theorem LoadsWell.skip {loaded : Loaded} {done : List Entry} {entry : Entry}
    {results : ParseResults} (well : LoadsWell info read done loaded)
    (reader : ReaderClean results) (profile : ProfileClean results)
    (other : ¬IsRecordOf info entry.value) :
    LoadsWell info read (done ++ [entry]) { loaded with results := results } where
  reader := reader
  profile := profile
  same := well.same
  found := by
    rintro ⟨first, member, isRecord⟩
    rcases List.mem_append.mp member with earlier | last
    · exact well.found ⟨first, earlier, isRecord⟩
    · rw [List.mem_singleton.mp last] at isRecord
      exact absurd isRecord other
  updates := well.updates

/-- A record that was loaded is kept. -/
theorem LoadsWell.keep {loaded : Loaded} {done : List Entry} {entry : Entry}
    {results : ParseResults} {record : InnerBundleInfo}
    (well : LoadsWell info read done loaded)
    (reader : ReaderClean results) (profile : ProfileClean results)
    (wasRead : read[entry.key]? = some entry.value)
    (named : (recordOf entry.value).map (·.getBundleName) =
      some record.getBundleName)
    (own : record.getBundleName = info.getBundleName →
      record.lasting = info.lasting) :
    LoadsWell info read (done ++ [entry])
      (keepInfo { loaded with results := results } entry.key record) where
  reader := reader
  profile := profile
  same := by
    intro other stored
    simp only [keepInfo, Std.ExtTreeMap.getElem?_insertIfNew] at stored
    split at stored
    · next isNew =>
        cases stored
        exact own (Std.compare_eq_iff_eq.mp isNew.1)
    · exact well.same other stored
  found := by
    rintro ⟨first, member, isRecord⟩
    simp only [keepInfo, Std.ExtTreeMap.contains_insertIfNew, Bool.or_eq_true]
    rcases List.mem_append.mp member with earlier | last
    · exact .inr (well.found ⟨first, earlier, isRecord⟩)
    · rw [List.mem_singleton.mp last] at isRecord
      have sameName := named.symm.trans isRecord.name
      rw [Option.some.inj sameName]
      simp
  updates := by
    intro key other stored
    simp only [keepInfo] at stored
    split at stored
    · next moved =>
        rw [Std.ExtTreeMap.getElem?_insertIfNew] at stored
        split at stored
        · next isNew =>
            cases stored
            obtain rfl : entry.key = key := Std.compare_eq_iff_eq.mp isNew.1
            exact ⟨moved, own, entry.value, wasRead, named⟩
        · exact well.updates key other stored
    · exact well.updates key other stored

/-- What is decoded from an entry, when no error is left from the one before. -/
theorem recordOf_of_saveEntry {value : Option Json}
    {decoded : Option InnerBundleInfo} {results : ParseResults}
    (decodes : AppExecFwk.saveEntry ⟨"", value⟩ {} = (.ok decoded, results)) :
    recordOf value = decoded := by
  unfold recordOf
  rw [decodes]

/-- Loading one entry. -/
theorem saveEntry_always (survived : Survives info read)
    (finished : ¬info.IsUnfinished) {loaded : Loaded} {done : List Entry}
    {entry : Entry} (wasRead : read[entry.key]? = some entry.value)
    (kept : Kept info read values) (well : LoadsWell info read done loaded) :
    wpAlways recordStorage (Kept info read)
      (BundleDataStorageDatabase.saveEntry loaded entry)
      (fun loaded _ => LoadsWell info read (done ++ [entry]) loaded) values := by
  have only {before : Option Json}
      (present : read[entry.key]? = some before) : before = entry.value :=
    Option.some.inj (present.symm.trans wasRead)
  unfold BundleDataStorageDatabase.saveEntry
  rw [saveEntry_of_clean well entry]
  split
  · exact kept
  · next results decodes =>
    have nothing := recordOf_of_saveEntry decodes
    have other : ¬IsRecordOf info entry.value := by
      rintro ⟨record, decoded, -⟩
      rw [nothing] at decoded
      cases decoded
    have reader := survived.clean entry.key entry.value wasRead _ _ decodes
    have profile : ProfileClean results :=
      saveEntry_preserves_profileClean _ {} none results rfl decodes
    have deletion : IsHarmless info read (.delete entry.key) := by
      refine .delete entry.key ?_ fun before present isRecord => ?_
      · intro named
        exact other (survived.same _ _ wasRead (.inl named))
      · rw [only present] at isRecord
        exact other isRecord
    refine wpAlways_seq (always_of_conforms (Conforms.perform deletion) kept) ?_
    intro _ after kept _
    exact ⟨kept, well.skip reader profile other⟩
  · next record results decodes =>
    have decoded := recordOf_of_saveEntry decodes
    have reader := survived.clean entry.key entry.value wasRead _ _ decodes
    have profile : ProfileClean results :=
      saveEntry_preserves_profileClean _ {} _ results rfl decodes
    by_cases named : record.getBundleName = info.getBundleName
    · -- The record of the bundle itself: nothing but its sandboxes goes.
      have isRecord : IsRecordOf info entry.value := by
        refine survived.same _ _ wasRead (.inr ?_)
        rw [decoded, Option.map_some, named]
      obtain ⟨own, sameRecord, lasting⟩ := isRecord
      obtain rfl : record = own := Option.some.inj (decoded.symm.trans sameRecord)
      dsimp only
      rw [handleInvalidBundle_of_finished
        (not_isUnfinished_of_lasting finished lasting), pure_bind]
      dsimp only
      refine wpAlways_seq (always_of_conforms
        (removeSandboxApp_conforms (.inl lasting)) kept) ?_
      rintro _ after kept rfl
      refine ⟨kept, well.keep reader profile wasRead ?_ fun _ => lasting⟩
      rw [decoded]
      rfl
    · have other : ¬IsRecordOf info entry.value := by
        rintro ⟨own, sameRecord, lasting⟩
        rw [decoded] at sameRecord
        cases sameRecord
        exact named (getBundleName_of_lasting lasting)
      have harmless : ∀ before, read[record.getBundleName]? = some before →
          ¬IsRecordOf info before := by
        intro before present isRecord
        refine named (survived.apart _ before present isRecord entry.key
          entry.value wasRead ?_)
        rw [decoded, Option.map_some]
      refine wpAlways_seq (always_of_conforms
        (handleInvalidBundle_conforms named harmless) kept) ?_
      rintro ⟨handled, isBundleValid⟩ after kept sameName
      dsimp only at sameName ⊢
      refine wpAlways_seq (always_of_conforms
        (removeSandboxApp_conforms (.inr ?_)) kept) ?_
      · rw [sameName]
        exact ⟨named, harmless⟩
      · rintro _ after kept rfl
        have cleared : handled.clearSandboxPersistentInfo.getBundleName =
            record.getBundleName := sameName
        split
        · refine ⟨kept, well.keep reader profile wasRead ?_ fun own => ?_⟩
          · rw [decoded, cleared, Option.map_some]
          · exact absurd (cleared.symm.trans own) named
        · exact ⟨kept, well.skip reader profile other⟩

/-- Moving one entry from its old key. -/
theorem updateEntry_always (survived : Survives info read)
    (kept : Kept info read values) {key : String} {record : InnerBundleInfo}
    (moved : key ≠ record.getBundleName)
    (own : record.getBundleName = info.getBundleName →
      record.lasting = info.lasting) {before : Option Json}
    (wasRead : read[key]? = some before)
    (named : (recordOf before).map (·.getBundleName) =
      some record.getBundleName) :
    wpAlways recordStorage (Kept info read) (updateEntry (key, record))
      (fun _ _ => True) values := by
  have only {value : Option Json} (present : read[key]? = some value) :
      value = before := Option.some.inj (present.symm.trans wasRead)
  unfold updateEntry
  by_cases isOwn : record.getBundleName = info.getBundleName
  · have saving : wpAlways recordStorage (Kept info read)
        (saveStorageBundleInfo record) (fun saved after => saved = true →
          ∃ value, after[info.getBundleName]? = some value) values := by
      refine wpAlways_perform (LoadCommand.put record) kept fun accepted => ?_
      refine ⟨(IsHarmless.put record (.inl (own isOwn))).kept accepted values kept,
        fun saved => ⟨some record.toJson, ?_⟩⟩
      obtain rfl : accepted = true := saved
      rw [← isOwn]
      exact Std.ExtTreeMap.getElem?_insert_self
    refine wpAlways_seq saving fun saved after kept present => ?_
    split
    · next isSaved =>
      have deleting : wpAlways recordStorage (Kept info read) (deleteKey key)
          (fun _ _ => True) after := by
        refine wpAlways_perform (LoadCommand.delete key) kept fun accepted => ?_
        cases accepted with
        | false => exact ⟨kept, trivial⟩
        | true =>
            refine ⟨kept.erase ?_ (.inl (present isSaved)), trivial⟩
            rw [← isOwn]
            exact moved
      exact wpAlways_seq deleting fun _ _ kept _ => ⟨kept, trivial⟩
    · exact ⟨kept, trivial⟩
  · have other : ¬IsRecordOf info before := by
      intro isRecord
      exact isOwn (Option.some.inj (named.symm.trans isRecord.name))
    have puts : IsHarmless info read (.put record) := by
      refine .put record (.inr ⟨isOwn, fun value present isRecord => ?_⟩)
      exact isOwn (survived.apart _ value present isRecord key before wasRead
        named)
    have deletes : IsHarmless info read (.delete key) := by
      refine .delete key ?_ fun value present isRecord => ?_
      · intro isName
        exact other (survived.same key before wasRead (.inl isName))
      · rw [only present] at isRecord
        exact other isRecord
    have conforms : Conforms (IsHarmless info read) (fun _ => True)
        (updateEntry (key, record)) := by
      refine Conforms.bind (Conforms.perform puts) fun saved _ => ?_
      split
      · exact Conforms.bind (Conforms.perform deletes) fun _ _ => trivial
      · trivial
    exact wpAlways_mono (always_of_conforms conforms kept)
      fun _ _ _ _ => trivial

/-- All entries, and then those under an old key. -/
theorem saveEntries_always (survived : Survives info read)
    (finished : ¬info.IsUnfinished) {entries : List Entry}
    (readAll : HasRead entries read) (kept : Kept info read values) :
    wpAlways recordStorage (Kept info read)
      (BundleDataStorageDatabase.saveEntries entries)
      (fun infos _ => ∃ record, infos[info.getBundleName]? = some record ∧
        record.lasting = info.lasting) values := by
  unfold BundleDataStorageDatabase.saveEntries
  have initially : LoadsWell info read [] {} := by
    constructor <;> first | rfl | simp
  refine wpAlways_seq (wpAlways_foldlM
    (fun done loaded _ => LoadsWell info read done loaded)
    entries kept initially ?_) ?_
  · intro done entry rest loaded world split kept well
    refine saveEntry_always survived finished (readAll.member entry ?_) kept well
    rw [split]
    simp
  · intro loaded after kept well
    refine wpAlways_seq (wpAlways_forM kept ?_) ?_
    · rintro ⟨key, record⟩ member world kept
      have stored := Std.ExtTreeMap.mem_toList_iff_getElem?_eq_some.mp member
      obtain ⟨moved, own, before, wasRead, named⟩ :=
        well.updates key record stored
      exact updateEntry_always survived kept moved own wasRead named
    · intro _ last kept _
      refine ⟨kept, ?_⟩
      obtain ⟨key, value, stored, isRecord⟩ := survived.stored
      have present := well.found ⟨⟨key, value⟩, readAll.all key value stored,
        isRecord⟩
      rw [Std.ExtTreeMap.contains_eq_isSome_getElem?,
        Option.isSome_iff_exists] at present
      obtain ⟨record, present⟩ := present
      exact ⟨record, present, well.same record present⟩

/-- One start: a bundle survives it at every moment, and is loaded if the start
comes to its end. -/
theorem loadAllData_always (survives : Survives info values)
    (finished : ¬info.IsUnfinished) :
    wpAlways recordStorage (Survives info)
      BundleDataStorageDatabase.loadAllData
      (fun loaded _ => ∀ infos, loaded = some infos →
        ∃ record, infos[info.getBundleName]? = some record ∧
          record.lasting = info.lasting) values := by
  suffices loads : wpAlways recordStorage (Kept info values)
      BundleDataStorageDatabase.loadAllData
      (fun loaded _ => ∀ infos, loaded = some infos →
        ∃ record, infos[info.getBundleName]? = some record ∧
          record.lasting = info.lasting) values from
    wpAlways_weaken loads fun world kept => kept.toSurvives
  have kept := Kept.of_survives survives
  have reading : wpAlways recordStorage (Kept info values)
      (.perform LoadCommand.getEntries)
      (fun entries _ => ∀ all, entries = some all → HasRead all values)
      values := by
    refine wpAlways_perform LoadCommand.getEntries kept fun order => ?_
    refine ⟨kept, fun all isRead => ?_⟩
    obtain ⟨order, rfl, rfl⟩ := Option.map_eq_some_iff.mp isRead
    exact hasRead_arrange order values
  unfold BundleDataStorageDatabase.loadAllData
  refine wpAlways_seq reading fun entries world kept isRead => ?_
  cases entries with
  | none => exact ⟨kept, by simp⟩
  | some all =>
      refine wpAlways_seq (saveEntries_always survives finished
        (isRead all rfl) kept) fun infos last kept loaded => ?_
      refine ⟨kept, ?_⟩
      rintro _ ⟨⟩
      exact loaded

end Loading

end Boot

/-- Every value is that of a record under the name of its bundle. -/
def IsFiled (values : StoredValues) : Prop :=
  ∀ (key : String) value, values[key]? = some value →
    ∃ record : InnerBundleInfo, value = some record.toJson ∧
      record.getBundleName = key

/-- In a storage that holds its records under their names no bundle is mistaken
for another. -/
theorem IsFiled.survives {values : StoredValues} (filed : IsFiled values)
    {info : InnerBundleInfo}
    (stored : values[info.getBundleName]? = some (some info.toJson)) :
    Survives info values where
  stored := ⟨_, _, stored, info.persisted, recordOf_toJson info, rfl⟩
  same := by
    intro key value present place
    obtain ⟨record, rfl, rfl⟩ := filed key value present
    have named : record.getBundleName = info.getBundleName := by
      rcases place with named | named
      · exact named
      · rw [recordOf_toJson] at named
        exact Option.some.inj named
    rw [named, stored] at present
    rw [← Option.some.inj present]
    exact ⟨info.persisted, recordOf_toJson info, rfl⟩
  apart := by
    intro key value present isRecord _ _ _ _
    obtain ⟨record, rfl, rfl⟩ := filed key value present
    have named := isRecord.name
    rw [recordOf_toJson] at named
    exact Option.some.inj named
  clean := by
    intro key value present
    obtain ⟨record, rfl, -⟩ := filed key value present
    exact leavesNoError_toJson record

/-- A bundle that is installed and has a sandbox application. -/
def finishedRecord : InnerBundleInfo where
  baseApplicationInfo := { bundleName := "com.example.demo" }
  mark := { status := InstallExceptionStatus.installFinish.toInt32 }
  sandboxPersistentInfo := [{ accessTokenId := 7, appIndex := 1, userId := 100 }]

/-- A bundle whose installation had only begun. -/
def begunRecord : InnerBundleInfo where
  baseApplicationInfo := { bundleName := "com.example.next" }
  mark := { status := InstallExceptionStatus.installStart.toInt32 }

def twoRecords : StoredValues :=
  ((∅ : StoredValues).insert "com.example.demo"
    (some finishedRecord.toJson)).insert "com.example.next"
    (some begunRecord.toJson)

/-- The answers of an environment in which everything succeeds. -/
def obliging : Environment recordStorage
  | _, .getEntries => some ⟨id, fun _ => .refl _⟩
  | _, .put _ | _, .delete _ => true
  | _, .ask request => request.plainReply

theorem twoRecords_isFiled : IsFiled twoRecords := by
  intro key value present
  simp only [twoRecords, Std.ExtTreeMap.getElem?_insert] at present
  split at present
  · next same =>
      exact ⟨begunRecord, (Option.some.inj present).symm,
        Std.compare_eq_iff_eq.mp same⟩
  · split at present
    · next same =>
        exact ⟨finishedRecord, (Option.some.inj present).symm,
          Std.compare_eq_iff_eq.mp same⟩
    · simp at present

end AppExecFwk
