import Mathlib.Data.Set.Insert
import AppExecFwk.Store.RecordEffect

/-!
# Agreement of memory and storage

A bundle that no installer has marked has the same record in memory and in the
storage after any calls of any clients, as long as the storage accepts what it
must not refuse.  The switches of a bundle and its status live in memory, or in
a storage of their own, and are looked at apart.
-/

namespace AppExecFwk

open CommandProgram

namespace InnerBundleInfo

variable (info : InnerBundleInfo)

/-- The record without its status, which memory changes on its own. -/
def withoutStatus : InnerBundleInfo :=
  info.setBundleStatus .enabled

/-- The record without its switches, which have a storage of their own. -/
def withoutSwitches : InnerBundleInfo :=
  (info.resetBundleState allUserId).setBundleStatus .enabled

end InnerBundleInfo

/-- Memory and storage have the same record of a bundle, except for what
`forget` forgets. -/
def BundleDataMgr.AgreesUpTo (forget : InnerBundleInfo → InnerBundleInfo)
    (mgr : BundleDataMgr) (bundleName : String) : Prop :=
  ∃ stored : Option InnerBundleInfo,
    mgr.dataStorage[bundleName]? = stored.map InnerBundleInfo.toJson ∧
      stored.map forget = mgr.bundleInfos[bundleName]?.map forget

/-- What an observer notes about the calls: the bundles whose stored record is
the mark of an installer, and those that were switched since they were saved
last. -/
structure Ledger where
  marked : Set String := ∅
  switched : Set String := ∅

/-- A bundle that has been saved, or has left, is neither. -/
def Ledger.settle (ledger : Ledger) (bundleName : String) : Ledger where
  marked := ledger.marked \ {bundleName}
  switched := ledger.switched \ {bundleName}

/-- The switches an application and its abilities have. -/
def StoreCommand.isSwitch : StoreCommand → Bool
  | setApplicationEnabled _ _ _ _ | setAbilityEnabled _ _ _ _ _ _ => true
  | _ => false

/-- The ledger after an effect. -/
def RecordEffect.note (isSwitch : Bool) (ledger : Ledger) :
    RecordEffect → Ledger
  | nothing => ledger
  | changes bundleName _ =>
      if isSwitch then
        { ledger with switched := ledger.switched ∪ {bundleName} }
      else ledger
  | saves bundleName _ | forgets bundleName _ _ => ledger.settle bundleName
  | marks info =>
      { ledger with marked := ledger.marked ∪ {info.getBundleName} }

/-- The bundle data manager under observation. -/
def observedStore : System StoreCommand StoreCommand.Result :=
  bundleStore.monitored fun step ledger =>
    (step.cmd.effect step.world step.answer).note step.cmd.isSwitch ledger

/-- A change of the record of a bundle leaves everything but the status. -/
def BundleDataMgr.Ignores (mgr : BundleDataMgr) (bundleName : String)
    (change : InnerBundleInfo → InnerBundleInfo) : Prop :=
  ∀ info : InnerBundleInfo, mgr.bundleInfos[bundleName]? = some info →
    (change info).withoutStatus = info.withoutStatus

/-- What a call needs so that memory and storage keep agreeing.  A record is
kept under the name it carries; a change of the users or the sandboxes of a
bundle is accepted by the storage, or changes nothing that is stored; so is the
deletion of a bundle that is forgotten; and an installer leaves a mark only
while it works on a bundle, and finishes only when its mark is gone. -/
def StoreCommand.KeepsAgreement (mgr : BundleDataMgr) (ledger : Ledger)
    (accepted : Bool) : StoreCommand → Prop
  | addInnerBundleInfo bundleName info => info.getBundleName = bundleName
  | addNewModuleInfo bundleName newInfo oldInfo =>
      (BundleDataMgr.withNewModule newInfo oldInfo).getBundleName = bundleName
  | removeModuleInfo bundleName _ oldInfo => oldInfo.getBundleName = bundleName
  | updateInnerBundleInfo bundleName newInfo oldInfo =>
      (BundleDataMgr.withUpdatedModule newInfo oldInfo).getBundleName =
        bundleName
  | addInnerBundleUserInfo bundleName newUserInfo =>
      accepted = true ∨
        mgr.Ignores bundleName (·.addInnerBundleUserInfo newUserInfo)
  | removeInnerBundleUserInfo bundleName userId =>
      accepted = true ∨
        mgr.Ignores bundleName (·.removeInnerBundleUserInfo userId)
  | storeSandboxPersistentInfo bundleName info =>
      accepted = true ∨
        mgr.Ignores bundleName (·.addSandboxPersistentInfo info)
  | deleteSandboxPersistentInfo bundleName info =>
      accepted = true ∨
        mgr.Ignores bundleName (·.removeSandboxPersistentInfo info)
  | saveNewInfoToDB _ info _ => info.getDBKeyBundleName = info.getBundleName
  | saveInnerBundleInfo info => ¬mgr.IsQuiet info.getBundleName
  | updateBundleInstallState bundleName state =>
      mgr.mayEnter bundleName state = true →
        (state = .installSuccess → bundleName ∉ ledger.marked) ∧
        (state.isDeleteDataState = true →
          if mgr.bundleInfos.contains bundleName ∧ state ≠ .installFail then
            accepted = true
          else bundleName ∉ ledger.marked)
  | _ => True

namespace InnerBundleInfo

variable (info : InnerBundleInfo)

theorem withoutSwitches_of_withoutStatus {other : InnerBundleInfo}
    (same : info.withoutStatus = other.withoutStatus) :
    info.withoutSwitches = other.withoutSwitches := by
  have through (record : InnerBundleInfo) :
      record.withoutSwitches = record.withoutStatus.withoutSwitches := rfl
  rw [through info, through other, same]

/-- Replacing what one user has switched is not seen without the switches. -/
theorem withoutSwitches_insert {key : String}
    {user changed : InnerBundleUserInfo}
    (present : info.innerBundleUserInfos[key]? = some user)
    (same : { changed with bundleUserInfo := changed.bundleUserInfo.reset } =
      { user with bundleUserInfo := user.bundleUserInfo.reset }) :
    { info with
      innerBundleUserInfos :=
        info.innerBundleUserInfos.insert key changed }.withoutSwitches =
      info.withoutSwitches := by
  unfold withoutSwitches resetBundleState
  simp only [↓reduceIte]
  rw [Std.ExtTreeMap.map_insert_of_same present same]

theorem withoutSwitches_setApplicationEnabled (enabled : Bool)
    (userId : Int32) :
    (info.setApplicationEnabled enabled userId).withoutSwitches =
      info.withoutSwitches := by
  unfold setApplicationEnabled modifyUserInfo
  cases present : info.innerBundleUserInfos[nameAndUserIdToKey
      info.getBundleName userId]? with
  | none => rw [Std.ExtTreeMap.modify_of_none present]
  | some user =>
      rw [Std.ExtTreeMap.modify_eq_insert present]
      exact info.withoutSwitches_insert present rfl

theorem withoutSwitches_setAbilityEnabled {changed : InnerBundleInfo}
    {bundleName moduleName abilityName : String} {isEnabled : Bool}
    {userId : Int32}
    (switched : info.setAbilityEnabled bundleName moduleName abilityName
      isEnabled userId = some changed) :
    changed.withoutSwitches = info.withoutSwitches := by
  unfold setAbilityEnabled at switched
  simp only at switched
  split at switched
  · cases present : info.innerBundleUserInfos[nameAndUserIdToKey bundleName
        userId]? with
    | none => simp [present] at switched
    | some user =>
        simp only [present, Option.some.injEq] at switched
        subst switched
        exact info.withoutSwitches_insert present rfl
  · cases switched

end InnerBundleInfo

/-- What the effect of a call may be. -/
def RecordEffect.IsSafe (mgr : BundleDataMgr) (isSwitch : Bool) :
    RecordEffect → Prop
  | nothing => True
  | changes bundleName info =>
      ∃ old, mgr.bundleInfos[bundleName]? = some old ∧
        info.getBundleName = old.getBundleName ∧
        if isSwitch then info.withoutSwitches = old.withoutSwitches
        else info.withoutStatus = old.withoutStatus
  | saves bundleName info => info.getBundleName = bundleName
  | marks info => ¬mgr.IsQuiet info.getBundleName
  | forgets bundleName info accepted =>
      info.getBundleName = bundleName ∧ accepted = true

/-- Every record is kept under the name it carries. -/
def BundleDataMgr.IsNamed (mgr : BundleDataMgr) : Prop :=
  ∀ (bundleName : String) (info : InnerBundleInfo),
    mgr.bundleInfos[bundleName]? = some info → info.getBundleName = bundleName

namespace BundleDataMgr

variable {mgr : BundleDataMgr}

/-- A change in place that the storage accepts, or that changes nothing but the
status, is safe. -/
theorem inPlaceEffect_isSafe {bundleName : String}
    {change : InnerBundleInfo → InnerBundleInfo} {accepted : Bool}
    (named : mgr.IsNamed)
    (keepsName : ∀ info, (change info).getBundleName = info.getBundleName)
    (unharmed : accepted = true ∨
      ∀ info, mgr.bundleInfos[bundleName]? = some info →
        (change info).withoutStatus = info.withoutStatus) :
    (mgr.inPlaceEffect bundleName change accepted).IsSafe mgr false := by
  unfold inPlaceEffect
  cases present : mgr.bundleInfos[bundleName]? with
  | none => trivial
  | some info =>
      cases accepted with
      | true => exact (keepsName info).trans (named bundleName info present)
      | false =>
          rcases unharmed with impossible | unchanged
          · cases impossible
          · exact ⟨info, present, keepsName info, unchanged info present⟩

/-- A record that is not changed in place is safe under the name it carries. -/
theorem mutatorEffect_isSafe {mutator : Mutator} {accepted : Bool}
    (copies : mutator.isInPlace = false)
    (name : ∀ info, mutator.recordToSave mgr = some info →
      info.getBundleName = mutator.bundleName) :
    (mgr.mutatorEffect mutator accepted).IsSafe mgr false := by
  unfold mutatorEffect
  cases record : mutator.recordToSave mgr with
  | none => trivial
  | some info =>
      cases accepted with
      | true => exact name info record
      | false => simp [copies, RecordEffect.IsSafe]

theorem mutatorEffect_addInnerBundleUserInfo (bundleName : String)
    (newUserInfo : InnerBundleUserInfo) (accepted : Bool) :
    mgr.mutatorEffect (.addInnerBundleUserInfo bundleName newUserInfo)
      accepted =
      mgr.inPlaceEffect bundleName (fun info =>
        (info.addInnerBundleUserInfo newUserInfo).setBundleStatus .enabled)
        accepted := by
  unfold mutatorEffect inPlaceEffect
  simp only [Mutator.recordToSave, Mutator.isInPlace, Mutator.bundleName]
  cases mgr.bundleInfos[bundleName]? <;> rfl

theorem mutatorEffect_removeInnerBundleUserInfo (bundleName : String)
    (userId : Int32) (accepted : Bool) :
    mgr.mutatorEffect (.removeInnerBundleUserInfo bundleName userId) accepted =
      mgr.inPlaceEffect bundleName (fun info =>
        (info.removeInnerBundleUserInfo userId).setBundleStatus .enabled)
        accepted := by
  unfold mutatorEffect inPlaceEffect
  simp only [Mutator.recordToSave, Mutator.isInPlace, Mutator.bundleName]
  cases mgr.bundleInfos[bundleName]? <;> rfl

end BundleDataMgr

theorem isSafe_unless {mgr : BundleDataMgr} {isSwitch : Bool}
    {effect : RecordEffect} {condition : Prop} [Decidable condition]
    (safe : ¬condition → effect.IsSafe mgr isSwitch) :
    (if condition then RecordEffect.nothing else effect).IsSafe mgr
      isSwitch := by
  split
  · trivial
  · next holds => exact safe holds

/-- A call that meets its needs has a safe effect. -/
theorem StoreCommand.KeepsAgreement.effect_isSafe {mgr : BundleDataMgr}
    {ledger : Ledger} {accepted : Bool} {command : StoreCommand}
    (keeps : command.KeepsAgreement mgr ledger accepted)
    (named : mgr.IsNamed) :
    (command.effect mgr accepted).IsSafe mgr command.isSwitch := by
  cases command with
  | getInnerBundleInfo bundleName | disableBundle bundleName
  | enableBundle bundleName =>
      exact isSafe_unless fun _ => BundleDataMgr.inPlaceEffect_isSafe named
        (fun _ => rfl) (.inr fun _ _ => rfl)
  | updateBundleInstallState bundleName state =>
      simp only [effect]
      cases present : mgr.bundleInfos[bundleName]? with
      | none => trivial
      | some info =>
          simp only
          split
          · next enters =>
              simp only [Bool.and_eq_true, decide_eq_true_eq] at enters
              obtain ⟨⟨allowed, deletes⟩, failed⟩ := enters
              have inMemory : mgr.bundleInfos.contains bundleName := by
                simp [Std.ExtTreeMap.contains_eq_isSome_getElem?, present]
              have granted := (keeps allowed).2 deletes
              rw [if_pos ⟨inMemory, failed⟩] at granted
              exact ⟨named bundleName info present, granted⟩
          · trivial
  | addInnerBundleInfo bundleName info =>
      refine BundleDataMgr.mutatorEffect_isSafe rfl fun saved record => ?_
      simp only [Mutator.recordToSave] at record
      split at record
      · cases record; exact keeps
      · cases record
  | addNewModuleInfo bundleName newInfo oldInfo =>
      refine BundleDataMgr.mutatorEffect_isSafe rfl fun saved record => ?_
      simp only [Mutator.recordToSave] at record
      split at record
      · cases record; exact keeps
      · cases record
  | removeModuleInfo bundleName modulePackage oldInfo =>
      refine BundleDataMgr.mutatorEffect_isSafe rfl fun saved record => ?_
      simp only [Mutator.recordToSave] at record
      split at record
      · cases record
        exact (oldInfo.removeModuleInfo_getBundleName modulePackage).trans keeps
      · cases record
  | updateInnerBundleInfo bundleName newInfo oldInfo =>
      refine BundleDataMgr.mutatorEffect_isSafe rfl fun saved record => ?_
      simp only [Mutator.recordToSave] at record
      split at record
      · cases record; exact keeps
      · cases record
  | addInnerBundleUserInfo bundleName newUserInfo =>
      simp only [effect, BundleDataMgr.mutatorEffect_addInnerBundleUserInfo]
      exact BundleDataMgr.inPlaceEffect_isSafe named (fun _ => rfl)
        (keeps.imp_right fun ignored info present => ignored info present)
  | removeInnerBundleUserInfo bundleName userId =>
      simp only [effect, BundleDataMgr.mutatorEffect_removeInnerBundleUserInfo]
      exact BundleDataMgr.inPlaceEffect_isSafe named
        (fun info => info.removeInnerBundleUserInfo_getBundleName userId)
        (keeps.imp_right fun ignored info present => ignored info present)
  | storeSandboxPersistentInfo bundleName info =>
      exact isSafe_unless fun _ => BundleDataMgr.inPlaceEffect_isSafe named
        (fun _ => rfl) keeps
  | deleteSandboxPersistentInfo bundleName info =>
      exact isSafe_unless fun _ => BundleDataMgr.inPlaceEffect_isSafe named
        (fun _ => rfl) keeps
  | saveNewInfoToDB bundleName info time =>
      simp only [effect]
      split
      · exact keeps.symm
      · trivial
  | saveInnerBundleInfo info =>
      cases accepted with
      | true => exact keeps
      | false => trivial
  | setApplicationEnabled bundleName isEnable userId callingUserId =>
      refine isSafe_unless fun _ => ?_
      unfold BundleDataMgr.inPlaceEffect
      cases present : mgr.bundleInfos[bundleName]? with
      | none => trivial
      | some info =>
          exact ⟨info, present, rfl,
            info.withoutSwitches_setApplicationEnabled _ _⟩
  | setAbilityEnabled bundleName moduleName abilityName isEnabled userId
      callingUserId =>
      refine isSafe_unless fun _ => ?_
      split
      · trivial
      · next changed switched =>
          obtain ⟨info, present, switched⟩ := Option.bind_eq_some_iff.mp switched
          exact ⟨info, present, info.setAbilityEnabled_getBundleName switched,
            info.withoutSwitches_setAbilityEnabled switched⟩
  | removeClonedBundleInfo bundleName =>
      simp only [effect]
      cases present : mgr.bundleInfos[bundleName]? with
      | none => trivial
      | some info =>
          cases accepted with
          | true => exact ⟨named bundleName info present, rfl⟩
          | false => trivial
  | hasUserId _ | addUserId _ | removeUserId _ | generateUidAndGid _
  | recycleUidAndGid _ | getClonedBundleName _ | getAllUriPrefix _ _
  | getPreInstallBundleInfo _ | savePreInstallBundleInfo _ => trivial

namespace BundleDataMgr

variable {forget : InnerBundleInfo → InnerBundleInfo}
  {before after : BundleDataMgr} {bundleName : String}

theorem AgreesUpTo.of_same (agrees : before.AgreesUpTo forget bundleName)
    (memory : after.bundleInfos[bundleName]? = before.bundleInfos[bundleName]?)
    (storage : after.dataStorage[bundleName]? =
      before.dataStorage[bundleName]?) :
    after.AgreesUpTo forget bundleName := by
  obtain ⟨stored, inStorage, same⟩ := agrees
  exact ⟨stored, storage.trans inStorage, by rw [memory]; exact same⟩

theorem AgreesUpTo.of_changed {old info : InnerBundleInfo}
    (agrees : before.AgreesUpTo forget bundleName)
    (present : before.bundleInfos[bundleName]? = some old)
    (memory : after.bundleInfos[bundleName]? = some info)
    (storage : after.dataStorage = before.dataStorage)
    (same : forget info = forget old) :
    after.AgreesUpTo forget bundleName := by
  obtain ⟨stored, inStorage, equal⟩ := agrees
  refine ⟨stored, by rw [storage]; exact inStorage, ?_⟩
  rw [equal, memory, present, Option.map_some, Option.map_some, same]

theorem agreesUpTo_of_saved {info : InnerBundleInfo}
    (memory : after.bundleInfos[bundleName]? = some info)
    (storage : after.dataStorage[bundleName]? = some info.toJson) :
    after.AgreesUpTo forget bundleName :=
  ⟨some info, storage, by rw [memory]⟩

theorem agreesUpTo_of_forgotten
    (memory : after.bundleInfos[bundleName]? = none)
    (storage : after.dataStorage[bundleName]? = none) :
    after.AgreesUpTo forget bundleName :=
  ⟨none, storage, by rw [memory]⟩

end BundleDataMgr

/-- The bundles that are not marked agree up to their switches, and those that
were not switched either agree up to their status. -/
structure Agreeing (world : BundleDataMgr × Ledger) : Prop where
  named : world.1.IsNamed
  quiet : ∀ bundleName, world.1.IsQuiet bundleName →
    bundleName ∉ world.2.marked
  agrees : ∀ bundleName, bundleName ∉ world.2.marked →
    world.1.AgreesUpTo InnerBundleInfo.withoutSwitches bundleName
  exact : ∀ bundleName, bundleName ∉ world.2.marked →
    bundleName ∉ world.2.switched →
    world.1.AgreesUpTo InnerBundleInfo.withoutStatus bundleName

namespace RecordEffect

variable {effect : RecordEffect} {before after : BundleDataMgr}
  {isSwitch : Bool} {ledger : Ledger}

theorem Leads.isNamed (leads : effect.Leads before after)
    (safe : effect.IsSafe before isSwitch) (named : before.IsNamed) :
    after.IsNamed := by
  intro bundleName info present
  rw [leads.1] at present
  cases effect with
  | nothing | marks _ => exact named bundleName info present
  | changes changed new =>
      obtain ⟨old, inMemory, keepsName, -⟩ := safe
      simp only [infos, Std.ExtTreeMap.getElem?_insert] at present
      split at present
      · next equal =>
          cases present
          rw [keepsName, named changed old inMemory]
          exact Std.LawfulEqCmp.eq_of_compare equal
      · exact named bundleName info present
  | saves saved new =>
      simp only [infos, Std.ExtTreeMap.getElem?_insert] at present
      split at present
      · next equal =>
          cases present
          exact safe.trans (Std.LawfulEqCmp.eq_of_compare equal)
      · exact named bundleName info present
  | forgets forgotten old accepted =>
      simp only [infos, Std.ExtTreeMap.getElem?_erase] at present
      split at present
      · cases present
      · exact named bundleName info present

/-- The effects that put the same into both places. -/
def Settles (bundleName : String) : RecordEffect → Prop
  | saves settled _ | forgets settled _ _ => bundleName = settled
  | _ => False

/-- Nothing is crossed out in the ledger unless it is settled. -/
theorem note_of_not_settles {bundleName : String}
    (unsettled : ¬effect.Settles bundleName) :
    (bundleName ∈ ledger.marked →
      bundleName ∈ (effect.note isSwitch ledger).marked) ∧
    (bundleName ∈ ledger.switched →
      bundleName ∈ (effect.note isSwitch ledger).switched) := by
  cases effect with
  | nothing => exact ⟨id, id⟩
  | changes changed info => cases isSwitch <;> exact ⟨id, fun member => by simp_all [note]⟩
  | saves saved info =>
      exact ⟨fun member => ⟨member, unsettled⟩,
        fun member => ⟨member, unsettled⟩⟩
  | marks info => exact ⟨.inl, id⟩
  | forgets forgotten info accepted =>
      exact ⟨fun member => ⟨member, unsettled⟩,
        fun member => ⟨member, unsettled⟩⟩

/-- An effect keeps the agreement about every bundle it does not mark, unless
it changes what the agreement looks at. -/
theorem Leads.agreesUpTo {forget : InnerBundleInfo → InnerBundleInfo}
    {bundleName : String} (leads : effect.Leads before after)
    (safe : effect.IsSafe before isSwitch)
    (unmarked : bundleName ∉ (effect.note isSwitch ledger).marked)
    (agrees : ¬effect.Settles bundleName →
      before.AgreesUpTo forget bundleName)
    (blind : ∀ info old, effect = .changes bundleName info →
      before.bundleInfos[bundleName]? = some old → forget info = forget old) :
    after.AgreesUpTo forget bundleName := by
  obtain ⟨memory, storage⟩ := leads
  cases effect with
  | nothing =>
      exact (agrees id).of_same (by rw [memory]; rfl) (by rw [storage]; rfl)
  | changes changed new =>
      obtain ⟨old, inMemory, -, -⟩ := safe
      by_cases same : bundleName = changed
      · subst same
        exact (agrees id).of_changed inMemory (by rw [memory]; simp [infos])
          storage (blind new old rfl inMemory)
      · refine (agrees id).of_same ?_ (by rw [storage]; rfl)
        rw [memory]
        simp [infos, Std.ExtTreeMap.getElem?_insert, Ne.symm same]
  | saves saved new =>
      by_cases same : bundleName = saved
      · subst same
        have inMemory : after.bundleInfos[bundleName]? = some new := by
          rw [memory]; simp [infos]
        have inStorage : after.dataStorage[bundleName]? = some new.toJson := by
          rw [storage, ← safe]; simp [stored]
        exact BundleDataMgr.agreesUpTo_of_saved inMemory inStorage
      · have other : new.getBundleName ≠ bundleName := by
          rw [safe]; exact Ne.symm same
        refine (agrees same).of_same ?_ ?_
        · rw [memory]
          simp [infos, Std.ExtTreeMap.getElem?_insert, Ne.symm same]
        · rw [storage]
          simp [stored, Std.ExtTreeMap.getElem?_insert, other]
  | marks marked =>
      simp only [note, Set.mem_union, Set.mem_singleton_iff, not_or] at unmarked
      refine (agrees id).of_same (by rw [memory]; rfl) ?_
      rw [storage]
      simp [stored, Std.ExtTreeMap.getElem?_insert, Ne.symm unmarked.2]
  | forgets forgotten old accepted =>
      obtain ⟨carries, rfl⟩ := safe
      by_cases same : bundleName = forgotten
      · subst same
        refine BundleDataMgr.agreesUpTo_of_forgotten ?_ ?_
        · rw [memory]; simp [infos]
        · rw [storage]; simp [stored, carries]
      · refine (agrees same).of_same ?_ ?_
        · rw [memory]
          simp [infos, Std.ExtTreeMap.getElem?_erase, Ne.symm same]
        · rw [storage]
          simp [stored, carries, Std.ExtTreeMap.getElem?_erase, Ne.symm same]

end RecordEffect

namespace Ledger

/-- A mark appears only where an effect leaves one. -/
theorem note_marked_subset (isSwitch : Bool) (ledger : Ledger)
    (effect : RecordEffect) (bundleName : String)
    (marked : bundleName ∈ (effect.note isSwitch ledger).marked) :
    bundleName ∈ ledger.marked ∨
      ∃ info, effect = .marks info ∧ info.getBundleName = bundleName := by
  cases effect with
  | nothing => exact .inl marked
  | changes changed info => cases isSwitch <;> exact .inl marked
  | saves saved info => exact .inl marked.1
  | marks info =>
      rcases marked with before | new
      · exact .inl before
      · exact .inr ⟨info, rfl, (Set.mem_singleton_iff.mp new).symm⟩
  | forgets forgotten info accepted => exact .inl marked.1

end Ledger

namespace BundleDataMgr

variable (mgr : BundleDataMgr) {bundleName moved : String}
  {state : InstallState} {accepted : Bool}

theorem updateBundleInstallState_not_marks (moved : String)
    (state : InstallState) (accepted : Bool) (info : InnerBundleInfo) :
    (StoreCommand.updateBundleInstallState moved state).effect mgr accepted ≠
      .marks info := by
  simp only [StoreCommand.effect]
  cases mgr.bundleInfos[moved]? with
  | none => simp
  | some record =>
      dsimp only
      split <;> simp

/-- A bundle becomes quiet only by a transition of its own, to the end of an
installation or out of the store. -/
theorem enters_of_becomes_quiet (busy : ¬mgr.IsQuiet bundleName)
    (quiet : (mgr.updateBundleInstallState moved state accepted).2.IsQuiet
      bundleName) :
    bundleName = moved ∧ mgr.mayEnter bundleName state = true ∧
      (state = .installSuccess ∨ state.isDeleteDataState = true) := by
  unfold IsQuiet at quiet busy
  rw [updateBundleInstallState_installStates] at quiet
  by_cases same : bundleName = moved
  · subst same
    refine ⟨rfl, ?_⟩
    split at quiet
    · next enters =>
        refine ⟨enters, ?_⟩
        split at quiet
        · next deletes => exact .inr deletes
        · exact .inl (by simpa using quiet)
    · split at quiet
      · next starts => simp [starts.2.2] at quiet
      · exact absurd quiet busy
  · have untouched : (if mgr.mayEnter moved state then
          if state.isDeleteDataState then mgr.installStates.erase moved
          else mgr.installStates.insert moved state
        else if moved ≠ "" ∧ mgr.installStates[moved]? = none ∧
            state = .installStart then
          mgr.installStates.insert moved state
        else mgr.installStates)[bundleName]? =
          mgr.installStates[bundleName]? := by
      repeat' split
      all_goals simp [Std.ExtTreeMap.getElem?_insert,
        Std.ExtTreeMap.getElem?_erase, Ne.symm same]
    rw [untouched] at quiet
    exact absurd quiet busy

end BundleDataMgr

/-- A bundle on which an installer stops working is not marked. -/
theorem StoreCommand.KeepsAgreement.quiet {mgr : BundleDataMgr}
    {ledger : Ledger} {accepted : Bool} {command : StoreCommand}
    (keeps : command.KeepsAgreement mgr ledger accepted)
    (agreeing : Agreeing (mgr, ledger)) (bundleName : String)
    (quiet : (command.perform accepted mgr).2.IsQuiet bundleName) :
    bundleName ∉
      ((command.effect mgr accepted).note command.isSwitch ledger).marked := by
  intro marked
  have safe := keeps.effect_isSafe agreeing.named
  have origin := Ledger.note_marked_subset _ _ _ _ marked
  by_cases moves : ∃ moved state,
      command = .updateBundleInstallState moved state
  · obtain ⟨moved, state, rfl⟩ := moves
    have before : bundleName ∈ ledger.marked := by
      rcases origin with before | ⟨info, marks, -⟩
      · exact before
      · exact absurd marks (mgr.updateBundleInstallState_not_marks _ _ _ info)
    have busy : ¬mgr.IsQuiet bundleName := fun quietBefore =>
      agreeing.quiet bundleName quietBefore before
    obtain ⟨rfl, enters, finishes⟩ := mgr.enters_of_becomes_quiet busy quiet
    rcases finishes with success | deletes
    · exact (keeps enters).1 success before
    · have needs := (keeps enters).2 deletes
      split at needs
      · next present =>
          obtain ⟨info, inMemory⟩ :=
            Std.ExtTreeMap.exists_of_contains present.1
          have forgets : (updateBundleInstallState bundleName state).effect mgr
              accepted = .forgets bundleName info accepted := by
            simp [effect, inMemory, enters, deletes, present.2]
          rw [forgets] at marked
          exact marked.2 rfl
      · exact needs before
  · push Not at moves
    have states := command.perform_installStates accepted mgr moves
    have quietBefore : mgr.IsQuiet bundleName := by
      simpa [BundleDataMgr.IsQuiet, states] using quiet
    rcases origin with before | ⟨info, marks, rfl⟩
    · exact agreeing.quiet bundleName quietBefore before
    · rw [marks] at safe
      exact safe quietBefore

/-- One call keeps the agreement. -/
theorem Agreeing.step {mgr : BundleDataMgr} {ledger : Ledger}
    {accepted : Bool} {command : StoreCommand}
    (agreeing : Agreeing (mgr, ledger))
    (keeps : command.KeepsAgreement mgr ledger accepted) :
    Agreeing ((command.perform accepted mgr).2,
      (command.effect mgr accepted).note command.isSwitch ledger) where
  named := (command.perform_leads accepted mgr).isNamed
    (keeps.effect_isSafe agreeing.named) agreeing.named
  quiet := keeps.quiet agreeing
  agrees bundleName unmarked := by
    have safe := keeps.effect_isSafe agreeing.named
    refine (command.perform_leads accepted mgr).agreesUpTo safe unmarked
      (fun unsettled => agreeing.agrees bundleName fun marked =>
        unmarked ((RecordEffect.note_of_not_settles unsettled).1 marked))
      fun info old changes present => ?_
    rw [changes] at safe
    obtain ⟨record, inMemory, -, same⟩ := safe
    obtain rfl : record = old := Option.some.inj (inMemory.symm.trans present)
    split at same
    · exact same
    · exact info.withoutSwitches_of_withoutStatus same
  exact bundleName unmarked unswitched := by
    have safe := keeps.effect_isSafe agreeing.named
    refine (command.perform_leads accepted mgr).agreesUpTo safe unmarked
      (fun unsettled =>
        have kept := RecordEffect.note_of_not_settles unsettled
        agreeing.exact bundleName (fun marked => unmarked (kept.1 marked))
          fun switched => unswitched (kept.2 switched))
      fun info old changes present => ?_
    rw [changes] at safe unswitched
    obtain ⟨record, inMemory, -, same⟩ := safe
    obtain rfl : record = old := Option.some.inj (inMemory.symm.trans present)
    split at same
    · next isSwitch =>
        exact absurd (by simp [RecordEffect.note, isSwitch]) unswitched
    · exact same

/-- Memory and storage agree after any calls that meet their needs. -/
theorem agreeing_of_reachable {world : BundleDataMgr × Ledger}
    (reached : Reachable observedStore
      (fun step => step.cmd.KeepsAgreement step.world.1 step.world.2
        step.answer) ({}, {}) world) :
    Agreeing world := by
  refine reached.invariant ?_ fun step keeps agreeing => agreeing.step keeps
  constructor
  case named => intro bundleName info present; simp at present
  case quiet => intro bundleName quiet marked; exact marked
  case agrees =>
    intro bundleName unmarked
    exact BundleDataMgr.agreesUpTo_of_forgotten (by simp) (by simp)
  case exact =>
    intro bundleName unmarked unswitched
    exact BundleDataMgr.agreesUpTo_of_forgotten (by simp) (by simp)

/-- A record of a bundle that is being installed. -/
def plainRecord : InnerBundleInfo where
  baseApplicationInfo := { bundleName := "com.example.demo" }

/-- The calls of an installation, all of them accepted by the storage. -/
def plainInstallation : List ((_ : StoreCommand) × Bool) := [
  ⟨.updateBundleInstallState "com.example.demo" .installStart, true⟩,
  ⟨.addInnerBundleInfo "com.example.demo" plainRecord, true⟩,
  ⟨.updateBundleInstallState "com.example.demo" .installSuccess, true⟩]

/-- A call of one of the six mutators is atomic exactly in the cases named, and
after any calls that meet their needs memory and storage agree about every
bundle no installer is working on. -/
theorem mutators_atomic_and_stores_agree (mutator : Mutator)
    (mgr : BundleDataMgr) (accepted : Bool) :
    (mutator.IsAtomic mgr accepted ↔ mutator.AtomicWhen mgr accepted) ∧
    (∀ world : BundleDataMgr × Ledger,
      Reachable observedStore
        (fun step => step.cmd.KeepsAgreement step.world.1 step.world.2
          step.answer) ({}, {}) world →
      ∀ bundleName, world.1.IsQuiet bundleName →
        world.1.AgreesUpTo InnerBundleInfo.withoutSwitches bundleName ∧
        (bundleName ∉ world.2.switched →
          world.1.AgreesUpTo InnerBundleInfo.withoutStatus bundleName)) := by
  refine ⟨mutator.isAtomic_iff_atomicWhen mgr accepted, ?_⟩
  intro world reached bundleName quiet
  have agreeing := agreeing_of_reachable reached
  have unmarked := agreeing.quiet bundleName quiet
  exact ⟨agreeing.agrees bundleName unmarked,
    agreeing.exact bundleName unmarked⟩

theorem mutators_atomic_and_stores_agree_installed :
    (observedStore.performAll ({}, {}) plainInstallation).1.AgreesUpTo
        InnerBundleInfo.withoutSwitches "com.example.demo" ∧
      ("com.example.demo" ∉
          (observedStore.performAll ({}, {}) plainInstallation).2.switched →
        (observedStore.performAll ({}, {}) plainInstallation).1.AgreesUpTo
          InnerBundleInfo.withoutStatus "com.example.demo") := by
  refine (mutators_atomic_and_stores_agree
    (.addInnerBundleUserInfo "com.example.demo" {}) {} true).2
    (observedStore.performAll ({}, {}) plainInstallation)
    (Reachable.start.performAll ?_) _ (.inr (by decide +kernel))
  refine And.intro ?_ (And.intro rfl (And.intro ?_ trivial))
  · exact fun enters => absurd enters (by decide +kernel)
  · refine fun _ => ⟨fun _ marked => marked.2 rfl, fun deletes => ?_⟩
    exact absurd deletes (by decide)

/-- A user that the storage refuses is in memory all the same. -/
theorem addInnerBundleUserInfo_refused_not_atomic :
    Reachable bundleStore (fun _ => True) {}
        (bundleStore.performAll {} plainInstallation) ∧
      ¬(Mutator.addInnerBundleUserInfo "com.example.demo"
        { bundleUserInfo := { userId := 100 } }).IsAtomic
        (bundleStore.performAll {} plainInstallation) false := by
  refine ⟨Reachable.start.performAll (And.intro trivial (And.intro trivial
    (And.intro trivial trivial))), fun atomic => ?_⟩
  have unchanged := (atomic.1 (by decide +kernel) rfl).2
  have absent := congrArg
    (fun infos => infos["com.example.demo"]?.map
      (·.innerBundleUserInfos.isEmpty)) unchanged
  revert absent
  decide +kernel

end AppExecFwk
