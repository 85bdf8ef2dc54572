import AppExecFwk.Installer.QuietCalls
import AppExecFwk.Sandbox.Applications

/-!
# Uninstalling all sandbox applications of a bundle

The sandbox applications of a bundle are found by looking for the name of the
bundle in the keys of the sandbox store, and the index is what stands after the
name and one more letter.  Whatever is cut out of a key, what is uninstalled is
an application of the bundle.  But a bundle may have the name that is the key of
an application of another one, and then there is nothing to cut out.
-/

namespace Text

/-- A text that ends one letter too early for what is cut out of it is the
pattern it contains. -/
theorem eq_of_substr_eq_none {text pattern : String}
    (found : contains text pattern = true)
    (cut : substr text (pattern.toList.length + 1) = none) : text = pattern := by
  have inside := contains_iff_occurs.mp found
  unfold substr at cut
  split at cut
  · cases cut
  · apply String.toList_inj.mp
    exact (inside.eq_of_length_le (by omega)).symm

theorem contains_append (pattern rest : String) :
    contains (pattern ++ rest) pattern = true := by
  rw [contains_iff_occurs, String.toList_append]
  exact (List.prefix_append _ _).isInfix

theorem toInt32_toString {number : Int32} (positive : 0 ≤ number.toInt) :
    toInt32 (toString number) = some number := by
  have digits : (toString number).toList =
      Nat.toDigits 10 number.toInt.toNat := by
    rw [toList_toString_int32, if_pos positive]
  have areDigits : (Nat.toDigits 10 number.toInt.toNat).all Char.isDigit = true :=
    List.all_eq_true.mpr fun letter member =>
      Nat.isDigit_of_mem_toDigits (by decide) (by decide) member
  have low := number.minValue_le_toInt
  have high := number.toInt_le
  unfold toInt32
  rw [digits]
  split
  · next rest same =>
      have minus := minus_notMem_toDigits number.toInt.toNat
      rw [same] at minus
      exact absurd List.mem_cons_self minus
  · rw [toInt32.digitsToNat, if_pos ⟨Nat.toDigits_ne_nil, areDigits⟩,
      Nat.ofDigitChars_ten_toDigits, Option.bind_some, toInt32.inRange,
      Int.toNat_of_nonneg positive, if_pos ⟨low, high⟩, Int32.ofInt_toInt]

end Text

namespace AppExecFwk

open CommandProgram

/-- What stands after the name in the key of an application is its index. -/
theorem substr_sandboxKey (bundleName : String) (appIndex : Int32) :
    Text.substr (sandboxKey bundleName appIndex) (bundleName.toList.length + 1) =
      some (toString appIndex) := by
  have letters : (sandboxKey bundleName appIndex).toList =
      (bundleName.toList ++ ['_']) ++ (toString appIndex).toList := by
    simp [sandboxKey, String.toList_append]
  have length : bundleName.toList.length + 1 =
      (bundleName.toList ++ ['_']).length := by
    simp
  unfold Text.substr
  rw [letters, length, if_pos (by simp), List.drop_left, String.ofList_toList]

/-- An application of a bundle, of the user or, if none is given, of any. -/
def InnerBundleInfo.IsTarget (info : InnerBundleInfo) (bundleName : String)
    (userId : Int32) : Prop :=
  info.getBundleName = bundleName ∧
    (userId = invalidUserId ∨ info.HasOnlyUser userId)

namespace InnerBundleInfo.IsAppRecord

variable {info : InnerBundleInfo} {key : String} {appIndex userId : Int32}

/-- An application that is meant belongs to the user, if one is given. -/
theorem isTarget_iff (app : info.IsAppRecord key appIndex userId)
    (bundleName : String) (requested : Int32) :
    info.IsTarget bundleName requested ↔
      info.getBundleName = bundleName ∧
        (userId = requested ∨ requested = invalidUserId) := by
  have own : info.HasOnlyUser requested ↔ userId = requested := by
    constructor
    · rintro ⟨user, users⟩
      apply app.hasOnlyUser.unique _ |>.symm
      rw [users]
      simp
    · rintro rfl
      exact app.hasOnlyUser
  rw [IsTarget, own, or_comm]

end InnerBundleInfo.IsAppRecord

/-- A directory that is to be removed is removed. -/
def RemovesDirectory (step : Step bundleService) : Prop :=
  match step with
  | ⟨.external (.removeBundleDataDir _ _), _, reply⟩ => reply = ErrCode.ok
  | _ => True

/-- An application for a user is there and can be uninstalled. -/
structure World.CanUninstall (world : World) (bundleName : String)
    (appIndex userId : Int32) : Prop where
  notNegative : ¬userId < defaultUserId
  known : world.dataMgr.hasUserId userId = true
  present : ∃ info,
    world.sandboxDataMgr.getSandboxAppInfo bundleName appIndex userId = .ok info
  recorded : world.sandboxDataMgr.HasIndex bundleName appIndex

/-- What uninstalling an application can come to; `before` and `after` tell
whether every directory could be removed up to then. -/
inductive UninstallEffect (bundleName : String) (appIndex userId : Int32)
    (world : World) (before : Prop) (mgr : BundleSandboxDataMgr) (after : Prop) :
    Prop where
  | nothing (cannot : ¬world.CanUninstall bundleName appIndex userId)
      (same : mgr = world.sandboxDataMgr) (met : after ↔ before)
  | uninstalled (can : world.CanUninstall bundleName appIndex userId)
      (gone : mgr = (world.sandboxDataMgr.deleteSandboxAppIndex bundleName
        appIndex).2.deleteSandboxAppInfo bundleName appIndex)
      (met : after ↔ before)
  | halfway (can : world.CanUninstall bundleName appIndex userId)
      (unrecorded : mgr = (world.sandboxDataMgr.deleteSandboxAppIndex bundleName
        appIndex).2)
      (failed : ¬after)

namespace BundleSandboxInstaller

open BundleSandboxDataMgr InnerBundleInfo

variable {world : World} {soFar : Prop} {bundleName : String}
  {appIndex userId : Int32}

theorem getInnerBundleUserInfo_of_getSandboxAppInfo {mgr : BundleSandboxDataMgr}
    {info : InnerBundleInfo}
    (found : mgr.getSandboxAppInfo bundleName appIndex userId = .ok info) :
    (info.getInnerBundleUserInfo userId).isSome = true := by
  unfold BundleSandboxDataMgr.getSandboxAppInfo at found
  grind

theorem deleteSandboxAppIndex_of_not_hasIndex {mgr : BundleSandboxDataMgr}
    (unrecorded : ¬mgr.HasIndex bundleName appIndex) :
    mgr.deleteSandboxAppIndex bundleName appIndex = (false, mgr) := by
  unfold BundleSandboxDataMgr.deleteSandboxAppIndex
  split
  · rfl
  · split
    · rfl
    · next appIndices present =>
        rw [if_neg]
        intro contained
        exact unrecorded ⟨appIndices, present,
          Std.ExtTreeSet.contains_iff_mem.mp contained⟩

theorem wpWhether_uninstallSandboxApp (bundleName : String)
    (appIndex userId : Int32) :
    wpWhether bundleService RemovesDirectory
      (uninstallSandboxApp bundleName appIndex userId)
      (fun _ after met =>
        after.dataMgr.multiUserIdsSet = world.dataMgr.multiUserIdsSet ∧
          UninstallEffect bundleName appIndex userId world soFar
            after.sandboxDataMgr met) world soFar := by
  unfold uninstallSandboxApp
  split
  case isTrue negative =>
    exact ⟨rfl, .nothing (fun can => can.notNegative negative) rfl Iff.rfl⟩
  case isFalse notNegative =>
  rw [wpWhether_bind, wpWhether_store]
  intro _
  simp only [StoreCommand.perform]
  split
  case isTrue unknown =>
    refine ⟨rfl, .nothing (fun can => ?_) rfl (and_iff_left trivial)⟩
    rw [can.known] at unknown
    cases unknown
  case isFalse known =>
  have known : world.dataMgr.hasUserId userId = true := by
    simpa using known
  rw [wpWhether_bind, wpWhether_sandbox]
  intro _
  dsimp +instances only [SandboxCommand.perform]
  split
  case h_1 result missing =>
    refine ⟨rfl, .nothing (fun can => ?_) rfl (by simp [RemovesDirectory])⟩
    obtain ⟨info, found⟩ := can.present
    rw [missing] at found
    cases found
  case h_2 info found =>
  have has := getInnerBundleUserInfo_of_getSandboxAppInfo found
  obtain ⟨named, present⟩ := getSandboxAppInfo_eq_ok found
  obtain ⟨-, deleted, -⟩ :=
    world.sandboxDataMgr.deleteSandboxAppIndex_spec appIndex named
  split
  case h_1 missing =>
    rw [missing] at has
    cases has
  case h_2 userInfo _ =>
  simp only [wpWhether_bind, wpWhether_request, wpWhether_sandbox]
  dsimp +instances only [SandboxCommand.perform]
  intro _ _
  by_cases recorded : world.sandboxDataMgr.HasIndex bundleName appIndex
  · have can : world.CanUninstall bundleName appIndex userId :=
      ⟨notNegative, known, ⟨info, found⟩, recorded⟩
    rw [deleted.mpr recorded, if_neg (by simp)]
    simp only [wpWhether_bind, wpWhether_request]
    intro reply
    by_cases removed : reply = ErrCode.ok
    · rw [if_neg (not_not.mpr removed)]
      simp only [wpWhether_bind, wpWhether_store, wpWhether_sandbox,
        SandboxCommand.perform]
      intro accepted _ other
      refine ⟨?_, .uninstalled can rfl (by simp [RemovesDirectory, removed])⟩
      exact (StoreCommand.perform_multiUserIdsSet
          (.deleteSandboxPersistentInfo _ _) _ _ (by simp) (by simp)).trans
        (StoreCommand.perform_multiUserIdsSet (.recycleUidAndGid _) accepted _
          (by simp) (by simp))
    · rw [if_pos removed]
      exact ⟨rfl, .halfway can rfl (by simp [RemovesDirectory, removed])⟩
  · rw [deleteSandboxAppIndex_of_not_hasIndex recorded]
    simp only [Bool.not_false, ↓reduceIte]
    exact ⟨rfl, .nothing (fun can => recorded can.recorded) rfl
      (by simp [RemovesDirectory])⟩

end BundleSandboxInstaller

section Applications

variable {mgr : BundleSandboxDataMgr} {info : InnerBundleInfo} {key : String}
  {bundleName : String} {appIndex userId : Int32}

/-- What is found for a user is the application of the user. -/
theorem World.CanUninstall.app {world : World}
    (can : world.CanUninstall bundleName appIndex userId)
    (apps : world.sandboxDataMgr.KeepsApps) :
    ∃ info, world.sandboxDataMgr.sandboxAppInfos[sandboxKey bundleName
        appIndex]? = some info ∧ info.getBundleName = bundleName ∧
      info.IsAppRecord (sandboxKey bundleName appIndex) appIndex userId := by
  obtain ⟨info, found⟩ := can.present
  have has :=
    BundleSandboxInstaller.getInnerBundleUserInfo_of_getSandboxAppInfo found
  obtain ⟨named, present⟩ := BundleSandboxInstaller.getSandboxAppInfo_eq_ok found
  obtain ⟨name, owner, app⟩ := apps.app present
  have same := app.userId_eq_of_isSome can.notNegative has
  subst same
  exact ⟨info, present, name, app⟩

theorem World.CanUninstall.named {world : World}
    (can : world.CanUninstall bundleName appIndex userId) : bundleName ≠ "" := by
  obtain ⟨info, found⟩ := can.present
  exact (BundleSandboxInstaller.getSandboxAppInfo_eq_ok found).1

/-- The user of an application is known and its index recorded. -/
def InnerBundleInfo.IsReady (info : InnerBundleInfo)
    (users : Std.ExtTreeSet Int32) (mgr : BundleSandboxDataMgr) (key : String) :
    Prop :=
  ∀ appIndex userId, info.IsAppRecord key appIndex userId →
    ¬userId < defaultUserId ∧ users.contains userId = true ∧
      mgr.HasIndex info.getBundleName appIndex

/-- An application that is kept and ready can be uninstalled. -/
theorem InnerBundleInfo.IsReady.canUninstall {world : World}
    (ready : info.IsReady world.dataMgr.multiUserIdsSet world.sandboxDataMgr key)
    (app : info.IsAppRecord key appIndex userId)
    (present : world.sandboxDataMgr.sandboxAppInfos[key]? = some info) :
    world.CanUninstall info.getBundleName appIndex userId := by
  obtain ⟨notNegative, known, recorded⟩ := ready _ _ app
  have positive : ¬appIndex ≤ initialAppIndex := Int32.not_le.mpr app.positive
  refine ⟨notNegative, known, ⟨info, ?_⟩, recorded⟩
  have has := app.getInnerBundleUserInfo_isSome notNegative
  rw [app.keyed] at present
  unfold BundleSandboxDataMgr.getSandboxAppInfo
  rw [if_neg app.named, if_neg positive, if_neg notNegative, present]
  simp only [has, ↓reduceIte]

end Applications

/-- How far the loop has come: `start` is the store before it, `rest` the entries
that are still to come, and `met` says whether every directory was removed.  Only
applications that are meant are gone, those that cannot be uninstalled stay, and
as long as all goes well those that are left are still to come. -/
structure Progress (bundleName : String) (userId : Int32)
    (users : Std.ExtTreeSet Int32) (start : BundleSandboxDataMgr)
    (rest : List (String × InnerBundleInfo)) (mgr : BundleSandboxDataMgr)
    (met : Prop) : Prop where
  fewer : ∀ (key : String) (info : InnerBundleInfo),
    mgr.sandboxAppInfos[key]? = some info →
      start.sandboxAppInfos[key]? = some info
  spared : ∀ (key : String) (info : InnerBundleInfo),
    start.sandboxAppInfos[key]? = some info → ¬info.IsTarget bundleName userId →
      mgr.sandboxAppInfos[key]? = some info
  otherIndices : ∀ name appIndex, name ≠ bundleName →
    (mgr.HasIndex name appIndex ↔ start.HasIndex name appIndex)
  ownIndices : ∀ appIndex, mgr.HasIndex bundleName appIndex →
    start.HasIndex bundleName appIndex
  stuck : ∀ (key : String) (info : InnerBundleInfo),
    start.sandboxAppInfos[key]? = some info → ¬info.IsReady users start key →
      mgr.sandboxAppInfos[key]? = some info
  failed : ¬met → ∃ (key : String) (info : InnerBundleInfo),
    mgr.sandboxAppInfos[key]? = some info ∧ info.IsTarget bundleName userId ∧
      ¬info.IsReady users mgr key
  working : met → ∀ (key : String) (info : InnerBundleInfo),
    mgr.sandboxAppInfos[key]? = some info → info.IsTarget bundleName userId →
      info.IsReady users start key →
        info.IsReady users mgr key ∧ (key, info) ∈ rest

namespace Progress

open BundleSandboxInstaller

variable {bundleName : String} {userId : Int32} {users : Std.ExtTreeSet Int32}
  {start mgr : BundleSandboxDataMgr} {rest : List (String × InnerBundleInfo)}
  {met : Prop}

theorem keepsApps (progress : Progress bundleName userId users start rest mgr met)
    (apps : start.KeepsApps) : mgr.KeepsApps :=
  fun key info present => apps key info (progress.fewer key info present)

theorem initial (isMet : met) (all : ∀ (key : String) (info : InnerBundleInfo),
      start.sandboxAppInfos[key]? = some info → (key, info) ∈ rest) :
    Progress bundleName userId users start rest start met where
  fewer _ _ present := present
  spared _ _ present _ := present
  otherIndices _ _ _ := Iff.rfl
  ownIndices _ recorded := recorded
  stuck _ _ present _ := present
  failed notMet := absurd isMet notMet
  working _ key info present _ ready := ⟨ready, all key info present⟩

/-- An entry has been dealt with once it is gone, or must not go. -/
theorem tail {entry : String × InnerBundleInfo}
    (progress : Progress bundleName userId users start (entry :: rest) mgr met)
    (done : met → entry.2.IsTarget bundleName userId →
      entry.2.IsReady users mgr entry.1 →
        mgr.sandboxAppInfos[entry.1]? ≠ some entry.2) :
    Progress bundleName userId users start rest mgr met where
  fewer := progress.fewer
  spared := progress.spared
  otherIndices := progress.otherIndices
  ownIndices := progress.ownIndices
  stuck := progress.stuck
  failed := progress.failed
  working isMet key info present target ready := by
    obtain ⟨still, member⟩ := progress.working isMet key info present target ready
    rcases List.mem_cons.mp member with rfl | later
    · exact absurd present (done isMet target still)
    · exact ⟨still, later⟩

/-- The index of an application is given back, and its record may go with it. -/
theorem remove {world : World} {appIndex owner : Int32} {after : Prop}
    (progress : Progress bundleName userId world.dataMgr.multiUserIdsSet start
      rest world.sandboxDataMgr met) (apps : start.KeepsApps)
    (chosen : owner = userId ∨ userId = invalidUserId)
    (can : world.CanUninstall bundleName appIndex owner)
    (indices : ∀ name other, mgr.HasIndex name other ↔
      world.sandboxDataMgr.HasIndex name other ∧
        ¬(name = bundleName ∧ other = appIndex))
    (infos : ∀ key : String, key ≠ sandboxKey bundleName appIndex →
      mgr.sandboxAppInfos[key]? = world.sandboxDataMgr.sandboxAppInfos[key]?)
    (result : mgr.sandboxAppInfos[sandboxKey bundleName appIndex]? = none ∧
        (after ↔ met) ∨
      mgr.sandboxAppInfos[sandboxKey bundleName appIndex]? =
        world.sandboxDataMgr.sandboxAppInfos[sandboxKey bundleName appIndex]? ∧
        ¬after) :
    Progress bundleName userId world.dataMgr.multiUserIdsSet start rest mgr
      after := by
  obtain ⟨record, present, name, app⟩ := can.app (progress.keepsApps apps)
  have target : record.IsTarget bundleName userId :=
    (app.isTarget_iff bundleName userId).mpr ⟨name, chosen⟩
  have ready {store : BundleSandboxDataMgr}
      (recorded : store.HasIndex bundleName appIndex) :
      record.IsReady world.dataMgr.multiUserIdsSet store
        (sandboxKey bundleName appIndex) := by
    intro other otherUser again
    obtain ⟨rfl, rfl⟩ := app.unique again
    rw [name]
    exact ⟨can.notNegative, can.known, recorded⟩
  -- A record that differs from the application is under another key.
  have apart {key : String} {info : InnerBundleInfo}
      (found : world.sandboxDataMgr.sandboxAppInfos[key]? = some info)
      (differs : (key, info) ≠ (sandboxKey bundleName appIndex, record)) :
      mgr.sandboxAppInfos[key]? = some info := by
    rw [infos, found]
    rintro rfl
    rw [present] at found
    cases found
    exact differs rfl
  have fewer {key : String} {info : InnerBundleInfo}
      (found : mgr.sandboxAppInfos[key]? = some info) :
      world.sandboxDataMgr.sandboxAppInfos[key]? = some info := by
    by_cases same : key = sandboxKey bundleName appIndex
    · subst same
      rcases result with ⟨gone, -⟩ | ⟨kept, -⟩
      · rw [gone] at found
        cases found
      · rwa [kept] at found
    · rwa [infos key same] at found
  constructor
  case fewer => exact fun key info found => progress.fewer key info (fewer found)
  case spared =>
    intro key info found noTarget
    apply apart (progress.spared key info found noTarget)
    rintro ⟨⟩
    exact noTarget target
  case otherIndices =>
    intro other index different
    rw [indices, ← progress.otherIndices other index different]
    simp [different]
  case ownIndices =>
    exact fun index recorded => progress.ownIndices index ((indices _ _).mp recorded).1
  case stuck =>
    intro key info found notReady
    apply apart (progress.stuck key info found notReady)
    rintro ⟨⟩
    exact notReady (ready (progress.ownIndices _ can.recorded))
  case failed =>
    intro notAfter
    rcases result with ⟨-, isMet⟩ | ⟨kept, -⟩
    · obtain ⟨key, info, found, isTarget, notReady⟩ :=
        progress.failed (isMet.not.mp notAfter)
      refine ⟨key, info, apart found ?_, isTarget, fun still => ?_⟩
      · rintro ⟨⟩
        exact notReady (ready can.recorded)
      · apply notReady
        intro index owner record
        obtain ⟨notNegative, known, recorded⟩ := still index owner record
        exact ⟨notNegative, known, ((indices _ _).mp recorded).1⟩
    · refine ⟨_, record, kept.trans present, target, fun still => ?_⟩
      have recorded := (still _ _ app).2.2
      rw [name, indices] at recorded
      exact recorded.2 ⟨rfl, rfl⟩
  case working =>
    intro isAfter key info found isTarget readyBefore
    rcases result with ⟨gone, isMet⟩ | ⟨-, notAfter⟩
    · obtain ⟨still, member⟩ := progress.working (isMet.mp isAfter) key info
        (fewer found) isTarget readyBefore
      refine ⟨fun index owner record => ?_, member⟩
      obtain ⟨notNegative, known, recorded⟩ := still index owner record
      refine ⟨notNegative, known, (indices _ _).mpr ⟨recorded, ?_⟩⟩
      rintro ⟨sameName, rfl⟩
      rw [record.keyed, sameName, gone] at found
      cases found
    · exact absurd isAfter notAfter

theorem uninstall {world : World} {appIndex owner : Int32} {after : Prop}
    (progress : Progress bundleName userId world.dataMgr.multiUserIdsSet start
      rest world.sandboxDataMgr met) (apps : start.KeepsApps)
    (chosen : owner = userId ∨ userId = invalidUserId)
    (effect : UninstallEffect bundleName appIndex owner world met mgr after) :
    Progress bundleName userId world.dataMgr.multiUserIdsSet start rest mgr
      after := by
  have spec (can : world.CanUninstall bundleName appIndex owner) :=
    world.sandboxDataMgr.deleteSandboxAppIndex_spec appIndex can.named
  cases effect with
  | nothing cannot same isMet =>
      rw [same, propext isMet]
      exact progress
  | uninstalled can gone isMet =>
      obtain ⟨sameInfos, -, indices⟩ := spec can
      have erased : mgr.sandboxAppInfos =
          world.sandboxDataMgr.sandboxAppInfos.erase
            (sandboxKey bundleName appIndex) := by
        rw [gone, BundleSandboxDataMgr.deleteSandboxAppInfo, if_neg can.named,
          sameInfos]
      have sameIndices : mgr.sandboxAppIndexMap =
          (world.sandboxDataMgr.deleteSandboxAppIndex bundleName
            appIndex).2.sandboxAppIndexMap := by
        rw [gone, BundleSandboxDataMgr.deleteSandboxAppInfo, if_neg can.named]
      apply progress.remove apps chosen can
      · intro name other
        rw [← indices, BundleSandboxDataMgr.HasIndex, sameIndices]
        rfl
      · intro key different
        rw [erased, Std.ExtTreeMap.getElem?_erase, if_neg]
        exact fun same => different (Std.LawfulEqCmp.eq_of_compare same).symm
      · refine .inl ⟨?_, isMet⟩
        simp [erased]
  | halfway can unrecorded failed =>
      obtain ⟨sameInfos, -, indices⟩ := spec can
      rw [← unrecorded] at sameInfos indices
      apply progress.remove apps chosen can indices
      · intro key _
        rw [sameInfos]
      · exact .inr ⟨by rw [sameInfos], failed⟩

end Progress

/-- What a call removes is an application of the bundle, or belongs to one. -/
def TouchesOnly (bundleName : String) (step : Step bundleService) : Prop :=
  match step with
  | ⟨.store (.hasUserId _), _, _⟩ | ⟨.sandbox (.getSandboxAppInfo _ _ _), _, _⟩
  | ⟨.sandbox .getSandboxAppInfoMap, _, _⟩ => True
  | ⟨.sandbox (.deleteSandboxAppIndex name _), _, _⟩
  | ⟨.sandbox (.deleteSandboxAppInfo name _), _, _⟩
  | ⟨.store (.deleteSandboxPersistentInfo name _), _, _⟩ => name = bundleName
  | ⟨.store (.recycleUidAndGid info), world, _⟩ =>
      ∃ appIndex record userInfo, world.sandboxDataMgr.sandboxAppInfos[sandboxKey
          bundleName appIndex]? = some record ∧
        info = record.addInnerBundleUserInfo userInfo
  | ⟨.external (.deleteAccessTokenId tokenId), world, _⟩ =>
      ∃ appIndex record userId, world.sandboxDataMgr.sandboxAppInfos[sandboxKey
          bundleName appIndex]? = some record ∧
        tokenId = record.getAccessTokenId userId
  | ⟨.external (.removeBundleDataDir dir _), _, _⟩ =>
      ∃ appIndex, dir = sandboxKey bundleName appIndex
  | _ => False

namespace BundleSandboxInstaller

variable {world : World} {soFar : Prop} {bundleName : String}
  {userId : Int32}

theorem touchesOnly_uninstallSandboxApp (appIndex owner : Int32)
    (before : soFar) :
    wpWhether bundleService (TouchesOnly bundleName)
      (uninstallSandboxApp bundleName appIndex owner) (fun _ _ met => met)
      world soFar := by
  unfold uninstallSandboxApp
  split
  case isTrue => exact before
  case isFalse =>
  rw [wpWhether_bind, wpWhether_store]
  intro _
  split
  case isTrue => exact ⟨before, trivial⟩
  case isFalse =>
  rw [wpWhether_bind, wpWhether_sandbox]
  intro _
  dsimp +instances only [SandboxCommand.perform]
  split
  case h_1 => exact ⟨⟨before, trivial⟩, trivial⟩
  case h_2 info found =>
  obtain ⟨named, present⟩ := getSandboxAppInfo_eq_ok found
  obtain ⟨sameInfos, -, -⟩ :=
    world.sandboxDataMgr.deleteSandboxAppIndex_spec appIndex named
  split
  case h_1 => exact ⟨⟨before, trivial⟩, trivial⟩
  case h_2 userInfo _ =>
  simp only [wpWhether_bind, wpWhether_request, wpWhether_sandbox]
  dsimp +instances only [SandboxCommand.perform]
  intro _ _
  split
  case isTrue =>
    exact ⟨⟨⟨⟨before, trivial⟩, trivial⟩, appIndex, info, owner, present, rfl⟩, rfl⟩
  case isFalse =>
  simp only [wpWhether_bind, wpWhether_request]
  intro reply
  split
  case isTrue =>
    exact ⟨⟨⟨⟨⟨before, trivial⟩, trivial⟩, appIndex, info, owner, present, rfl⟩, rfl⟩,
      appIndex, rfl⟩
  case isFalse =>
  simp only [wpWhether_bind, wpWhether_store, wpWhether_sandbox]
  intro _ _ _
  refine ⟨⟨⟨⟨⟨⟨⟨⟨before, trivial⟩, trivial⟩, appIndex, info, owner, present, rfl⟩,
    rfl⟩, appIndex, rfl⟩, appIndex, info, _, ?_, rfl⟩, rfl⟩, rfl⟩
  rw [sameInfos]
  exact present

theorem touchesOnly_uninstallAllSandboxApps :
    wpWhether bundleService (TouchesOnly bundleName)
      (uninstallAllSandboxApps bundleName userId) (fun _ _ met => met)
      world True := by
  unfold uninstallAllSandboxApps
  split
  case isTrue => trivial
  case isFalse =>
  simp only [wpWhether_bind, wpWhether_sandbox]
  intro order
  refine wpWhether_mono (@wpWhether_forM _ _ _ _ _ _ _ _ _ (fun _ _ met => met)
    ⟨trivial, trivial⟩ ?_) fun _ _ _ met => met
  intro entry _ world soFar before
  unfold uninstallUnderKey
  split
  case isFalse => exact before
  case isTrue =>
  split
  case h_1 => trivial
  case h_2 =>
  split
  case h_1 => exact before
  case h_2 =>
  split
  case h_1 => trivial
  case h_2 =>
  simp only
  split
  case isFalse => exact before
  case isTrue =>
  rw [wpWhether_bind]
  exact wpWhether_mono (touchesOnly_uninstallSandboxApp _ _ before)
    fun _ _ _ met => met

/-- One entry: an application that is meant is uninstalled, and nothing else. -/
theorem wpWhether_uninstallUnderKey {users : Std.ExtTreeSet Int32}
    {start : BundleSandboxDataMgr} {entry : String × InnerBundleInfo}
    {rest : List (String × InnerBundleInfo)} (apps : start.KeepsApps)
    (listed : start.sandboxAppInfos[entry.1]? = some entry.2)
    (sameUsers : world.dataMgr.multiUserIdsSet = users)
    (progress : Progress bundleName userId users start (entry :: rest)
      world.sandboxDataMgr soFar) :
    wpWhether bundleService RemovesDirectory
      (uninstallUnderKey bundleName userId entry)
      (fun _ after met => after.dataMgr.multiUserIdsSet = users ∧
        Progress bundleName userId users start rest after.sandboxDataMgr met)
      world soFar := by
  obtain ⟨key, info⟩ := entry
  obtain ⟨appIndex, owner, app⟩ := apps key info listed
  unfold uninstallUnderKey
  split
  case isFalse unnamed =>
    refine ⟨sameUsers, progress.tail fun _ target _ => ?_⟩
    apply absurd _ unnamed
    simp only [app.keyed, target.1, sandboxKey, String.append_assoc]
    exact Text.contains_append bundleName _
  case isTrue =>
  split
  case h_1 => trivial
  case h_2 appIndexStr cut =>
  -- The index of an application of the bundle is read as it is.
  have parsed (name : info.getBundleName = bundleName) :
      Text.toInt32 appIndexStr = some appIndex := by
    simp only [app.keyed, name, substr_sandboxKey, Option.some.injEq] at cut
    rw [← cut]
    apply Text.toInt32_toString
    exact Int.le_of_lt (Int32.lt_iff_toInt_lt.mp app.positive)
  split
  case h_1 unread =>
    refine ⟨sameUsers, progress.tail fun _ target _ => ?_⟩
    rw [parsed target.1] at unread
    cases unread
  case h_2 index read =>
  obtain ⟨user, first, same⟩ := app.begin?_eq
  simp only [first, same]
  split
  case isFalse notChosen =>
    refine ⟨sameUsers, progress.tail fun _ target _ => ?_⟩
    exact absurd ((app.isTarget_iff bundleName userId).mp target).2 notChosen
  case isTrue chosen =>
  subst sameUsers
  rw [wpWhether_bind]
  refine wpWhether_mono (wpWhether_uninstallSandboxApp bundleName index owner) ?_
  rintro _ after met ⟨sameUsers, effect⟩
  refine ⟨sameUsers, (progress.uninstall apps chosen effect).tail ?_⟩
  intro isMet target ready present
  obtain rfl : index = appIndex := by
    rw [parsed target.1] at read
    exact (Option.some.inj read).symm
  have recorded := (ready _ _ app).2.2
  rw [target.1] at recorded
  cases effect with
  | nothing cannot unchanged _ =>
      rw [unchanged] at ready present
      have can := ready.canUninstall app present
      rw [target.1] at can
      exact cannot can
  | uninstalled can gone _ =>
      obtain ⟨-, -, indices⟩ :=
        world.sandboxDataMgr.deleteSandboxAppIndex_spec index can.named
      rw [gone, BundleSandboxDataMgr.deleteSandboxAppInfo,
        if_neg can.named] at recorded
      exact ((indices _ _).mp recorded).2 ⟨rfl, rfl⟩
  | halfway _ _ failed => exact failed isMet

theorem alwaysReturns_uninstallSandboxApp (appIndex owner : Int32) :
    AlwaysReturns (uninstallSandboxApp bundleName appIndex owner) := by
  unfold uninstallSandboxApp
  split
  case isTrue => trivial
  case isFalse =>
  refine AlwaysReturns.bind (fun _ => trivial) fun _ => ?_
  split
  case isTrue => trivial
  case isFalse =>
  refine AlwaysReturns.bind (fun _ => trivial) fun _ => ?_
  split
  case h_1 => trivial
  case h_2 =>
  split
  case h_1 => trivial
  case h_2 =>
  refine AlwaysReturns.bind (fun _ => trivial) fun _ => ?_
  refine AlwaysReturns.bind (fun _ => trivial) fun _ => ?_
  split
  case isTrue => trivial
  case isFalse =>
  refine AlwaysReturns.bind (fun _ => trivial) fun _ => ?_
  split
  case isTrue => trivial
  case isFalse => exact fun _ _ _ => trivial

/-- An entry that is not under the name of the bundle raises no exception. -/
theorem alwaysReturns_uninstallUnderKey {entry : String × InnerBundleInfo}
    {appIndex owner : Int32} (app : entry.2.IsAppRecord entry.1 appIndex owner)
    (different : entry.1 ≠ bundleName) :
    AlwaysReturns (uninstallUnderKey bundleName userId entry) := by
  unfold uninstallUnderKey
  split
  case isFalse => trivial
  case isTrue found =>
  split
  case h_1 cut => exact different (Text.eq_of_substr_eq_none found cut)
  case h_2 =>
  split
  case h_1 => trivial
  case h_2 =>
  obtain ⟨user, first, same⟩ := app.begin?_eq
  simp only [first]
  split
  case isFalse => trivial
  case isTrue =>
    exact (alwaysReturns_uninstallSandboxApp _ _).bind fun _ => trivial

/-- An application under the name of the bundle raises an exception. -/
theorem uninstallUnderKey_of_eq (info : InnerBundleInfo) :
    uninstallUnderKey bundleName userId (bundleName, info) = .halt := by
  have found : Text.contains bundleName bundleName = true := by
    exact Text.contains_iff_occurs.mpr List.infix_rfl
  have cut : Text.substr bundleName (bundleName.toList.length + 1) = none := by
    rw [Text.substr, if_neg (by omega)]
  simp only [uninstallUnderKey, found, cut, ↓reduceIte]

end BundleSandboxInstaller

/-- All sandbox applications of a bundle are uninstalled for a user, or for all
users if none is given, and nothing else is. -/
structure UninstallsExactly (bundleName : String) (userId : Int32)
    (world : World) (outcome : Outcome bundleService ErrCode) : Prop where
  returns : ∃ result, outcome.value = some result
  records : ∀ (key : String) (info : InnerBundleInfo),
    outcome.world.sandboxDataMgr.sandboxAppInfos[key]? = some info ↔
      world.sandboxDataMgr.sandboxAppInfos[key]? = some info ∧
        ¬info.IsTarget bundleName userId
  indices : ∀ name appIndex, name ≠ bundleName →
    (outcome.world.sandboxDataMgr.HasIndex name appIndex ↔
      world.sandboxDataMgr.HasIndex name appIndex)
  touches : ∀ step ∈ outcome.steps, TouchesOnly bundleName step

/-- No sandbox application is kept under the name of the bundle, and those that
are meant can be uninstalled. -/
structure CanUninstallAll (bundleName : String) (userId : Int32)
    (world : World) : Prop where
  apart : world.sandboxDataMgr.sandboxAppInfos[bundleName]? = none
  ready : ∀ (key : String) (info : InnerBundleInfo),
    world.sandboxDataMgr.sandboxAppInfos[key]? = some info →
      info.IsTarget bundleName userId →
        info.IsReady world.dataMgr.multiUserIdsSet world.sandboxDataMgr key

namespace BundleSandboxInstaller

variable {world : World} {bundleName : String} {userId : Int32}
  {env : Environment bundleService}

theorem mem_arrange_iff (order : MapOrder) (mgr : BundleSandboxDataMgr)
    (key : String) (info : InnerBundleInfo) :
    (key, info) ∈ order.arrange mgr.sandboxAppInfos.toList ↔
      mgr.sandboxAppInfos[key]? = some info := by
  rw [(order.perm _).mem_iff, Std.ExtTreeMap.mem_toList_iff_getElem?_eq_some]

/-- The whole loop goes as far as it can. -/
theorem wpWhether_uninstallAllSandboxApps
    (apps : world.sandboxDataMgr.KeepsApps) :
    wpWhether bundleService RemovesDirectory
      (uninstallAllSandboxApps bundleName userId)
      (fun _ after met => Progress bundleName userId world.dataMgr.multiUserIdsSet
        world.sandboxDataMgr [] after.sandboxDataMgr met) world True := by
  unfold uninstallAllSandboxApps
  split
  case isTrue unnamed =>
    -- No application is of a bundle without a name.
    have noTarget {key : String} {info : InnerBundleInfo}
        (present : world.sandboxDataMgr.sandboxAppInfos[key]? = some info) :
        ¬info.IsTarget bundleName userId := by
      obtain ⟨appIndex, owner, app⟩ := apps key info present
      exact fun target => app.named (target.1.trans unnamed)
    constructor
    case fewer => exact fun _ _ present => present
    case spared => exact fun _ _ present _ => present
    case otherIndices => exact fun _ _ _ => Iff.rfl
    case ownIndices => exact fun _ recorded => recorded
    case stuck => exact fun _ _ present _ => present
    case failed => exact fun notMet => absurd trivial notMet
    case working =>
      exact fun _ _ _ present target => absurd target (noTarget present)
  case isFalse =>
  simp only [wpWhether_bind, wpWhether_sandbox]
  intro order
  have listed := mem_arrange_iff order world.sandboxDataMgr
  refine wpWhether_mono (@wpWhether_forM _ _ _ _ _ _ _ _ _
    (fun rest (after : World) met =>
      (∀ entry ∈ rest,
        world.sandboxDataMgr.sandboxAppInfos[entry.1]? = some entry.2) ∧
      after.dataMgr.multiUserIdsSet = world.dataMgr.multiUserIdsSet ∧
      Progress bundleName userId world.dataMgr.multiUserIdsSet
        world.sandboxDataMgr rest after.sandboxDataMgr met) ?_ ?_)
    fun _ _ _ ended => ended.2.2
  · refine ⟨fun entry => (listed entry.1 entry.2).mp, rfl, ?_⟩
    exact .initial ⟨trivial, trivial⟩ fun key info => (listed key info).mpr
  · rintro entry rest middle soFar ⟨inStart, sameUsers, progress⟩
    refine wpWhether_mono (wpWhether_uninstallUnderKey apps
      (inStart entry List.mem_cons_self) sameUsers progress) ?_
    rintro _ after met ⟨sameUsers, progress⟩
    refine ⟨fun other inRest => ?_, sameUsers, progress⟩
    exact inStart other (List.mem_cons_of_mem entry inRest)

/-- An exception is raised exactly if an application is kept under the name of
the bundle. -/
theorem returns_uninstallAllSandboxApps_iff
    (apps : world.sandboxDataMgr.KeepsApps) :
    (∃ result, (run bundleService env (uninstallAllSandboxApps bundleName userId)
        0 world).value = some result) ↔
      world.sandboxDataMgr.sandboxAppInfos[bundleName]? = none := by
  by_cases named : bundleName = ""
  · rw [uninstallAllSandboxApps, if_pos named]
    refine iff_of_true ⟨_, rfl⟩ ?_
    rw [Option.eq_none_iff_forall_ne_some]
    intro info present
    obtain ⟨appIndex, owner, app⟩ := apps _ info present
    have length := congrArg (·.toList.length) (app.keyed.symm.trans named)
    simp [sandboxKey, String.toList_append] at length
  · rw [uninstallAllSandboxApps, if_neg named]
    let order : MapOrder := env 0 (.sandbox .getSandboxAppInfoMap)
    let entries := order.arrange world.sandboxDataMgr.sandboxAppInfos.toList
    have listed := mem_arrange_iff order world.sandboxDataMgr
    change (∃ result, (run bundleService env (do
        entries.forM (uninstallUnderKey bundleName userId)
        return ErrCode.ok) 1 world).value = some result) ↔ _
    cases kept : world.sandboxDataMgr.sandboxAppInfos[bundleName]? with
    | none =>
        refine iff_of_true (AlwaysReturns.exists_value
          (.bind (.forM ?_) fun _ => trivial)) rfl
        intro entry member
        have present := (listed entry.1 entry.2).mp member
        obtain ⟨appIndex, owner, app⟩ := apps _ _ present
        apply alwaysReturns_uninstallUnderKey app
        intro same
        rw [same, kept] at present
        cases present
    | some info =>
        have member := (listed bundleName info).mpr kept
        have stopped := @value_run_forM_of_halt _ _ _ bundleService env world 1
          entries (bundleName, info) (uninstallUnderKey bundleName userId) member
          (uninstallUnderKey_of_eq info)
        refine iff_of_false ?_ (by simp)
        rintro ⟨result, returned⟩
        rw [run_bind_of_none stopped] at returned
        cases returned

theorem uninstallsExactly_iff (apps : world.sandboxDataMgr.KeepsApps)
    (env : Environment bundleService) :
    let outcome := run bundleService env
      (uninstallAllSandboxApps bundleName userId) 0 world
    UninstallsExactly bundleName userId world outcome ↔
      CanUninstallAll bundleName userId world ∧
        ∀ step ∈ outcome.steps, RemovesDirectory step := by
  have returns := @returns_uninstallAllSandboxApps_iff world bundleName userId env
    apps
  have progress {value : ErrCode} := @wpWhether_run _ _ _ _ _ _ _ _ _ env 0
    (@wpWhether_uninstallAllSandboxApps world bundleName userId apps) value
  have touches {value : ErrCode} := @wpWhether_run _ _ _ _ _ _ _ _ _ env 0
    (@touchesOnly_uninstallAllSandboxApps world bundleName userId) value
  intro outcome
  constructor
  · rintro ⟨⟨value, returned⟩, records, -, -⟩
    have ended := progress returned
    refine ⟨⟨returns.mp ⟨value, returned⟩, ?_⟩, ?_⟩
    · intro key info present target
      by_contra notReady
      have stays := ended.stuck key info present notReady
      exact ((records key info).mp stays).2 target
    · by_contra notAll
      obtain ⟨key, info, stays, target, -⟩ :=
        ended.failed fun met => notAll met.2
      exact ((records key info).mp stays).2 target
  · rintro ⟨⟨apart, ready⟩, removed⟩
    obtain ⟨value, returned⟩ := returns.mpr apart
    have ended := progress returned
    refine ⟨⟨value, returned⟩, fun key info => ⟨fun stays => ?_, ?_⟩,
      ended.otherIndices, (touches returned).2⟩
    · have present := ended.fewer key info stays
      refine ⟨present, fun target => ?_⟩
      have still := ended.working ⟨trivial, removed⟩ key info stays target
        (ready key info present target)
      exact List.not_mem_nil still.2
    · exact fun kept => ended.spared key info kept.1 kept.2

end BundleSandboxInstaller

/-- After any sequence of calls, the sandbox applications of a bundle are
uninstalled exactly if none is kept under the name of the bundle, those that are
meant have a known user and a recorded index, and their directories go. -/
theorem uninstallAllSandboxApps_exact_iff {world : World}
    (reached : SandboxRun (fun _ => True) world)
    (env : Environment bundleService) (bundleName : String) (userId : Int32) :
    let outcome := run bundleService env
      (BundleSandboxInstaller.uninstallAllSandboxApps bundleName userId) 0 world
    UninstallsExactly bundleName userId world outcome ↔
      CanUninstallAll bundleName userId world ∧
        ∀ step ∈ outcome.steps, RemovesDirectory step :=
  BundleSandboxInstaller.uninstallsExactly_iff
    (isWellKept_of_sandboxRun reached).apps env

theorem uninstallAllSandboxApps_exact_iff_oneSandboxApp :
    UninstallsExactly "com.example.demo" 100 oneSandboxApp
        (run bundleService (fun _ => Command.plainAnswer)
          (BundleSandboxInstaller.uninstallAllSandboxApps "com.example.demo" 100) 0
          oneSandboxApp) ↔
      CanUninstallAll "com.example.demo" 100 oneSandboxApp ∧
        ∀ step ∈ (run bundleService (fun _ => Command.plainAnswer)
          (BundleSandboxInstaller.uninstallAllSandboxApps "com.example.demo" 100) 0
          oneSandboxApp).steps, RemovesDirectory step := by
  have reached : SandboxRun (fun _ => True) oneSandboxApp := by
    unfold oneSandboxApp
    apply SandboxRun.call (.start oneBundle rfl)
    · exact fun _ _ => trivial
    · decide +kernel
  exact uninstallAllSandboxApps_exact_iff reached _ _ _

/-- Another bundle next to the first one, with a name that the first sandbox
application of the first bundle is kept under. -/
def twoBundles : World :=
  let record : InnerBundleInfo := {
    baseApplicationInfo := { bundleName := "com.example.demo_1" } }
  { oneBundle with
    dataMgr := { oneBundle.dataMgr with
      bundleInfos := oneBundle.dataMgr.bundleInfos.insert "com.example.demo_1"
        (record.addInnerBundleUserInfo { bundleUserInfo := { userId := 100 } }) } }

/-- The world after the first bundle has got its first sandbox application. -/
def nextToSandboxApp : World :=
  ((SandboxCall.installSandboxApp "com.example.demo" 0 100).runFrom
    (fun _ => Command.plainAnswer) twoBundles).world

/-- Uninstalling the sandbox applications of the other bundle, which has none,
throws. -/
theorem uninstallAllSandboxApps_throws :
    isValidBundleName "com.example.demo_1" = true ∧
      SandboxRun (fun _ => True) nextToSandboxApp ∧
      nextToSandboxApp.dataMgr.bundleInfos.contains "com.example.demo_1" = true ∧
      ¬UninstallsExactly "com.example.demo_1" 100 nextToSandboxApp
        (run bundleService (fun _ => Command.plainAnswer)
          (BundleSandboxInstaller.uninstallAllSandboxApps "com.example.demo_1" 100)
          0 nextToSandboxApp) := by
  refine ⟨by decide +kernel, ?_, by decide +kernel, ?_⟩
  · unfold nextToSandboxApp
    apply SandboxRun.call (.start twoBundles rfl)
    · exact fun _ _ => trivial
    · decide +kernel
  · rintro ⟨⟨result, returned⟩, -, -, -⟩
    have stopped : (run bundleService (fun _ => Command.plainAnswer)
        (BundleSandboxInstaller.uninstallAllSandboxApps "com.example.demo_1" 100)
        0 nextToSandboxApp).value = none := by
      decide +kernel
    rw [stopped] at returned
    cases returned

end AppExecFwk
