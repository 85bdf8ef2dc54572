import AppExecFwk.Permission.TokenTable
import Mathlib.Data.List.Count
import Mathlib.Data.List.Perm.Subperm

/-!
# What an update hands to a token

An update adds to what a token has what the new version brings, and takes out
what the old version had and the new one has not.  Both are done by the names of
the permissions.  A definition that the new version has changed therefore stays
as the token has it, and so does what the token has and neither version knows.
-/

namespace List

variable {α : Type*} [DecidableEq α] {held fresh dropped : List α}

/-- Adding what is not there and taking out what is dropped leaves the new list
just when what is there stands once and is dropped or in the new list. -/
theorem append_diff_perm_iff (freshOnce : fresh.Nodup)
    (droppedOnce : dropped.Nodup) (apart : ∀ value ∈ dropped, value ∉ fresh) :
    ((held ++ fresh.filter (· ∉ held)).diff dropped).Perm fresh ↔
      held.Nodup ∧ ∀ value ∈ held, value ∈ fresh ∨ value ∈ dropped := by
  have counted (value : α) :
      ((held ++ fresh.filter (· ∉ held)).diff dropped).count value =
        held.count value + (if value ∈ held then 0 else fresh.count value) -
          dropped.count value := by
    rw [count_diff, count_append]
    by_cases present : value ∈ held
    · have notAdded : value ∉ fresh.filter (· ∉ held) := by
        simp only [mem_filter, decide_not, Bool.not_eq_true', not_and]
        intro _
        simpa using present
      rw [if_pos present, count_eq_zero.mpr notAdded]
    · rw [if_neg present, count_filter (by simpa using present)]
  rw [perm_iff_count]
  constructor
  · intro same
    have total (value : α) := (counted value).symm.trans (same value)
    constructor
    · rw [nodup_iff_count_le_one]
      intro value
      have atMost := nodup_iff_count_le_one.mp freshOnce value
      have atMostDropped := nodup_iff_count_le_one.mp droppedOnce value
      have here := total value
      by_cases gone : value ∈ dropped
      · rw [count_eq_zero.mpr (apart value gone)] at here
        omega
      · rw [count_eq_zero.mpr gone] at here
        split at here
        · omega
        · next absent => rw [count_eq_zero.mpr absent]; omega
    · intro value present
      by_contra neither
      rw [not_or] at neither
      have here := total value
      rw [if_pos present, count_eq_zero.mpr neither.1,
        count_eq_zero.mpr neither.2] at here
      have some := count_pos_iff.mpr present
      omega
  · rintro ⟨heldOnce, known⟩ value
    rw [counted]
    by_cases present : value ∈ held
    · rw [if_pos present, count_eq_one_of_mem heldOnce present]
      rcases known value present with stays | gone
      · have notGone : value ∉ dropped := fun gone => apart value gone stays
        rw [count_eq_one_of_mem freshOnce stays, count_eq_zero.mpr notGone]
      · rw [count_eq_one_of_mem droppedOnce gone,
          count_eq_zero.mpr (apart value gone)]
    · rw [if_neg present, count_eq_zero.mpr present]
      by_cases new : value ∈ fresh
      · have notGone : value ∉ dropped := fun gone => apart value gone new
        rw [count_eq_zero.mpr notGone]
        omega
      · rw [count_eq_zero.mpr new]
        omega

end List

namespace AppExecFwk

open BundlePermissionMgr

section Lists

variable {α : Type} {nameOf : α → String} {names : List String}
  {entries : List α} {known defs newer : List PermissionDef} {entry : α}

/-- The names that are left are the names without those taken out. -/
theorem map_deleteNames :
    (deleteNames nameOf names entries).map nameOf =
      (entries.map nameOf).diff names := by
  induction names generalizing entries with
  | nil => rfl
  | cons name rest ih =>
      have one : (entries.eraseP (nameOf · = name)).map nameOf =
          (entries.map nameOf).erase name := by
        induction entries with
        | nil => rfl
        | cons entry entries ih =>
            by_cases named : nameOf entry = name
            · simp [named]
            · rw [List.eraseP_cons_of_neg (by simpa using named), List.map_cons,
                List.map_cons, List.erase_cons_tail (by simpa using named), ih]
      have step : deleteNames nameOf (name :: rest) entries =
          deleteNames nameOf rest (entries.eraseP (nameOf · = name)) := rfl
      rw [step, ih, one, List.diff_cons]

/-- What has none of the names stays. -/
theorem mem_deleteNames (member : entry ∈ entries)
    (stays : nameOf entry ∉ names) :
    entry ∈ deleteNames nameOf names entries := by
  induction names generalizing entries with
  | nil => exact member
  | cons name rest ih =>
      rw [List.mem_cons, not_or] at stays
      apply ih _ stays.2
      exact (List.mem_eraseP_of_neg (by simpa using stays.1)).mpr member

/-- The definitions that are added are those whose names are not there. -/
theorem addNewDefs_eq (distinct : (defs.map (·.permissionName)).Nodup) :
    addNewDefs known defs = known ++ defs.filter
      (·.permissionName ∉ known.map (·.permissionName)) := by
  induction defs generalizing known with
  | nil => simp [addNewDefs]
  | cons perm rest ih =>
      rw [List.map_cons, List.nodup_cons] at distinct
      obtain ⟨notAgain, distinct⟩ := distinct
      rw [addNewDefs, List.foldl_cons]
      by_cases there : perm.permissionName ∈ known.map (·.permissionName)
      · rw [if_pos (by simpa using there)]
        rw [List.filter_cons_of_neg (by simpa using there)]
        exact ih distinct
      · rw [if_neg (by simpa using there)]
        rw [List.filter_cons_of_pos (by simpa using there)]
        have sameRest : rest.filter (·.permissionName ∉
            (known ++ [perm]).map (·.permissionName)) =
              rest.filter (·.permissionName ∉ known.map (·.permissionName)) := by
          apply List.filter_congr
          intro other member
          have different : other.permissionName ≠ perm.permissionName := by
            intro same
            apply notAgain
            rw [← same]
            exact List.mem_map_of_mem member
          simp [different]
        have added : addNewDefs (known ++ [perm]) rest = _ := ih distinct
        rw [sameRest, List.append_assoc] at added
        exact added

end Lists

namespace InnerBundleInfo

variable (info : InnerBundleInfo)

def defineNames : List String :=
  info.getAllDefinePermissions.map (·.name)

theorem nodup_defineNames : info.defineNames.Nodup :=
  List.nodup_map_sortUnique

theorem map_getPermissionDefList :
    (getPermissionDefList info).map (·.permissionName) = info.defineNames := by
  rw [getPermissionDefList, List.map_map]
  rfl

end InnerBundleInfo

variable {Store : Type}

/-- The service, with the policies noted that it is given for tokens. -/
def AccessTokenKit.noting (kit : AccessTokenKit Store) :
    AccessTokenKit (Store × List (UInt32 × HapPolicyParams)) where
  allocHapToken hapInfo policy store :=
    let (tokenId, later) := kit.allocHapToken hapInfo policy store.1
    (tokenId, later, store.2 ++ [(tokenId, policy)])
  updateHapToken tokenId appId policy store :=
    (kit.updateHapToken tokenId appId policy store.1).map
      (·, store.2 ++ [(tokenId, policy)])
  getDefPermissions tokenId store := kit.getDefPermissions tokenId store.1
  getDefPermission name store := kit.getDefPermission name store.1
  getReqPermissions tokenId isSystemGrant store :=
    kit.getReqPermissions tokenId isSystemGrant store.1
  grantPermission tokenId name flag store :=
    (kit.grantPermission tokenId name flag store.1).map (·, store.2)

variable (kit : AccessTokenKit Store) (tokenId : UInt32)
  (own : List PermissionDef) (held : List PermissionStateFull)
  (oldInfo newInfo : InnerBundleInfo)

/-- A policy is what the new version says: its definitions, and one state for
each permission it requests, which is the state of the token or, where the token
has none, the state at the start. -/
structure HapPolicyParams.Matches (policy : HapPolicyParams) : Prop where
  definitions : policy.permList.Perm (getPermissionDefList newInfo)
  onePerRequest :
    (policy.permStateList.map (·.permissionName)).Perm newInfo.requestNames
  keptOrInitial : ∀ state ∈ policy.permStateList, state ∈ held ∨
    state.permissionName ∉ held.map (·.permissionName) ∧
      state ∈ getPermissionStateFullList newInfo

/-- What a token has fits the two versions: no name stands twice in it, each
definition of it is one of the new version or dropped with the old one, and each
permission it requests is requested by one of the two. -/
structure FitsVersions : Prop where
  definesOnce : (own.map (·.permissionName)).Nodup
  definesKnown : ∀ permDef ∈ own, permDef ∈ getPermissionDefList newInfo ∨
    permDef.permissionName ∈ oldInfo.defineNames ∧
      permDef.permissionName ∉ newInfo.defineNames
  requestsOnce : (held.map (·.permissionName)).Nodup
  requestsKnown : ∀ state ∈ held,
    state.permissionName ∈ newInfo.requestNames ∨
      state.permissionName ∈ oldInfo.requestNames

/-- An update does with a token's lists what the two versions say. -/
def HandsNewVersion (store : Store) (fresh : List String) : Prop :=
  ∃ after policy,
    updateDefineAndRequestPermissions kit.noting tokenId (store, []) oldInfo
      newInfo = some ((after, [(tokenId, policy)]), fresh) ∧
    policy.Matches held newInfo ∧
    fresh = newInfo.requestNames.filter
      (· ∉ held.map (·.permissionName))

/-- What an update hands to a token that has these lists. -/
def updatedPolicy : HapPolicyParams where
  apl := getTokenApl newInfo.getAppPrivilegeLevel
  domain := "domain"
  permList := deleteNames (·.permissionName)
    (getNeedDeleteDefinePermissionName oldInfo newInfo)
    (own ++ (getPermissionDefList newInfo).filter
      (·.permissionName ∉ own.map (·.permissionName)))
  permStateList := deleteNames (·.permissionName)
    (getNeedDeleteRequestPermissionName oldInfo newInfo)
    (held ++ (getPermissionStateFullList newInfo).filter
      (·.permissionName ∉ held.map (·.permissionName)))

section Updating

variable {kit} {tokenId} {own} {held} {oldInfo newInfo} {store after : Store}
  {fresh : List String}

variable (oldInfo newInfo) in
theorem updateDefineAndRequestPermissions_eq
    (defines : kit.getDefPermissions tokenId store = some own)
    (requests : getAllReqPermissionStateFull kit tokenId store = some held) :
    updateDefineAndRequestPermissions kit tokenId store oldInfo newInfo =
      (kit.updateHapToken tokenId newInfo.baseBundleInfo.appId
        (updatedPolicy own held oldInfo newInfo) store).map
          (·, newInfo.requestNames.filter
            (· ∉ held.map (·.permissionName))) := by
  have onceDefined :
      ((getPermissionDefList newInfo).map (·.permissionName)).Nodup := by
    rw [newInfo.map_getPermissionDefList]
    exact newInfo.nodup_defineNames
  have onceRequested :
      ((getPermissionStateFullList newInfo).map (·.permissionName)).Nodup := by
    rw [map_getPermissionStateFullList]
    exact newInfo.nodup_requestNames
  simp only [updateDefineAndRequestPermissions, handOver,
    getNewPermissionDefList, getNewPermissionStateFull, defines, requests,
    Option.bind_eq_bind, Option.bind_some, Option.pure_def,
    addNewDefs_eq onceDefined, foldl_addNewState onceRequested,
    List.nil_append, map_getPermissionStateFullList]
  rw [Option.map_eq_bind]
  rfl

theorem mem_getNeedDeleteNames {oldNames newNames : List String}
    {name : String} : name ∈ getNeedDeleteNames oldNames newNames ↔
      name ∈ oldNames ∧ name ∉ newNames := by
  simp [getNeedDeleteNames]

theorem nodup_getNeedDeleteNames {oldNames newNames : List String}
    (distinct : oldNames.Nodup) :
    (getNeedDeleteNames oldNames newNames).Nodup :=
  distinct.filter _

/-- The names that are left of a merged list are the new ones just when the list
had each of its names once, from one of the versions. -/
theorem names_perm_iff {α : Type} {nameOf : α → String}
    (present newer : List α) {oldNames newNames : List String}
    (named : newer.map nameOf = newNames) (oldOnce : oldNames.Nodup)
    (newOnce : newNames.Nodup) :
    ((deleteNames nameOf (getNeedDeleteNames oldNames newNames)
      (present ++ newer.filter (nameOf · ∉ present.map nameOf))).map
        nameOf).Perm newNames ↔
      (present.map nameOf).Nodup ∧ ∀ entry ∈ present,
        nameOf entry ∈ newNames ∨ nameOf entry ∈ oldNames := by
  have merged : (present ++ newer.filter (nameOf · ∉ present.map nameOf)).map
      nameOf = present.map nameOf ++
        newNames.filter (· ∉ present.map nameOf) := by
    rw [List.map_append, ← named, List.filter_map]
    rfl
  rw [map_deleteNames, merged, List.append_diff_perm_iff newOnce
    (nodup_getNeedDeleteNames oldOnce)
    (fun name dropped => (mem_getNeedDeleteNames.mp dropped).2)]
  simp only [List.forall_mem_map, mem_getNeedDeleteNames]
  apply and_congr_right
  intro _
  apply forall₂_congr
  intro entry _
  tauto

theorem definitions_perm_iff :
    (updatedPolicy own held oldInfo newInfo).permList.Perm
        (getPermissionDefList newInfo) ↔
      (own.map (·.permissionName)).Nodup ∧ ∀ permDef ∈ own,
        permDef ∈ getPermissionDefList newInfo ∨
          permDef.permissionName ∈ oldInfo.defineNames ∧
            permDef.permissionName ∉ newInfo.defineNames := by
  have names := names_perm_iff own _ newInfo.map_getPermissionDefList
    oldInfo.nodup_defineNames newInfo.nodup_defineNames
  constructor
  · intro same
    have sameNames := same.map (·.permissionName)
    rw [newInfo.map_getPermissionDefList] at sameNames
    refine ⟨(names.mp sameNames).1, fun permDef member => ?_⟩
    by_cases dropped : permDef.permissionName ∈
        getNeedDeleteNames oldInfo.defineNames newInfo.defineNames
    · exact .inr (mem_getNeedDeleteNames.mp dropped)
    · have stays : permDef ∈ (updatedPolicy own held oldInfo newInfo).permList :=
        mem_deleteNames (List.mem_append_left _ member) dropped
      exact .inl (same.subset stays)
  · rintro ⟨once, known⟩
    have sameNames := names.mpr ⟨once, fun permDef member => by
      rcases known permDef member with new | ⟨old, -⟩
      · rw [← newInfo.map_getPermissionDefList]
        exact .inl (List.mem_map_of_mem new)
      · exact .inr old⟩
    have subset : (updatedPolicy own held oldInfo newInfo).permList ⊆
        getPermissionDefList newInfo := by
      intro permDef member
      rcases List.mem_append.mp (deleteNames_subset member) with inOwn | added
      · rcases known permDef inOwn with new | ⟨-, gone⟩
        · exact new
        · -- What was dropped with the old version is not among what is left.
          have left := sameNames.subset (List.mem_map_of_mem member)
          exact absurd left gone
      · exact (List.mem_filter.mp added).1
    have distinct : (updatedPolicy own held oldInfo newInfo).permList.Nodup :=
      (sameNames.nodup_iff.mpr newInfo.nodup_defineNames).of_map
    apply (List.subperm_of_subset distinct subset).perm_of_length_le
    have allNames := congrArg List.length newInfo.map_getPermissionDefList
    rw [List.length_map] at allNames
    have sameLength := sameNames.length_eq
    rw [List.length_map, ← allNames] at sameLength
    exact sameLength.ge

/-- A state that is handed over is the token's, or one at the start. -/
theorem keptOrInitial_updatedPolicy {state : PermissionStateFull}
    (member : state ∈ (updatedPolicy own held oldInfo newInfo).permStateList) :
    state ∈ held ∨ state.permissionName ∉ held.map (·.permissionName) ∧
      state ∈ getPermissionStateFullList newInfo := by
  rcases List.mem_append.mp (deleteNames_subset member) with kept | added
  · exact .inl kept
  · obtain ⟨initial, absent⟩ := List.mem_filter.mp added
    exact .inr ⟨of_decide_eq_true absent, initial⟩

theorem matches_iff : (updatedPolicy own held oldInfo newInfo).Matches held
    newInfo ↔ FitsVersions own held oldInfo newInfo := by
  have requested := names_perm_iff held (getPermissionStateFullList newInfo)
    map_getPermissionStateFullList
    oldInfo.nodup_requestNames newInfo.nodup_requestNames
  constructor
  · rintro ⟨definitions, onePerRequest, -⟩
    obtain ⟨definesOnce, definesKnown⟩ := definitions_perm_iff.mp definitions
    obtain ⟨requestsOnce, requestsKnown⟩ := requested.mp onePerRequest
    exact ⟨definesOnce, definesKnown, requestsOnce, requestsKnown⟩
  · rintro ⟨definesOnce, definesKnown, requestsOnce, requestsKnown⟩
    exact ⟨definitions_perm_iff.mpr ⟨definesOnce, definesKnown⟩,
      requested.mpr ⟨requestsOnce, requestsKnown⟩,
      fun _ => keptOrInitial_updatedPolicy⟩

/-- What is noted of an update that succeeds is the one policy. -/
theorem handsNewVersion_iff_fits
    (defines : kit.getDefPermissions tokenId store = some own)
    (requests : getAllReqPermissionStateFull kit tokenId store = some held)
    (returned : updateDefineAndRequestPermissions kit tokenId store oldInfo
      newInfo = some (after, fresh)) :
    HandsNewVersion kit tokenId held oldInfo newInfo store fresh ↔
      FitsVersions own held oldInfo newInfo := by
  rw [updateDefineAndRequestPermissions_eq oldInfo newInfo defines requests,
    Option.map_eq_some_iff] at returned
  obtain ⟨later, updated, same⟩ := returned
  obtain ⟨rfl, rfl⟩ := Prod.mk.inj same
  have definesNoted : kit.noting.getDefPermissions tokenId (store, []) =
      some own := defines
  have requestsNoted : getAllReqPermissionStateFull kit.noting tokenId
      (store, []) = some held := requests
  have noted := updateDefineAndRequestPermissions_eq oldInfo newInfo
    definesNoted requestsNoted
  simp only [AccessTokenKit.noting, updated, Option.map_some,
    List.nil_append] at noted
  rw [← matches_iff]
  constructor
  · rintro ⟨_, policy, handed, said, -⟩
    have same := noted.symm.trans handed
    simp only [Option.some.injEq, Prod.mk.injEq, List.cons.injEq, true_and,
      and_true] at same
    rw [same.2]
    exact said
  · intro said
    exact ⟨later, _, noted, said, rfl⟩

/-- An update that succeeds hands the token what the new version says just when
what the token has fits the versions. -/
theorem updateDefineAndRequestPermissions_handsNewVersion_iff
    (returned : updateDefineAndRequestPermissions kit tokenId store oldInfo
      newInfo = some (after, fresh)) :
    ∃ own held, kit.getDefPermissions tokenId store = some own ∧
      getAllReqPermissionStateFull kit tokenId store = some held ∧
      (HandsNewVersion kit tokenId held oldInfo newInfo store fresh ↔
        FitsVersions own held oldInfo newInfo) := by
  obtain ⟨own, defines⟩ : ∃ own, kit.getDefPermissions tokenId store =
      some own := by
    rw [← Option.ne_none_iff_exists']
    intro unanswered
    simp [updateDefineAndRequestPermissions, handOver, getNewPermissionDefList,
      unanswered] at returned
  obtain ⟨held, requests⟩ : ∃ held, getAllReqPermissionStateFull kit tokenId
      store = some held := by
    rw [← Option.ne_none_iff_exists']
    intro unanswered
    simp [updateDefineAndRequestPermissions, handOver,
      getNewPermissionStateFull, unanswered] at returned
  exact ⟨own, held, defines, requests,
    handsNewVersion_iff_fits defines requests returned⟩

end Updating

section Examples

/-- The module of a version, which defines a permission of this level. -/
def definingModule (level : String) (requests : List String) :
    InnerModuleInfo where
  modulePackage := "entry"
  definePermissions := [{ name := "albums", availableLevel := level }]
  requestPermissions := requests.map fun name => { name := name }

def definingVersion (level : String) (requests : List String) :
    InnerBundleInfo where
  currentPackage := "entry"
  baseApplicationInfo := { bundleName := "gallery" }
  innerModuleInfos := .ofList [("entry", definingModule level requests)]

def cameraVersion : InnerBundleInfo :=
  definingVersion "normal" ["camera", "vibrate"]

def locationVersion : InnerBundleInfo :=
  definingVersion "normal" ["vibrate", "location"]

def raisedVersion : InnerBundleInfo :=
  definingVersion "system_basic" ["camera", "vibrate"]

/-- A service whose token 1 has been given what the first version says. -/
def cameraGiven : TokenTable :=
  ({} : TokenTable).give 1 (createHapPolicyParam cameraVersion)

theorem defines_cameraGiven :
    TokenTable.accessTokenKit.getDefPermissions 1 cameraGiven =
      some (getPermissionDefList cameraVersion) := by
  decide +kernel

theorem requests_cameraGiven :
    getAllReqPermissionStateFull TokenTable.accessTokenKit 1 cameraGiven =
      some (getPermissionStateFullList cameraVersion) := by
  decide +kernel

theorem updateDefineAndRequestPermissions_handsNewVersion_location :
    FitsVersions (getPermissionDefList cameraVersion)
        (getPermissionStateFullList cameraVersion) cameraVersion
        locationVersion ∧
      HandsNewVersion TokenTable.accessTokenKit 1
        (getPermissionStateFullList cameraVersion) cameraVersion
        locationVersion cameraGiven ["location"] := by
  have fits : FitsVersions (getPermissionDefList cameraVersion)
      (getPermissionStateFullList cameraVersion) cameraVersion
      locationVersion :=
    ⟨by decide +kernel, by decide +kernel, by decide +kernel,
      by decide +kernel⟩
  have names : locationVersion.requestNames.filter (· ∉
      (getPermissionStateFullList cameraVersion).map (·.permissionName)) =
        ["location"] := by
    decide +kernel
  have returned := updateDefineAndRequestPermissions_eq cameraVersion
    locationVersion defines_cameraGiven requests_cameraGiven
  rw [names] at returned
  obtain ⟨own, held, defines, requests, hands⟩ :=
    updateDefineAndRequestPermissions_handsNewVersion_iff returned
  obtain rfl := Option.some.inj (defines.symm.trans defines_cameraGiven)
  obtain rfl := Option.some.inj (requests.symm.trans requests_cameraGiven)
  exact ⟨fits, hands.mpr fits⟩

/-- A permission whose level the new version raises keeps its old level. -/
theorem updateDefineAndRequestPermissions_not_handsNewVersion :
    ¬∀ (Store : Type) (kit : AccessTokenKit Store) (tokenId : UInt32)
      (oldInfo newInfo : InnerBundleInfo) (store after : Store)
      (held : List PermissionStateFull) (fresh : List String),
      getAllReqPermissionStateFull kit tokenId store = some held →
        updateDefineAndRequestPermissions kit tokenId store oldInfo newInfo =
          some (after, fresh) →
        HandsNewVersion kit tokenId held oldInfo newInfo store fresh := by
  intro always
  have returned := updateDefineAndRequestPermissions_eq cameraVersion
    raisedVersion defines_cameraGiven requests_cameraGiven
  have handed := always _ _ _ _ _ _ _ _ _ requests_cameraGiven returned
  rw [handsNewVersion_iff_fits defines_cameraGiven requests_cameraGiven
    returned] at handed
  have known := handed.definesKnown
  revert known
  decide +kernel

end Examples

end AppExecFwk
