import AppExecFwk.Query.Visibility

/-!
# Bundles that nobody answers for

Two stores that differ in a bundle nobody answers for give the same answers to
every query that asks whether a bundle, or an ability, is enabled.  Each query
collects what the bundles contribute, and such a bundle contributes nothing.
-/

namespace AppExecFwk

namespace BundleDataMgr

variable {isAsked : Bool} {userId : Int32} {first second : BundleDataMgr}
  {bundleName : String} {flags : Int32}

section Users

variable {mgr : BundleDataMgr} {callingUserId : Int32}

/-- A user with an id of its own is looked for as it is. -/
theorem getUserId_of_real (notNegative : 0 ≤ userId) :
    mgr.getUserId userId callingUserId =
      if mgr.hasUserId userId then userId else invalidUserId := by
  have real {special : Int32} (negative : ¬0 ≤ special) : userId ≠ special := by
    rintro rfl
    exact negative notNegative
  unfold getUserId
  simp only [real (show ¬0 ≤ anyUserId by decide),
    real (show ¬0 ≤ allUserId by decide),
    real (show ¬0 ≤ unspecifiedUserId by decide), decide_false, Bool.or_false,
    Bool.false_eq_true, ↓reduceIte]

/-- A registered user is found, whoever asks. -/
theorem getUserId_of_hasUserId (registered : mgr.hasUserId userId = true)
    (notNegative : 0 ≤ userId) :
    mgr.getUserId userId callingUserId = userId := by
  rw [getUserId_of_real notNegative, if_pos registered]

/-- Nobody is not found. -/
theorem getUserId_invalid :
    mgr.getUserId invalidUserId callingUserId = invalidUserId := by
  unfold getUserId
  simp [show invalidUserId ≠ anyUserId by decide,
    show invalidUserId ≠ allUserId by decide,
    show invalidUserId ≠ unspecifiedUserId by decide]

end Users

namespace DifferUnseen

/-- The difference does not matter which way round. -/
theorem symm (differ : first.DifferUnseen isAsked userId second bundleName) :
    second.DifferUnseen isAsked userId first bundleName where
  users := differ.users.symm
  others other apart := (differ.others other apart).symm
  unseenInFirst := differ.unseenInSecond
  unseenInSecond := differ.unseenInFirst

theorem getUserId (differ : first.DifferUnseen isAsked userId second bundleName)
    (other callingUserId : Int32) :
    first.getUserId other callingUserId =
      second.getUserId other callingUserId := by
  unfold BundleDataMgr.getUserId BundleDataMgr.hasUserId
  rw [differ.users]

theorem answeringUser
    (differ : first.DifferUnseen isAsked userId second bundleName)
    (other callingUserId : Int32) (info : InnerBundleInfo) :
    first.answeringUser other callingUserId info =
      second.answeringUser other callingUserId info := by
  unfold BundleDataMgr.answeringUser
  rw [differ.getUserId]

theorem handOut (differ : first.DifferUnseen isAsked userId second bundleName)
    (other callingUserId : Int32) :
    first.handOut flags other callingUserId =
      second.handOut flags other callingUserId := by
  funext place
  unfold BundleDataMgr.handOut
  rw [differ.answeringUser]

/-- Another bundle may be seen in one store if it may be in the other. -/
theorem getInnerBundleInfoWithFlags_other
    (differ : first.DifferUnseen isAsked userId second bundleName)
    {name : String} (apart : name ≠ bundleName) (callingUserId : Int32) :
    first.getInnerBundleInfoWithFlags name flags userId callingUserId =
      second.getInnerBundleInfoWithFlags name flags userId callingUserId := by
  unfold BundleDataMgr.getInnerBundleInfoWithFlags
  rw [differ.getUserId, differ.others name apart]

end DifferUnseen

/-- A record that nobody answers for is admitted only if the flags ask for
disabled applications. -/
theorem not_admitted_of_isUnanswered {mgr : BundleDataMgr} {info : InnerBundleInfo}
    {callingUserId : Int32} (found : mgr.getUserId userId callingUserId = userId)
    (stored : mgr.bundleInfos[bundleName]? = some info)
    (unanswered : info.IsUnanswered userId)
    (unasked : anyFlag flags ApplicationFlag.getApplicationInfoWithDisable =
      false) :
    mgr.getInnerBundleInfoWithFlags bundleName flags userId callingUserId =
      none := by
  rw [Option.eq_none_iff_forall_ne_some]
  intro admitted isAdmitted
  obtain ⟨_, isStored, _, enabled⟩ :=
    mgr.getInnerBundleInfoWithFlags_eq_some.mp isAdmitted
  rw [stored] at isStored
  cases isStored
  rw [found, unanswered.nobody, unanswered.getApplicationEnabled, unasked]
    at enabled
  simp at enabled

namespace DifferUnseen

variable {callingUserId : Int32}

section Admission

variable
  (differ : first.DifferUnseen
    (anyFlag flags ApplicationFlag.getApplicationInfoWithDisable) userId second
    bundleName)
  (found : first.getUserId userId callingUserId = userId)

include differ found

/-- The bundle in which the stores differ may not be seen. -/
theorem not_admitted :
    first.getInnerBundleInfoWithFlags bundleName flags userId callingUserId =
      none := by
  cases stored : first.bundleInfos[bundleName]? with
  | none =>
      rw [Option.eq_none_iff_forall_ne_some]
      intro info admitted
      rw [stored_of_admitted admitted] at stored
      cases stored
  | some info =>
      obtain ⟨unasked, unanswered⟩ := differ.unseenInFirst info stored
      exact not_admitted_of_isUnanswered found stored unanswered unasked

/-- Whether a bundle may be seen is the same in both stores. -/
theorem getInnerBundleInfoWithFlags (name : String) :
    first.getInnerBundleInfoWithFlags name flags userId callingUserId =
      second.getInnerBundleInfoWithFlags name flags userId callingUserId := by
  by_cases same : name = bundleName
  · subst same
    rw [differ.not_admitted found,
      differ.symm.not_admitted (by rw [← differ.getUserId, found])]
  · exact differ.getInnerBundleInfoWithFlags_other same callingUserId

theorem getApplicationInfo (appName : String) :
    first.getApplicationInfo appName flags userId callingUserId =
      second.getApplicationInfo appName flags userId callingUserId := by
  unfold BundleDataMgr.getApplicationInfo
  simp only [getInnerBundleInfoWithFlags_getUserId]
  rw [differ.getUserId, differ.getInnerBundleInfoWithFlags found]

theorem getBundleInfo (notNegative : 0 ≤ userId)
    (getAllReqPermissionStateFull : UInt32 → Option (List PermissionStateFull))
    (name : String) :
    first.getBundleInfo getAllReqPermissionStateFull name flags userId
        callingUserId =
      second.getBundleInfo getAllReqPermissionStateFull name flags userId
        callingUserId := by
  have specific : userId ≠ anyUserId := by
    rintro rfl
    exact absurd notNegative (by decide)
  unfold BundleDataMgr.getBundleInfo
  simp only [specific, ↓reduceIte, getInnerBundleInfoWithFlags_getUserId,
    Option.bind_eq_bind, Option.bind_some]
  rw [differ.getUserId, differ.getInnerBundleInfoWithFlags found]

end Admission

end DifferUnseen

section Lists

variable {mgr : BundleDataMgr} {callingUserId : Int32}

/-- A loop that adds what each item contributes collects the contributions. -/
theorem foldl_eq_flatMap {α β : Type} {add : List β → α → List β}
    (adds : ∀ collected item, add collected item = collected ++ add [] item)
    (items : List α) (collected : List β) :
    items.foldl add collected = collected ++ items.flatMap (add []) := by
  induction items generalizing collected with
  | nil => simp
  | cons item rest ih =>
      rw [List.foldl_cons, ih, adds, List.flatMap_cons, List.append_assoc]

/-- A list query answers an empty store as it answers any other. -/
theorem answer_of_contributions (mgr : BundleDataMgr) {γ : Type}
    (items : String × InnerBundleInfo → List γ) :
    (if mgr.bundleInfos.isEmpty = true then (false, [])
      else (!(mgr.bundleInfos.toList.flatMap items).isEmpty,
        mgr.bundleInfos.toList.flatMap items)) =
      (!(mgr.bundleInfos.toList.flatMap items).isEmpty,
        mgr.bundleInfos.toList.flatMap items) := by
  split
  · next empty =>
      have noEntries : mgr.bundleInfos.toList = [] :=
        List.isEmpty_iff.mp (by
          rw [Std.ExtTreeMap.isEmpty_toList]
          exact empty)
      simp [noEntries]
  · rfl

theorem addApplicationInfo_eq (requestUserId : Int32)
    (appInfos : List ApplicationInfo) (info : InnerBundleInfo) :
    addApplicationInfo flags requestUserId appInfos info =
      appInfos ++ addApplicationInfo flags requestUserId [] info := by
  unfold addApplicationInfo
  split
  · simp
  · dsimp only
    split <;> simp

/-- The list of all applications is made of what the bundles contribute. -/
theorem getApplicationInfos_eq
    (valid : mgr.getUserId userId callingUserId ≠ invalidUserId) :
    mgr.getApplicationInfos flags userId callingUserId =
      (!(mgr.bundleInfos.toList.flatMap fun entry =>
          addApplicationInfo flags (mgr.getUserId userId callingUserId) []
            entry.2).isEmpty,
        mgr.bundleInfos.toList.flatMap fun entry =>
          addApplicationInfo flags (mgr.getUserId userId callingUserId) []
            entry.2) := by
  have collected : mgr.bundleInfos.values.foldl
      (addApplicationInfo flags (mgr.getUserId userId callingUserId)) [] =
      mgr.bundleInfos.toList.flatMap fun entry =>
        addApplicationInfo flags (mgr.getUserId userId callingUserId) []
          entry.2 := by
    rw [foldl_eq_flatMap (addApplicationInfo_eq _),
      Std.ExtTreeMap.values_eq_map_toList, List.flatMap_map, List.nil_append]
  unfold getApplicationInfos
  simp only [valid, ↓reduceIte, collected]
  exact mgr.answer_of_contributions _

/-- The list of the bundles of a user is made of what the bundles
contribute. -/
theorem getBundleInfos_eq
    (getAllReqPermissionStateFull : UInt32 → Option (List PermissionStateFull))
    (valid : mgr.getUserId userId callingUserId ≠ invalidUserId)
    (specific : userId ≠ allUserId) :
    mgr.getBundleInfos getAllReqPermissionStateFull flags userId callingUserId =
      (!(mgr.bundleInfos.toList.flatMap fun entry =>
          (mgr.bundleInfoOf getAllReqPermissionStateFull flags
            (mgr.getUserId userId callingUserId) callingUserId
            entry.1).toList).isEmpty,
        mgr.bundleInfos.toList.flatMap fun entry =>
          (mgr.bundleInfoOf getAllReqPermissionStateFull flags
            (mgr.getUserId userId callingUserId) callingUserId
            entry.1).toList) := by
  have collected : mgr.bundleInfos.keys.filterMap
      (mgr.bundleInfoOf getAllReqPermissionStateFull flags
        (mgr.getUserId userId callingUserId) callingUserId) =
      mgr.bundleInfos.toList.flatMap fun entry =>
        (mgr.bundleInfoOf getAllReqPermissionStateFull flags
          (mgr.getUserId userId callingUserId) callingUserId
          entry.1).toList := by
    rw [← Std.ExtTreeMap.map_fst_toList_eq_keys, List.filterMap_map,
      List.filterMap_eq_flatMap_toList]
    rfl
  unfold getBundleInfos
  simp only [specific, valid, ↓reduceIte, collected]
  exact mgr.answer_of_contributions _

/-- The list of the names of the bundles of a user is made of what the bundles
contribute. -/
theorem getBundleList_eq
    (valid : mgr.getUserId userId callingUserId ≠ invalidUserId) :
    mgr.getBundleList userId callingUserId =
      (!(mgr.bundleInfos.toList.flatMap fun entry =>
          if (mgr.getInnerBundleInfoWithFlags entry.1 BundleFlag.getBundleDefault
            userId callingUserId).isSome then [entry.1] else []).isEmpty,
        mgr.bundleInfos.toList.flatMap fun entry =>
          if (mgr.getInnerBundleInfoWithFlags entry.1 BundleFlag.getBundleDefault
            userId callingUserId).isSome then [entry.1] else []) := by
  have collected : mgr.bundleInfos.keys.filter (fun bundleName =>
      (mgr.getInnerBundleInfoWithFlags bundleName BundleFlag.getBundleDefault
        userId callingUserId).isSome) =
      mgr.bundleInfos.toList.flatMap fun entry =>
        if (mgr.getInnerBundleInfoWithFlags entry.1 BundleFlag.getBundleDefault
          userId callingUserId).isSome then [entry.1] else [] := by
    rw [← Std.ExtTreeMap.map_fst_toList_eq_keys]
    generalize mgr.bundleInfos.toList = entries
    induction entries with
    | nil => rfl
    | cons entry rest ih =>
        rw [List.map_cons, List.filter_cons, List.flatMap_cons, ih]
        split <;> rfl
  unfold getBundleList
  simp only [valid, ↓reduceIte, getInnerBundleInfoWithFlags_getUserId,
    collected]
  exact mgr.answer_of_contributions _

end Lists

namespace DifferUnseen

variable {callingUserId : Int32}

section ListQueries

variable
  (differ : first.DifferUnseen
    (anyFlag flags ApplicationFlag.getApplicationInfoWithDisable) userId second
    bundleName)
  (found : first.getUserId userId callingUserId = userId)
  (valid : userId ≠ invalidUserId)

include differ found valid

theorem getApplicationInfos :
    first.getApplicationInfos flags userId callingUserId =
      second.getApplicationInfos flags userId callingUserId := by
  have foundInSecond : second.getUserId userId callingUserId = userId := by
    rw [← differ.getUserId, found]
  have nothing {info : InnerBundleInfo}
      (unasked : anyFlag flags ApplicationFlag.getApplicationInfoWithDisable =
        false) (unanswered : info.IsUnanswered userId) :
      addApplicationInfo flags userId [] info = [] := by
    unfold addApplicationInfo
    split
    · rfl
    · simp [unanswered.nobody, unanswered.getApplicationEnabled, unasked]
  rw [getApplicationInfos_eq (by rw [found]; exact valid),
    getApplicationInfos_eq (by rw [foundInSecond]; exact valid), found,
    foundInSecond]
  rw [Std.ExtTreeMap.flatMap_toList_of_differ differ.others
    (fun info stored => nothing (differ.unseenInFirst info stored).1
      (differ.unseenInFirst info stored).2)
    (fun info stored => nothing (differ.unseenInSecond info stored).1
      (differ.unseenInSecond info stored).2)]

theorem getBundleInfos (specific : userId ≠ allUserId)
    (getAllReqPermissionStateFull :
      UInt32 → Option (List PermissionStateFull)) :
    first.getBundleInfos getAllReqPermissionStateFull flags userId
        callingUserId =
      second.getBundleInfos getAllReqPermissionStateFull flags userId
        callingUserId := by
  have foundInSecond : second.getUserId userId callingUserId = userId := by
    rw [← differ.getUserId, found]
  have contribution (name : String) :
      first.bundleInfoOf getAllReqPermissionStateFull flags userId callingUserId
          name =
        second.bundleInfoOf getAllReqPermissionStateFull flags userId
          callingUserId name := by
    unfold bundleInfoOf
    rw [differ.getInnerBundleInfoWithFlags found]
  have nothing : second.bundleInfoOf getAllReqPermissionStateFull flags userId
      callingUserId bundleName = none := by
    unfold bundleInfoOf
    rw [differ.symm.not_admitted foundInSecond]
    rfl
  rw [getBundleInfos_eq _ (by rw [found]; exact valid) specific,
    getBundleInfos_eq _ (by rw [foundInSecond]; exact valid) specific, found,
    foundInSecond]
  simp only [contribution]
  rw [Std.ExtTreeMap.flatMap_toList_of_differ differ.others
    (fun info _ => by simp [nothing]) (fun info _ => by simp [nothing])]

end ListQueries

/-- The list of bundles is asked for without flags. -/
theorem getBundleList
    (differ : first.DifferUnseen false userId second bundleName)
    (found : first.getUserId userId callingUserId = userId)
    (valid : userId ≠ invalidUserId) :
    first.getBundleList userId callingUserId =
      second.getBundleList userId callingUserId := by
  have unflagged : anyFlag BundleFlag.getBundleDefault
      ApplicationFlag.getApplicationInfoWithDisable = false := by
    decide
  rw [← unflagged] at differ
  have foundInSecond : second.getUserId userId callingUserId = userId := by
    rw [← differ.getUserId, found]
  rw [getBundleList_eq (by rw [found]; exact valid),
    getBundleList_eq (by rw [foundInSecond]; exact valid)]
  simp only [differ.getInnerBundleInfoWithFlags found]
  have nothing := differ.symm.not_admitted foundInSecond
  rw [Std.ExtTreeMap.flatMap_toList_of_differ differ.others
    (fun info _ => by simp [nothing]) (fun info _ => by simp [nothing])]

end DifferUnseen

section Abilities

variable {mgr : BundleDataMgr} {callingUserId : Int32}
  {regexMatch : String → String → Bool} {want : QueryWant}

/-- A record that nobody answers for is admitted only where the flags ask for
it. -/
theorem asked_of_admitted {info admitted : InnerBundleInfo}
    (found : mgr.getUserId userId callingUserId = userId)
    (stored : mgr.bundleInfos[bundleName]? = some info)
    (unanswered : info.IsUnanswered userId)
    (isAdmitted : mgr.getInnerBundleInfoWithFlags bundleName flags userId
      callingUserId = some admitted) :
    anyFlag flags ApplicationFlag.getApplicationInfoWithDisable = true := by
  by_contra unasked
  rw [Bool.not_eq_true] at unasked
  rw [not_admitted_of_isUnanswered found stored unanswered unasked]
    at isAdmitted
  cases isAdmitted

/-- A record that nobody answers for shows no ability unless the flags ask for
disabled applications and abilities. -/
theorem shownIn_of_isUnanswered {info : InnerBundleInfo}
    (found : mgr.getUserId userId callingUserId = userId)
    (stored : mgr.bundleInfos[bundleName]? = some info)
    (unanswered : info.IsUnanswered userId)
    (unasked : (anyFlag flags ApplicationFlag.getApplicationInfoWithDisable &&
      anyFlag flags AbilityInfoFlag.getAbilityInfoWithDisable) = false) :
    mgr.shownIn regexMatch want flags userId callingUserId bundleName = [] := by
  unfold shownIn
  split
  · rfl
  · next admitted isAdmitted =>
      have same := stored_of_admitted isAdmitted
      rw [stored] at same
      cases same
      rw [asked_of_admitted found stored unanswered isAdmitted, Bool.true_and]
        at unasked
      rw [List.filter_eq_nil_iff]
      intro place member
      obtain ⟨_, rfl, _⟩ := mem_placesIn.mp member
      rw [found, unanswered.nobody, getUserId_invalid]
      simp [AbilityPlace.isShown, unasked, unanswered.noAbility]

/-- Nor does it have one to be found by name. -/
theorem explicitQueryAbilityInfo_of_isUnanswered {info : InnerBundleInfo}
    (found : mgr.getUserId userId callingUserId = userId)
    (stored : mgr.bundleInfos[bundleName]? = some info)
    (unanswered : info.IsUnanswered userId)
    (unasked : (anyFlag flags ApplicationFlag.getApplicationInfoWithDisable &&
      anyFlag flags AbilityInfoFlag.getAbilityInfoWithDisable) = false)
    (moduleName abilityName : String) :
    mgr.explicitQueryAbilityInfo bundleName moduleName abilityName flags userId
      callingUserId = none := by
  unfold explicitQueryAbilityInfo
  simp only [getInnerBundleInfoWithFlags_getUserId]
  split
  · rfl
  · split
    · rfl
    · next isAdmitted =>
        have same := stored_of_admitted isAdmitted
        rw [stored] at same
        cases same
        rw [asked_of_admitted found stored unanswered isAdmitted, Bool.true_and]
          at unasked
        rw [found, unanswered.nobody]
        split
        · rfl
        · rw [unasked, unanswered.noAbility]
          simp

/-- A want with a bundle name is answered by the shown places of that bundle,
whether or not the bundle may be seen. -/
theorem implicitQueryAbilityInfos_named (hasParam : want.hasParam = true)
    (named : want.element.bundleName ≠ "") :
    (mgr.implicitQueryAbilityInfos regexMatch want flags userId
        callingUserId).2 =
      (sortPlaces ((mgr.shownIn regexMatch want flags userId callingUserId
        want.element.bundleName).filter fun place =>
          want.element.moduleName = "" ||
            place.ability.moduleName = want.element.moduleName)).map
        (mgr.handOut flags userId callingUserId) := by
  cases admitted : mgr.getInnerBundleInfoWithFlags want.element.bundleName flags
      userId callingUserId with
  | some info =>
      exact mgr.implicitQueryAbilityInfos_bundle regexMatch flags userId
        callingUserId hasParam named admitted
  | none =>
      have nothing : mgr.shownIn regexMatch want flags userId callingUserId
          want.element.bundleName = [] := by
        unfold shownIn
        rw [admitted]
      rw [nothing, List.filter_nil, sortPlaces, List.mergeSort_nil,
        List.map_nil]
      unfold implicitQueryAbilityInfos
      simp [admitted, hasParam, named]

/-- An implicit query that fails hands out nothing. -/
theorem implicitQueryAbilityInfos_failed
    (failed : (mgr.implicitQueryAbilityInfos regexMatch want flags userId
      callingUserId).1 = false) :
    (mgr.implicitQueryAbilityInfos regexMatch want flags userId
      callingUserId).2 = [] := by
  unfold implicitQueryAbilityInfos at failed ⊢
  grind

/-- A query for several abilities looks one up or searches. -/
theorem queryAbilityInfos_eq
    (found : mgr.getUserId userId callingUserId = userId)
    (valid : userId ≠ invalidUserId) :
    mgr.queryAbilityInfos regexMatch want flags userId callingUserId =
      if want.element.bundleName ≠ "" && want.element.abilityName ≠ "" then
        ((mgr.explicitQueryAbilityInfo want.element.bundleName
            want.element.moduleName want.element.abilityName flags userId
            callingUserId).isSome,
          (mgr.explicitQueryAbilityInfo want.element.bundleName
            want.element.moduleName want.element.abilityName flags userId
            callingUserId).toList)
      else
        (!(mgr.implicitQueryAbilityInfos regexMatch want flags userId
            callingUserId).2.isEmpty,
          (mgr.implicitQueryAbilityInfos regexMatch want flags userId
            callingUserId).2) := by
  unfold queryAbilityInfos
  simp only [found, valid, ↓reduceIte]
  split
  · cases mgr.explicitQueryAbilityInfo want.element.bundleName
      want.element.moduleName want.element.abilityName flags userId
      callingUserId <;> rfl
  · cases returned : (mgr.implicitQueryAbilityInfos regexMatch want flags userId
        callingUserId).1 with
    | true => rw [Bool.true_and]
    | false =>
        rw [implicitQueryAbilityInfos_failed returned]
        rfl

/-- A query for one ability looks it up or takes the first one found. -/
theorem queryAbilityInfo_eq
    (found : mgr.getUserId userId callingUserId = userId)
    (valid : userId ≠ invalidUserId) :
    mgr.queryAbilityInfo regexMatch want flags userId callingUserId =
      if want.element.bundleName ≠ "" && want.element.abilityName ≠ "" then
        mgr.explicitQueryAbilityInfo want.element.bundleName
          want.element.moduleName want.element.abilityName flags userId
          callingUserId
      else
        (mgr.implicitQueryAbilityInfos regexMatch want flags userId
          callingUserId).2.head? := by
  unfold queryAbilityInfo
  simp only [found, valid, ↓reduceIte]
  split
  · rfl
  · split
    · rfl
    · next failed =>
        rw [implicitQueryAbilityInfos_failed (by simpa using failed)]
        rfl

theorem implicitQueryAbilityInfos_noParam (noParam : want.hasParam = false) :
    mgr.implicitQueryAbilityInfos regexMatch want flags userId callingUserId =
      (false, []) := by
  unfold implicitQueryAbilityInfos
  simp [noParam]

end Abilities

namespace DifferUnseen

variable {callingUserId : Int32} {regexMatch : String → String → Bool}
  {want : QueryWant}

section AbilityQueries

variable
  (differ : first.DifferUnseen
    (anyFlag flags ApplicationFlag.getApplicationInfoWithDisable &&
      anyFlag flags AbilityInfoFlag.getAbilityInfoWithDisable) userId second
    bundleName)
  (found : first.getUserId userId callingUserId = userId)

include differ found

/-- The bundle in which the stores differ shows nothing. -/
theorem nothing_shown :
    first.shownIn regexMatch want flags userId callingUserId bundleName =
      [] := by
  cases stored : first.bundleInfos[bundleName]? with
  | none =>
      unfold BundleDataMgr.shownIn
      split
      · rfl
      · next admitted =>
          rw [stored_of_admitted admitted] at stored
          cases stored
  | some info =>
      obtain ⟨unasked, unanswered⟩ := differ.unseenInFirst info stored
      exact shownIn_of_isUnanswered found stored unanswered unasked

theorem shownIn (name : String) :
    first.shownIn regexMatch want flags userId callingUserId name =
      second.shownIn regexMatch want flags userId callingUserId name := by
  by_cases same : name = bundleName
  · subst same
    rw [differ.nothing_shown found,
      differ.symm.nothing_shown (by rw [← differ.getUserId, found])]
  · unfold BundleDataMgr.shownIn
    rw [differ.getInnerBundleInfoWithFlags_other same]
    simp only [differ.getUserId]

theorem shownPlaces :
    first.shownPlaces regexMatch want flags userId callingUserId =
      second.shownPlaces regexMatch want flags userId callingUserId := by
  have nothing : second.shownIn regexMatch want flags userId callingUserId
      bundleName = [] :=
    differ.symm.nothing_shown (by rw [← differ.getUserId, found])
  unfold BundleDataMgr.shownPlaces
  simp only [differ.shownIn found]
  exact Std.ExtTreeMap.flatMap_toList_of_differ differ.others
    (fun _ _ => nothing) (fun _ _ => nothing)

/-- An implicit query hands out the same. -/
theorem implicitQueryAbilityInfos :
    (first.implicitQueryAbilityInfos regexMatch want flags userId
        callingUserId).2 =
      (second.implicitQueryAbilityInfos regexMatch want flags userId
        callingUserId).2 := by
  cases hasParam : want.hasParam with
  | false =>
      rw [implicitQueryAbilityInfos_noParam hasParam,
        implicitQueryAbilityInfos_noParam hasParam]
  | true =>
      by_cases anyBundle : want.element.bundleName = ""
      · rw [first.implicitQueryAbilityInfos_all regexMatch flags userId
            callingUserId hasParam anyBundle,
          second.implicitQueryAbilityInfos_all regexMatch flags userId
            callingUserId hasParam anyBundle, differ.shownPlaces found,
          differ.handOut]
      · rw [implicitQueryAbilityInfos_named hasParam anyBundle,
          implicitQueryAbilityInfos_named hasParam anyBundle,
          differ.shownIn found, differ.handOut]

/-- An explicit query finds the same. -/
theorem explicitQueryAbilityInfo (name moduleName abilityName : String) :
    first.explicitQueryAbilityInfo name moduleName abilityName flags userId
        callingUserId =
      second.explicitQueryAbilityInfo name moduleName abilityName flags userId
        callingUserId := by
  have hidden {mgr other : BundleDataMgr}
      (differ : mgr.DifferUnseen
        (anyFlag flags ApplicationFlag.getApplicationInfoWithDisable &&
          anyFlag flags AbilityInfoFlag.getAbilityInfoWithDisable) userId other
        bundleName)
      (isFound : mgr.getUserId userId callingUserId = userId) :
      mgr.explicitQueryAbilityInfo bundleName moduleName abilityName flags
        userId callingUserId = none := by
    cases stored : mgr.bundleInfos[bundleName]? with
    | none =>
        unfold BundleDataMgr.explicitQueryAbilityInfo
        simp only [getInnerBundleInfoWithFlags_getUserId]
        split
        · rfl
        · split
          · rfl
          · next admitted =>
              rw [stored_of_admitted admitted] at stored
              cases stored
    | some info =>
        obtain ⟨unasked, unanswered⟩ := differ.unseenInFirst info stored
        exact explicitQueryAbilityInfo_of_isUnanswered isFound stored unanswered
          unasked moduleName abilityName
  by_cases same : name = bundleName
  · subst same
    rw [hidden differ found,
      hidden differ.symm (by rw [← differ.getUserId, found])]
  · unfold BundleDataMgr.explicitQueryAbilityInfo
    simp only [getInnerBundleInfoWithFlags_getUserId]
    rw [differ.getUserId, differ.getInnerBundleInfoWithFlags_other same]

theorem queryAbilityInfos (valid : userId ≠ invalidUserId) :
    first.queryAbilityInfos regexMatch want flags userId callingUserId =
      second.queryAbilityInfos regexMatch want flags userId callingUserId := by
  rw [queryAbilityInfos_eq found valid,
    queryAbilityInfos_eq (by rw [← differ.getUserId, found]) valid,
    differ.explicitQueryAbilityInfo found,
    differ.implicitQueryAbilityInfos found]

theorem queryAbilityInfo (valid : userId ≠ invalidUserId) :
    first.queryAbilityInfo regexMatch want flags userId callingUserId =
      second.queryAbilityInfo regexMatch want flags userId callingUserId := by
  rw [queryAbilityInfo_eq found valid,
    queryAbilityInfo_eq (by rw [← differ.getUserId, found]) valid,
    differ.explicitQueryAbilityInfo found,
    differ.implicitQueryAbilityInfos found]

end AbilityQueries

end DifferUnseen

end BundleDataMgr

namespace Query

variable {ids : Set Int32} {userId : Int32} {query : Query}
  {regexMatch : String → String → Bool}
  {getAllReqPermissionStateFull : UInt32 → Option (List PermissionStateFull)}

/-- A query that is private does not notice a foreign bundle. -/
theorem hidesForeign_of_isPrivate (notNegative : 0 ≤ userId)
    (isPrivate : query.IsPrivate ids userId) :
    query.HidesForeign ids userId regexMatch getAllReqPermissionStateFull := by
  have valid : userId ≠ invalidUserId := by
    rintro rfl
    exact absurd notNegative (by decide)
  have specific : userId ≠ allUserId := by
    rintro rfl
    exact absurd notNegative (by decide)
  intro first second bundleName callingUserId argument firstIsStore
    secondIsStore registered differ
  have found : first.getUserId userId callingUserId = userId :=
    BundleDataMgr.getUserId_of_hasUserId registered notNegative
  cases query with
  | queryAbilityInfo flags =>
      have unseen := differ.differUnseen firstIsStore secondIsStore isPrivate
        notNegative
      have same : first.queryAbilityInfo regexMatch argument flags userId
          callingUserId =
          second.queryAbilityInfo regexMatch argument flags userId
          callingUserId :=
        BundleDataMgr.DifferUnseen.queryAbilityInfo unseen found valid
      simp only [run, same]
  | queryAbilityInfos flags =>
      have unseen := differ.differUnseen firstIsStore secondIsStore isPrivate
        notNegative
      have same : first.queryAbilityInfos regexMatch argument flags userId
          callingUserId =
          second.queryAbilityInfos regexMatch argument flags userId
          callingUserId :=
        BundleDataMgr.DifferUnseen.queryAbilityInfos unseen found valid
      simp only [run, same]
  | queryLauncherAbilityInfos => exact isPrivate.elim
  | queryAbilityInfoByUri => exact isPrivate.elim
  | getApplicationInfo flags =>
      have unseen := differ.differUnseen firstIsStore secondIsStore isPrivate
        notNegative
      have same : first.getApplicationInfo argument flags userId
          callingUserId =
          second.getApplicationInfo argument flags userId
          callingUserId :=
        BundleDataMgr.DifferUnseen.getApplicationInfo unseen found argument
      simp only [run, same]
  | getApplicationInfos flags =>
      have unseen := differ.differUnseen firstIsStore secondIsStore isPrivate
        notNegative
      have same : first.getApplicationInfos flags userId callingUserId =
          second.getApplicationInfos flags userId callingUserId :=
        BundleDataMgr.DifferUnseen.getApplicationInfos unseen found valid
      simp only [run, same]
  | getBundleInfo flags =>
      have unseen := differ.differUnseen firstIsStore secondIsStore isPrivate.2
        notNegative
      have same : first.getBundleInfo getAllReqPermissionStateFull argument
          flags userId callingUserId =
          second.getBundleInfo getAllReqPermissionStateFull argument
          flags userId callingUserId :=
        BundleDataMgr.DifferUnseen.getBundleInfo unseen found notNegative
          getAllReqPermissionStateFull argument
      simp only [run, same]
  | getBundleInfos flags =>
      have unseen := differ.differUnseen firstIsStore secondIsStore isPrivate.2
        notNegative
      have same : first.getBundleInfos getAllReqPermissionStateFull flags
          userId callingUserId =
          second.getBundleInfos getAllReqPermissionStateFull flags
          userId callingUserId :=
        BundleDataMgr.DifferUnseen.getBundleInfos unseen found valid
          specific getAllReqPermissionStateFull
      simp only [run, same]
  | getBundleList =>
      have unseen := differ.differUnseen firstIsStore secondIsStore isPrivate
        notNegative
      have same : first.getBundleList userId callingUserId =
          second.getBundleList userId callingUserId :=
        BundleDataMgr.DifferUnseen.getBundleList unseen found valid
      simp only [run, same]

end Query

end AppExecFwk
