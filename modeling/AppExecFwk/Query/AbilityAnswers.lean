import AppExecFwk.Query.AbilityQueries

/-!
# What the ability queries answer

An ability stands in the store at a place: the key of its bundle and its own key
among the abilities of the bundle.  An implicit query goes through the places in
the order of the store, so its answer is a list of places without repetitions,
and an explicit query finds the first place that has the names it is given.
-/

namespace AppExecFwk

namespace BundleDataMgr

/-- An ability of a record of the store. -/
structure AbilityPlace where
  bundleName : String
  info : InnerBundleInfo
  key : String
  ability : AbilityInfo

namespace AbilityPlace

/-- The order of the store: by the bundle, and then by the key of the
ability. -/
def InStoreOrder (first second : AbilityPlace) : Prop :=
  compare first.bundleName second.bundleName = .lt ∨
    first.bundleName = second.bundleName ∧
      compare first.key second.key = .lt

/-- The order of an answer: higher priorities first, and equal ones in the order
of the store. -/
def InAnswerOrder (first second : AbilityPlace) : Prop :=
  second.ability.priority ≤ first.ability.priority ∧
    (first.ability.priority ≤ second.ability.priority →
      first.InStoreOrder second)

theorem not_inStoreOrder_self (place : AbilityPlace) :
    ¬place.InStoreOrder place := by
  simp [InStoreOrder]

theorem not_inStoreOrder_swap {first second : AbilityPlace}
    (before : first.InStoreOrder second) : ¬second.InStoreOrder first := by
  have asymm {left right : String} (less : compare left right = .lt) :
      compare right left ≠ .lt := by
    have swapped : compare right left = (compare left right).swap :=
      Std.OrientedCmp.eq_swap
    rw [swapped, less]
    decide
  rintro (after | ⟨same, after⟩)
  · rcases before with before | ⟨same, _⟩
    · exact asymm before after
    · rw [same] at after
      simp at after
  · rcases before with before | ⟨_, before⟩
    · rw [same] at before
      simp at before
    · exact asymm before after

instance : Std.Irrefl InAnswerOrder where
  irrefl place := fun ordered =>
    place.not_inStoreOrder_self (ordered.2 (Int32.le_refl _))

instance : Std.Antisymm InAnswerOrder where
  antisymm _ _ before after :=
    absurd (after.2 before.1) (not_inStoreOrder_swap (before.2 after.1))

variable (regexMatch : String → String → Bool) (want : QueryWant)

/-- One of the skills of the ability matches. -/
def matchesWant (place : AbilityPlace) : Bool :=
  place.info.skillInfos[place.key]?.any fun skills =>
    skills.any fun skill => skill.matchWant regexMatch want

/-- What the loop over the abilities of a record asks about one of them; the
ability is tested for `userId`. -/
def isShown (flags userId : Int32) (place : AbilityPlace) : Bool :=
  systemAppFilter flags place.info && place.matchesWant regexMatch want &&
    (anyFlag flags AbilityInfoFlag.getAbilityInfoWithDisable ||
      place.info.isAbilityEnabled place.ability userId)

end AbilityPlace

/-- The places of the abilities of one record. -/
def placesIn (bundleName : String) (info : InnerBundleInfo) :
    List AbilityPlace :=
  info.baseAbilityInfos.toList.map fun entry =>
    ⟨bundleName, info, entry.1, entry.2⟩

variable (mgr : BundleDataMgr)

section Users

/-- A user that was looked up once is found again. -/
@[simp]
theorem getUserId_getUserId (userId callingUserId : Int32) :
    mgr.getUserId (mgr.getUserId userId callingUserId) callingUserId =
      mgr.getUserId userId callingUserId := by
  by_cases every : (userId = anyUserId || userId = allUserId) = true
  · have same : mgr.getUserId userId callingUserId = userId := by
      rw [getUserId, if_pos every]
    rw [same, same]
  · have found : mgr.getUserId userId callingUserId =
        if mgr.hasUserId (if userId = unspecifiedUserId then callingUserId
          else userId) then
          if userId = unspecifiedUserId then callingUserId else userId
        else invalidUserId := by
      rw [getUserId, if_neg every]
    rw [found]
    generalize requested : (if userId = unspecifiedUserId then callingUserId
      else userId) = asked
    by_cases present : mgr.hasUserId asked = true
    · rw [if_pos present, getUserId]
      split
      · rfl
      · by_cases unspecified : asked = unspecifiedUserId
        · have calling : asked = callingUserId := by
            split at requested
            · exact requested.symm
            · next specified => exact absurd (requested.trans unspecified) specified
          rw [← calling]
          simp only [ite_self, present, ↓reduceIte]
        · simp only [unspecified, ↓reduceIte, present]
    · rw [if_neg present, getUserId]
      simp only [show (invalidUserId = anyUserId) = False by decide,
        show (invalidUserId = allUserId) = False by decide,
        show (invalidUserId = unspecifiedUserId) = False by decide,
        decide_false, Bool.or_false, Bool.false_eq_true, ↓reduceIte, ite_self]

@[simp]
theorem getInnerBundleInfoWithFlags_getUserId (bundleName : String)
    (flags userId callingUserId : Int32) :
    mgr.getInnerBundleInfoWithFlags bundleName flags
        (mgr.getUserId userId callingUserId) callingUserId =
      mgr.getInnerBundleInfoWithFlags bundleName flags userId callingUserId := by
  simp only [getInnerBundleInfoWithFlags, getUserId_getUserId]

end Users

section Matching

variable (regexMatch : String → String → Bool) (want : QueryWant)

/-- The loop over the skills adds an ability once, however many match. -/
theorem addFirstMatch_eq (flags : Int32) (info : InnerBundleInfo)
    (userId callingUserId : Int32) (ability : AbilityInfo)
    (abilityInfos : List AbilityInfo) (skills : List Skill) :
    mgr.addFirstMatch regexMatch want flags info userId callingUserId ability
        abilityInfos skills =
      if (skills.any fun skill => skill.matchWant regexMatch want) &&
          (anyFlag flags AbilityInfoFlag.getAbilityInfoWithDisable ||
            info.isAbilityEnabled ability
              (mgr.getUserId userId callingUserId)) then
        abilityInfos ++ [matchedAbility flags info userId ability]
      else abilityInfos := by
  induction skills with
  | nil => simp [addFirstMatch]
  | cons skill rest ih =>
      rw [addFirstMatch, ih]
      cases matched : skill.matchWant regexMatch want with
      | false => simp [matched]
      | true =>
          cases anyFlag flags AbilityInfoFlag.getAbilityInfoWithDisable <;>
            cases info.isAbilityEnabled ability
              (mgr.getUserId userId callingUserId) <;> simp [matched]

/-- The loop over the abilities of a record adds those that are shown. -/
theorem getMatchAbilityInfos_eq (flags : Int32) (bundleName : String)
    (info : InnerBundleInfo) (userId callingUserId : Int32)
    (abilityInfos : List AbilityInfo) :
    mgr.getMatchAbilityInfos regexMatch want flags info userId callingUserId
        abilityInfos =
      abilityInfos ++ ((placesIn bundleName info).filter
        (AbilityPlace.isShown regexMatch want flags
          (mgr.getUserId userId callingUserId))).map
            fun place => matchedAbility flags info userId place.ability := by
  unfold getMatchAbilityInfos placesIn
  cases filtered : systemAppFilter flags info with
  | false =>
      have none : (info.baseAbilityInfos.toList.map fun entry =>
          (⟨bundleName, info, entry.1, entry.2⟩ : AbilityPlace)).filter
            (AbilityPlace.isShown regexMatch want flags
              (mgr.getUserId userId callingUserId)) = [] := by
        rw [List.filter_eq_nil_iff]
        intro place member
        obtain ⟨entry, _, rfl⟩ := List.mem_map.mp member
        simp [AbilityPlace.isShown, filtered]
      simp [none]
  | true =>
      simp only [Bool.not_true, Bool.false_eq_true, ↓reduceIte]
      generalize info.baseAbilityInfos.toList = entries
      induction entries generalizing abilityInfos with
      | nil => simp
      | cons entry rest ih =>
          rw [List.foldl_cons, ih]
          cases found : info.skillInfos[entry.1]? with
          | none =>
              simp [AbilityPlace.isShown, AbilityPlace.matchesWant, found]
          | some skills =>
              have shown : AbilityPlace.isShown regexMatch want flags
                  (mgr.getUserId userId callingUserId)
                  ⟨bundleName, info, entry.1, entry.2⟩ =
                ((skills.any fun skill => skill.matchWant regexMatch want) &&
                  (anyFlag flags AbilityInfoFlag.getAbilityInfoWithDisable ||
                    info.isAbilityEnabled entry.2
                      (mgr.getUserId userId callingUserId))) := by
                simp only [AbilityPlace.isShown, filtered,
                  AbilityPlace.matchesWant, found, Option.any_some,
                  Bool.true_and]
              simp only [addFirstMatch_eq]
              rw [List.map_cons, List.filter_cons, shown]
              split <;> simp

end Matching

section Places

variable (regexMatch : String → String → Bool) (want : QueryWant)
  (flags userId callingUserId : Int32)

/-- The places that an admitted bundle adds to the answer. -/
def shownIn (bundleName : String) : List AbilityPlace :=
  match mgr.getInnerBundleInfoWithFlags bundleName flags userId
      callingUserId with
  | none => []
  | some info =>
      (placesIn bundleName info).filter
        (AbilityPlace.isShown regexMatch want flags
          (mgr.getUserId
            (info.getResponseUserId (mgr.getUserId userId callingUserId))
            callingUserId))

/-- The user that answers for a record. -/
def answeringUser (info : InnerBundleInfo) : Int32 :=
  info.getResponseUserId (mgr.getUserId userId callingUserId)

/-- What is handed out about a place. -/
def handOut (place : AbilityPlace) : AbilityInfo :=
  matchedAbility flags place.info
    (mgr.answeringUser userId callingUserId place.info) place.ability

/-- Sort places the way an answer is sorted. -/
def sortPlaces (places : List AbilityPlace) : List AbilityPlace :=
  places.mergeSort fun first second =>
    !decide (second.ability.priority > first.ability.priority)

@[simp]
theorem handOut_priority (place : AbilityPlace) :
    (mgr.handOut flags userId callingUserId place).priority =
      place.ability.priority := by
  unfold handOut matchedAbility withRequestedParts
  split <;> rfl

@[simp]
theorem handOut_bundleName (place : AbilityPlace) :
    (mgr.handOut flags userId callingUserId place).bundleName =
      place.ability.bundleName := by
  unfold handOut matchedAbility withRequestedParts
  split <;> rfl

@[simp]
theorem handOut_moduleName (place : AbilityPlace) :
    (mgr.handOut flags userId callingUserId place).moduleName =
      place.ability.moduleName := by
  unfold handOut matchedAbility withRequestedParts
  split <;> rfl

@[simp]
theorem handOut_name (place : AbilityPlace) :
    (mgr.handOut flags userId callingUserId place).name =
      place.ability.name := by
  unfold handOut matchedAbility withRequestedParts
  split <;> rfl

theorem sortByPriority_eq (abilityInfos : List AbilityInfo) :
    sortByPriority abilityInfos = abilityInfos.mergeSort fun first second =>
      !decide (second.priority > first.priority) := by
  unfold sortByPriority
  split
  · rfl
  · next short =>
      match abilityInfos, short with
      | [], _ => rw [List.mergeSort_nil]
      | [ability], _ => rw [List.mergeSort_singleton]
      | _ :: _ :: _, short => exact absurd (by simp) short

/-- Sorting what is handed out is handing out what is sorted. -/
theorem sortByPriority_map_handOut (places : List AbilityPlace) :
    sortByPriority (places.map (mgr.handOut flags userId callingUserId)) =
      (sortPlaces places).map (mgr.handOut flags userId callingUserId) := by
  rw [sortByPriority_eq, sortPlaces]
  symm
  apply List.map_mergeSort
  intro first _ second _
  simp only [handOut_priority]

/-- Places in the order of the store are sorted into the order of an answer. -/
theorem pairwise_sortPlaces {places : List AbilityPlace}
    (stored : places.Pairwise AbilityPlace.InStoreOrder) :
    (sortPlaces places).Pairwise AbilityPlace.InAnswerOrder := by
  have sorted : (sortPlaces places).Pairwise fun first second =>
      (!decide (second.ability.priority > first.ability.priority)) = true ∧
        ((!decide (first.ability.priority > second.ability.priority)) = true →
          first.InStoreOrder second) := by
    apply StableList.pairwise_mergeSort
    · intro first second third
      simp only [Bool.not_eq_true', decide_eq_false_iff_not, gt_iff_lt,
        Int32.not_lt]
      intro above below
      exact Int32.le_trans below above
    · intro first second
      simp only [Bool.or_eq_true, Bool.not_eq_true', decide_eq_false_iff_not,
        gt_iff_lt, Int32.not_lt]
      exact Int32.le_total _ _
    · exact AbilityPlace.not_inStoreOrder_self
    · exact stored
  apply sorted.imp
  intro first second related
  simp only [Bool.not_eq_true', decide_eq_false_iff_not, gt_iff_lt,
    Int32.not_lt] at related
  exact related

theorem placesIn_inStoreOrder (bundleName : String) (info : InnerBundleInfo) :
    (placesIn bundleName info).Pairwise AbilityPlace.InStoreOrder := by
  unfold placesIn
  rw [List.pairwise_map]
  apply info.baseAbilityInfos.ordered_keys_toList.imp
  intro first second before
  exact .inr ⟨rfl, before⟩

theorem bundleName_of_mem_shownIn {bundleName : String} {place : AbilityPlace}
    (member : place ∈
      mgr.shownIn regexMatch want flags userId callingUserId bundleName) :
    place.bundleName = bundleName := by
  unfold shownIn at member
  split at member
  · cases member
  · obtain ⟨entry, _, rfl⟩ := List.mem_map.mp (List.mem_filter.mp member).1
    rfl

theorem shownIn_inStoreOrder (bundleName : String) :
    (mgr.shownIn regexMatch want flags userId callingUserId
      bundleName).Pairwise AbilityPlace.InStoreOrder := by
  unfold shownIn
  split
  · exact .nil
  · exact (placesIn_inStoreOrder _ _).filter _

/-- The places of all bundles, in the order of the store. -/
def shownPlaces : List AbilityPlace :=
  mgr.bundleInfos.toList.flatMap fun entry =>
    mgr.shownIn regexMatch want flags userId callingUserId entry.1

theorem shownPlaces_inStoreOrder :
    (mgr.shownPlaces regexMatch want flags userId callingUserId).Pairwise
      AbilityPlace.InStoreOrder := by
  unfold shownPlaces
  rw [List.pairwise_flatMap]
  constructor
  · intro entry _
    exact mgr.shownIn_inStoreOrder regexMatch want flags userId callingUserId _
  · apply mgr.bundleInfos.ordered_keys_toList.imp
    intro first second before place inFirst other inSecond
    left
    rw [mgr.bundleName_of_mem_shownIn _ _ _ _ _ inFirst,
      mgr.bundleName_of_mem_shownIn _ _ _ _ _ inSecond]
    exact before

end Places

section Implicit

variable (regexMatch : String → String → Bool) {want : QueryWant}
  (flags userId callingUserId : Int32)

/-- What a record adds to the list of an implicit query. -/
theorem getMatchAbilityInfos_eq_shownIn {bundleName : String}
    {info : InnerBundleInfo}
    (admitted : mgr.getInnerBundleInfoWithFlags bundleName flags userId
      callingUserId = some info) (abilityInfos : List AbilityInfo) :
    mgr.getMatchAbilityInfos regexMatch want flags info
        (mgr.answeringUser userId callingUserId info) callingUserId
        abilityInfos =
      abilityInfos ++
        (mgr.shownIn regexMatch want flags userId callingUserId
          bundleName).map (mgr.handOut flags userId callingUserId) := by
  rw [mgr.getMatchAbilityInfos_eq regexMatch want flags bundleName]
  have shown : mgr.shownIn regexMatch want flags userId callingUserId
      bundleName =
      (placesIn bundleName info).filter
        (AbilityPlace.isShown regexMatch want flags
          (mgr.getUserId (mgr.answeringUser userId callingUserId info)
            callingUserId)) := by
    unfold shownIn
    rw [admitted]
    rfl
  rw [shown]
  congr 1
  apply List.map_congr_left
  intro place member
  obtain ⟨entry, _, rfl⟩ := List.mem_map.mp (List.mem_filter.mp member).1
  rfl

/-- What the loop over all bundles adds for one of them. -/
theorem addMatchesOf_eq (bundleName : String)
    (abilityInfos : List AbilityInfo) :
    mgr.addMatchesOf regexMatch want flags (mgr.getUserId userId callingUserId)
        callingUserId abilityInfos bundleName =
      abilityInfos ++
        (mgr.shownIn regexMatch want flags userId callingUserId
          bundleName).map (mgr.handOut flags userId callingUserId) := by
  unfold addMatchesOf
  rw [getInnerBundleInfoWithFlags_getUserId]
  cases admitted : mgr.getInnerBundleInfoWithFlags bundleName flags userId
      callingUserId with
  | none => simp [shownIn, admitted]
  | some info =>
      exact mgr.getMatchAbilityInfos_eq_shownIn regexMatch flags userId
        callingUserId admitted abilityInfos

/-- An invalid user is shown nothing. -/
theorem shownIn_of_invalid {bundleName : String}
    (invalid : mgr.getUserId userId callingUserId = invalidUserId) :
    mgr.shownIn regexMatch want flags userId callingUserId bundleName = [] := by
  unfold shownIn getInnerBundleInfoWithFlags
  rw [if_pos invalid]

/-- A want without a bundle name is answered by the shown places of all
bundles. -/
theorem implicitQueryAbilityInfos_all (hasParam : want.hasParam = true)
    (anyBundle : want.element.bundleName = "") :
    (mgr.implicitQueryAbilityInfos regexMatch want flags userId
        callingUserId).2 =
      (sortPlaces (mgr.shownPlaces regexMatch want flags userId
        callingUserId)).map (mgr.handOut flags userId callingUserId) := by
  unfold implicitQueryAbilityInfos
  by_cases invalid : mgr.getUserId userId callingUserId = invalidUserId
  · have nothing : mgr.shownPlaces regexMatch want flags userId callingUserId =
        [] := by
      unfold shownPlaces
      rw [List.flatMap_eq_nil_iff]
      intro entry _
      exact mgr.shownIn_of_invalid regexMatch flags userId callingUserId invalid
    simp [invalid, nothing, sortPlaces]
  · rw [if_neg invalid, hasParam, anyBundle]
    simp only [Bool.not_true, Bool.false_eq_true, ↓reduceIte, ne_eq,
      not_true_eq_false]
    split
    · next empty =>
        have nothing : mgr.shownPlaces regexMatch want flags userId
            callingUserId = [] := by
          have noEntries : mgr.bundleInfos.toList = [] :=
            List.isEmpty_iff.mp (by
              rw [Std.ExtTreeMap.isEmpty_toList]
              exact empty)
          simp [shownPlaces, noEntries]
        simp [nothing, sortPlaces]
    · rw [← sortByPriority_map_handOut]
      refine congrArg sortByPriority ?_
      have loop (entries : List (String × InnerBundleInfo))
          (found : List AbilityInfo) :
          entries.foldl (fun found entry =>
            mgr.addMatchesOf regexMatch want flags
              (mgr.getUserId userId callingUserId) callingUserId found entry.1)
            found =
          found ++ (entries.flatMap fun entry =>
            mgr.shownIn regexMatch want flags userId callingUserId
              entry.1).map (mgr.handOut flags userId callingUserId) := by
        induction entries generalizing found with
        | nil => simp
        | cons entry rest ih =>
            rw [List.foldl_cons, ih, List.flatMap_cons, List.map_append,
              ← List.append_assoc, addMatchesOf_eq]
      exact loop _ []

/-- A want with the name of an admitted bundle is answered by the places of that
bundle, and of one module of it if it names one. -/
theorem implicitQueryAbilityInfos_bundle (hasParam : want.hasParam = true)
    (named : want.element.bundleName ≠ "") {info : InnerBundleInfo}
    (admitted : mgr.getInnerBundleInfoWithFlags want.element.bundleName flags
      userId callingUserId = some info) :
    (mgr.implicitQueryAbilityInfos regexMatch want flags userId
        callingUserId).2 =
      (sortPlaces ((mgr.shownIn regexMatch want flags userId callingUserId
        want.element.bundleName).filter fun place =>
          want.element.moduleName = "" ||
            place.ability.moduleName = want.element.moduleName)).map
        (mgr.handOut flags userId callingUserId) := by
  obtain ⟨valid, stored, _⟩ := mgr.getInnerBundleInfoWithFlags_eq_some.mp admitted
  have notEmpty : mgr.bundleInfos.isEmpty = false := by
    rw [Bool.eq_false_iff]
    intro empty
    have absent : mgr.bundleInfos[want.element.bundleName]? = none := by
      rw [Std.ExtTreeMap.isEmpty_iff.mp empty]
      exact Std.ExtTreeMap.getElem?_empty
    rw [absent] at stored
    cases stored
  unfold implicitQueryAbilityInfos
  rw [if_neg valid, hasParam, notEmpty]
  simp only [Bool.not_true, Bool.false_eq_true, ↓reduceIte, named, ne_eq,
    not_false_eq_true, getInnerBundleInfoWithFlags_getUserId, admitted]
  rw [← sortByPriority_map_handOut]
  congr 1
  have matched := @getMatchAbilityInfos_eq_shownIn mgr regexMatch want flags
    userId callingUserId _ info admitted []
  rw [answeringUser] at matched
  rw [matched, List.nil_append]
  unfold filterAbilityInfosByModuleName
  split
  · next anyModule => simp [anyModule]
  · next oneModule =>
      rw [List.filter_map]
      simp [Function.comp_def, oneModule]

end Implicit

/-- No clone is in the store: every ability names the bundle it is stored
under. -/
def NamesOwnBundles : Prop :=
  ∀ (bundleName : String) (info : InnerBundleInfo) (key : String)
    (ability : AbilityInfo), mgr.bundleInfos[bundleName]? = some info →
      info.baseAbilityInfos[key]? = some ability →
        ability.bundleName = bundleName

/-- Whoever answers for a record is a user of the device, or nobody. -/
def AnswersRegistered (userId callingUserId : Int32) : Prop :=
  ∀ (bundleName : String) (info : InnerBundleInfo),
    mgr.bundleInfos[bundleName]? = some info →
      mgr.getUserId (mgr.answeringUser userId callingUserId info)
          callingUserId =
        mgr.answeringUser userId callingUserId info

/-- A place an implicit query has to answer with. -/
structure IsAnswer (regexMatch : String → String → Bool) (want : QueryWant)
    (flags userId callingUserId : Int32) (place : AbilityPlace) : Prop where
  admitted : mgr.getInnerBundleInfoWithFlags place.bundleName flags userId
    callingUserId = some place.info
  declared : place.info.baseAbilityInfos[place.key]? = some place.ability
  system : hasFlag flags AbilityInfoFlag.getAbilityInfoSystemappOnly = true →
    place.info.isSystemApp = true
  matched : ∃ skills, place.info.skillInfos[place.key]? = some skills ∧
    ∃ skill ∈ skills, skill.matchWant regexMatch want = true
  enabled : anyFlag flags AbilityInfoFlag.getAbilityInfoWithDisable = true ∨
    place.info.isAbilityEnabled place.ability
      (mgr.answeringUser userId callingUserId place.info) = true

/-- No ability that comes earlier in the record answers to the names of this
one. -/
def AbilityPlace.IsFirstNamed (place : AbilityPlace) : Prop :=
  ∀ (key : String) (ability : AbilityInfo),
    place.info.baseAbilityInfos[key]? = some ability →
      compare key place.key = .lt →
        InnerBundleInfo.isNamed place.ability.bundleName
          place.ability.moduleName place.ability.name ability = false

section Answers

variable {mgr} {regexMatch : String → String → Bool} {want : QueryWant}
  {flags userId callingUserId : Int32} {place : AbilityPlace}

/-- An admitted record is in the store. -/
theorem stored_of_admitted {bundleName : String} {info : InnerBundleInfo}
    (admitted : mgr.getInnerBundleInfoWithFlags bundleName flags userId
      callingUserId = some info) :
    mgr.bundleInfos[bundleName]? = some info :=
  (mgr.getInnerBundleInfoWithFlags_eq_some.mp admitted).2.1

theorem mem_placesIn {bundleName : String} {info : InnerBundleInfo} :
    place ∈ placesIn bundleName info ↔
      place.bundleName = bundleName ∧ place.info = info ∧
        info.baseAbilityInfos[place.key]? = some place.ability := by
  unfold placesIn
  rw [List.mem_map]
  constructor
  · rintro ⟨⟨key, ability⟩, member, rfl⟩
    exact ⟨rfl, rfl, Std.ExtTreeMap.mem_toList_iff_getElem?_eq_some.mp member⟩
  · rintro ⟨rfl, rfl, declared⟩
    exact ⟨(place.key, place.ability),
      Std.ExtTreeMap.mem_toList_iff_getElem?_eq_some.mpr declared, rfl⟩

theorem matchesWant_iff :
    place.matchesWant regexMatch want = true ↔
      ∃ skills, place.info.skillInfos[place.key]? = some skills ∧
        ∃ skill ∈ skills, skill.matchWant regexMatch want = true := by
  simp [AbilityPlace.matchesWant, Option.any_eq_true]

theorem mem_shownIn (registered : mgr.AnswersRegistered userId callingUserId)
    {bundleName : String} :
    place ∈ mgr.shownIn regexMatch want flags userId callingUserId bundleName ↔
      place.bundleName = bundleName ∧
        mgr.IsAnswer regexMatch want flags userId callingUserId place := by
  unfold shownIn
  cases admitted : mgr.getInnerBundleInfoWithFlags bundleName flags userId
      callingUserId with
  | none =>
      constructor
      · intro member
        cases member
      · rintro ⟨rfl, answer⟩
        rw [answer.admitted] at admitted
        cases admitted
  | some info =>
      have tested := registered bundleName info (stored_of_admitted admitted)
      unfold answeringUser at tested
      simp only [tested, List.mem_filter, mem_placesIn, AbilityPlace.isShown,
        systemAppFilter, Bool.and_eq_true, Bool.or_eq_true, Bool.not_eq_true',
        matchesWant_iff]
      constructor
      · rintro ⟨⟨rfl, rfl, declared⟩, ⟨system, matched⟩, enabled⟩
        refine ⟨rfl, admitted, declared, ?_, matched, enabled⟩
        intro only
        exact system.resolve_left (by simp [only])
      · rintro ⟨rfl, answer⟩
        have same : place.info = info := by
          rw [answer.admitted] at admitted
          exact Option.some.inj admitted
        subst same
        refine ⟨⟨rfl, rfl, answer.declared⟩, ⟨?_, answer.matched⟩,
          answer.enabled⟩
        cases only : hasFlag flags
            AbilityInfoFlag.getAbilityInfoSystemappOnly with
        | false => exact .inl rfl
        | true => exact .inr (answer.system only)

theorem mem_shownPlaces
    (registered : mgr.AnswersRegistered userId callingUserId) :
    place ∈ mgr.shownPlaces regexMatch want flags userId callingUserId ↔
      mgr.IsAnswer regexMatch want flags userId callingUserId place := by
  unfold shownPlaces
  rw [List.mem_flatMap]
  constructor
  · rintro ⟨entry, _, member⟩
    exact ((mem_shownIn registered).mp member).2
  · intro answer
    refine ⟨(place.bundleName, place.info), ?_,
      (mem_shownIn registered).mpr ⟨rfl, answer⟩⟩
    exact Std.ExtTreeMap.mem_toList_iff_getElem?_eq_some.mpr
      (stored_of_admitted answer.admitted)

@[simp]
theorem mem_sortPlaces {places : List AbilityPlace} :
    place ∈ sortPlaces places ↔ place ∈ places :=
  List.mem_mergeSort

/-- Asking for one bundle and module sorts what asking for all of them
filters. -/
theorem sortPlaces_shownIn
    (registered : mgr.AnswersRegistered userId callingUserId)
    (bundleName moduleName : String) :
    sortPlaces ((mgr.shownIn regexMatch want flags userId callingUserId
        bundleName).filter fun place =>
          moduleName = "" || place.ability.moduleName = moduleName) =
      (sortPlaces (mgr.shownPlaces regexMatch want flags userId
        callingUserId)).filter fun place =>
          place.bundleName = bundleName &&
            (moduleName = "" || place.ability.moduleName = moduleName) := by
  have ofBundle := pairwise_sortPlaces
    ((mgr.shownIn_inStoreOrder regexMatch want flags userId callingUserId
      bundleName).filter fun place =>
        moduleName = "" || place.ability.moduleName = moduleName)
  have ofAll := (pairwise_sortPlaces
    (mgr.shownPlaces_inStoreOrder regexMatch want flags userId
      callingUserId)).filter fun place =>
        place.bundleName = bundleName &&
          (moduleName = "" || place.ability.moduleName = moduleName)
  apply ofBundle.eq_of_mem_iff ofAll
  intro place
  simp only [mem_sortPlaces, List.mem_filter, mem_shownIn registered,
    mem_shownPlaces registered, Bool.and_eq_true, decide_eq_true_eq]
  tauto

/-- An ability apart from the information about its application. -/
def withoutApplicationInfo (ability : AbilityInfo) : AbilityInfo :=
  { ability with applicationInfo := {} }

theorem findAbilityInfo_of_isFirstNamed
    (declared : place.info.baseAbilityInfos[place.key]? = some place.ability)
    (first : place.IsFirstNamed) (userId : Int32) :
    place.info.findAbilityInfo place.ability.bundleName
        place.ability.moduleName place.ability.name userId =
      some { place.ability with
        applicationInfo := place.info.getApplicationInfo
          (Int32.ofUInt32 ApplicationFlag.getApplicationInfoWithPermission)
          userId place.ability.applicationInfo } := by
  unfold InnerBundleInfo.findAbilityInfo
  rw [Std.ExtTreeMap.find?_toList_of_first declared
    (by simp [InnerBundleInfo.isNamed]) first]
  rfl

/-- An explicit query for the names of an answer finds the answer. -/
theorem explicitQueryAbilityInfo_of_isAnswer
    (answer : mgr.IsAnswer regexMatch want flags userId callingUserId place)
    (ownName : place.ability.bundleName = place.bundleName)
    (first : place.IsFirstNamed) :
    ∃ ability,
      mgr.explicitQueryAbilityInfo place.ability.bundleName
          place.ability.moduleName place.ability.name flags userId
          callingUserId = some ability ∧
        withoutApplicationInfo ability = withoutApplicationInfo
          (mgr.handOut flags userId callingUserId place) := by
  obtain ⟨valid, _⟩ := mgr.getInnerBundleInfoWithFlags_eq_some.mp answer.admitted
  have system : systemAppFilter flags place.info = true := by
    unfold systemAppFilter
    cases only : hasFlag flags AbilityInfoFlag.getAbilityInfoSystemappOnly with
    | false => rfl
    | true => simp [answer.system only]
  have enabled := answer.enabled
  unfold answeringUser InnerBundleInfo.isAbilityEnabled at enabled
  have found := findAbilityInfo_of_isFirstNamed answer.declared first
    (place.info.getResponseUserId (mgr.getUserId userId callingUserId))
  have admitted := answer.admitted
  rw [← ownName] at admitted
  unfold explicitQueryAbilityInfo
  simp only [valid, ↓reduceIte, getInnerBundleInfoWithFlags_getUserId,
    admitted, found, system, Bool.not_true, Bool.false_eq_true]
  rw [if_neg]
  · split
    · next withApplication =>
        refine ⟨_, rfl, ?_⟩
        simp [handOut, matchedAbility, withRequestedParts,
          withoutApplicationInfo, withApplication]
    · next withoutApplication =>
        refine ⟨_, rfl, ?_⟩
        simp [handOut, matchedAbility, withRequestedParts,
          withoutApplicationInfo, withoutApplication]
  · unfold InnerBundleInfo.isAbilityEnabled
    rcases enabled with disabledToo | enabled
    · simp [disabledToo]
    · simp only [Bool.and_eq_true, Bool.not_eq_true', not_and,
        Bool.not_eq_false]
      intro _
      exact enabled

/-- An implicit query answers with every ability that is admitted, kept by the
filter for system applications, matched and enabled, once and in the order of an
answer; naming a bundle and a module cuts the part of that answer out that is
from there; and an explicit query finds each answer that is the first of its
names. -/
theorem abilityQueries_agree (mgr : BundleDataMgr)
    (regexMatch : String → String → Bool) (want : QueryWant)
    (flags userId callingUserId : Int32) (ownBundles : mgr.NamesOwnBundles)
    (registered : mgr.AnswersRegistered userId callingUserId)
    (hasParam : want.hasParam = true)
    (anyBundle : want.element.bundleName = "") :
    ∃ places : List AbilityPlace,
      (places.Nodup ∧ places.Pairwise AbilityPlace.InAnswerOrder) ∧
      (∀ place, place ∈ places ↔
        mgr.IsAnswer regexMatch want flags userId callingUserId place) ∧
      (mgr.implicitQueryAbilityInfos regexMatch want flags userId
        callingUserId).2 =
          places.map (mgr.handOut flags userId callingUserId) ∧
      (∀ (bundleName moduleName : String) (info : InnerBundleInfo),
        bundleName ≠ "" →
        mgr.getInnerBundleInfoWithFlags bundleName flags userId
          callingUserId = some info →
        (mgr.implicitQueryAbilityInfos regexMatch
          { want with element := { want.element with bundleName, moduleName } }
          flags userId callingUserId).2 =
            (mgr.implicitQueryAbilityInfos regexMatch want flags userId
              callingUserId).2.filter fun ability =>
                ability.bundleName = bundleName &&
                  (moduleName = "" || ability.moduleName = moduleName)) ∧
      (∀ place ∈ places, place.IsFirstNamed →
        ∃ ability,
          mgr.explicitQueryAbilityInfo place.ability.bundleName
              place.ability.moduleName place.ability.name flags userId
              callingUserId = some ability ∧
            withoutApplicationInfo ability = withoutApplicationInfo
              (mgr.handOut flags userId callingUserId place)) := by
  have ordered := pairwise_sortPlaces (mgr.shownPlaces_inStoreOrder regexMatch
    want flags userId callingUserId)
  have all := mgr.implicitQueryAbilityInfos_all regexMatch flags userId
    callingUserId hasParam anyBundle
  have members (place : AbilityPlace) :
      place ∈ sortPlaces (mgr.shownPlaces regexMatch want flags userId
          callingUserId) ↔
        mgr.IsAnswer regexMatch want flags userId callingUserId place :=
    mem_sortPlaces.trans (mem_shownPlaces registered)
  have ownName {place : AbilityPlace}
      (answer : mgr.IsAnswer regexMatch want flags userId callingUserId place) :
      place.ability.bundleName = place.bundleName :=
    ownBundles _ _ _ _ (stored_of_admitted answer.admitted) answer.declared
  refine ⟨sortPlaces (mgr.shownPlaces regexMatch want flags userId
    callingUserId), ⟨ordered.nodup, ordered⟩, members, all, ?_, ?_⟩
  · intro bundleName moduleName info named admitted
    rw [all, List.filter_map]
    rw [@implicitQueryAbilityInfos_bundle mgr regexMatch { want with
        element := { want.element with bundleName, moduleName } } flags userId
      callingUserId hasParam named info admitted]
    have sorted := @sortPlaces_shownIn mgr regexMatch want flags userId
      callingUserId registered bundleName moduleName
    have sameShown : mgr.shownIn regexMatch { want with
        element := { want.element with bundleName, moduleName } } flags userId
          callingUserId bundleName =
        mgr.shownIn regexMatch want flags userId callingUserId bundleName := rfl
    rw [sameShown, sorted]
    refine congrArg _ (List.filter_congr ?_)
    intro place member
    simp [ownName ((members place).mp member)]
  · intro place member first
    exact explicitQueryAbilityInfo_of_isAnswer ((members place).mp member)
      (ownName ((members place).mp member)) first

end Answers

section Clock

/-- The ability of a module of the clock. -/
def clockFace (label : String) : AbilityInfo :=
  { name := "Face", bundleName := "clock", moduleName := "main", label }

/-- Two packages of the clock carry a module of one name. -/
def clockInfo : InnerBundleInfo where
  baseApplicationInfo := { bundleName := "clock" }
  baseAbilityInfos := (∅ : StringMap AbilityInfo)
    |>.insert "clock.first.Face" (clockFace "first")
    |>.insert "clock.second.Face" (clockFace "second")
  skillInfos := (∅ : StringMap (List Skill))
    |>.insert "clock.first.Face" [{ actions := ["show"] }]
    |>.insert "clock.second.Face" [{ actions := ["show"] }]
  innerBundleUserInfos := (∅ : StringMap InnerBundleUserInfo).insert
    "clock_100" { bundleUserInfo := { userId := 100 } }

def clockStore : BundleDataMgr where
  bundleInfos := (∅ : StringMap InnerBundleInfo).insert "clock" clockInfo
  multiUserIdsSet := (∅ : Std.ExtTreeSet Int32).insert 100

def showWant : QueryWant := { action := "show" }

def noRegex (_ _ : String) : Bool := false

theorem clock_admitted (flags : Int32) :
    clockStore.getInnerBundleInfoWithFlags "clock" flags 100 100 =
      some clockInfo := by
  rw [getInnerBundleInfoWithFlags_eq_some]
  exact ⟨by decide +kernel, Std.ExtTreeMap.getElem?_insert_self,
    by decide +kernel, .inr (by decide +kernel)⟩

/-- The places of the clock. -/
def clockPlace (label : String) : AbilityPlace :=
  ⟨"clock", clockInfo, "clock." ++ label ++ ".Face", clockFace label⟩

theorem clock_declares_first :
    clockInfo.baseAbilityInfos["clock.first.Face"]? =
      some (clockFace "first") := by
  rw [clockInfo, Std.ExtTreeMap.getElem?_insert, if_neg (by decide +kernel)]
  exact Std.ExtTreeMap.getElem?_insert_self

theorem clock_declares_second :
    clockInfo.baseAbilityInfos["clock.second.Face"]? =
      some (clockFace "second") :=
  Std.ExtTreeMap.getElem?_insert_self

theorem clockStore_stored {bundleName : String} {info : InnerBundleInfo}
    (stored : clockStore.bundleInfos[bundleName]? = some info) :
    bundleName = "clock" ∧ info = clockInfo := by
  rw [clockStore, Std.ExtTreeMap.getElem?_insert] at stored
  split at stored
  · next same =>
      exact ⟨(Std.LawfulEqCmp.eq_of_compare same).symm,
        (Option.some.inj stored).symm⟩
  · rw [Std.ExtTreeMap.getElem?_empty] at stored
    cases stored

theorem clockStore_namesOwnBundles : clockStore.NamesOwnBundles := by
  intro bundleName info key ability stored declared
  obtain ⟨rfl, rfl⟩ := clockStore_stored stored
  rw [clockInfo, Std.ExtTreeMap.getElem?_insert] at declared
  split at declared
  · cases declared
    rfl
  · rw [Std.ExtTreeMap.getElem?_insert] at declared
    split at declared
    · cases declared
      rfl
    · rw [Std.ExtTreeMap.getElem?_empty] at declared
      cases declared

theorem clockStore_answersRegistered :
    clockStore.AnswersRegistered 100 100 := by
  intro bundleName info stored
  obtain ⟨rfl, rfl⟩ := clockStore_stored stored
  decide +kernel

theorem clock_shows_second :
    clockPlace "second" ∈ clockStore.shownPlaces noRegex showWant 0 100 100 := by
  rw [mem_shownPlaces clockStore_answersRegistered]
  exact ⟨clock_admitted 0, clock_declares_second,
    fun only => absurd only (by decide +kernel),
    matchesWant_iff.mp (by decide +kernel), .inr (by decide +kernel)⟩

/-- For the clock the implicit query has exactly the answers it should have. -/
theorem abilityQueries_agree_clock :
    ∃ places : List AbilityPlace, places.Nodup ∧
      (∀ place, place ∈ places ↔
        clockStore.IsAnswer noRegex showWant 0 100 100 place) ∧
      (clockStore.implicitQueryAbilityInfos noRegex showWant 0 100 100).2 =
        places.map (clockStore.handOut 0 100 100) := by
  obtain ⟨places, ⟨nodup, _⟩, members, answers, _⟩ :=
    abilityQueries_agree clockStore noRegex showWant 0 100 100
      clockStore_namesOwnBundles clockStore_answersRegistered
      (by decide +kernel) rfl
  exact ⟨places, nodup, members, answers⟩

/-- An implicit query keeps back, when asked to, what is not a system
application, and it misses what is enabled for a user who is no longer on the
device; an explicit query finds another ability of the same names. -/
theorem abilityQueries_disagree :
    (∃ place : AbilityPlace,
      clockStore.getInnerBundleInfoWithFlags place.bundleName 0x80 100 100 =
          some place.info ∧
        place.info.baseAbilityInfos[place.key]? = some place.ability ∧
        place.matchesWant noRegex showWant = true ∧
        place.info.isAbilityEnabled place.ability
          (clockStore.answeringUser 100 100 place.info) = true ∧
        (clockStore.implicitQueryAbilityInfos noRegex showWant 0x80 100
          100).2 = []) ∧
    (∃ place : AbilityPlace,
      (clockStore.removeUserId 100).getInnerBundleInfoWithFlags
          place.bundleName 0 anyUserId 0 = some place.info ∧
        place.info.baseAbilityInfos[place.key]? = some place.ability ∧
        place.matchesWant noRegex showWant = true ∧
        place.info.isAbilityEnabled place.ability
          ((clockStore.removeUserId 100).answeringUser anyUserId 0
            place.info) = true ∧
        ((clockStore.removeUserId 100).implicitQueryAbilityInfos noRegex
          showWant 0 anyUserId 0).2 = []) ∧
    (∃ ability ∈ (clockStore.implicitQueryAbilityInfos noRegex showWant 0 100
        100).2,
      ∃ found, clockStore.explicitQueryAbilityInfo ability.bundleName
          ability.moduleName ability.name 0 100 100 = some found ∧
        found.label ≠ ability.label) := by
  refine ⟨⟨clockPlace "first", clock_admitted 0x80, clock_declares_first,
    by decide +kernel, by decide +kernel,
    List.isEmpty_iff.mp (by decide +kernel)⟩, ⟨clockPlace "first", ?_,
    clock_declares_first, by decide +kernel, by decide +kernel,
    List.isEmpty_iff.mp (by decide +kernel)⟩, ?_⟩
  · rw [getInnerBundleInfoWithFlags_eq_some]
    exact ⟨by decide +kernel, Std.ExtTreeMap.getElem?_insert_self,
      by decide +kernel, .inr (by decide +kernel)⟩
  · have answered : clockStore.handOut 0 100 100 (clockPlace "second") ∈
        (clockStore.implicitQueryAbilityInfos noRegex showWant 0 100 100).2 := by
      rw [clockStore.implicitQueryAbilityInfos_all noRegex 0 100 100
        (by decide +kernel) rfl]
      exact List.mem_map_of_mem (mem_sortPlaces.mpr clock_shows_second)
    have first : (clockStore.explicitQueryAbilityInfo "clock" "main" "Face" 0
        100 100).map (·.label) = some "first" := by
      decide +kernel
    obtain ⟨found, asked, label⟩ := Option.map_eq_some_iff.mp first
    refine ⟨_, answered, found, asked, ?_⟩
    rw [label]
    decide +kernel

end Clock

end BundleDataMgr

end AppExecFwk
