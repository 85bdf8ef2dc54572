import AppExecFwk.Query.AbilityAnswers
import AppExecFwk.Query.BundleQueries
import AppExecFwk.Store.RecordEffect

/-!
# What a user may see

A query made for one user should not notice a bundle that is installed neither
for that user nor for the default user, and should hand out nothing that is
switched off unless its flags ask for it.  The first is a law about two stores
that differ in one such bundle.  A bundle like that is not enabled for the user
who would answer, because nobody answers, so every query that asks whether its
bundles are enabled keeps the law.
-/

namespace AppExecFwk

open CommandProgram

/-- The queries for one user that take part, with their flags. -/
inductive Query where
  | queryAbilityInfo (flags : Int32)
  | queryAbilityInfos (flags : Int32)
  | queryLauncherAbilityInfos
  | queryAbilityInfoByUri
  | getApplicationInfo (flags : Int32)
  | getApplicationInfos (flags : Int32)
  | getBundleInfo (flags : Int32)
  | getBundleInfos (flags : Int32)
  | getBundleList

/-- What a query returns and hands out. -/
structure QueryAnswer where
  returned : Bool
  abilities : List AbilityInfo := []
  applications : List ApplicationInfo := []
  bundles : List BundleInfo := []
  bundleNames : List String := []

namespace Query

/-- What a query is asked with. -/
abbrev Argument : Query → Type
  | queryAbilityInfo _ | queryAbilityInfos _ | queryLauncherAbilityInfos =>
      QueryWant
  | queryAbilityInfoByUri | getApplicationInfo _ | getBundleInfo _ => String
  | getApplicationInfos _ | getBundleInfos _ | getBundleList => Unit

/-- The flags of a query, none for the queries that take no flags. -/
def flags : Query → Int32
  | queryAbilityInfo flags | queryAbilityInfos flags
  | getApplicationInfo flags | getApplicationInfos flags
  | getBundleInfo flags | getBundleInfos flags => flags
  | queryLauncherAbilityInfos | queryAbilityInfoByUri | getBundleList => 0

/-- The flags ask for disabled applications. -/
def asksForDisabledApplications (query : Query) : Bool :=
  anyFlag query.flags ApplicationFlag.getApplicationInfoWithDisable

/-- The flags ask for disabled abilities. -/
def asksForDisabledAbilities (query : Query) : Bool :=
  anyFlag query.flags AbilityInfoFlag.getAbilityInfoWithDisable

/-- An answer with abilities and the applications that were filled in. -/
def answerAbilities (returned withApplication : Bool)
    (abilities : List AbilityInfo) : QueryAnswer where
  returned := returned
  abilities := abilities
  applications :=
    if withApplication then abilities.map (·.applicationInfo) else []

/-- An answer with bundles, their abilities and their applications. -/
def answerBundles (returned : Bool) (bundles : List BundleInfo) :
    QueryAnswer where
  returned := returned
  bundles := bundles
  applications := bundles.map (·.applicationInfo)
  abilities := bundles.flatMap fun bundle =>
    bundle.abilityInfos ++ bundle.hapModuleInfos.flatMap (·.abilityInfos)

variable (regexMatch : String → String → Bool)
  (getAllReqPermissionStateFull : UInt32 → Option (List PermissionStateFull))
  (mgr : BundleDataMgr) (userId callingUserId : Int32)

/-- Ask a query for a user. -/
def run : (query : Query) → query.Argument → QueryAnswer
  | queryAbilityInfo flags, want =>
      let found := mgr.queryAbilityInfo regexMatch want flags userId
        callingUserId
      answerAbilities found.isSome
        (hasFlag flags AbilityInfoFlag.getAbilityInfoWithApplication)
        found.toList
  | queryAbilityInfos flags, want =>
      let found := mgr.queryAbilityInfos regexMatch want flags userId
        callingUserId
      answerAbilities found.1
        (hasFlag flags AbilityInfoFlag.getAbilityInfoWithApplication) found.2
  | queryLauncherAbilityInfos, want =>
      let found := mgr.queryLauncherAbilityInfos want userId callingUserId
      answerAbilities found.1 true found.2
  | queryAbilityInfoByUri, abilityUri =>
      let found := mgr.queryAbilityInfoByUri abilityUri userId callingUserId
      answerAbilities found.isSome true found.toList
  | getApplicationInfo flags, appName =>
      let found := mgr.getApplicationInfo appName flags userId callingUserId
      { returned := found.isSome, applications := found.toList }
  | getApplicationInfos flags, _ =>
      let found := mgr.getApplicationInfos flags userId callingUserId
      { returned := found.1, applications := found.2 }
  | getBundleInfo flags, bundleName =>
      let found := mgr.getBundleInfo getAllReqPermissionStateFull bundleName
        flags userId callingUserId
      answerBundles found.isSome found.toList
  | getBundleInfos flags, _ =>
      let found := mgr.getBundleInfos getAllReqPermissionStateFull flags userId
        callingUserId
      answerBundles found.1 found.2
  | getBundleList, _ =>
      let found := mgr.getBundleList userId callingUserId
      { returned := found.1, bundleNames := found.2 }

end Query

/-- A store that calls of any clients have brought about, with the users of the
device: what it has about a user is kept under that user's own key, and every
bundle is installed for somebody. -/
structure BundleDataMgr.IsStoreOf (mgr : BundleDataMgr) (ids : Set Int32) :
    Prop where
  reached : Reachable bundleStore (fun _ => True) {} mgr
  installed : ∀ (bundleName : String) (info : InnerBundleInfo),
    mgr.bundleInfos[bundleName]? = some info →
      info.innerBundleUserInfos.isEmpty = false
  users : ∀ (bundleName : String) (info : InnerBundleInfo) (key : String)
    (user : InnerBundleUserInfo), mgr.bundleInfos[bundleName]? = some info →
      info.innerBundleUserInfos[key]? = some user →
        key = nameAndUserIdToKey info.getBundleName
            user.bundleUserInfo.userId ∧
          user.bundleUserInfo.userId ∈ ids ∧ 0 ≤ user.bundleUserInfo.userId

/-- A bundle that is installed neither for a user nor for the default one. -/
def InnerBundleInfo.IsForeign (info : InnerBundleInfo) (userId : Int32) :
    Prop :=
  info.hasInnerBundleUserInfo userId = false ∧
    info.hasInnerBundleUserInfo defaultUserId = false

/-- Two stores with the same users that differ at most in a bundle that is
foreign to a user where it is there. -/
structure BundleDataMgr.DifferInForeign (userId : Int32)
    (first second : BundleDataMgr) (bundleName : String) : Prop where
  users : first.multiUserIdsSet = second.multiUserIdsSet
  others : ∀ other, other ≠ bundleName →
    first.bundleInfos[other]? = second.bundleInfos[other]?
  foreignInFirst : ∀ info, first.bundleInfos[bundleName]? = some info →
    info.IsForeign userId
  foreignInSecond : ∀ info, second.bundleInfos[bundleName]? = some info →
    info.IsForeign userId

namespace Query

variable (ids : Set Int32) (userId : Int32) (query : Query)
  (regexMatch : String → String → Bool)
  (getAllReqPermissionStateFull : UInt32 → Option (List PermissionStateFull))

/-- No foreign bundle that is added, removed or changed is noticed. -/
def HidesForeign : Prop :=
  ∀ (first second : BundleDataMgr) (bundleName : String)
    (callingUserId : Int32) (argument : query.Argument),
    first.IsStoreOf ids → second.IsStoreOf ids →
    first.hasUserId userId = true →
    first.DifferInForeign userId second bundleName →
      query.run regexMatch getAllReqPermissionStateFull first userId
          callingUserId argument =
        query.run regexMatch getAllReqPermissionStateFull second userId
          callingUserId argument

/-- An ability that is handed out is one of the store that is not disabled for
the user that answers. -/
def IsSwitchedOn (mgr : BundleDataMgr) (callingUserId : Int32)
    (ability : AbilityInfo) : Prop :=
  ∃ (bundleName key : String) (info : InnerBundleInfo) (stored : AbilityInfo),
    mgr.bundleInfos[bundleName]? = some info ∧
      info.baseAbilityInfos[key]? = some stored ∧
      ability.bundleName = stored.bundleName ∧
      ability.moduleName = stored.moduleName ∧ ability.name = stored.name ∧
      info.isAbilityEnabled stored
        (mgr.answeringUser userId callingUserId info) = true

/-- Without the flags for it, nothing that is disabled is handed out. -/
def HidesDisabled : Prop :=
  ∀ (mgr : BundleDataMgr) (callingUserId : Int32) (argument : query.Argument),
    mgr.IsStoreOf ids → mgr.hasUserId userId = true →
      (query.asksForDisabledApplications = false →
        ∀ application ∈ (query.run regexMatch getAllReqPermissionStateFull mgr
            userId callingUserId argument).applications,
          application.enabled = true) ∧
      (query.asksForDisabledAbilities = false →
        ∀ ability ∈ (query.run regexMatch getAllReqPermissionStateFull mgr
            userId callingUserId argument).abilities,
          IsSwitchedOn userId mgr callingUserId ability)

/-- Nobody but the default user answers for others, and if the flags show
bundles that nobody answers for there is nobody else to have any. -/
def SeesOnlyOwn (showsUnanswered : Bool) : Prop :=
  (∀ other ∈ ids, 0 < other → other < startUserId → userId < startUserId) ∧
    (showsUnanswered = true → ∀ other ∈ ids, 0 ≤ other →
      other = userId ∨ other = defaultUserId)

/-- When a query keeps both laws. -/
def IsPrivate : Prop :=
  match query with
  | queryAbilityInfo _ | queryAbilityInfos _ =>
      SeesOnlyOwn ids userId
        (query.asksForDisabledApplications && query.asksForDisabledAbilities)
  | queryLauncherAbilityInfos | queryAbilityInfoByUri => False
  | getApplicationInfo _ | getApplicationInfos _ =>
      SeesOnlyOwn ids userId query.asksForDisabledApplications
  | getBundleInfo _ | getBundleInfos _ =>
      query.asksForDisabledAbilities = true ∧
        SeesOnlyOwn ids userId query.asksForDisabledApplications
  | getBundleList => SeesOnlyOwn ids userId false

end Query

section Unanswered

/-- Nobody answers for a record, and it has nothing about nobody. -/
structure InnerBundleInfo.IsUnanswered (info : InnerBundleInfo)
    (userId : Int32) : Prop where
  nobody : info.getResponseUserId userId = invalidUserId
  noInfo : info.getInnerBundleUserInfo invalidUserId = none
  noAbility : ∀ ability, info.isAbilityEnabled ability invalidUserId = false

theorem InnerBundleInfo.IsUnanswered.getApplicationEnabled
    {info : InnerBundleInfo} {userId : Int32}
    (unanswered : info.IsUnanswered userId) :
    info.getApplicationEnabled invalidUserId = false := by
  rw [InnerBundleInfo.getApplicationEnabled, unanswered.noInfo]
  rfl

variable {ids : Set Int32} {userId : Int32} {mgr : BundleDataMgr}
  {bundleName : String} {info : InnerBundleInfo}

/-- A user that a foreign bundle is installed for is another one. -/
theorem BundleDataMgr.IsStoreOf.other_of_isForeign (isStore : mgr.IsStoreOf ids)
    (stored : mgr.bundleInfos[bundleName]? = some info)
    (foreign : info.IsForeign userId) {key : String}
    {user : InnerBundleUserInfo}
    (found : info.innerBundleUserInfos[key]? = some user) :
    user.bundleUserInfo.userId ∈ ids ∧ 0 ≤ user.bundleUserInfo.userId ∧
      user.bundleUserInfo.userId ≠ userId ∧
      user.bundleUserInfo.userId ≠ defaultUserId := by
  obtain ⟨ownKey, member, notNegative⟩ :=
    isStore.users bundleName info key user stored found
  have present : info.hasInnerBundleUserInfo user.bundleUserInfo.userId =
      true := by
    unfold InnerBundleInfo.hasInnerBundleUserInfo
    split
    · next every =>
        rw [every] at notNegative
        exact absurd notNegative (by decide)
    · rw [← ownKey, Std.ExtTreeMap.contains_eq_isSome_getElem?, found]
      rfl
  refine ⟨member, notNegative, ?_, ?_⟩
  · intro same
    rw [same, foreign.1] at present
    cases present
  · intro same
    rw [same, foreign.2] at present
    cases present

/-- No ability is enabled for nobody. -/
theorem BundleDataMgr.IsStoreOf.isAbilityEnabled_invalid
    (isStore : mgr.IsStoreOf ids)
    (stored : mgr.bundleInfos[bundleName]? = some info)
    (ability : AbilityInfo) :
    info.isAbilityEnabled ability invalidUserId = false := by
  unfold InnerBundleInfo.isAbilityEnabled
  rw [if_neg (by decide)]
  split
  · rfl
  · next found =>
      obtain ⟨ownKey, _, real⟩ := isStore.users _ _ _ _ stored found
      rw [← (nameAndUserIdToKey_inj ownKey).2] at real
      exact absurd real (by decide)

/-- Nobody answers for a foreign bundle where only the default user answers for
others. -/
theorem BundleDataMgr.IsStoreOf.isUnanswered (isStore : mgr.IsStoreOf ids)
    (stored : mgr.bundleInfos[bundleName]? = some info)
    (foreign : info.IsForeign userId) (notNegative : 0 ≤ userId)
    (onlyDefault : ∀ other ∈ ids, 0 < other → other < startUserId →
      userId < startUserId) : info.IsUnanswered userId where
  nobody := by
    unfold InnerBundleInfo.getResponseUserId
    split
    · rfl
    · have specific : userId ≠ anyUserId := by
        rintro rfl
        exact absurd notNegative (by decide)
      rw [if_neg specific, foreign.1]
      simp only [Bool.false_eq_true, ↓reduceIte]
      split
      · rfl
      · next ordinary =>
          have nobodyElse : info.innerBundleUserInfos.values.find?
              (·.bundleUserInfo.userId < startUserId) = none := by
            rw [List.find?_eq_none]
            intro user member small
            obtain ⟨key, found⟩ := Std.ExtTreeMap.mem_values.mp member
            obtain ⟨inIds, real, _, notDefault⟩ :=
              isStore.other_of_isForeign stored foreign found
            have positive : 0 < user.bundleUserInfo.userId :=
              Int32.lt_of_le_of_ne real (Ne.symm notDefault)
            exact ordinary (onlyDefault _ inIds positive (by simpa using small))
          rw [nobodyElse]
          rfl
  noInfo := by
    have absent : info.innerBundleUserInfos[
        nameAndUserIdToKey info.getBundleName invalidUserId]? = none := by
      rw [Option.eq_none_iff_forall_ne_some]
      intro user found
      obtain ⟨ownKey, _, real⟩ := isStore.users _ _ _ _ stored found
      rw [← (nameAndUserIdToKey_inj ownKey).2] at real
      exact absurd real (by decide)
    unfold InnerBundleInfo.getInnerBundleUserInfo
    rw [if_neg (by decide), if_neg (by decide), absent]
  noAbility := isStore.isAbilityEnabled_invalid stored

/-- Two stores with the same users that differ at most in a bundle nobody
answers for, and that is not asked for either. -/
structure BundleDataMgr.DifferUnseen (isAsked : Bool) (userId : Int32)
    (first second : BundleDataMgr) (bundleName : String) : Prop where
  users : first.multiUserIdsSet = second.multiUserIdsSet
  others : ∀ other, other ≠ bundleName →
    first.bundleInfos[other]? = second.bundleInfos[other]?
  unseenInFirst : ∀ info, first.bundleInfos[bundleName]? = some info →
    isAsked = false ∧ info.IsUnanswered userId
  unseenInSecond : ∀ info, second.bundleInfos[bundleName]? = some info →
    isAsked = false ∧ info.IsUnanswered userId

/-- A foreign bundle is not seen. -/
theorem BundleDataMgr.IsStoreOf.unseen (isStore : mgr.IsStoreOf ids)
    {isAsked : Bool} (onlyOwn : Query.SeesOnlyOwn ids userId isAsked)
    (notNegative : 0 ≤ userId)
    (stored : mgr.bundleInfos[bundleName]? = some info)
    (foreign : info.IsForeign userId) :
    isAsked = false ∧ info.IsUnanswered userId := by
  refine ⟨?_, isStore.isUnanswered stored foreign notNegative onlyOwn.1⟩
  rw [Bool.eq_false_iff]
  intro asked
  obtain ⟨entry, found⟩ : ∃ entry : String × InnerBundleUserInfo,
      info.innerBundleUserInfos[entry.1]? = some entry.2 := by
    have someEntry : info.innerBundleUserInfos.toList ≠ [] := by
      intro noEntry
      have empty := isStore.installed _ _ stored
      rw [← Std.ExtTreeMap.isEmpty_toList, noEntry] at empty
      cases empty
    obtain ⟨entry, member⟩ := List.exists_mem_of_ne_nil _ someEntry
    exact ⟨entry, Std.ExtTreeMap.mem_toList_iff_getElem?_eq_some.mp member⟩
  obtain ⟨inIds, real, notUser, notDefault⟩ :=
    isStore.other_of_isForeign stored foreign found
  rcases onlyOwn.2 asked _ inIds real with same | same
  · exact notUser same
  · exact notDefault same

theorem BundleDataMgr.DifferInForeign.differUnseen {first second : BundleDataMgr}
    (differ : first.DifferInForeign userId second bundleName)
    (firstIsStore : first.IsStoreOf ids) (secondIsStore : second.IsStoreOf ids)
    {isAsked : Bool} (onlyOwn : Query.SeesOnlyOwn ids userId isAsked)
    (notNegative : 0 ≤ userId) :
    first.DifferUnseen isAsked userId second bundleName where
  users := differ.users
  others := differ.others
  unseenInFirst info stored :=
    firstIsStore.unseen onlyOwn notNegative stored
      (differ.foreignInFirst info stored)
  unseenInSecond info stored :=
    secondIsStore.unseen onlyOwn notNegative stored
      (differ.foreignInSecond info stored)

end Unanswered

end AppExecFwk
