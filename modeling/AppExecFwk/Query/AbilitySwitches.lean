import AppExecFwk.Query.BundleInfoQueries
import AppExecFwk.Store.BundleDataMgr

/-!
# Switching abilities on and off

A call switches an ability of a module on or off for a user.  The module decides
which ability is meant, but what is kept for the user is the name of the ability
alone, so abilities of one name in two modules have one switch.  This file
compares the record with a table that has a switch for every module, ability and
user.
-/

namespace AppExecFwk

namespace InnerBundleInfo

/-- The ability a call means: the first one of the name, in the module if one is
given. -/
def meantAbility? (info : InnerBundleInfo)
    (bundleName moduleName abilityName : String) : Option AbilityInfo :=
  info.baseAbilityInfos.values.find? fun ability =>
    ability.bundleName = bundleName && ability.name = abilityName &&
      (moduleName = "" || ability.moduleName = moduleName)

/-- What is switched off after a name is switched on or off. -/
def switchName (disabled : List String) (name : String) (isEnabled : Bool) :
    List String :=
  if isEnabled then disabled.erase name
  else if name ∈ disabled then disabled
  else disabled ++ [name]

section Names

variable {disabled : List String} {name : String} {isEnabled : Bool}

theorem nodup_switchName (nodup : disabled.Nodup) :
    (switchName disabled name isEnabled).Nodup := by
  unfold switchName
  split
  · exact nodup.erase name
  · split
    · exact nodup
    next absent =>
      rw [List.nodup_append]
      refine ⟨nodup, List.nodup_singleton name, ?_⟩
      rintro first member second single rfl
      rw [List.mem_singleton.mp single] at member
      exact absent member

theorem contains_switchName (nodup : disabled.Nodup) (other : String) :
    (switchName disabled name isEnabled).contains other =
      if other = name then !isEnabled else disabled.contains other := by
  rw [Bool.eq_iff_iff, List.contains_iff_mem]
  unfold switchName
  cases isEnabled with
  | true =>
      rw [if_pos rfl, nodup.mem_erase_iff]
      split <;> simp_all
  | false =>
      rw [if_neg Bool.false_ne_true]
      split <;> split <;> simp_all

end Names

variable {info : InnerBundleInfo} {bundleName moduleName abilityName : String}
  {isEnabled : Bool} {userId : Int32}

theorem isSome_meantAbility? :
    (info.meantAbility? bundleName moduleName abilityName).isSome =
      info.baseAbilityInfos.any fun _ ability =>
        ability.bundleName = bundleName && ability.name = abilityName &&
          (moduleName = "" || ability.moduleName = moduleName) := by
  rw [Std.ExtTreeMap.any_eq_any_toList, meantAbility?, List.isSome_find?,
    Std.ExtTreeMap.values_eq_map_toList, List.any_map]
  rfl

/-- The ability that is meant has the name that is given. -/
theorem of_meantAbility? {ability : AbilityInfo}
    (meant : info.meantAbility? bundleName moduleName abilityName = some ability) :
    ability ∈ info.baseAbilityInfos.values ∧ ability.bundleName = bundleName ∧
      ability.name = abilityName := by
  have found := List.find?_some meant
  simp only [Bool.and_eq_true, decide_eq_true_eq] at found
  exact ⟨List.mem_of_find?_eq_some meant, found.1.1, found.1.2⟩

/-- The record after the switch of a user has been set. -/
def switched (info : InnerBundleInfo) (bundleName abilityName : String)
    (isEnabled : Bool) (userId : Int32) (user : InnerBundleUserInfo) :
    InnerBundleInfo :=
  { info with
    innerBundleUserInfos := info.innerBundleUserInfos.insert
      (nameAndUserIdToKey bundleName userId)
      { user with
        bundleUserInfo.disabledAbilities := switchName
          user.bundleUserInfo.disabledAbilities abilityName isEnabled } }

/-- A switch is set for the user if there is such an ability and such a user. -/
theorem setAbilityEnabled_eq :
    info.setAbilityEnabled bundleName moduleName abilityName isEnabled userId =
      match info.meantAbility? bundleName moduleName abilityName,
        info.innerBundleUserInfos[nameAndUserIdToKey bundleName userId]? with
      | some _, some user =>
          some (info.switched bundleName abilityName isEnabled userId user)
      | _, _ => none := by
  have found := @isSome_meantAbility? info bundleName moduleName abilityName
  unfold setAbilityEnabled
  rw [← found]
  cases info.meantAbility? bundleName moduleName abilityName with
  | none => rfl
  | some ability =>
      dsimp only [Option.isSome_some]
      rw [if_pos rfl]
      cases info.innerBundleUserInfos[nameAndUserIdToKey bundleName userId]? <;> rfl

@[simp]
theorem contains_switched {user : InnerBundleUserInfo} (key : String)
    (found : info.innerBundleUserInfos[nameAndUserIdToKey bundleName userId]? =
      some user) :
    (info.switched bundleName abilityName isEnabled userId
      user).innerBundleUserInfos.contains key =
        info.innerBundleUserInfos.contains key := by
  simp only [switched, Std.ExtTreeMap.contains_insert]
  by_cases same : nameAndUserIdToKey bundleName userId = key
  · rw [← same, Std.ExtTreeMap.contains_eq_isSome_getElem?, found]
    simp
  · simp [same]

/-- The switch that has been set is that of the name, for all modules. -/
theorem isAbilityEnabled_switched {user : InnerBundleUserInfo}
    (found : info.innerBundleUserInfos[nameAndUserIdToKey bundleName userId]? =
      some user)
    (nodup : user.bundleUserInfo.disabledAbilities.Nodup) {ability : AbilityInfo}
    (own : ability.bundleName = bundleName) {other : Int32}
    (real : other ≠ notExistUserId) :
    (info.switched bundleName abilityName isEnabled userId
      user).isAbilityEnabled ability other =
        if other = userId ∧ ability.name = abilityName then isEnabled
        else info.isAbilityEnabled ability other := by
  unfold isAbilityEnabled
  rw [if_neg real, if_neg real, own]
  simp only [switched, Std.ExtTreeMap.getElem?_insert]
  by_cases same : other = userId
  · subst same
    rw [if_pos (by simp), found]
    simp only [contains_switchName nodup, true_and]
    split <;> simp
  · rw [if_neg, if_neg (by simp [same])]
    intro equal
    exact same (nameAndUserIdToKey_inj (Std.LawfulEqCmp.eq_of_compare equal)).2.symm

/-- The user whose switch has been set is there. -/
theorem isSome_getInnerBundleUserInfo_switched {user : InnerBundleUserInfo}
    (name : info.getBundleName = bundleName) :
    ((info.switched bundleName abilityName isEnabled userId
      user).getInnerBundleUserInfo userId).isSome = true := by
  have here : (info.switched bundleName abilityName isEnabled userId
      user).innerBundleUserInfos[nameAndUserIdToKey bundleName userId]?.isSome =
        true := by
    simp [switched]
  unfold getInnerBundleUserInfo
  split
  · rfl
  · split
    · obtain ⟨value, found⟩ := Option.isSome_iff_exists.mp here
      have member := Std.ExtTreeMap.mem_values.mpr ⟨_, found⟩
      rw [StringMap.begin?, List.isSome_head?]
      simpa using List.ne_nil_of_mem member
    · change (getElem? _ (nameAndUserIdToKey info.getBundleName
        userId)).isSome = true
      rw [name]
      exact here

end InnerBundleInfo

/-- A switch for every module, ability and user. -/
abbrev AbilitySwitches := String → String → Int32 → Bool

/-- All abilities are switched on. -/
def AbilitySwitches.allOn : AbilitySwitches := fun _ _ _ => true

/-- Set one switch. -/
def AbilitySwitches.set (switches : AbilitySwitches)
    (moduleName abilityName : String) (userId : Int32) (isEnabled : Bool) :
    AbilitySwitches := fun otherModule otherAbility otherUser =>
  if otherModule = moduleName ∧ otherAbility = abilityName ∧ otherUser = userId then
    isEnabled
  else switches otherModule otherAbility otherUser

/-- A call that switches an ability on or off, for a user or for the caller's. -/
structure SwitchCall where
  bundleName : String
  moduleName : String
  abilityName : String
  isEnabled : Bool
  userId : Int32
  callingUserId : Int32

namespace SwitchCall

variable (call : SwitchCall) (bundleName : String) (mgr : BundleDataMgr)

/-- The user a call is about. -/
def requestUserId : Int32 :=
  mgr.getUserId call.userId call.callingUserId

def run : Bool × BundleDataMgr :=
  mgr.setAbilityEnabled call.bundleName call.moduleName call.abilityName
    call.isEnabled call.userId call.callingUserId

/-- The ability of a bundle a call means. -/
def meant? (info : InnerBundleInfo) : Option AbilityInfo :=
  info.meantAbility? call.bundleName call.moduleName call.abilityName

/-- A call for an ability of the bundle that succeeds sets the switch of the
ability in its module. -/
def setSwitch (switches : AbilitySwitches) : AbilitySwitches :=
  if call.bundleName = bundleName ∧ (call.run mgr).1 = true then
    match (mgr.bundleInfos[bundleName]?).bind (call.meant? ·) with
    | none => switches
    | some ability =>
        switches.set ability.moduleName ability.name (call.requestUserId mgr)
          call.isEnabled
  else switches

/-- No other module of the bundle has an ability of the name, or its switch is
already as the call leaves it. -/
def IsHarmless : Prop :=
  call.bundleName = bundleName → ∀ info ability user,
    mgr.bundleInfos[bundleName]? = some info →
    call.meant? info = some ability →
    info.innerBundleUserInfos[nameAndUserIdToKey bundleName
      (call.requestUserId mgr)]? = some user →
    call.requestUserId mgr ≠ invalidUserId →
    call.requestUserId mgr ≠ notExistUserId →
    ∀ other ∈ info.baseAbilityInfos.values, other.bundleName = bundleName →
      other.name = ability.name → other.moduleName ≠ ability.moduleName →
        (ability.name ∈ user.bundleUserInfo.disabledAbilities ↔
          call.isEnabled = false)

end SwitchCall

/-- What the bundle answers for its abilities and its users is what the table
has. -/
def Agrees (bundleName : String) (mgr : BundleDataMgr)
    (switches : AbilitySwitches) : Prop :=
  ∀ info, mgr.bundleInfos[bundleName]? = some info →
    ∀ ability ∈ info.baseAbilityInfos.values, ability.bundleName = bundleName →
      ∀ userId, userId ≠ notExistUserId →
        info.innerBundleUserInfos.contains
          (nameAndUserIdToKey bundleName userId) = true →
        info.isAbilityEnabled ability userId =
          switches ability.moduleName ability.name userId

/-- The record is kept under its own name, and no name is switched off twice. -/
def IsOrderly (bundleName : String) (mgr : BundleDataMgr) : Prop :=
  ∀ info, mgr.bundleInfos[bundleName]? = some info →
    info.getBundleName = bundleName ∧
      ∀ (key : String) (user : InnerBundleUserInfo),
        info.innerBundleUserInfos[key]? = some user →
          user.bundleUserInfo.disabledAbilities.Nodup

namespace SwitchCall

variable {call : SwitchCall} {bundleName : String} {mgr : BundleDataMgr}
  {switches : AbilitySwitches}

/-- A call that does not succeed changes nothing, one that does sets the switch of
a user of the bundle. -/
theorem run_eq (named : ∀ info, mgr.bundleInfos[call.bundleName]? = some info →
      info.getBundleName = call.bundleName) :
    (call.run mgr = (false, mgr) ∧
      ∀ info ability user, mgr.bundleInfos[call.bundleName]? = some info →
        call.meant? info = some ability →
        info.innerBundleUserInfos[nameAndUserIdToKey call.bundleName
          (call.requestUserId mgr)]? = some user →
        call.requestUserId mgr = invalidUserId) ∨
      ∃ info ability user, mgr.bundleInfos[call.bundleName]? = some info ∧
        call.meant? info = some ability ∧
        info.innerBundleUserInfos[nameAndUserIdToKey call.bundleName
          (call.requestUserId mgr)]? = some user ∧
        call.requestUserId mgr ≠ invalidUserId ∧
        call.run mgr = (true, mgr.putInfo call.bundleName
          (info.switched call.bundleName call.abilityName call.isEnabled
            (call.requestUserId mgr) user)) := by
  have user : mgr.getUserId call.userId call.callingUserId =
      call.requestUserId mgr := rfl
  unfold run BundleDataMgr.setAbilityEnabled
  dsimp only
  rw [user]
  by_cases valid : call.requestUserId mgr = invalidUserId
  · rw [if_pos valid]
    exact .inl ⟨rfl, fun _ _ _ _ _ _ => valid⟩
  rw [if_neg valid]
  rcases stored : mgr.bundleInfos[call.bundleName]? with _ | info
  · exact .inl ⟨rfl, fun _ _ _ present => by cases present⟩
  simp only [InnerBundleInfo.setAbilityEnabled_eq]
  rcases meant : info.meantAbility? call.bundleName call.moduleName
    call.abilityName with _ | ability
  · refine .inl ⟨rfl, ?_⟩
    rintro _ ability user ⟨⟩ isMeant
    rw [meant?, meant] at isMeant
    cases isMeant
  rcases found : info.innerBundleUserInfos[nameAndUserIdToKey call.bundleName
    (call.requestUserId mgr)]? with _ | user
  · refine .inl ⟨rfl, ?_⟩
    rintro _ ability user ⟨⟩ - there
    rw [found] at there
    cases there
  · refine .inr ⟨info, ability, user, rfl, meant, found, valid, ?_⟩
    exact congrArg (·, _) (InnerBundleInfo.isSome_getInnerBundleUserInfo_switched
      (named info stored))

/-- What a call can do to a bundle: nothing, or change the list of one user. -/
theorem run_cases (orderly : IsOrderly bundleName mgr)
    (switches : AbilitySwitches) :
    ((call.run mgr).2.bundleInfos[bundleName]? = mgr.bundleInfos[bundleName]? ∧
        call.setSwitch bundleName mgr switches = switches ∧
        call.IsHarmless bundleName mgr) ∨
      ∃ info ability user, call.bundleName = bundleName ∧
        mgr.bundleInfos[bundleName]? = some info ∧
        call.meant? info = some ability ∧
        info.innerBundleUserInfos[nameAndUserIdToKey bundleName
          (call.requestUserId mgr)]? = some user ∧
        call.requestUserId mgr ≠ invalidUserId ∧
        call.setSwitch bundleName mgr switches =
          switches.set ability.moduleName ability.name (call.requestUserId mgr)
            call.isEnabled ∧
        (call.run mgr).2.bundleInfos[bundleName]? =
          some (info.switched bundleName ability.name call.isEnabled
            (call.requestUserId mgr) user) := by
  by_cases same : call.bundleName = bundleName
  · subst same
    rcases call.run_eq fun info present => (orderly info present).1 with
      ⟨unchanged, invalid⟩ | ⟨info, ability, user, stored, meant, found, valid, done⟩
    · refine .inl ⟨by rw [unchanged], by simp [setSwitch, unchanged], ?_⟩
      intro _ info ability user stored meant found valid
      exact absurd (invalid info ability user stored meant found) valid
    · refine .inr ⟨info, ability, user, rfl, stored, meant, found, valid, ?_, ?_⟩
      · simp [setSwitch, done, stored, meant]
      · rw [done, (InnerBundleInfo.of_meantAbility? meant).2.2]
        simp [BundleDataMgr.putInfo]
  · refine .inl ⟨?_, by simp [setSwitch, same], fun here => absurd here same⟩
    unfold run BundleDataMgr.setAbilityEnabled
    dsimp only
    split
    · rfl
    · split
      · rfl
      · split
        · rfl
        · simp [BundleDataMgr.putInfo, Std.ExtTreeMap.getElem?_insert, same]

/-- One call: the table is followed afterwards exactly if the call does not
touch the switch of another module. -/
theorem agrees_iff_isHarmless (orderly : IsOrderly bundleName mgr)
    (agrees : Agrees bundleName mgr switches) :
    Agrees bundleName (call.run mgr).2 (call.setSwitch bundleName mgr switches) ↔
      call.IsHarmless bundleName mgr := by
  rcases call.run_cases orderly switches with
    ⟨unchanged, sameSwitches, harmless⟩ |
    ⟨info, ability, user, rfl, stored, meant, found, valid, set, changed⟩
  · refine iff_of_true ?_ harmless
    rw [sameSwitches]
    intro info stored
    rw [unchanged] at stored
    exact agrees info stored
  · obtain ⟨-, -, name⟩ := InnerBundleInfo.of_meantAbility? meant
    have nodup := (orderly info stored).2 _ user found
    have before (other : AbilityInfo) (named : other.bundleName = call.bundleName)
        (real : call.requestUserId mgr ≠ notExistUserId) :
        info.isAbilityEnabled other (call.requestUserId mgr) =
          !user.bundleUserInfo.disabledAbilities.contains other.name := by
      rw [InnerBundleInfo.isAbilityEnabled, if_neg real, named, found]
    have isUser : info.innerBundleUserInfos.contains (nameAndUserIdToKey
        call.bundleName (call.requestUserId mgr)) = true := by
      rw [Std.ExtTreeMap.contains_eq_isSome_getElem?, found]
      rfl
    constructor
    · intro after _ record meantOne userInfo storedOne meantThis foundOne _ real
        other member named sameName otherModule
      rw [stored] at storedOne
      cases storedOne
      rw [meant] at meantThis
      cases meantThis
      rw [found] at foundOne
      cases foundOne
      have answered := after _ changed other member named _ real
        ((InnerBundleInfo.contains_switched _ found).trans isUser)
      have answeredBefore := agrees info stored other member named _ real isUser
      rw [InnerBundleInfo.isAbilityEnabled_switched found nodup named real,
        if_pos ⟨rfl, sameName⟩, set, AbilitySwitches.set,
        if_neg fun equal => otherModule equal.1, ← answeredBefore,
        before other named real, sameName] at answered
      rw [answered, Bool.not_eq_false', List.contains_iff_mem]
    · intro harmless record present other member named otherUser real there
      rw [changed] at present
      cases present
      rw [InnerBundleInfo.contains_switched _ found] at there
      rw [InnerBundleInfo.isAbilityEnabled_switched found nodup named real, set,
        AbilitySwitches.set]
      have answered := agrees info stored other member named otherUser real there
      by_cases touched : otherUser = call.requestUserId mgr ∧
          other.name = ability.name
      · obtain ⟨rfl, sameName⟩ := touched
        rw [if_pos ⟨rfl, sameName⟩]
        by_cases sameModule : other.moduleName = ability.moduleName
        · rw [if_pos ⟨sameModule, sameName, rfl⟩]
        · have already := harmless rfl info ability user stored meant found valid
            real other member named sameName sameModule
          rw [if_neg fun equal => sameModule equal.1, ← answered,
            before other named real, sameName]
          rw [← List.contains_iff_mem] at already
          cases isEnabled : call.isEnabled with
          | true => simpa [isEnabled] using already
          | false => simpa [isEnabled] using already
      · rw [if_neg touched, answered, if_neg]
        exact fun equal => touched ⟨equal.2.2, equal.2.1⟩

theorem isOrderly_run (orderly : IsOrderly bundleName mgr) :
    IsOrderly bundleName (call.run mgr).2 := by
  rcases call.run_cases orderly AbilitySwitches.allOn with
    ⟨unchanged, -, -⟩ | ⟨info, ability, user, rfl, stored, -, found, -, -, changed⟩
  · intro info stored
    rw [unchanged] at stored
    exact orderly info stored
  · intro after present
    rw [changed] at present
    cases present
    refine ⟨(orderly info stored).1, fun key other there => ?_⟩
    simp only [InnerBundleInfo.switched, Std.ExtTreeMap.getElem?_insert] at there
    split at there
    · cases there
      exact InnerBundleInfo.nodup_switchName ((orderly info stored).2 _ user found)
    · exact (orderly info stored).2 key other there

end SwitchCall

/-- The bundle answers what the table has, before every call and after the
last. -/
def FollowsSwitches (bundleName : String) :
    BundleDataMgr → AbilitySwitches → List SwitchCall → Prop
  | mgr, switches, [] => Agrees bundleName mgr switches
  | mgr, switches, call :: calls =>
      Agrees bundleName mgr switches ∧
        FollowsSwitches bundleName (call.run mgr).2
          (call.setSwitch bundleName mgr switches) calls

/-- Every call leaves the switches of other modules as they are. -/
def AreHarmless (bundleName : String) : BundleDataMgr → List SwitchCall → Prop
  | _, [] => True
  | mgr, call :: calls =>
      call.IsHarmless bundleName mgr ∧
        AreHarmless bundleName (call.run mgr).2 calls

theorem followsSwitches_iff {bundleName : String} {mgr : BundleDataMgr}
    {switches : AbilitySwitches} (orderly : IsOrderly bundleName mgr)
    (agrees : Agrees bundleName mgr switches) (calls : List SwitchCall) :
    FollowsSwitches bundleName mgr switches calls ↔
      AreHarmless bundleName mgr calls := by
  induction calls generalizing mgr switches with
  | nil => exact iff_of_true agrees trivial
  | cons call calls ih =>
      have step := @SwitchCall.agrees_iff_isHarmless call bundleName mgr switches
        orderly agrees
      have kept := @SwitchCall.isOrderly_run call bundleName mgr orderly
      constructor
      · rintro ⟨-, rest⟩
        have after : Agrees bundleName (call.run mgr).2
            (call.setSwitch bundleName mgr switches) := by
          cases calls with
          | nil => exact rest
          | cons next calls => exact rest.1
        exact ⟨step.mp after, (ih kept after).mp rest⟩
      · rintro ⟨harmless, rest⟩
        have after := step.mpr harmless
        exact ⟨agrees, (ih kept after).mpr rest⟩

/-- The record of a bundle is kept under its name, and none of its abilities is
switched off. -/
def StartsSwitchedOn (bundleName : String) (mgr : BundleDataMgr) : Prop :=
  ∀ info, mgr.bundleInfos[bundleName]? = some info →
    info.getBundleName = bundleName ∧
      ∀ (key : String) (user : InnerBundleUserInfo),
        info.innerBundleUserInfos[key]? = some user →
          user.bundleUserInfo.disabledAbilities = []

/-- Whatever calls are made, an ability answers the last value that was set for
its module, its name and the user, exactly if no call comes across an ability of
the same name in another module whose switch is not yet as the call leaves it. -/
theorem abilitySwitches_followed_iff {bundleName : String} {mgr : BundleDataMgr}
    (starts : StartsSwitchedOn bundleName mgr) (calls : List SwitchCall) :
    FollowsSwitches bundleName mgr .allOn calls ↔
      AreHarmless bundleName mgr calls := by
  apply followsSwitches_iff
  · intro info stored
    refine ⟨(starts info stored).1, fun key user found => ?_⟩
    rw [(starts info stored).2 key user found]
    exact List.nodup_nil
  · intro info stored ability _ named userId real there
    obtain ⟨user, found⟩ := Std.ExtTreeMap.exists_of_contains there
    rw [InnerBundleInfo.isAbilityEnabled, if_neg real, named, found]
    simp [(starts info stored).2 _ user found, AbilitySwitches.allOn]

/-- A bundle with two modules that have an ability of the same name. -/
def twoModulesInfo : InnerBundleInfo :=
  let ability (moduleName : String) : AbilityInfo := { ({} : AbilityInfo) with
    bundleName := "com.example.demo"
    moduleName := moduleName
    name := "MainAbility" }
  { ({} : InnerBundleInfo) with
    baseApplicationInfo := { bundleName := "com.example.demo" }
    baseAbilityInfos := Std.ExtTreeMap.ofList [
      ("com.example.demo.entry.MainAbility", ability "entry"),
      ("com.example.demo.feature.MainAbility", ability "feature")]
    innerBundleUserInfos := (∅ : StringMap InnerBundleUserInfo).insert
      "com.example.demo_100" { bundleUserInfo := { userId := 100 } } }

def twoModules : BundleDataMgr :=
  { bundleInfos := (∅ : StringMap InnerBundleInfo).insert "com.example.demo"
      twoModulesInfo
    multiUserIdsSet := (∅ : Std.ExtTreeSet Int32).insert 100 }

theorem abilitySwitches_followed_iff_twoModules :
    FollowsSwitches "com.example.demo" twoModules .allOn
        [⟨"com.example.demo", "entry", "MainAbility", true, 100, 100⟩] ↔
      AreHarmless "com.example.demo" twoModules
        [⟨"com.example.demo", "entry", "MainAbility", true, 100, 100⟩] := by
  apply abilitySwitches_followed_iff
  intro info stored
  have same : twoModulesInfo = info := by simpa [twoModules] using stored
  subst same
  refine ⟨rfl, fun key user found => ?_⟩
  simp only [twoModulesInfo, Std.ExtTreeMap.getElem?_insert] at found
  split at found
  · cases found
    rfl
  · simp at found

/-- Switching the ability of one module off switches that of the other off. -/
theorem twoModules_share_a_switch :
    ¬FollowsSwitches "com.example.demo" twoModules .allOn
        [⟨"com.example.demo", "feature", "MainAbility", false, 100, 100⟩] := by
  rintro ⟨-, after⟩
  generalize same : SwitchCall.mk "com.example.demo" "feature" "MainAbility" false
    100 100 = call at after
  have answered : ((call.run twoModules).2.bundleInfos["com.example.demo"]?.any
      fun info => info.baseAbilityInfos.values.any fun ability =>
        ability.bundleName = "com.example.demo" && ability.moduleName = "entry" &&
          ability.name = "MainAbility" && !info.isAbilityEnabled ability 100 &&
          info.innerBundleUserInfos.contains "com.example.demo_100") = true := by
    rw [← same]
    decide +kernel
  have untouched : call.setSwitch "com.example.demo" twoModules .allOn "entry"
      "MainAbility" 100 = true := by
    rw [← same]
    decide +kernel
  obtain ⟨info, stored, abilities⟩ := (Option.any_eq_true _ _).mp answered
  obtain ⟨ability, member, answers⟩ := List.any_eq_true.mp abilities
  simp only [Bool.and_eq_true, decide_eq_true_eq] at answers
  obtain ⟨⟨⟨⟨bundle, module⟩, name⟩, off⟩, there⟩ := answers
  have follows := after info stored ability member bundle 100 (by decide) there
  rw [module, name, untouched] at follows
  simp [follows] at off

end AppExecFwk
