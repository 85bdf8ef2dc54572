import AppExecFwk.Library.StableList
import AppExecFwk.Query.BundleInfoQueries
import AppExecFwk.Query.SkillMatch
import AppExecFwk.Store.BundleDataMgr

/-!
# Querying abilities

The queries of `BundleDataMgr` for abilities.  A want that names a bundle and an
ability is looked up; any other is matched with the skills of every ability of
the bundle it names, or of all bundles.  A query reads the store under its lock,
so it is a function of the store.  Where the source reports failure and leaves
its output as it was, a look-up returns `none`; an implicit query returns its
return value and the list.
-/

namespace AppExecFwk

namespace BundleDataMgr

variable (mgr : BundleDataMgr)

/-- The record of a bundle, if it may be seen: the bundle is not being changed,
and it is enabled for the user that answers or the flags ask for disabled
applications. -/
def getInnerBundleInfoWithFlags (bundleName : String)
    (flags userId callingUserId : Int32) : Option InnerBundleInfo :=
  let requestUserId := mgr.getUserId userId callingUserId
  if requestUserId = invalidUserId then none
  else
    match mgr.bundleInfos[bundleName]? with
    | none => none
    | some info =>
        if info.isDisabled then none
        else if !anyFlag flags ApplicationFlag.getApplicationInfoWithDisable &&
            !info.getApplicationEnabled
              (info.getResponseUserId requestUserId) then none
        else some info

/-- A record may be seen. -/
theorem getInnerBundleInfoWithFlags_eq_some {bundleName : String}
    {flags userId callingUserId : Int32} {info : InnerBundleInfo} :
    mgr.getInnerBundleInfoWithFlags bundleName flags userId callingUserId =
        some info ↔
      mgr.getUserId userId callingUserId ≠ invalidUserId ∧
        mgr.bundleInfos[bundleName]? = some info ∧
        info.isDisabled = false ∧
        (anyFlag flags ApplicationFlag.getApplicationInfoWithDisable = true ∨
          info.getApplicationEnabled (info.getResponseUserId
            (mgr.getUserId userId callingUserId)) = true) := by
  unfold getInnerBundleInfoWithFlags
  by_cases invalid : mgr.getUserId userId callingUserId = invalidUserId
  · simp [invalid]
  · simp only [invalid, ↓reduceIte, ne_eq, not_false_eq_true, true_and]
    cases stored : mgr.bundleInfos[bundleName]? with
    | none => simp
    | some record =>
        simp only [Option.some.injEq]
        constructor
        · intro found
          split at found
          · cases found
          · next usable =>
              split at found
              · cases found
              · next shown =>
                  cases found
                  refine ⟨rfl, by simpa using usable, ?_⟩
                  rw [or_iff_not_imp_left]
                  simpa using shown
        · rintro ⟨rfl, usable, shown⟩
          rw [if_neg (by simp [usable]), if_neg]
          rcases shown with shown | shown <;> simp [shown]

section Explicit

/-- Take out what the flags do not ask for. -/
def withRequestedParts (flags : Int32) (ability : AbilityInfo) : AbilityInfo :=
  { ability with
    permissions :=
      if hasFlag flags AbilityInfoFlag.getAbilityInfoWithPermission then
        ability.permissions
      else []
    metaData :=
      if hasFlag flags AbilityInfoFlag.getAbilityInfoWithMetadata then
        ability.metaData
      else { ability.metaData with customizeData := [] }
    metadata :=
      if hasFlag flags AbilityInfoFlag.getAbilityInfoWithMetadata then
        ability.metadata
      else [] }

/-- Whether the flags keep a bundle back because it is not a system
application. -/
def systemAppFilter (flags : Int32) (info : InnerBundleInfo) : Bool :=
  !hasFlag flags AbilityInfoFlag.getAbilityInfoSystemappOnly || info.isSystemApp

def explicitQueryAbilityInfo (bundleName moduleName abilityName : String)
    (flags userId callingUserId : Int32) : Option AbilityInfo :=
  let requestUserId := mgr.getUserId userId callingUserId
  if requestUserId = invalidUserId then none
  else
    match mgr.getInnerBundleInfoWithFlags bundleName flags requestUserId
        callingUserId with
    | none => none
    | some info =>
        let responseUserId := info.getResponseUserId requestUserId
        match info.findAbilityInfo bundleName moduleName abilityName
            responseUserId with
        | none => none
        | some ability =>
            if !systemAppFilter flags info then none
            else if
                !anyFlag flags AbilityInfoFlag.getAbilityInfoWithDisable &&
                  !info.isAbilityEnabled ability responseUserId then none
            else
              let ability := withRequestedParts flags ability
              if hasFlag flags
                  AbilityInfoFlag.getAbilityInfoWithApplication then
                some { ability with
                  applicationInfo := info.getApplicationInfo
                    ApplicationFlag.getBasicApplicationInfo responseUserId
                    ability.applicationInfo }
              else some ability

end Explicit

section Implicit

variable (regexMatch : String → String → Bool) (want : QueryWant)

/-- What an implicit query hands out about an ability. -/
def matchedAbility (flags : Int32) (info : InnerBundleInfo) (userId : Int32)
    (ability : AbilityInfo) : AbilityInfo :=
  let ability :=
    if hasFlag flags AbilityInfoFlag.getAbilityInfoWithApplication then
      { ability with
        applicationInfo := info.getApplicationInfo
          ApplicationFlag.getBasicApplicationInfo userId
          ability.applicationInfo }
    else ability
  withRequestedParts flags ability

/-- The loop over the skills of one ability: the first skill that matches adds
the ability, unless the ability is disabled, and then the loop goes on. -/
def addFirstMatch (flags : Int32) (info : InnerBundleInfo)
    (userId callingUserId : Int32) (ability : AbilityInfo)
    (abilityInfos : List AbilityInfo) : List Skill → List AbilityInfo
  | [] => abilityInfos
  | skill :: rest =>
      if skill.matchWant regexMatch want then
        if !anyFlag flags AbilityInfoFlag.getAbilityInfoWithDisable &&
            !info.isAbilityEnabled ability
              (mgr.getUserId userId callingUserId) then
          addFirstMatch flags info userId callingUserId ability abilityInfos rest
        else abilityInfos ++ [matchedAbility flags info userId ability]
      else addFirstMatch flags info userId callingUserId ability abilityInfos rest

/-- The abilities of a bundle that match, added to `abilityInfos`. -/
def getMatchAbilityInfos (flags : Int32) (info : InnerBundleInfo)
    (userId callingUserId : Int32) (abilityInfos : List AbilityInfo) :
    List AbilityInfo :=
  if !systemAppFilter flags info then abilityInfos
  else
    info.baseAbilityInfos.toList.foldl
      (fun found entry =>
        match info.skillInfos[entry.1]? with
        | none => found
        | some skills =>
            mgr.addFirstMatch regexMatch want flags info userId callingUserId
              entry.2 found skills)
      abilityInfos

/-- The body of the loop over all bundles: one that may not be seen is left
out. -/
def addMatchesOf (flags requestUserId callingUserId : Int32)
    (abilityInfos : List AbilityInfo) (bundleName : String) :
    List AbilityInfo :=
  match mgr.getInnerBundleInfoWithFlags bundleName flags requestUserId
      callingUserId with
  | none => abilityInfos
  | some info =>
      mgr.getMatchAbilityInfos regexMatch want flags info
        (info.getResponseUserId requestUserId) callingUserId abilityInfos

def filterAbilityInfosByModuleName (moduleName : String)
    (abilityInfos : List AbilityInfo) : List AbilityInfo :=
  if moduleName = "" then abilityInfos
  else abilityInfos.filter (·.moduleName = moduleName)

/-- `stable_sort` by descending priority. -/
def sortByPriority (abilityInfos : List AbilityInfo) : List AbilityInfo :=
  if 1 < abilityInfos.length then
    abilityInfos.mergeSort fun first second =>
      !decide (second.priority > first.priority)
  else abilityInfos

def implicitQueryAbilityInfos (flags userId callingUserId : Int32) :
    Bool × List AbilityInfo :=
  let requestUserId := mgr.getUserId userId callingUserId
  let bundleName := want.element.bundleName
  if requestUserId = invalidUserId then (false, [])
  else if !want.hasParam then (false, [])
  else if mgr.bundleInfos.isEmpty then (false, [])
  else if bundleName ≠ "" then
    match mgr.getInnerBundleInfoWithFlags bundleName flags requestUserId
        callingUserId with
    | none => (false, [])
    | some info =>
        let matched := mgr.getMatchAbilityInfos regexMatch want flags info
          (info.getResponseUserId requestUserId) callingUserId []
        (true, sortByPriority
          (filterAbilityInfosByModuleName want.element.moduleName matched))
  else
    let matched := mgr.bundleInfos.toList.foldl
      (fun found entry =>
        mgr.addMatchesOf regexMatch want flags requestUserId callingUserId found
          entry.1) []
    (true, sortByPriority matched)

end Implicit

section Queries

variable (regexMatch : String → String → Bool) (want : QueryWant)

def queryAbilityInfos (flags userId callingUserId : Int32) :
    Bool × List AbilityInfo :=
  let requestUserId := mgr.getUserId userId callingUserId
  let element := want.element
  if requestUserId = invalidUserId then (false, [])
  else if element.bundleName ≠ "" && element.abilityName ≠ "" then
    match mgr.explicitQueryAbilityInfo element.bundleName element.moduleName
        element.abilityName flags requestUserId callingUserId with
    | none => (false, [])
    | some ability => (true, [ability])
  else
    let found := mgr.implicitQueryAbilityInfos regexMatch want flags
      requestUserId callingUserId
    (found.1 && !found.2.isEmpty, found.2)

def queryAbilityInfo (flags userId callingUserId : Int32) :
    Option AbilityInfo :=
  let requestUserId := mgr.getUserId userId callingUserId
  let element := want.element
  if requestUserId = invalidUserId then none
  else if element.bundleName ≠ "" && element.abilityName ≠ "" then
    mgr.explicitQueryAbilityInfo element.bundleName element.moduleName
      element.abilityName flags requestUserId callingUserId
  else
    let found := mgr.implicitQueryAbilityInfos regexMatch want flags
      requestUserId callingUserId
    if found.1 then found.2.head? else none

end Queries

end BundleDataMgr

end AppExecFwk
