import AppExecFwk.Library.OrderedMap
import AppExecFwk.Library.Runs
import AppExecFwk.Permission.InstalledBundle
import AppExecFwk.Permission.TokenTable

/-!
# Stale privileges

In every run the tokens of a bundle request exactly what the bundle requests.
What they have been granted is within the privileges of the bundle as long as
every step of the installer checks it; the permission manager checks only what
is new, so a version that comes with less privilege leaves the tokens what they
had.
-/

namespace AppExecFwk

open BundlePermissionMgr

variable {Store : Type} {kit : AccessTokenKit Store}
  {defaultPermissions : StringMap (StringMap Bool)}

section Loop

variable (kit) (info : InnerBundleInfo) (oldNames dropStates : List String)

/-- What a bundle requests that was not requested before. -/
def freshNames : List String :=
  info.requestNames.filter (· ∉ oldNames)

/-- What is new in a version may be granted to it. -/
def FreshArePassed (store : Store) : Prop :=
  ∀ name ∈ freshNames info oldNames, IsGrantable kit store info name

/-- A version has been handed to some tokens, and what is new in it has been
granted. -/
structure HandedTo (tokens : List UInt32) (before after : Store) : Prop where
  handed : ∀ tokenId ∈ tokens, ∀ held, HoldsStates kit tokenId before held →
      (held.map (·.permissionName)).Perm oldNames →
        ∃ changed, HoldsStates kit tokenId after changed ∧
          (changed.map (·.permissionName)).Perm
            ((oldNames ++ freshNames info oldNames).filter (· ∉ dropStates)) ∧
          ∀ state ∈ changed, state.isGranted = true →
            state ∈ held ∨ state.permissionName ∈ freshNames info oldNames
  others : ∀ tokenId, tokenId ∉ tokens → ∀ states,
    HoldsStates kit tokenId before states → HoldsStates kit tokenId after states
  defs : ∀ name, ∀ permDef ∈ kit.getDefPermission name after,
    permDef ∈ possibleDefs kit before info name
  checked : tokens ≠ [] ∨ FreshArePassed kit info oldNames before →
    FreshArePassed kit info oldNames after

variable {kit info oldNames dropStates} {tokenId : UInt32}
  {tokens : List UInt32} {before after later : Store} {dropDefs : List String}

theorem mem_possibleDefs {name : String} {permDef : PermissionDef} :
    permDef ∈ possibleDefs kit before info name ↔
      kit.getDefPermission name before = some permDef ∨
        permDef ∈ getPermissionDefList info ∧ permDef.permissionName = name := by
  simp [possibleDefs]

namespace HandedTo

theorem nil : HandedTo kit info oldNames dropStates [] before before where
  handed := fun _ member => nomatch member
  others := fun _ _ _ holds => holds
  defs := by
    intro name permDef defined
    exact mem_possibleDefs.mpr (.inl defined)
  checked := by
    rintro (present | passed)
    · exact absurd rfl present
    · exact passed

theorem cons (apart : tokenId ∉ tokens)
    (first : HandedTo kit info oldNames dropStates [tokenId] before after)
    (rest : HandedTo kit info oldNames dropStates tokens after later) :
    HandedTo kit info oldNames dropStates (tokenId :: tokens) before later where
  handed := by
    intro other member held holds requested
    rcases List.mem_cons.mp member with rfl | inRest
    · obtain ⟨changed, holds, described⟩ :=
        first.handed other List.mem_cons_self held holds requested
      exact ⟨changed, rest.others other apart _ holds, described⟩
    · have different : other ∉ [tokenId] := by
        rw [List.mem_singleton]
        rintro rfl
        exact apart inRest
      exact rest.handed other inRest held
        (first.others other different _ holds) requested
  others := by
    intro other absent states holds
    rw [List.mem_cons, not_or] at absent
    apply rest.others other absent.2
    exact first.others other (by simpa using absent.1) states holds
  defs := by
    intro name permDef defined
    rcases mem_possibleDefs.mp (rest.defs name permDef defined) with
      before | brought
    · exact first.defs name permDef before
    · exact mem_possibleDefs.mpr (.inr brought)
  checked := by
    intro _
    exact rest.checked (.inr (first.checked (.inl (by simp))))

end HandedTo

variable (keeps : kit.KeepsLists)
include keeps

/-- One token is handed a version and granted what is new. -/
theorem handedTo_one {fresh : List String} {held : List PermissionStateFull}
    (found : getAllReqPermissionStateFull kit tokenId before = some held)
    (requested : (held.map (·.permissionName)).Perm oldNames)
    (distinct : oldNames.Nodup)
    (handed : handOver kit tokenId before dropDefs dropStates info =
      some (after, fresh))
    (granted : grantRequestPermissions kit defaultPermissions info fresh tokenId
      after = some later) :
    HandedTo kit info oldNames dropStates [tokenId] before later := by
  obtain ⟨hands, rfl, changed, answer, sameNames, origin⟩ :=
    handOver_spec keeps found (requested.nodup_iff.mpr distinct) handed
  have freshNames_eq : info.requestNames.filter
      (· ∉ held.map (·.permissionName)) = freshNames info oldNames := by
    apply List.filter_congr
    intro name _
    simp only [requested.mem_iff]
  rw [freshNames_eq] at sameNames granted
  have subset : freshNames info oldNames ⊆ info.requestNames :=
    fun _ member => List.mem_of_mem_filter member
  obtain ⟨grants, passed⟩ := grantRequestPermissions_spec keeps subset granted
  constructor
  case handed =>
    rintro other member states ⟨held', found', same⟩ _
    obtain rfl := List.mem_singleton.mp member
    obtain rfl : held = held' := Option.some.inj (found.symm.trans found')
    obtain ⟨final, answer', sameNames', origin'⟩ := grants.states changed answer
    have names := (sameNames'.trans sameNames).trans
      ((requested.append_right _).filter _)
    refine ⟨final, ⟨final, answer', .refl _⟩, names,
      fun state member isGranted => ?_⟩
    rcases origin' state member with kept | new
    · rcases origin state kept with kept | notGranted
      · exact .inl (same.subset kept)
      · rw [notGranted] at isGranted
        nomatch isGranted
    · exact .inr new
  case others =>
    intro other absent states holds
    have different : other ≠ tokenId := by simpa using absent
    exact grants.others other different _ (hands.others other different _ holds)
  case defs =>
    intro name permDef defined
    rw [Option.mem_def, grants.defs] at defined
    exact mem_possibleDefs.mpr (hands.defs name permDef defined)
  case checked =>
    intro _ name member permDef defined
    rw [Option.mem_def, grants.defs] at defined
    exact passed name member permDef defined

/-- The tokens of some users are handed a version one after another. -/
theorem handedTo_changeTokens {users : List (String × InnerBundleUserInfo)}
    (distinct : oldNames.Nodup)
    (apart : ((users.map (·.2.accessTokenId)).filter (· ≠ 0)).Nodup)
    (holds : ∀ tokenId ∈ (users.map (·.2.accessTokenId)).filter (· ≠ 0),
      ∃ held, HoldsStates kit tokenId before held ∧
        (held.map (·.permissionName)).Perm oldNames)
    (changed : InstalledBundle.changeTokens kit defaultPermissions info
      (fun tokenId store => handOver kit tokenId store dropDefs dropStates info)
      users before = some after) :
    HandedTo kit info oldNames dropStates
      ((users.map (·.2.accessTokenId)).filter (· ≠ 0)) before after := by
  induction users generalizing before with
  | nil =>
      obtain rfl := Option.some.inj changed
      exact .nil
  | cons entry rest ih =>
      obtain ⟨key, user⟩ := entry
      rw [InstalledBundle.changeTokens] at changed
      by_cases unset : user.accessTokenId = 0
      · rw [if_pos unset] at changed
        rw [List.map_cons, List.filter_cons_of_neg (by simpa using unset)]
          at apart holds ⊢
        exact ih apart holds changed
      · rw [if_neg unset] at changed
        rw [List.map_cons, List.filter_cons_of_pos (by simpa using unset)]
          at apart holds ⊢
        obtain ⟨absent, apart⟩ := List.nodup_cons.mp apart
        obtain ⟨⟨middle, fresh⟩, handed, changed⟩ :=
          Option.bind_eq_some_iff.mp changed
        obtain ⟨store, granted, changed⟩ :=
          Option.bind_eq_some_iff.mp changed
        obtain ⟨states, ⟨held, found, same⟩, requested⟩ :=
          holds _ List.mem_cons_self
        have first := handedTo_one keeps found
          ((same.map _).trans requested) distinct handed granted
        apply first.cons absent
        apply ih apart _ changed
        intro other member
        have different : other ∉ [user.accessTokenId] := by
          rw [List.mem_singleton]
          rintro rfl
          exact absent member
        obtain ⟨held, holdsOther, requested⟩ :=
          holds other (List.mem_cons_of_mem _ member)
        exact ⟨held, first.others other different _ holdsOther, requested⟩

end Loop

section Records

variable {info oldInfo newInfo : InnerBundleInfo} {userId : Int32}
  {tokenId : UInt32} {packageVec : List String}

@[simp]
theorem InnerBundleInfo.tokens_removeModuleInfo (package : String) :
    (info.removeModuleInfo package).tokens = info.tokens := by
  rw [InnerBundleInfo.removeModuleInfo]
  cases info.innerModuleInfos[package]? <;> rfl

theorem InnerBundleInfo.tokens_withoutLowerVersions :
    (info.withoutLowerVersions packageVec).tokens = info.tokens := by
  rw [InnerBundleInfo.withoutLowerVersions]
  induction info.getModuleNameVec.filter (· ∉ packageVec) generalizing info with
  | nil => rfl
  | cons package rest ih =>
      rw [List.foldl_cons, ih]
      exact info.tokens_removeModuleInfo package

theorem InnerBundleInfo.tokens_updateModuleInfo :
    (oldInfo.updateModuleInfo newInfo).tokens = oldInfo.tokens := by
  rw [InnerBundleInfo.updateModuleInfo]
  split
  · rfl
  · exact oldInfo.tokens_removeModuleInfo newInfo.currentPackage

theorem InnerBundleInfo.tokens_setAppPrivilegeLevel (level : String) :
    (info.setAppPrivilegeLevel level).tokens = info.tokens := by
  rw [InnerBundleInfo.setAppPrivilegeLevel]
  split <;> rfl

theorem tokens_withUpdatedModule :
    (BundleDataMgr.withUpdatedModule newInfo oldInfo).tokens =
      oldInfo.tokens := by
  unfold BundleDataMgr.withUpdatedModule
  apply InnerBundleInfo.tokens_updateModuleInfo.trans
  split
  · exact InnerBundleInfo.tokens_setAppPrivilegeLevel _
  · rfl

theorem tokens_withNewModule :
    (BundleDataMgr.withNewModule newInfo oldInfo).tokens = oldInfo.tokens := by
  unfold BundleDataMgr.withNewModule
  have added (info : InnerBundleInfo) :
      (info.addModuleInfo newInfo).tokens = info.tokens := by
    rw [InnerBundleInfo.addModuleInfo]
    split
    · rfl
    · split <;> rfl
  apply (added _).trans
  split
  · exact InnerBundleInfo.tokens_setAppPrivilegeLevel _
  · rfl

theorem innerModuleInfos_withNewModule
    (named : newInfo.currentPackage ≠ "")
    (absent : oldInfo.findModule newInfo.currentPackage = false) :
    (BundleDataMgr.withNewModule newInfo oldInfo).innerModuleInfos =
      oldInfo.innerModuleInfos.addNew newInfo.innerModuleInfos := by
  have added (info : InnerBundleInfo)
      (same : info.innerModuleInfos = oldInfo.innerModuleInfos) :
      (info.addModuleInfo newInfo).innerModuleInfos =
        oldInfo.innerModuleInfos.addNew newInfo.innerModuleInfos := by
    have notThere : info.findModule newInfo.currentPackage = false := by
      rw [← absent, InnerBundleInfo.findModule, same]
      rfl
    rw [InnerBundleInfo.addModuleInfo, if_neg named, notThere, ← same]
    rfl
  apply added
  split
  · rw [InnerBundleInfo.setAppPrivilegeLevel]
    split <;> rfl
  · rfl

/-- A bundle to which a module has been added requests what it requested and
what the module requests. -/
theorem mem_requestNames_withNewModule {name : String}
    (named : newInfo.currentPackage ≠ "")
    (absent : oldInfo.findModule newInfo.currentPackage = false)
    (single : newInfo.getModuleNameVec = [newInfo.currentPackage]) :
    name ∈ (BundleDataMgr.withNewModule newInfo oldInfo).requestNames ↔
      name ∈ oldInfo.requestNames ∨ name ∈ newInfo.requestNames := by
  have lookup (key : String) :
      (oldInfo.innerModuleInfos.addNew newInfo.innerModuleInfos)[key]? =
        oldInfo.innerModuleInfos[key]?.or newInfo.innerModuleInfos[key]? :=
    Std.ExtTreeMap.getElem?_union
  rw [InnerBundleInfo.mem_requestNames, InnerBundleInfo.mem_requestNames,
    InnerBundleInfo.mem_requestNames,
    innerModuleInfos_withNewModule named absent]
  constructor
  · rintro ⟨key, part, found, requested⟩
    rw [lookup, Option.or_eq_some_iff] at found
    rcases found with inOld | ⟨-, inNew⟩
    · exact .inl ⟨key, part, inOld, requested⟩
    · exact .inr ⟨key, part, inNew, requested⟩
  · rintro (⟨key, part, found, requested⟩ | ⟨key, part, found, requested⟩)
    · refine ⟨key, part, ?_, requested⟩
      rw [lookup, found]
      rfl
    · refine ⟨key, part, ?_, requested⟩
      have isKey : key ∈ newInfo.getModuleNameVec := by
        rw [InnerBundleInfo.getModuleNameVec, Std.ExtTreeMap.mem_keys]
        exact Std.ExtTreeMap.mem_iff_isSome_getElem?.mpr (by simp [found])
      obtain rfl : key = newInfo.currentPackage := by
        simpa [single] using isKey
      have notThere : oldInfo.innerModuleInfos[newInfo.currentPackage]? =
          none := by
        rw [InnerBundleInfo.findModule,
          Std.ExtTreeMap.contains_eq_isSome_getElem?] at absent
        exact Option.isSome_eq_false_iff.mp absent |> Option.isNone_iff_eq_none.mp
      rw [lookup, notThere, found]
      rfl

theorem userInfo_of_not_hasInnerBundleUserInfo
    (absent : info.hasInnerBundleUserInfo userId = false) :
    info.innerBundleUserInfos[nameAndUserIdToKey info.getBundleName userId]? =
      none := by
  rw [InnerBundleInfo.hasInnerBundleUserInfo] at absent
  split at absent
  · have empty : info.innerBundleUserInfos = ∅ := by
      rw [← Std.ExtTreeMap.isEmpty_iff]
      simpa using absent
    rw [empty]
    exact Std.ExtTreeMap.getElem?_empty
  · rw [Std.ExtTreeMap.contains_eq_isSome_getElem?] at absent
    exact Option.isNone_iff_eq_none.mp (Option.isSome_eq_false_iff.mp absent)

/-- The new user of a record has the new token, the others have theirs. -/
theorem tokens_setAccessTokenId (tokenId : UInt32)
    (absent : info.innerBundleUserInfos[nameAndUserIdToKey info.getBundleName
      userId]? = none) :
    ((info.addInnerBundleUserInfo (BaseBundleInstaller.newUserInfo
      info.getBundleName userId)).setAccessTokenId tokenId userId).tokens.Perm
        ((if tokenId = 0 then [] else [tokenId]) ++ info.tokens) := by
  have users : ((info.addInnerBundleUserInfo (BaseBundleInstaller.newUserInfo
      info.getBundleName userId)).setAccessTokenId tokenId
        userId).innerBundleUserInfos =
      info.innerBundleUserInfos.insert
        (nameAndUserIdToKey info.getBundleName userId)
        { BaseBundleInstaller.newUserInfo info.getBundleName userId with
          accessTokenId := tokenId } := by
    apply (Std.ExtTreeMap.modify_eq_insert
      Std.ExtTreeMap.getElem?_insert_self).trans
    have sameUser : (BaseBundleInstaller.newUserInfo info.getBundleName
      userId).bundleUserInfo.userId = userId := rfl
    apply Std.ExtTreeMap.ext_getElem?
    intro other
    simp only [Std.ExtTreeMap.getElem?_insert, sameUser]
    split <;> rfl
  rw [InnerBundleInfo.tokens, users]
  apply (((Std.ExtTreeMap.toList_insert_perm absent).map
    (·.2.accessTokenId)).filter (· ≠ 0)).trans
  by_cases unset : tokenId = 0
  · rw [List.map_cons, List.filter_cons_of_neg (by simpa using unset),
      if_pos unset]
    exact .refl _
  · rw [List.map_cons, List.filter_cons_of_pos (by simpa using unset),
      if_neg unset]
    exact .refl _

end Records

section Steps

variable (kit) in
/-- The tokens of a bundle are different ones, and each requests exactly what
the bundle requests. -/
structure HoldsRequests (store : Store) (info : InnerBundleInfo) : Prop where
  apart : info.tokens.Nodup
  held : ∀ tokenId ∈ info.tokens,
    ∃ held, HoldsStates kit tokenId store held ∧
      (held.map (·.permissionName)).Perm info.requestNames

variable {info oldInfo brought newInfo : InnerBundleInfo}
  {before after : Store} {userId : Int32} {dropStates : List String}

theorem HoldsRequests.hasRequestedOnly (holds : HoldsRequests kit before info) :
    HasRequestedOnly kit before info := by
  intro tokenId member held found state inHeld
  obtain ⟨states, ⟨known, found', same⟩, requested⟩ :=
    holds.held tokenId member
  obtain rfl : known = held := Option.some.inj (found'.symm.trans found)
  exact requested.subset (List.mem_map_of_mem (same.subset inHeld))

theorem HandedTo.holdsRequests (holds : HoldsRequests kit before oldInfo)
    (handed : HandedTo kit brought oldInfo.requestNames dropStates
      oldInfo.tokens before after)
    (sameTokens : newInfo.tokens = oldInfo.tokens)
    (names : ((oldInfo.requestNames ++ freshNames brought
      oldInfo.requestNames).filter (· ∉ dropStates)).Perm newInfo.requestNames) :
    HoldsRequests kit after newInfo where
  apart := sameTokens ▸ holds.apart
  held := by
    rw [sameTokens]
    intro tokenId member
    obtain ⟨held, holds, requested⟩ := holds.held tokenId member
    obtain ⟨changed, answer, sameNames, -⟩ :=
      handed.handed tokenId member held holds requested
    exact ⟨changed, answer, sameNames.trans names⟩

/-- What is kept was checked before the step, what is new in it. -/
theorem HandedTo.hasGrantableOnly (holds : HoldsRequests kit before oldInfo)
    (handed : HandedTo kit brought oldInfo.requestNames dropStates
      oldInfo.tokens before after)
    (sameTokens : newInfo.tokens = oldInfo.tokens)
    (kept : KeptArePassed kit before oldInfo brought newInfo)
    (added : AddedArePassed kit before oldInfo brought newInfo) :
    HasGrantableOnly kit after newInfo := by
  intro tokenId member final found state inFinal isGranted requested permDef
    defined
  rw [sameTokens] at member
  obtain ⟨states, ⟨held, found', same⟩, requested'⟩ :=
    holds.held tokenId member
  obtain ⟨changed, ⟨answered, answer, sameFinal⟩, -, origin⟩ :=
    handed.handed tokenId member held ⟨held, found', .refl _⟩
      ((same.map _).trans requested')
  obtain rfl : answered = final := Option.some.inj (answer.symm.trans found)
  have possible := handed.defs _ permDef defined
  rcases origin state (sameFinal.subset inFinal) isGranted with
    wasHeld | fresh
  · exact kept tokenId member held found' state wasHeld isGranted requested
      permDef possible
  · have passed : FreshArePassed kit brought oldInfo.requestNames after :=
      handed.checked (.inl (List.ne_nil_of_mem member))
    have isNew := List.mem_filter.mp fresh
    exact added _ isNew.1 (of_decide_eq_true isNew.2) permDef possible
      (passed _ fresh permDef defined)

theorem AddedArePassed.refl : AddedArePassed kit before oldInfo newInfo newInfo :=
  fun _ _ _ _ _ passed => passed

theorem nodup_append_freshNames : (oldInfo.requestNames ++
    freshNames brought oldInfo.requestNames).Nodup := by
  apply oldInfo.nodup_requestNames.append (brought.nodup_requestNames.filter _)
  intro name inOld inFresh
  exact of_decide_eq_true (List.mem_filter.mp inFresh).2 inOld

/-- The names a token has once a version has taken the place of another. -/
theorem names_update : ((oldInfo.requestNames ++ freshNames newInfo
    oldInfo.requestNames).filter
      (· ∉ getNeedDeleteRequestPermissionName oldInfo newInfo)).Perm
    newInfo.requestNames := by
  rw [List.perm_ext_iff_of_nodup (nodup_append_freshNames.filter _)
    newInfo.nodup_requestNames]
  intro name
  simp only [getNeedDeleteRequestPermissionName, getNeedDeleteNames, freshNames,
    List.mem_filter, List.mem_append, decide_eq_true_eq, Bool.not_eq_true',
    List.contains_eq_mem, decide_eq_false_iff_not]
  tauto

/-- The names a token has once a module has been added. -/
theorem names_add (named : brought.currentPackage ≠ "")
    (absent : oldInfo.findModule brought.currentPackage = false)
    (single : brought.getModuleNameVec = [brought.currentPackage]) :
    ((oldInfo.requestNames ++ freshNames brought
      oldInfo.requestNames).filter (· ∉ ([] : List String))).Perm
        (BundleDataMgr.withNewModule brought oldInfo).requestNames := by
  rw [List.perm_ext_iff_of_nodup (nodup_append_freshNames.filter _)
    (BundleDataMgr.withNewModule brought oldInfo).nodup_requestNames]
  intro name
  rw [mem_requestNames_withNewModule named absent single]
  simp only [freshNames, List.mem_filter, List.mem_append, decide_eq_true_eq,
    List.not_mem_nil, not_false_eq_true, and_true]
  tauto

variable (keeps : kit.KeepsLists)
include keeps

theorem handedTo_updateTokens {bundle : InstalledBundle Store}
    (holds : HoldsRequests kit before oldInfo)
    (sameTokens : newInfo.tokens = oldInfo.tokens)
    (updated : InstalledBundle.updateTokens kit defaultPermissions oldInfo newInfo
      before = some bundle) :
    bundle.info = some newInfo ∧
      HandedTo kit newInfo oldInfo.requestNames
        (getNeedDeleteRequestPermissionName oldInfo newInfo) oldInfo.tokens
        before bundle.store := by
  obtain ⟨after, changed, made⟩ := Option.bind_eq_some_iff.mp updated
  obtain rfl := Option.some.inj made
  have apart := holds.apart
  have held := holds.held
  rw [← sameTokens] at apart held ⊢
  exact ⟨rfl, handedTo_changeTokens keeps oldInfo.nodup_requestNames apart held
    changed⟩

theorem handedTo_addToTokens {bundle : InstalledBundle Store}
    (holds : HoldsRequests kit before oldInfo)
    (added : InstalledBundle.addToTokens kit defaultPermissions oldInfo brought
      before = some bundle) :
    bundle.info = some (BundleDataMgr.withNewModule brought oldInfo) ∧
      HandedTo kit brought oldInfo.requestNames [] oldInfo.tokens before
        bundle.store := by
  obtain ⟨after, changed, made⟩ := Option.bind_eq_some_iff.mp added
  obtain rfl := Option.some.inj made
  exact ⟨rfl, handedTo_changeTokens keeps oldInfo.nodup_requestNames holds.apart
    holds.held changed⟩

/-- A new token is granted what passes, and everything is looked at. -/
theorem withNewToken_spec
    (holds : HoldsRequests kit before oldInfo)
    (absent : oldInfo.innerBundleUserInfos[nameAndUserIdToKey
      oldInfo.getBundleName userId]? = none)
    (made : InstalledBundle.withNewToken kit defaultPermissions
      (oldInfo.addInnerBundleUserInfo (BaseBundleInstaller.newUserInfo
        oldInfo.getBundleName userId)) userId before = some (info, after)) :
    HoldsRequests kit after info ∧ HasGrantableOnly kit after info := by
  rw [InstalledBundle.withNewToken] at made
  generalize allocated : createAccessTokenId kit _ _ userId 0 before = answer
    at made
  obtain ⟨tokenId, middle⟩ := answer
  obtain ⟨store, granted, made⟩ := Option.bind_eq_some_iff.mp made
  obtain ⟨rfl, rfl⟩ : _ = info ∧ store = after := by simpa using made
  have hands := keeps.alloc _ _ _ _ _ allocated
  have isNew := keeps.allocated _ _ _ _ _ allocated
  obtain ⟨grants, passed⟩ := grantAllRequestPermissions_spec keeps granted
  have tokens := tokens_setAccessTokenId tokenId absent
  have notOld : tokenId ∉ oldInfo.tokens := by
    intro member
    obtain ⟨_, ⟨held, found, -⟩, -⟩ := holds.held tokenId member
    have unset : tokenId ≠ 0 := by simpa using (List.mem_filter.mp member).2
    rw [(isNew unset).1] at found
    nomatch found
  constructor
  · constructor
    · rw [tokens.nodup_iff]
      split
      · exact holds.apart
      · exact List.nodup_cons.mpr ⟨notOld, holds.apart⟩
    · intro other member
      rcases List.mem_append.mp (tokens.subset member) with new | old
      · split at new
        case isTrue => nomatch new
        case isFalse unset =>
          obtain rfl := List.mem_singleton.mp new
          obtain ⟨-, held, found, same⟩ := isNew unset
          obtain ⟨changed, answer, sameNames, -⟩ := grants.states held found
          refine ⟨changed, ⟨changed, answer, .refl _⟩,
            (sameNames.trans (same.map _)).trans ?_⟩
          exact .of_eq map_getPermissionStateFullList
      · have different : other ≠ tokenId := by
          rintro rfl
          exact notOld old
        obtain ⟨held, holdsOther, requested⟩ := holds.held other old
        exact ⟨held, grants.others other different _
          (hands.others other different _ holdsOther), requested⟩
  · intro _ _ _ _ state _ _ requested permDef defined
    rw [Option.mem_def, grants.defs] at defined
    exact passed _ requested permDef defined

/-- What a step of the installer leaves behind. -/
theorem step_spec {bundle next : InstalledBundle Store} {event : VersionEvent}
    (holds : ∀ info ∈ bundle.info, HoldsRequests kit bundle.store info)
    (stepped : bundle.step kit defaultPermissions event = some next) :
    ∀ info ∈ next.info, HoldsRequests kit next.store info ∧
      (bundle.IsChecked kit event → HasGrantableOnly kit next.store info) := by
  intro info present
  cases event with
  | installBundle newInfo userId isFreeInstall =>
      rw [InstalledBundle.step] at stepped
      split at stepped
      case isFalse => nomatch stepped
      case isTrue parsed =>
        obtain ⟨⟨made, store⟩, withToken, stepped⟩ :=
          Option.bind_eq_some_iff.mp stepped
        obtain rfl := Option.some.inj stepped
        obtain rfl : made = info := Option.some.inj present
        have noUsers : newInfo.innerBundleUserInfos = ∅ :=
          Std.ExtTreeMap.isEmpty_iff.mp parsed.2
        have noTokens : (newInfo.setIsFreeInstallApp isFreeInstall).tokens =
            [] := by
          have same : (newInfo.setIsFreeInstallApp isFreeInstall).tokens =
            newInfo.tokens := rfl
          rw [same, InnerBundleInfo.tokens, noUsers]
          rfl
        have holdsNone : HoldsRequests kit bundle.store
            (newInfo.setIsFreeInstallApp isFreeInstall) := by
          constructor
          · rw [noTokens]
            exact List.nodup_nil
          · rw [noTokens]
            exact fun _ member => nomatch member
        have absent : (newInfo.setIsFreeInstallApp
            isFreeInstall).innerBundleUserInfos[nameAndUserIdToKey
              newInfo.getBundleName userId]? = none := by
          have same : (newInfo.setIsFreeInstallApp
            isFreeInstall).innerBundleUserInfos = newInfo.innerBundleUserInfos :=
              rfl
          rw [same, noUsers]
          exact Std.ExtTreeMap.getElem?_empty
        have spec := withNewToken_spec keeps holdsNone absent withToken
        exact ⟨spec.1, fun _ => spec.2⟩
  | addUser userId =>
      obtain ⟨oldInfo, found, stepped⟩ := Option.bind_eq_some_iff.mp stepped
      dsimp only at stepped
      split at stepped
      case isTrue => nomatch stepped
      case isFalse isNew =>
        obtain ⟨⟨made, store⟩, withToken, stepped⟩ :=
          Option.bind_eq_some_iff.mp stepped
        obtain rfl := Option.some.inj stepped
        obtain rfl := Option.some.inj present
        have absent := userInfo_of_not_hasInnerBundleUserInfo
          (eq_false_of_ne_true isNew)
        have spec := withNewToken_spec keeps (holds oldInfo found) absent
          withToken
        exact ⟨⟨spec.1.apart, spec.1.held⟩, fun _ => spec.2⟩
  | updateModule newInfo =>
      obtain ⟨oldInfo, found, stepped⟩ := Option.bind_eq_some_iff.mp stepped
      split at stepped
      case isFalse => nomatch stepped
      case isTrue =>
        obtain ⟨made, handed⟩ := handedTo_updateTokens keeps
          (holds oldInfo found) tokens_withUpdatedModule stepped
        obtain rfl := Option.some.inj (made.symm.trans present)
        refine ⟨handed.holdsRequests (holds oldInfo found)
          tokens_withUpdatedModule names_update, fun checked => ?_⟩
        exact handed.hasGrantableOnly (holds oldInfo found)
          tokens_withUpdatedModule (checked oldInfo found) .refl
  | addModule newInfo =>
      obtain ⟨oldInfo, found, stepped⟩ := Option.bind_eq_some_iff.mp stepped
      split at stepped
      case isFalse => nomatch stepped
      case isTrue isNew =>
        obtain ⟨named, absent, single⟩ := isNew
        obtain ⟨made, handed⟩ := handedTo_addToTokens keeps
          (holds oldInfo found) stepped
        obtain rfl := Option.some.inj (made.symm.trans present)
        refine ⟨handed.holdsRequests (holds oldInfo found) tokens_withNewModule
          (names_add named (by simpa using absent) single), fun checked => ?_⟩
        obtain ⟨kept, added⟩ := checked oldInfo found
        exact handed.hasGrantableOnly (holds oldInfo found) tokens_withNewModule
          kept added
  | uninstallLowerVersionFeature packageVec =>
      obtain ⟨oldInfo, found, stepped⟩ := Option.bind_eq_some_iff.mp stepped
      obtain ⟨made, handed⟩ := handedTo_updateTokens keeps
        (holds oldInfo found) InnerBundleInfo.tokens_withoutLowerVersions stepped
      obtain rfl := Option.some.inj (made.symm.trans present)
      refine ⟨handed.holdsRequests (holds oldInfo found)
        InnerBundleInfo.tokens_withoutLowerVersions names_update,
        fun checked => ?_⟩
      exact handed.hasGrantableOnly (holds oldInfo found)
        InnerBundleInfo.tokens_withoutLowerVersions (checked oldInfo found) .refl

end Steps

section Runs

open Relation (ReflTransGen)

variable {bundle : InstalledBundle Store} {store : Store}
  (keeps : kit.KeepsLists)
include keeps

/-- In every run each token of the bundle requests what the bundle requests. -/
theorem holdsRequests_of_reached
    (run : ReflTransGen (InstalledBundle.Step kit defaultPermissions)
      ⟨none, store⟩ bundle) :
    ∀ info ∈ bundle.info, HoldsRequests kit bundle.store info := by
  refine Runs.invariant
    (fun bundle => ∀ info ∈ bundle.info, HoldsRequests kit bundle.store info)
    ?_ run (fun _ present => nomatch present)
  rintro before after holds ⟨event, stepped⟩ info present
  exact (step_spec keeps holds stepped info present).1

/-- In every run whose steps are checked, no token keeps what the bundle does
not request any more, or has been granted what is above the bundle by now. -/
theorem noStalePrivilege
    (run : ReflTransGen (InstalledBundle.CheckedStep kit defaultPermissions)
      ⟨none, store⟩ bundle) :
    bundle.HasNoStalePrivilege kit := by
  have sound := Runs.invariant
    (fun bundle => ∀ info ∈ bundle.info, HoldsRequests kit bundle.store info ∧
      HasGrantableOnly kit bundle.store info)
    (fun before after sound ⟨event, stepped, checked⟩ info present => by
      have spec := step_spec keeps (fun info present => (sound info present).1)
        stepped info present
      exact ⟨spec.1, spec.2 checked⟩)
    run (fun _ present => nomatch present)
  intro info present
  exact ⟨(sound info present).1.hasRequestedOnly, (sound info present).2⟩

end Runs

section Examples

/-- A permission the system grants. -/
def systemPermission (name : String) (level : ATokenAplEnum) : PermissionDef where
  permissionName := name
  grantMode := .systemGrant
  availableLevel := level

/-- A service that has two permissions of the system. -/
def systemPermissions : TokenTable where
  definitions name :=
    if name = "reboot" then some (systemPermission "reboot" .systemCore)
    else if name = "vibrate" then some (systemPermission "vibrate" .normal)
    else none

def requestOf (name : String) : RequestPermission where
  name := name

/-- The module of a package. -/
def requestingModule (modulePackage : String) (requests : List String) :
    InnerModuleInfo where
  modulePackage := modulePackage
  requestPermissions := requests.map requestOf

/-- A package of the bundle with one module. -/
def permissionPackage (modulePackage level : String) (requests : List String) :
    InnerBundleInfo where
  currentPackage := modulePackage
  baseApplicationInfo :=
    { bundleName := "settings", appPrivilegeLevel := level }
  innerModuleInfos :=
    .ofList [(modulePackage, requestingModule modulePackage requests)]

/-- A bundle comes, is given a second user and a module, and drops what it had to
be privileged for before its level falls. -/
def droppingEvents : List VersionEvent :=
  [.installBundle (permissionPackage "entry" "system_core" ["reboot"]) 100 false,
    .addUser 101,
    .addModule (permissionPackage "feature" "system_core" ["vibrate"]),
    .updateModule (permissionPackage "entry" "normal" [])]

/-- A bundle loses its level and goes on requesting what it was granted. -/
def loweringEvents : List VersionEvent :=
  [.installBundle (permissionPackage "entry" "system_core" ["reboot"]) 100 false,
    .updateModule (permissionPackage "entry" "normal" ["reboot"])]

/-- The state after a list of events. -/
def afterEvents (events : List VersionEvent) :
    Option (InstalledBundle TokenTable) :=
  InstalledBundle.run TokenTable.accessTokenKit ∅ ⟨none, systemPermissions⟩
    events

theorem afterEvents_droppingEvents :
    (afterEvents droppingEvents).isSome = true := by
  decide +kernel

theorem afterEvents_loweringEvents :
    (afterEvents loweringEvents).isSome = true := by
  decide +kernel

/-- Both tokens have been granted what the feature requests, and nothing else. -/
theorem noStalePrivilege_dropping :
    ∃ bundle : InstalledBundle TokenTable,
      bundle.HasNoStalePrivilege TokenTable.accessTokenKit ∧
        bundle.info.map (·.getAppPrivilegeLevel) = some "normal" ∧
        bundle.info.map (·.tokens.map fun tokenId =>
          (bundle.store.states tokenId).map
            (·.map fun state => (state.permissionName, state.isGranted))) =
              some [some [("vibrate", true)], some [("vibrate", true)]] := by
  have ends := Option.some_get afterEvents_droppingEvents
  have run := InstalledBundle.checkedReached_of_run (by decide +kernel) ends.symm
  exact ⟨_, noStalePrivilege TokenTable.keepsLists run, by decide +kernel,
    by decide +kernel⟩

/-- A token keeps a permission that is above the bundle by now. -/
theorem stalePrivilege_lowering :
    ¬∀ (Store : Type) (kit : AccessTokenKit Store)
      (defaultPermissions : StringMap (StringMap Bool)) (store : Store)
      (bundle : InstalledBundle Store), kit.KeepsLists →
        Relation.ReflTransGen (InstalledBundle.Step kit defaultPermissions)
          ⟨none, store⟩ bundle →
        bundle.HasNoStalePrivilege kit := by
  intro never
  have ends := Option.some_get afterEvents_loweringEvents
  have run := InstalledBundle.reached_of_run ends.symm
  have fresh := never _ _ _ _ _ TokenTable.keepsLists run
  revert fresh
  decide +kernel

end Examples

end AppExecFwk
