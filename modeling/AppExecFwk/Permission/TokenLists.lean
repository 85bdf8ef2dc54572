import AppExecFwk.Permission.BundlePermissionMgr
import Mathlib.Data.Option.Basic

/-!
# The lists of a token

What the access token service is relied on for: it keeps the lists it is given.
From this follows what a token requests, which permissions of it are granted and
which definitions there are after each call of the permission manager.
-/

namespace AppExecFwk

open BundlePermissionMgr

variable {Store : Type} {kit : AccessTokenKit Store} {tokenId : UInt32}
  {before after later store : Store}

section Laws

variable (kit) (tokenId) (before after)

/-- The token requests the permissions of a list, in any order. -/
def HoldsStates (store : Store) (states : List PermissionStateFull) : Prop :=
  ∃ held, getAllReqPermissionStateFull kit tokenId store = some held ∧
    held.Perm states

/-- A call that gives a token definitions leaves the other tokens alone, and
brings no other definitions about. -/
structure Hands (permList : List PermissionDef) : Prop where
  others : ∀ other, other ≠ tokenId → ∀ states,
    HoldsStates kit other before states → HoldsStates kit other after states
  defs : ∀ name permDef, kit.getDefPermission name after = some permDef →
    kit.getDefPermission name before = some permDef ∨
      permDef ∈ permList ∧ permDef.permissionName = name

/-- A call that grants permissions changes nothing but the states of these. -/
structure Grants (names : List String) : Prop where
  others : ∀ other, other ≠ tokenId → ∀ states,
    HoldsStates kit other before states → HoldsStates kit other after states
  defs : ∀ name, kit.getDefPermission name after =
    kit.getDefPermission name before
  states : ∀ held, getAllReqPermissionStateFull kit tokenId before = some held →
    ∃ changed, getAllReqPermissionStateFull kit tokenId after = some changed ∧
      (changed.map (·.permissionName)).Perm (held.map (·.permissionName)) ∧
      ∀ state ∈ changed, state ∈ held ∨ state.permissionName ∈ names

/-- The service keeps exactly the lists it is given: a token has the permissions
it was last given, a grant changes the state of one permission, a new token is
one that was not there, and the definitions of a token are among those that
hold. -/
structure AccessTokenKit.KeepsLists : Prop where
  own : ∀ tokenId store defs, kit.getDefPermissions tokenId store = some defs →
    ∀ permDef ∈ defs,
      kit.getDefPermission permDef.permissionName store = some permDef
  alloc : ∀ hapInfo policy store tokenId later,
    kit.allocHapToken hapInfo policy store = (tokenId, later) →
      Hands kit tokenId store later policy.permList
  allocated : ∀ hapInfo policy store tokenId later,
    kit.allocHapToken hapInfo policy store = (tokenId, later) → tokenId ≠ 0 →
      getAllReqPermissionStateFull kit tokenId store = none ∧
        HoldsStates kit tokenId later policy.permStateList
  update : ∀ tokenId appId policy store later,
    kit.updateHapToken tokenId appId policy store = some later →
      Hands kit tokenId store later policy.permList ∧
        HoldsStates kit tokenId later policy.permStateList
  grant : ∀ tokenId name flag store later,
    kit.grantPermission tokenId name flag store = some later →
      Grants kit tokenId store later [name]

end Laws

namespace Grants

variable {names more : List String}

theorem refl (names : List String) : Grants kit tokenId store store names where
  others := fun _ _ _ holds => holds
  defs := fun _ => rfl
  states := fun held found => ⟨held, found, .refl _, fun _ member => .inl member⟩

theorem mono (grants : Grants kit tokenId before after names)
    (subset : names ⊆ more) : Grants kit tokenId before after more where
  others := grants.others
  defs := grants.defs
  states := by
    intro held found
    obtain ⟨changed, answered, sameNames, origin⟩ := grants.states held found
    refine ⟨changed, answered, sameNames, fun state member => ?_⟩
    exact (origin state member).imp id (@subset _)

theorem trans (first : Grants kit tokenId before after names)
    (second : Grants kit tokenId after later names) :
    Grants kit tokenId before later names where
  others := by
    intro other different states holds
    exact second.others other different _ (first.others other different _ holds)
  defs := by
    intro name
    rw [second.defs, first.defs]
  states := by
    intro held found
    obtain ⟨middle, answered, sameNames, origin⟩ := first.states held found
    obtain ⟨changed, answered', sameNames', origin'⟩ :=
      second.states middle answered
    refine ⟨changed, answered', sameNames'.trans sameNames, ?_⟩
    intro state member
    rcases origin' state member with kept | named
    · exact origin state kept
    · exact .inr named

/-- Grants of several permissions, one after another. -/
theorem foldlM {grant : Store → String → Option Store}
    (each : ∀ name ∈ names, ∀ before after, grant before name = some after →
      Grants kit tokenId before after [name]) {more : List String}
    (subset : names ⊆ more)
    (granted : names.foldlM grant before = some after) :
    Grants kit tokenId before after more := by
  induction names generalizing before with
  | nil =>
      obtain rfl : before = after := by simpa using granted
      exact refl _
  | cons name rest ih =>
      rw [List.foldlM_cons] at granted
      obtain ⟨middle, first, rest'⟩ := Option.bind_eq_some_iff.mp granted
      have one : Grants kit tokenId before middle more := by
        apply (each name List.mem_cons_self _ _ first).mono
        simpa using subset List.mem_cons_self
      have others : Grants kit tokenId middle after more := by
        apply ih (fun name member => each name (List.mem_cons_of_mem _ member))
          (fun name member => subset (List.mem_cons_of_mem _ member)) rest'
      exact one.trans others

end Grants

section Granting

variable {info : InnerBundleInfo} {defaultPermissions : StringMap (StringMap Bool)}

/-- What may be granted was requested, and each defined request was checked. -/
theorem classifyRequests_spec {reqPermissions : List RequestPermission}
    {systemGrants userGrants : List String}
    (classified : classifyRequests kit info store reqPermissions =
      some (systemGrants, userGrants)) :
    systemGrants ⊆ reqPermissions.map (·.name) ∧
      userGrants ⊆ reqPermissions.map (·.name) ∧
      ∀ name ∈ reqPermissions.map (·.name), ∀ permDef,
        kit.getDefPermission name store = some permDef →
          checkGrantPermission permDef info.getAppPrivilegeLevel
            info.allowedAcls = true := by
  induction reqPermissions generalizing systemGrants userGrants with
  | nil =>
      obtain ⟨rfl, rfl⟩ : [] = systemGrants ∧ [] = userGrants := by
        simpa [classifyRequests] using classified
      simp
  | cons reqPermission rest ih =>
      rw [classifyRequests] at classified
      cases found : kit.getDefPermission reqPermission.name store with
      | none =>
          rw [found] at classified
          obtain ⟨systems, users, checked⟩ := ih classified
          refine ⟨List.subset_cons_of_subset _ systems,
            List.subset_cons_of_subset _ users, ?_⟩
          intro name member permDef defined
          rcases List.mem_cons.mp member with rfl | member
          · rw [found] at defined
            nomatch defined
          · exact checked name member permDef defined
      | some known =>
          simp only [found] at classified
          split at classified
          case isFalse => nomatch classified
          case isTrue passes =>
            obtain ⟨⟨systemRest, userRest⟩, classifiedRest, added⟩ :=
              Option.bind_eq_some_iff.mp classified
            obtain ⟨systems, users, checked⟩ := ih classifiedRest
            have allChecked : ∀ name ∈ (reqPermission :: rest).map (·.name),
                ∀ permDef, kit.getDefPermission name store = some permDef →
                  checkGrantPermission permDef info.getAppPrivilegeLevel
                    info.allowedAcls = true := by
              intro name member permDef defined
              rcases List.mem_cons.mp member with rfl | member
              · rw [found] at defined
                obtain rfl := Option.some.inj defined
                exact passes
              · exact checked name member permDef defined
            split at added
            all_goals
              simp only [Option.pure_def, Option.some.injEq,
                Prod.mk.injEq] at added
              obtain ⟨rfl, rfl⟩ := added
              refine ⟨?_, ?_, allChecked⟩
              all_goals simp [systems, users]

variable (keeps : kit.KeepsLists)
include keeps

theorem innerGrantRequestPermissions_spec
    {reqPermissions : List RequestPermission}
    (granted : innerGrantRequestPermissions kit defaultPermissions tokenId
      reqPermissions info before = some after) :
    Grants kit tokenId before after (reqPermissions.map (·.name)) ∧
      ∀ name ∈ reqPermissions.map (·.name), ∀ permDef,
        kit.getDefPermission name before = some permDef →
          checkGrantPermission permDef info.getAppPrivilegeLevel
            info.allowedAcls = true := by
  rw [innerGrantRequestPermissions] at granted
  obtain ⟨⟨systemGrants, userGrants⟩, classified, granted⟩ :=
    Option.bind_eq_some_iff.mp granted
  obtain ⟨middle, systemGranted, granted⟩ :=
    Option.bind_eq_some_iff.mp granted
  obtain ⟨systems, users, checked⟩ := classifyRequests_spec classified
  refine ⟨?_, checked⟩
  have system : Grants kit tokenId before middle
      (reqPermissions.map (·.name)) :=
    Grants.foldlM (fun name _ before after one => keeps.grant _ _ _ _ _ one)
      systems systemGranted
  split at granted
  case isFalse =>
    obtain rfl := Option.some.inj granted
    exact system
  case isTrue =>
    apply system.trans
    refine Grants.foldlM (fun name _ before after one => ?_) users granted
    split at one
    · obtain rfl := Option.some.inj one
      exact .refl _
    · exact keeps.grant _ _ _ _ _ one

theorem grantAllRequestPermissions_spec
    (granted : grantAllRequestPermissions kit defaultPermissions info tokenId
      before = some after) :
    Grants kit tokenId before after info.requestNames ∧
      ∀ name ∈ info.requestNames, ∀ permDef,
        kit.getDefPermission name before = some permDef →
          checkGrantPermission permDef info.getAppPrivilegeLevel
            info.allowedAcls = true :=
  innerGrantRequestPermissions_spec keeps granted

/-- The requests of some names are granted, all of which the bundle has. -/
theorem grantRequestPermissions_spec {requestPermName : List String}
    (requested : requestPermName ⊆ info.requestNames)
    (granted : grantRequestPermissions kit defaultPermissions info
      requestPermName tokenId before = some after) :
    Grants kit tokenId before after requestPermName ∧
      ∀ name ∈ requestPermName, ∀ permDef,
        kit.getDefPermission name before = some permDef →
          checkGrantPermission permDef info.getAppPrivilegeLevel
            info.allowedAcls = true := by
  have names : ((requestPermName.filterMap fun name =>
      info.getAllRequestPermissions.find? (·.name = name)).map (·.name)) =
        requestPermName := by
    clear granted
    induction requestPermName with
    | nil => rfl
    | cons name rest ih =>
        obtain ⟨here, others⟩ := List.cons_subset.mp requested
        obtain ⟨request, member, named⟩ := List.mem_map.mp here
        have found : (info.getAllRequestPermissions.find?
            (·.name = name)).isSome := by
          rw [List.find?_isSome]
          exact ⟨request, member, by simpa using named⟩
        obtain ⟨first, foundFirst⟩ := Option.isSome_iff_exists.mp found
        have firstNamed : first.name = name := by
          simpa using List.find?_some foundFirst
        simp only [List.filterMap_cons, foundFirst, List.map_cons, ih others,
          firstNamed]
  rw [grantRequestPermissions] at granted
  have spec := innerGrantRequestPermissions_spec keeps granted
  rwa [names] at spec

end Granting

section Lists

variable {α : Type} {nameOf : α → String} {names : List String}
  {entries : List α} {known states : List PermissionStateFull}

/-- Where each name stands once, its first entry is its only one. -/
theorem eraseP_eq_filter (name : String)
    (distinct : (entries.map nameOf).Nodup) :
    entries.eraseP (nameOf · = name) = entries.filter (nameOf · ≠ name) := by
  induction entries with
  | nil => rfl
  | cons entry rest ih =>
      rw [List.map_cons, List.nodup_cons] at distinct
      obtain ⟨notAgain, distinct⟩ := distinct
      by_cases named : nameOf entry = name
      · have others : rest.filter (nameOf · ≠ name) = rest := by
          rw [List.filter_eq_self]
          intro other member
          have different : nameOf other ≠ name := by
            rintro same
            apply notAgain
            rw [named, ← same]
            exact List.mem_map_of_mem member
          simpa using different
        rw [List.eraseP_cons_of_pos (by simpa using named),
          List.filter_cons_of_neg (by simpa using named), others]
      · rw [List.eraseP_cons_of_neg (by simpa using named),
          List.filter_cons_of_pos (by simpa using named), ih distinct]

theorem deleteNames_eq_filter (distinct : (entries.map nameOf).Nodup) :
    deleteNames nameOf names entries =
      entries.filter (nameOf · ∉ names) := by
  induction names generalizing entries with
  | nil => simp [deleteNames]
  | cons name rest ih =>
      have distinctRest : ((entries.filter (nameOf · ≠ name)).map nameOf).Nodup :=
        distinct.sublist (List.filter_sublist.map _)
      have step : deleteNames nameOf (name :: rest) entries =
          deleteNames nameOf rest (entries.eraseP (nameOf · = name)) := rfl
      rw [step, eraseP_eq_filter name distinct, ih distinctRest,
        List.filter_filter]
      apply List.filter_congr
      intro entry member
      simp only [List.mem_cons, not_or, Bool.decide_and, decide_not, Bool.and_comm]

theorem deleteNames_subset : deleteNames nameOf names entries ⊆ entries := by
  induction names generalizing entries with
  | nil => exact List.Subset.refl _
  | cons name rest ih => exact List.Subset.trans ih List.eraseP_subset

theorem mem_addNewDefs {known defs : List PermissionDef}
    {permDef : PermissionDef} (member : permDef ∈ addNewDefs known defs) :
    permDef ∈ known ∨ permDef ∈ defs := by
  induction defs generalizing known with
  | nil => exact .inl member
  | cons perm rest ih =>
      rw [addNewDefs, List.foldl_cons] at member
      rcases ih member with inKnown | inRest
      · split at inKnown
        · exact .inl inKnown
        · rcases List.mem_append.mp inKnown with inKnown | added
          · exact .inl inKnown
          · exact .inr (by simpa using .inl (List.mem_singleton.mp added))
      · exact .inr (List.mem_cons_of_mem _ inRest)

/-- The requests that are added, and whose names are noted, are those whose
names are not there. -/
theorem foldl_addNewState (distinct : (states.map (·.permissionName)).Nodup) :
    states.foldl addNewState (known, names) =
      (known ++ states.filter
          (·.permissionName ∉ known.map (·.permissionName)),
        names ++ (states.map (·.permissionName)).filter
          (· ∉ known.map (·.permissionName))) := by
  induction states generalizing known names with
  | nil => simp
  | cons state rest ih =>
      rw [List.map_cons, List.nodup_cons] at distinct
      obtain ⟨notAgain, distinct⟩ := distinct
      rw [List.foldl_cons, addNewState]
      by_cases there : state.permissionName ∈ known.map (·.permissionName)
      · have found : known.any
            (·.permissionName = state.permissionName) = true := by
          simpa using there
        rw [if_pos found, ih distinct, List.map_cons,
          List.filter_cons_of_neg (by simpa using there),
          List.filter_cons_of_neg (by simpa using there)]
      · have absent : ¬ known.any
            (·.permissionName = state.permissionName) = true := by
          simpa using there
        rw [if_neg absent, ih distinct, List.map_cons,
          List.filter_cons_of_pos (by simpa using there),
          List.filter_cons_of_pos (by simpa using there)]
        have sameStates : rest.filter (·.permissionName ∉
            (known ++ [state]).map (·.permissionName)) =
              rest.filter
                (·.permissionName ∉ known.map (·.permissionName)) := by
          apply List.filter_congr
          intro other member
          have different : other.permissionName ≠ state.permissionName := by
            intro same
            exact notAgain (same ▸ List.mem_map_of_mem member)
          simp [different]
        have sameNames : (rest.map (·.permissionName)).filter
            (· ∉ (known ++ [state]).map (·.permissionName)) =
              (rest.map (·.permissionName)).filter
                (· ∉ known.map (·.permissionName)) := by
          apply List.filter_congr
          intro other member
          have different : other ≠ state.permissionName := by
            rintro rfl
            exact notAgain member
          simp [different]
        rw [sameStates, sameNames, List.append_assoc, List.append_assoc]
        rfl

end Lists

section HandingOver

variable {info : InnerBundleInfo}

theorem map_getPermissionStateFullList :
    (getPermissionStateFullList info).map (·.permissionName) =
      info.requestNames := by
  rw [getPermissionStateFullList, List.map_map]
  rfl

theorem isGranted_of_mem_getPermissionStateFullList
    {state : PermissionStateFull}
    (member : state ∈ getPermissionStateFullList info) :
    state.isGranted = false := by
  obtain ⟨request, -, rfl⟩ := List.mem_map.mp member
  rfl

variable {dropDefs dropStates fresh : List String}
  {held : List PermissionStateFull}

/-- After a version has been handed over, the token requests what it requested
before and what is new, less what is dropped; what is new is not granted. -/
theorem handOver_spec (keeps : kit.KeepsLists)
    (found : getAllReqPermissionStateFull kit tokenId before = some held)
    (distinct : (held.map (·.permissionName)).Nodup)
    (handed : handOver kit tokenId before dropDefs dropStates info =
      some (after, fresh)) :
    Hands kit tokenId before after (getPermissionDefList info) ∧
      fresh = info.requestNames.filter
        (· ∉ held.map (·.permissionName)) ∧
      ∃ changed, getAllReqPermissionStateFull kit tokenId after =
          some changed ∧
        (changed.map (·.permissionName)).Perm
          ((held.map (·.permissionName) ++ fresh).filter (· ∉ dropStates)) ∧
        ∀ state ∈ changed, state ∈ held ∨ state.isGranted = false := by
  simp only [handOver, getNewPermissionDefList, getNewPermissionStateFull,
    found, Option.bind_eq_bind, Option.bind_some, Option.pure_def,
    Option.bind_eq_some_iff, Option.some.injEq, Prod.mk.injEq] at handed
  obtain ⟨_, ⟨own, answered, rfl⟩, handed⟩ := handed
  have distinctStates :
      ((getPermissionStateFullList info).map (·.permissionName)).Nodup := by
    rw [map_getPermissionStateFullList]
    exact info.nodup_requestNames
  rw [foldl_addNewState distinctStates] at handed
  simp only [List.nil_append, map_getPermissionStateFullList] at handed
  obtain ⟨_, updated, rfl, rfl⟩ := handed
  obtain ⟨hands, changed, answer, same⟩ := keeps.update _ _ _ _ _ updated
  refine ⟨⟨hands.others, fun name permDef defined => ?_⟩, rfl, changed, answer,
    ?_, fun state member => ?_⟩
  · rcases hands.defs name permDef defined with before | ⟨given, rfl⟩
    · exact .inl before
    · rcases mem_addNewDefs (deleteNames_subset given) with owned | new
      · exact .inl (keeps.own _ _ _ answered _ owned)
      · exact .inr ⟨new, rfl⟩
  · apply (same.map _).trans
    have added : (held ++ (getPermissionStateFullList info).filter
        (·.permissionName ∉ held.map (·.permissionName))).map
          (·.permissionName) =
        held.map (·.permissionName) ++ info.requestNames.filter
          (· ∉ held.map (·.permissionName)) := by
      rw [List.map_append, ← map_getPermissionStateFullList, List.filter_map]
      rfl
    have distinctAll : ((held ++ (getPermissionStateFullList info).filter
        (·.permissionName ∉ held.map (·.permissionName))).map
          (·.permissionName)).Nodup := by
      rw [added]
      apply distinct.append (info.nodup_requestNames.filter _)
      intro name inHeld inFresh
      exact of_decide_eq_true (List.mem_filter.mp inFresh).2 inHeld
    rw [← added, List.filter_map]
    exact .of_eq (congrArg _ (deleteNames_eq_filter distinctAll))
  · rcases List.mem_append.mp (deleteNames_subset (same.subset member)) with
      kept | new
    · exact .inl kept
    · exact .inr (isGranted_of_mem_getPermissionStateFullList
        (List.mem_filter.mp new).1)

end HandingOver

end AppExecFwk
