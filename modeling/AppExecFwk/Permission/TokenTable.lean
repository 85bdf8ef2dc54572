import AppExecFwk.Permission.TokenLists
import Mathlib.Logic.Function.Basic

/-!
# A service that keeps the lists

An access token service that does what it is relied on for: it has one table of
definitions, in which a token replaces what it defined before, and for each
token the permissions it was last given.
-/

namespace AppExecFwk

open BundlePermissionMgr

/-- The definitions, those each token gave last, and what each token requests. -/
structure TokenTable where
  definitions : String → Option PermissionDef := fun _ => none
  owned : UInt32 → List PermissionDef := fun _ => []
  states : UInt32 → Option (List PermissionStateFull) := fun _ => none
  lastTokenId : UInt32 := 0

/-- The state of a permission once it has been granted. -/
def PermissionStateFull.grant (state : PermissionStateFull)
    (flag : PermissionFlag) : PermissionStateFull :=
  { state with
    grantStatus := state.grantStatus.map fun _ => .permissionGranted
    grantFlags := state.grantFlags.map fun _ => flag }

namespace TokenTable

variable (table : TokenTable) (tokenId : UInt32)

/-- Take over the lists of a token. -/
def give (policy : HapPolicyParams) : TokenTable :=
  { table with
    definitions := fun name =>
      (policy.permList.find? (·.permissionName = name)).or
        (if (table.owned tokenId).any (·.permissionName = name) then none
          else table.definitions name)
    owned := Function.update table.owned tokenId policy.permList
    states := Function.update table.states tokenId (some policy.permStateList) }

/-- Whether the system grants a permission. -/
def isSystemGrant (name : String) : Bool :=
  (table.definitions name).any (·.grantMode = .systemGrant)

/-- The states in which one permission has been granted. -/
def markGranted (states : List PermissionStateFull) (name : String)
    (flag : PermissionFlag) : List PermissionStateFull :=
  states.map fun state =>
    if state.permissionName = name then state.grant flag else state

/-- Keep the states of a token. -/
def putStates (states : List PermissionStateFull) : TokenTable :=
  { table with states := Function.update table.states tokenId (some states) }

def accessTokenKit : AccessTokenKit TokenTable where
  allocHapToken _ policy table :=
    let tokenId := table.lastTokenId + 1
    if tokenId = 0 ∨ (table.states tokenId).isSome then (0, table)
    else (tokenId, { table.give tokenId policy with lastTokenId := tokenId })
  updateHapToken tokenId _ policy table :=
    if (table.states tokenId).isSome then some (table.give tokenId policy)
    else none
  getDefPermissions tokenId table :=
    some ((table.owned tokenId).filter fun permDef =>
      table.definitions permDef.permissionName = some permDef)
  getDefPermission name table := table.definitions name
  getReqPermissions tokenId isSystemGrant table :=
    (table.states tokenId).map (·.filter fun state =>
      table.isSystemGrant state.permissionName = isSystemGrant)
  grantPermission tokenId name flag table :=
    (table.states tokenId).map fun states =>
      table.putStates tokenId (markGranted states name flag)

variable {table tokenId} {states : List PermissionStateFull}

theorem getAllReqPermissionStateFull_eq :
    getAllReqPermissionStateFull accessTokenKit tokenId table =
      (table.states tokenId).map fun states =>
        states.filter (table.isSystemGrant ·.permissionName = false) ++
          states.filter (table.isSystemGrant ·.permissionName = true) := by
  simp only [getAllReqPermissionStateFull, accessTokenKit]
  cases table.states tokenId <;> simp

/-- A token requests what the table has for it. -/
theorem holds_iff : HoldsStates accessTokenKit tokenId table states ↔
    ∃ known, table.states tokenId = some known ∧ known.Perm states := by
  have split (known : List PermissionStateFull) :
      (known.filter (table.isSystemGrant ·.permissionName = false) ++
        known.filter (table.isSystemGrant ·.permissionName = true)).Perm
          known := by
    have opposite := List.filter_append_perm
      (fun state : PermissionStateFull =>
        decide (table.isSystemGrant state.permissionName = false)) known
    simpa using opposite
  rw [HoldsStates, getAllReqPermissionStateFull_eq]
  cases table.states tokenId with
  | none => simp
  | some known =>
      simp only [Option.map_some, Option.some.injEq, exists_eq_left']
      exact ⟨(split known).symm.trans, (split known).trans⟩

theorem holds_of_states (found : table.states tokenId = some states) :
    HoldsStates accessTokenKit tokenId table states :=
  holds_iff.mpr ⟨states, found, .refl _⟩

/-- A token whose entry is the same requests the same. -/
theorem holds_of_same {later : TokenTable}
    (same : later.states tokenId = table.states tokenId)
    (holds : HoldsStates accessTokenKit tokenId table states) :
    HoldsStates accessTokenKit tokenId later states := by
  rw [holds_iff] at holds ⊢
  rwa [same]

variable (table tokenId) (policy : HapPolicyParams)

theorem hands_give :
    Hands accessTokenKit tokenId table (table.give tokenId policy)
      policy.permList where
  others := by
    intro other different states holds
    exact holds_of_same (Function.update_of_ne different _ _) holds
  defs := by
    intro name permDef defined
    have defined : (policy.permList.find? (·.permissionName = name)).or
        (if (table.owned tokenId).any (·.permissionName = name) then none
          else table.definitions name) = some permDef := defined
    rw [Option.or_eq_some_iff] at defined
    rcases defined with given | ⟨-, kept⟩
    · have named : permDef.permissionName = name := by
        simpa using List.find?_some given
      exact .inr ⟨List.mem_of_find?_eq_some given, named⟩
    · split at kept
      · nomatch kept
      · exact .inl kept

theorem holds_give :
    HoldsStates accessTokenKit tokenId (table.give tokenId policy)
      policy.permStateList :=
  holds_of_states (Function.update_self _ _ _)

/-- A grant changes the state of the permission it names. -/
theorem grants_map {name : String} {flag : PermissionFlag}
    (found : table.states tokenId = some states) :
    Grants accessTokenKit tokenId table
      (table.putStates tokenId (markGranted states name flag)) [name] where
  others := by
    intro other different held holds
    exact holds_of_same (Function.update_of_ne different _ _) holds
  defs := fun _ => rfl
  states := by
    intro held answered
    obtain ⟨known, found', same⟩ :=
      holds_iff.mp ⟨held, answered, .refl _⟩
    obtain rfl : states = known := Option.some.inj (found.symm.trans found')
    have updated : (table.putStates tokenId
        (markGranted states name flag)).states tokenId =
          some (markGranted states name flag) :=
      Function.update_self _ _ _
    obtain ⟨changed, answer, sameChanged⟩ := holds_of_states updated
    have sameNames : (markGranted states name flag).map (·.permissionName) =
        states.map (·.permissionName) := by
      rw [markGranted, List.map_map]
      apply List.map_congr_left
      intro state _
      rw [Function.comp_apply]
      split <;> rfl
    refine ⟨changed, answer, ?_, fun state member => ?_⟩
    · apply (sameChanged.map _).trans
      rw [sameNames]
      exact same.map _
    · obtain ⟨old, inOld, rfl⟩ := List.mem_map.mp (sameChanged.subset member)
      split
      · next named => exact .inr (List.mem_singleton.mpr named)
      · exact .inl (same.subset inOld)

theorem keepsLists : accessTokenKit.KeepsLists where
  own := by
    intro tokenId table defs answered permDef member
    obtain rfl := Option.some.inj answered
    exact of_decide_eq_true (List.mem_filter.mp member).2
  alloc := by
    intro hapInfo policy table tokenId later allocated
    simp only [accessTokenKit] at allocated
    split at allocated
    · obtain ⟨rfl, rfl⟩ := Prod.mk.inj allocated
      exact ⟨fun _ _ _ holds => holds, fun _ _ defined => .inl defined⟩
    · obtain ⟨rfl, rfl⟩ := Prod.mk.inj allocated
      have hands := hands_give table (table.lastTokenId + 1) policy
      exact ⟨hands.others, hands.defs⟩
  allocated := by
    intro hapInfo policy table tokenId later allocated isSet
    simp only [accessTokenKit] at allocated
    split at allocated
    · obtain ⟨rfl, -⟩ := Prod.mk.inj allocated
      exact absurd rfl isSet
    · next free =>
        obtain ⟨rfl, rfl⟩ := Prod.mk.inj allocated
        rw [not_or, Option.not_isSome_iff_eq_none] at free
        constructor
        · rw [getAllReqPermissionStateFull_eq, free.2]
          rfl
        · exact holds_give table (table.lastTokenId + 1) policy
  update := by
    intro tokenId appId policy table later updated
    simp only [accessTokenKit] at updated
    split at updated
    · obtain rfl := Option.some.inj updated
      exact ⟨hands_give table tokenId policy, holds_give table tokenId policy⟩
    · nomatch updated
  grant := by
    intro tokenId name flag table later granted
    obtain ⟨states, found, rfl⟩ := Option.map_eq_some_iff.mp granted
    exact grants_map table tokenId found

end TokenTable

end AppExecFwk
