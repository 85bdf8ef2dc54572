import AppExecFwk.Installd.InstalldClient

/-!
# Calls that installd has performed

Every call of the client is performed once or not at all, whatever the threads, the
deaths and the starts of installd are interleaved with.  A call that returns what
installd answered has been performed, with the very arguments it was made with.
-/

namespace AppExecFwk

open Relation ClientState InstalldClient

variable {υ σ : Type}

/-- Make the calls one after another. -/
def IInstalld.performAll (installd : IInstalld σ) :
    List InstalldCall → σ → List InstalldAnswer × σ
  | [], world => ([], world)
  | call :: calls, world =>
    let (answer, world) := installd.perform call world
    let (answers, world) := performAll installd calls world
    (answer :: answers, world)

theorem IInstalld.performAll_append (installd : IInstalld σ) (calls more : List InstalldCall)
    (world : σ) :
    installd.performAll (calls ++ more) world =
      ((installd.performAll calls world).1 ++
          (installd.performAll more (installd.performAll calls world).2).1,
        (installd.performAll more (installd.performAll calls world).2).2) := by
  induction calls generalizing world with
  | nil => rfl
  | cons call calls induction => simp [performAll, induction]

/-- What a call can return, with what installd has done for it. -/
inductive InstalldClient.Outcome (call : InstalldCall) :
    InstalldAnswer → List (InstalldCall × InstalldAnswer) → Prop where
  | rejected (bad : checkParams call = false) : Outcome call ⟨.installdParamError, {}⟩ []
  | unsent (accepted : checkParams call = true) {code : ErrCode}
    (failed : code = .installdGetProxyError ∨ code = .parcelError ∨
      code = .installInstalldServiceError) : Outcome call ⟨code, {}⟩ []
  | lost (accepted : checkParams call = true) (answer : InstalldAnswer) :
    Outcome call ⟨.installInstalldServiceError, {}⟩ [(call, answer)]
  | told (accepted : checkParams call = true) (answer : InstalldAnswer) :
    Outcome call (InstalldHost.told call answer) [(call, answer)]

/-- What installd has done for a call at a stage. -/
def CallStage.Accounts (conversion : StringConversion υ) (call : InstalldCall) :
    CallStage υ → List (InstalldCall × InstalldAnswer) → Prop
  | .sending _ data, made | .handling _ data, made =>
    checkParams call = true ∧ made = [] ∧ data = InstalldProxy.items conversion call
  | .answered status reply, made =>
    checkParams call = true ∧ ∃ answer, made = [(call, answer)] ∧
      (status = 0 → reply = InstalldHost.repliesOf call answer)
  | .returned answer, made => Outcome call answer made
  | _, made => checkParams call = true ∧ made = []

namespace ClientState

/-- What installd has done for a call. -/
def made (state : ClientState υ σ) (id : Nat) : List (InstalldCall × InstalldAnswer) :=
  (state.performed.filter (·.caller = id)).map fun performed =>
    (performed.call, performed.answer)

/-- What installd manages is the result of the calls performed, each for a call that
stands where it has been performed. -/
structure IsAccounted (setup : InstalldSetup υ σ) (world : σ) (state : ClientState υ σ) :
    Prop where
  replayed : setup.installd.performAll (state.performed.map (·.call)) world =
    (state.performed.map (·.answer), state.world)
  unknown : ∀ id, state.callers id = none → state.made id = []
  accounts : ∀ id call stage, state.callers id = some ⟨call, stage⟩ →
    stage.Accounts setup.conversion call (state.made id)

end ClientState

section Steps

variable {setup : InstalldSetup υ σ} {world : σ} {state next : ClientState υ σ}

/-- A step that performs nothing moves at most one call. -/
theorem isAccounted_setStage (accounted : state.IsAccounted setup world) {id : Nat}
    {call : InstalldCall} {stage : CallStage υ}
    (stageAccounts : stage.Accounts setup.conversion call (state.made id))
    (callers : next.callers = Function.update state.callers id (some ⟨call, stage⟩))
    (performed : next.performed = state.performed) (same : next.world = state.world) :
    next.IsAccounted setup world := by
  have made (other : Nat) : next.made other = state.made other := by
    rw [ClientState.made, performed]
    rfl
  constructor
  · rw [performed, same]
    exact accounted.replayed
  · intro other unknown
    rw [made]
    by_cases moved : other = id
    · rw [callers, moved, Function.update_self] at unknown
      cases unknown
    · rw [callers, Function.update_of_ne moved] at unknown
      exact accounted.unknown other unknown
  · intro other otherCall otherStage at_
    rw [made]
    by_cases moved : other = id
    · subst moved
      rw [callers, Function.update_self] at at_
      cases at_
      exact stageAccounts
    · rw [callers, Function.update_of_ne moved] at at_
      exact accounted.accounts other otherCall otherStage at_

theorem isAccounted_of_eq (accounted : state.IsAccounted setup world)
    (callers : next.callers = state.callers) (performed : next.performed = state.performed)
    (same : next.world = state.world) : next.IsAccounted setup world := by
  have made (id : Nat) : next.made id = state.made id := by
    rw [ClientState.made, performed]
    rfl
  constructor
  · rw [performed, same]
    exact accounted.replayed
  · intro id unknown
    rw [made]
    exact accounted.unknown id (callers ▸ unknown)
  · intro id call stage at_
    rw [made]
    exact accounted.accounts id call stage (callers ▸ at_)

theorem made_append (id other : Nat) (call : InstalldCall) (answer : InstalldAnswer)
    (appended : next.performed = state.performed ++ [⟨other, call, answer⟩]) :
    next.made id = state.made id ++ if other = id then [(call, answer)] else [] := by
  by_cases same : other = id
  · simp [ClientState.made, appended, same]
  · simp [ClientState.made, appended, same]

/-- Installd performs a call that nothing has been performed for. -/
theorem isAccounted_served (accounted : state.IsAccounted setup world)
    (hasRoom : InstalldParcel υ → InstalldItem υ → Bool) {id : Nat} {call : InstalldCall}
    {remote : InstalldRemote} {data : InstalldParcel υ}
    (at_ : state.callers id = some ⟨call, .handling remote data⟩) :
    (state.served id call (setup.serve hasRoom call data state.world)).IsAccounted setup
      world := by
  obtain ⟨accepted, none, rfl⟩ := accounted.accounts id call _ at_
  obtain ⟨performed, managed, reply⟩ := InstalldHost.onRemoteRequest_items setup.conversion
    setup.installd hasRoom setup.stub call state.world
  have appended : (state.served id call (setup.serve hasRoom call
      (InstalldProxy.items setup.conversion call) state.world)).performed =
        state.performed ++ [⟨id, call, (setup.installd.perform call state.world).1⟩] := by
    simp [ClientState.served, InstalldSetup.serve, performed]
  constructor
  · rw [appended, List.map_append, IInstalld.performAll_append, accounted.replayed]
    simp only [ClientState.served, InstalldSetup.serve, managed]
    simp [IInstalld.performAll]
  · intro other unknown
    have apart : other ≠ id := by
      rintro rfl
      simp [ClientState.served, ClientState.setStage] at unknown
    rw [made_append other id call _ appended, if_neg (Ne.symm apart), List.append_nil]
    apply accounted.unknown other
    simpa [ClientState.served, ClientState.setStage, apart] using unknown
  · intro other otherCall stage at_'
    rw [made_append other id call _ appended]
    by_cases moved : other = id
    · subst moved
      obtain ⟨rfl, rfl⟩ : call = otherCall ∧ _ = stage := by
        simpa [ClientState.served, ClientState.setStage] using at_'
      rw [none, if_pos rfl]
      exact ⟨accepted, _, rfl, reply⟩
    · rw [if_neg (Ne.symm moved), List.append_nil]
      apply accounted.accounts other otherCall stage
      simpa [ClientState.served, ClientState.setStage, moved] using at_'

theorem accounts_enter (conversion : StringConversion υ) (call : InstalldCall) :
    (enter call : CallStage υ).Accounts conversion call [] := by
  unfold enter
  split
  · next accepted => exact ⟨accepted, rfl⟩
  · next bad => exact .rejected (by simpa using bad)

theorem accounts_receive {conversion : StringConversion υ} {call : InstalldCall}
    {status : Int32} {reply : InstalldParcel υ} {made : List (InstalldCall × InstalldAnswer)}
    (answered : (CallStage.answered status reply).Accounts conversion call made) :
    Outcome call (InstalldProxy.receive call status reply) made := by
  obtain ⟨accepted, answer, rfl, whole⟩ := answered
  by_cases succeeded : status = 0
  · rw [succeeded, whole succeeded, InstalldHost.receive_repliesOf]
    exact .told accepted answer
  · rw [InstalldProxy.receive, if_pos succeeded]
    exact .lost accepted answer

theorem isAccounted_step (accounted : state.IsAccounted setup world)
    (step : InstalldStep setup state next) : next.IsAccounted setup world := by
  cases step with
  | enter id call new =>
      have start := accounts_enter setup.conversion call
      rw [← accounted.unknown id new] at start
      exact isAccounted_setStage accounted start rfl rfl rfl
  | look id at_ =>
      have waiting := accounted.accounts _ _ _ at_
      refine isAccounted_setStage accounted ?_ rfl rfl rfl
      split <;> exact waiting
  | lockFound id at_ | lock id at_ | ask id at_ | assign id at_ | crash id at_ =>
      have waiting := accounted.accounts _ _ _ at_
      refine isAccounted_setStage accounted ?_ rfl rfl rfl
      exact waiting
  | register id at_ =>
      have waiting := accounted.accounts _ _ _ at_
      refine isAccounted_setStage accounted ?_ (callers_addDeathRecipient _ _)
        (performed_addDeathRecipient _ _) (world_addDeathRecipient _ _)
      exact waiting
  | askFails id at_ =>
      obtain ⟨accepted, none⟩ := accounted.accounts _ _ _ at_
      refine isAccounted_setStage accounted ?_ rfl rfl rfl
      rw [none]
      exact .unsent accepted (.inl rfl)
  | request id hasRoom at_ found written =>
      obtain ⟨accepted, none⟩ := accounted.accounts _ _ _ at_
      refine isAccounted_setStage accounted ?_ rfl rfl rfl
      refine ⟨accepted, none, ?_⟩
      rw [InstalldParcel.writeAll_of_true written, List.nil_append]
  | requestFails id at_ found =>
      obtain ⟨accepted, none⟩ := accounted.accounts _ _ _ at_
      refine isAccounted_setStage accounted ?_ rfl rfl rfl
      rw [none]
      exact .unsent accepted (.inr (.inl rfl))
  | deliver id at_ running =>
      have sent := accounted.accounts _ _ _ at_
      refine isAccounted_setStage accounted ?_ rfl rfl rfl
      exact sent
  | refuse id at_ | loseMessage id at_ =>
      obtain ⟨accepted, none, -⟩ := accounted.accounts _ _ _ at_
      refine isAccounted_setStage accounted ?_ rfl rfl rfl
      rw [none]
      exact .unsent accepted (.inr (.inr rfl))
  | serve id hasRoom at_ running => exact isAccounted_served accounted hasRoom at_
  | loseReply id at_ =>
      obtain ⟨accepted, answer, performed, -⟩ := accounted.accounts _ _ _ at_
      refine isAccounted_setStage accounted ?_ rfl rfl rfl
      rw [performed]
      exact .lost accepted answer
  | receive id at_ =>
      have answered := accounted.accounts _ _ _ at_
      refine isAccounted_setStage accounted ?_ rfl rfl rfl
      exact accounts_receive answered
  | start stopped => exact isAccounted_of_eq accounted rfl rfl rfl
  | die running => exact isAccounted_of_eq accounted rfl rfl rfl
  | onRemoteDied told =>
      exact isAccounted_of_eq accounted (callers_resetInstalldProxy _)
        (performed_resetInstalldProxy _) (world_resetInstalldProxy _)

theorem isAccounted_of_run
    (run : ReflTransGen (InstalldStep setup) { world := world } state) :
    state.IsAccounted setup world := by
  refine Runs.invariant (IsAccounted setup world)
    (fun before after accounted step => isAccounted_step accounted step) run ?_
  constructor
  · rfl
  · intro id unknown
    rfl
  · intro id call stage at_
    cases at_

theorem length_le_of_accounts {conversion : StringConversion υ} {call : InstalldCall}
    {stage : CallStage υ} {made : List (InstalldCall × InstalldAnswer)}
    (accounts : stage.Accounts conversion call made) : made.length ≤ 1 := by
  cases stage with
  | sending | handling =>
      obtain ⟨-, rfl, -⟩ := accounts
      exact Nat.zero_le 1
  | answered =>
      obtain ⟨-, answer, rfl, -⟩ := accounts
      exact Nat.le_refl 1
  | returned answer =>
      cases accounts with
      | rejected | unsent => exact Nat.zero_le 1
      | lost | told => exact Nat.le_refl 1
  | entered | locking | asking | registering | assigning | proxied | crashed =>
      obtain ⟨-, rfl⟩ := accounts
      exact Nat.zero_le 1

end Steps

/-- An installd that lists the directories it is asked to remove. -/
def removalSetup : InstalldSetup (List UInt16) (List String) where
  conversion := .utf16
  installd :=
    { createBundleDir := fun _ world => (.ok, world)
      extractModuleFiles := fun _ _ _ _ world => (.ok, world)
      renameModuleDir := fun _ _ world => (.ok, world)
      createBundleDataDir := fun _ _ _ _ _ world => (.ok, world)
      removeBundleDataDir := fun _ _ world => (.ok, world)
      removeModuleDataDir := fun _ _ world => (.ok, world)
      removeDir := fun dir world => (.ok, dir :: world)
      cleanBundleDataDir := fun _ world => (.ok, world)
      getBundleStats := fun _ _ world => (.ok, [], world)
      setDirApl := fun _ _ _ world => (.ok, world)
      getBundleCachePath := fun _ world => (.ok, [], world) }
  stub := fun _ => -1

end AppExecFwk
