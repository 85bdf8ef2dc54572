import AppExecFwk.Installd.CallsPerformed

/-!
# Proxies of an installd that has died

The client is told of the death of the installd it has a proxy of, unless installd
dies while a call looks for it: then the proxy it keeps is never replaced, and no
later call reaches the installd that is started next.
-/

namespace AppExecFwk

open Relation ClientState InstalldClient

variable {υ σ : Type}

/-- The stages at which a call holds the lock of the client. -/
def CallStage.IsLocked : CallStage υ → Prop
  | .asking | .registering _ | .assigning _ => True
  | _ => False

namespace ClientState

/-- No call has asked for installd and not yet kept its proxy. -/
def NoneRegisters (state : ClientState υ σ) : Prop :=
  ∀ id call remote, state.callers id ≠ some ⟨call, .registering remote⟩ ∧
    state.callers id ≠ some ⟨call, .assigning remote⟩

/-- Installd does not die while a call registers with it. -/
def DiesApart (state next : ClientState υ σ) : Prop :=
  state.service.isSome → next.service = none → state.NoneRegisters

/-- The proxy is that of the installd that runs, or its death is told. -/
structure IsCurrent (state : ClientState υ σ) : Prop where
  held : ∀ remote, state.installdProxy = some remote →
    (state.service = some remote ∧ remote ∈ state.registered) ∨ remote ∈ state.notices
  locked : ∀ id call stage, state.callers id = some ⟨call, stage⟩ → stage.IsLocked →
    state.lockHolder = some id ∧ state.installdProxy = none
  registering : ∀ id call remote, state.callers id = some ⟨call, .registering remote⟩ →
    state.service = some remote
  assigning : ∀ id call remote, state.callers id = some ⟨call, .assigning remote⟩ →
    state.service = some remote ∧ remote ∈ state.registered

end ClientState

section Steps

variable {setup : InstalldSetup υ σ} {state next : ClientState υ σ} {id other : Nat}
  {call otherCall : InstalldCall} {stage otherStage : CallStage υ}

/-- A call at its stage after another, or the same, has moved. -/
theorem at_of_update
    (callers : next.callers = Function.update state.callers id (some ⟨call, stage⟩))
    (at_ : next.callers other = some ⟨otherCall, otherStage⟩) :
    (other = id ∧ otherCall = call ∧ otherStage = stage) ∨
      (other ≠ id ∧ state.callers other = some ⟨otherCall, otherStage⟩) := by
  rw [callers] at at_
  by_cases moved : other = id
  · subst moved
    rw [Function.update_self] at at_
    cases at_
    exact .inl ⟨rfl, rfl, rfl⟩
  · rw [Function.update_of_ne moved] at at_
    exact .inr ⟨moved, at_⟩

/-- Nobody else holds the lock. -/
theorem not_isLocked (current : state.IsCurrent)
    (at_ : state.callers id = some ⟨call, stage⟩) (locked : stage.IsLocked)
    (apart : other ≠ id) (otherAt : state.callers other = some ⟨otherCall, otherStage⟩) :
    ¬ otherStage.IsLocked := by
  intro otherLocked
  have holder := (current.locked id call stage at_ locked).1
  have otherHolder := (current.locked other otherCall otherStage otherAt otherLocked).1
  exact apart (Option.some.inj (otherHolder.symm.trans holder))

/-- A call moves to a stage at which it does not hold the lock. -/
theorem isCurrent_setStage (current : state.IsCurrent) (free : ¬ stage.IsLocked)
    (callers : next.callers = Function.update state.callers id (some ⟨call, stage⟩))
    (lockHolder : next.lockHolder = state.lockHolder)
    (proxy : next.installdProxy = state.installdProxy)
    (registered : next.registered = state.registered)
    (notices : next.notices = state.notices) (service : next.service = state.service) :
    next.IsCurrent := by
  constructor
  · rw [proxy, registered, notices, service]
    exact current.held
  · intro other otherCall otherStage at_ locked
    rw [lockHolder, proxy]
    obtain ⟨-, -, rfl⟩ | ⟨-, before⟩ := at_of_update callers at_
    · exact absurd locked free
    · exact current.locked other otherCall otherStage before locked
  · intro other otherCall remote at_
    rw [service]
    obtain ⟨-, -, rfl⟩ | ⟨-, before⟩ := at_of_update callers at_
    · exact absurd trivial free
    · exact current.registering other otherCall remote before
  · intro other otherCall remote at_
    rw [service, registered]
    obtain ⟨-, -, rfl⟩ | ⟨-, before⟩ := at_of_update callers at_
    · exact absurd trivial free
    · exact current.assigning other otherCall remote before

/-- The only call that holds the lock, or takes or releases it, moves. -/
theorem isCurrent_holder
    (alone : ∀ other otherCall otherStage, other ≠ id →
      state.callers other = some ⟨otherCall, otherStage⟩ → ¬ otherStage.IsLocked)
    (callers : next.callers = Function.update state.callers id (some ⟨call, stage⟩))
    (held : ∀ remote, next.installdProxy = some remote →
      (next.service = some remote ∧ remote ∈ next.registered) ∨ remote ∈ next.notices)
    (locked : stage.IsLocked → next.lockHolder = some id ∧ next.installdProxy = none)
    (registering : ∀ remote, stage = .registering remote → next.service = some remote)
    (assigning : ∀ remote, stage = .assigning remote →
      next.service = some remote ∧ remote ∈ next.registered) : next.IsCurrent := by
  constructor
  · exact held
  · intro other otherCall otherStage at_ otherLocked
    obtain ⟨rfl, -, rfl⟩ | ⟨apart, before⟩ := at_of_update callers at_
    · exact locked otherLocked
    · exact absurd otherLocked (alone other otherCall otherStage apart before)
  · intro other otherCall remote at_
    obtain ⟨-, -, same⟩ | ⟨apart, before⟩ := at_of_update callers at_
    · exact registering remote same.symm
    · exact absurd trivial (alone other otherCall _ apart before)
  · intro other otherCall remote at_
    obtain ⟨-, -, same⟩ | ⟨apart, before⟩ := at_of_update callers at_
    · exact assigning remote same.symm
    · exact absurd trivial (alone other otherCall _ apart before)

/-- No call is moved, and nothing is looked for. -/
theorem isCurrent_of_noneRegisters (current : state.IsCurrent) (none : state.NoneRegisters)
    (callers : next.callers = state.callers) (lockHolder : next.lockHolder = state.lockHolder)
    (held : ∀ remote, next.installdProxy = some remote →
      (next.service = some remote ∧ remote ∈ next.registered) ∨ remote ∈ next.notices)
    (absent : state.installdProxy = .none → next.installdProxy = .none) : next.IsCurrent := by
  constructor
  · exact held
  · intro id call stage at_ locked
    rw [callers] at at_
    obtain ⟨holder, without⟩ := current.locked id call stage at_ locked
    exact ⟨lockHolder.trans holder, absent without⟩
  · intro id call remote at_
    rw [callers] at at_
    exact absurd at_ (none id call remote).1
  · intro id call remote at_
    rw [callers] at at_
    exact absurd at_ (none id call remote).2

theorem enter_not_isLocked (call : InstalldCall) : ¬ (enter call : CallStage υ).IsLocked := by
  unfold enter
  split <;> exact fun locked => locked

theorem isCurrent_register {remote : InstalldRemote} (current : state.IsCurrent)
    (at_ : state.callers id = some ⟨call, .registering remote⟩) :
    ((state.setStage id call (.assigning remote)).addDeathRecipient remote).IsCurrent := by
  have running := current.registering id call remote at_
  obtain ⟨holder, absent⟩ := current.locked id call _ at_ trivial
  have recorded : (state.setStage id call (.assigning remote)).addDeathRecipient remote =
      { state.setStage id call (.assigning remote) with
        registered := remote :: state.registered } := if_pos running
  rw [recorded]
  refine isCurrent_holder (fun other otherCall otherStage apart =>
    not_isLocked current at_ trivial apart) rfl ?_ (fun _ => ⟨holder, absent⟩) ?_ ?_
  · intro other present
    cases absent.symm.trans present
  · intro other same
    cases same
  · intro other same
    cases same
    exact ⟨running, List.mem_cons_self⟩

theorem isCurrent_die {remote : InstalldRemote} (current : state.IsCurrent)
    (running : state.service = some remote) (none : state.NoneRegisters) :
    (state.die remote).IsCurrent := by
  refine isCurrent_of_noneRegisters current none rfl rfl ?_ id
  intro held present
  obtain ⟨alive, registered⟩ | told := current.held held present
  · have same : held = remote := Option.some.inj (alive.symm.trans running)
    subst same
    refine .inr ?_
    rw [ClientState.die, if_pos registered]
    exact List.mem_cons_self
  · refine .inr ?_
    rw [ClientState.die]
    split
    · exact List.mem_cons_of_mem remote told
    · exact told

theorem isCurrent_onRemoteDied {remote : InstalldRemote} (current : state.IsCurrent) :
    ({ state with notices := state.notices.erase remote }.resetInstalldProxy).IsCurrent := by
  obtain absent | ⟨proxy, present⟩ := Option.eq_none_or_eq_some state.installdProxy
  · rw [resetInstalldProxy_of_none
      (show { state with notices := state.notices.erase remote }.installdProxy = none from absent)]
    constructor
    · intro held found
      cases absent.symm.trans found
    · exact current.locked
    · exact current.registering
    · exact current.assigning
  · have free id call stage (at_ : state.callers id = some ⟨call, stage⟩) :
        ¬ stage.IsLocked := by
      intro locked
      cases present.symm.trans (current.locked id call stage at_ locked).2
    rw [resetInstalldProxy_of_some
      (show { state with notices := state.notices.erase remote }.installdProxy = some proxy from
        present)]
    constructor
    · intro held found
      cases found
    · intro id call stage at_ locked
      exact absurd locked (free id call stage at_)
    · intro id call held at_
      exact absurd trivial (free id call _ at_)
    · intro id call held at_
      exact absurd trivial (free id call _ at_)

theorem isCurrent_step (current : state.IsCurrent) (step : InstalldStep setup state next)
    (apart : state.DiesApart next) : next.IsCurrent := by
  cases step with
  | enter id call new =>
      exact isCurrent_setStage current (enter_not_isLocked call) rfl rfl rfl rfl rfl rfl
  | look id at_ =>
      refine isCurrent_setStage current ?_ rfl rfl rfl rfl rfl rfl
      split <;> exact fun locked => locked
  | lockFound id at_ | crash id at_ | request id _ at_ | requestFails id at_ | deliver id at_
  | refuse id at_ | serve id _ at_ | loseMessage id at_ | loseReply id at_ | receive id at_ =>
      refine isCurrent_setStage current ?_ rfl rfl rfl rfl rfl rfl
      exact fun locked => locked
  | lock id at_ free absent =>
      refine isCurrent_holder ?_ rfl ?_ (fun _ => ⟨rfl, absent⟩) ?_ ?_
      · intro other otherCall otherStage apart before locked
        rw [(current.locked other otherCall otherStage before locked).1] at free
        cases free
      · intro remote present
        cases absent.symm.trans present
      · intro remote same
        cases same
      · intro remote same
        cases same
  | askFails id at_ =>
      refine isCurrent_holder (fun other otherCall otherStage apart =>
        not_isLocked current at_ trivial apart) rfl current.held (fun locked => locked.elim) ?_ ?_
      · intro remote same
        cases same
      · intro remote same
        cases same
  | ask id at_ running =>
      refine isCurrent_holder (fun other otherCall otherStage apart =>
        not_isLocked current at_ trivial apart) rfl current.held
        (fun _ => current.locked id _ _ at_ trivial) ?_ ?_
      · intro remote same
        cases same
        exact running
      · intro remote same
        cases same
  | register id at_ => exact isCurrent_register current at_
  | assign id at_ =>
      refine isCurrent_holder (fun other otherCall otherStage apart =>
        not_isLocked current at_ trivial apart) rfl ?_ (fun locked => locked.elim) ?_ ?_
      · intro remote present
        cases present
        exact .inl (current.assigning id _ _ at_)
      · intro remote same
        cases same
      · intro remote same
        cases same
  | start stopped =>
      have none : state.NoneRegisters := by
        intro id call remote
        refine ⟨fun at_ => ?_, fun at_ => ?_⟩
        · rw [current.registering id call remote at_] at stopped
          cases stopped
        · rw [(current.assigning id call remote at_).1] at stopped
          cases stopped
      refine isCurrent_of_noneRegisters current none rfl rfl ?_ (fun absent => absent)
      intro remote present
      obtain ⟨alive, -⟩ | told := current.held remote present
      · rw [stopped] at alive
        cases alive
      · exact .inr told
  | die running =>
      refine isCurrent_die current running (apart ?_ rfl)
      rw [running]
      rfl
  | onRemoteDied told => exact isCurrent_onRemoteDied current

end Steps

/-- If installd never dies while a call registers with it, the client's proxy is that of
the installd that runs whenever no death told is left to be handled. -/
theorem proxy_current {setup : InstalldSetup υ σ} {world : σ} {state : ClientState υ σ}
    (run : ReflTransGen (Runs.Meeting (InstalldStep setup) ClientState.DiesApart)
      { world := world } state)
    (handled : state.notices = []) {remote : InstalldRemote}
    (held : state.installdProxy = some remote) : state.service = some remote := by
  have start : ({ world := world } : ClientState υ σ).IsCurrent := by
    constructor
    · intro other present
      cases present
    · intro id call stage at_
      cases at_
    · intro id call other at_
      cases at_
    · intro id call other at_
      cases at_
  have current := Runs.invariant ClientState.IsCurrent
    (fun before after kept step => isCurrent_step kept step.1 step.2) run start
  obtain ⟨alive, -⟩ | told := current.held remote held
  · exact alive
  · rw [handled] at told
    cases told

theorem proxy_current_started :
    ∃ state : ClientState (List UInt16) (List String),
      ReflTransGen (Runs.Meeting (InstalldStep removalSetup) ClientState.DiesApart)
        { world := [] } state ∧ state.installdProxy = some 0 ∧ state.service = some 0 := by
  have started : ReflTransGen (Runs.Meeting (InstalldStep removalSetup) ClientState.DiesApart)
      { world := [] } _ := .tail .refl ⟨.start rfl, fun alive => by cases alive⟩
  have entered := started.tail
    ⟨.enter 0 (.removeDir "/data/app") rfl, fun _ dead => by cases dead⟩
  have looked := entered.tail ⟨.look 0 rfl, fun _ dead => by cases dead⟩
  have locked := looked.tail ⟨.lock 0 rfl rfl rfl, fun _ dead => by cases dead⟩
  have asked := locked.tail ⟨.ask 0 rfl rfl, fun _ dead => by cases dead⟩
  have registered := asked.tail ⟨.register 0 rfl, fun _ dead => by cases dead⟩
  have assigned := registered.tail ⟨.assign 0 rfl, fun _ dead => by cases dead⟩
  exact ⟨_, assigned, rfl, proxy_current assigned rfl rfl⟩

/-! ## Proxies that are never replaced -/

/-- The client has the proxy of an installd that has died, and will not be told. -/
structure ClientState.IsStale (remote : InstalldRemote) (state : ClientState υ σ) : Prop where
  held : state.installdProxy = some remote
  dead : state.service ≠ some remote
  old : remote < state.started
  unregistered : state.registered = []
  unnoticed : state.notices = []
  unlocked : ∀ id call stage, state.callers id = some ⟨call, stage⟩ → ¬ stage.IsLocked

/-- The stages of a call that has only the proxy of an installd that has died. -/
def CallStage.IsStuck (remote : InstalldRemote) : CallStage υ → Prop
  | .entered | .proxied => True
  | .sending other _ => other = remote
  | .returned answer => answer.result = .installdParamError ∨ answer.result = .parcelError ∨
      answer.result = .installInstalldServiceError
  | _ => False

section Stale

variable {setup : InstalldSetup υ σ} {state next : ClientState υ σ} {id : Nat}
  {call : InstalldCall} {stage : CallStage υ} {remote : InstalldRemote}

theorem isStale_setStage (stale : state.IsStale remote) (free : ¬ stage.IsLocked)
    (callers : next.callers = Function.update state.callers id (some ⟨call, stage⟩))
    (proxy : next.installdProxy = state.installdProxy)
    (registered : next.registered = state.registered) (notices : next.notices = state.notices)
    (service : next.service = state.service) (started : next.started = state.started) :
    next.IsStale remote := by
  constructor
  · exact proxy.trans stale.held
  · exact service ▸ stale.dead
  · exact started ▸ stale.old
  · exact registered.trans stale.unregistered
  · exact notices.trans stale.unnoticed
  · intro other otherCall otherStage at_
    obtain ⟨-, -, rfl⟩ | ⟨-, before⟩ := at_of_update callers at_
    · exact free
    · exact stale.unlocked other otherCall otherStage before

theorem isStale_step (stale : state.IsStale remote) (step : InstalldStep setup state next) :
    next.IsStale remote := by
  cases step with
  | enter id call new =>
      exact isStale_setStage stale (enter_not_isLocked call) rfl rfl rfl rfl rfl rfl
  | look id at_ =>
      refine isStale_setStage stale ?_ rfl rfl rfl rfl rfl rfl
      split <;> exact fun locked => locked
  | lockFound id at_ | crash id at_ | request id _ at_ | requestFails id at_ | deliver id at_
  | refuse id at_ | serve id _ at_ | loseMessage id at_ | loseReply id at_ | receive id at_ =>
      refine isStale_setStage stale ?_ rfl rfl rfl rfl rfl rfl
      exact fun locked => locked
  | lock id at_ free absent => cases absent.symm.trans stale.held
  | askFails id at_ | ask id at_ | register id at_ | assign id at_ =>
      exact absurd trivial (stale.unlocked id _ _ at_)
  | start stopped =>
      refine ⟨stale.held, ?_, Nat.lt_succ_of_lt stale.old, stale.unregistered, stale.unnoticed,
        stale.unlocked⟩
      intro same
      exact absurd (Option.some.inj same) (Nat.ne_of_gt stale.old)
  | die running =>
      refine ⟨stale.held, by simp [ClientState.die], stale.old, ?_, ?_, stale.unlocked⟩
      · simp [ClientState.die, stale.unregistered]
      · simp [ClientState.die, stale.unregistered, stale.unnoticed]
  | onRemoteDied told =>
      rw [stale.unnoticed] at told
      cases told

/-- A call that begins later, if it has begun, is stuck and nothing is performed for it. -/
def IsRefused (remote : InstalldRemote) (before state : ClientState υ σ) (id : Nat) : Prop :=
  state.made id = before.made id ∧
    ∀ call stage, state.callers id = some ⟨call, stage⟩ → stage.IsStuck remote

theorem isRefused_move {before : ClientState υ σ} {other : Nat}
    (refused : IsRefused remote before state id) (performed : next.performed = state.performed)
    (callers : next.callers = Function.update state.callers other (some ⟨call, stage⟩))
    (stuck : other = id → stage.IsStuck remote) : IsRefused remote before next id := by
  refine ⟨?_, ?_⟩
  · rw [ClientState.made, performed]
    exact refused.1
  · intro otherCall otherStage at_
    obtain ⟨rfl, -, rfl⟩ | ⟨-, at_⟩ := at_of_update callers at_
    · exact stuck rfl
    · exact refused.2 otherCall otherStage at_

theorem isStuck_enter (call : InstalldCall) : (enter call : CallStage υ).IsStuck remote := by
  unfold enter
  split
  · trivial
  · exact .inl rfl

/-- Installd performs a call that is not stuck. -/
theorem isRefused_served {before : ClientState υ σ} {other : Nat} {data : InstalldParcel υ}
    {found : InstalldRemote} (refused : IsRefused remote before state id)
    (at_ : state.callers other = some ⟨call, .handling found data⟩)
    (served : InstalldHost.Served υ σ) :
    IsRefused remote before (state.served other call served) id := by
  have apart : other ≠ id := by
    rintro rfl
    exact refused.2 call _ at_
  refine ⟨?_, ?_⟩
  · rw [← refused.1]
    cases made : served.performed <;> simp [ClientState.served, ClientState.made, made, apart]
  · intro otherCall otherStage at_'
    have callers : (state.served other call served).callers = Function.update state.callers other
        (some ⟨call, .answered served.status served.reply⟩) := rfl
    obtain ⟨same, -, -⟩ | ⟨-, at_'⟩ := at_of_update callers at_'
    · exact absurd same.symm apart
    · exact refused.2 otherCall otherStage at_'

theorem isRefused_step {before : ClientState υ σ} (stale : state.IsStale remote)
    (refused : IsRefused remote before state id) (step : InstalldStep setup state next) :
    IsRefused remote before next id := by
  cases step with
  | enter other call new =>
      exact isRefused_move refused rfl rfl fun _ => isStuck_enter call
  | look other at_ =>
      refine isRefused_move refused rfl rfl fun _ => ?_
      rw [stale.held]
      trivial
  | lockFound other at_ => exact isRefused_move refused rfl rfl fun _ => trivial
  | lock other at_ free absent => cases absent.symm.trans stale.held
  | askFails other at_ | ask other at_ | register other at_ | assign other at_ =>
      exact absurd trivial (stale.unlocked other _ _ at_)
  | crash other at_ absent => cases absent.symm.trans stale.held
  | request other hasRoom at_ found =>
      refine isRefused_move refused rfl rfl fun _ => ?_
      exact Option.some.inj (found.symm.trans stale.held)
  | requestFails other at_ =>
      refine isRefused_move refused rfl rfl fun _ => ?_
      exact .inr (.inl rfl)
  | deliver other at_ running =>
      refine isRefused_move refused rfl rfl ?_
      rintro rfl
      have sent := refused.2 _ _ at_
      exact absurd (sent ▸ running) stale.dead
  | refuse other at_ | loseMessage other at_ | loseReply other at_ =>
      refine isRefused_move refused rfl rfl fun _ => ?_
      exact .inr (.inr rfl)
  | serve other hasRoom at_ running => exact isRefused_served refused at_ _
  | receive other at_ =>
      refine isRefused_move refused rfl rfl ?_
      rintro rfl
      exact (refused.2 _ _ at_).elim
  | start stopped => exact refused
  | die running => exact refused
  | onRemoteDied told =>
      rw [stale.unnoticed] at told
      cases told

end Stale

/-- Once the client has the proxy of an installd that died before it could register, no
call that begins later is performed, however often installd is started. -/
theorem stale_refuses {setup : InstalldSetup υ σ} {state next : ClientState υ σ}
    {remote : InstalldRemote} (stale : state.IsStale remote)
    (run : ReflTransGen (InstalldStep setup) state next) {id : Nat}
    (later : state.callers id = none) :
    next.installdProxy = some remote ∧ next.service ≠ some remote ∧
      next.made id = state.made id ∧
        ∀ call answer, next.callers id = some ⟨call, .returned answer⟩ →
          answer.result = .installdParamError ∨ answer.result = .parcelError ∨
            answer.result = .installInstalldServiceError := by
  have start : state.IsStale remote ∧ IsRefused remote state state id := by
    refine ⟨stale, rfl, ?_⟩
    intro call stage at_
    cases later.symm.trans at_
  obtain ⟨kept, refused⟩ := Runs.invariant
    (fun after => after.IsStale remote ∧ IsRefused remote state after id)
    (fun _ _ both step => ⟨isStale_step both.1 step, isRefused_step both.1 both.2 step⟩)
    run start
  exact ⟨kept.held, kept.dead, refused.1, fun call answer at_ => refused.2 call _ at_⟩

/-- Installd dies between the lookup and the registration, and is started again. -/
theorem stale_refuses_removeDir :
    ∃ state next : ClientState (List UInt16) (List String),
      ReflTransGen (InstalldStep removalSetup) { world := [] } state ∧
        ReflTransGen (InstalldStep removalSetup) state next ∧
        next.installdProxy = some 0 ∧ next.service = some 1 ∧
        next.callers 1 = some ⟨.removeDir "/data/app",
          .returned ⟨.installInstalldServiceError, {}⟩⟩ ∧ next.made 1 = [] := by
  have started : ReflTransGen (InstalldStep removalSetup) { world := [] } _ :=
    .tail .refl (.start rfl)
  have entered := started.tail (.enter 0 (.removeDir "/data/old") rfl)
  have looked := entered.tail (.look 0 rfl)
  have locked := looked.tail (.lock 0 rfl rfl rfl)
  have asked := locked.tail (.ask 0 rfl rfl)
  have died := asked.tail (.die rfl)
  have registered := died.tail (.register 0 rfl)
  have assigned := registered.tail (.assign 0 rfl)
  have restarted := assigned.tail (.start rfl)
  obtain ⟨state, reached, stale, running, later, none⟩ :
      ∃ state : ClientState (List UInt16) (List String),
        ReflTransGen (InstalldStep removalSetup) { world := [] } state ∧ state.IsStale 0 ∧
          state.service = some 1 ∧ state.callers 1 = none ∧ state.made 1 = [] := by
    refine ⟨_, restarted, ⟨rfl, by decide, by decide, rfl, rfl, ?_⟩, rfl, rfl, rfl⟩
    intro id call stage at_
    obtain ⟨-, -, rfl⟩ | ⟨apart, before⟩ := at_of_update rfl at_
    · exact fun locked => locked
    · simp [ClientState.addDeathRecipient, ClientState.die, ClientState.setStage, apart] at before
  have begun : ReflTransGen (InstalldStep removalSetup) state _ :=
    .tail .refl (.enter 1 (.removeDir "/data/app") later)
  have proxied : (state.setStage 1 (.removeDir "/data/app")
      (enter (.removeDir "/data/app"))).installdProxy = some 0 := stale.held
  have found := begun.tail (.look 1 rfl)
  rw [proxied] at found
  have sent := found.tail (.request 1 (fun _ _ => true) rfl stale.held rfl)
  have refused := sent.tail (.refuse 1 rfl)
  obtain ⟨held, -, made, -⟩ := stale_refuses stale refused later
  exact ⟨state, _, reached, refused, held, running, rfl, made.trans none⟩

end AppExecFwk
