import Mathlib.Algebra.Order.Group.Nat
import Mathlib.Data.Option.Basic
import AppExecFwk.Library.OrderedMap
import AppExecFwk.FreeInstall.BundleConnectAbilityMgr

/-!
# Entries of free-install requests

What holds of the entries, of the threads that act for them and of the
connection in every run in which nothing comes in the way, and what a single
change of the state keeps of it.
-/

namespace AppExecFwk

namespace FreeInstallWork

/-- The call that is neither answered nor entered in the map yet. -/
def pending? : FreeInstallWork → Option RequestId
  | .counting call | .numbering call | .emplacing call _ => some call.request
  | _ => none

/-- The transaction that the thread brings to an end or arms a timeout for. -/
def transaction? : FreeInstallWork → Option String
  | .posting _ transactId | .reporting transactId _ | .forgetting transactId =>
      some transactId
  | .requesting request _ => some request.transactId
  | .callingBack callBack phase =>
      match phase with
      | .lookingUp | .notifying .. | .erasing _ => some callBack.transactId
      | .checkingEmpty | .disconnecting => none
  | .removing result | .reading result =>
      if result.retCode = ServiceCenterResultCode.freeInstallDownloading then none
      else some result.transactId
  | _ => none

/-- The entry whose callback the thread has and which it has not erased. -/
def fetched? : FreeInstallWork → Option (String × RequestId)
  | .callingBack callBack (.notifying _ request)
  | .callingBack callBack (.erasing request) =>
      some (callBack.transactId, request)
  | _ => none

/-- The entry whose call has been answered and which the thread has to erase. -/
def erasing? : FreeInstallWork → Option (String × RequestId)
  | .callingBack callBack (.erasing request) => some (callBack.transactId, request)
  | _ => none

/-- The thread is about to drop the connection. -/
def isDisconnecting : FreeInstallWork → Bool
  | .callingBack _ .disconnecting => true
  | _ => false

/-- The thread waits for the connection. -/
def awaits? : FreeInstallWork → Option AwaitPhase
  | .requesting _ (.awaiting _ phase) => some phase
  | _ => none

@[simp]
theorem wake_pending? (work : FreeInstallWork) :
    work.wake.pending? = work.pending? := by
  unfold wake
  split <;> rfl

@[simp]
theorem wake_transaction? (work : FreeInstallWork) :
    work.wake.transaction? = work.transaction? := by
  unfold wake
  split <;> rfl

@[simp]
theorem wake_fetched? (work : FreeInstallWork) :
    work.wake.fetched? = work.fetched? := by
  unfold wake
  split <;> rfl

@[simp]
theorem wake_erasing? (work : FreeInstallWork) :
    work.wake.erasing? = work.erasing? := by
  unfold wake
  split <;> rfl

@[simp]
theorem wake_isDisconnecting (work : FreeInstallWork) :
    work.wake.isDisconnecting = work.isDisconnecting := by
  unfold wake
  split <;> rfl

/-- A thread that has to erase an entry has its callback. -/
theorem fetched?_of_erasing? {work : FreeInstallWork}
    {entry : String × RequestId} (erases : work.erasing? = some entry) :
    work.fetched? = some entry := by
  unfold erasing? at erases
  split at erases
  · exact erases
  · cases erases

/-- The thread has neither a call to answer nor an entry to erase nor a
connection to drop. -/
def isQuiet : FreeInstallWork → Bool
  | .idle | .posting .. | .requesting .. | .removing _ | .reading _ => true
  | .callingBack _ .lookingUp | .callingBack _ .checkingEmpty => true
  | _ => false

/-- A thread in a request task has been in it before it was woken. -/
theorem eq_of_wake {work : FreeInstallWork} {request : ServiceRequest}
    {phase : ServiceRequestPhase} (woken : work.wake = .requesting request phase) :
    ∃ before, work = .requesting request before := by
  unfold wake at woken
  split at woken
  · cases woken
    exact ⟨_, rfl⟩
  · exact ⟨phase, woken⟩

@[simp]
theorem wake_eq_reporting {work : FreeInstallWork} {transactId : String}
    {params : FreeInstallParams} :
    work.wake = .reporting transactId params ↔
      work = .reporting transactId params := by
  unfold wake
  split <;> simp

@[simp]
theorem wake_eq_forgetting {work : FreeInstallWork} {transactId : String} :
    work.wake = .forgetting transactId ↔ work = .forgetting transactId := by
  unfold wake
  split <;> simp

end FreeInstallWork

namespace FreeInstallState

variable (state : FreeInstallState)

def HasEntry (transactId : String) (params : FreeInstallParams) : Prop :=
  state.freeInstallParamsMap[transactId]? = some params

/-- How often a call has been answered. -/
def answersTo (request : RequestId) : Nat :=
  state.answers.countP (·.request = request)

/-- A task or a timeout waits for the transaction, or a thread acts for it. -/
def IsServed (transactId : String) : Prop :=
  (∃ task ∈ state.tasks, task.transactId = transactId) ∨
    ∃ thread, (state.work thread).transaction? = some transactId

/-- What the claim of free-install transactions says about a state. -/
structure KeepsTransactions : Prop where
  defined : state.isUndefined = false
  /-- No accepted call with a callback is answered twice. -/
  once : ∀ call ∈ state.accepted, call.callBack.isSome = true →
    state.answersTo call.request ≤ 1
  /-- It has been answered once its entry is gone. -/
  answered : ∀ call ∈ state.accepted, call.callBack.isSome = true →
    (∀ transactId params,
      state.HasEntry transactId params →
      params.request ≠ call.request) → state.answersTo call.request = 1
  /-- The entry leaves at the moment of the answer. -/
  leaves : ∀ transactId params,
    state.HasEntry transactId params →
      state.answersTo params.request = 0 ∨
        ∃ thread, (state.work thread).erasing? = some (transactId, params.request)
  served : ∀ transactId params,
    state.HasEntry transactId params →
      state.IsServed transactId
  /-- A thread that waits for the connection waits for an answer to come. -/
  awaited : ∀ thread, (state.work thread).awaits? = some .blocked →
    state.connectAsked = true
  /-- The connection is dropped only when no entry remains. -/
  dropped : ∀ entries ∈ state.disconnects, entries = 0

/-- A call is answered at once: the message can be written, and there is a
callback to send it to. -/
def IsAnswered (callBack : Option RemoteObject) (written : Bool) : Prop :=
  written = true ∧ callBack.isSome = true

/-- Nothing comes in the way of a thread's step. -/
def IsClear (thread : ThreadId) (outcome : Bool) : FreeInstallWork → Prop
  -- Nobody is about to drop the connection, and a transact id that is in use
  -- can be reported.
  | .emplacing call transactId =>
      (∀ other, (state.work other).isDisconnecting = false) ∧
        (state.freeInstallParamsMap.contains transactId = true →
          call.serviceCenterFunction ≠ .connectUpgradeCheck →
            IsAnswered call.callBack outcome)
  -- There is memory for the callback of the service center.
  | .requesting _ .allocatingCallback => outcome = true
  -- The entry has a callback that no other thread is about to call, or nothing
  -- is left.
  | .callingBack callBack .lookingUp =>
      (∃ params, state.HasEntry callBack.transactId params ∧
        params.callback.isSome = true ∧
        ∀ other request,
          (state.work other).fetched? ≠ some (callBack.transactId, request)) ∨
      state.freeInstallParamsMap.size = 0
  -- The message can be written.
  | .callingBack _ (.notifying ..) => outcome = true
  -- A reply that comes while the service center is downloading takes nothing
  -- away from an entry that only its task or its timeout acts for.
  | .removing result => state.hasHandler = true ∧
      (result.retCode = ServiceCenterResultCode.freeInstallDownloading →
        (∀ task ∈ state.tasks, task.transactId ≠ result.transactId) ∨
          ∃ other, other ≠ thread ∧
            (state.work other).transaction? = some result.transactId)
  -- The entry that was found is still there.
  | .reading result =>
      state.freeInstallParamsMap.contains result.transactId = true
  | _ => True

/-- Nothing comes in the way of what happens next. -/
def IsUndisturbed : FreeInstallEvent → Prop
  -- The names are given, and a call that is answered at once can be answered.
  | .query _ want _ callBack found allocated written =>
      want.bundleName ≠ "" ∧ want.abilityName ≠ "" ∧
        (found = some false ∨ found = some true ∧ allocated = false →
          IsAnswered callBack written)
  -- The service center dies when no entry is there.
  | .remoteDied _ => state.freeInstallParamsMap.size = 0
  | .advance thread outcome => state.IsClear thread outcome (state.work thread)
  -- The connection is made, and the runner does not miss the notification.
  | .connectDone succeeds => succeeds = true ∧
      (state.work runnerThread).awaits? ≠ some .blocking
  -- The connection is not lost before the runner has seen that it is there.
  | .disconnectDone =>
      (state.work runnerThread).awaits? ≠ none → state.connectAsked = true
  | _ => True

end FreeInstallState

/-- An event that happens at a state at which nothing comes in its way. -/
def FreeInstallStep (state next : FreeInstallState) : Prop :=
  ∃ event, state.IsUndisturbed event ∧ state.step event = some next

/-- How the work of the runner fits the connection. -/
def FreeInstallWork.FitsConnection (work : FreeInstallWork)
    (connectState : ServiceCenterConnectState) (connectAsked : Bool) : Prop :=
  match work with
  | .requesting _ .gettingProxy | .requesting _ .allocatingConnection
  | .requesting _ .askingToConnect =>
      connectAsked = false ∧ connectState ≠ .connected
  | .requesting _ (.awaiting .notConnecting _) => False
  | .requesting _ (.awaiting .connected .checking) =>
      connectAsked = true ↔ connectState ≠ .connected
  | .requesting _ (.awaiting .connected _) =>
      connectAsked = true ∧ connectState ≠ .connected
  | .requesting _ .checkingConnection => connectAsked = false
  | _ => connectAsked = false ∧ connectState ≠ .connecting

namespace FreeInstallState

variable {state next : FreeInstallState} {thread : ThreadId}
  {work : FreeInstallWork}

/-- What holds in every run in which nothing comes in the way. -/
structure IsOrderly (state : FreeInstallState) : Prop where
  defined : state.isUndefined = false
  served : ∀ transactId params,
    state.HasEntry transactId params →
      state.IsServed transactId
  pending : ∀ thread request,
    (state.work thread).pending? = some request →
      request < state.requestNum ∧ state.answersTo request = 0 ∧
        ∀ call ∈ state.accepted, call.request ≠ request
  pendingOnce : ∀ thread other request,
    (state.work thread).pending? = some request →
      (state.work other).pending? = some request → other = thread
  counted : ∀ call ∈ state.accepted, call.request < state.requestNum
  fresh : ∀ request, state.requestNum ≤ request → state.answersTo request = 0
  entered : ∀ transactId params,
    state.HasEntry transactId params →
      ∃ call ∈ state.accepted, call.request = params.request
  single : ∀ transactId params other otherParams,
    state.HasEntry transactId params →
      state.HasEntry other otherParams →
        params.request = otherParams.request → other = transactId
  fetched : ∀ thread transactId request,
    (state.work thread).fetched? = some (transactId, request) →
      ∃ params, state.HasEntry transactId params ∧
        params.request = request
  fetchedOnce : ∀ thread other transactId request otherRequest,
    (state.work thread).fetched? = some (transactId, request) →
      (state.work other).fetched? = some (transactId, otherRequest) →
        other = thread
  unanswered : ∀ transactId params,
    state.HasEntry transactId params →
      (∀ thread, (state.work thread).erasing? ≠ some (transactId, params.request)) →
        state.answersTo params.request = 0
  told : ∀ thread transactId request,
    (state.work thread).erasing? = some (transactId, request) →
      state.answersTo request = 1
  answered : ∀ call ∈ state.accepted, call.callBack.isSome = true →
    (∀ transactId params,
      state.HasEntry transactId params →
      params.request ≠ call.request) → state.answersTo call.request = 1
  dropped : ∀ entries ∈ state.disconnects, entries = 0
  dropping : ∀ thread, (state.work thread).isDisconnecting = true →
    state.freeInstallParamsMap.size = 0
  connects : (state.work runnerThread).FitsConnection state.connectState
    state.connectAsked
  runner : ∀ thread request phase,
    state.work thread = .requesting request phase →
      thread = runnerThread ∧ state.hasHandler = true
  handled : state.tasks ≠ [] → state.hasHandler = true
  alive : ∀ thread transactId,
    state.work thread ≠ .forgetting transactId ∧
      ∀ params, state.work thread ≠ .reporting transactId params

/-- What a thread does next goes with what is there. -/
structure Admits (state : FreeInstallState) (thread : ThreadId)
    (work : FreeInstallWork) : Prop where
  serves : ∀ transactId, (state.work thread).transaction? = some transactId →
    work.transaction? = some transactId ∨
      state.freeInstallParamsMap[transactId]? = none ∨
        (∃ task ∈ state.tasks, task.transactId = transactId)
  pending : ∀ request, work.pending? = some request →
    (state.work thread).pending? = some request ∨
      request < state.requestNum ∧ state.answersTo request = 0 ∧
        (∀ call ∈ state.accepted, call.request ≠ request) ∧
          ∀ other, (state.work other).pending? ≠ some request
  fetched : ∀ transactId request, work.fetched? = some (transactId, request) →
    (state.work thread).fetched? = some (transactId, request) ∨
      (∃ params, state.HasEntry transactId params ∧
        params.request = request) ∧
      ∀ other otherRequest,
        (state.work other).fetched? ≠ some (transactId, otherRequest)
  erasing : work.erasing? = (state.work thread).erasing?
  dropping : work.isDisconnecting = true → state.freeInstallParamsMap.size = 0
  runner : ∀ request phase, work = .requesting request phase →
    thread = runnerThread ∧ state.hasHandler = true
  alive : ∀ transactId, work ≠ .forgetting transactId ∧
    ∀ params, work ≠ .reporting transactId params

@[simp]
theorem setWork_work (other : ThreadId) :
    (state.setWork thread work).work other =
      if other = thread then work else state.work other := by
  simp [setWork, Function.update_apply]

/-- A thread moves on, and the connection may change with it. -/
theorem IsOrderly.move (orderly : state.IsOrderly)
    (admits : state.Admits thread work) (transactId : Int32)
    (connectState : ServiceCenterConnectState) (hasConnection connectAsked : Bool)
    (connects : ((state.setWork thread work).work runnerThread).FitsConnection
      connectState connectAsked) :
    { state.setWork thread work with
      transactId := transactId
      connectState := connectState
      hasConnection := hasConnection
      connectAsked := connectAsked : FreeInstallState }.IsOrderly where
  defined := orderly.defined
  served id params present := by
    rcases orderly.served id params present with ⟨task, posted, same⟩ | ⟨other, serves⟩
    · exact .inl ⟨task, posted, same⟩
    · by_cases here : other = thread
      · rw [here] at serves
        rcases admits.serves id serves with still | absent | task
        · exact .inr ⟨thread, by simpa using still⟩
        · exact absurd (absent.symm.trans present) nofun
        · exact .inl task
      · exact .inr ⟨other, by simpa [here] using serves⟩
  pending other request := by
    simp only [setWork_work]
    split
    · intro pends
      rcases admits.pending request pends with before | ⟨counted, unanswered, new, -⟩
      · exact orderly.pending thread request before
      · exact ⟨counted, unanswered, new⟩
    · exact orderly.pending other request
  pendingOnce first second request := by
    simp only [setWork_work]
    split
    · next here =>
        subst here
        intro pends
        split
        · next same => exact fun _ => same
        · intro there
          rcases admits.pending request pends with before | ⟨-, -, -, nobody⟩
          · exact orderly.pendingOnce first second request before there
          · exact absurd there (nobody second)
    · intro pends
      split
      · next same =>
          subst same
          intro there
          rcases admits.pending request there with before | ⟨-, -, -, nobody⟩
          · exact orderly.pendingOnce first second request pends before
          · exact absurd pends (nobody first)
      · exact orderly.pendingOnce first second request pends
  counted := orderly.counted
  fresh := orderly.fresh
  entered := orderly.entered
  single := orderly.single
  fetched other id request := by
    simp only [setWork_work]
    split
    · intro holds
      rcases admits.fetched id request holds with before | ⟨entry, -⟩
      · exact orderly.fetched thread id request before
      · exact entry
    · exact orderly.fetched other id request
  fetchedOnce first second id request otherRequest := by
    simp only [setWork_work]
    split
    · next here =>
        subst here
        intro holds
        split
        · next same => exact fun _ => same
        · intro there
          rcases admits.fetched id request holds with before | ⟨-, nobody⟩
          · exact orderly.fetchedOnce first second id request otherRequest before there
          · exact absurd there (nobody second otherRequest)
    · intro holds
      split
      · next same =>
          subst same
          intro there
          rcases admits.fetched id otherRequest there with before | ⟨-, nobody⟩
          · exact orderly.fetchedOnce first second id request otherRequest holds before
          · exact absurd holds (nobody first request)
      · exact orderly.fetchedOnce first second id request otherRequest holds
  unanswered id params present nobody := by
    apply orderly.unanswered id params present
    intro other erases
    apply nobody other
    simp only [setWork_work]
    split
    · next here =>
        rw [admits.erasing, ← here]
        exact erases
    · exact erases
  told other id request := by
    simp only [setWork_work]
    split
    · rw [admits.erasing]
      exact orderly.told thread id request
    · exact orderly.told other id request
  answered := orderly.answered
  dropped := orderly.dropped
  dropping other := by
    simp only [setWork_work]
    split
    · exact admits.dropping
    · exact orderly.dropping other
  connects := connects
  runner other request phase := by
    simp only [setWork_work]
    split
    · next here =>
        rw [here]
        exact admits.runner request phase
    · exact orderly.runner other request phase
  handled := orderly.handled
  alive other id := by
    simp only [setWork_work]
    split
    · exact admits.alive id
    · exact orderly.alive other id

/-- Threads that look again at the connection act as they did. -/
theorem IsOrderly.wake (orderly : state.IsOrderly)
    (connectState : ServiceCenterConnectState) (hasConnection connectAsked : Bool)
    (connects : (state.work runnerThread).wake.FitsConnection connectState
      connectAsked) :
    { state.notifyAll with
      connectState := connectState
      hasConnection := hasConnection
      connectAsked := connectAsked : FreeInstallState }.IsOrderly where
  defined := orderly.defined
  served id params present := by
    simpa [IsServed, notifyAll] using orderly.served id params present
  pending thread request pends := orderly.pending thread request
    ((FreeInstallWork.wake_pending? _).symm.trans pends)
  pendingOnce := by simpa [notifyAll] using orderly.pendingOnce
  counted := orderly.counted
  fresh := orderly.fresh
  entered := orderly.entered
  single := orderly.single
  fetched thread id request holds := orderly.fetched thread id request
    ((FreeInstallWork.wake_fetched? _).symm.trans holds)
  fetchedOnce := by simpa [notifyAll] using orderly.fetchedOnce
  unanswered id params present nobody := orderly.unanswered id params present
    fun thread erases => nobody thread
      ((FreeInstallWork.wake_erasing? _).trans erases)
  told thread id request erases := orderly.told thread id request
    ((FreeInstallWork.wake_erasing? _).symm.trans erases)
  answered := orderly.answered
  dropped := orderly.dropped
  dropping := by simpa [notifyAll] using orderly.dropping
  connects := connects
  runner other request phase there := by
    obtain ⟨before, here⟩ := FreeInstallWork.eq_of_wake there
    exact orderly.runner other request before here
  handled := orderly.handled
  alive other id := by simpa [notifyAll] using orderly.alive other id

/-- A task for the transaction is posted. -/
theorem IsOrderly.postTask (orderly : state.IsOrderly)
    (hasHandler : state.hasHandler = true) (task : FreeInstallTask) :
    (state.postTask task).IsOrderly :=
  { orderly with
    served := fun id params present => by
      rcases orderly.served id params present with ⟨waiting, posted, same⟩ | acts
      · exact .inl ⟨waiting, List.mem_append_left _ posted, same⟩
      · exact .inr acts
    handled := fun _ => hasHandler }

/-- Tasks leave the queue that nothing depends on. -/
theorem IsOrderly.dropTasks (orderly : state.IsOrderly)
    {tasks : List FreeInstallTask} (fewer : tasks ⊆ state.tasks)
    (acts : ∀ task ∈ state.tasks, task ∈ tasks ∨
      ∃ thread, (state.work thread).transaction? = some task.transactId) :
    { state with tasks := tasks : FreeInstallState }.IsOrderly :=
  { orderly with
    served := fun id params present => by
      rcases orderly.served id params present with ⟨task, posted, rfl⟩ | serves
      · rcases acts task posted with still | serves
        · exact .inl ⟨task, still, rfl⟩
        · exact .inr serves
      · exact .inr serves
    handled := fun some => orderly.handled fun none => some (by
      rw [none] at fewer
      exact List.subset_nil.mp fewer) }

/-- A call is counted. -/
theorem IsOrderly.count (orderly : state.IsOrderly) :
    { state with requestNum := state.requestNum + 1 : FreeInstallState }.IsOrderly :=
  { orderly with
    pending := fun thread request pends => by
      obtain ⟨counted, rest⟩ := orderly.pending thread request pends
      exact ⟨Nat.lt_succ_of_lt counted, rest⟩
    counted := fun call accepted => Nat.lt_succ_of_lt (orderly.counted call accepted)
    fresh := fun request new => orderly.fresh request (Nat.le_of_succ_le new) }

/-- The connection is dropped when nothing remains. -/
theorem IsOrderly.disconnect (orderly : state.IsOrderly)
    (empty : state.freeInstallParamsMap.size = 0) :
    { state with disconnects := state.freeInstallParamsMap.size ::
        state.disconnects : FreeInstallState }.IsOrderly :=
  { orderly with
    dropped := fun entries member => by
      rcases List.mem_cons.mp member with rfl | before
      · exact empty
      · exact orderly.dropped entries before }

theorem answersTo_answer (state : FreeInstallState) (done : FreeInstallDone) (request : RequestId) :
    (state.answer done).answersTo request =
      state.answersTo request + if done.request = request then 1 else 0 := by
  simp [answersTo, answer, List.countP_cons]

/-- A call that has neither been answered nor entered is answered at once. -/
theorem IsOrderly.answerCall (orderly : state.IsOrderly) {call : FreeInstallCall}
    (counted : call.request < state.requestNum)
    (unanswered : state.answersTo call.request = 0)
    (new : ∀ other ∈ state.accepted, other.request ≠ call.request)
    (nobody : ∀ thread, (state.work thread).pending? ≠ some call.request)
    {callBack : Option RemoteObject} (same : call.callBack = callBack)
    {written : Bool} (answers : IsAnswered callBack written) (resultCode : Int32) :
    (state.callAbilityManager resultCode call written).IsOrderly := by
  obtain ⟨rfl, some⟩ := answers
  obtain ⟨callback, rfl⟩ := Option.isSome_iff_exists.mp some
  simp only [callAbilityManager, same, if_true]
  have unentered : ∀ id params, state.HasEntry id params →
      params.request ≠ call.request := by
    intro id params present same
    obtain ⟨other, accepted, its⟩ := orderly.entered id params present
    exact new other accepted (its.trans same)
  have others {request : RequestId} (other : call.request ≠ request) :
      ((state.accept call).answer ⟨callback, resultCode, call.want, call.userId,
        call.request⟩).answersTo request = state.answersTo request := by
    rw [answersTo_answer, if_neg other]
    rfl
  exact { orderly with
    pending := fun thread request pends => by
      have other : call.request ≠ request := fun same =>
        nobody thread (same ▸ pends)
      obtain ⟨before, none, rest⟩ := orderly.pending thread request pends
      refine ⟨before, (others other).trans none, ?_⟩
      exact List.forall_mem_cons.mpr ⟨other, rest⟩
    counted := List.forall_mem_cons.mpr ⟨counted, orderly.counted⟩
    fresh := fun request large => by
      have other : call.request ≠ request :=
        Nat.ne_of_lt (Nat.lt_of_lt_of_le counted large)
      exact (others other).trans (orderly.fresh request large)
    entered := fun id params present => by
      obtain ⟨other, accepted, its⟩ := orderly.entered id params present
      exact ⟨other, List.mem_cons_of_mem _ accepted, its⟩
    unanswered := fun id params present nobody => by
      rw [others (unentered id params present).symm]
      exact orderly.unanswered id params present nobody
    told := fun thread id request erases => by
      have once := orderly.told thread id request erases
      have other : call.request ≠ request := by
        rintro rfl
        omega
      exact (others other).trans once
    answered := List.forall_mem_cons.mpr ⟨fun _ _ => by
        rw [answersTo_answer, if_pos rfl]
        exact congrArg (· + 1) unanswered,
      fun other accepted some gone => by
        rw [others (new other accepted).symm]
        exact orderly.answered other accepted some gone⟩ }

/-- A thread that does not ask for the connection fits it as before. -/
theorem IsOrderly.fits (orderly : state.IsOrderly)
    (before : (state.work thread).FitsConnection state.connectState
        state.connectAsked →
      work.FitsConnection state.connectState state.connectAsked) :
    ((state.setWork thread work).work runnerThread).FitsConnection
      state.connectState state.connectAsked := by
  rw [setWork_work]
  split
  · next here =>
      apply before
      rw [← here]
      exact orderly.connects
  · exact orderly.connects

theorem hasEntry_insert (state : FreeInstallState) {transactId id : String}
    {added params : FreeInstallParams}
    (inserted : next.freeInstallParamsMap =
      state.freeInstallParamsMap.insert transactId added) :
    next.HasEntry id params ↔
      if id = transactId then added = params else state.HasEntry id params := by
  simp only [HasEntry, inserted, Std.ExtTreeMap.getElem?_insert,
    Std.LawfulEqCmp.compare_eq_iff_eq, eq_comm (a := id)]
  split
  · exact Option.some_inj
  · rfl

theorem hasEntry_erase (state : FreeInstallState) {transactId id : String}
    {params : FreeInstallParams} (erased : next.freeInstallParamsMap =
      state.freeInstallParamsMap.erase transactId) :
    next.HasEntry id params ↔ id ≠ transactId ∧ state.HasEntry id params := by
  simp only [HasEntry, erased, Std.ExtTreeMap.getElem?_erase,
    Std.LawfulEqCmp.compare_eq_iff_eq, ne_eq, eq_comm (a := id)]
  split
  · next same => simp [same]
  · next other => simp [other]

/-- A call is entered in the map, and its thread goes on to post the task. -/
theorem IsOrderly.insert (orderly : state.IsOrderly) {call : FreeInstallCall}
    {transactId : String}
    (there : state.work thread = .emplacing call transactId)
    (free : state.freeInstallParamsMap[transactId]? = none)
    (nobody : ∀ other, (state.work other).isDisconnecting = false) :
    ({ state.accept call with
      freeInstallParamsMap := state.freeInstallParamsMap.insert transactId
        call.params }.setWork thread (.posting call transactId)).IsOrderly := by
  have pends : (state.work thread).pending? = some call.request := by
    rw [there]
    rfl
  obtain ⟨counted, unanswered, new⟩ := orderly.pending thread call.request pends
  have absent {params : FreeInstallParams} : ¬state.HasEntry transactId params :=
    fun present => absurd (free.symm.trans present) nofun
  have other {id : String} {params : FreeInstallParams}
      (present : state.HasEntry id params) : params.request ≠ call.request := by
    intro same
    obtain ⟨before, accepted, its⟩ := orderly.entered id params present
    exact new before accepted (its.trans same)
  have apart {id : String} {params : FreeInstallParams}
      (present : state.HasEntry id params) : id ≠ transactId := by
    rintro rfl
    exact absent present
  exact {
    defined := orderly.defined
    served := fun id params present => by
      rw [hasEntry_insert state rfl] at present
      split at present
      · next here => exact .inr ⟨thread, by
          simp [here, FreeInstallWork.transaction?]⟩
      · rcases orderly.served id params present with task | ⟨acting, serves⟩
        · exact .inl task
        · refine .inr ⟨acting, ?_⟩
          rw [setWork_work, if_neg]
          · exact serves
          · rintro rfl
            rw [there] at serves
            cases serves
    pending := fun acting request => by
      rw [setWork_work]
      split
      · exact nofun
      · next elsewhere =>
          intro later
          obtain ⟨before, none, rest⟩ := orderly.pending acting request later
          refine ⟨before, none, List.forall_mem_cons.mpr ⟨?_, rest⟩⟩
          rintro rfl
          exact elsewhere (orderly.pendingOnce thread acting _ pends later)
    pendingOnce := fun first second request => by
      rw [setWork_work, setWork_work]
      split
      · exact nofun
      · split
        · exact fun _ => nofun
        · exact orderly.pendingOnce first second request
    counted := List.forall_mem_cons.mpr ⟨counted, orderly.counted⟩
    fresh := orderly.fresh
    entered := fun id params present => by
      rw [hasEntry_insert state rfl] at present
      split at present
      · subst present
        exact ⟨call, List.mem_cons_self, rfl⟩
      · obtain ⟨before, accepted, its⟩ := orderly.entered id params present
        exact ⟨before, List.mem_cons_of_mem _ accepted, its⟩
    single := fun first params second others here there same => by
      rw [hasEntry_insert state rfl] at here there
      split at here
      · subst here
        split at there
        · next firstIs secondIs => rw [firstIs, secondIs]
        · exact absurd same.symm (other there)
      · split at there
        · subst there
          exact absurd same (other here)
        · exact orderly.single first params second others here there same
    fetched := fun acting id request => by
      rw [setWork_work]
      split
      · exact nofun
      · intro holds
        obtain ⟨params, present, its⟩ := orderly.fetched acting id request holds
        refine ⟨params, ?_, its⟩
        rw [hasEntry_insert state rfl, if_neg (apart present)]
        exact present
    fetchedOnce := fun first second id request otherRequest => by
      rw [setWork_work, setWork_work]
      split
      · exact nofun
      · split
        · exact fun _ => nofun
        · exact orderly.fetchedOnce first second id request otherRequest
    unanswered := fun id params present nobody => by
      rw [hasEntry_insert state rfl] at present
      split at present
      · subst present
        exact unanswered
      · refine orderly.unanswered id params present fun acting erases => ?_
        apply nobody acting
        rw [setWork_work, if_neg]
        · exact erases
        · rintro rfl
          rw [there] at erases
          cases erases
    told := fun acting id request => by
      rw [setWork_work]
      split
      · exact nofun
      · exact orderly.told acting id request
    answered := List.forall_mem_cons.mpr ⟨fun _ gone => by
        refine absurd rfl (gone transactId call.params ?_)
        rw [hasEntry_insert state rfl, if_pos rfl],
      fun before accepted some gone => by
        refine orderly.answered before accepted some fun id params present => ?_
        apply gone id params
        rw [hasEntry_insert state rfl, if_neg (apart present)]
        exact present⟩
    dropped := orderly.dropped
    dropping := fun acting => by
      rw [setWork_work]
      split
      · exact nofun
      · intro drops
        exact absurd ((nobody acting).symm.trans drops) nofun
    connects := orderly.fits (by
      rw [there]
      exact id)
    runner := fun acting request phase => by
      rw [setWork_work]
      split
      · exact nofun
      · exact orderly.runner acting request phase
    handled := orderly.handled
    alive := fun acting id => by
      rw [setWork_work]
      split
      · exact ⟨nofun, nofun⟩
      · exact orderly.alive acting id }

/-- A thread that has sent the answer erases the entry. -/
theorem IsOrderly.erase (orderly : state.IsOrderly) {callBack : CallBack}
    {request : RequestId}
    (there : state.work thread = .callingBack callBack (.erasing request)) :
    ({ state with freeInstallParamsMap :=
        state.freeInstallParamsMap.erase callBack.transactId }.setWork thread
      (.callingBack callBack .checkingEmpty)).IsOrderly := by
  have fetched : (state.work thread).fetched? =
      some (callBack.transactId, request) := by
    rw [there]
    rfl
  have erasing : (state.work thread).erasing? =
      some (callBack.transactId, request) := by
    rw [there]
    rfl
  exact {
    defined := orderly.defined
    served := fun id params present => by
      rw [hasEntry_erase state rfl] at present
      rcases orderly.served id params present.2 with task | ⟨acting, serves⟩
      · exact .inl task
      · refine .inr ⟨acting, ?_⟩
        rw [setWork_work, if_neg]
        · exact serves
        · rintro rfl
          rw [there] at serves
          exact present.1 (Option.some.inj serves).symm
    pending := fun acting request => by
      rw [setWork_work]
      split
      · exact nofun
      · exact orderly.pending acting request
    pendingOnce := fun first second request => by
      rw [setWork_work, setWork_work]
      split
      · exact nofun
      · split
        · exact fun _ => nofun
        · exact orderly.pendingOnce first second request
    counted := orderly.counted
    fresh := orderly.fresh
    entered := fun id params present =>
      orderly.entered id params ((hasEntry_erase state rfl).mp present).2
    single := fun first params second others here there =>
      orderly.single first params second others ((hasEntry_erase state rfl).mp here).2
        ((hasEntry_erase state rfl).mp there).2
    fetched := fun acting id its => by
      rw [setWork_work]
      split
      · exact nofun
      · next elsewhere =>
          intro holds
          obtain ⟨params, present, same⟩ := orderly.fetched acting id its holds
          refine ⟨params, (hasEntry_erase state rfl).mpr ⟨?_, present⟩, same⟩
          rintro rfl
          exact elsewhere (orderly.fetchedOnce thread acting _ _ _ fetched holds)
    fetchedOnce := fun first second id request otherRequest => by
      rw [setWork_work, setWork_work]
      split
      · exact nofun
      · split
        · exact fun _ => nofun
        · exact orderly.fetchedOnce first second id request otherRequest
    unanswered := fun id params present nobody => by
      rw [hasEntry_erase state rfl] at present
      refine orderly.unanswered id params present.2 fun acting erases => ?_
      apply nobody acting
      rw [setWork_work, if_neg]
      · exact erases
      · rintro rfl
        rw [erasing] at erases
        cases erases
        exact present.1 rfl
    told := fun acting id request => by
      rw [setWork_work]
      split
      · exact nofun
      · exact orderly.told acting id request
    answered := fun call accepted some gone => by
      by_cases before : ∃ id params, state.HasEntry id params ∧
          params.request = call.request
      · obtain ⟨id, params, present, its⟩ := before
        have same : id = callBack.transactId := by
          by_contra other
          exact gone id params ((hasEntry_erase state rfl).mpr ⟨other, present⟩) its
        subst same
        obtain ⟨own, ownPresent, rfl⟩ := orderly.fetched _ _ _ fetched
        cases Option.some.inj (present.symm.trans ownPresent)
        have once := orderly.told thread _ _ erasing
        rw [its] at once
        exact once
      · exact orderly.answered call accepted some fun id params present its =>
          before ⟨id, params, present, its⟩
    dropped := orderly.dropped
    dropping := fun acting => by
      rw [setWork_work]
      split
      · exact nofun
      · intro drops
        have size := orderly.dropping acting drops
        exact Nat.le_zero.mp (size ▸ Std.ExtTreeMap.size_erase_le)
    connects := orderly.fits (by
      rw [there]
      exact id)
    runner := fun acting request phase => by
      rw [setWork_work]
      split
      · exact nofun
      · exact orderly.runner acting request phase
    handled := orderly.handled
    alive := fun acting id => by
      rw [setWork_work]
      split
      · exact ⟨nofun, nofun⟩
      · exact orderly.alive acting id }

/-- A thread that has fetched the callback sends the answer. -/
theorem IsOrderly.notify (orderly : state.IsOrderly) {callBack : CallBack}
    {target : RemoteObject} {request : RequestId}
    (there : state.work thread =
      .callingBack callBack (.notifying target request)) :
    ((state.answer ⟨target, callBack.resultCode, callBack.want, callBack.userId,
      request⟩).setWork thread
        (.callingBack callBack (.erasing request))).IsOrderly := by
  have fetched : (state.work thread).fetched? =
      some (callBack.transactId, request) := by
    rw [there]
    rfl
  obtain ⟨own, ownPresent, ownRequest⟩ := orderly.fetched _ _ _ fetched
  obtain ⟨ownCall, ownAccepted, ownSame⟩ := orderly.entered _ _ ownPresent
  have ownCounted : request < state.requestNum := by
    rw [← ownRequest, ← ownSame]
    exact orderly.counted ownCall ownAccepted
  have others {other : RequestId} (apart : request ≠ other) :
      ((state.answer ⟨target, callBack.resultCode, callBack.want,
        callBack.userId, request⟩).setWork thread
          (.callingBack callBack (.erasing request))).answersTo other =
        state.answersTo other := by
    have count := answersTo_answer state ⟨target, callBack.resultCode,
      callBack.want, callBack.userId, request⟩ other
    rw [if_neg apart] at count
    exact count
  have nobodyErases : ∀ acting, (state.work acting).erasing? ≠
      some (callBack.transactId, own.request) := by
    intro acting erases
    have same := orderly.fetchedOnce thread acting _ _ _ fetched
      (FreeInstallWork.fetched?_of_erasing? erases)
    rw [same, there] at erases
    cases erases
  have unanswered : state.answersTo request = 0 := by
    rw [← ownRequest]
    exact orderly.unanswered _ own ownPresent nobodyErases
  -- Another entry is that of another call.
  have apart {id : String} {params : FreeInstallParams}
      (present : state.HasEntry id params) (elsewhere : id ≠ callBack.transactId) :
      request ≠ params.request := by
    intro same
    exact elsewhere (orderly.single _ own id params ownPresent present
      (ownRequest.trans same))
  exact {
    defined := orderly.defined
    served := fun id params present => by
      rcases orderly.served id params present with task | ⟨acting, serves⟩
      · exact .inl task
      · refine .inr ⟨acting, ?_⟩
        rw [setWork_work]
        split
        · next here =>
            rw [here, there] at serves
            exact serves
        · exact serves
    pending := fun acting other => by
      rw [setWork_work]
      split
      · exact nofun
      · intro pends
        obtain ⟨before, none, rest⟩ := orderly.pending acting other pends
        have apart : request ≠ other := by
          rintro rfl
          exact rest ownCall ownAccepted (ownSame.trans ownRequest)
        exact ⟨before, (others apart).trans none, rest⟩
    pendingOnce := fun first second request => by
      rw [setWork_work, setWork_work]
      split
      · exact nofun
      · split
        · exact fun _ => nofun
        · exact orderly.pendingOnce first second request
    counted := orderly.counted
    fresh := fun other large => by
      have apart : request ≠ other :=
        Nat.ne_of_lt (Nat.lt_of_lt_of_le ownCounted large)
      exact (others apart).trans (orderly.fresh other large)
    entered := orderly.entered
    single := orderly.single
    fetched := fun acting id its => by
      rw [setWork_work]
      split
      · intro holds
        exact orderly.fetched thread id its (fetched.trans holds)
      · exact orderly.fetched acting id its
    fetchedOnce := fun first second id its otherIts => by
      have before {acting : ThreadId} {entry : String × RequestId}
          (holds : (if acting = thread then
            .callingBack callBack (.erasing request)
              else state.work acting).fetched? = some entry) :
          (state.work acting).fetched? = some entry := by
        split at holds
        · next here =>
            rw [here]
            exact fetched.trans holds
        · exact holds
      rw [setWork_work, setWork_work]
      intro first second
      exact orderly.fetchedOnce _ _ _ _ _ (before first) (before second)
    unanswered := fun id params present nobody => by
      have elsewhere : id ≠ callBack.transactId := by
        rintro rfl
        cases Option.some.inj (present.symm.trans ownPresent)
        apply nobody thread
        rw [setWork_work, if_pos rfl, ownRequest]
        rfl
      refine (others (apart present elsewhere)).trans ?_
      refine orderly.unanswered id params present fun acting erases => ?_
      apply nobody acting
      rw [setWork_work, if_neg]
      · exact erases
      · rintro rfl
        rw [there] at erases
        cases erases
    told := fun acting id its => by
      rw [setWork_work]
      split
      · intro erases
        cases erases
        have count := answersTo_answer state ⟨target, callBack.resultCode,
          callBack.want, callBack.userId, request⟩ request
        rw [if_pos rfl, unanswered] at count
        exact count
      · next elsewhere =>
          intro erases
          have holds := FreeInstallWork.fetched?_of_erasing? erases
          obtain ⟨params, present, rfl⟩ := orderly.fetched acting id its holds
          have other : id ≠ callBack.transactId := by
            rintro rfl
            exact elsewhere (orderly.fetchedOnce thread acting _ _ _ fetched holds)
          exact (others (apart present other)).trans
            (orderly.told acting id _ erases)
    answered := fun call accepted some gone => by
      have other : request ≠ call.request := by
        rw [← ownRequest]
        exact gone _ own ownPresent
      exact (others other).trans (orderly.answered call accepted some gone)
    dropped := orderly.dropped
    dropping := fun acting => by
      rw [setWork_work]
      split
      · exact nofun
      · exact orderly.dropping acting
    connects := orderly.fits (by
      rw [there]
      exact id)
    runner := fun acting its phase => by
      rw [setWork_work]
      split
      · exact nofun
      · exact orderly.runner acting its phase
    handled := orderly.handled
    alive := fun acting id => by
      rw [setWork_work]
      split
      · exact ⟨nofun, nofun⟩
      · exact orderly.alive acting id }

end FreeInstallState

end AppExecFwk
