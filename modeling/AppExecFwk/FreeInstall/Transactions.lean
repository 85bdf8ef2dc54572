import AppExecFwk.FreeInstall.Entries

/-!
# Transactions come to an end

Each accepted free-install request is answered exactly once, when its entry
leaves the map, and no entry is ever without a task, a timeout or a thread that
acts for it, in every run in which nothing comes in the way.  A reply that the
service center is still downloading comes in the way: it takes the timeout away,
and nothing arms it again.
-/

namespace AppExecFwk

namespace FreeInstallState

variable {state next : FreeInstallState} {thread : ThreadId}
  {work : FreeInstallWork}

/-- A thread goes on to something that concerns nobody else. -/
theorem Admits.of_isQuiet (quiet : work.isQuiet = true)
    (before : (state.work thread).erasing? = none)
    (serves : ∀ transactId, (state.work thread).transaction? = some transactId →
      work.transaction? = some transactId ∨
        state.freeInstallParamsMap[transactId]? = none ∨
          (∃ task ∈ state.tasks, task.transactId = transactId))
    (runner : ∀ request phase, work = .requesting request phase →
      thread = runnerThread ∧ state.hasHandler = true) :
    state.Admits thread work := by
  have erasing : work.erasing? = none := by
    unfold FreeInstallWork.isQuiet at quiet
    split at quiet <;> first | rfl | cases quiet
  have pending : work.pending? = none := by
    unfold FreeInstallWork.isQuiet at quiet
    split at quiet <;> first | rfl | cases quiet
  have fetched : work.fetched? = none := by
    unfold FreeInstallWork.isQuiet at quiet
    split at quiet <;> first | rfl | cases quiet
  have dropping : work.isDisconnecting = false := by
    unfold FreeInstallWork.isQuiet at quiet
    split at quiet <;> first | rfl | cases quiet
  refine ⟨serves, ?_, ?_, erasing.trans before.symm, ?_, runner, ?_⟩
  · rw [pending]
    intros; contradiction
  · rw [fetched]
    intros; contradiction
  · rw [dropping]
    intros; contradiction
  · rintro transactId
    refine ⟨?_, ?_⟩
    · rintro rfl
      cases quiet
    · rintro params rfl
      cases quiet

section Requests

variable {request : ServiceRequest} {phase : ServiceRequestPhase}

/-- The runner goes on with a request task. -/
theorem IsOrderly.goOnRequest (orderly : state.IsOrderly)
    (there : state.work runnerThread = .requesting request phase)
    (later : ServiceRequestPhase) (connectState : ServiceCenterConnectState)
    (hasConnection connectAsked : Bool)
    (fits : (FreeInstallWork.requesting request later).FitsConnection connectState
      connectAsked) :
    { state.setWork runnerThread (.requesting request later) with
      connectState := connectState
      hasConnection := hasConnection
      connectAsked := connectAsked : FreeInstallState }.IsOrderly := by
  have handled := (orderly.runner _ _ _ there).2
  refine orderly.move ?_ state.transactId connectState hasConnection connectAsked ?_
  · apply Admits.of_isQuiet rfl
    · rw [there]
      rfl
    · rw [there]
      exact fun _ serves => .inl serves
    · exact fun _ _ _ => ⟨rfl, handled⟩
  · rw [setWork_work, if_pos rfl]
    exact fits

/-- The runner calls back because the request fails. -/
theorem IsOrderly.failRequest (orderly : state.IsOrderly)
    (there : state.work runnerThread = .requesting request phase)
    (connectState : ServiceCenterConnectState) (resultCode : Int32)
    (asked : state.connectAsked = false) (settled : connectState ≠ .connecting) :
    ({ state with connectState := connectState }.failRequest runnerThread resultCode
      request).IsOrderly := by
  refine orderly.move ?_ state.transactId connectState state.hasConnection
    state.connectAsked ?_
  · apply Admits.of_isQuiet rfl
    · rw [there]
      rfl
    · rw [there]
      exact fun _ serves => .inl serves
    · intros; contradiction
  · rw [setWork_work, if_pos rfl]
    exact ⟨asked, settled⟩

theorem IsOrderly.failConnection (orderly : state.IsOrderly)
    (there : state.work runnerThread = .requesting request phase)
    (awake : (state.work runnerThread).wake = state.work runnerThread)
    (hasConnection : Bool) (asked : state.connectAsked = false)
    (fits : (state.work runnerThread).FitsConnection .disconnected false) :
    ({ state with hasConnection := hasConnection }.failConnection runnerThread
      request).IsOrderly := by
  have woken := orderly.wake .disconnected hasConnection state.connectAsked (by
    rw [awake, asked]
    exact fits)
  exact woken.failRequest (awake.trans there) .disconnected _ asked nofun

/-- The runner stops with a request task when its entry is gone or a task for it
has been posted. -/
theorem IsOrderly.endRequest (orderly : state.IsOrderly)
    (there : state.work runnerThread = .requesting request phase)
    (settled : state.freeInstallParamsMap[request.transactId]? = none ∨
      ∃ task ∈ state.tasks, task.transactId = request.transactId)
    (asked : state.connectAsked = false)
    (connected : state.connectState ≠ .connecting) :
    (state.setWork runnerThread .idle).IsOrderly := by
  refine orderly.move ?_ state.transactId state.connectState state.hasConnection
    state.connectAsked ?_
  · apply Admits.of_isQuiet rfl
    · rw [there]
      rfl
    · rw [there]
      rintro transactId ⟨⟩
      exact .inr settled
    · intros; contradiction
  · rw [setWork_work, if_pos rfl]
    exact ⟨asked, connected⟩

theorem IsOrderly.advanceRequest (orderly : state.IsOrderly)
    (there : state.work thread = .requesting request phase) {outcome : Bool}
    (clear : state.IsClear thread outcome (.requesting request phase)) :
    (state.advanceRequest thread request outcome phase).IsOrderly := by
  obtain ⟨rfl, handled⟩ := orderly.runner thread request phase there
  have connects := orderly.connects
  rw [there] at connects
  have goOn (later : ServiceRequestPhase)
      (fits : (FreeInstallWork.requesting request later).FitsConnection
        state.connectState state.connectAsked) :=
    orderly.goOnRequest there later _ state.hasConnection _ fits
  cases phase with
  | connecting =>
      obtain ⟨asked, settled⟩ := connects
      rw [FreeInstallState.advanceRequest]
      split
      · next connecting => exact absurd connecting settled
      · exact orderly.goOnRequest there .gettingProxy _ _ _ ⟨asked, nofun⟩
      · exact goOn .checkingConnection asked
  | gettingProxy =>
      rw [FreeInstallState.advanceRequest]
      split
      · exact goOn .allocatingConnection connects
      · apply orderly.failConnection there _ state.hasConnection connects.1 
        · rw [there]
          exact ⟨rfl, nofun⟩
        · rw [there]
          rfl
  | allocatingConnection =>
      rw [FreeInstallState.advanceRequest]
      split
      · exact orderly.goOnRequest there .askingToConnect _ _ _ connects
      · apply orderly.failConnection there _ outcome connects.1 
        · rw [there]
          exact ⟨rfl, nofun⟩
        · rw [there]
          rfl
  | askingToConnect =>
      rw [FreeInstallState.advanceRequest]
      split
      · exact orderly.goOnRequest there (.awaiting .connected .checking) _ _ _
          (iff_of_true rfl connects.2)
      · exact goOn .checkingConnection connects.1
  | awaiting goal reached =>
      cases goal with
      | notConnecting => exact connects.elim
      | connected =>
          cases reached with
          | checking =>
              rw [FreeInstallState.advanceRequest]
              split
              · next met =>
                  apply goOn .checkingConnection
                  have connected : state.connectState = .connected := by
                    simpa [ConnectGoal.isMet] using met
                  change state.connectAsked = false
                  by_contra asked
                  exact connects.mp (Bool.not_eq_false _ ▸ asked) connected
              · next unmet =>
                  apply goOn (.awaiting .connected .blocking)
                  have apart : state.connectState ≠ .connected := by
                    simpa [ConnectGoal.isMet] using unmet
                  exact ⟨connects.mpr apart, apart⟩
          | blocking => exact goOn (.awaiting .connected .blocked) connects
          | blocked =>
              exact goOn (.awaiting .connected .checking)
                (iff_of_true connects.1 connects.2)
  | checkingConnection =>
      rw [FreeInstallState.advanceRequest]
      split
      · next connected =>
          apply goOn .writingRequest
          exact ⟨connects, by rw [connected]; exact nofun⟩
      · exact orderly.failRequest there .disconnected _ connects nofun
  | writingRequest =>
      rw [FreeInstallState.advanceRequest]
      split
      · exact goOn .allocatingCallback connects
      · exact orderly.failRequest there state.connectState _ connects.1 connects.2
  | allocatingCallback =>
      have allocated : outcome = true := clear
      rw [FreeInstallState.advanceRequest, if_pos allocated]
      exact goOn .writingCallback connects
  | writingCallback =>
      rw [FreeInstallState.advanceRequest]
      split
      · exact goOn .sending connects
      · exact orderly.failRequest there state.connectState _ connects.1 connects.2
  | sending =>
      rw [FreeInstallState.advanceRequest]
      split
      · exact goOn .monitoring connects
      · exact orderly.failRequest there state.connectState _ connects.1 connects.2
  | monitoring =>
      rw [FreeInstallState.advanceRequest]
      split
      · next absent => exact orderly.endRequest there (.inl absent) connects.1 connects.2
      · next params present => exact goOn (.arming params) connects
  | arming params =>
      rw [FreeInstallState.advanceRequest, if_pos handled]
      have posted := orderly.postTask handled (.timeout request.transactId
        params.want params.userId)
      apply posted.endRequest there _ connects.1 connects.2
      exact .inr ⟨_, List.mem_append_right _ (List.mem_singleton_self _), rfl⟩

end Requests

theorem getElem?_of_size_eq_zero (empty : state.freeInstallParamsMap.size = 0)
    (transactId : String) : state.freeInstallParamsMap[transactId]? = none := by
  rw [Std.ExtTreeMap.eq_empty_iff_size_eq_zero.mpr empty]
  exact Std.ExtTreeMap.getElem?_empty

/-- A thread that is not in a request task goes on to something that concerns
nobody else. -/
theorem IsOrderly.goOn (orderly : state.IsOrderly) (quiet : work.isQuiet = true)
    (before : (state.work thread).erasing? = none)
    (serves : ∀ transactId, (state.work thread).transaction? = some transactId →
      work.transaction? = some transactId ∨
        state.freeInstallParamsMap[transactId]? = none ∨
          (∃ task ∈ state.tasks, task.transactId = transactId))
    (apart : ∀ request phase, work ≠ .requesting request phase)
    (fits : (state.work thread).FitsConnection state.connectState
        state.connectAsked →
      work.FitsConnection state.connectState state.connectAsked) :
    (state.setWork thread work).IsOrderly := by
  have admits : state.Admits thread work :=
    .of_isQuiet quiet before serves fun request phase same =>
      absurd same (apart request phase)
  exact orderly.move admits state.transactId state.connectState
    state.hasConnection state.connectAsked (orderly.fits fits)

section CallBacks

variable {callBack : CallBack}

/-- A thread that has looked for the callback and found nothing left drops the
connection. -/
theorem IsOrderly.goOnDisconnecting (orderly : state.IsOrderly)
    {phase : CallBackPhase} (there : state.work thread = .callingBack callBack phase)
    (before : phase = .lookingUp ∨ phase = .checkingEmpty)
    (empty : state.freeInstallParamsMap.size = 0) :
    (state.setWork thread (.callingBack callBack .disconnecting)).IsOrderly := by
  have admits : state.Admits thread (.callingBack callBack .disconnecting) := by
    refine ⟨?_, by intros; contradiction, by intros; contradiction, ?_,
      fun _ => empty, by intros; contradiction, fun _ => ⟨nofun, nofun⟩⟩
    · exact fun transactId _ => .inr (.inl (getElem?_of_size_eq_zero empty transactId))
    · rw [there]
      rcases before with rfl | rfl <;> rfl
  refine orderly.move admits state.transactId state.connectState
    state.hasConnection state.connectAsked (orderly.fits ?_)
  rw [there]
  exact id

/-- The thread takes the callback of an entry. -/
theorem IsOrderly.fetch (orderly : state.IsOrderly)
    (there : state.work thread = .callingBack callBack .lookingUp)
    {params : FreeInstallParams}
    (present : state.HasEntry callBack.transactId params)
    (nobody : ∀ other request,
      (state.work other).fetched? ≠ some (callBack.transactId, request))
    (target : RemoteObject) :
    (state.setWork thread (.callingBack callBack
      (.notifying target params.request))).IsOrderly := by
  have admits : state.Admits thread
      (.callingBack callBack (.notifying target params.request)) := by
    refine ⟨?_, by intros; contradiction, ?_, ?_, by intros; contradiction,
      by intros; contradiction, fun _ => ⟨nofun, nofun⟩⟩
    · rw [there]
      exact fun _ serves => .inl serves
    · rintro transactId request ⟨⟩
      exact .inr ⟨⟨params, present, rfl⟩, nobody⟩
    · rw [there]
      rfl
  refine orderly.move admits state.transactId state.connectState
    state.hasConnection state.connectAsked (orderly.fits ?_)
  rw [there]
  exact id

theorem IsOrderly.advanceCallBack (orderly : state.IsOrderly)
    {phase : CallBackPhase} (there : state.work thread = .callingBack callBack phase)
    {outcome : Bool}
    (clear : state.IsClear thread outcome (.callingBack callBack phase)) :
    (state.advanceCallBack thread callBack outcome phase).IsOrderly := by
  -- The thread is done with the transaction.
  have stop (done : phase = .checkingEmpty ∨ phase = .disconnecting) :
      (state.setWork thread .idle).IsOrderly := by
    refine orderly.goOn rfl ?_ ?_ (by rintro _ _ ⟨⟩) ?_
    · rw [there]
      rcases done with rfl | rfl <;> rfl
    · rw [there]
      rcases done with rfl | rfl <;> (intros; contradiction)
    · rw [there]
      exact id
  cases phase with
  | lookingUp =>
      rcases clear with ⟨params, present, callback, nobody⟩ | empty
      · obtain ⟨target, found⟩ := Option.isSome_iff_exists.mp callback
        have entry : state.freeInstallParamsMap[callBack.transactId]? =
          some params := present
        simp only [FreeInstallState.advanceCallBack, entry, found]
        exact orderly.fetch there present nobody target
      · simp only [FreeInstallState.advanceCallBack,
          getElem?_of_size_eq_zero empty]
        exact orderly.goOnDisconnecting there (.inl rfl) empty
  | notifying target request =>
      have written : outcome = true := clear
      rw [FreeInstallState.advanceCallBack, if_pos written]
      exact orderly.notify there
  | erasing request => exact orderly.erase there
  | checkingEmpty =>
      rw [FreeInstallState.advanceCallBack]
      split
      · next nothing =>
          exact orderly.goOnDisconnecting there (.inr rfl) nothing.1
      · exact stop (.inl rfl)
  | disconnecting =>
      rw [FreeInstallState.advanceCallBack]
      split
      · have empty := orderly.dropping thread (by
          rw [there]
          rfl)
        have stopped := stop (.inr rfl)
        exact stopped.disconnect empty
      · exact stop (.inr rfl)

end CallBacks

section Calls

variable {call : FreeInstallCall} {transactId : String}

theorem callAbilityManager_setWork (resultCode : Int32) (written : Bool) :
    (state.setWork thread work).callAbilityManager resultCode call written =
      (state.callAbilityManager resultCode call written).setWork thread work := by
  unfold callAbilityManager
  dsimp only
  split
  · split <;> rfl
  · rfl

theorem IsOrderly.emplace (orderly : state.IsOrderly)
    (there : state.work thread = .emplacing call transactId) {outcome : Bool}
    (clear : state.IsClear thread outcome (.emplacing call transactId)) :
    (state.emplace thread call transactId outcome).IsOrderly := by
  have pends : (state.work thread).pending? = some call.request := by
    rw [there]
    rfl
  obtain ⟨counted, unanswered, new⟩ := orderly.pending thread call.request pends
  -- The thread is done with the call, or goes on to post it.
  have leave (later : FreeInstallWork)
      (plain : later = .idle ∨ later = .posting call transactId) :
      (state.setWork thread later).IsOrderly := by
    refine orderly.goOn ?_ ?_ ?_ ?_ ?_
    · rcases plain with rfl | rfl <;> rfl
    · rw [there]
      rfl
    · rw [there]
      intros; contradiction
    · rcases plain with rfl | rfl <;> exact nofun
    · rw [there]
      rcases plain with rfl | rfl <;> exact id
  have answered (later : FreeInstallWork)
      (plain : later = .idle ∨ later = .posting call transactId)
      (answers : IsAnswered call.callBack outcome) :
      ((state.callAbilityManager FreeInstallErrorCode.undefinedError call
        outcome).setWork thread later).IsOrderly := by
    rw [← callAbilityManager_setWork]
    refine (leave later plain).answerCall counted unanswered new ?_ rfl answers _
    intro other
    rw [setWork_work]
    split
    · rcases plain with rfl | rfl <;> exact nofun
    · next elsewhere =>
        exact fun also => elsewhere (orderly.pendingOnce thread other _ pends also)
  obtain ⟨nobody, reported⟩ := clear
  unfold FreeInstallState.emplace
  split
  · next used =>
      split
      · next silent =>
          exact answered .idle (.inl rfl) (reported used (by rw [silent]; exact nofun))
      · next upgrade =>
          exact answered _ (.inr rfl) (reported used (by rw [upgrade]; exact nofun))
      · exact leave .idle (.inl rfl)
  · next free =>
      apply orderly.insert there _ nobody
      rw [Bool.not_eq_true] at free
      exact Std.ExtTreeMap.getElem?_eq_none_of_contains_eq_false free

theorem IsOrderly.post (orderly : state.IsOrderly)
    (there : state.work thread = .posting call transactId) :
    (state.post thread call transactId).IsOrderly := by
  unfold FreeInstallState.post
  split
  · next handled =>
      have posted := orderly.postTask handled (.sendRequest
        ⟨call.serviceCenterFunction, transactId, call.want, call.userId⟩)
      have there' : (state.postTask (.sendRequest ⟨call.serviceCenterFunction,
        transactId, call.want, call.userId⟩)).work thread =
          .posting call transactId := there
      refine posted.goOn rfl ?_ ?_ (by rintro _ _ ⟨⟩) ?_
      · rw [there']
        rfl
      · rw [there']
        rintro id ⟨⟩
        exact .inr (.inr ⟨_, List.mem_append_right _ (List.mem_singleton_self _), rfl⟩)
      · rw [there']
        exact id
  · refine orderly.goOn rfl ?_ ?_ (by rintro _ _ ⟨⟩) ?_
    · rw [there]
      rfl
    · rw [there]
      exact fun _ serves => .inl serves
    · rw [there]
      exact id

end Calls

section Replies

variable {result : ServiceCenterResult}

/-- A reply takes the tasks of its transaction away. -/
theorem IsOrderly.removeTask (orderly : state.IsOrderly)
    (there : state.work thread = .removing result) {outcome : Bool}
    (clear : state.IsClear thread outcome (.removing result)) :
    ((state.removeTask result.transactId).setWork thread
      (.reading result)).IsOrderly := by
  have reading : (state.setWork thread (.reading result)).IsOrderly := by
    refine orderly.goOn rfl ?_ ?_ (by rintro _ _ ⟨⟩) ?_
    · rw [there]
      rfl
    · rw [there]
      exact fun _ serves => .inl serves
    · rw [there]
      exact id
  refine reading.dropTasks List.filter_sublist.subset fun task posted => ?_
  by_cases own : task.transactId = result.transactId
  · by_cases downloading :
        result.retCode = ServiceCenterResultCode.freeInstallDownloading
    · rcases clear.2 downloading with none | ⟨other, elsewhere, serves⟩
      · exact absurd own (none task posted)
      · refine .inr ⟨other, ?_⟩
        rw [setWork_work, if_neg elsewhere, own]
        exact serves
    · refine .inr ⟨thread, ?_⟩
      simp [FreeInstallWork.transaction?, downloading, own]
  · exact .inl (List.mem_filter.mpr ⟨posted, by simpa using own⟩)

theorem IsOrderly.read (orderly : state.IsOrderly)
    (there : state.work thread = .reading result) {outcome : Bool}
    (clear : state.IsClear thread outcome (.reading result)) :
    (state.read thread result).IsOrderly := by
  obtain ⟨params, present⟩ := Std.ExtTreeMap.exists_of_contains clear
  simp only [FreeInstallState.read, present]
  split
  · next downloading =>
      refine orderly.goOn rfl ?_ ?_ (by simp) ?_
      · rw [there]
        rfl
      · rw [there]
        simp [FreeInstallWork.transaction?, downloading]
      · rw [there]
        exact id
  · next ended =>
      refine orderly.goOn rfl ?_ ?_ (by simp) ?_
      · rw [there]
        rfl
      · rw [there]
        simp [FreeInstallWork.transaction?, ended]
      · rw [there]
        exact id

end Replies

/-- One step of a thread. -/
theorem IsOrderly.advance (orderly : state.IsOrderly) {outcome : Bool}
    (clear : state.IsClear thread outcome (state.work thread))
    (step : state.advance thread outcome = some next) : next.IsOrderly := by
  unfold FreeInstallState.advance at step
  split at step
  · cases step
  · next call there =>
      cases step
      have pends : (state.work thread).pending? = some call.request := by
        rw [there]
        rfl
      have admits : state.Admits thread (.numbering call) := by
        refine ⟨?_, ?_, by intros; contradiction, ?_,
          by intros; contradiction, by intros; contradiction, fun _ => ⟨nofun,
          nofun⟩⟩
        · rw [there]
          intros; contradiction
        · rintro request ⟨⟩
          exact .inl pends
        · rw [there]
          rfl
      exact orderly.move admits (state.transactId + 1) _ state.hasConnection _
        (orderly.fits (by
          rw [there]
          exact id))
  · next call there =>
      cases step
      have pends : (state.work thread).pending? = some call.request := by
        rw [there]
        rfl
      have admits : state.Admits thread
          (.emplacing call (toString state.transactId.toInt)) := by
        refine ⟨?_, ?_, by intros; contradiction, ?_,
          by intros; contradiction, by intros; contradiction, fun _ => ⟨nofun,
          nofun⟩⟩
        · rw [there]
          intros; contradiction
        · rintro request ⟨⟩
          exact .inl pends
        · rw [there]
          rfl
      exact orderly.move admits state.transactId _ state.hasConnection _
        (orderly.fits (by
          rw [there]
          exact id))
  · next call transactId there =>
      cases step
      rw [there] at clear
      exact orderly.emplace there clear
  · next call transactId there =>
      cases step
      exact orderly.post there
  · next request phase there =>
      cases step
      rw [there] at clear
      exact orderly.advanceRequest there clear
  · next callBack phase there =>
      cases step
      rw [there] at clear
      exact orderly.advanceCallBack there clear
  · next result there =>
      rw [there] at clear
      rw [if_pos clear.1] at step
      cases step
      exact orderly.removeTask there clear
  · next result there =>
      cases step
      rw [there] at clear
      exact orderly.read there clear
  · next transactId params there => exact absurd there ((orderly.alive _ _).2 _)
  · next transactId there => exact absurd there (orderly.alive _ _).1

/-- A thread begins a call that has just been counted. -/
theorem IsOrderly.beginCall (orderly : state.IsOrderly)
    (idle : state.work thread = .idle) {call : FreeInstallCall}
    (new : call.request = state.requestNum) (allocated : Bool) :
    ({ state with requestNum := state.requestNum + 1 }.beginCall thread call
      allocated).IsOrderly := by
  have counted := orderly.count
  unfold FreeInstallState.beginCall
  split
  · have admits : { state with requestNum := state.requestNum + 1 }.Admits thread
        (.counting call) := by
      refine ⟨?_, ?_, by intros; contradiction, ?_, by intros; contradiction,
        by intros; contradiction, fun _ => ⟨nofun, nofun⟩⟩
      · simp only [idle]
        intros; contradiction
      · rintro request ⟨⟩
        refine .inr ⟨?_, ?_, ?_, ?_⟩
        · rw [new]
          exact Nat.lt_succ_self _
        · exact orderly.fresh _ (Nat.le_of_eq new.symm)
        · intro other accepted same
          exact Nat.ne_of_lt (orderly.counted other accepted) (same.trans new)
        · intro other pends
          exact Nat.ne_of_lt (orderly.pending other _ pends).1 new
      · simp only [idle]
        rfl
    exact counted.move admits state.transactId _ state.hasConnection _
      (counted.fits (by
        simp only [idle]
        exact id))
  · exact counted

/-- A call that has just been counted is answered at once. -/
theorem IsOrderly.answerNew (orderly : state.IsOrderly) {call : FreeInstallCall}
    (new : call.request = state.requestNum) {callBack : Option RemoteObject}
    (same : call.callBack = callBack) {written : Bool}
    (answers : IsAnswered callBack written) (resultCode : Int32) :
    ({ state with requestNum := state.requestNum + 1 }.callAbilityManager resultCode
      call written).IsOrderly := by
  refine orderly.count.answerCall ?_ ?_ ?_ ?_ same answers resultCode
  · rw [new]
    exact Nat.lt_succ_self _
  · exact orderly.fresh _ (Nat.le_of_eq new.symm)
  · intro other accepted same
    exact Nat.ne_of_lt (orderly.counted other accepted) (same.trans new)
  · intro other pends
    exact Nat.ne_of_lt (orderly.pending other _ pends).1 new

theorem IsOrderly.query (orderly : state.IsOrderly)
    (idle : state.work thread = .idle) {want : Want} {userId : Int32}
    {callBack : Option RemoteObject} {found : Option Bool}
    {allocated written : Bool}
    (undisturbed : state.IsUndisturbed
      (.query thread want userId callBack found allocated written)) :
    (state.query thread want userId callBack found allocated written).IsOrderly := by
  obtain ⟨bundleName, abilityName, answers⟩ := undisturbed
  simp only [FreeInstallState.query, bundleName, abilityName, or_self, if_false]
  split
  · exact orderly.beginCall idle rfl allocated
  · next needsUpdate =>
      split
      · exact orderly.beginCall idle rfl allocated
      · next answered =>
          refine orderly.answerNew rfl rfl (answers ?_) _
          cases needsUpdate with
          | false => exact .inl rfl
          | true => exact .inr ⟨rfl, by simpa using answered⟩

/-- The runner takes a task that has waited. -/
theorem IsOrderly.take (orderly : state.IsOrderly)
    (idle : state.work runnerThread = .idle)
    {before after : List FreeInstallTask} {task : FreeInstallTask}
    (waits : state.tasks = before ++ task :: after) :
    ({ state with tasks := before ++ after }.perform task).IsOrderly := by
  have handled : state.hasHandler = true := orderly.handled (by
    rw [waits]
    simp)
  have drop {later : FreeInstallWork}
      (begun : (state.setWork runnerThread later).IsOrderly)
      (serves : later.transaction? = some task.transactId) :
      { state.setWork runnerThread later with
        tasks := before ++ after : FreeInstallState }.IsOrderly := by
    apply begun.dropTasks
    · change before ++ after ⊆ state.tasks
      rw [waits]
      simp
    · intro other posted
      change other ∈ state.tasks at posted
      rw [waits, List.mem_append, List.mem_cons] at posted
      rcases posted with first | rfl | last
      · exact .inl (List.mem_append_left _ first)
      · exact .inr ⟨runnerThread, by simpa using serves⟩
      · exact .inl (List.mem_append_right _ last)
  cases task with
  | sendRequest request =>
      apply drop _ rfl
      have admits : state.Admits runnerThread (.requesting request .connecting) := by
        refine .of_isQuiet rfl ?_ ?_ fun _ _ _ => ⟨rfl, handled⟩
        · rw [idle]
          rfl
        · rw [idle]
          intros; contradiction
      exact orderly.move admits state.transactId _ state.hasConnection _
        (orderly.fits (by
          rw [idle]
          exact id))
  | timeout transactId want userId =>
      apply drop _ rfl
      refine orderly.goOn rfl ?_ ?_ (by rintro _ _ ⟨⟩) ?_
      · rw [idle]
        rfl
      · rw [idle]
        intros; contradiction
      · rw [idle]
        exact id

/-- When the connection has been asked for, the runner waits for it. -/
theorem awaits_of_asked {connectState : ServiceCenterConnectState}
    (fits : work.FitsConnection connectState true) :
    ∃ request phase, work = .requesting request (.awaiting .connected phase) := by
  unfold FreeInstallWork.FitsConnection at fits
  split at fits
  · cases fits.1
  · cases fits.1
  · cases fits.1
  · exact fits.elim
  · exact ⟨_, _, rfl⟩
  · exact ⟨_, _, rfl⟩
  · cases fits
  · cases fits.1

/-- A lost connection fits a runner that is not about to see that it is there. -/
theorem fitsConnection_disconnected {connectState : ServiceCenterConnectState}
    {connectAsked : Bool} (fits : work.FitsConnection connectState connectAsked)
    (noticed : work.awaits? ≠ none → connectAsked = true) :
    work.wake.FitsConnection .disconnected connectAsked := by
  cases work with
  | requesting request phase =>
      cases phase with
      | gettingProxy | allocatingConnection | askingToConnect =>
          exact ⟨fits.1, nofun⟩
      | awaiting goal reached =>
          have asked := noticed nofun
          cases goal with
          | notConnecting => exact fits.elim
          | connected =>
              cases reached with
              | checking | blocked => exact iff_of_true asked nofun
              | blocking => exact ⟨asked, nofun⟩
      | checkingConnection => exact fits
      | connecting | writingRequest | allocatingCallback | writingCallback
      | sending | monitoring | arming => exact ⟨fits.1, nofun⟩
  | idle | counting | numbering | emplacing | posting | callingBack | removing
  | reading | reporting | forgetting => exact ⟨fits.1, nofun⟩

/-- The ability manager has made the connection. -/
theorem IsOrderly.connectDone (orderly : state.IsOrderly)
    (asked : state.connectAsked = true)
    (notices : (state.work runnerThread).awaits? ≠ some .blocking) :
    (state.onAbilityConnectDone true).IsOrderly := by
  have connects := orderly.connects
  rw [asked] at connects
  obtain ⟨request, phase, there⟩ := awaits_of_asked connects
  refine orderly.wake .connected state.hasConnection false ?_
  rw [there] at notices ⊢
  cases phase with
  | checking => exact iff_of_false nofun fun apart => apart rfl
  | blocking => exact absurd rfl notices
  | blocked => exact iff_of_false nofun fun apart => apart rfl

/-- The connection is lost. -/
theorem IsOrderly.disconnectDone (orderly : state.IsOrderly)
    (noticed : (state.work runnerThread).awaits? ≠ none →
      state.connectAsked = true) :
    state.onAbilityDisconnectDone.IsOrderly :=
  orderly.wake .disconnected state.hasConnection state.connectAsked
    (fitsConnection_disconnected orderly.connects noticed)

theorem idle_of_isFree (free : state.isFree thread = true) :
    state.work thread = .idle := by
  simp only [isFree, decide_eq_true_eq] at free
  exact free.2

theorem IsOrderly.step (orderly : state.IsOrderly) {event : FreeInstallEvent}
    (undisturbed : state.IsUndisturbed event)
    (step : state.step event = some next) : next.IsOrderly := by
  cases event
  all_goals
    simp only [FreeInstallState.step, Option.bind_eq_bind,
      Option.bind_eq_some_iff, Option.guard_eq_some', Option.pure_def,
      Option.some.injEq, exists_const] at step
    obtain ⟨-, step⟩ := step
  case query thread want userId callBack found allocated written =>
    obtain ⟨free, rfl⟩ := step
    exact orderly.query (idle_of_isFree free) undisturbed
  case upgradeAtomicService thread want userId allocated =>
    obtain ⟨free, rfl⟩ := step
    exact orderly.beginCall (idle_of_isFree free) rfl allocated
  case reply thread result =>
    obtain ⟨free, rfl⟩ := step
    unfold FreeInstallState.onServiceCenterCall
    split
    · have idle := idle_of_isFree free
      refine orderly.goOn rfl ?_ ?_ (by rintro _ _ ⟨⟩) ?_
      · rw [idle]
        rfl
      · rw [idle]
        intros; contradiction
      · rw [idle]
        exact id
    · exact orderly
  case remoteDied thread =>
    obtain ⟨free, rfl⟩ := step
    have nothing : state.freeInstallParamsMap.toList = [] := by
      rw [Std.ExtTreeMap.eq_empty_iff_size_eq_zero.mpr undisturbed]
      rfl
    simp only [FreeInstallState.onRemoteDied, nothing]
    exact orderly
  case take before task after =>
    obtain ⟨⟨idle, waits⟩, rfl⟩ := step
    exact orderly.take idle waits
  case advance thread outcome => exact orderly.advance undisturbed step
  case connectDone succeeds =>
    obtain ⟨asked, rfl⟩ := step
    obtain ⟨rfl, notices⟩ := undisturbed
    exact orderly.connectDone asked notices
  case disconnectDone =>
    obtain rfl := step
    exact orderly.disconnectDone undisturbed

theorem isOrderly_start (hasHandler : Bool) :
    { hasHandler := hasHandler : FreeInstallState }.IsOrderly where
  defined := rfl
  served := by intros; contradiction
  pending := by intros; contradiction
  pendingOnce := by intros; contradiction
  counted := by intros; contradiction
  fresh := fun _ _ => rfl
  entered := by intros; contradiction
  single := by intros; contradiction
  fetched := by intros; contradiction
  fetchedOnce := by intros; contradiction
  unanswered := by intros; contradiction
  told := by intros; contradiction
  answered := by intros; contradiction
  dropped := by intros; contradiction
  dropping := by intros; contradiction
  connects := ⟨rfl, nofun⟩
  runner := by intros; contradiction
  handled := fun some => absurd rfl some
  alive := fun _ _ => ⟨nofun, nofun⟩

theorem IsOrderly.keepsTransactions (orderly : state.IsOrderly) :
    state.KeepsTransactions := by
  have leaves (transactId : String) (params : FreeInstallParams)
      (present : state.HasEntry transactId params) :
      state.answersTo params.request = 0 ∨ ∃ thread,
        (state.work thread).erasing? = some (transactId, params.request) := by
    by_cases erasing : ∃ thread,
        (state.work thread).erasing? = some (transactId, params.request)
    · exact .inr erasing
    · exact .inl (orderly.unanswered transactId params present
        (not_exists.mp erasing))
  exact {
    defined := orderly.defined
    once := fun call accepted callBack => by
      by_cases there : ∃ transactId params, state.HasEntry transactId params ∧
          params.request = call.request
      · obtain ⟨transactId, params, present, same⟩ := there
        rw [← same]
        rcases leaves transactId params present with none | ⟨thread, erases⟩
        · exact Nat.le_of_eq none |>.trans (Nat.zero_le 1)
        · exact Nat.le_of_eq (orderly.told thread _ _ erases)
      · exact Nat.le_of_eq (orderly.answered call accepted callBack
          fun transactId params present same =>
            there ⟨transactId, params, present, same⟩)
    answered := orderly.answered
    leaves := leaves
    served := orderly.served
    awaited := fun thread blocked => by
      have connects := orderly.connects
      unfold FreeInstallWork.awaits? at blocked
      split at blocked
      · next request goal phase there =>
          cases blocked
          obtain ⟨rfl, -⟩ := orderly.runner _ _ _ there
          rw [there] at connects
          cases goal with
          | notConnecting => exact connects.elim
          | connected => exact connects.1
      · cases blocked
    dropped := orderly.dropped }

/-- When nothing is left to be done, every accepted call with a callback has been
answered exactly once. -/
theorem KeepsTransactions.answersTo_eq_one (keeps : state.KeepsTransactions)
    (noTask : state.tasks = []) (idle : ∀ thread, state.work thread = .idle) :
    ∀ call ∈ state.accepted, call.callBack.isSome = true →
      state.answersTo call.request = 1 := by
  intro call accepted callBack
  refine keeps.answered call accepted callBack fun transactId params present => ?_
  rcases keeps.served transactId params present with ⟨task, posted, -⟩ | ⟨thread, acts⟩
  · rw [noTask] at posted
    cases posted
  · rw [idle] at acts
    cases acts

end FreeInstallState

/-- In every run in which nothing comes in the way, each accepted call with a
callback is answered exactly once, when its entry leaves the map, no entry is left
to a silent service center, and the connection is dropped only when no entry
remains. -/
theorem freeInstall_keepsTransactions (hasHandler : Bool) {state : FreeInstallState}
    (reached : Relation.ReflTransGen FreeInstallStep { hasHandler := hasHandler }
      state) : state.KeepsTransactions := by
  have orderly : state.IsOrderly := by
    apply Runs.invariant FreeInstallState.IsOrderly _ reached
      (FreeInstallState.isOrderly_start hasHandler)
    rintro before after orderly ⟨event, undisturbed, step⟩
    exact orderly.step undisturbed step
  exact orderly.keepsTransactions

namespace FreeInstallState

/-- Events one after another. -/
def run (state : FreeInstallState) (events : List FreeInstallEvent) :
    Option FreeInstallState :=
  events.foldlM step state

theorem reached_of_run {state next : FreeInstallState}
    {events : List FreeInstallEvent} (ends : state.run events = some next) :
    Relation.ReflTransGen (fun before after => ∃ event,
      before.step event = some after) state next := by
  induction events generalizing state with
  | nil =>
      cases ends
      exact .refl
  | cons event events ih =>
      rw [run, List.foldlM_cons] at ends
      obtain ⟨middle, step, rest⟩ := Option.bind_eq_some_iff.mp ends
      exact .head ⟨event, step⟩ (ih rest)

end FreeInstallState

section Runs

def musicWant : Want := { bundleName := "music", abilityName := "play" }

/-- The request for the ability, as it is sent to the service center. -/
def musicRequest : ServiceRequest :=
  ⟨.connectSilentInstall, "1", musicWant, 100⟩

/-- A call is entered and sent, the connection is made for it, and its timeout is
armed. -/
def sendingEvents : List FreeInstallEvent :=
  .query 1 musicWant 100 (some 7) none true true ::
    List.replicate 4 (.advance 1 true) ++
  .take [] (.sendRequest musicRequest) [] :: List.replicate 4 (.advance 0 true) ++
  .connectDone true :: List.replicate 8 (.advance 0 true)

/-- The service center replies that all is done. -/
def doneEvents : List FreeInstallEvent :=
  sendingEvents ++ .reply 1 ⟨"1", ServiceCenterResultCode.freeInstallOk⟩ ::
    List.replicate 5 (.advance 1 true)

/-- The service center replies that it is downloading. -/
def downloadingEvents : List FreeInstallEvent :=
  sendingEvents ++
    .reply 1 ⟨"1", ServiceCenterResultCode.freeInstallDownloading⟩ ::
      List.replicate 2 (.advance 1 true)

theorem run_doneEvents :
    (FreeInstallState.run {} doneEvents).isSome = true := by
  decide +kernel

theorem run_downloadingEvents :
    (FreeInstallState.run {} downloadingEvents).isSome = true := by
  decide +kernel

/-- The caller has its answer, and the entry is gone. -/
theorem freeInstall_keepsTransactions_done :
    ∃ state : FreeInstallState, state.KeepsTransactions ∧
      state.answers = [⟨7, 0, musicWant, 100, 0⟩] ∧
        state.freeInstallParamsMap.size = 0 := by
  refine ⟨(FreeInstallState.run {} doneEvents).get run_doneEvents,
    freeInstall_keepsTransactions true ?_, by decide +kernel, by decide +kernel⟩
  -- The call is entered.
  refine .head ⟨.query 1 musicWant 100 (some 7) none true true, ?_, rfl⟩ ?_
  · refine ⟨by decide, by decide, ?_⟩
    rintro (found | ⟨found, -⟩) <;> cases found
  refine .head ⟨.advance 1 true, trivial, rfl⟩ ?_
  refine .head ⟨.advance 1 true, trivial, rfl⟩ ?_
  refine .head ⟨.advance 1 true, ⟨?_, nofun⟩, rfl⟩ ?_
  · rintro (_ | _ | other) <;> rfl
  refine .head ⟨.advance 1 true, trivial, rfl⟩ ?_
  -- The runner asks for the connection.
  refine .head ⟨.take [] (.sendRequest musicRequest) [], trivial, rfl⟩ ?_
  refine .head ⟨.advance 0 true, trivial, rfl⟩ ?_
  refine .head ⟨.advance 0 true, trivial, rfl⟩ ?_
  refine .head ⟨.advance 0 true, trivial, rfl⟩ ?_
  refine .head ⟨.advance 0 true, trivial, rfl⟩ ?_
  refine .head ⟨.connectDone true, ⟨rfl, nofun⟩, rfl⟩ ?_
  -- It sends the request and arms the timeout.
  refine .head ⟨.advance 0 true, trivial, rfl⟩ ?_
  refine .head ⟨.advance 0 true, trivial, rfl⟩ ?_
  refine .head ⟨.advance 0 true, trivial, rfl⟩ ?_
  refine .head ⟨.advance 0 true, rfl, rfl⟩ ?_
  refine .head ⟨.advance 0 true, trivial, rfl⟩ ?_
  refine .head ⟨.advance 0 true, trivial, rfl⟩ ?_
  refine .head ⟨.advance 0 true, trivial, rfl⟩ ?_
  refine .head ⟨.advance 0 true, trivial, rfl⟩ ?_
  -- The reply takes the timeout away and calls back.
  refine .head ⟨.reply 1 ⟨"1", 0⟩, trivial, rfl⟩ ?_
  refine .head ⟨.advance 1 true, ⟨rfl, nofun⟩, rfl⟩ ?_
  refine .head ⟨.advance 1 true, rfl, rfl⟩ ?_
  refine .head ⟨.advance 1 true, .inl ⟨_, rfl, rfl, ?_⟩, rfl⟩ ?_
  · rintro (_ | _ | other) _ <;> exact nofun
  refine .head ⟨.advance 1 true, rfl, rfl⟩ ?_
  refine .head ⟨.advance 1 true, trivial, rfl⟩ ?_
  exact .refl

/-- After the reply that the service center is downloading, the entry has neither
a task nor a timeout nor a thread that acts for it, and its caller no answer. -/
theorem freeInstall_downloading :
    ∃ state, Relation.ReflTransGen (fun before after : FreeInstallState =>
        ∃ event, before.step event = some after) {} state ∧
      ¬state.KeepsTransactions ∧ state.freeInstallParamsMap.size = 1 ∧
        state.answers = [] := by
  have ends := Option.some_get run_downloadingEvents
  refine ⟨_, FreeInstallState.reached_of_run ends.symm, fun keeps => ?_,
    by decide +kernel, by decide +kernel⟩
  have noTask : ((FreeInstallState.run {} downloadingEvents).get
      run_downloadingEvents).tasks = [] := by
    decide +kernel
  rcases keeps.served "1" ⟨some 7, musicWant, 100, .connectSilentInstall, 0⟩ rfl with
    ⟨task, posted, -⟩ | ⟨thread, acts⟩
  · rw [noTask] at posted
    cases posted
  · rcases thread with _ | _ | other <;> cases acts

end Runs

end AppExecFwk
