import AppExecFwk.EventHandler.SyncEvents

/-!
# Synchronous calls come to an end

As long as a thread waits in `SendSyncEvent`, every step of the thread of the
runner brings its event nearer to being recycled: it takes an early event or
brings the counters of the queue forward, or it goes on with the event in hand.
-/

namespace AppExecFwk

open EventQueue

namespace SyncState

/-- How many steps the thread of the runner does at most before it takes an
event, or before it has recycled the event in hand. -/
def stepsLeft (state : SyncState) : Nat :=
  match state.loop, state.wait.phase with
  | .looping, .returned (some _) => if state.handed then 1 else 2
  | .looping, .waiting _ _ => 3
  | .looping, .woken _ _ _ => 2
  | .looping, .counted _ _ _ => 1
  | .started, _ => 1
  | _, _ => 0

/-- How many early events are about to be inserted above `idle`. -/
def lateNum (state : SyncState) (time : TimePoint) : Nat :=
  state.threads.countP (·.isLate time)

/-- How many picks may still come before the early events are gone. -/
def picksLeft (state : SyncState) (time : TimePoint) : Nat :=
  QueueRun.picksLeft defaultMaxHandledEventCount state.wait.queue time +
    (defaultMaxHandledEventCount.toNat + 1) ^ 2 * state.lateNum time

/-- How many steps of the thread of the runner an event has to wait. -/
def waitsFor (state : SyncState) (event : QueuedEvent) : Nat :=
  if state.wait.phase = .returned (some event) then state.stepsLeft
  else 3 * state.picksLeft event.handleTime + state.stepsLeft

/-- How many steps of the thread of the runner an event has to wait at most. -/
def waitBound (state : SyncState) (event : QueuedEvent) : Nat :=
  3 * ((defaultMaxHandledEventCount.toNat + 1) ^ 2 *
    (state.wait.queue.pendingBy event.handleTime +
      state.lateNum event.handleTime)) + 3

/-- The thread of the runner will recycle an event: it has the event in hand or
takes the events of the queue; it can go on and does not oversleep; and it does
so after a number of steps, whatever the other threads do meanwhile. -/
structure IsComing (state : SyncState) (event : QueuedEvent) : Prop where
  held : state.wait.phase = .returned (some event) ∨
    state.Serves ∧ ∃ priority, event ∈ state.wait.queue.events priority
  able : ∃ next, LoopStep state next
  awake : event.handleTime < state.clock →
    ∀ holder deadline, state.wait.phase = .waiting holder deadline →
      (state.wait.waiters holder).notified = true ∨ deadline ≤ state.clock
  soon : event.handleTime < state.clock →
    ∀ steps later, SyncPath Meets state steps later →
      later.recycled event.arrival = false → steps ≤ state.waitBound event

variable {state next : SyncState} {event : QueuedEvent} {priority : Priority}

theorem stepsLeft_le (state : SyncState) : state.stepsLeft ≤ 3 := by
  unfold stepsLeft
  split
  case h_1 => split <;> omega
  all_goals omega

theorem waitsFor_le (state : SyncState) (event : QueuedEvent) :
    state.waitsFor event ≤ state.waitBound event := by
  have steps := state.stepsLeft_le
  have picks : state.picksLeft event.handleTime ≤
      (defaultMaxHandledEventCount.toNat + 1) ^ 2 *
        (state.wait.queue.pendingBy event.handleTime +
          state.lateNum event.handleTime) := by
    unfold SyncState.picksLeft QueueRun.picksLeft
    rw [Nat.mul_add, Nat.mul_comm _ (state.wait.queue.pendingBy _)]
    exact Nat.add_le_add_right (Nat.sub_le _ _) _
  unfold waitsFor waitBound
  split <;> omega

/-- In the loop the thread of the runner can always do a step. -/
theorem exists_loopStep (busy : state.loop = .started ∨ state.loop = .looping) :
    ∃ next, LoopStep state next := by
  rcases busy with started | looping
  · exact ⟨_, .prepares state started⟩
  cases phase : state.wait.phase with
  | outside => exact ⟨_, .picks state _ looping (.call _ phase)⟩
  | returned event =>
      cases event with
      | none => exact ⟨_, .leaves state looping phase⟩
      | some event =>
          cases handed : state.handed with
          | true => exact ⟨_, .recycles state event phase handed⟩
          | false =>
              cases owner : (event.getOwner state.alive).isSome with
              | true => exact ⟨_, .hands state event phase handed owner⟩
              | false => exact ⟨_, .drops state event phase handed owner⟩
  | waiting holder deadline =>
      cases kind : (state.wait.waiters holder).kind with
      | none =>
          exact ⟨_, .picks state _ looping
            (.conditionWakes _ holder deadline phase kind)⟩
      | epoll =>
          exact ⟨_, .wakes state _ looping
            (.epollReturns _ holder deadline false false phase kind nofun)⟩
  | woken holder awakened failed =>
      exact ⟨_, .wakes state _ looping
        (.epollCounts _ holder awakened failed phase)⟩
  | counted holder awakened failed =>
      exact ⟨_, .wakes state _ looping
        (.epollDrains _ holder awakened failed phase)⟩
  | locking failed => exact ⟨_, .picks state _ looping (.locks _ failed phase)⟩

/-- The thread of the runner has something in hand in the loop only. -/
theorem LoopIsSound.looping {taken : Option QueuedEvent}
    (sound : state.LoopIsSound) (phase : state.wait.phase = .returned taken) :
    state.loop = .looping := by
  by_contra left
  have outside := sound.outside left
  exact absurd (outside.symm.trans phase) nofun

/-- The steps with an event in hand lead to its end. -/
theorem IsSound.waitsFor_inHand (sound : state.IsSound)
    (step : LoopStep state next)
    (phase : state.wait.phase = .returned (some event))
    (unended : next.recycled event.arrival = false) :
    next.waitsFor event + 1 ≤ state.waitsFor event := by
  have looping := sound.loop.looping phase
  cases step with
  | prepares loop => cases looping.symm.trans loop
  | picks before loop locks => exact absurd phase (locks.not_returned _)
  | wakes wait loop wakes => exact absurd phase (wakes.not_returned _).1
  | hands other samePhase unhanded owner =>
      simp [waitsFor, stepsLeft, phase, looping, unhanded]
  | drops other samePhase unhanded orphan =>
      obtain rfl : event = other := by simpa [phase] using samePhase
      simp [SyncState.recycle] at unended
  | recycles other samePhase handed =>
      obtain rfl : event = other := by simpa [phase] using samePhase
      simp [SyncState.recycle] at unended
  | leaves loop samePhase => cases phase.symm.trans samePhase

/-- A step that picks nothing brings an event nearer as it brings the thread
nearer to its next pick. -/
theorem waitsFor_lt (absent : state.wait.phase ≠ .returned (some event))
    (absentNext : next.wait.phase ≠ .returned (some event))
    (picks : next.picksLeft event.handleTime = state.picksLeft event.handleTime)
    (steps : next.stepsLeft + 1 ≤ state.stepsLeft) :
    next.waitsFor event + 1 ≤ state.waitsFor event := by
  unfold waitsFor
  rw [if_neg absent, if_neg absentNext, picks]
  omega

/-- A search for an event that is due takes one, and brings the event nearer. -/
theorem IsSound.waitsFor_picks {before : WaitState} (sound : state.IsSound)
    (loop : state.loop = .looping) (locks : TakesLock state.wait before)
    (waking : priority ≠ .idle) (past : event.handleTime < state.clock)
    (unfinished : state.wait.queue.finished = false)
    (pending : event ∈ state.wait.queue.events priority) :
    (state.getEvent before).waitsFor event + 1 ≤ state.waitsFor event := by
  have faithful := sound.queue.faithful
  have counts := sound.queue.counts
  have possible : event.handleTime < TimePoint.max :=
    Int64.lt_of_lt_of_le past (Int64.le_maxValue _)
  have due := Int64.le_of_lt past
  have absent : state.wait.phase ≠ .returned (some event) :=
    locks.not_returned _
  have unhanded := sound.fates.unhanded fun taken =>
    locks.not_returned (some taken)
  have after : (QueueCall.getExpiredEvent state.clock TimePoint.max).IsAfter
      event.handleTime := due
  have progress :=
    QueueRun.picksLeft_call faithful counts waking pending possible after
  obtain ⟨taken, log⟩ := QueueRun.exists_returned faithful counts waking pending
    possible due TimePoint.max
  rcases getEvent_cases locks.queue_eq with
    ⟨finished, -⟩ | ⟨-, same, ⟨first, phase, -⟩ | ⟨holder, deadline, -, sameLog⟩⟩
  · exact absurd (finished.symm.trans unfinished) nofun
  · have queue : (state.getEvent before).wait.queue =
        (state.run.call (.getExpiredEvent state.clock TimePoint.max)).queue :=
      congrArg QueueRun.queue same
    have steps : (state.getEvent before).stepsLeft = 2 := by
      have sameLoop : (state.getEvent before).loop = .looping := loop
      have sameHanded : (state.getEvent before).handed = false := unhanded
      simp [stepsLeft, phase, sameLoop, sameHanded]
    have late : (state.getEvent before).lateNum event.handleTime =
        state.lateNum event.handleTime := rfl
    have fewer : QueueRun.picksLeft defaultMaxHandledEventCount
          (state.getEvent before).wait.queue event.handleTime + 1 ≤
        QueueRun.picksLeft defaultMaxHandledEventCount state.wait.queue
          event.handleTime := queue ▸ progress
    unfold waitsFor SyncState.picksLeft
    rw [if_neg absent, steps, late]
    split <;> omega
  · have log : (state.getEvent before).log =
        .returned taken state.clock :: state.log :=
      (congrArg QueueRun.log same).trans log
    rw [sameLog] at log
    exact absurd log.symm (List.cons_ne_self _ _)

theorem IsSound.waitsFor_loopStep (sound : state.IsSound)
    (step : LoopStep state next) (waking : priority ≠ .idle)
    (past : event.handleTime < state.clock)
    (held : state.wait.phase = .returned (some event) ∨
      state.Serves ∧ event ∈ state.wait.queue.events priority)
    (unended : next.recycled event.arrival = false) :
    next.waitsFor event + 1 ≤ state.waitsFor event := by
  rcases held with inHand | ⟨serves, pending⟩
  · exact sound.waitsFor_inHand step inHand unended
  have absent : state.wait.phase ≠ .returned (some event) := by
    intro phase
    exact sound.fates.apart sound.queue phase pending rfl
  have unfinished (loop : state.loop = .looping) :
      state.wait.queue.finished = false := by
    rcases serves with started | ⟨-, unfinished⟩
    · cases loop.symm.trans started
    · exact unfinished
  cases step with
  | prepares loop =>
      have phase := sound.loop.outside (by simp [loop])
      exact waitsFor_lt absent absent rfl (by simp [stepsLeft, phase, loop])
  | picks before loop locks =>
      exact sound.waitsFor_picks loop locks waking past (unfinished loop) pending
  | wakes wait loop wakes =>
      have fresh := (wakes.not_returned (some event)).2
      refine waitsFor_lt absent fresh ?_ ?_
      · simp only [SyncState.picksLeft, wakes.queue_eq]
        rfl
      · cases wakes <;> simp_all [stepsLeft]
  | hands other phase unhanded owner =>
      have looping := sound.loop.looping phase
      exact waitsFor_lt absent absent rfl
        (by simp [stepsLeft, phase, looping, unhanded])
  | drops other phase unhanded orphan =>
      have looping := sound.loop.looping phase
      exact waitsFor_lt absent (by simp [SyncState.recycle]) rfl
        (by simp [stepsLeft, SyncState.recycle, phase, looping, unhanded])
  | recycles other phase handed =>
      have looping := sound.loop.looping phase
      exact waitsFor_lt absent (by simp [SyncState.recycle]) rfl
        (by simp [stepsLeft, SyncState.recycle, phase, looping, handed])
  | leaves loop phase =>
      have finished := sound.loop.finished phase
      exact absurd (finished.symm.trans (unfinished loop)) (by simp)

end SyncState

/-- An event that is sent with a delay that the clock can hold is not due before
it was sent. -/
theorem EventHandler.le_handleTime_of_sendEvent {handler : EventHandler}
    {event sent : InnerEvent} {delayTime : Int64} {priority : Priority}
    {now : TimePoint}
    (sends : handler.sendEvent (some event) delayTime priority now =
      some (.insert (some sent) priority))
    (fits : delayTime.toInt ≤ 0 ∨
      now.toInt + delayTime.toInt * 1000000 < 2 ^ 63) :
    now ≤ sent.handleTime := by
  have timely := (isTimely_sendEvent handler (some event) priority delayTime
    now).mpr (.inr fits)
  rw [sends] at timely
  have order : sent.sendTime ≤ sent.handleTime := timely.1
  simp only [EventHandler.sendEvent] at sends
  split at sends
  · cases sends
  · cases sends
    exact order

namespace SyncState

variable {state next : SyncState} {event : QueuedEvent}

theorem waitsFor_le_of_frame (phase : next.wait.phase = state.wait.phase)
    (loop : next.loop = state.loop) (handed : next.handed = state.handed)
    (picks : next.picksLeft event.handleTime ≤
      state.picksLeft event.handleTime) :
    next.waitsFor event ≤ state.waitsFor event := by
  have steps : next.stepsLeft = state.stepsLeft := by
    unfold stepsLeft
    rw [phase, loop, handed]
  unfold waitsFor
  rw [phase, steps]
  split <;> omega

theorem lateNum_setThread {thread : Nat} {before : SenderPhase}
    (here : state.threads[thread]? = some before) (phase : SenderPhase)
    (time : TimePoint) :
    (state.setThread thread phase).lateNum time +
        (if before.isLate time then 1 else 0) =
      state.lateNum time + (if phase.isLate time then 1 else 0) := by
  obtain ⟨inside, rfl⟩ := List.getElem?_eq_some_iff.mp here
  unfold lateNum setThread
  rw [List.countP_set inside]
  by_cases late : (state.threads[thread]).isLate time = true
  · have counted : 0 < state.threads.countP (·.isLate time) :=
      List.countP_pos_iff.mpr ⟨_, List.getElem_mem inside, late⟩
    rw [if_pos late]
    omega
  · rw [if_neg late]
    omega

/-- A thread that goes on to no early event adds no pick. -/
theorem picksLeft_setThread_le {thread : Nat} {before phase : SenderPhase}
    {time : TimePoint} (here : state.threads[thread]? = some before)
    (fresh : phase.isLate time = false) :
    (state.setThread thread phase).picksLeft time ≤ state.picksLeft time := by
  have same := lateNum_setThread here phase time
  rw [fresh, if_neg Bool.false_ne_true] at same
  have fewer : (state.setThread thread phase).lateNum time ≤
      state.lateNum time := by omega
  exact Nat.add_le_add_left (Nat.mul_le_mul_left _ fewer) _

theorem isLate_sending {sync : Bool} {sent : InnerEvent} {priority : Priority}
    {time : TimePoint} (later : time < sent.handleTime) :
    (SenderPhase.sending sync sent priority).isLate time = false := by
  simp [SenderPhase.isLate, Int64.not_le.mpr later]

theorem picksLeft_insert_le {thread : Nat} {sync : Bool} {sent : InnerEvent}
    {priority : Priority} {phase : SenderPhase} {time : TimePoint}
    (sending : state.threads[thread]? = some (.sending sync sent priority))
    (fresh : phase.isLate time = false) :
    ((state.insert ⟨sent, state.arrivals⟩ priority).setThread thread
      phase).picksLeft time ≤ state.picksLeft time := by
  have same := lateNum_setThread sending phase time
  rw [fresh, if_neg Bool.false_ne_true] at same
  have more : QueueRun.picksLeft defaultMaxHandledEventCount
        (state.wait.queue.insert (some ⟨sent, state.arrivals⟩) priority).2 time ≤
      QueueRun.picksLeft defaultMaxHandledEventCount state.wait.queue time +
        (defaultMaxHandledEventCount.toNat + 1) ^ 2 *
          if priority ≠ .idle ∧ sent.handleTime ≤ time then 1 else 0 :=
    QueueRun.picksLeft_insert_le _ _ _ _ _
  have lateNum : ((state.insert ⟨sent, state.arrivals⟩ priority).setThread thread
      phase).lateNum time = (state.setThread thread phase).lateNum time := rfl
  have queue : ((state.insert ⟨sent, state.arrivals⟩ priority).setThread thread
      phase).wait.queue =
        (state.wait.queue.insert (some ⟨sent, state.arrivals⟩) priority).2 :=
    insert_queue _ _ _
  have late : (SenderPhase.sending sync sent priority).isLate time = true ↔
      priority ≠ .idle ∧ sent.handleTime ≤ time := by
    simp [SenderPhase.isLate]
  unfold SyncState.picksLeft
  rw [lateNum, queue]
  simp only [late] at same
  rw [← Nat.add_zero (state.lateNum time), ← same, Nat.mul_add]
  omega

theorem IsSound.waitsFor_callStep {action : SyncAction} (sound : state.IsSound)
    (step : CallStep state action next) (meets : state.Meets action)
    (past : event.handleTime < state.clock)
    (busy : state.loop = .started ∨ state.loop = .looping) :
    next.waitsFor event ≤ state.waitsFor event := by
  cases step with
  | run deposit stopped =>
      have idle := sound.loop.resting stopped deposit
      simp [idle] at busy
  | runReturns deposit left => simp [left] at busy
  | tick | stop | lateNotification | expire => exact Nat.le_refl _
  | remove removal =>
      refine waitsFor_le_of_frame rfl rfl rfl ?_
      refine Nat.add_le_add_right ?_ _
      simp only [SyncState.remove, WaitState.remove, removal.apply_eq_remove]
      exact QueueRun.picksLeft_remove_le _ _ _ _
  | addFileDescriptorListener fileDescriptor hasEvents hasListener initialized
      added =>
      have frame := (ClientStep.addFileDescriptorListener state.wait fileDescriptor
        hasEvents hasListener initialized added).frame
      refine waitsFor_le_of_frame frame.2 rfl rfl ?_
      refine Nat.add_le_add_right ?_ _
      simp only [addFileDescriptorListener_queue]
      exact Nat.le_refl _
  | refuse thread asked priority outside invalid =>
      exact waitsFor_le_of_frame rfl rfl rfl (picksLeft_setThread_le outside rfl)
  | pass thread asked priority outside valid running =>
      exact waitsFor_le_of_frame rfl rfl rfl (picksLeft_setThread_le outside rfl)
  | sendEvent thread handler asked sent delayTime priority outside sends =>
      have later := EventHandler.le_handleTime_of_sendEvent sends meets
      exact waitsFor_le_of_frame rfl rfl rfl (picksLeft_setThread_le outside
        (isLate_sending (Int64.lt_of_lt_of_le past later)))
  | sendSyncEvent thread handler asked sent priority checked sends =>
      have later := EventHandler.le_handleTime_of_sendEvent sends
        (.inl (by decide))
      exact waitsFor_le_of_frame rfl rfl rfl (picksLeft_setThread_le checked
        (isLate_sending (Int64.lt_of_lt_of_le past later)))
  | insert thread sync sent priority sending =>
      refine waitsFor_le_of_frame (phase_insert _ _) rfl rfl
        (picksLeft_insert_le sending ?_)
      cases sync <;> rfl
  | wakeSender thread served priority waiting recycled =>
      exact waitsFor_le_of_frame rfl rfl rfl (picksLeft_setThread_le waiting rfl)
  | callAgain thread returned =>
      rcases returned with refused | ⟨served, returned⟩
      · exact waitsFor_le_of_frame rfl rfl rfl
          (picksLeft_setThread_le refused rfl)
      · exact waitsFor_le_of_frame rfl rfl rfl
          (picksLeft_setThread_le returned rfl)

/-- A thread waits until its event is recycled. -/
theorem waiting_callStep {thread : Nat} {priority : Priority}
    {action : SyncAction}
    (waits : state.threads[thread]? = some (.waiting event priority))
    (step : CallStep state action next)
    (unended : next.recycled event.arrival = false) :
    next.threads[thread]? = some (.waiting event priority) := by
  have kept (other : Nat) (before phase : SenderPhase)
      (here : state.threads[other]? = some before)
      (apart : before ≠ .waiting event priority) :
      (state.threads.set other phase)[thread]? =
        some (.waiting event priority) := by
    have different : other ≠ thread := by
      rintro rfl
      exact apart (Option.some.inj (here.symm.trans waits))
    rw [List.getElem?_set_ne different]
    exact waits
  cases step with
  | tick | run | runReturns | stop | remove | addFileDescriptorListener
  | lateNotification | expire => exact waits
  | refuse other asked place outside invalid => exact kept _ _ _ outside nofun
  | pass other asked place outside valid running =>
      exact kept _ _ _ outside nofun
  | sendEvent other handler asked sent delayTime place outside sends =>
      exact kept _ _ _ outside nofun
  | sendSyncEvent other handler asked sent place checked sends =>
      exact kept _ _ _ checked nofun
  | insert other sync sent place sending => exact kept _ _ _ sending nofun
  | wakeSender other served place waiting recycled =>
      refine kept _ _ _ waiting ?_
      intro same
      cases same
      exact absurd (recycled.symm.trans unended) nofun
  | callAgain other returned =>
      rcases returned with refused | ⟨served, returned⟩
      · exact kept _ _ _ refused nofun
      · exact kept _ _ _ returned nofun

/-- The event of a waiting thread is in hand, or in the queue of a runner that
takes its events. -/
theorem IsSound.held {thread : Nat} {priority : Priority} (sound : state.IsSound)
    (waits : state.threads[thread]? = some (.waiting event priority))
    (unended : state.recycled event.arrival = false) :
    state.wait.phase = .returned (some event) ∨
      state.Serves ∧ event ∈ state.wait.queue.events priority := by
  obtain ⟨-, -, inserted⟩ := sound.threads _ (List.mem_of_getElem? waits)
  rcases sound.fates.settled event priority inserted with pending | inHand | ended
  · exact .inr ⟨sound.serves (owes_of_getElem? waits pending), pending⟩
  · exact .inl inHand
  · exact absurd (ended.symm.trans unended) nofun

theorem IsSound.busy {thread : Nat} {priority : Priority} (sound : state.IsSound)
    (waits : state.threads[thread]? = some (.waiting event priority))
    (unended : state.recycled event.arrival = false) :
    state.loop = .started ∨ state.loop = .looping := by
  rcases sound.held waits unended with inHand | ⟨serves, -⟩
  · exact .inr (sound.loop.looping inHand)
  · exact serves.imp_right And.left

/-- What has not been recycled had not been before. -/
theorem Grows.unended {arrival : Nat} (grows : state.Grows next)
    (unended : next.recycled arrival = false) :
    state.recycled arrival = false := by
  cases before : state.recycled arrival with
  | false => rfl
  | true => exact absurd ((grows.recycled _ before).symm.trans unended) nofun

/-- The steps of the thread of the runner while a thread waits are those that
its event had to wait for. -/
theorem IsSound.steps_add_le {thread steps : Nat} {priority : Priority}
    {later : SyncState} (sound : state.IsSound)
    (waits : state.threads[thread]? = some (.waiting event priority))
    (past : event.handleTime < state.clock)
    (path : SyncPath Meets state steps later)
    (unended : later.recycled event.arrival = false) :
    later.threads[thread]? = some (.waiting event priority) ∧
      event.handleTime < later.clock ∧
      steps + later.waitsFor event ≤ state.waitsFor event := by
  induction path with
  | refl => exact ⟨waits, past, by omega⟩
  | loop path step ih =>
      have before := step.grows.unended unended
      obtain ⟨waits, past, bound⟩ := ih before
      have sound := sound.path path
      obtain ⟨waking, -, -⟩ := sound.threads _ (List.mem_of_getElem? waits)
      have nearer := sound.waitsFor_loopStep step waking past
        (sound.held waits before) unended
      refine ⟨?_, Int64.lt_of_lt_of_le past step.grows.clock, by omega⟩
      rw [threads_loopStep step]
      exact waits
  | call path step meets ih =>
      have before := step.grows.unended unended
      obtain ⟨waits, past, bound⟩ := ih before
      have sound := sound.path path
      have still := sound.waitsFor_callStep step meets past
        (sound.busy waits before)
      exact ⟨waiting_callStep waits step unended,
        Int64.lt_of_lt_of_le past step.grows.clock, by omega⟩

/-- A sleeping thread that nobody has notified wakes up before an event of its
queue is due. -/
theorem IsSound.deadline_le {holder : Nat} {deadline : TimePoint}
    {priority : Priority} (sound : state.IsSound) (waking : priority ≠ .idle)
    (pending : event ∈ state.wait.queue.events priority)
    (asleep : state.wait.phase = .waiting holder deadline)
    (unnotified : (state.wait.waiters holder).notified = false) :
    deadline ≤ event.handleTime := by
  obtain ⟨-, -, watched⟩ := sound.queue.alert.asleep holder deadline asleep
  exact (watched unnotified).noneBefore priority waking event pending

theorem IsSound.isComing {thread : Nat} {priority : Priority}
    (sound : state.IsSound)
    (waits : state.threads[thread]? = some (.waiting event priority))
    (unended : state.recycled event.arrival = false) : state.IsComing event where
  held := (sound.held waits unended).imp_right
    fun ⟨serves, pending⟩ => ⟨serves, priority, pending⟩
  able := exists_loopStep (sound.busy waits unended)
  awake := by
    intro past holder deadline asleep
    rcases sound.held waits unended with inHand | ⟨-, pending⟩
    · cases asleep.symm.trans inHand
    obtain ⟨waking, -, -⟩ := sound.threads _ (List.mem_of_getElem? waits)
    cases notified : (state.wait.waiters holder).notified with
    | true => exact .inl rfl
    | false =>
        have early := sound.deadline_le waking pending asleep notified
        exact .inr (Int64.le_trans early (Int64.le_of_lt past))
  soon := by
    intro past steps later path unended
    have bound := (sound.steps_add_le waits past path unended).2.2
    have limit := state.waitsFor_le event
    omega

end SyncState

/-- As long as the queue is not finished under a call that relies on the loop and
no call passes the check of a runner that has ended its loop, every call of
`SendSyncEvent` comes to its end: the thread of the runner is never blocked and
recycles the event after a bounded number of steps, and a call that has returned
`true` had its event dispatched exactly once or removed. -/
theorem sendSyncEvent_ends {idleTimeStamp clock : TimePoint} {deposit : Bool}
    {threadNum steps : Nat} {state : SyncState}
    (path : SyncPath SyncState.Meets
      (.start idleTimeStamp clock deposit threadNum) steps state)
    (thread : Nat) (event : QueuedEvent) :
    (∀ priority, state.threads[thread]? = some (.waiting event priority) →
      state.recycled event.arrival = true ∨ state.IsComing event) ∧
    (state.threads[thread]? = some (.served event) →
      state.IsEnded event.arrival) := by
  have sound := (SyncState.isSound_start idleTimeStamp clock deposit
    threadNum).path path
  constructor
  · intro priority waits
    cases ended : state.recycled event.arrival with
    | true => exact .inl rfl
    | false => exact .inr (sound.isComing waits ended)
  · intro served
    have recycled := sound.threads _ (List.mem_of_getElem? served)
    exact sound.fates.ended _ recycled

/-- A runner with a thread that waits in `SendSyncEvent`. -/
def waitedFor : SyncState :=
  let sent : QueuedEvent := ⟨{ owner := some 0 }, 0⟩
  let ready : SyncState := .start 0 0 true 1
  (((ready.setThread 0 (.checked {} .low)).setThread 0
    (.sending true sent.toInnerEvent .low)).insert sent .low).setThread 0
      (.waiting sent .low)

theorem sendSyncEvent_ends_waitedFor :
    waitedFor.recycled 0 = true ∨
      waitedFor.IsComing ⟨{ owner := some 0 }, 0⟩ := by
  have path : SyncPath SyncState.Meets (.start 0 0 true 1) 0 waitedFor :=
    .call (.call (.call .refl (.pass _ 0 {} .low rfl nofun rfl) (.inl rfl))
      (.sendSyncEvent _ 0 ⟨0, true⟩ {} _ .low rfl rfl) trivial)
      (.insert _ 0 true _ .low rfl) trivial
  exact (sendSyncEvent_ends path 0 ⟨{ owner := some 0 }, 0⟩).1 .low rfl

namespace SyncState

/-- Only a call of `Run` sets an idle runner going. -/
theorem idle_callStep {state next : SyncState} {action : SyncAction}
    (idle : state.loop = .idle) (outside : state.wait.phase = .outside)
    (step : CallStep state action next)
    (allowed : action ≠ .run ∧ action ≠ .remove) :
    next.loop = .idle ∧ next.wait.phase = .outside ∧
      next.recycled = state.recycled := by
  cases step with
  | run => exact absurd rfl allowed.1
  | remove => exact absurd rfl allowed.2
  | addFileDescriptorListener fileDescriptor hasEvents hasListener initialized
      added =>
      have frame := (ClientStep.addFileDescriptorListener state.wait fileDescriptor
        hasEvents hasListener initialized added).frame
      exact ⟨idle, frame.2.trans outside, rfl⟩
  | insert thread sync event priority sending =>
      exact ⟨idle, (phase_insert _ _).trans outside, rfl⟩
  | tick | stop | lateNotification | expire | refuse | pass | sendEvent
  | sendSyncEvent | wakeSender | callAgain => exact ⟨idle, outside, rfl⟩
  | runReturns => exact ⟨rfl, outside, rfl⟩

/-- When the loop is over, a thread waits until somebody runs the runner again or
removes the event. -/
theorem waits_of_idle {state later : SyncState} {event : QueuedEvent}
    {thread steps : Nat} {priority : Priority} (idle : state.loop = .idle)
    (outside : state.wait.phase = .outside)
    (waits : state.threads[thread]? = some (.waiting event priority))
    (unended : state.recycled event.arrival = false)
    (path : SyncPath (fun _ action => action ≠ .run ∧ action ≠ .remove) state
      steps later) :
    (steps = 0 ∧ later.loop = .idle ∧ later.wait.phase = .outside) ∧
      later.threads[thread]? = some (.waiting event priority) ∧
        later.recycled event.arrival = false := by
  induction path with
  | refl => exact ⟨⟨rfl, idle, outside⟩, waits, unended⟩
  | loop path step ih =>
      obtain ⟨⟨-, idle, outside⟩, -⟩ := ih
      cases step <;> simp_all
  | call path step allowed ih =>
      obtain ⟨⟨rfl, idle, outside⟩, waits, unended⟩ := ih
      obtain ⟨stillIdle, stillOutside, same⟩ :=
        idle_callStep idle outside step allowed
      have unended := (congrFun same event.arrival).trans unended
      exact ⟨⟨rfl, stillIdle, stillOutside⟩, waiting_callStep waits step unended,
        unended⟩

end SyncState

/-- The runner is stopped between the check and the insertion of a synchronous
event: the thread of the runner has left, and the sender waits for as long as
nobody runs the runner again or removes the event. -/
theorem sendSyncEvent_left_waiting :
    ∃ steps state event,
      SyncPath (fun _ _ => True) (.start 0 0 false 1) steps state ∧
      state.threads[0]? = some (.waiting event .low) ∧
      ∀ more later, SyncPath (fun _ action => action ≠ .run ∧ action ≠ .remove)
          state more later →
        more = 0 ∧ later.threads[0]? = some (.waiting event .low) ∧
          later.recycled event.arrival = false := by
  let sent : QueuedEvent := ⟨{ owner := some 0 }, 0⟩
  let start : SyncState := .start 0 0 false 1
  let looping : SyncState := { start with
    wait := { start.wait with queue := start.wait.queue.prepare }
    running := true
    loop := .looping }
  let checked : SyncState := looping.setThread 0 (.checked {} .low)
  let stopped : SyncState := { checked with wait := checked.wait.finish }
  let returned : SyncState := stopped.getEvent stopped.wait
  let idle : SyncState := { returned with
    wait := { returned.wait with phase := .outside }
    running := false
    loop := .idle }
  let sending : SyncState :=
    idle.setThread 0 (.sending true sent.toInnerEvent .low)
  let waiting : SyncState :=
    (sending.insert sent .low).setThread 0 (.waiting sent .low)
  have toLooping : SyncPath (fun _ _ => True) start 1 looping :=
    .loop (.call .refl (.run _ rfl rfl) trivial) (.prepares _ rfl)
  have toStopped : SyncPath (fun _ _ => True) start 1 stopped :=
    .call (.call toLooping (.pass _ 0 {} .low rfl nofun rfl) trivial)
      (.stop _) trivial
  have toIdle : SyncPath (fun _ _ => True) start 3 idle :=
    .call (.loop (.loop toStopped (.picks _ _ rfl (.call _ rfl)))
      (.leaves _ rfl rfl)) (.runReturns _ rfl rfl) trivial
  have toWaiting : SyncPath (fun _ _ => True) start 3 waiting :=
    .call (.call toIdle (.sendSyncEvent _ 0 ⟨0, true⟩ {} _ .low rfl rfl) trivial)
      (.insert _ 0 true _ .low rfl) trivial
  have inserted : (sending.insert sent .low).wait.phase = sending.wait.phase :=
    SyncState.phase_insert sent .low
  have outside : waiting.wait.phase = .outside := inserted
  have waits : waiting.threads[0]? = some (.waiting sent .low) := rfl
  refine ⟨3, waiting, sent, toWaiting, waits, ?_⟩
  intro more later path
  obtain ⟨⟨steps, -, -⟩, waits, unended⟩ :=
    SyncState.waits_of_idle rfl outside waits rfl path
  exact ⟨steps, waits, unended⟩

end AppExecFwk
