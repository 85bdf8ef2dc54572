import AppExecFwk.EventHandler.Delays
import AppExecFwk.EventHandler.Fairness
import AppExecFwk.EventHandler.RunnerStop

/-!
# Synchronous events

`EventHandler::SendSyncEvent` makes sure that the runner is running, inserts the
event with a waiter, and waits until the event is recycled.  These are separate
steps, and the runner may be stopped between any two of them; what is in the
queue then stays there.  As long as the queue is not finished while a call is
owed its event, every call ends: its event is dispatched or removed.

A handler holds its runner, so neither the runner nor its queue is destroyed
while a thread is in a call of a handler.
-/

namespace AppExecFwk

open EventQueue

/-- Where a thread is that sends events. -/
inductive SenderPhase where
  | outside
  /-- The runner was running when `SendSyncEvent` asked. -/
  | checked (event : InnerEvent) (priority : Priority)
  /-- The clock has been read for an event that is about to be inserted. -/
  | sending (sync : Bool) (event : InnerEvent) (priority : Priority)
  /-- The event has been inserted, and `SendSyncEvent` waits until it is
  recycled. -/
  | waiting (event : QueuedEvent) (priority : Priority)
  /-- `SendSyncEvent` has returned `false`. -/
  | refused
  /-- `SendSyncEvent` has returned `true`. -/
  | served (event : QueuedEvent)

namespace SenderPhase

/-- `SendSyncEvent` is past its check, and the runner has not yet taken the
event. -/
def IsOwed (queue : EventQueue) : SenderPhase → Prop
  | checked _ _ | sending true _ _ => True
  | waiting event priority => event ∈ queue.events priority
  | _ => False

/-- The thread is about to insert an event that is handled no later than a point
of time. -/
def isLate (time : TimePoint) : SenderPhase → Bool
  | sending _ event priority => priority ≠ .idle && event.handleTime ≤ time
  | _ => false

end SenderPhase

/-- Where the thread of the runner is. -/
inductive LoopPhase where
  /-- Nobody has called `Run`, or the last call has returned. -/
  | idle
  /-- It has not yet prepared the queue. -/
  | started
  | looping
  /-- It is past the event loop. -/
  | left
  deriving DecidableEq

/-- A runner, its queue, and the threads that send events to it. -/
structure SyncState where
  wait : WaitState
  arrivals : Nat := 0
  log : List QueueStep := []
  clock : TimePoint
  deposit : Bool
  running : Bool := false
  loop : LoopPhase
  /-- The event in hand has been given to its handler. -/
  handed : Bool := false
  alive : HandlerId → Bool := fun _ => true
  /-- How many times the event of a number was given to its handler. -/
  dispatched : Nat → Nat := fun _ => 0
  /-- The event of a number was thrown away by a call that removes events, or by
  the loop because its handler was gone. -/
  removed : Nat → Bool := fun _ => false
  /-- The event of a number has been recycled, which notifies its waiter. -/
  recycled : Nat → Bool := fun _ => false
  threads : List SenderPhase

namespace SyncState

variable (state : SyncState)

/-- The queue with its log. -/
def run : QueueRun where
  queue := state.wait.queue
  arrivals := state.arrivals
  log := state.log

def isRunning : Bool :=
  state.deposit || state.running

/-- The runner takes the events of its queue, or is about to do so. -/
def Serves : Prop :=
  state.loop = .started ∨
    state.loop = .looping ∧ state.wait.queue.finished = false

/-- A call of `SendSyncEvent` relies on the runner. -/
def Owes : Prop :=
  ∃ phase ∈ state.threads, phase.IsOwed state.wait.queue

/-- Bring a thread into a phase. -/
def setThread (thread : Nat) (phase : SenderPhase) : SyncState :=
  { state with threads := state.threads.set thread phase }

/-- The loop of `GetEvent` from where it holds the lock. -/
def getEvent (before : WaitState) : SyncState :=
  let wait := before.getEventLocked state.clock
  { state with
    wait := wait
    log :=
      match wait.phase with
      | .returned (some event) => .returned event state.clock :: state.log
      | _ => state.log }

/-- Insert an event, which gets the next number. -/
def insert (event : QueuedEvent) (priority : Priority) : SyncState :=
  { state with
    wait := state.wait.insert (some event) priority
    arrivals := state.arrivals + 1
    log := .inserted event priority :: state.log }

/-- Whether the event of a number is in the queue and meant by a removal. -/
def isRemoved (removal : Removal) (arrival : Nat) : Bool :=
  [Priority.immediate, .high, .low, .idle].any fun priority =>
    (state.wait.queue.events priority).any fun event =>
      event.arrival = arrival && removal.isMatch event.toInnerEvent

/-- Remove events, which recycles them. -/
def remove (removal : Removal) : SyncState :=
  { state with
    wait := state.wait.remove removal
    log := .removed removal :: state.log
    removed := fun arrival =>
      state.removed arrival || state.isRemoved removal arrival
    recycled := fun arrival =>
      state.recycled arrival || state.isRemoved removal arrival }

/-- Recycle the event in hand. -/
def recycle (event : QueuedEvent) : SyncState :=
  { state with
    wait := { state.wait with phase := .outside }
    handed := false
    recycled := Function.update state.recycled event.arrival true }

/-- A new runner; a deposited one has a thread of its own. -/
def start (idleTimeStamp clock : TimePoint) (deposit : Bool)
    (threadNum : Nat) : SyncState where
  wait := .start idleTimeStamp true .none
  clock := clock
  deposit := deposit
  loop := if deposit then .started else .idle
  threads := List.replicate threadNum .outside

end SyncState

/-- The thread takes the lock of the queue, at the start of `GetEvent` or after a
wait. -/
inductive TakesLock : WaitState → WaitState → Prop where
  | call (state : WaitState) (phase : state.phase = .outside) :
      TakesLock state state
  | conditionWakes (state : WaitState) (holder : Nat) (deadline : TimePoint)
      (phase : state.phase = .waiting holder deadline)
      (kind : (state.waiters holder).kind = .none) :
      TakesLock state (state.setWaiter holder { state.waiters holder with
        waitingCount := (state.waiters holder).waitingCount - 1
        notified := false })
  | locks (state : WaitState) (failed : Bool)
      (phase : state.phase = .locking failed) :
      TakesLock state (state.afterWait failed)

/-- The thread wakes up from a wait on descriptors. -/
inductive WakesUp : WaitState → WaitState → Prop where
  | epollReturns (state : WaitState) (holder : Nat) (deadline : TimePoint)
      (awakened failed : Bool) (phase : state.phase = .waiting holder deadline)
      (kind : (state.waiters holder).kind = .epoll)
      (readable : awakened → (state.waiters holder).notified) :
      WakesUp state { state with phase := .woken holder awakened failed }
  | epollCounts (state : WaitState) (holder : Nat) (awakened failed : Bool)
      (phase : state.phase = .woken holder awakened failed) :
      WakesUp state { state.setWaiter holder { state.waiters holder with
          waitingCount := (state.waiters holder).waitingCount - 1 } with
        phase := .counted holder awakened failed }
  | epollDrains (state : WaitState) (holder : Nat) (awakened failed : Bool)
      (phase : state.phase = .counted holder awakened failed) :
      WakesUp state { state.setWaiter holder { state.waiters holder with
          notified := (state.waiters holder).notified && !awakened } with
        phase := .locking failed }

/-- A step of the thread of the runner. -/
inductive LoopStep : SyncState → SyncState → Prop where
  | prepares (state : SyncState) (loop : state.loop = .started) :
      LoopStep state { state with
        wait := { state.wait with queue := state.wait.queue.prepare }
        loop := .looping }
  | picks (state : SyncState) (before : WaitState) (loop : state.loop = .looping)
      (locks : TakesLock state.wait before) :
      LoopStep state (state.getEvent before)
  | wakes (state : SyncState) (wait : WaitState) (loop : state.loop = .looping)
      (wakes : WakesUp state.wait wait) :
      LoopStep state { state with wait := wait }
  | hands (state : SyncState) (event : QueuedEvent)
      (phase : state.wait.phase = .returned (some event))
      (unhanded : state.handed = false)
      (owner : (event.getOwner state.alive).isSome = true) :
      LoopStep state { state with
        handed := true
        dispatched := Function.update state.dispatched event.arrival
          (state.dispatched event.arrival + 1) }
  /-- The handler of the event is gone. -/
  | drops (state : SyncState) (event : QueuedEvent)
      (phase : state.wait.phase = .returned (some event))
      (unhanded : state.handed = false)
      (orphan : (event.getOwner state.alive).isSome = false) :
      LoopStep state { state.recycle event with
        removed := Function.update state.removed event.arrival true }
  /-- The handler has returned. -/
  | recycles (state : SyncState) (event : QueuedEvent)
      (phase : state.wait.phase = .returned (some event))
      (handed : state.handed = true) :
      LoopStep state (state.recycle event)
  | leaves (state : SyncState) (loop : state.loop = .looping)
      (phase : state.wait.phase = .returned none) :
      LoopStep state { state with
        wait := { state.wait with phase := .outside }
        loop := .left }

/-- What the other threads do, as far as it matters for the threads that wait. -/
inductive SyncAction where
  | run
  | stop
  | remove
  | pass
  | sendEvent (delayTime : Int64)
  | other

/-- A step of another thread. -/
inductive CallStep : SyncState → SyncAction → SyncState → Prop where
  | tick (state : SyncState) (time : TimePoint) (later : state.clock ≤ time) :
      CallStep state .other { state with clock := time }
  | run (state : SyncState) (deposit : state.deposit = false)
      (stopped : state.running = false) :
      CallStep state .run { state with running := true, loop := .started }
  | runReturns (state : SyncState) (deposit : state.deposit = false)
      (left : state.loop = .left) :
      CallStep state .other { state with running := false, loop := .idle }
  /-- The queue is finished: by a call of `Stop` that has found the runner
  running, or for a deposited one by the thread collector. -/
  | stop (state : SyncState) :
      CallStep state .stop { state with wait := state.wait.finish }
  /-- Handlers may die while a removal runs, so it is open what it finds alive. -/
  | remove (state : SyncState) (removal : Removal) :
      CallStep state .remove (state.remove removal)
  | addFileDescriptorListener (state : SyncState) (fileDescriptor : Int32)
      (hasEvents hasListener initialized added : Bool) :
      CallStep state .other { state with
        wait := state.wait.addFileDescriptorListener fileDescriptor hasEvents
          hasListener initialized added }
  | lateNotification (state : SyncState) (holder : Nat)
      (kind : (state.wait.waiters holder).kind = .epoll) :
      CallStep state .other { state with
        wait := state.wait.setWaiter holder { state.wait.waiters holder with
          notified := true } }
  /-- The last reference to a handler is dropped; the loop holds the handler of
  the event that it has handed out. -/
  | expire (state : SyncState) (handler : HandlerId)
      (free : ∀ event, state.wait.phase = .returned (some event) →
        state.handed = true → event.owner ≠ some handler) :
      CallStep state .other
        { state with alive := Function.update state.alive handler false }
  | refuse (state : SyncState) (thread : Nat) (event : Option InnerEvent)
      (priority : Priority) (outside : state.threads[thread]? = some .outside)
      (invalid : event = none ∨ priority = .idle ∨ state.isRunning = false) :
      CallStep state .other (state.setThread thread .refused)
  | pass (state : SyncState) (thread : Nat) (event : InnerEvent)
      (priority : Priority) (outside : state.threads[thread]? = some .outside)
      (valid : priority ≠ .idle) (running : state.isRunning = true) :
      CallStep state .pass (state.setThread thread (.checked event priority))
  | sendEvent (state : SyncState) (thread : Nat) (handler : EventHandler)
      (event sent : InnerEvent) (delayTime : Int64) (priority : Priority)
      (outside : state.threads[thread]? = some .outside)
      (sends : handler.sendEvent (some event) delayTime priority state.clock =
        some (.insert (some sent) priority)) :
      CallStep state (.sendEvent delayTime)
        (state.setThread thread (.sending false sent priority))
  | sendSyncEvent (state : SyncState) (thread : Nat) (handler : EventHandler)
      (event sent : InnerEvent) (priority : Priority)
      (checked : state.threads[thread]? = some (.checked event priority))
      (sends : handler.sendEvent (some event) 0 priority state.clock =
        some (.insert (some sent) priority)) :
      CallStep state .other
        (state.setThread thread (.sending true sent priority))
  | insert (state : SyncState) (thread : Nat) (sync : Bool) (event : InnerEvent)
      (priority : Priority)
      (sending : state.threads[thread]? = some (.sending sync event priority)) :
      CallStep state .other
        ((state.insert ⟨event, state.arrivals⟩ priority).setThread thread
          (if sync then .waiting ⟨event, state.arrivals⟩ priority else .outside))
  | wakeSender (state : SyncState) (thread : Nat) (event : QueuedEvent)
      (priority : Priority)
      (waiting : state.threads[thread]? = some (.waiting event priority))
      (recycled : state.recycled event.arrival = true) :
      CallStep state .other (state.setThread thread (.served event))
  | callAgain (state : SyncState) (thread : Nat)
      (returned : state.threads[thread]? = some .refused ∨
        ∃ event, state.threads[thread]? = some (.served event)) :
      CallStep state .other (state.setThread thread .outside)

/-- What is asked of the other threads: they do not finish the queue under a call
that relies on the loop, no call passes the check of a runner that does not take
the events of its queue, and no event is sent with a delay that is too long for
the clock. -/
def SyncState.Meets (state : SyncState) : SyncAction → Prop
  | .stop => state.loop = .looping → ¬state.Owes
  | .pass => state.Serves
  | .sendEvent delayTime => delayTime.toInt ≤ 0 ∨
      state.clock.toInt + delayTime.toInt * 1000000 < 2 ^ 63
  | .run | .remove | .other => True

/-- What may happen to a runner from a state on when the other threads do what is
asked of them, with the number of the steps of its own thread. -/
inductive SyncPath (asked : SyncState → SyncAction → Prop) (first : SyncState) :
    Nat → SyncState → Prop where
  | refl : SyncPath asked first 0 first
  | loop {state next : SyncState} {steps : Nat}
      (path : SyncPath asked first steps state) (step : LoopStep state next) :
      SyncPath asked first (steps + 1) next
  | call {state next : SyncState} {steps : Nat} {action : SyncAction}
      (path : SyncPath asked first steps state)
      (step : CallStep state action next) (meets : asked state action) :
      SyncPath asked first steps next

namespace SyncState

/-- Nothing has been done with the event of a number since it was inserted. -/
def IsUntouched (state : SyncState) (arrival : Nat) : Prop :=
  state.dispatched arrival = 0 ∧ state.removed arrival = false ∧
    state.recycled arrival = false

/-- The event of a number was dispatched once, or else removed. -/
def IsEnded (state : SyncState) (arrival : Nat) : Prop :=
  state.dispatched arrival = 1 ∧ state.removed arrival = false ∨
    state.dispatched arrival = 0 ∧ state.removed arrival = true

/-- The queue is used as any queue is, and the thread of the runner misses
nothing. -/
structure QueueIsSound (state : SyncState) : Prop where
  alert : state.wait.IsAlert
  faithful : state.run.IsFaithful
  counts : state.wait.queue.CountsUpTo defaultMaxHandledEventCount

/-- The thread of the runner takes events in the loop only, and ends the loop
only when the queue is finished. -/
structure LoopIsSound (state : SyncState) : Prop where
  outside : state.loop ≠ .looping → state.wait.phase = .outside
  resting : state.running = false → state.deposit = false → state.loop = .idle
  finished : state.wait.phase = .returned none →
    state.wait.queue.finished = true

/-- Every event that was inserted is in the queue or in hand, or has come to its
end. -/
structure FatesAreSound (state : SyncState) : Prop where
  inHand : ∀ event, state.wait.phase = .returned (some event) →
    ∃ now, .returned event now ∈ state.log
  handed : state.handed = true →
    ∃ event, state.wait.phase = .returned (some event)
  future : ∀ arrival, state.arrivals ≤ arrival → state.IsUntouched arrival
  pending : ∀ event priority, event ∈ state.wait.queue.events priority →
    state.IsUntouched event.arrival
  taken : ∀ event, state.wait.phase = .returned (some event) →
    state.dispatched event.arrival = (if state.handed then 1 else 0) ∧
      state.removed event.arrival = false ∧
      state.recycled event.arrival = false
  ended : ∀ arrival, state.recycled arrival = true → state.IsEnded arrival
  settled : ∀ event priority, .inserted event priority ∈ state.log →
    event ∈ state.wait.queue.events priority ∨
      state.wait.phase = .returned (some event) ∨
      state.recycled event.arrival = true

end SyncState

/-- What holds of a thread that sends events. -/
def SenderPhase.IsSound (state : SyncState) : SenderPhase → Prop
  | checked _ priority => priority ≠ .idle
  | sending sync event priority =>
      sync = true → priority ≠ .idle ∧ event.handleTime ≤ state.clock
  | waiting event priority => priority ≠ .idle ∧
      event.handleTime ≤ state.clock ∧ .inserted event priority ∈ state.log
  | served event => state.recycled event.arrival = true
  | outside | refused => True

/-- What holds of a runner and the threads that send events to it. -/
structure SyncState.IsSound (state : SyncState) : Prop where
  queue : state.QueueIsSound
  loop : state.LoopIsSound
  fates : state.FatesAreSound
  threads : ∀ phase ∈ state.threads, phase.IsSound state
  serves : state.Owes → state.Serves

section Locks

variable {state next : WaitState}

theorem TakesLock.threadStep (locks : TakesLock state next) (now : TimePoint) :
    ThreadStep state (next.getEventLocked now) := by
  cases locks with
  | call phase => exact .call _ now phase
  | conditionWakes holder deadline phase kind =>
      exact .conditionWakes _ holder deadline now phase kind
  | locks failed phase => exact .locks _ failed now phase

theorem TakesLock.queue_eq (locks : TakesLock state next) :
    next.queue = state.queue := by
  cases locks with
  | call phase => rfl
  | conditionWakes holder deadline phase kind => rfl
  | locks failed phase => simp

theorem WakesUp.threadStep (wakes : WakesUp state next) :
    ThreadStep state next := by
  cases wakes with
  | epollReturns holder deadline awakened failed phase kind readable =>
      exact .epollReturns _ holder deadline awakened failed phase kind readable
  | epollCounts holder awakened failed phase =>
      exact .epollCounts _ holder awakened failed phase
  | epollDrains holder awakened failed phase =>
      exact .epollDrains _ holder awakened failed phase

theorem WakesUp.queue_eq (wakes : WakesUp state next) :
    next.queue = state.queue := by
  cases wakes <;> rfl

theorem WakesUp.not_returned (wakes : WakesUp state next)
    (event : Option QueuedEvent) :
    state.phase ≠ .returned event ∧ next.phase ≠ .returned event := by
  cases wakes <;> simp_all

theorem TakesLock.not_returned (locks : TakesLock state next)
    (event : Option QueuedEvent) : state.phase ≠ .returned event := by
  cases locks <;> simp_all

end Locks

namespace SyncState

variable {state next : SyncState}

/-- The loop of `GetEvent` ends without an event if the queue is finished, and
else with what the queue gives. -/
theorem getEvent_cases {before : WaitState}
    (same : before.queue = state.wait.queue) :
    state.wait.queue.finished = true ∧
        (state.getEvent before).wait.phase = .returned none ∧
        (state.getEvent before).run = state.run ∨
      state.wait.queue.finished = false ∧
        (state.getEvent before).run =
          state.run.call (.getExpiredEvent state.clock TimePoint.max) ∧
        ((∃ event,
            (state.getEvent before).wait.phase = .returned (some event) ∧
            (state.getEvent before).log =
              .returned event state.clock :: state.log ∧
            ∃ priority, event ∈ state.wait.queue.events priority) ∨
          ∃ holder deadline,
            (state.getEvent before).wait.phase = .waiting holder deadline ∧
            (state.getEvent before).log = state.log) := by
  unfold SyncState.getEvent SyncState.run WaitState.getEventLocked
  rw [same]
  by_cases finished : state.wait.queue.finished = true
  · rw [if_pos finished]
    exact .inl ⟨finished, rfl, by rw [← same]⟩
  · refine .inr ⟨by simpa using finished, ?_⟩
    rw [if_neg finished]
    rcases taken :
      state.wait.queue.getExpiredEventLocked state.clock TimePoint.max with
      ⟨event, time, queue⟩
    cases event with
    | some event =>
        refine ⟨by simp [QueueRun.call, taken], .inl ⟨event, rfl, rfl, ?_⟩⟩
        rcases EventQueue.getExpiredEventLocked_spec taken with
          ⟨impossible, -⟩ | ⟨first, priority, same, front, -⟩
        · cases impossible
        · cases same
          exact ⟨priority, front ▸ List.mem_cons_self⟩
    | none =>
        refine ⟨?_, .inr ⟨before.ioWaiter, time, rfl, rfl⟩⟩
        simp [QueueRun.call, taken]

theorem insert_queue (wait : WaitState) (event : QueuedEvent)
    (priority : Priority) :
    (wait.insert (some event) priority).queue =
      (wait.queue.insert (some event) priority).2 := by
  unfold WaitState.insert
  split
  split <;> simp_all [WaitState.notify_queue]

theorem addFileDescriptorListener_queue (wait : WaitState)
    (fileDescriptor : Int32) (hasEvents hasListener initialized added : Bool) :
    (wait.addFileDescriptorListener fileDescriptor hasEvents hasListener
      initialized added).queue = wait.queue := by
  unfold WaitState.addFileDescriptorListener
    WaitState.ensureIoWaiterSupportListerningFileDescriptorLocked
  grind [WaitState.replaceWaiter, WaitState.notify, WaitState.setWaiter]

/-- Whether a queue is finished does not matter for what is in it. -/
theorem isFaithful_finished {run : QueueRun} (faithful : run.IsFaithful)
    (finished : Bool) :
    { run with queue := { run.queue with finished := finished } }.IsFaithful :=
  { faithful with
    pending := faithful.pending
    ordered := faithful.ordered }

theorem QueueIsSound.of_run {run : QueueRun} (alert : state.wait.IsAlert)
    (same : state.run = run) (faithful : run.IsFaithful)
    (counts : run.queue.CountsUpTo defaultMaxHandledEventCount) :
    state.QueueIsSound := by
  subst same
  exact ⟨alert, faithful, counts⟩

theorem QueueIsSound.loopStep (sound : state.QueueIsSound)
    (inLoop : state.LoopIsSound) (step : LoopStep state next) :
    next.QueueIsSound := by
  obtain ⟨alert, faithful, counts⟩ := sound
  cases step with
  | prepares loop =>
      refine ⟨⟨alert.sorted, alert.made, ?_⟩, isFaithful_finished faithful false,
        counts.congr fun _ => ⟨rfl, rfl⟩⟩
      intro holder deadline asleep
      have outside := inLoop.outside (by simp [loop])
      exact absurd (outside.symm.trans asleep) nofun
  | picks before loop locks =>
      have alert : (state.getEvent before).wait.IsAlert :=
        alert.threadStep (locks.threadStep state.clock)
      rcases getEvent_cases locks.queue_eq with
        ⟨-, -, same⟩ | ⟨-, same, -⟩
      · exact .of_run alert same faithful counts
      · exact .of_run alert same (faithful.call _) (QueueRun.counts_call counts _)
  | wakes wait loop wakes =>
      refine ⟨alert.threadStep wakes.threadStep, ?_, wakes.queue_eq ▸ counts⟩
      unfold SyncState.run
      exact wakes.queue_eq ▸ faithful
  | hands event phase unhanded owner => exact ⟨alert, faithful, counts⟩
  | drops event phase unhanded orphan =>
      exact ⟨alert.threadStep (.dispatched _ event phase), faithful, counts⟩
  | recycles event phase handed =>
      exact ⟨alert.threadStep (.dispatched _ event phase), faithful, counts⟩
  | leaves loop phase =>
      exact ⟨⟨alert.sorted, alert.made, nofun⟩, faithful, counts⟩

theorem insert_run (event : InnerEvent) (priority : Priority) :
    (state.insert ⟨event, state.arrivals⟩ priority).run =
      state.run.call (.insert (some event) priority) := by
  unfold SyncState.run SyncState.insert
  rw [insert_queue]
  rfl

theorem QueueIsSound.callStep {action : SyncAction} (sound : state.QueueIsSound)
    (step : CallStep state action next) : next.QueueIsSound := by
  obtain ⟨alert, faithful, counts⟩ := sound
  cases step with
  | stop =>
      exact ⟨alert.finish, isFaithful_finished faithful true,
        counts.congr fun _ => ⟨rfl, rfl⟩⟩
  | remove removal =>
      have same : (state.remove removal).run = state.run.call (.remove removal) :=
        rfl
      exact .of_run (alert.remove removal) same (faithful.remove removal)
        (QueueRun.counts_call counts _)
  | addFileDescriptorListener fileDescriptor hasEvents hasListener initialized
      added =>
      have same := addFileDescriptorListener_queue state.wait fileDescriptor
        hasEvents hasListener initialized added
      refine ⟨alert.addFileDescriptorListener _ _ _ _ _, ?_, same ▸ counts⟩
      unfold SyncState.run
      exact same ▸ faithful
  | lateNotification holder kind =>
      exact ⟨alert.clientStep (.lateNotification _ holder kind), faithful, counts⟩
  | insert thread sync event priority sending =>
      exact .of_run (alert.insert (some ⟨event, state.arrivals⟩) priority)
        (insert_run event priority) (faithful.insert event priority)
        (QueueRun.counts_call counts _)
  | tick | run | runReturns | expire | refuse | pass | sendEvent
  | sendSyncEvent | wakeSender | callAgain => exact ⟨alert, faithful, counts⟩

theorem LoopIsSound.loopStep (sound : state.LoopIsSound)
    (step : LoopStep state next) : next.LoopIsSound := by
  obtain ⟨outside, resting, finished⟩ := sound
  cases step with
  | prepares loop =>
      have before := outside (by simp [loop])
      exact ⟨nofun, by simp_all, by simp_all⟩
  | picks before loop locks =>
      refine ⟨fun left => absurd loop left, resting, ?_⟩
      rcases getEvent_cases locks.queue_eq with
        ⟨done, -, same⟩ | ⟨-, -, ⟨event, phase, -, -⟩ | ⟨holder, deadline, phase, -⟩⟩
      · intro _
        have sameQueue : (state.getEvent before).wait.queue = state.wait.queue :=
          congrArg QueueRun.queue same
        rw [sameQueue]
        exact done
      · simp [phase]
      · simp [phase]
  | wakes wait loop wakes =>
      exact ⟨fun left => absurd loop left, resting,
        fun phase => absurd phase (wakes.not_returned none).2⟩
  | hands event phase unhanded owner => exact ⟨outside, resting, finished⟩
  | drops event phase unhanded orphan => exact ⟨fun _ => rfl, resting, nofun⟩
  | recycles event phase handed => exact ⟨fun _ => rfl, resting, nofun⟩
  | leaves loop phase =>
      refine ⟨fun _ => rfl, fun stopped deposit => ?_, nofun⟩
      have idle := resting stopped deposit
      simp [loop] at idle

/-- The other threads leave the thread of the runner where it is. -/
theorem LoopIsSound.clientStep {wait : WaitState} (sound : state.LoopIsSound)
    (step : ClientStep state.wait wait) :
    { state with wait := wait }.LoopIsSound := by
  obtain ⟨sameFinished, samePhase⟩ := step.frame
  refine ⟨?_, sound.resting, ?_⟩
  · rw [samePhase]
    exact sound.outside
  · rw [samePhase, sameFinished]
    exact sound.finished

theorem LoopIsSound.callStep {action : SyncAction} (sound : state.LoopIsSound)
    (step : CallStep state action next) : next.LoopIsSound := by
  cases step with
  | run deposit stopped =>
      have idle := sound.resting stopped deposit
      exact ⟨fun _ => sound.outside (by simp [idle]), nofun, sound.finished⟩
  | runReturns deposit left =>
      exact ⟨fun _ => sound.outside (by simp [left]), fun _ _ => rfl,
        sound.finished⟩
  | stop => exact ⟨sound.outside, sound.resting, fun _ => rfl⟩
  | remove removal => exact { sound.clientStep (.remove _ removal) with }
  | addFileDescriptorListener fileDescriptor hasEvents hasListener initialized
      added =>
      exact sound.clientStep (.addFileDescriptorListener _ fileDescriptor
        hasEvents hasListener initialized added)
  | lateNotification holder kind =>
      exact sound.clientStep (.lateNotification _ holder kind)
  | insert thread sync event priority sending =>
      exact { sound.clientStep
        (.insert _ (some ⟨event, state.arrivals⟩) priority) with }
  | tick | expire | refuse | pass | sendEvent | sendSyncEvent | wakeSender
  | callAgain => exact { sound with }

/-- Time goes on, and what has happened stays so. -/
structure Grows (state next : SyncState) : Prop where
  clock : state.clock ≤ next.clock
  log : state.log ⊆ next.log
  recycled : ∀ arrival,
    state.recycled arrival = true → next.recycled arrival = true

theorem recycled_recycle (event : QueuedEvent) (arrival : Nat)
    (recycled : state.recycled arrival = true) :
    (state.recycle event).recycled arrival = true := by
  simp only [recycle, Function.update_apply]
  split
  · rfl
  · exact recycled

end SyncState

section Steps

variable {state next : SyncState}

theorem LoopStep.grows (step : LoopStep state next) :
    state.Grows next := by
  cases step with
  | prepares | wakes | hands | leaves =>
      exact ⟨Int64.le_refl _, List.Subset.refl _, fun _ => id⟩
  | picks before loop locks =>
      refine ⟨Int64.le_refl _, ?_, fun _ => id⟩
      simp only [SyncState.getEvent]
      split
      · exact List.subset_cons_self _ _
      · exact List.Subset.refl _
  | drops event phase unhanded orphan =>
      exact ⟨Int64.le_refl _, List.Subset.refl _, SyncState.recycled_recycle event⟩
  | recycles event phase handed =>
      exact ⟨Int64.le_refl _, List.Subset.refl _, SyncState.recycled_recycle event⟩

theorem CallStep.grows {action : SyncAction}
    (step : CallStep state action next) : state.Grows next := by
  cases step with
  | tick time later => exact ⟨later, List.Subset.refl _, fun _ => id⟩
  | remove removal =>
      refine ⟨Int64.le_refl _, List.subset_cons_self _ _, ?_⟩
      intro arrival recycled
      simp [SyncState.remove, recycled]
  | insert => exact ⟨Int64.le_refl _, List.subset_cons_self _ _, fun _ => id⟩
  | run | runReturns | stop | addFileDescriptorListener | lateNotification
  | expire | refuse | pass | sendEvent | sendSyncEvent | wakeSender
  | callAgain => exact ⟨Int64.le_refl _, List.Subset.refl _, fun _ => id⟩

theorem SenderPhase.IsSound.grow {phase : SenderPhase} (sound : phase.IsSound state)
    (grows : state.Grows next) : phase.IsSound next := by
  cases phase with
  | outside | refused => trivial
  | checked event priority => exact sound
  | sending sync event priority =>
      intro waits
      obtain ⟨waking, past⟩ := sound waits
      exact ⟨waking, Int64.le_trans past grows.clock⟩
  | waiting event priority =>
      obtain ⟨waking, past, inserted⟩ := sound
      exact ⟨waking, Int64.le_trans past grows.clock, grows.log inserted⟩
  | served event => exact grows.recycled _ sound

end Steps

namespace SyncState

variable {state next : SyncState}

theorem threads_loopStep (step : LoopStep state next) :
    next.threads = state.threads := by
  cases step <;> rfl

theorem IsSound.threads_callStep {action : SyncAction} (sound : state.IsSound)
    (step : CallStep state action next) :
    ∀ phase ∈ next.threads, phase.IsSound next := by
  have kept : ∀ phase ∈ state.threads, phase.IsSound next := by
    intro phase member
    exact (sound.threads phase member).grow step.grows
  have changed (thread : Nat) (changed : SenderPhase)
      (same : next.threads = state.threads.set thread changed)
      (holds : changed.IsSound next) :
      ∀ phase ∈ next.threads, phase.IsSound next := by
    intro phase member
    rw [same] at member
    rcases List.mem_or_eq_of_mem_set member with before | rfl
    · exact kept phase before
    · exact holds
  cases step with
  | tick | run | runReturns | stop | remove | addFileDescriptorListener
  | lateNotification | expire => exact kept
  | refuse thread event priority outside invalid => exact changed _ _ rfl trivial
  | pass thread event priority outside valid running =>
      exact changed _ _ rfl valid
  | sendEvent thread handler event sent delayTime priority outside sends =>
      exact changed _ _ rfl nofun
  | sendSyncEvent thread handler event sent priority checked sends =>
      refine changed _ _ rfl fun _ => ⟨?_, ?_⟩
      · exact sound.threads _ (List.mem_of_getElem? checked)
      · simp only [EventHandler.sendEvent] at sends
        split at sends
        · cases sends
        · cases sends
          exact Int64.le_refl _
  | insert thread sync event priority sending =>
      refine changed _ _ rfl ?_
      have before := sound.threads _ (List.mem_of_getElem? sending)
      cases sync with
      | false => trivial
      | true =>
          obtain ⟨waking, past⟩ := before rfl
          exact ⟨waking, past, List.mem_cons_self⟩
  | wakeSender thread event priority waiting recycled =>
      exact changed _ _ rfl recycled
  | callAgain thread returned => exact changed _ _ rfl trivial

theorem isRemoved_iff {removal : Removal} {arrival : Nat} :
    state.isRemoved removal arrival = true ↔
      ∃ priority, ∃ event ∈ state.wait.queue.events priority,
        event.arrival = arrival ∧
          removal.isMatch event.toInnerEvent = true := by
  constructor
  · intro matched
    obtain ⟨priority, -, matched⟩ := List.any_eq_true.mp matched
    obtain ⟨event, member, matched⟩ := List.any_eq_true.mp matched
    exact ⟨priority, event, member, by simpa using matched⟩
  · rintro ⟨priority, event, member, matched⟩
    have listed : priority ∈ [Priority.immediate, .high, .low, .idle] := by
      cases priority <;> decide
    refine List.any_eq_true.mpr ⟨priority, listed, ?_⟩
    exact List.any_eq_true.mpr ⟨event, member, by simpa using matched⟩

/-- No event in the queue has the number of another one that has arrived. -/
theorem QueueIsSound.eq_of_arrival (sound : state.QueueIsSound)
    {event other : QueuedEvent} {priority place : Priority}
    (pending : event ∈ state.wait.queue.events priority)
    (inserted : .inserted other place ∈ state.log)
    (same : event.arrival = other.arrival) : event = other := by
  have arrived := ((sound.faithful.pending event priority).mp pending).inserted
  exact (sound.faithful.inOrder.arrival_unique arrived inserted same).1

/-- The event in hand has left the queue. -/
theorem FatesAreSound.apart (fates : state.FatesAreSound)
    (sound : state.QueueIsSound) {taken event : QueuedEvent}
    {priority : Priority} (phase : state.wait.phase = .returned (some taken))
    (pending : event ∈ state.wait.queue.events priority) :
    event.arrival ≠ taken.arrival := by
  intro same
  obtain ⟨now, returned⟩ := fates.inHand taken phase
  obtain ⟨place, known⟩ := sound.faithful.inOrder.known taken now returned
  obtain rfl := sound.eq_of_arrival pending (known.mem List.mem_cons_self) same
  have stays := (sound.faithful.pending event priority).mp pending
  exact stays.notReturned now returned

/-- The number of the event in hand was given. -/
theorem FatesAreSound.taken_lt (fates : state.FatesAreSound)
    (sound : state.QueueIsSound) {taken : QueuedEvent}
    (phase : state.wait.phase = .returned (some taken)) :
    taken.arrival < state.arrivals := by
  obtain ⟨now, returned⟩ := fates.inHand taken phase
  obtain ⟨place, known⟩ := sound.faithful.inOrder.known taken now returned
  exact sound.faithful.arrived taken place (known.mem List.mem_cons_self)

/-- Nothing is in hand unless the phase tells so. -/
theorem FatesAreSound.unhanded (fates : state.FatesAreSound)
    (empty : ∀ event, state.wait.phase ≠ .returned (some event)) :
    state.handed = false := by
  cases handed : state.handed with
  | false => rfl
  | true =>
      obtain ⟨event, phase⟩ := fates.handed handed
      exact absurd phase (empty event)

/-- What the waiters do changes no fate. -/
theorem FatesAreSound.withWait {wait : WaitState} {loop : LoopPhase}
    (fates : state.FatesAreSound)
    (events : ∀ event priority, event ∈ wait.queue.events priority ↔
      event ∈ state.wait.queue.events priority)
    (phase : ∀ event, wait.phase = .returned (some event) ↔
      state.wait.phase = .returned (some event)) :
    { state with wait := wait, loop := loop }.FatesAreSound := by
  obtain ⟨inHand, handed, future, pending, taken, ended, settled⟩ := fates
  constructor
  case inHand => exact fun event here => inHand event ((phase event).mp here)
  case handed =>
    intro given
    obtain ⟨event, here⟩ := handed given
    exact ⟨event, (phase event).mpr here⟩
  case future => exact future
  case pending =>
    intro event priority member
    exact pending event priority ((events event priority).mp member)
  case taken => exact fun event here => taken event ((phase event).mp here)
  case ended => exact ended
  case settled =>
    intro event priority inserted
    rw [events, phase]
    exact settled event priority inserted

/-- A search that takes no event changes no fate. -/
theorem FatesAreSound.picksNothing {before : WaitState}
    (fates : state.FatesAreSound) (sound : state.QueueIsSound)
    (after : (state.getEvent before).QueueIsSound)
    (empty : ∀ event, state.wait.phase ≠ .returned (some event))
    (nothing : ∀ event,
      (state.getEvent before).wait.phase ≠ .returned (some event))
    (log : (state.getEvent before).log = state.log) :
    (state.getEvent before).FatesAreSound := by
  have same : state.getEvent before =
      { state with wait := (state.getEvent before).wait } := by
    simp only [getEvent] at log ⊢
    rw [log]
  have events : ∀ event priority,
      event ∈ (state.getEvent before).wait.queue.events priority ↔
        event ∈ state.wait.queue.events priority := by
    intro event priority
    have pending := after.faithful.pending event priority
    simp only [SyncState.run, log] at pending
    exact pending.trans (sound.faithful.pending event priority).symm
  rw [same]
  exact fates.withWait events fun event =>
    ⟨fun here => absurd here (nothing event),
      fun here => absurd here (empty event)⟩

/-- An event that is taken goes from the queue into the hand. -/
theorem FatesAreSound.picksEvent {before : WaitState} {event : QueuedEvent}
    {place : Priority} (fates : state.FatesAreSound)
    (sound : state.QueueIsSound)
    (after : (state.getEvent before).QueueIsSound)
    (empty : ∀ event, state.wait.phase ≠ .returned (some event))
    (phase : (state.getEvent before).wait.phase = .returned (some event))
    (log : (state.getEvent before).log =
      .returned event state.clock :: state.log)
    (member : event ∈ state.wait.queue.events place) :
    (state.getEvent before).FatesAreSound := by
  have unhanded := fates.unhanded empty
  have stays : ∀ other priority,
      other ∈ (state.getEvent before).wait.queue.events priority ↔
        other ∈ state.wait.queue.events priority ∧ other ≠ event := by
    intro other priority
    have pending := after.faithful.pending other priority
    simp only [SyncState.run, log, isPending_returned] at pending
    exact pending.trans (and_congr_left' (sound.faithful.pending _ _).symm)
  constructor
  case inHand =>
    intro taken here
    rw [phase] at here
    cases here
    exact ⟨state.clock, log ▸ List.mem_cons_self⟩
  case handed => exact fun given => absurd (unhanded.symm.trans given) nofun
  case future => exact fates.future
  case pending =>
    intro other priority member
    exact fates.pending other priority ((stays other priority).mp member).1
  case taken =>
    intro taken here
    rw [phase] at here
    cases here
    obtain ⟨dispatched, removed, recycled⟩ := fates.pending event place member
    have handed : (state.getEvent before).handed = false := unhanded
    rw [handed]
    exact ⟨dispatched, removed, recycled⟩
  case ended => exact fates.ended
  case settled =>
    intro other priority inserted
    have inserted : .inserted other priority ∈ state.log := by
      simpa [log] using inserted
    by_cases same : other = event
    · subst same
      exact .inr (.inl phase)
    · rcases fates.settled other priority inserted with here | taken | ended
      · exact .inl ((stays other priority).mpr ⟨here, same⟩)
      · exact absurd taken (empty other)
      · exact .inr (.inr ended)

/-- The handler is given the event in hand. -/
theorem FatesAreSound.hands {event : QueuedEvent} (fates : state.FatesAreSound)
    (sound : state.QueueIsSound)
    (phase : state.wait.phase = .returned (some event))
    (unhanded : state.handed = false) :
    { state with
      handed := true
      dispatched := Function.update state.dispatched event.arrival
        (state.dispatched event.arrival + 1) }.FatesAreSound := by
  obtain ⟨dispatched, removed, recycled⟩ := fates.taken event phase
  have given := fates.taken_lt sound phase
  have other {arrival : Nat} (apart : arrival ≠ event.arrival) :
      Function.update state.dispatched event.arrival
        (state.dispatched event.arrival + 1) arrival =
          state.dispatched arrival :=
    Function.update_of_ne apart _ _
  constructor
  case inHand => exact fates.inHand
  case handed => exact fun _ => ⟨event, phase⟩
  case future =>
    intro arrival later
    have apart : arrival ≠ event.arrival := (Nat.lt_of_lt_of_le given later).ne'
    obtain ⟨before, rest⟩ := fates.future arrival later
    exact ⟨(other apart).trans before, rest⟩
  case pending =>
    intro first priority member
    have apart := fates.apart sound phase member
    obtain ⟨before, rest⟩ := fates.pending first priority member
    exact ⟨(other apart).trans before, rest⟩
  case taken =>
    intro taken here
    obtain rfl : event = taken := by simpa [phase] using here
    refine ⟨?_, removed, recycled⟩
    simp [dispatched, unhanded]
  case ended =>
    intro arrival ended
    have apart : arrival ≠ event.arrival := by
      rintro rfl
      exact absurd (recycled.symm.trans ended) nofun
    rcases fates.ended arrival ended with ⟨once, before⟩ | ⟨never, before⟩
    · exact .inl ⟨(other apart).trans once, before⟩
    · exact .inr ⟨(other apart).trans never, before⟩
  case settled => exact fates.settled

/-- The event in hand comes to its end. -/
theorem FatesAreSound.ends {event : QueuedEvent} {removed : Nat → Bool}
    (fates : state.FatesAreSound) (sound : state.QueueIsSound)
    (phase : state.wait.phase = .returned (some event))
    (others : ∀ arrival, arrival ≠ event.arrival →
      removed arrival = state.removed arrival)
    (ended : { state with removed := removed }.IsEnded event.arrival) :
    { state.recycle event with removed := removed }.FatesAreSound := by
  have given := fates.taken_lt sound phase
  have recycled {arrival : Nat} (apart : arrival ≠ event.arrival) :
      (state.recycle event).recycled arrival = state.recycled arrival :=
    Function.update_of_ne apart _ _
  constructor
  case inHand => nofun
  case handed => nofun
  case future =>
    intro arrival later
    have apart : arrival ≠ event.arrival := (Nat.lt_of_lt_of_le given later).ne'
    obtain ⟨dispatched, before, unended⟩ := fates.future arrival later
    exact ⟨dispatched, (others _ apart).trans before,
      (recycled apart).trans unended⟩
  case pending =>
    intro first priority member
    have apart := fates.apart sound phase member
    obtain ⟨dispatched, before, unended⟩ := fates.pending first priority member
    exact ⟨dispatched, (others _ apart).trans before,
      (recycled apart).trans unended⟩
  case taken => nofun
  case ended =>
    intro arrival here
    by_cases same : arrival = event.arrival
    · subst same
      exact ended
    · rcases fates.ended arrival ((recycled same).symm.trans here) with
        ⟨once, before⟩ | ⟨never, before⟩
      · exact .inl ⟨once, (others arrival same).trans before⟩
      · exact .inr ⟨never, (others arrival same).trans before⟩
  case settled =>
    intro first priority inserted
    rcases fates.settled first priority inserted with here | taken | ended
    · exact .inl here
    · obtain rfl : event = first := by simpa [phase] using taken
      exact .inr (.inr (Function.update_self _ _ _))
    · exact .inr (.inr (recycled_recycle event _ ended))

theorem IsSound.fates_loopStep (sound : state.IsSound)
    (step : LoopStep state next) : next.FatesAreSound := by
  obtain ⟨queue, loop, fates, -, -⟩ := sound
  have after := queue.loopStep loop step
  cases step with
  | prepares loop => exact fates.withWait (fun _ _ => .rfl) fun _ => .rfl
  | picks before loop locks =>
      have empty event := locks.not_returned (some event)
      rcases getEvent_cases locks.queue_eq with
        ⟨-, phase, same⟩ | ⟨-, -, ⟨event, phase, log, place, member⟩ |
          ⟨holder, deadline, phase, log⟩⟩
      · exact fates.picksNothing queue after empty (by simp [phase])
          (congrArg QueueRun.log same)
      · exact fates.picksEvent queue after empty phase log member
      · exact fates.picksNothing queue after empty (by simp [phase]) log
  | wakes wait loop wakes =>
      refine fates.withWait (fun _ _ => by rw [wakes.queue_eq]) fun event => ?_
      obtain ⟨before, after⟩ := wakes.not_returned (some event)
      exact ⟨fun here => absurd here after, fun here => absurd here before⟩
  | hands event phase unhanded owner => exact fates.hands queue phase unhanded
  | drops event phase unhanded orphan =>
      obtain ⟨dispatched, -, -⟩ := fates.taken event phase
      rw [if_neg (by simp [unhanded])] at dispatched
      refine fates.ends queue phase
        (fun arrival apart => Function.update_of_ne apart _ _) ?_
      exact .inr ⟨dispatched, Function.update_self _ _ _⟩
  | recycles event phase handed =>
      obtain ⟨dispatched, removed, -⟩ := fates.taken event phase
      rw [if_pos handed] at dispatched
      exact fates.ends queue phase (fun _ _ => rfl) (.inl ⟨dispatched, removed⟩)
  | leaves loop phase =>
      refine fates.withWait (fun _ _ => .rfl) fun event => ?_
      simp [phase]

theorem mem_insert_events {event other : QueuedEvent}
    {priority place : Priority} :
    other ∈ (state.insert event priority).wait.queue.events place ↔
      other = event ∧ place = priority ∨
        other ∈ state.wait.queue.events place := by
  simp only [SyncState.insert, insert_queue, insert_events]
  by_cases same : place = priority
  · subst same
    rw [if_pos rfl, insertEventsLocked, StableList.mem_insert]
    simp
  · simp [same]

theorem phase_insert (event : QueuedEvent) (priority : Priority) :
    (state.insert event priority).wait.phase = state.wait.phase :=
  (ClientStep.insert state.wait (some event) priority).frame.2

/-- A new event has a number of its own. -/
theorem FatesAreSound.insert (fates : state.FatesAreSound)
    {event : QueuedEvent} (new : event.arrival = state.arrivals)
    (priority : Priority) : (state.insert event priority).FatesAreSound := by
  have untouched := fates.future event.arrival (by rw [new])
  constructor
  case inHand =>
    intro taken here
    rw [phase_insert] at here
    obtain ⟨now, returned⟩ := fates.inHand taken here
    exact ⟨now, List.mem_cons_of_mem _ returned⟩
  case handed =>
    rw [phase_insert]
    exact fates.handed
  case future =>
    intro arrival later
    exact fates.future arrival (Nat.le_of_succ_le later)
  case pending =>
    intro other place member
    rcases mem_insert_events.mp member with ⟨rfl, -⟩ | before
    · exact untouched
    · exact fates.pending other place before
  case taken =>
    rw [phase_insert]
    exact fates.taken
  case ended => exact fates.ended
  case settled =>
    intro other place inserted
    rw [mem_insert_events, phase_insert]
    rcases List.mem_cons.mp inserted with same | before
    · cases same
      exact .inl (.inl ⟨rfl, rfl⟩)
    · exact (fates.settled other place before).imp_left .inr

theorem mem_remove_events {removal : Removal} {event : QueuedEvent}
    {priority : Priority} :
    event ∈ (state.remove removal).wait.queue.events priority ↔
      event ∈ state.wait.queue.events priority ∧
        removal.isMatch event.toInnerEvent = false := by
  simp [SyncState.remove, WaitState.remove, removal.apply_eq_remove,
    remove_events]

/-- An event that has arrived and is not in the queue is not removed. -/
theorem QueueIsSound.isRemoved_eq_false (sound : state.QueueIsSound)
    {event : QueuedEvent} {place : Priority} {removal : Removal}
    (inserted : .inserted event place ∈ state.log)
    (absent : ∀ priority, event ∈ state.wait.queue.events priority →
      removal.isMatch event.toInnerEvent = false) :
    state.isRemoved removal event.arrival = false := by
  rw [Bool.eq_false_iff, ne_eq, isRemoved_iff]
  rintro ⟨priority, other, pending, same, matched⟩
  obtain rfl := sound.eq_of_arrival pending inserted same
  rw [absent priority pending] at matched
  cases matched

/-- The removed events are recycled, and all others stay as they are. -/
theorem FatesAreSound.remove (fates : state.FatesAreSound)
    (sound : state.QueueIsSound) (removal : Removal) :
    (state.remove removal).FatesAreSound := by
  have kept {arrival : Nat}
      (unmatched : state.isRemoved removal arrival = false) :
      (state.remove removal).removed arrival = state.removed arrival ∧
        (state.remove removal).recycled arrival = state.recycled arrival := by
    simp [SyncState.remove, unmatched]
  have untouched {arrival : Nat} (before : state.IsUntouched arrival)
      (unmatched : state.isRemoved removal arrival = false) :
      (state.remove removal).IsUntouched arrival := by
    obtain ⟨removed, recycled⟩ := kept unmatched
    exact ⟨before.1, removed.trans before.2.1, recycled.trans before.2.2⟩
  constructor
  case inHand =>
    intro event phase
    obtain ⟨now, returned⟩ := fates.inHand event phase
    exact ⟨now, List.mem_cons_of_mem _ returned⟩
  case handed => exact fates.handed
  case future =>
    intro arrival later
    refine untouched (fates.future arrival later) ?_
    rw [Bool.eq_false_iff, ne_eq, isRemoved_iff]
    rintro ⟨priority, event, pending, rfl, -⟩
    have inserted :=
      ((sound.faithful.pending event priority).mp pending).inserted
    exact absurd (sound.faithful.arrived event priority inserted)
      (Nat.not_lt.mpr later)
  case pending =>
    intro event priority member
    obtain ⟨before, unmatched⟩ := mem_remove_events.mp member
    have inserted :=
      ((sound.faithful.pending event priority).mp before).inserted
    exact untouched (fates.pending event priority before)
      (sound.isRemoved_eq_false inserted fun _ _ => unmatched)
  case taken =>
    intro event phase
    obtain ⟨dispatched, before⟩ := fates.taken event phase
    obtain ⟨now, returned⟩ := fates.inHand event phase
    obtain ⟨place, known⟩ := sound.faithful.inOrder.known event now returned
    obtain ⟨removed, recycled⟩ := kept
      (sound.isRemoved_eq_false (known.mem List.mem_cons_self)
        fun priority pending => absurd rfl (fates.apart sound phase pending))
    exact ⟨dispatched, removed.trans before.1, recycled.trans before.2⟩
  case ended =>
    intro arrival recycled
    cases matched : state.isRemoved removal arrival with
    | false =>
        obtain ⟨same, sameRecycled⟩ := kept matched
        rcases fates.ended arrival (sameRecycled.symm.trans recycled) with
          ⟨once, removed⟩ | ⟨never, removed⟩
        · exact .inl ⟨once, same.trans removed⟩
        · exact .inr ⟨never, same.trans removed⟩
    | true =>
        obtain ⟨priority, event, pending, rfl, -⟩ := isRemoved_iff.mp matched
        obtain ⟨never, -, -⟩ := fates.pending event priority pending
        exact .inr ⟨never, by simp [SyncState.remove, matched]⟩
  case settled =>
    intro event priority inserted
    have inserted : .inserted event priority ∈ state.log := by
      simpa [SyncState.remove] using inserted
    rcases fates.settled event priority inserted with here | taken | ended
    · cases matched : removal.isMatch event.toInnerEvent with
      | false => exact .inl (mem_remove_events.mpr ⟨here, matched⟩)
      | true =>
          have removed : state.isRemoved removal event.arrival = true :=
            isRemoved_iff.mpr ⟨priority, event, here, rfl, matched⟩
          exact .inr (.inr (by simp [SyncState.remove, removed]))
    · exact .inr (.inl taken)
    · exact .inr (.inr (by simp [SyncState.remove, ended]))

theorem IsSound.fates_callStep {action : SyncAction} (sound : state.IsSound)
    (step : CallStep state action next) : next.FatesAreSound := by
  obtain ⟨queue, -, fates, -, -⟩ := sound
  cases step with
  | stop =>
      exact fates.withWait (fun _ _ => .rfl) fun _ => .rfl
  | remove removal => exact fates.remove queue removal
  | addFileDescriptorListener fileDescriptor hasEvents hasListener initialized
      added =>
      have step := ClientStep.addFileDescriptorListener state.wait
        fileDescriptor hasEvents hasListener initialized added
      refine fates.withWait (fun _ _ => ?_) fun _ => ?_
      · rw [addFileDescriptorListener_queue]
      · rw [step.frame.2]
  | lateNotification holder kind =>
      exact fates.withWait (fun _ _ => .rfl) fun _ => .rfl
  | insert thread sync event priority sending =>
      have inserted :
          (state.insert ⟨event, state.arrivals⟩ priority).FatesAreSound :=
        fates.insert rfl priority
      exact { inserted with }
  | tick | run | runReturns | expire | refuse | pass | sendEvent
  | sendSyncEvent | wakeSender | callAgain => exact { fates with }

theorem owes_setThread {thread : Nat} {phase : SenderPhase}
    (owes : (state.setThread thread phase).Owes) :
    state.Owes ∨ phase.IsOwed state.wait.queue := by
  obtain ⟨other, member, owed⟩ := owes
  rcases List.mem_or_eq_of_mem_set member with before | rfl
  · exact .inl ⟨other, before, owed⟩
  · exact .inr owed

theorem owes_of_getElem? {thread : Nat} {phase : SenderPhase}
    (here : state.threads[thread]? = some phase)
    (owed : phase.IsOwed state.wait.queue) : state.Owes :=
  ⟨phase, List.mem_of_getElem? here, owed⟩

/-- A queue with fewer events owes no more. -/
theorem owes_of_subset {wait : WaitState}
    (fewer : ∀ event priority, .waiting event priority ∈ state.threads →
      event ∈ wait.queue.events priority →
        event ∈ state.wait.queue.events priority)
    (owes : { state with wait := wait }.Owes) : state.Owes := by
  obtain ⟨phase, member, owed⟩ := owes
  refine ⟨phase, member, ?_⟩
  cases phase with
  | waiting event priority => exact fewer event priority member owed
  | sending sync event priority => cases sync <;> exact owed
  | outside | checked | refused | served => exact owed

/-- The other threads do not finish the queue but by a stop request. -/
theorem Serves.clientStep {wait : WaitState} (serves : state.Serves)
    (step : ClientStep state.wait wait) : { state with wait := wait }.Serves := by
  rcases serves with started | ⟨looping, unfinished⟩
  · exact .inl started
  · exact .inr ⟨looping, step.frame.1.trans unfinished⟩

theorem IsSound.serves_loopStep (sound : state.IsSound)
    (step : LoopStep state next) (owes : next.Owes) : next.Serves := by
  cases step with
  | prepares loop => exact .inr ⟨rfl, rfl⟩
  | picks before loop locks =>
      refine .inr ⟨loop, ?_⟩
      rcases getEvent_cases locks.queue_eq with
        ⟨finished, -, same⟩ | ⟨unfinished, -⟩
      · have sameQueue : (state.getEvent before).wait.queue = state.wait.queue :=
          congrArg QueueRun.queue same
        have before : state.Owes :=
          owes_of_subset (fun _ _ _ here => by rwa [sameQueue] at here) owes
        rcases sound.serves before with started | ⟨-, unfinished⟩
        · cases loop.symm.trans started
        · exact absurd (finished.symm.trans unfinished) nofun
      · exact ((locks.threadStep state.clock).finished).trans unfinished
  | wakes wait loop wakes =>
      have before : state.Owes :=
        owes_of_subset (fun _ _ _ here => by rwa [wakes.queue_eq] at here) owes
      rcases sound.serves before with started | ⟨-, unfinished⟩
      · exact .inl started
      · exact .inr ⟨loop, wakes.threadStep.finished.trans unfinished⟩
  | hands | drops | recycles => exact sound.serves owes
  | leaves loop phase =>
      have finished := sound.loop.finished phase
      rcases sound.serves owes with started | ⟨-, unfinished⟩
      · cases loop.symm.trans started
      · exact absurd (finished.symm.trans unfinished) nofun

theorem IsSound.serves_callStep {action : SyncAction} (sound : state.IsSound)
    (step : CallStep state action next) (meets : state.Meets action)
    (owes : next.Owes) : next.Serves := by
  cases step with
  | tick | expire | lateNotification => exact sound.serves owes
  | run => exact .inl rfl
  | runReturns deposit left =>
      rcases sound.serves owes with started | ⟨looping, -⟩
      · cases left.symm.trans started
      · cases left.symm.trans looping
  | stop =>
      rcases sound.serves owes with started | ⟨looping, -⟩
      · exact .inl started
      · exact absurd owes (meets looping)
  | remove removal =>
      have before : state.Owes := owes_of_subset
        (fun _ _ _ here => (mem_remove_events.mp here).1) owes
      exact (sound.serves before).clientStep (.remove _ removal)
  | addFileDescriptorListener fileDescriptor hasEvents hasListener initialized
      added =>
      have before : state.Owes := by
        refine owes_of_subset (fun _ _ _ here => ?_) owes
        rwa [addFileDescriptorListener_queue] at here
      exact (sound.serves before).clientStep
        (.addFileDescriptorListener _ _ _ _ _ _)
  | refuse thread event priority outside invalid =>
      exact sound.serves ((owes_setThread owes).resolve_right nofun)
  | pass thread event priority outside valid running => exact meets
  | sendEvent thread handler event sent delayTime priority outside sends =>
      exact sound.serves ((owes_setThread owes).resolve_right nofun)
  | sendSyncEvent thread handler event sent priority checked sends =>
      exact sound.serves (owes_of_getElem? checked trivial)
  | insert thread sync event priority sending =>
      have before : state.Owes := by
        cases sync with
        | true => exact owes_of_getElem? sending trivial
        | false =>
            rcases owes_setThread owes with before | owed
            · refine owes_of_subset (fun other place waits here => ?_) before
              obtain ⟨-, -, inserted⟩ := sound.threads _ waits
              rcases mem_insert_events.mp here with ⟨rfl, -⟩ | here
              · exact absurd (sound.queue.faithful.arrived _ _ inserted)
                  (Nat.lt_irrefl _)
              · exact here
            · cases owed
      exact (sound.serves before).clientStep
        (.insert _ (some ⟨event, state.arrivals⟩) priority)
  | wakeSender thread event priority waiting recycled =>
      exact sound.serves ((owes_setThread owes).resolve_right nofun)
  | callAgain thread returned =>
      exact sound.serves ((owes_setThread owes).resolve_right nofun)

theorem IsSound.loopStep (sound : state.IsSound) (step : LoopStep state next) :
    next.IsSound where
  queue := sound.queue.loopStep sound.loop step
  loop := sound.loop.loopStep step
  fates := sound.fates_loopStep step
  threads phase member := by
    rw [threads_loopStep step] at member
    exact (sound.threads phase member).grow step.grows
  serves := sound.serves_loopStep step

theorem IsSound.callStep {action : SyncAction} (sound : state.IsSound)
    (step : CallStep state action next) (meets : state.Meets action) :
    next.IsSound where
  queue := sound.queue.callStep step
  loop := sound.loop.callStep step
  fates := sound.fates_callStep step
  threads := sound.threads_callStep step
  serves := sound.serves_callStep step meets

theorem isSound_start (idleTimeStamp clock : TimePoint) (deposit : Bool)
    (threadNum : Nat) :
    (start idleTimeStamp clock deposit threadNum).IsSound := by
  have outside : ∀ phase ∈
      (start idleTimeStamp clock deposit threadNum).threads,
      phase = .outside :=
    fun _ member => List.eq_of_mem_replicate member
  have faithful := QueueRun.isFaithful_start idleTimeStamp
  constructor
  case queue =>
    exact ⟨WaitState.isAlert_start _ _ _, faithful, QueueRun.counts_start _⟩
  case loop =>
    refine ⟨fun _ => rfl, fun _ deposited => ?_, nofun⟩
    simp_all [start]
  case fates =>
    refine ⟨nofun, nofun, fun _ _ => ⟨rfl, rfl, rfl⟩, ?_, nofun, nofun, ?_⟩
    · intro event priority member
      exact ⟨rfl, rfl, rfl⟩
    · intro event priority inserted
      cases inserted
  case threads =>
    intro phase member
    rw [outside phase member]
    trivial
  case serves =>
    rintro ⟨phase, member, owed⟩
    rw [outside phase member] at owed
    cases owed

theorem IsSound.path {steps : Nat} (sound : state.IsSound)
    (path : SyncPath Meets state steps next) : next.IsSound := by
  induction path with
  | refl => exact sound
  | loop path step ih => exact ih.loopStep step
  | call path step meets ih => exact ih.callStep step meets

end SyncState

end AppExecFwk
