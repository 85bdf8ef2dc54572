import Mathlib.Logic.Relation
import AppExecFwk.EventHandler.EventOrder

/-!
# Waiting for events

One thread loops in `EventQueue::GetEvent` and sleeps on the waiter of the queue
when no event is due; any thread may insert and remove events, finish the queue
or replace its waiter meanwhile.  Whatever a function does under the lock of the
queue is one step.  A sleeping thread is one that nothing has woken up yet, so
that it may go on at any time covers the timeouts and the spurious wake-ups.
-/

namespace AppExecFwk

open EventQueue

/-- What a waiter sleeps on: a condition variable, or the descriptors of an epoll
instance. -/
inductive WaiterKind where
  | none
  | epoll
  deriving DecidableEq

/-- A waiter; it is notified until the thread that was woken up has seen it. -/
structure IoWaiter where
  kind : WaiterKind
  waitingCount : Nat := 0
  notified : Bool := false
  deriving DecidableEq

namespace IoWaiter

variable (waiter : IoWaiter)

def supportListeningFileDescriptor : Bool :=
  waiter.kind = .epoll

/-- Wake up the waiting thread, if there is one. -/
def notifyAll : IoWaiter :=
  if waiter.waitingCount > 0 then { waiter with notified := true } else waiter

/-- Only one thread waits, so waking up one is waking up all. -/
def notifyOne : IoWaiter :=
  waiter.notifyAll

end IoWaiter

/-- Where the thread is that loops in `GetEvent`. -/
inductive GetEventPhase where
  /-- It has not called the function, or is about to call it again. -/
  | outside
  /-- The call has returned, without an event if the queue is finished. -/
  | returned (event : Option QueuedEvent)
  /-- It sleeps on a waiter until a deadline, having dropped the lock. -/
  | waiting (holder : Nat) (deadline : TimePoint)
  /-- The wait on the descriptors is over, but it still counts as waiting. -/
  | woken (holder : Nat) (awakened failed : Bool)
  /-- It no longer counts as waiting and has its descriptors to look at. -/
  | counted (holder : Nat) (awakened failed : Bool)
  /-- It is about to take the lock again. -/
  | locking (failed : Bool)
  deriving DecidableEq

/-- The queue, the waiters made so far and the thread that takes events. -/
structure WaitState where
  queue : EventQueue
  waiters : Nat → IoWaiter
  waiterNum : Nat
  ioWaiter : Nat
  listeners : List Int32 := []
  phase : GetEventPhase := .outside

namespace WaitState

variable (state : WaitState)

/-- Change a waiter. -/
def setWaiter (number : Nat) (waiter : IoWaiter) : WaitState :=
  { state with waiters := Function.update state.waiters number waiter }

/-- Use a new waiter from now on. -/
def replaceWaiter (kind : WaiterKind) : WaitState :=
  { state with
    waiters := Function.update state.waiters state.waiterNum { kind := kind }
    waiterNum := state.waiterNum + 1
    ioWaiter := state.waiterNum }

/-- Notify the waiter in use. -/
def notify : WaitState :=
  state.setWaiter state.ioWaiter (state.waiters state.ioWaiter).notifyAll

/-- The loop of `GetEvent` from where it holds the lock: to the return of the
function, or to the next sleep. -/
def getEventLocked (now : TimePoint) : WaitState :=
  if state.queue.finished then { state with phase := .returned none }
  else
    match state.queue.getExpiredEventLocked now TimePoint.max with
    | (some event, _, queue) =>
        { state with queue := queue, phase := .returned (some event) }
    | (none, nextWakeUpTime, queue) =>
        let waiter := state.waiters state.ioWaiter
        { state.setWaiter state.ioWaiter
            { waiter with waitingCount := waiter.waitingCount + 1 } with
          queue := queue
          phase := .waiting state.ioWaiter nextWakeUpTime }

def insert (event : Option QueuedEvent) (priority : Priority) : WaitState :=
  let (needNotify, queue) := state.queue.insert event priority
  let state := { state with queue := queue }
  if needNotify then state.notify else state

def remove (removal : Removal) : WaitState :=
  { state with queue := removal.apply state.queue }

def finish : WaitState :=
  { state with queue := state.queue.finish }.notify

/-- Have a waiter that listens to descriptors; `initialized` tells whether a new
one can be set up. -/
def ensureIoWaiterSupportListerningFileDescriptorLocked (initialized : Bool) :
    Bool × WaitState :=
  if (state.waiters state.ioWaiter).supportListeningFileDescriptor then
    (true, state)
  else if initialized then (true, state.notify.replaceWaiter .epoll)
  else (false, state)

/-- Listen to a descriptor; `initialized` and `added` tell what the system
answers. -/
def addFileDescriptorListener (fileDescriptor : Int32) (hasEvents : Bool)
    (hasListener initialized added : Bool) : WaitState :=
  if fileDescriptor < 0 || !hasEvents || !hasListener then state
  else if fileDescriptor ∈ state.listeners then state
  else
    match state.ensureIoWaiterSupportListerningFileDescriptorLocked
        initialized with
    | (false, state) => state
    | (true, state) =>
        if added then
          { state with listeners := fileDescriptor :: state.listeners }
        else state

/-- A wait that failed has the waiter replaced by a plain one. -/
def afterWait (failed : Bool) : WaitState :=
  if failed then { state.replaceWaiter .none with listeners := [] } else state

end WaitState

/-- A step of the thread that takes events. -/
inductive ThreadStep : WaitState → WaitState → Prop where
  | call (state : WaitState) (now : TimePoint) (phase : state.phase = .outside) :
      ThreadStep state (state.getEventLocked now)
  | dispatched (state : WaitState) (event : QueuedEvent)
      (phase : state.phase = .returned (some event)) :
      ThreadStep state { state with phase := .outside }
  | conditionWakes (state : WaitState) (holder : Nat) (deadline now : TimePoint)
      (phase : state.phase = .waiting holder deadline)
      (kind : (state.waiters holder).kind = .none) :
      ThreadStep state ((state.setWaiter holder { state.waiters holder with
        waitingCount := (state.waiters holder).waitingCount - 1
        notified := false }).getEventLocked now)
  | epollReturns (state : WaitState) (holder : Nat) (deadline : TimePoint)
      (awakened failed : Bool) (phase : state.phase = .waiting holder deadline)
      (kind : (state.waiters holder).kind = .epoll)
      (readable : awakened → (state.waiters holder).notified) :
      ThreadStep state { state with phase := .woken holder awakened failed }
  | epollCounts (state : WaitState) (holder : Nat) (awakened failed : Bool)
      (phase : state.phase = .woken holder awakened failed) :
      ThreadStep state { state.setWaiter holder { state.waiters holder with
          waitingCount := (state.waiters holder).waitingCount - 1 } with
        phase := .counted holder awakened failed }
  | epollDrains (state : WaitState) (holder : Nat) (awakened failed : Bool)
      (phase : state.phase = .counted holder awakened failed) :
      ThreadStep state { state.setWaiter holder { state.waiters holder with
          notified := (state.waiters holder).notified && !awakened } with
        phase := .locking failed }
  | locks (state : WaitState) (failed : Bool) (now : TimePoint)
      (phase : state.phase = .locking failed) :
      ThreadStep state ((state.afterWait failed).getEventLocked now)

/-- A step of any thread. -/
inductive ClientStep : WaitState → WaitState → Prop where
  | insert (state : WaitState) (event : Option QueuedEvent)
      (priority : Priority) : ClientStep state (state.insert event priority)
  | remove (state : WaitState) (removal : Removal) :
      ClientStep state (state.remove removal)
  | addFileDescriptorListener (state : WaitState) (fileDescriptor : Int32)
      (hasEvents hasListener initialized added : Bool) :
      ClientStep state (state.addFileDescriptorListener fileDescriptor hasEvents
        hasListener initialized added)
  /-- A client that has read the count before the thread woke up may write to
  the descriptor afterwards. -/
  | lateNotification (state : WaitState) (holder : Nat)
      (kind : (state.waiters holder).kind = .epoll) :
      ClientStep state (state.setWaiter holder
        { state.waiters holder with notified := true })

/-- A step of the queue in use. -/
inductive WaitStep : WaitState → WaitState → Prop where
  | thread {state next : WaitState} (step : ThreadStep state next) :
      WaitStep state next
  | client {state next : WaitState} (step : ClientStep state next) :
      WaitStep state next
  | finish (state : WaitState) : WaitStep state state.finish

/-- A queue that has just been made with a waiter of some kind. -/
def WaitState.start (idleTimeStamp : TimePoint) (finished : Bool)
    (kind : WaiterKind) : WaitState where
  queue := { idleTimeStamp := idleTimeStamp, finished := finished }
  waiters := fun _ => { kind := kind }
  waiterNum := 1
  ioWaiter := 0

/-- No event above `idle` is handled before a point of time. -/
def EventQueue.NoneBefore (queue : EventQueue) (time : TimePoint) : Prop :=
  ∀ priority, priority ≠ .idle → ∀ event ∈ queue.events priority,
    time ≤ event.handleTime

/-- The events of every priority are sorted by their time. -/
def EventQueue.IsSorted (queue : EventQueue) : Prop :=
  ∀ priority, (queue.events priority).Pairwise
    fun event other => event.handleTime ≤ other.handleTime

/-- Nothing is missed while the thread sleeps: it sleeps on the waiter in use,
the queue goes on, and it will wake up before any event is due. -/
structure WaitState.IsWatched (state : WaitState) (holder : Nat)
    (deadline : TimePoint) : Prop where
  inUse : holder = state.ioWaiter
  unfinished : state.queue.finished = false
  wakesUp : deadline = state.queue.wakeUpTime
  noneBefore : state.queue.NoneBefore deadline

/-- A sleeping thread has been woken up, or there is nothing to wake it up for. -/
structure WaitState.IsAlert (state : WaitState) : Prop where
  sorted : state.queue.IsSorted
  made : state.ioWaiter < state.waiterNum
  asleep : ∀ holder deadline, state.phase = .waiting holder deadline →
    holder < state.waiterNum ∧ 0 < (state.waiters holder).waitingCount ∧
      ((state.waiters holder).notified = false →
        state.IsWatched holder deadline)

section Queue

variable {queue : EventQueue}

/-- In a sorted list the first event is the earliest. -/
theorem EventQueue.IsNextHandleTime.noneBefore {time : TimePoint}
    (next : queue.IsNextHandleTime time) (sorted : queue.IsSorted) :
    queue.NoneBefore time := by
  intro priority waking event member
  have list := sorted priority
  have earliest := next.1 priority waking
  cases events : queue.events priority with
  | nil => simp [events] at member
  | cons first rest =>
      rw [events] at member list earliest
      have bound := earliest first rfl
      rcases List.mem_cons.mp member with rfl | inRest
      · exact bound
      · exact Int64.le_trans bound ((List.pairwise_cons.mp list).1 event inRest)

theorem EventQueue.IsSorted.insert (sorted : queue.IsSorted)
    (event : Option QueuedEvent) (priority : Priority) :
    (queue.insert event priority).2.IsSorted := by
  cases event with
  | none => exact sorted
  | some event =>
      intro place
      rw [insert_events]
      split
      · apply StableList.pairwise_insert (sorted priority)
        · intro other _ earlier
          exact Int64.le_of_lt (by simpa using earlier)
        · intro other _ later
          exact Int64.not_lt.mp (by simpa using later)
        · intro first _ other _ earlier order
          have earlier : event.handleTime < first.handleTime := by
            simpa using earlier
          simpa using Int64.lt_of_lt_of_le earlier order
      · exact sorted place

theorem EventQueue.IsSorted.remove (sorted : queue.IsSorted)
    (removal : Removal) : (removal.apply queue).IsSorted := by
  intro priority
  rw [removal.apply_eq_remove, remove_events]
  exact (sorted priority).filter _

theorem EventQueue.IsSorted.getExpiredEventLocked (sorted : queue.IsSorted)
    {event : Option QueuedEvent} {now nextExpiredTime time : TimePoint}
    {after : EventQueue}
    (taken : queue.getExpiredEventLocked now nextExpiredTime =
      (event, time, after)) : after.IsSorted := by
  intro priority
  rcases getExpiredEventLocked_spec taken with
    ⟨-, same, -⟩ | ⟨first, place, -, front, -, others⟩
  · rw [same]
    exact sorted priority
  · by_cases samePlace : priority = place
    · subst samePlace
      have list := sorted priority
      rw [front] at list
      exact (List.pairwise_cons.mp list).2
    · rw [others priority samePlace]
      exact sorted priority

end Queue

namespace WaitState

variable {state : WaitState}

theorem setWaiter_waiters (number other : Nat) (waiter : IoWaiter) :
    (state.setWaiter number waiter).waiters other =
      if other = number then waiter else state.waiters other := by
  simp [setWaiter, Function.update_apply]

/-- From the lock the thread returns or goes to sleep until the next event. -/
theorem isAlert_getEventLocked (sorted : state.queue.IsSorted)
    (made : state.ioWaiter < state.waiterNum) (now : TimePoint) :
    (state.getEventLocked now).IsAlert := by
  unfold WaitState.getEventLocked
  split
  · exact ⟨sorted, made, nofun⟩
  · next unfinished =>
      rcases taken : state.queue.getExpiredEventLocked now TimePoint.max with
        ⟨event, time, queue⟩
      have sortedAfter := sorted.getExpiredEventLocked taken
      have unfinished : queue.finished = false := by
        rw [getExpiredEventLocked_finished taken]
        simpa using unfinished
      cases event with
      | some event => exact ⟨sortedAfter, made, nofun⟩
      | none =>
          rcases getExpiredEventLocked_spec taken with
            ⟨-, -, wakesUp, next⟩ | ⟨first, priority, impossible, -⟩
          · refine ⟨sortedAfter, made, ?_⟩
            intro holder deadline phase
            cases phase
            refine ⟨made, ?_, fun _ => ⟨rfl, unfinished, wakesUp, ?_⟩⟩
            · simp [setWaiter_waiters]
            · rw [wakesUp]
              exact next.noneBefore sortedAfter
          · cases impossible

/-- Once notified, a waiter stays so until the thread has seen it. -/
theorem notify_notified (number : Nat) :
    ((state.notify).waiters number).notified = false ↔
      (state.waiters number).notified = false ∧
        ¬(number = state.ioWaiter ∧
          0 < (state.waiters state.ioWaiter).waitingCount) := by
  unfold notify
  rw [setWaiter_waiters]
  split
  · next same =>
      subst same
      unfold IoWaiter.notifyAll
      split <;> simp_all
  · next apart => simp [apart]

theorem notify_waitingCount (number : Nat) :
    ((state.notify).waiters number).waitingCount =
      (state.waiters number).waitingCount := by
  unfold notify
  rw [setWaiter_waiters]
  split
  · next same =>
      subst same
      unfold IoWaiter.notifyAll
      split <;> rfl
  · rfl

/-- A notified thread may find anything when it wakes up. -/
theorem IsAlert.notify {before : WaitState} (alert : before.IsAlert)
    (sorted : state.queue.IsSorted) (phase : state.phase = before.phase)
    (waiters : state.waiters = before.waiters)
    (waiterNum : state.waiterNum = before.waiterNum)
    (ioWaiter : state.ioWaiter = before.ioWaiter) : state.notify.IsAlert := by
  refine ⟨sorted, ?_, ?_⟩
  · have made := alert.made
    simpa [WaitState.notify, setWaiter, ioWaiter, waiterNum] using made
  · intro holder deadline asleep
    obtain ⟨made, waits, watched⟩ := alert.asleep holder deadline
      (phase.symm.trans asleep)
    rw [notify_waitingCount, notify_notified, waiters, ioWaiter]
    refine ⟨?_, waits, ?_⟩
    · simpa [WaitState.notify, setWaiter, waiterNum] using made
    · rintro ⟨unnotified, reached⟩
      have inUse := (watched unnotified).inUse
      subst inUse
      exact absurd ⟨rfl, waits⟩ reached

theorem IsAlert.insert (alert : state.IsAlert) (event : Option QueuedEvent)
    (priority : Priority) : (state.insert event priority).IsAlert := by
  have sorted := alert.sorted.insert event priority
  unfold WaitState.insert
  rcases inserted : state.queue.insert event priority with ⟨needNotify, queue⟩
  rw [inserted] at sorted
  cases needNotify with
  | true => exact alert.notify sorted rfl rfl rfl rfl
  | false =>
      refine ⟨sorted, alert.made, ?_⟩
      intro holder deadline asleep
      obtain ⟨made, waits, watched⟩ := alert.asleep holder deadline asleep
      refine ⟨made, waits, fun unnotified => ?_⟩
      obtain ⟨inUse, unfinished, wakesUp, noneBefore⟩ := watched unnotified
      have sameQueue : queue = (state.queue.insert event priority).2 := by
        rw [inserted]
      refine ⟨inUse, ?_, ?_, ?_⟩
      · simpa [sameQueue] using unfinished
      · simpa [sameQueue] using wakesUp
      · intro place waking other member
        cases event with
        | none =>
            cases inserted
            exact noneBefore place waking other member
        | some event =>
            simp only [sameQueue, insert_events, Bool.false_eq_true,
              ↓reduceIte] at member
            split at member
            · next samePlace =>
                subst samePlace
                rcases StableList.mem_insert.mp member with rfl | before
                · rw [wakesUp]
                  exact le_handleTime_of_not_needNotify waking (by rw [inserted])
                · exact noneBefore place waking other before
            · exact noneBefore place waking other member

theorem IsAlert.remove (alert : state.IsAlert) (removal : Removal) :
    (state.remove removal).IsAlert := by
  refine ⟨alert.sorted.remove removal, alert.made, ?_⟩
  intro holder deadline asleep
  obtain ⟨made, waits, watched⟩ := alert.asleep holder deadline asleep
  refine ⟨made, waits, fun unnotified => ?_⟩
  obtain ⟨inUse, unfinished, wakesUp, noneBefore⟩ := watched unnotified
  unfold WaitState.remove
  rw [removal.apply_eq_remove]
  refine ⟨inUse, unfinished, wakesUp, ?_⟩
  intro priority waking event member
  rw [remove_events] at member
  exact noneBefore priority waking event (List.mem_filter.mp member).1

theorem IsAlert.finish (alert : state.IsAlert) : state.finish.IsAlert := by
  exact alert.notify alert.sorted rfl rfl rfl rfl

/-- A thread that sleeps on the waiter in use is woken up before the waiter is
replaced. -/
theorem IsAlert.notifyAndReplace (alert : state.IsAlert) (kind : WaiterKind) :
    (state.notify.replaceWaiter kind).IsAlert := by
  have notified := alert.notify alert.sorted rfl rfl rfl rfl
  refine ⟨notified.sorted, Nat.lt_succ_self _, ?_⟩
  intro holder deadline asleep
  obtain ⟨made, waits, watched⟩ := notified.asleep holder deadline asleep
  have apart : holder ≠ state.notify.waiterNum := Nat.ne_of_lt made
  have sameWaiter : (state.notify.replaceWaiter kind).waiters holder =
      state.notify.waiters holder := by
    simp [replaceWaiter, Function.update_of_ne apart]
  rw [sameWaiter]
  refine ⟨Nat.lt_succ_of_lt made, waits, fun unnotified => ?_⟩
  -- Only the waiter in use could have been slept on without a notification.
  have inUse : holder = state.ioWaiter := (watched unnotified).inUse
  rw [notify_notified] at unnotified
  rw [notify_waitingCount] at waits
  subst inUse
  exact absurd ⟨rfl, waits⟩ unnotified.2

theorem IsAlert.addFileDescriptorListener (alert : state.IsAlert)
    (fileDescriptor : Int32) (hasEvents hasListener initialized added : Bool) :
    (state.addFileDescriptorListener fileDescriptor hasEvents hasListener
      initialized added).IsAlert := by
  unfold WaitState.addFileDescriptorListener
  split
  · exact alert
  split
  · exact alert
  have ensured (success : Bool) (next : WaitState)
      (ensured : state.ensureIoWaiterSupportListerningFileDescriptorLocked
        initialized = (success, next)) : next.IsAlert := by
    unfold ensureIoWaiterSupportListerningFileDescriptorLocked at ensured
    split at ensured
    · cases ensured
      exact alert
    · split at ensured
      · cases ensured
        exact alert.notifyAndReplace .epoll
      · cases ensured
        exact alert
  split
  · next next failed => exact ensured _ _ failed
  · next next supported =>
      have alert := ensured _ _ supported
      split
      · refine ⟨alert.sorted, alert.made, ?_⟩
        intro holder deadline asleep
        obtain ⟨made, waits, watched⟩ := alert.asleep holder deadline asleep
        refine ⟨made, waits, fun unnotified => ?_⟩
        obtain ⟨inUse, unfinished, wakesUp, noneBefore⟩ := watched unnotified
        exact ⟨inUse, unfinished, wakesUp, noneBefore⟩
      · exact alert

/-- A step of the thread leaves it awake, or asleep with nothing missed. -/
theorem IsAlert.threadStep {next : WaitState} (alert : state.IsAlert)
    (step : ThreadStep state next) : next.IsAlert := by
  cases step with
  | call now phase => exact isAlert_getEventLocked alert.sorted alert.made now
  | dispatched event phase => exact ⟨alert.sorted, alert.made, nofun⟩
  | conditionWakes holder deadline now phase kind =>
      apply isAlert_getEventLocked
      · exact alert.sorted
      · exact alert.made
  | epollReturns holder deadline awakened failed phase kind readable =>
      exact ⟨alert.sorted, alert.made, nofun⟩
  | epollCounts holder awakened failed phase =>
      exact ⟨alert.sorted, alert.made, nofun⟩
  | epollDrains holder awakened failed phase =>
      exact ⟨alert.sorted, alert.made, nofun⟩
  | locks failed now phase =>
      unfold afterWait
      split
      · apply isAlert_getEventLocked
        · exact alert.sorted
        · exact Nat.lt_succ_self _
      · exact isAlert_getEventLocked alert.sorted alert.made now

theorem IsAlert.clientStep {next : WaitState} (alert : state.IsAlert)
    (step : ClientStep state next) : next.IsAlert := by
  cases step with
  | insert event priority => exact alert.insert event priority
  | remove removal => exact alert.remove removal
  | addFileDescriptorListener fileDescriptor hasEvents hasListener initialized
      added =>
      exact alert.addFileDescriptorListener fileDescriptor hasEvents hasListener
        initialized added
  | lateNotification number kind =>
      refine ⟨alert.sorted, alert.made, ?_⟩
      intro holder deadline asleep
      obtain ⟨made, waits, watched⟩ := alert.asleep holder deadline asleep
      rw [setWaiter_waiters]
      split
      · next same =>
          subst same
          exact ⟨made, waits, nofun⟩
      · refine ⟨made, waits, fun unnotified => ?_⟩
        obtain ⟨inUse, unfinished, wakesUp, noneBefore⟩ := watched unnotified
        exact ⟨inUse, unfinished, wakesUp, noneBefore⟩

theorem IsAlert.step {next : WaitState} (alert : state.IsAlert)
    (step : WaitStep state next) : next.IsAlert := by
  cases step with
  | thread step => exact alert.threadStep step
  | client step => exact alert.clientStep step
  | finish => exact alert.finish

theorem isAlert_start (idleTimeStamp : TimePoint) (finished : Bool)
    (kind : WaiterKind) : (start idleTimeStamp finished kind).IsAlert := by
  refine ⟨?_, Nat.zero_lt_one, nofun⟩
  intro priority
  cases priority <;> exact .nil

end WaitState

/-- In every state that any threads bring about together, a thread that sleeps
with no notification pending has nothing to be woken up for before its deadline;
and a search that finds no event knows when the next one is due. -/
theorem no_lost_wakeUp {idleTimeStamp : TimePoint} {finished : Bool}
    {kind : WaiterKind} {state : WaitState}
    (reached : Relation.ReflTransGen WaitStep
      (.start idleTimeStamp finished kind) state) :
    (∀ holder deadline, state.phase = .waiting holder deadline →
      (state.waiters holder).notified = false →
        state.queue.finished = false ∧ state.queue.NoneBefore deadline) ∧
    ∀ now nextExpiredTime time after,
      state.queue.getExpiredEventLocked now nextExpiredTime =
        (none, time, after) → after.IsNextHandleTime after.wakeUpTime := by
  have alert : state.IsAlert := by
    induction reached with
    | refl => exact WaitState.isAlert_start idleTimeStamp finished kind
    | tail _ step ih => exact ih.step step
  constructor
  · intro holder deadline asleep unnotified
    obtain ⟨-, -, watched⟩ := alert.asleep holder deadline asleep
    exact ⟨(watched unnotified).unfinished, (watched unnotified).noneBefore⟩
  · intro now nextExpiredTime time after taken
    rcases EventQueue.getExpiredEventLocked_spec taken with
      ⟨-, -, -, next⟩ | ⟨first, priority, impossible, -⟩
    · exact next
    · cases impossible

/-- A thread that has gone to sleep on a queue with one event to come. -/
def sleepingThread : WaitState :=
  ((WaitState.start 0 false .none).insert
    (some { handleTime := 10, arrival := 0 }) .low).getEventLocked 0

theorem no_lost_wakeUp_sleepingThread :
    sleepingThread.phase = .waiting 0 10 ∧
      sleepingThread.queue.NoneBefore 10 := by
  have reached : Relation.ReflTransGen WaitStep (.start 0 false .none)
      sleepingThread :=
    (Relation.ReflTransGen.single (.client (.insert _ _ _))).tail
      (.thread (.call _ 0 rfl))
  have asleep : sleepingThread.phase = .waiting 0 10 := by decide +kernel
  have unnotified : (sleepingThread.waiters 0).notified = false := by
    decide +kernel
  exact ⟨asleep, ((no_lost_wakeUp reached).1 0 10 asleep unnotified).2⟩

end AppExecFwk
