import Mathlib.Data.Vector.Defs
import AppExecFwk.Library.StableList

/-!
# The event queue

`EventQueue` keeps the events that were sent to a runner: a sorted list for each
of three priorities and one for idle events.  Every function here runs under the
lock of the queue, so it is one step; the clock is read once and comes in as an
argument.
-/

namespace AppExecFwk

/-- A point of the steady clock, in nanoseconds. -/
abbrev TimePoint := Int64

/-- The last point of time. -/
def TimePoint.max : TimePoint := Int64.maxValue

/-- An event handler, by its address. -/
abbrev HandlerId := Nat

/-- What the queue and its filters read of an event. -/
structure InnerEvent where
  handleTime : TimePoint := 0
  sendTime : TimePoint := 0
  /-- The handler of the event; it may be destroyed before the event is. -/
  owner : Option HandlerId := none
  innerEventId : UInt32 := 0
  param : Int64 := 0
  hasTask : Bool := false
  taskName : String := ""
  deriving DecidableEq

namespace InnerEvent

/-- The handler of an event as long as it exists. -/
def getOwner (event : InnerEvent) (alive : HandlerId → Bool) :
    Option HandlerId :=
  event.owner.filter alive

end InnerEvent

/-- An event in a queue.  Events may be equal, so the number of its arrival tells
which one it is; no function of the queue reads the number. -/
structure QueuedEvent extends InnerEvent where
  arrival : Nat
  deriving DecidableEq

inductive Priority where
  | immediate
  | high
  | low
  | idle
  deriving DecidableEq

/-- The number of the queues for the priorities above `idle`. -/
abbrev subEventQueueNum : Nat := 3

/-- How many events of a priority are handled in a row before one of a lower
priority gets its turn. -/
def defaultMaxHandledEventCount : UInt32 := 5

structure SubEventQueue where
  queue : List QueuedEvent := []
  handledEventsCount : UInt32 := 0
  maxHandledEventsCount : UInt32 := defaultMaxHandledEventCount
  deriving DecidableEq

@[grind =]
theorem get_subEventQueues
    (subEventQueues : Vector SubEventQueue subEventQueueNum)
    (index : Fin subEventQueueNum) :
    subEventQueues.get index = subEventQueues[index.val] :=
  rfl

structure EventQueue where
  subEventQueues : Vector SubEventQueue subEventQueueNum :=
    Vector.replicate subEventQueueNum {}
  idleEvents : List QueuedEvent := []
  wakeUpTime : TimePoint := TimePoint.max
  idleTimeStamp : TimePoint
  isIdle : Bool := true
  finished : Bool := true
  deriving DecidableEq

/-- The index of the queue of a priority above `idle`. -/
def Priority.index? : Priority → Option (Fin subEventQueueNum)
  | immediate => some 0
  | high => some 1
  | low => some 2
  | idle => none

/-- The priority whose events a queue holds. -/
def Priority.ofIndex (index : Fin subEventQueueNum) : Priority :=
  match index with
  | 0 => immediate
  | 1 => high
  | 2 => low

theorem Priority.index?_eq_some {priority : Priority}
    {index : Fin subEventQueueNum} :
    priority.index? = some index ↔ priority = ofIndex index := by
  revert index
  cases priority <;> decide

theorem Priority.index?_eq_none {priority : Priority} :
    priority.index? = none ↔ priority = idle := by
  cases priority <;> decide

theorem Priority.ofIndex_inj {index other : Fin subEventQueueNum} :
    ofIndex index = ofIndex other ↔ index = other := by
  revert index other
  decide

/-- Insert an event behind all that are handled no later. -/
def insertEventsLocked (events : List QueuedEvent) (event : QueuedEvent) :
    List QueuedEvent :=
  StableList.insert (fun first second => first.handleTime < second.handleTime)
    event events

/-- Whether the first event of a list is due, and the time to wake up: that of
the event if it is earlier than the time known so far. -/
def checkEventInListLocked (events : List QueuedEvent)
    (now nextWakeUpTime : TimePoint) : Bool × TimePoint :=
  match events with
  | [] => (false, nextWakeUpTime)
  | event :: _ =>
      if event.handleTime < nextWakeUpTime then
        (event.handleTime ≤ now, event.handleTime)
      else (false, nextWakeUpTime)

namespace SubEventQueue

/-- The first event of a queue is to be handled now. -/
def IsDue (sub : SubEventQueue) (now : TimePoint) : Prop :=
  ∃ event rest, sub.queue = event :: rest ∧ event.handleTime ≤ now ∧
    event.handleTime < TimePoint.max

end SubEventQueue

namespace EventQueue

variable (queue : EventQueue)

/-- Change one of the sorted lists above `idle`. -/
def setSubEventQueue (index : Fin subEventQueueNum) (sub : SubEventQueue) :
    EventQueue :=
  { queue with subEventQueues := queue.subEventQueues.set index sub }

/-- The events of a priority. -/
def events : Priority → List QueuedEvent
  | .immediate => queue.subEventQueues[0].queue
  | .high => queue.subEventQueues[1].queue
  | .low => queue.subEventQueues[2].queue
  | .idle => queue.idleEvents

/-- Insert an event; the result tells whether a waiting thread has to be
notified.  An idle event never wakes it up. -/
def insert (event : Option QueuedEvent) (priority : Priority) :
    Bool × EventQueue :=
  match event with
  | none => (false, queue)
  | some event =>
      match priority.index? with
      | some index =>
          let sub := queue.subEventQueues.get index
          (event.handleTime < queue.wakeUpTime,
            queue.setSubEventQueue index
              { sub with queue := insertEventsLocked sub.queue event })
      | none =>
          (false, { queue with
            idleEvents := insertEventsLocked queue.idleEvents event })

/-- Remove the events that a filter accepts. -/
def remove (filter : InnerEvent → Bool) : EventQueue :=
  { queue with
    subEventQueues := queue.subEventQueues.map fun sub =>
      { sub with queue := sub.queue.filter fun event =>
          !filter event.toInnerEvent }
    idleEvents := queue.idleEvents.filter fun event =>
      !filter event.toInnerEvent }

/-- Remove the events whose handler is gone. -/
def removeOrphan (alive : HandlerId → Bool) : EventQueue :=
  queue.remove fun event => (event.getOwner alive).isNone

/-- Remove the events of a handler. -/
def removeOwner (alive : HandlerId → Bool) (owner : Option HandlerId) :
    EventQueue :=
  if owner.isNone then queue
  else queue.remove fun event => event.getOwner alive = owner

def removeId (alive : HandlerId → Bool) (owner : Option HandlerId)
    (innerEventId : UInt32) : EventQueue :=
  if owner.isNone then queue
  else queue.remove fun event =>
    !event.hasTask && event.getOwner alive = owner &&
      event.innerEventId = innerEventId

def removeIdParam (alive : HandlerId → Bool) (owner : Option HandlerId)
    (innerEventId : UInt32) (param : Int64) : EventQueue :=
  if owner.isNone then queue
  else queue.remove fun event =>
    !event.hasTask && event.getOwner alive = owner &&
      event.innerEventId = innerEventId && event.param = param

def removeName (alive : HandlerId → Bool) (owner : Option HandlerId)
    (name : String) : EventQueue :=
  if owner.isNone || name = "" then queue
  else queue.remove fun event =>
    event.hasTask && event.getOwner alive = owner && event.taskName = name

/-- What the search for an event to distribute has found so far. -/
structure PickState where
  subEventQueues : Vector SubEventQueue subEventQueueNum
  nextWakeUpTime : TimePoint
  priorityIndex : Option (Fin subEventQueueNum) := none

/-- Look for an event to distribute among the queues that are left. -/
def pickLoop (now : TimePoint) :
    List (Fin subEventQueueNum) → PickState → PickState
  | [], state => state
  | index :: rest, state =>
      match checkEventInListLocked (state.subEventQueues.get index).queue now
          state.nextWakeUpTime with
      | (false, nextWakeUpTime) =>
          pickLoop now rest { state with nextWakeUpTime := nextWakeUpTime }
      | (true, nextWakeUpTime) =>
          match state.priorityIndex with
          | some higher =>
              let subQueue := state.subEventQueues.get higher
              if subQueue.handledEventsCount < subQueue.maxHandledEventsCount then
                -- The higher priority still has events to handle in a row.
                { state with
                  nextWakeUpTime := nextWakeUpTime
                  subEventQueues := state.subEventQueues.set higher
                    { subQueue with
                      handledEventsCount := subQueue.handledEventsCount + 1 } }
              else pickLoop now rest { state with
                nextWakeUpTime := nextWakeUpTime, priorityIndex := some index }
          | none => pickLoop now rest { state with
              nextWakeUpTime := nextWakeUpTime, priorityIndex := some index }

/-- The queues after the event in front of one of them is taken: those of higher
priority count anew. -/
def takeFrom (subEventQueues : Vector SubEventQueue subEventQueueNum)
    (priorityIndex : Fin subEventQueueNum) :
    Vector SubEventQueue subEventQueueNum :=
  subEventQueues.mapFinIdx fun index sub _ =>
    if index < priorityIndex then { sub with handledEventsCount := 0 }
    else if index = priorityIndex then { sub with queue := sub.queue.tail }
    else sub

/-- Pick an event that is due, and compute the time to wake up. -/
def pickEventLocked (now nextWakeUpTime : TimePoint) :
    Option QueuedEvent × TimePoint × EventQueue :=
  let found := pickLoop now (List.finRange subEventQueueNum)
    { subEventQueues := queue.subEventQueues, nextWakeUpTime := nextWakeUpTime }
  match found.priorityIndex with
  | none =>
      (none, found.nextWakeUpTime,
        { queue with subEventQueues := found.subEventQueues })
  | some priorityIndex =>
      ((found.subEventQueues.get priorityIndex).queue.head?, found.nextWakeUpTime,
        { queue with
          subEventQueues := takeFrom found.subEventQueues priorityIndex })

/-- Take an event that is due, an idle one if there is no other; without any,
tell when the next one will be. -/
def getExpiredEventLocked (now nextExpiredTime : TimePoint) :
    Option QueuedEvent × TimePoint × EventQueue :=
  let (event, wakeUpTime, queue) := queue.pickEventLocked now TimePoint.max
  let queue := { queue with wakeUpTime := wakeUpTime }
  match event with
  | some event => (some event, nextExpiredTime, { queue with isIdle := false })
  | none =>
      let queue :=
        if queue.isIdle then queue
        else { queue with idleTimeStamp := now, isIdle := true }
      match queue.idleEvents with
      | idleEvent :: rest =>
          if idleEvent.sendTime ≤ queue.idleTimeStamp ∧
              idleEvent.handleTime ≤ now then
            (some idleEvent, nextExpiredTime, { queue with idleEvents := rest })
          else (none, queue.wakeUpTime, queue)
      | [] => (none, queue.wakeUpTime, queue)

def prepare : EventQueue :=
  { queue with finished := false }

def finish : EventQueue :=
  { queue with finished := true }

/-! ## Turns of the queues -/

/-- The queue of a higher priority counts one more event. -/
def countEvent (subEventQueues : Vector SubEventQueue subEventQueueNum)
    (index : Fin subEventQueueNum) : Vector SubEventQueue subEventQueueNum :=
  subEventQueues.set index { subEventQueues.get index with
    handledEventsCount := (subEventQueues.get index).handledEventsCount + 1 }

/-- A queue has not yet had its share of events in a row. -/
def HasShare (subEventQueues : Vector SubEventQueue subEventQueueNum)
    (index : Fin subEventQueueNum) : Prop :=
  (subEventQueues.get index).handledEventsCount <
    (subEventQueues.get index).maxHandledEventsCount

/-- No event above `idle` is due. -/
def NothingDue (now : TimePoint) : Prop :=
  ∀ index : Fin subEventQueueNum, ¬(queue.subEventQueues.get index).IsDue now

/-- How far the counters have come: a turn of the second queue outweighs all
turns of the first one. -/
def turnsHad (share : UInt32) (queue : EventQueue) : Nat :=
  queue.subEventQueues[0].handledEventsCount.toNat +
    (share.toNat + 1) * queue.subEventQueues[1].handledEventsCount.toNat

section Specifications

variable {queue after : EventQueue} {now nextTime wakeUpTime : TimePoint}
  {event : Option QueuedEvent}

theorem events_ofIndex (queue : EventQueue) (index : Fin subEventQueueNum) :
    queue.events (.ofIndex index) = (queue.subEventQueues.get index).queue := by
  match index with
  | 0 | 1 | 2 => rfl

theorem exists_index {priority : Priority} (waking : priority ≠ .idle) :
    ∃ index, priority = .ofIndex index := by
  revert waking
  cases priority <;> decide

/-- An inserted event is with those of its priority. -/
theorem insert_events (queue : EventQueue) (event : QueuedEvent)
    (priority other : Priority) :
    (queue.insert (some event) priority).2.events other =
      if other = priority then insertEventsLocked (queue.events priority) event
      else queue.events other := by
  cases priority <;> cases other <;>
    simp [insert, Priority.index?, setSubEventQueue, events,
      get_subEventQueues]

@[simp]
theorem insert_wakeUpTime (queue : EventQueue) (event : Option QueuedEvent)
    (priority : Priority) :
    (queue.insert event priority).2.wakeUpTime = queue.wakeUpTime := by
  cases event <;> cases priority <;> rfl

@[simp]
theorem insert_finished (queue : EventQueue) (event : Option QueuedEvent)
    (priority : Priority) :
    (queue.insert event priority).2.finished = queue.finished := by
  cases event <;> cases priority <;> rfl

/-- A thread is not notified of an event only if it will be awake by then. -/
theorem le_handleTime_of_not_needNotify {event : QueuedEvent}
    {priority : Priority} (waking : priority ≠ .idle)
    (silent : (queue.insert (some event) priority).1 = false) :
    queue.wakeUpTime ≤ event.handleTime := by
  cases priority with
  | idle => exact absurd rfl waking
  | immediate | high | low => simpa [insert, Priority.index?] using silent

/-- Every list loses the events a filter accepts. -/
theorem remove_events (queue : EventQueue) (filter : InnerEvent → Bool)
    (priority : Priority) :
    (queue.remove filter).events priority =
      (queue.events priority).filter fun event => !filter event.toInnerEvent := by
  cases priority <;> simp [remove, events]

theorem checkEventInListLocked_due {events : List QueuedEvent}
    (due : checkEventInListLocked events now wakeUpTime = (true, nextTime)) :
    ∃ event rest, events = event :: rest ∧ event.handleTime ≤ now := by
  unfold checkEventInListLocked at due
  grind

/-- The search takes no event away. -/
theorem pickLoop_queue (now : TimePoint) (indices : List (Fin subEventQueueNum))
    (state : PickState) (index : Fin subEventQueueNum) :
    ((pickLoop now indices state).subEventQueues.get index).queue =
      (state.subEventQueues.get index).queue := by
  induction indices generalizing state with
  | nil => rfl
  | cons first rest ih =>
      unfold pickLoop
      grind

/-- Only a queue whose first event is due is found. -/
theorem pickLoop_priorityIndex {indices : List (Fin subEventQueueNum)}
    {state : PickState} {index : Fin subEventQueueNum}
    (found : (pickLoop now indices state).priorityIndex = some index) :
    state.priorityIndex = some index ∨
      ∃ event rest, (state.subEventQueues.get index).queue = event :: rest ∧
        event.handleTime ≤ now := by
  induction indices generalizing state with
  | nil => exact .inl found
  | cons first rest ih =>
      unfold pickLoop at found
      grind [checkEventInListLocked_due]

/-- A search that finds nothing has looked at every queue, and knows the earliest
of their first events. -/
theorem pickLoop_none {indices : List (Fin subEventQueueNum)} {state : PickState}
    (found : (pickLoop now indices state).priorityIndex = none) :
    let result := pickLoop now indices state
    result.subEventQueues = state.subEventQueues ∧
      result.nextWakeUpTime ≤ state.nextWakeUpTime ∧
      (∀ index ∈ indices, ∀ event,
        (state.subEventQueues.get index).queue.head? = some event →
          result.nextWakeUpTime ≤ event.handleTime) ∧
      (result.nextWakeUpTime = state.nextWakeUpTime ∨
        ∃ index ∈ indices, ∃ event,
          (state.subEventQueues.get index).queue.head? = some event ∧
            result.nextWakeUpTime = event.handleTime) := by
  induction indices generalizing state with
  | nil =>
      unfold pickLoop
      simp
  | cons first rest ih =>
      unfold pickLoop checkEventInListLocked at found ⊢
      grind

theorem takeFrom_queue (subEventQueues : Vector SubEventQueue subEventQueueNum)
    (priorityIndex index : Fin subEventQueueNum) :
    ((takeFrom subEventQueues priorityIndex).get index).queue =
      if index = priorityIndex then (subEventQueues.get index).queue.tail
      else (subEventQueues.get index).queue := by
  simp only [takeFrom, get_subEventQueues, Vector.getElem_mapFinIdx]
  grind

/-- The priority whose first event is taken, the event being due. -/
def TakesFrom (before after : EventQueue) (priority : Priority)
    (taken : QueuedEvent) (now : TimePoint) : Prop :=
  before.events priority = taken :: after.events priority ∧
    taken.handleTime ≤ now ∧
    ∀ other, other ≠ priority → after.events other = before.events other

/-- The earliest time at which one of the first events above `idle` is handled,
the last point of time if there is none. -/
def IsNextHandleTime (queue : EventQueue) (time : TimePoint) : Prop :=
  (∀ priority, priority ≠ .idle → ∀ event,
    (queue.events priority).head? = some event → time ≤ event.handleTime) ∧
  ((∃ priority event, priority ≠ .idle ∧
      (queue.events priority).head? = some event ∧ time = event.handleTime) ∨
    (∀ priority, priority ≠ .idle → queue.events priority = []) ∧
      time = TimePoint.max)

theorem ofIndex_ne_idle (index : Fin subEventQueueNum) :
    Priority.ofIndex index ≠ .idle := by
  revert index
  decide

/-- A picked event is due and is the first of its priority; without one the time
to wake up is that of the next event. -/
theorem pickEventLocked_spec
    (picked : queue.pickEventLocked now TimePoint.max =
      (event, wakeUpTime, after)) :
    (event = none ∧ after = queue ∧ queue.IsNextHandleTime wakeUpTime) ∨
      ∃ taken priority, event = some taken ∧ priority ≠ .idle ∧
        TakesFrom queue after priority taken now := by
  unfold pickEventLocked at picked
  simp only at picked
  split at picked
  · next absent =>
      obtain ⟨same, -, earliest, attained⟩ := pickLoop_none absent
      cases picked
      refine .inl ⟨rfl, by rw [same], ?_, ?_⟩
      · intro priority waking first front
        obtain ⟨index, rfl⟩ := exists_index waking
        rw [events_ofIndex] at front
        exact earliest index (List.mem_finRange index) first front
      · rcases attained with atLast | ⟨index, -, first, front, attained⟩
        · by_cases empty : ∀ index : Fin subEventQueueNum,
              (queue.subEventQueues.get index).queue = []
          · refine .inr ⟨?_, atLast⟩
            intro priority waking
            obtain ⟨index, rfl⟩ := exists_index waking
            rw [events_ofIndex]
            exact empty index
          · -- The first event of a queue may be due at the last point of time.
            simp only [not_forall] at empty
            obtain ⟨index, nonempty⟩ := empty
            obtain ⟨first, rest, list⟩ := List.exists_cons_of_ne_nil nonempty
            have front : (queue.subEventQueues.get index).queue.head? =
                some first := by rw [list]; rfl
            have least := earliest index (List.mem_finRange index) first front
            refine .inl ⟨.ofIndex index, first, ofIndex_ne_idle index, ?_, ?_⟩
            · rw [events_ofIndex, front]
            · rw [atLast] at least ⊢
              exact Int64.le_antisymm least (Int64.le_maxValue _)
        · refine .inl ⟨.ofIndex index, first, ofIndex_ne_idle index, ?_,
            attained⟩
          rw [events_ofIndex]
          exact front
  · next index found =>
      have lists (place : Fin subEventQueueNum) :
          ((pickLoop now (List.finRange subEventQueueNum)
            { subEventQueues := queue.subEventQueues
              nextWakeUpTime := TimePoint.max }).subEventQueues.get place).queue =
            (queue.subEventQueues.get place).queue :=
        pickLoop_queue now _ _ place
      rcases pickLoop_priorityIndex found with impossible | ⟨taken, rest, list, due⟩
      · cases impossible
      · change (queue.subEventQueues.get index).queue = taken :: rest at list
        cases picked
        refine .inr ⟨taken, .ofIndex index, ?_, ofIndex_ne_idle index, ?_, due, ?_⟩
        · rw [lists, list]
          rfl
        · rw [events_ofIndex, events_ofIndex, takeFrom_queue, if_pos rfl, lists,
            list]
          rfl
        · intro other apart
          by_cases waking : other = .idle
          · subst waking
            rfl
          · obtain ⟨place, rfl⟩ := exists_index waking
            rw [events_ofIndex, events_ofIndex, takeFrom_queue, if_neg, lists]
            rintro rfl
            exact apart rfl

/-- What a call for an expired event takes is due and is the first of its
priority.  A call that takes nothing knows the time of the next event, and that
is when the thread will be woken up. -/
theorem getExpiredEventLocked_spec {nextExpiredTime time : TimePoint}
    (taken : queue.getExpiredEventLocked now nextExpiredTime =
      (event, time, after)) :
    (event = none ∧ (∀ priority, after.events priority = queue.events priority) ∧
      time = after.wakeUpTime ∧ after.IsNextHandleTime after.wakeUpTime) ∨
      ∃ first priority, event = some first ∧
        TakesFrom queue after priority first now := by
  unfold getExpiredEventLocked at taken
  rcases picked : queue.pickEventLocked now TimePoint.max with
    ⟨found, wakeUpTime, rest⟩
  simp only [picked] at taken
  rcases pickEventLocked_spec picked with
    ⟨rfl, rfl, next⟩ | ⟨first, priority, rfl, -, takes⟩
  · simp only at taken
    -- Entering the idle mode changes no event and not the time to wake up.
    generalize entered : (if rest.isIdle = true then
      { rest with wakeUpTime := wakeUpTime } else _) = idling at taken
    have sameEvents : ∀ priority, idling.events priority = rest.events priority := by
      intro priority
      rw [← entered]
      split <;> cases priority <;> rfl
    have sameTime : idling.wakeUpTime = wakeUpTime := by
      rw [← entered]
      split <;> rfl
    have nothing
        (none : (none, idling.wakeUpTime, idling) = (event, time, after)) :
        event = Option.none ∧
          (∀ priority, after.events priority = rest.events priority) ∧
          time = after.wakeUpTime ∧ after.IsNextHandleTime after.wakeUpTime := by
      cases none
      refine ⟨rfl, sameEvents, rfl, ?_⟩
      unfold IsNextHandleTime
      simp only [sameEvents, sameTime]
      exact next
    split at taken
    · next idleEvent others list =>
        split at taken
        · next due =>
            cases taken
            refine .inr ⟨idleEvent, .idle, rfl, ?_, due.2, ?_⟩
            · rw [← sameEvents]
              exact list
            · intro other waking
              rw [← sameEvents]
              cases other <;> first | rfl | exact absurd rfl waking
        · exact .inl (nothing taken)
    · exact .inl (nothing taken)
  · cases taken
    exact .inr ⟨first, priority, rfl, takes⟩

theorem getExpiredEventLocked_finished {nextExpiredTime time : TimePoint}
    (taken : queue.getExpiredEventLocked now nextExpiredTime =
      (event, time, after)) : after.finished = queue.finished := by
  unfold getExpiredEventLocked pickEventLocked at taken
  grind

end Specifications

end EventQueue

end AppExecFwk
