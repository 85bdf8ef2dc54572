import AppExecFwk.EventHandler.EventQueue

/-!
# The order of events

Over any sequence of calls an event queue returns each event at most once, not
before its time and not after it was removed, loses no event, and returns the
events of one priority in the order of their times.  A log of the calls tells
what happened, and which events are still pending follows from the log alone.
-/

namespace AppExecFwk

open EventQueue

/-- A call that removes events. -/
inductive Removal where
  | orphans (alive : HandlerId → Bool)
  | ofOwner (alive : HandlerId → Bool) (owner : Option HandlerId)
  | ofId (alive : HandlerId → Bool) (owner : Option HandlerId)
      (innerEventId : UInt32)
  | ofIdParam (alive : HandlerId → Bool) (owner : Option HandlerId)
      (innerEventId : UInt32) (param : Int64)
  | ofName (alive : HandlerId → Bool) (owner : Option HandlerId) (name : String)

namespace Removal

/-- Make the call. -/
def apply : Removal → EventQueue → EventQueue
  | orphans alive, queue => queue.removeOrphan alive
  | ofOwner alive owner, queue => queue.removeOwner alive owner
  | ofId alive owner innerEventId, queue => queue.removeId alive owner innerEventId
  | ofIdParam alive owner innerEventId param, queue =>
      queue.removeIdParam alive owner innerEventId param
  | ofName alive owner name, queue => queue.removeName alive owner name

/-- Whether an event is among those the call is about. -/
def isMatch : Removal → InnerEvent → Bool
  | orphans alive, event => (event.getOwner alive).isNone
  | ofOwner alive owner, event => owner.isSome && event.getOwner alive = owner
  | ofId alive owner innerEventId, event =>
      owner.isSome && !event.hasTask && event.getOwner alive = owner &&
        event.innerEventId = innerEventId
  | ofIdParam alive owner innerEventId param, event =>
      owner.isSome && !event.hasTask && event.getOwner alive = owner &&
        event.innerEventId = innerEventId && event.param = param
  | ofName alive owner name, event =>
      owner.isSome && name ≠ "" && event.hasTask &&
        event.getOwner alive = owner && event.taskName = name

/-- A filter that accepts nothing changes nothing. -/
theorem remove_of_no_match {filter : InnerEvent → Bool} (queue : EventQueue)
    (noMatch : ∀ event, filter event = false) : queue.remove filter = queue := by
  have kept (events : List QueuedEvent) :
      (events.filter fun event => !filter event.toInnerEvent) = events := by
    apply List.filter_eq_self.mpr
    intro event _
    rw [noMatch]
    rfl
  unfold EventQueue.remove
  simp only [kept]
  rw [Vector.map_id']

/-- A call removes the events it is about, and no other. -/
theorem apply_eq_remove (removal : Removal) (queue : EventQueue) :
    removal.apply queue = queue.remove removal.isMatch := by
  cases removal with
  | orphans alive => rfl
  | ofOwner alive owner =>
      cases owner with
      | none => exact (remove_of_no_match queue fun _ => rfl).symm
      | some owner => rfl
  | ofId alive owner innerEventId =>
      cases owner with
      | none => exact (remove_of_no_match queue fun _ => rfl).symm
      | some owner => rfl
  | ofIdParam alive owner innerEventId param =>
      cases owner with
      | none => exact (remove_of_no_match queue fun _ => rfl).symm
      | some owner => rfl
  | ofName alive owner name =>
      by_cases unnamed : name = ""
      · rw [remove_of_no_match queue]
        · simp [apply, removeName, unnamed]
        · simp [isMatch, unnamed]
      · cases owner with
        | none => exact (remove_of_no_match queue fun _ => rfl).symm
        | some owner =>
            simp only [apply, removeName, unnamed, Option.isNone_some,
              decide_false, Bool.or_self, Bool.false_eq_true, ↓reduceIte]
            congr 1
            funext event
            simp [isMatch, unnamed]

end Removal

/-- A call of the queue. -/
inductive QueueCall where
  | insert (event : Option InnerEvent) (priority : Priority)
  | remove (removal : Removal)
  | getExpiredEvent (now nextExpiredTime : TimePoint)

/-- What a call did. -/
inductive QueueStep where
  | inserted (event : QueuedEvent) (priority : Priority)
  | removed (removal : Removal)
  | returned (event : QueuedEvent) (now : TimePoint)

/-- A queue in use: how many events have arrived, and what happened so far, the
latest first. -/
structure QueueRun where
  queue : EventQueue
  arrivals : Nat := 0
  log : List QueueStep := []

namespace QueueRun

/-- Make one call. -/
def call (run : QueueRun) : QueueCall → QueueRun
  | .insert none priority =>
      { run with queue := (run.queue.insert none priority).2 }
  | .insert (some event) priority =>
      let event : QueuedEvent := { event with arrival := run.arrivals }
      { queue := (run.queue.insert (some event) priority).2
        arrivals := run.arrivals + 1
        log := .inserted event priority :: run.log }
  | .remove removal =>
      { run with
        queue := removal.apply run.queue
        log := .removed removal :: run.log }
  | .getExpiredEvent now nextExpiredTime =>
      match run.queue.getExpiredEventLocked now nextExpiredTime with
      | (some event, _, queue) =>
          { run with queue := queue, log := .returned event now :: run.log }
      | (none, _, queue) => { run with queue := queue }

/-- Make calls in order. -/
def calls (run : QueueRun) (calls : List QueueCall) : QueueRun :=
  calls.foldl call run

/-- A new queue. -/
def start (idleTimeStamp : TimePoint) : QueueRun where
  queue := { idleTimeStamp := idleTimeStamp }

end QueueRun

/-- Steps happened in this order, possibly with others in between. -/
def Happened (log : List QueueStep) (steps : List QueueStep) : Prop :=
  steps.reverse.Sublist log

theorem happened_pair_cons {log : List QueueStep} {last first second : QueueStep} :
    Happened (last :: log) [first, second] ↔
      Happened log [first, second] ∨ second = last ∧ first ∈ log := by
  simp [Happened, List.sublist_cons_iff]

theorem happened_triple_cons {log : List QueueStep}
    {last first second third : QueueStep} :
    Happened (last :: log) [first, second, third] ↔
      Happened log [first, second, third] ∨
        third = last ∧ Happened log [first, second] := by
  simp [Happened, List.sublist_cons_iff]

theorem Happened.mem {log steps : List QueueStep} {step : QueueStep}
    (happened : Happened log steps) (member : step ∈ steps) : step ∈ log :=
  happened.subset (List.mem_reverse.mpr member)

/-- Of two steps one happened before the other. -/
theorem happened_or_happened {log : List QueueStep} {first second : QueueStep}
    (firstMember : first ∈ log) (secondMember : second ∈ log)
    (apart : first ≠ second) :
    Happened log [first, second] ∨ Happened log [second, first] := by
  induction log with
  | nil => cases firstMember
  | cons last log ih =>
      rw [happened_pair_cons, happened_pair_cons]
      rcases List.mem_cons.mp firstMember with rfl | firstBefore
      · rcases List.mem_cons.mp secondMember with rfl | secondBefore
        · exact absurd rfl apart
        · exact .inr (.inr ⟨rfl, secondBefore⟩)
      · rcases List.mem_cons.mp secondMember with rfl | secondBefore
        · exact .inl (.inr ⟨rfl, firstBefore⟩)
        · rcases ih firstBefore secondBefore with happened | happened
          · exact .inl (.inl happened)
          · exact .inr (.inl happened)

/-- An event is to come out before another one: it is handled earlier, or at the
same time and arrived earlier. -/
def Precedes (event other : QueuedEvent) : Prop :=
  event.handleTime < other.handleTime ∨
    event.handleTime = other.handleTime ∧ event.arrival < other.arrival

/-- An event was inserted and has since been neither returned nor removed. -/
structure IsPending (log : List QueueStep) (event : QueuedEvent)
    (priority : Priority) : Prop where
  inserted : .inserted event priority ∈ log
  notReturned : ∀ now, .returned event now ∉ log
  notRemoved : ∀ removal,
    Happened log [.inserted event priority, .removed removal] →
      removal.isMatch event.toInnerEvent = false

/-- What a log says about the order of events. -/
structure InOrder (log : List QueueStep) : Prop where
  /-- The numbers of the events are their order of arrival. -/
  numbered : ∀ event priority other otherPriority,
    Happened log [.inserted event priority, .inserted other otherPriority] →
      event.arrival < other.arrival
  known : ∀ event now, .returned event now ∈ log →
    ∃ priority, Happened log [.inserted event priority, .returned event now]
  once : ∀ event now later,
    ¬Happened log [.returned event now, .returned event later]
  notEarly : ∀ event now, .returned event now ∈ log → event.handleTime ≤ now
  notRemoved : ∀ event priority removal now,
    Happened log [.inserted event priority, .removed removal,
      .returned event now] → removal.isMatch event.toInnerEvent = false
  sorted : ∀ event other priority now later,
    .inserted event priority ∈ log →
    Happened log [.inserted other priority, .returned event now,
      .returned other later] → Precedes event other

/-- The pending events are in the queue, each with those of its priority and in
the order in which they are to come out. -/
structure QueueRun.IsFaithful (run : QueueRun) : Prop where
  inOrder : InOrder run.log
  arrived : ∀ event priority, .inserted event priority ∈ run.log →
    event.arrival < run.arrivals
  pending : ∀ event priority, event ∈ run.queue.events priority ↔
    IsPending run.log event priority
  ordered : ∀ priority, (run.queue.events priority).Pairwise Precedes
  overtaken : ∀ event other priority now, .inserted event priority ∈ run.log →
    Happened run.log [.inserted other priority, .returned event now] →
    IsPending run.log other priority → Precedes event other

theorem Precedes.trans {first second third : QueuedEvent}
    (early : Precedes first second) (late : Precedes second third) :
    Precedes first third := by
  unfold Precedes at *
  grind

/-- A new event goes behind all events that are to come out before it. -/
theorem pairwise_insertEventsLocked {events : List QueuedEvent}
    {event : QueuedEvent} (ordered : events.Pairwise Precedes)
    (last : ∀ other ∈ events, other.arrival < event.arrival) :
    (insertEventsLocked events event).Pairwise Precedes := by
  apply StableList.pairwise_insert ordered
  · intro other _ earlier
    exact .inl (by simpa using earlier)
  · intro other member later
    have arrivedBefore := last other member
    unfold Precedes
    grind
  · intro first _ other _ earlier precedes
    unfold Precedes at precedes
    grind

section Logs

variable {log : List QueueStep} {event other : QueuedEvent}
  {priority otherPriority : Priority} {removal : Removal} {now : TimePoint}

theorem isPending_inserted
    (fresh : ∀ priority, .inserted event priority ∉ log)
    (known : ∀ now, .returned event now ∉ log) :
    IsPending (.inserted event priority :: log) other otherPriority ↔
      IsPending log other otherPriority ∨
        other = event ∧ otherPriority = priority := by
  constructor
  · rintro ⟨inserted, notReturned, notRemoved⟩
    simp only [List.mem_cons, happened_pair_cons] at *
    grind [IsPending]
  · rintro (⟨inserted, notReturned, notRemoved⟩ | ⟨rfl, rfl⟩)
    · constructor
      · grind
      · grind
      · simp only [happened_pair_cons]
        grind
    · constructor
      · grind
      · grind
      · intro removal happened
        rw [happened_pair_cons] at happened
        rcases happened with before | ⟨impossible, -⟩
        · exact absurd (before.mem List.mem_cons_self) (fresh otherPriority)
        · cases impossible

theorem isPending_removed :
    IsPending (.removed removal :: log) event priority ↔
      IsPending log event priority ∧
        removal.isMatch event.toInnerEvent = false := by
  constructor
  · rintro ⟨inserted, notReturned, notRemoved⟩
    simp only [List.mem_cons, happened_pair_cons] at *
    grind [IsPending]
  · rintro ⟨⟨inserted, notReturned, notRemoved⟩, unmatched⟩
    constructor
    · grind
    · grind
    · simp only [happened_pair_cons]
      grind

theorem isPending_returned :
    IsPending (.returned event now :: log) other priority ↔
      IsPending log other priority ∧ other ≠ event := by
  constructor
  · rintro ⟨inserted, notReturned, notRemoved⟩
    simp only [List.mem_cons, happened_pair_cons] at *
    refine ⟨⟨by grind, by grind, by grind⟩, ?_⟩
    rintro rfl
    exact notReturned now (.inl rfl)
  · rintro ⟨⟨inserted, notReturned, notRemoved⟩, apart⟩
    constructor
    · grind
    · grind
    · simp only [happened_pair_cons]
      grind

/-- An arrival is the last one so far. -/
theorem InOrder.inserted (inOrder : InOrder log)
    (fresh : ∀ other otherPriority, .inserted other otherPriority ∈ log →
      other.arrival < event.arrival) :
    InOrder (.inserted event priority :: log) := by
  constructor
  case numbered =>
    intro first firstPriority second secondPriority happened
    rcases happened_pair_cons.mp happened with before | ⟨same, member⟩
    · exact inOrder.numbered _ _ _ _ before
    · cases same
      exact fresh first firstPriority member
  case known =>
    intro first time member
    obtain ⟨place, before⟩ := inOrder.known first time (by simpa using member)
    exact ⟨place, happened_pair_cons.mpr (.inl before)⟩
  case once =>
    intro first time later happened
    rcases happened_pair_cons.mp happened with before | ⟨same, -⟩
    · exact inOrder.once _ _ _ before
    · cases same
  case notEarly =>
    intro first time member
    exact inOrder.notEarly first time (by simpa using member)
  case notRemoved =>
    intro first place removal time happened
    rcases happened_triple_cons.mp happened with before | ⟨same, -⟩
    · exact inOrder.notRemoved _ _ _ _ before
    · cases same
  case sorted =>
    intro first second place time later member happened
    rcases happened_triple_cons.mp happened with before | ⟨same, -⟩
    · rcases List.mem_cons.mp member with same | inLog
      · -- An event that was returned has arrived before.
        cases same
        obtain ⟨other, known⟩ := inOrder.known event time (before.mem (by simp))
        have := fresh event other (known.mem (by simp))
        omega
      · exact inOrder.sorted _ _ _ _ _ inLog before
    · cases same

theorem InOrder.removed (inOrder : InOrder log) :
    InOrder (.removed removal :: log) := by
  constructor
  case numbered =>
    intro first firstPriority second secondPriority happened
    rcases happened_pair_cons.mp happened with before | ⟨same, -⟩
    · exact inOrder.numbered _ _ _ _ before
    · cases same
  case known =>
    intro first time member
    obtain ⟨place, before⟩ := inOrder.known first time (by simpa using member)
    exact ⟨place, happened_pair_cons.mpr (.inl before)⟩
  case once =>
    intro first time later happened
    rcases happened_pair_cons.mp happened with before | ⟨same, -⟩
    · exact inOrder.once _ _ _ before
    · cases same
  case notEarly =>
    intro first time member
    exact inOrder.notEarly first time (by simpa using member)
  case notRemoved =>
    intro first place other time happened
    rcases happened_triple_cons.mp happened with before | ⟨same, -⟩
    · exact inOrder.notRemoved _ _ _ _ before
    · cases same
  case sorted =>
    intro first second place time later member happened
    rcases happened_triple_cons.mp happened with before | ⟨same, -⟩
    · exact inOrder.sorted _ _ _ _ _ (by simpa using member) before
    · cases same

/-- Events that arrived with the same number are one event, with one priority. -/
theorem InOrder.arrival_unique (inOrder : InOrder log)
    (first : .inserted event priority ∈ log)
    (second : .inserted other otherPriority ∈ log)
    (same : event.arrival = other.arrival) :
    event = other ∧ priority = otherPriority := by
  by_contra apart
  have different : QueueStep.inserted event priority ≠
      .inserted other otherPriority := by
    intro equal
    cases equal
    exact apart ⟨rfl, rfl⟩
  rcases happened_or_happened first second different with happened | happened
  · exact absurd same (Nat.ne_of_lt (inOrder.numbered _ _ _ _ happened))
  · exact absurd same.symm (Nat.ne_of_lt (inOrder.numbered _ _ _ _ happened))

/-- Every event arrives once, with one priority. -/
theorem InOrder.priority_unique (inOrder : InOrder log)
    (first : .inserted event priority ∈ log)
    (second : .inserted event otherPriority ∈ log) :
    priority = otherPriority :=
  (inOrder.arrival_unique first second rfl).2

/-- A pending event may be returned when it is due and every event that has to
come out before it has done so. -/
theorem InOrder.returned (inOrder : InOrder log)
    (pending : IsPending log event priority) (due : event.handleTime ≤ now)
    (overtaken : ∀ first time, .inserted first priority ∈ log →
      Happened log [.inserted event priority, .returned first time] →
        Precedes first event) :
    InOrder (.returned event now :: log) := by
  constructor
  case numbered =>
    intro first firstPriority second secondPriority happened
    rcases happened_pair_cons.mp happened with before | ⟨same, -⟩
    · exact inOrder.numbered _ _ _ _ before
    · cases same
  case known =>
    intro first time member
    rcases List.mem_cons.mp member with same | inLog
    · cases same
      exact ⟨priority, happened_pair_cons.mpr (.inr ⟨rfl, pending.inserted⟩)⟩
    · obtain ⟨place, before⟩ := inOrder.known first time inLog
      exact ⟨place, happened_pair_cons.mpr (.inl before)⟩
  case once =>
    intro first time later happened
    rcases happened_pair_cons.mp happened with before | ⟨same, member⟩
    · exact inOrder.once _ _ _ before
    · cases same
      exact pending.notReturned time member
  case notEarly =>
    intro first time member
    rcases List.mem_cons.mp member with same | inLog
    · cases same
      exact due
    · exact inOrder.notEarly first time inLog
  case notRemoved =>
    intro first place removal time happened
    rcases happened_triple_cons.mp happened with before | ⟨same, removed⟩
    · exact inOrder.notRemoved _ _ _ _ before
    · cases same
      obtain rfl := inOrder.priority_unique pending.inserted
        (removed.mem List.mem_cons_self)
      exact pending.notRemoved removal removed
  case sorted =>
    intro first second place time later member happened
    have inLog : .inserted first place ∈ log := by simpa using member
    rcases happened_triple_cons.mp happened with before | ⟨same, returned⟩
    · exact inOrder.sorted _ _ _ _ _ inLog before
    · cases same
      obtain rfl := inOrder.priority_unique pending.inserted
        (returned.mem List.mem_cons_self)
      exact overtaken first time inLog returned

end Logs

namespace QueueRun

variable {run : QueueRun}

theorem IsFaithful.insert (faithful : run.IsFaithful) (event : InnerEvent)
    (priority : Priority) :
    (run.call (.insert (some event) priority)).IsFaithful := by
  -- No event in the log has the number of the new one.
  have fresh : ∀ place, .inserted ⟨event, run.arrivals⟩ place ∉ run.log := by
    intro place member
    exact Nat.lt_irrefl _ (faithful.arrived _ _ member)
  have unreturned : ∀ now, .returned ⟨event, run.arrivals⟩ now ∉ run.log := by
    intro now member
    obtain ⟨place, known⟩ := faithful.inOrder.known _ _ member
    exact fresh place (known.mem List.mem_cons_self)
  constructor
  case inOrder => exact faithful.inOrder.inserted faithful.arrived
  case arrived =>
    intro other place member
    rcases List.mem_cons.mp member with same | before
    · cases same
      exact Nat.lt_succ_self _
    · exact Nat.lt_succ_of_lt (faithful.arrived other place before)
  case pending =>
    intro other place
    simp only [call, insert_events, isPending_inserted fresh unreturned,
      ← faithful.pending]
    by_cases same : place = priority
    · subst same
      rw [if_pos rfl, insertEventsLocked, StableList.mem_insert]
      simp [or_comm]
    · rw [if_neg same]
      simp [same]
  case ordered =>
    intro place
    simp only [call, insert_events]
    split
    · apply pairwise_insertEventsLocked (faithful.ordered priority)
      intro other member
      exact faithful.arrived other priority
        ((faithful.pending _ _).mp member).inserted
    · exact faithful.ordered place
  case overtaken =>
    intro first second place now member happened pending
    rcases happened_pair_cons.mp happened with before | ⟨impossible, -⟩
    · have secondBefore := before.mem List.mem_cons_self
      have firstReturned : .returned first now ∈ run.log :=
        before.mem (by simp)
      rcases (isPending_inserted fresh unreturned).mp pending with
        stillPending | ⟨rfl, -⟩
      · rcases List.mem_cons.mp member with same | firstBefore
        · cases same
          exact absurd firstReturned (unreturned now)
        · exact faithful.overtaken _ _ _ _ firstBefore before stillPending
      · exact absurd secondBefore (fresh place)
    · cases impossible

theorem IsFaithful.remove (faithful : run.IsFaithful) (removal : Removal) :
    (run.call (.remove removal)).IsFaithful := by
  constructor
  case inOrder => exact faithful.inOrder.removed
  case arrived =>
    intro event priority member
    exact faithful.arrived event priority (by simpa [call] using member)
  case pending =>
    intro event priority
    simp only [call, removal.apply_eq_remove, remove_events, isPending_removed,
      ← faithful.pending, List.mem_filter, Bool.not_eq_eq_eq_not, Bool.not_true]
  case ordered =>
    intro priority
    simp only [call, removal.apply_eq_remove, remove_events]
    exact (faithful.ordered priority).filter _
  case overtaken =>
    intro event other priority now member happened pending
    rcases happened_pair_cons.mp happened with before | ⟨impossible, -⟩
    · exact faithful.overtaken event other priority now
        (by simpa [call] using member) before (isPending_removed.mp pending).1
    · cases impossible

theorem IsFaithful.getExpiredEvent (faithful : run.IsFaithful)
    (now nextExpiredTime : TimePoint) :
    (run.call (.getExpiredEvent now nextExpiredTime)).IsFaithful := by
  rcases taken : run.queue.getExpiredEventLocked now nextExpiredTime with
    ⟨event, time, queue⟩
  simp only [call, taken]
  rcases getExpiredEventLocked_spec taken with
    ⟨rfl, same, -⟩ | ⟨first, priority, rfl, front, due, others⟩
  · refine { faithful with pending := ?_, ordered := ?_ }
    · simp only [same]
      exact faithful.pending
    · simp only [same]
      exact faithful.ordered
  · have sorted := faithful.ordered priority
    rw [front, List.pairwise_cons] at sorted
    have pending : IsPending run.log first priority := by
      rw [← faithful.pending, front]
      exact List.mem_cons_self
    constructor
    case inOrder =>
      refine faithful.inOrder.returned pending due ?_
      intro other time member happened
      exact faithful.overtaken _ _ _ _ member happened pending
    case arrived =>
      intro event place member
      exact faithful.arrived event place (by simpa using member)
    case pending =>
      intro event place
      simp only [isPending_returned, ← faithful.pending]
      by_cases samePlace : place = priority
      · subst samePlace
        rw [front]
        constructor
        · intro member
          refine ⟨List.mem_cons_of_mem _ member, ?_⟩
          rintro rfl
          have := sorted.1 event member
          unfold Precedes at this
          grind
        · rintro ⟨member, apart⟩
          exact (List.mem_cons.mp member).resolve_left apart
      · rw [others place samePlace]
        refine ⟨fun member => ⟨member, ?_⟩, And.left⟩
        rintro rfl
        exact samePlace (faithful.inOrder.priority_unique
          ((faithful.pending _ _).mp member).inserted pending.inserted)
    case ordered =>
      intro place
      by_cases samePlace : place = priority
      · subst samePlace
        exact sorted.2
      · rw [others place samePlace]
        exact faithful.ordered place
    case overtaken =>
      intro event other place time member happened stillPending
      obtain ⟨otherPending, apart⟩ := isPending_returned.mp stillPending
      rcases happened_pair_cons.mp happened with before | ⟨same, -⟩
      · exact faithful.overtaken event other place time
          (by simpa using member) before otherPending
      · -- The event in front comes out before the others of its priority.
        cases same
        have inLog : .inserted first place ∈ run.log := by simpa using member
        obtain rfl := faithful.inOrder.priority_unique pending.inserted inLog
        have inQueue := (faithful.pending _ _).mpr otherPending
        rw [front] at inQueue
        exact sorted.1 other ((List.mem_cons.mp inQueue).resolve_left apart)

theorem isFaithful_start (idleTimeStamp : TimePoint) :
    (start idleTimeStamp).IsFaithful := by
  have empty : ∀ priority, (start idleTimeStamp).queue.events priority = [] := by
    intro priority
    cases priority <;> rfl
  constructor
  case inOrder => constructor <;> simp [start, Happened]
  case arrived => simp [start]
  case pending =>
    intro event priority
    rw [empty]
    refine ⟨nofun, fun pending => ?_⟩
    cases pending.inserted
  case ordered =>
    intro priority
    rw [empty]
    exact .nil
  case overtaken => simp [start]

theorem IsFaithful.call (faithful : run.IsFaithful) (call : QueueCall) :
    (run.call call).IsFaithful := by
  cases call with
  | insert event priority =>
      cases event with
      | none => exact faithful
      | some event => exact faithful.insert event priority
  | remove removal => exact faithful.remove removal
  | getExpiredEvent now nextExpiredTime =>
      exact faithful.getExpiredEvent now nextExpiredTime

theorem IsFaithful.calls (faithful : run.IsFaithful) (calls : List QueueCall) :
    (run.calls calls).IsFaithful := by
  induction calls generalizing run with
  | nil => exact faithful
  | cons call rest ih => exact ih (faithful.call call)

end QueueRun

/-- Whatever calls are made of a new queue, every event comes out at most once,
when it is due and not removed and in the order of its priority, and an event
that was inserted has been returned or removed or is still in the queue. -/
theorem events_inOrder (idleTimeStamp : TimePoint) (calls : List QueueCall) :
    let run := (QueueRun.start idleTimeStamp).calls calls
    InOrder run.log ∧
      ∀ event priority, .inserted event priority ∈ run.log →
        (∃ now, .returned event now ∈ run.log) ∨
        (∃ removal, Happened run.log
            [.inserted event priority, .removed removal] ∧
          removal.isMatch event.toInnerEvent = true) ∨
        event ∈ run.queue.events priority := by
  have faithful := (QueueRun.isFaithful_start idleTimeStamp).calls calls
  refine ⟨faithful.inOrder, fun event priority inserted => ?_⟩
  by_contra lost
  simp only [not_or, not_exists, not_and, Bool.not_eq_true] at lost
  obtain ⟨notReturned, notRemoved, absent⟩ := lost
  exact absent ((faithful.pending event priority).mpr
    ⟨inserted, notReturned, notRemoved⟩)

end AppExecFwk
