import Mathlib.Algebra.Group.Nat.Defs
import Mathlib.Order.WellFounded
import AppExecFwk.EventHandler.EventOrder

/-!
# Fairness

A queue of a higher priority is served first until it has had its share of
events in a row; then the first event of a lower priority gets its turn if it is
the earlier one.  So an event that is due is not put off for ever by events that
are sent later: the counters of the queues bound how many of them come before it.
The last point of time means that there is no event, and an event for that time
is never due.
-/

namespace AppExecFwk

namespace SubEventQueue

/-- The first event of a queue is handled by a point of time. -/
def HeadBy (sub : SubEventQueue) (time : TimePoint) : Prop :=
  ∃ event rest, sub.queue = event :: rest ∧ event.handleTime ≤ time

/-- The first event of a queue is handled before that of another one. -/
def Earlier (sub other : SubEventQueue) : Prop :=
  ∃ event rest, sub.queue = event :: rest ∧
    ∀ head ∈ other.queue.head?, event.handleTime < head.handleTime

end SubEventQueue

namespace EventQueue

open SubEventQueue

section Search

variable {now time : TimePoint} {first index : Fin subEventQueueNum}
  {indices : List (Fin subEventQueueNum)} {state : PickState}

/-- What the search does with one queue: it passes it by, turns to it, or stays
with the queue found before, which counts one more event.  Only then does the
search end. -/
inductive PickStep (now : TimePoint) (first : Fin subEventQueueNum)
    (state : PickState) : Bool → PickState → Prop
  | pass (nextWakeUpTime : TimePoint)
      (nextTime : nextWakeUpTime = state.nextWakeUpTime ∨ now < nextWakeUpTime)
      (le : nextWakeUpTime ≤ state.nextWakeUpTime)
      (least : ∀ head rest, (state.subEventQueues.get first).queue = head :: rest →
        nextWakeUpTime ≤ head.handleTime ∧
          (head.handleTime < state.nextWakeUpTime → now < head.handleTime)) :
      PickStep now first state true
        { state with nextWakeUpTime := nextWakeUpTime }
  | turn (event : QueuedEvent) (rest : List QueuedEvent)
      (list : (state.subEventQueues.get first).queue = event :: rest)
      (earlier : event.handleTime < state.nextWakeUpTime)
      (due : event.handleTime ≤ now)
      (served : ∀ higher, state.priorityIndex = some higher →
        ¬HasShare state.subEventQueues higher) :
      PickStep now first state true { state with
        nextWakeUpTime := event.handleTime, priorityIndex := some first }
  | stay (event : QueuedEvent) (rest : List QueuedEvent)
      (higher : Fin subEventQueueNum)
      (list : (state.subEventQueues.get first).queue = event :: rest)
      (earlier : event.handleTime < state.nextWakeUpTime)
      (due : event.handleTime ≤ now)
      (found : state.priorityIndex = some higher)
      (share : HasShare state.subEventQueues higher) :
      PickStep now first state false { state with
        nextWakeUpTime := event.handleTime
        subEventQueues := countEvent state.subEventQueues higher }

theorem pickLoop_cons (now : TimePoint) (first : Fin subEventQueueNum)
    (indices : List (Fin subEventQueueNum)) (state : PickState) :
    ∃ goesOn next, PickStep now first state goesOn next ∧
      pickLoop now (first :: indices) state =
        if goesOn then pickLoop now indices next else next := by
  cases list : (state.subEventQueues.get first).queue with
  | nil =>
      have checked : checkEventInListLocked (state.subEventQueues.get first).queue now
          state.nextWakeUpTime = (false, state.nextWakeUpTime) := by
        rw [list]
        rfl
      refine ⟨true, _, .pass state.nextWakeUpTime (.inl rfl) (Int64.le_refl _) ?_, ?_⟩
      · intro head rest nonempty
        rw [list] at nonempty
        cases nonempty
      · simp only [pickLoop, checked, if_true]
  | cons event rest =>
      by_cases earlier : event.handleTime < state.nextWakeUpTime
      · have checked : checkEventInListLocked (state.subEventQueues.get first).queue now
            state.nextWakeUpTime =
              (decide (event.handleTime ≤ now), event.handleTime) := by
          rw [list]
          exact if_pos earlier
        by_cases due : event.handleTime ≤ now
        · simp only [due, decide_true] at checked
          cases found : state.priorityIndex with
          | none =>
              refine ⟨true, _, .turn event rest list earlier due (by simp [found]), ?_⟩
              simp only [pickLoop, checked, found, if_true]
          | some higher =>
              by_cases share : HasShare state.subEventQueues higher
              · refine ⟨false, _, .stay event rest higher list earlier due found share,
                  ?_⟩
                unfold HasShare at share
                simp only [pickLoop, checked, found, share, if_true, countEvent]
                rfl
              · refine ⟨true, _, .turn event rest list earlier due ?_, ?_⟩
                · rintro other same
                  rw [found] at same
                  cases same
                  exact share
                · unfold HasShare at share
                  simp only [pickLoop, checked, found, share, if_false, if_true]
        · simp only [due, decide_false] at checked
          refine ⟨true, _, .pass event.handleTime (.inr (Int64.not_le.mp due))
            (Int64.le_of_lt earlier) ?_, ?_⟩
          · intro head others same
            rw [list] at same
            cases same
            exact ⟨Int64.le_refl _, fun _ => Int64.not_le.mp due⟩
          · simp only [pickLoop, checked, if_true]
      · have checked : checkEventInListLocked (state.subEventQueues.get first).queue now
            state.nextWakeUpTime = (false, state.nextWakeUpTime) := by
          rw [list]
          exact if_neg earlier
        refine ⟨true, _, .pass state.nextWakeUpTime (.inl rfl) (Int64.le_refl _) ?_,
          ?_⟩
        · intro head others same
          rw [list] at same
          cases same
          exact ⟨Int64.not_lt.mp earlier, fun before => absurd before earlier⟩
        · simp only [pickLoop, checked, if_true]

/-- Once an early event is found, an early event is picked. -/
theorem pickLoop_keeps {higher : Fin subEventQueueNum}
    (found : state.priorityIndex = some higher)
    (early : (state.subEventQueues.get higher).HeadBy time)
    (next : state.nextWakeUpTime ≤ time) :
    ∃ index, (pickLoop now indices state).priorityIndex = some index ∧
      (state.subEventQueues.get index).HeadBy time := by
  induction indices generalizing state higher with
  | nil => exact ⟨higher, found, early⟩
  | cons first rest ih =>
      obtain ⟨goesOn, after, step, loop⟩ := pickLoop_cons now first rest state
      rw [loop]
      cases step with
      | pass wakeUpTime nextTime le least =>
          exact ih found early (Int64.le_trans le next)
      | turn event others list earlier due served =>
          have before := Int64.le_of_lt (Int64.lt_of_lt_of_le earlier next)
          exact ih rfl ⟨event, others, list, before⟩ before
      | stay event others found' list earlier due same share =>
          exact ⟨higher, found, early⟩

/-- A search that comes to an early event picks an early one, or one of a
higher priority that has not yet had its share. -/
theorem pickLoop_reaches (future : time ≤ now)
    (next : time < state.nextWakeUpTime)
    (above : ∀ higher, state.priorityIndex = some higher →
      ∀ index ∈ indices, higher < index)
    (sorted : indices.Pairwise (· < ·))
    (early : ∃ index ∈ indices, (state.subEventQueues.get index).HeadBy time) :
    ∃ index, (pickLoop now indices state).priorityIndex = some index ∧
      ((state.subEventQueues.get index).HeadBy time ∨
        (∃ lower, index < lower) ∧ HasShare state.subEventQueues index ∧
          (pickLoop now indices state).subEventQueues =
            countEvent state.subEventQueues index) := by
  induction indices generalizing state with
  | nil =>
      obtain ⟨index, impossible, -⟩ := early
      cases impossible
  | cons first rest ih =>
      rw [List.pairwise_cons] at sorted
      obtain ⟨goesOn, after, step, loop⟩ := pickLoop_cons now first rest state
      rw [loop]
      -- An early event is not passed by.
      have inRest (passed : ¬(state.subEventQueues.get first).HeadBy time) :
          ∃ index ∈ rest, (state.subEventQueues.get index).HeadBy time := by
        obtain ⟨index, member, head⟩ := early
        rcases List.mem_cons.mp member with rfl | inRest
        · exact absurd head passed
        · exact ⟨index, inRest, head⟩
      cases step with
      | pass wakeUpTime nextTime le least =>
          have passed : ¬(state.subEventQueues.get first).HeadBy time := by
            rintro ⟨head, others, list, before⟩
            have notDue := (least head others list).2
              (Int64.lt_of_le_of_lt before next)
            exact Int64.not_le.mpr notDue (Int64.le_trans before future)
          have stillNext : time < wakeUpTime := by
            rcases nextTime with rfl | later
            · exact next
            · exact Int64.lt_of_le_of_lt future later
          exact ih stillNext
            (fun higher found index member =>
              above higher found index (List.mem_cons_of_mem _ member))
            sorted.2 (inRest passed)
      | turn event others list earlier due served =>
          rw [if_pos rfl]
          by_cases before : event.handleTime ≤ time
          · obtain ⟨index, found, head⟩ := @pickLoop_keeps now time rest
              { state with
                nextWakeUpTime := event.handleTime, priorityIndex := some first }
              first rfl ⟨event, others, list, before⟩ before
            exact ⟨index, found, .inl head⟩
          · have passed : ¬(state.subEventQueues.get first).HeadBy time := by
              rintro ⟨head, tail, same, headBefore⟩
              rw [list] at same
              cases same
              exact before headBefore
            refine ih (Int64.not_le.mp before) ?_ sorted.2 (inRest passed)
            intro higher same index member
            cases same
            exact sorted.1 index member
      | stay event others higher list earlier due found share =>
          exact ⟨higher, found, .inr ⟨⟨first,
            above higher found first List.mem_cons_self⟩, share, rfl⟩⟩

/-- How a queue comes to be picked although others of higher priority are
searched first: its event is the earliest, and a queue that would have been
picked instead has had its share. -/
structure Overtakes (now : TimePoint) (indices : List (Fin subEventQueueNum))
    (state : PickState) (picked : Fin subEventQueueNum) : Prop where
  member : picked ∈ indices
  next : ∃ event rest, (state.subEventQueues.get picked).queue = event :: rest ∧
    event.handleTime < state.nextWakeUpTime
  earlier : ∀ index ∈ indices, index < picked →
    (state.subEventQueues.get picked).Earlier (state.subEventQueues.get index)
  foundServed : ∀ higher, state.priorityIndex = some higher →
    ¬HasShare state.subEventQueues higher
  highestServed : state.priorityIndex = none →
    ∀ highest ∈ indices, highest < picked →
      (state.subEventQueues.get highest).IsDue now →
      (∀ index ∈ indices, index < highest →
        ¬(state.subEventQueues.get index).IsDue now) →
      ¬HasShare state.subEventQueues highest

/-- A picked queue is the one found before, or overtakes those searched first;
as long as nothing is found no time that has come was passed by. -/
theorem pickLoop_overtakes {picked : Fin subEventQueueNum}
    (found : (pickLoop now indices state).priorityIndex = some picked)
    (sorted : indices.Pairwise (· < ·))
    (nothing : state.priorityIndex = none → ∀ time, time ≤ now →
      time < TimePoint.max → time < state.nextWakeUpTime) :
    state.priorityIndex = some picked ∨ Overtakes now indices state picked := by
  induction indices generalizing state with
  | nil => exact .inl found
  | cons first rest ih =>
      rw [List.pairwise_cons] at sorted
      obtain ⟨goesOn, after, step, loop⟩ := pickLoop_cons now first rest state
      rw [loop] at found
      -- A queue behind the first one is not the first one.
      have behind {index : Fin subEventQueueNum} (member : index ∈ first :: rest)
          (apart : index ≠ first) : index ∈ rest :=
        (List.mem_cons.mp member).resolve_left apart
      cases step with
      | pass wakeUpTime nextTime le least =>
          have stillNothing : state.priorityIndex = none → ∀ time, time ≤ now →
              time < TimePoint.max → time < wakeUpTime := by
            intro none time future possible
            rcases nextTime with rfl | later
            · exact nothing none time future possible
            · exact Int64.lt_of_le_of_lt future later
          rcases ih found sorted.2 stillNothing with same | overtakes
          · exact .inl same
          · right
            obtain ⟨event, others, list, before⟩ := overtakes.next
            refine ⟨List.mem_cons_of_mem _ overtakes.member,
              ⟨event, others, list, Int64.lt_of_lt_of_le before le⟩, ?_,
              overtakes.foundServed, ?_⟩
            · intro index member lower
              by_cases same : index = first
              · subst same
                refine ⟨event, others, list, fun head front => ?_⟩
                obtain ⟨tail, nonempty⟩ := List.head?_eq_some_iff.mp front
                exact Int64.lt_of_lt_of_le before (least head tail nonempty).1
              · exact overtakes.earlier index (behind member same) lower
            · intro none highest member lower due first'
              by_cases same : highest = first
              · subst same
                obtain ⟨head, tail, nonempty, future, possible⟩ := due
                have notYet := (least head tail nonempty).2
                  (nothing none _ future possible)
                exact absurd future (Int64.not_le.mpr notYet)
              · exact overtakes.highestServed none highest (behind member same)
                  lower due fun index inRest =>
                    first' index (List.mem_cons_of_mem _ inRest)
      | turn event others list earlier due served =>
          have firstDue : (state.subEventQueues.get first).IsDue now :=
            ⟨event, others, list, due,
              Int64.lt_of_lt_of_le earlier (Int64.le_maxValue _)⟩
          rcases ih found sorted.2 (by simp) with same | overtakes
          · cases same
            right
            refine ⟨List.mem_cons_self, ⟨event, others, list, earlier⟩, ?_,
              served, ?_⟩
            · intro index member lower
              have apart : index ≠ picked := by
                rintro rfl
                exact lt_irrefl _ lower
              exact absurd lower (lt_asymm (sorted.1 index (behind member apart)))
            · intro none highest member lower
              have apart : highest ≠ picked := by
                rintro rfl
                exact lt_irrefl _ lower
              exact absurd lower (lt_asymm (sorted.1 highest (behind member apart)))
          · right
            obtain ⟨picked', tail, nonempty, before⟩ := overtakes.next
            refine ⟨List.mem_cons_of_mem _ overtakes.member,
              ⟨picked', tail, nonempty, Int64.lt_trans before earlier⟩, ?_,
              served, ?_⟩
            · intro index member lower
              by_cases same : index = first
              · subst same
                refine ⟨picked', tail, nonempty, fun head front => ?_⟩
                rw [list] at front
                cases front
                exact before
              · exact overtakes.earlier index (behind member same) lower
            · intro none highest member lower isDue first'
              by_cases same : highest = first
              · subst same
                exact overtakes.foundServed highest rfl
              · exact absurd firstDue (first' first List.mem_cons_self
                  (sorted.1 highest (behind member same)))
      | stay event others higher list earlier due same share =>
          exact .inl found

/-- At most one queue counts one more event, and only if it has a share left. -/
theorem pickLoop_counts (now : TimePoint) (indices : List (Fin subEventQueueNum))
    (state : PickState) :
    (pickLoop now indices state).subEventQueues = state.subEventQueues ∨
      ∃ index, HasShare state.subEventQueues index ∧
        (pickLoop now indices state).subEventQueues =
          countEvent state.subEventQueues index := by
  induction indices generalizing state with
  | nil => exact .inl rfl
  | cons first rest ih =>
      obtain ⟨goesOn, after, step, loop⟩ := pickLoop_cons now first rest state
      rw [loop]
      cases step with
      | pass wakeUpTime nextTime le least => exact ih _
      | turn event others list earlier due served => exact ih _
      | stay event others higher list earlier due found share =>
          exact .inr ⟨higher, share, rfl⟩

end Search

section Picks

variable (queue : EventQueue) (now : TimePoint)

/-- How the search through a queue starts. -/
def pickStart : PickState where
  subEventQueues := queue.subEventQueues
  nextWakeUpTime := TimePoint.max

/-- The state in which the search through a queue ends. -/
def pickEnd : PickState :=
  pickLoop now (List.finRange subEventQueueNum) queue.pickStart

/-- The queue that a pick takes its event from. -/
def priorityIndex : Option (Fin subEventQueueNum) :=
  (queue.pickEnd now).priorityIndex

theorem sorted_finRange :
    (List.finRange subEventQueueNum).Pairwise (· < ·) := by
  decide

theorem pickEnd_queue (index : Fin subEventQueueNum) :
    ((queue.pickEnd now).subEventQueues.get index).queue =
      (queue.subEventQueues.get index).queue :=
  pickLoop_queue now _ _ index

theorem pickEventLocked_eq :
    queue.pickEventLocked now TimePoint.max =
      match queue.priorityIndex now with
      | none => (none, (queue.pickEnd now).nextWakeUpTime,
          { queue with subEventQueues := (queue.pickEnd now).subEventQueues })
      | some index => (((queue.pickEnd now).subEventQueues.get index).queue.head?,
          (queue.pickEnd now).nextWakeUpTime,
          { queue with
            subEventQueues := takeFrom (queue.pickEnd now).subEventQueues index }) :=
  rfl

variable {queue now}

/-- A pick takes from a queue whose first event is due. -/
theorem isDue_of_priorityIndex {index : Fin subEventQueueNum}
    (found : queue.priorityIndex now = some index) :
    (queue.subEventQueues.get index).IsDue now ∧
      Overtakes now (List.finRange subEventQueueNum) queue.pickStart index := by
  rcases pickLoop_priorityIndex found with impossible | ⟨event, rest, list, due⟩
  · cases impossible
  · rcases pickLoop_overtakes found sorted_finRange
      (fun _ time _ possible => possible) with impossible | overtakes
    · cases impossible
    · obtain ⟨first, tail, same, possible⟩ := overtakes.next
      change (queue.subEventQueues.get index).queue = event :: rest at list
      change (queue.subEventQueues.get index).queue = first :: tail at same
      rw [list] at same
      cases same
      exact ⟨⟨event, rest, list, due, possible⟩, overtakes⟩

/-- A pick takes an event exactly if the first event of a queue is due. -/
theorem pickEventLocked_isSome_iff :
    (queue.pickEventLocked now TimePoint.max).1.isSome = true ↔
      ∃ index : Fin subEventQueueNum, (queue.subEventQueues.get index).IsDue now := by
  rw [pickEventLocked_eq]
  constructor
  · intro picked
    cases found : queue.priorityIndex now with
    | none => simp [found] at picked
    | some index => exact ⟨index, (isDue_of_priorityIndex found).1⟩
  · rintro ⟨index, event, rest, list, due, possible⟩
    obtain ⟨picked, found, -⟩ := @pickLoop_reaches now event.handleTime
      (List.finRange subEventQueueNum) queue.pickStart due possible nofun
      sorted_finRange
      ⟨index, List.mem_finRange index, event, rest, list, Int64.le_refl _⟩
    change queue.priorityIndex now = some picked at found
    obtain ⟨first, others, front, -⟩ := (isDue_of_priorityIndex found).1
    rw [found]
    simp only [pickEnd_queue, front]
    rfl

end Picks

section Turns

variable {queue after : EventQueue} {now time wakeUpTime : TimePoint}
  {share : UInt32}

/-- All queues have the same share of events in a row, and none has had more. -/
structure CountsUpTo (share : UInt32) (queue : EventQueue) : Prop where
  share_eq : ∀ index : Fin subEventQueueNum,
    (queue.subEventQueues.get index).maxHandledEventsCount = share
  count_le : ∀ index : Fin subEventQueueNum,
    (queue.subEventQueues.get index).handledEventsCount ≤ share

/-- The number of pending events above `idle` that are handled by a point of
time. -/
def pendingBy (queue : EventQueue) (time : TimePoint) : Nat :=
  (queue.events .immediate).countP (·.handleTime ≤ time) +
    (queue.events .high).countP (·.handleTime ≤ time) +
      (queue.events .low).countP (·.handleTime ≤ time)

theorem CountsUpTo.turnsHad_lt (counts : queue.CountsUpTo share) :
    turnsHad share queue < (share.toNat + 1) ^ 2 := by
  have first := UInt32.le_iff_toNat_le.mp (counts.count_le 0)
  have second := UInt32.le_iff_toNat_le.mp (counts.count_le 1)
  have product := Nat.mul_le_mul_left (share.toNat + 1) second
  have square : (share.toNat + 1) ^ 2 =
      (share.toNat + 1) * share.toNat + share.toNat + 1 := by
    rw [Nat.pow_two, Nat.mul_add_one, Nat.add_assoc]
  calc turnsHad share queue
      ≤ share.toNat + (share.toNat + 1) * share.toNat :=
        Nat.add_le_add first product
    _ < (share.toNat + 1) ^ 2 := by omega

/-- The counters after a pick. -/
theorem takeFrom_counts (subEventQueues : Vector SubEventQueue subEventQueueNum)
    (priorityIndex index : Fin subEventQueueNum) :
    ((takeFrom subEventQueues priorityIndex).get index).handledEventsCount =
        (if index < priorityIndex then 0
        else (subEventQueues.get index).handledEventsCount) ∧
      ((takeFrom subEventQueues priorityIndex).get index).maxHandledEventsCount =
        (subEventQueues.get index).maxHandledEventsCount := by
  simp only [takeFrom, get_subEventQueues, Vector.getElem_mapFinIdx]
  grind

theorem countEvent_counts (subEventQueues : Vector SubEventQueue subEventQueueNum)
    (counted index : Fin subEventQueueNum) :
    ((countEvent subEventQueues counted).get index).handledEventsCount =
        (if index = counted then (subEventQueues.get index).handledEventsCount + 1
        else (subEventQueues.get index).handledEventsCount) ∧
      ((countEvent subEventQueues counted).get index).maxHandledEventsCount =
        (subEventQueues.get index).maxHandledEventsCount := by
  unfold countEvent
  grind

theorem toNat_count_succ {count : UInt32} (below : count < share) :
    (count + 1).toNat = count.toNat + 1 := by
  have bound := UInt32.lt_iff_toNat_lt.mp below
  have high := share.toNat_lt
  rw [UInt32.toNat_add, UInt32.toNat_one, Nat.mod_eq_of_lt]
  omega

/-- No call makes a counter pass its bound. -/
theorem CountsUpTo.pickEnd (counts : queue.CountsUpTo share) (now : TimePoint)
    (index : Fin subEventQueueNum) :
    ((queue.pickEnd now).subEventQueues.get index).maxHandledEventsCount = share ∧
      ((queue.pickEnd now).subEventQueues.get index).handledEventsCount ≤ share := by
  rcases pickLoop_counts now (List.finRange subEventQueueNum) queue.pickStart with
    same | ⟨counted, below, same⟩
  · unfold EventQueue.pickEnd
    rw [same]
    exact ⟨counts.share_eq index, counts.count_le index⟩
  · unfold EventQueue.pickEnd
    rw [same, (countEvent_counts _ counted index).1,
      (countEvent_counts _ counted index).2]
    refine ⟨counts.share_eq index, ?_⟩
    split
    · next equal =>
        subst equal
        have below : (queue.subEventQueues.get index).handledEventsCount < share := by
          rw [← counts.share_eq index]
          exact below
        rw [UInt32.le_iff_toNat_le]
        change ((queue.subEventQueues.get index).handledEventsCount + 1).toNat ≤ _
        rw [toNat_count_succ below]
        exact UInt32.lt_iff_toNat_lt.mp below
    · exact counts.count_le index

theorem CountsUpTo.takeFrom (counts : queue.CountsUpTo share) (now : TimePoint)
    (picked : Fin subEventQueueNum) :
    CountsUpTo share { queue with
      subEventQueues :=
        EventQueue.takeFrom (queue.pickEnd now).subEventQueues picked } := by
  constructor
  · intro index
    exact (takeFrom_counts _ picked index).2.trans (counts.pickEnd now index).1
  · intro index
    refine le_of_eq_of_le (takeFrom_counts _ picked index).1 ?_
    split
    · exact UInt32.zero_le
    · exact (counts.pickEnd now index).2

/-- The queue after a pick from one of its lists. -/
def takeAt (queue : EventQueue) (now : TimePoint)
    (picked : Fin subEventQueueNum) : EventQueue :=
  { queue with
    subEventQueues :=
      EventQueue.takeFrom (queue.pickEnd now).subEventQueues picked }

theorem takeAt_queue (queue : EventQueue) (now : TimePoint)
    (picked index : Fin subEventQueueNum) :
    ((queue.takeAt now picked).subEventQueues.get index).queue =
      if index = picked then (queue.subEventQueues.get index).queue.tail
      else (queue.subEventQueues.get index).queue := by
  rw [← queue.pickEnd_queue now index]
  exact takeFrom_queue _ picked index

theorem index_cases (index : Fin subEventQueueNum) :
    index = 0 ∨ index = 1 ∨ index = 2 := by
  revert index
  decide

/-- A pick takes one event away. -/
theorem pendingBy_takeAt {picked : Fin subEventQueueNum} {event : QueuedEvent}
    {rest : List QueuedEvent}
    (front : (queue.subEventQueues.get picked).queue = event :: rest)
    (now time : TimePoint) :
    queue.pendingBy time = (queue.takeAt now picked).pendingBy time +
      if event.handleTime ≤ time then 1 else 0 := by
  have immediate := queue.takeAt_queue now picked 0
  have high := queue.takeAt_queue now picked 1
  have low := queue.takeAt_queue now picked 2
  have counted : (queue.subEventQueues.get picked).queue.countP (·.handleTime ≤ time) =
      (queue.subEventQueues.get picked).queue.tail.countP (·.handleTime ≤ time) +
        if event.handleTime ≤ time then 1 else 0 := by
    rw [front, List.countP_cons, List.tail_cons]
    simp
  unfold pendingBy events
  rcases index_cases picked with rfl | rfl | rfl
  · rw [if_pos rfl] at immediate
    rw [if_neg (by decide)] at high low
    simp only [get_subEventQueues] at *
    grind
  · rw [if_pos rfl] at high
    rw [if_neg (by decide)] at immediate low
    simp only [get_subEventQueues] at *
    grind
  · rw [if_pos rfl] at low
    rw [if_neg (by decide)] at immediate high
    simp only [get_subEventQueues] at *
    grind

theorem turnsHad_takeAt {picked lower : Fin subEventQueueNum}
    (counts : queue.CountsUpTo share) (above : picked < lower)
    (below : HasShare queue.subEventQueues picked)
    (counted : (queue.pickEnd now).subEventQueues =
      countEvent queue.subEventQueues picked) :
    turnsHad share queue < turnsHad share (queue.takeAt now picked) := by
  have count (index : Fin subEventQueueNum) :
      ((queue.takeAt now picked).subEventQueues.get index).handledEventsCount =
        if index < picked then 0
        else if index = picked then
          (queue.subEventQueues.get index).handledEventsCount + 1
        else (queue.subEventQueues.get index).handledEventsCount := by
    refine (takeFrom_counts _ picked index).1.trans ?_
    rw [counted, (countEvent_counts _ picked index).1]
  have below' : (queue.subEventQueues.get picked).handledEventsCount < share := by
    rw [← counts.share_eq picked]
    exact below
  have next := toNat_count_succ below'
  have first := count 0
  have second := count 1
  rcases index_cases picked with rfl | rfl | rfl
  · rw [if_neg (by decide), if_pos rfl] at first
    rw [if_neg (by decide), if_neg (by decide)] at second
    have counted : turnsHad share (queue.takeAt now 0) =
        queue.subEventQueues[0].handledEventsCount.toNat + 1 +
          (share.toNat + 1) * queue.subEventQueues[1].handledEventsCount.toNat :=
      congrArg₂ (fun first second => first + (share.toNat + 1) * second)
        ((congrArg UInt32.toNat first).trans next) (congrArg UInt32.toNat second)
    rw [counted, turnsHad]
    omega
  · -- The first queue counts anew, which is less than one turn of the second.
    have few := UInt32.le_iff_toNat_le.mp (counts.count_le 0)
    rw [if_pos (by decide)] at first
    rw [if_neg (by decide), if_pos rfl] at second
    calc turnsHad share queue
        ≤ share.toNat +
          (share.toNat + 1) * queue.subEventQueues[1].handledEventsCount.toNat :=
          Nat.add_le_add_right few _
      _ < 0 + (share.toNat + 1) *
          (queue.subEventQueues[1].handledEventsCount.toNat + 1) := by
          rw [Nat.mul_add_one]
          omega
      _ = turnsHad share (queue.takeAt now 1) :=
          (congrArg₂ (fun first second => first + (share.toNat + 1) * second)
            (congrArg UInt32.toNat first)
            ((congrArg UInt32.toNat second).trans next)).symm
  · exact absurd above (not_lt_of_ge (Fin.le_last lower))

/-- A pick at a time when an early event is due takes an early event, or brings
the counters forward. -/
theorem pick_progress (counts : queue.CountsUpTo share) (future : time ≤ now)
    (possible : time < TimePoint.max)
    (early : ∃ index : Fin subEventQueueNum,
      (queue.subEventQueues.get index).HeadBy time) :
    ∃ event wakeUpTime after,
      queue.pickEventLocked now TimePoint.max = (some event, wakeUpTime, after) ∧
        after.CountsUpTo share ∧
        (after.pendingBy time + 1 = queue.pendingBy time ∨
          after.pendingBy time = queue.pendingBy time ∧
            turnsHad share queue < turnsHad share after) := by
  obtain ⟨place, head⟩ := early
  obtain ⟨picked, found, reason⟩ := @pickLoop_reaches now time
    (List.finRange subEventQueueNum) queue.pickStart future possible nofun
    sorted_finRange ⟨place, List.mem_finRange place, head⟩
  change queue.priorityIndex now = some picked at found
  obtain ⟨event, rest, front, due, -⟩ := (isDue_of_priorityIndex found).1
  have taken : queue.pickEventLocked now TimePoint.max =
      (some event, (queue.pickEnd now).nextWakeUpTime,
        queue.takeAt now picked) := by
    rw [pickEventLocked_eq, found]
    simp only [pickEnd_queue, front]
    rfl
  have fewer := pendingBy_takeAt front now time
  refine ⟨event, _, _, taken, counts.takeFrom now picked, ?_⟩
  by_cases old : event.handleTime ≤ time
  · rw [if_pos old] at fewer
    exact .inl fewer.symm
  · rw [if_neg old] at fewer
    rcases reason with ⟨first, others, same, before⟩ | ⟨⟨lower, above⟩, below, counted⟩
    · change (queue.subEventQueues.get picked).queue = first :: others at same
      rw [front] at same
      cases same
      exact absurd before old
    · exact .inr ⟨fewer.symm, turnsHad_takeAt counts above below counted⟩

end Turns

section Calls

variable {queue : EventQueue} {share : UInt32} {time now : TimePoint}

theorem CountsUpTo.congr {other : EventQueue} (counts : queue.CountsUpTo share)
    (same : ∀ index : Fin subEventQueueNum,
      (other.subEventQueues.get index).maxHandledEventsCount =
          (queue.subEventQueues.get index).maxHandledEventsCount ∧
        (other.subEventQueues.get index).handledEventsCount =
          (queue.subEventQueues.get index).handledEventsCount) :
    other.CountsUpTo share := by
  constructor
  · intro index
    exact (same index).1.trans (counts.share_eq index)
  · intro index
    exact le_of_eq_of_le (same index).2 (counts.count_le index)

/-- An insertion moves no counter. -/
theorem insert_counts (queue : EventQueue) (event : Option QueuedEvent)
    (priority : Priority) (index : Fin subEventQueueNum) :
    ((queue.insert event priority).2.subEventQueues.get index).maxHandledEventsCount =
        (queue.subEventQueues.get index).maxHandledEventsCount ∧
      ((queue.insert event priority).2.subEventQueues.get index).handledEventsCount =
        (queue.subEventQueues.get index).handledEventsCount := by
  cases event with
  | none => exact ⟨rfl, rfl⟩
  | some event =>
      unfold insert setSubEventQueue
      cases priority.index? with
      | none => exact ⟨rfl, rfl⟩
      | some place => grind

theorem remove_counts (queue : EventQueue) (filter : InnerEvent → Bool)
    (index : Fin subEventQueueNum) :
    ((queue.remove filter).subEventQueues.get index).maxHandledEventsCount =
        (queue.subEventQueues.get index).maxHandledEventsCount ∧
      ((queue.remove filter).subEventQueues.get index).handledEventsCount =
        (queue.subEventQueues.get index).handledEventsCount := by
  unfold remove
  grind

/-- Taking an idle event, or none, leaves the other queues to the pick. -/
theorem getExpiredEventLocked_subEventQueues (queue : EventQueue)
    (now nextExpiredTime : TimePoint) :
    (queue.getExpiredEventLocked now nextExpiredTime).2.2.subEventQueues =
      (queue.pickEventLocked now TimePoint.max).2.2.subEventQueues := by
  unfold getExpiredEventLocked
  grind

theorem pickEventLocked_counts (counts : queue.CountsUpTo share)
    (now : TimePoint) :
    (queue.pickEventLocked now TimePoint.max).2.2.CountsUpTo share := by
  rw [pickEventLocked_eq]
  cases queue.priorityIndex now with
  | none =>
      exact ⟨fun index => (counts.pickEnd now index).1,
        fun index => (counts.pickEnd now index).2⟩
  | some index => exact counts.takeFrom now index

end Calls

end EventQueue

namespace QueueCall

/-- The call asks for an expired event. -/
def isPick : QueueCall → Bool
  | getExpiredEvent _ _ => true
  | _ => false

/-- A call that is made when a point of time is past: the clock shows no earlier
time, and no event above `idle` is sent for an earlier one. -/
def IsAfter (time : TimePoint) : QueueCall → Prop
  | insert (some event) priority => priority ≠ .idle → time < event.handleTime
  | getExpiredEvent now _ => time ≤ now
  | _ => True

end QueueCall

namespace QueueRun

open EventQueue

variable {run : QueueRun} {share : UInt32} {time : TimePoint}

theorem counts_call (counts : run.queue.CountsUpTo share) (call : QueueCall) :
    (run.call call).queue.CountsUpTo share := by
  cases call with
  | insert event priority =>
      cases event with
      | none => exact counts.congr (run.queue.insert_counts none priority)
      | some event => exact counts.congr (run.queue.insert_counts _ priority)
  | remove removal =>
      apply counts.congr
      intro index
      simp only [call, removal.apply_eq_remove]
      exact run.queue.remove_counts _ index
  | getExpiredEvent now nextExpiredTime =>
      have picked := pickEventLocked_counts counts now
      have same := run.queue.getExpiredEventLocked_subEventQueues now
        nextExpiredTime
      have queue : (run.call (.getExpiredEvent now nextExpiredTime)).queue =
          (run.queue.getExpiredEventLocked now nextExpiredTime).2.2 := by
        simp only [call]
        grind
      rw [queue]
      apply picked.congr
      intro index
      rw [same]
      exact ⟨rfl, rfl⟩

theorem counts_calls (counts : run.queue.CountsUpTo share)
    (calls : List QueueCall) : (run.calls calls).queue.CountsUpTo share := by
  induction calls generalizing run with
  | nil => exact counts
  | cons call rest ih => exact ih (counts_call counts call)

theorem counts_start (idleTimeStamp : TimePoint) :
    (start idleTimeStamp).queue.CountsUpTo defaultMaxHandledEventCount := by
  constructor
  · intro index
    simp [start, get_subEventQueues]
  · intro index
    simp [start, get_subEventQueues]

/-- How many picks may still come before the early events are gone. -/
def picksLeft (share : UInt32) (queue : EventQueue) (time : TimePoint) : Nat :=
  queue.pendingBy time * (share.toNat + 1) ^ 2 - turnsHad share queue

/-- A new event is counted if it is above `idle` and early. -/
theorem pendingBy_insert_eq (queue : EventQueue) (event : QueuedEvent)
    (priority : Priority) (time : TimePoint) :
    (queue.insert (some event) priority).2.pendingBy time =
      queue.pendingBy time +
        if priority ≠ .idle ∧ event.handleTime ≤ time then 1 else 0 := by
  have counted (events : List QueuedEvent) :
      (insertEventsLocked events event).countP (·.handleTime ≤ time) =
        events.countP (·.handleTime ≤ time) +
          if event.handleTime ≤ time then 1 else 0 := by
    unfold insertEventsLocked
    rw [(StableList.insert_perm event events).countP_eq, List.countP_cons]
    simp
  unfold pendingBy
  simp only [insert_events]
  cases priority with
  | idle => simp
  | immediate | high | low =>
      simp only [reduceCtorEq, ↓reduceIte, counted, ne_eq, not_false_eq_true,
        true_and]
      omega

theorem pendingBy_insert (queue : EventQueue) (event : QueuedEvent)
    (priority : Priority)
    (late : priority ≠ .idle → time < event.handleTime) :
    (queue.insert (some event) priority).2.pendingBy time =
      queue.pendingBy time := by
  have uncounted : ¬(priority ≠ .idle ∧ event.handleTime ≤ time) :=
    fun ⟨waking, early⟩ => absurd early (Int64.not_le.mpr (late waking))
  rw [pendingBy_insert_eq, if_neg uncounted, Nat.add_zero]

theorem pendingBy_remove_le (queue : EventQueue) (filter : InnerEvent → Bool)
    (time : TimePoint) :
    (queue.remove filter).pendingBy time ≤ queue.pendingBy time := by
  have fewer (events : List QueuedEvent) :
      (events.filter fun event => !filter event.toInnerEvent).countP
        (·.handleTime ≤ time) ≤ events.countP (·.handleTime ≤ time) :=
    List.filter_sublist.countP_le
  unfold pendingBy
  simp only [remove_events]
  exact Nat.add_le_add (Nat.add_le_add (fewer _) (fewer _)) (fewer _)

theorem turnsHad_congr {queue other : EventQueue} (share : UInt32)
    (same : ∀ index : Fin subEventQueueNum,
      (other.subEventQueues.get index).maxHandledEventsCount =
          (queue.subEventQueues.get index).maxHandledEventsCount ∧
        (other.subEventQueues.get index).handledEventsCount =
          (queue.subEventQueues.get index).handledEventsCount) :
    turnsHad share other = turnsHad share queue :=
  congrArg₂ (fun first second =>
      UInt32.toNat first + (share.toNat + 1) * UInt32.toNat second)
    (same 0).2 (same 1).2

theorem picksLeft_insert_le (share : UInt32) (queue : EventQueue)
    (event : QueuedEvent) (priority : Priority) (time : TimePoint) :
    picksLeft share (queue.insert (some event) priority).2 time ≤
      picksLeft share queue time + (share.toNat + 1) ^ 2 *
        if priority ≠ .idle ∧ event.handleTime ≤ time then 1 else 0 := by
  unfold picksLeft
  rw [pendingBy_insert_eq, turnsHad_congr share (queue.insert_counts _ priority),
    Nat.add_mul, Nat.mul_comm ((share.toNat + 1) ^ 2)]
  omega

theorem picksLeft_remove_le (share : UInt32) (queue : EventQueue)
    (filter : InnerEvent → Bool) (time : TimePoint) :
    picksLeft share (queue.remove filter) time ≤ picksLeft share queue time := by
  unfold picksLeft
  have fewer := Nat.mul_le_mul_right ((share.toNat + 1) ^ 2)
    (pendingBy_remove_le queue filter time)
  rw [turnsHad_congr share (queue.remove_counts _)]
  exact Nat.sub_le_sub_right fewer _

/-- A pending event is behind an early one, and counts itself. -/
theorem early_of_pending {event : QueuedEvent} {priority : Priority}
    (faithful : run.IsFaithful) (waking : priority ≠ .idle)
    (pending : event ∈ run.queue.events priority) :
    (∃ index : Fin subEventQueueNum,
        (run.queue.subEventQueues.get index).HeadBy event.handleTime) ∧
      0 < run.queue.pendingBy event.handleTime := by
  constructor
  · obtain ⟨index, rfl⟩ := exists_index waking
    have ordered := faithful.ordered (.ofIndex index)
    rw [events_ofIndex] at pending ordered
    refine ⟨index, ?_⟩
    cases list : (run.queue.subEventQueues.get index).queue with
    | nil =>
        rw [list] at pending
        cases pending
    | cons first rest =>
        refine ⟨first, rest, list, ?_⟩
        rw [list] at pending ordered
        rcases List.mem_cons.mp pending with rfl | behind
        · exact Int64.le_refl _
        · have precedes := (List.pairwise_cons.mp ordered).1 event behind
          rcases precedes with earlier | ⟨same, -⟩
          · exact Int64.le_of_lt earlier
          · exact Int64.le_of_eq same
  · have counted : 0 < (run.queue.events priority).countP
        (·.handleTime ≤ event.handleTime) :=
      List.countP_pos_iff.mpr ⟨event, pending, by simp⟩
    unfold pendingBy
    cases priority with
    | idle => exact absurd rfl waking
    | immediate | high | low => omega

/-- As long as an event is pending, every pick leaves fewer picks to come. -/
theorem picksLeft_call {event : QueuedEvent} {priority : Priority}
    (faithful : run.IsFaithful) (counts : run.queue.CountsUpTo share)
    (waking : priority ≠ .idle) (pending : event ∈ run.queue.events priority)
    (possible : event.handleTime < TimePoint.max) {call : QueueCall}
    (after : call.IsAfter event.handleTime) :
    picksLeft share (run.call call).queue event.handleTime +
        (if call.isPick then 1 else 0) ≤
      picksLeft share run.queue event.handleTime := by
  cases call with
  | insert inserted place =>
      cases inserted with
      | none => exact Nat.le_refl _
      | some inserted =>
          have late : place ≠ .idle → event.handleTime < inserted.handleTime :=
            after
          simp only [QueueRun.call, QueueCall.isPick, Bool.false_eq_true, if_false,
            Nat.add_zero]
          unfold picksLeft
          rw [pendingBy_insert run.queue
            { inserted with arrival := run.arrivals } place late,
            turnsHad_congr share (run.queue.insert_counts _ place)]
  | remove removal =>
      simp only [QueueRun.call, removal.apply_eq_remove, QueueCall.isPick,
        Bool.false_eq_true, if_false, Nat.add_zero]
      exact picksLeft_remove_le share run.queue removal.isMatch event.handleTime
  | getExpiredEvent now nextExpiredTime =>
      obtain ⟨early, positive⟩ := early_of_pending faithful waking pending
      obtain ⟨first, wakeUpTime, next, picked, -, progress⟩ :=
        pick_progress counts after possible early
      have queue : (run.call (.getExpiredEvent now nextExpiredTime)).queue =
          { next with wakeUpTime := wakeUpTime, isIdle := false } := by
        simp [QueueRun.call, getExpiredEventLocked, picked]
      have bound := counts.turnsHad_lt
      have square := Nat.le_mul_of_pos_left ((share.toNat + 1) ^ 2) positive
      unfold picksLeft
      rw [queue]
      change next.pendingBy _ * _ - turnsHad share next + 1 ≤ _
      rcases progress with taken | ⟨same, further⟩
      · rw [← taken, Nat.add_one_mul]
        omega
      · rw [same]
        omega

/-- When a pending event is due, an event is taken. -/
theorem exists_returned {event : QueuedEvent} {priority : Priority}
    (faithful : run.IsFaithful) (counts : run.queue.CountsUpTo share)
    (waking : priority ≠ .idle) (pending : event ∈ run.queue.events priority)
    (possible : event.handleTime < TimePoint.max) {now : TimePoint}
    (due : event.handleTime ≤ now) (nextExpiredTime : TimePoint) :
    ∃ taken, (run.call (.getExpiredEvent now nextExpiredTime)).log =
      .returned taken now :: run.log := by
  obtain ⟨early, -⟩ := early_of_pending faithful waking pending
  obtain ⟨first, wakeUpTime, next, picked, -⟩ :=
    pick_progress counts due possible early
  exact ⟨first, by simp [QueueRun.call, getExpiredEventLocked, picked]⟩

theorem log_calls (run : QueueRun) (calls : List QueueCall) :
    run.log <:+ (run.calls calls).log := by
  induction calls generalizing run with
  | nil => exact List.suffix_refl _
  | cons call rest ih =>
      refine List.IsSuffix.trans ?_ (ih (run.call call))
      cases call with
      | insert event priority =>
          cases event with
          | none => exact List.suffix_refl _
          | some event => exact List.suffix_cons _ _
      | remove removal => exact List.suffix_cons _ _
      | getExpiredEvent now nextExpiredTime =>
          simp only [QueueRun.call]
          split
          · exact List.suffix_cons _ _
          · exact List.suffix_refl _

/-- An event that is pending in the end was pending all the time. -/
theorem pending_of_calls (faithful : run.IsFaithful) {event : QueuedEvent}
    {priority : Priority} {calls : List QueueCall}
    (inserted : .inserted event priority ∈ run.log)
    (still : event ∈ (run.calls calls).queue.events priority) :
    event ∈ run.queue.events priority := by
  have pending := ((faithful.calls calls).pending event priority).mp still
  have grown := run.log_calls calls
  apply (faithful.pending event priority).mpr
  exact ⟨inserted, fun now member => pending.notReturned now (grown.subset member),
    fun removal happened =>
      pending.notRemoved removal (happened.trans grown.sublist)⟩

/-- The picks that are made while an event is pending are those that there were
to come. -/
theorem picksLeft_calls {event : QueuedEvent} {priority : Priority}
    (faithful : run.IsFaithful) (counts : run.queue.CountsUpTo share)
    (waking : priority ≠ .idle)
    (inserted : .inserted event priority ∈ run.log)
    (possible : event.handleTime < TimePoint.max) {calls : List QueueCall}
    (after : ∀ call ∈ calls, call.IsAfter event.handleTime)
    (still : event ∈ (run.calls calls).queue.events priority) :
    picksLeft share (run.calls calls).queue event.handleTime +
        calls.countP QueueCall.isPick ≤
      picksLeft share run.queue event.handleTime := by
  induction calls generalizing run with
  | nil => exact Nat.le_refl _
  | cons call rest ih =>
      have grown := run.log_calls [call]
      have pending := pending_of_calls faithful inserted still
      have first := picksLeft_call faithful counts waking pending possible
        (after call List.mem_cons_self)
      have others := ih (faithful.call call) (counts_call counts call)
        (grown.subset inserted)
        (fun other member => after other (List.mem_cons_of_mem _ member)) still
      have chain : run.calls (call :: rest) = (run.call call).calls rest := rfl
      rw [chain, List.countP_cons]
      omega

/-- As many picks as the counters allow take or remove a pending event. -/
theorem not_pending_of_picks {event : QueuedEvent} {priority : Priority}
    (faithful : run.IsFaithful) (counts : run.queue.CountsUpTo share)
    (waking : priority ≠ .idle) (pending : event ∈ run.queue.events priority)
    (possible : event.handleTime < TimePoint.max) {calls : List QueueCall}
    (after : ∀ call ∈ calls, call.IsAfter event.handleTime)
    (enough : (share.toNat + 1) ^ 2 * run.queue.pendingBy event.handleTime ≤
      calls.countP QueueCall.isPick) :
    event ∉ (run.calls calls).queue.events priority := by
  intro still
  have inserted := ((faithful.pending event priority).mp pending).inserted
  have spent := picksLeft_calls faithful counts waking inserted possible after
    still
  obtain ⟨-, positive⟩ := early_of_pending (faithful.calls calls) waking still
  have bound := (counts_calls counts calls).turnsHad_lt
  have square := Nat.le_mul_of_pos_left ((share.toNat + 1) ^ 2) positive
  rw [Nat.mul_comm] at enough
  unfold picksLeft at spent
  omega

end QueueRun

/-- After any calls, an event above `idle` that is due comes out, or is removed,
within `(share + 1) ^ 2` picks for each event that was due by then; a pick takes
an event exactly if the first one of a queue is due; and it takes one of a lower
priority only after the highest one that is due has had its share, and if that
event is earlier than those of all higher priorities. -/
theorem picks_fair (idleTimeStamp : TimePoint) (before : List QueueCall) :
    let run := (QueueRun.start idleTimeStamp).calls before
    let queues := run.queue.subEventQueues
    let share := defaultMaxHandledEventCount
    (∀ event priority later, priority ≠ .idle →
      event ∈ run.queue.events priority → event.handleTime < TimePoint.max →
      (∀ call ∈ later, QueueCall.IsAfter event.handleTime call) →
      (share.toNat + 1) ^ 2 * run.queue.pendingBy event.handleTime ≤
        later.countP QueueCall.isPick →
      let log := (run.calls later).log
      (∃ now, .returned event now ∈ log) ∨
        ∃ removal, Happened log [.inserted event priority, .removed removal] ∧
          removal.isMatch event.toInnerEvent = true) ∧
    (∀ now, (run.queue.pickEventLocked now TimePoint.max).1.isSome = true ↔
      ∃ index : Fin subEventQueueNum, (queues.get index).IsDue now) ∧
    ∀ now (picked higher : Fin subEventQueueNum),
      run.queue.priorityIndex now = some picked → higher < picked →
      (queues.get higher).IsDue now →
      (∃ highest < picked, (queues.get highest).IsDue now ∧
        (∀ index < highest, ¬(queues.get index).IsDue now) ∧
        (queues.get highest).handledEventsCount =
          (queues.get highest).maxHandledEventsCount ∧
        (queues.get highest).maxHandledEventsCount = share) ∧
      ∀ index < picked, (queues.get picked).Earlier (queues.get index) := by
  intro run queues share
  have faithful := (QueueRun.isFaithful_start idleTimeStamp).calls before
  have counts : run.queue.CountsUpTo share :=
    QueueRun.counts_calls (QueueRun.counts_start idleTimeStamp) before
  refine ⟨?_, fun now => EventQueue.pickEventLocked_isSome_iff, ?_⟩
  · intro event priority later waking pending possible after enough log
    have gone := QueueRun.not_pending_of_picks faithful counts waking pending
      possible after enough
    have inserted : .inserted event priority ∈ log :=
      (run.log_calls later).subset
        ((faithful.pending event priority).mp pending).inserted
    rw [(faithful.calls later).pending] at gone
    by_contra lost
    simp only [not_or, not_exists, not_and, Bool.not_eq_true] at lost
    exact gone ⟨inserted, lost.1, lost.2⟩
  · intro now picked higher found lower due
    obtain ⟨-, overtakes⟩ := EventQueue.isDue_of_priorityIndex found
    refine ⟨?_, fun index above =>
      overtakes.earlier index (List.mem_finRange index) above⟩
    obtain ⟨highest, isDue, least⟩ := wellFounded_lt.has_min
      { index : Fin subEventQueueNum | (queues.get index).IsDue now } ⟨higher, due⟩
    have above : highest < picked := lt_of_le_of_lt (not_lt.mp (least higher due)) lower
    have first : ∀ index < highest, ¬(queues.get index).IsDue now :=
      fun index before earlier => least index earlier before
    have served := overtakes.highestServed rfl highest (List.mem_finRange highest)
      above isDue fun index _ before => first index before
    have shareEq := counts.share_eq highest
    refine ⟨highest, above, isDue, first, ?_, shareEq⟩
    apply UInt32.le_antisymm
    · rw [shareEq]
      exact counts.count_le highest
    · exact UInt32.not_lt.mp served

/-- Forty picks are more than enough for a single event. -/
theorem picks_fair_single :
    let run := (QueueRun.start 0).calls [.insert (some { handleTime := 1 }) .low]
    let later := List.replicate 40 (QueueCall.getExpiredEvent 5 TimePoint.max)
    let log := (run.calls later).log
    (∃ now, .returned ⟨{ handleTime := 1 }, 0⟩ now ∈ log) ∨
      ∃ removal, Happened log
          [.inserted ⟨{ handleTime := 1 }, 0⟩ .low, .removed removal] ∧
        removal.isMatch { handleTime := 1 } = true := by
  apply (picks_fair 0 [.insert (some { handleTime := 1 }) .low]).1
    ⟨{ handleTime := 1 }, 0⟩ .low _ (by decide) (by decide) (by decide)
  · intro call member
    rw [List.eq_of_mem_replicate member]
    change (1 : TimePoint) ≤ 5
    decide
  · decide

/-- An event for the last point of time is not picked even then. -/
theorem pick_not_at_last :
    ¬ ∀ (idleTimeStamp : TimePoint) (before : List QueueCall) (now : TimePoint),
      let queue := ((QueueRun.start idleTimeStamp).calls before).queue
      (queue.pickEventLocked now TimePoint.max).1.isSome = true ↔
        ∃ index : Fin subEventQueueNum,
          (queue.subEventQueues.get index).HeadBy now := by
  intro always
  have picked := (always 0 [.insert (some { handleTime := TimePoint.max }) .low]
    TimePoint.max).mpr ⟨2, ⟨{ handleTime := TimePoint.max }, 0⟩, [], rfl,
      Int64.le_refl _⟩
  exact absurd picked (by decide)

end AppExecFwk
