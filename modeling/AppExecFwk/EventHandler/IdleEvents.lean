import AppExecFwk.EventHandler.Fairness

/-!
# Idle events

When no other event is due the queue enters idle mode and takes a time stamp; an
idle event is returned if it was sent by then and is due.  Only the first idle
event is looked at, and the time until which the thread sleeps is that of the
other events alone, so an idle event may be left behind.  The results here say
exactly when that happens.
-/

namespace AppExecFwk

namespace EventQueue

variable (queue : EventQueue)

/-- The time stamp of the idle mode the queue is in, or enters now. -/
def idleStamp (now : TimePoint) : TimePoint :=
  if queue.isIdle then queue.idleTimeStamp else now

/-- An idle event was sent before the idle mode was entered and is due. -/
def IsServable (now : TimePoint) (event : QueuedEvent) : Prop :=
  event.sendTime ≤ queue.idleStamp now ∧ event.handleTime ≤ now

instance (now : TimePoint) (event : QueuedEvent) :
    Decidable (queue.IsServable now event) :=
  inferInstanceAs (Decidable (_ ∧ _))

/-- If nothing else is due and an idle event could be served, one is returned. -/
def ServesIdleEvents (now : TimePoint) : Prop :=
  queue.NothingDue now →
    (∃ event ∈ queue.idleEvents, queue.IsServable now event) →
    ∀ nextExpiredTime, ∃ event ∈ queue.idleEvents,
      (queue.getExpiredEventLocked now nextExpiredTime).1 = some event

/-- If nothing is returned, the thread does not sleep beyond the time of an idle
event that was sent before the idle mode was entered. -/
def WakesForIdleEvents (now : TimePoint) : Prop :=
  ∀ nextExpiredTime deadline after,
    queue.getExpiredEventLocked now nextExpiredTime = (none, deadline, after) →
    ∀ event ∈ after.idleEvents, event.sendTime ≤ after.idleTimeStamp →
      deadline ≤ event.handleTime

section Cases

variable {queue} {now : TimePoint}

theorem nothingDue_iff :
    queue.NothingDue now ↔
      (queue.pickEventLocked now TimePoint.max).1 = none := by
  rw [← Option.not_isSome_iff_eq_none, pickEventLocked_isSome_iff, not_exists]
  rfl

/-- If nothing else is due, the first idle event decides. -/
theorem getExpiredEventLocked_of_nothingDue (nothing : queue.NothingDue now)
    (nextExpiredTime : TimePoint) :
    ∃ wakeUpTime, queue.IsNextHandleTime wakeUpTime ∧
      let idle := { queue with
        wakeUpTime := wakeUpTime
        idleTimeStamp := queue.idleStamp now
        isIdle := true }
      queue.getExpiredEventLocked now nextExpiredTime =
        match queue.idleEvents with
        | [] => (none, wakeUpTime, idle)
        | first :: rest =>
            if queue.IsServable now first then
              (some first, nextExpiredTime, { idle with idleEvents := rest })
            else (none, wakeUpTime, idle) := by
  rw [nothingDue_iff] at nothing
  rcases picked : queue.pickEventLocked now TimePoint.max with
    ⟨event, wakeUpTime, after⟩
  rw [picked] at nothing
  rcases pickEventLocked_spec picked with ⟨rfl, rfl, next⟩ | ⟨taken, -, some, -⟩
  · refine ⟨wakeUpTime, next, ?_⟩
    obtain ⟨lists, idleEvents, oldTime, stamp, isIdle, finished⟩ := after
    unfold getExpiredEventLocked
    rw [picked]
    cases isIdle <;> cases idleEvents <;> rfl
  · rw [some] at nothing
    cases nothing

end Cases

/-- The first idle event was sent in time if any one that is due was. -/
def FrontSentInTime (now : TimePoint) : Prop :=
  queue.NothingDue now →
    (∃ event ∈ queue.idleEvents, queue.IsServable now event) →
    ∀ first ∈ queue.idleEvents.head?, first.sendTime ≤ queue.idleStamp now

/-- When no event can be returned, each idle event that was sent in time has
another event before it, or is for the last point of time. -/
def OthersComeBefore (now : TimePoint) : Prop :=
  queue.NothingDue now →
    (∀ first ∈ queue.idleEvents.head?, ¬queue.IsServable now first) →
    ∀ event ∈ queue.idleEvents, event.sendTime ≤ queue.idleStamp now →
      event.handleTime = TimePoint.max ∨
        ∃ priority other, priority ≠ .idle ∧ other ∈ queue.events priority ∧
          other.handleTime ≤ event.handleTime

end EventQueue

namespace QueueRun

open EventQueue

variable {run : QueueRun} {now : TimePoint}

/-- The first of the events of a priority is handled no later than any other. -/
theorem IsFaithful.front_le (faithful : run.IsFaithful) {priority : Priority}
    {event : QueuedEvent} (member : event ∈ run.queue.events priority) :
    ∃ first, (run.queue.events priority).head? = some first ∧
      first.handleTime ≤ event.handleTime := by
  have ordered := faithful.ordered priority
  cases list : run.queue.events priority with
  | nil =>
      rw [list] at member
      cases member
  | cons first rest =>
      rw [list] at member ordered
      refine ⟨first, rfl, ?_⟩
      rcases List.mem_cons.mp member with rfl | behind
      · exact Int64.le_refl _
      · rcases (List.pairwise_cons.mp ordered).1 event behind with earlier | same
        · exact Int64.le_of_lt earlier
        · exact Int64.le_of_eq same.1

theorem servesIdleEvents_iff (faithful : run.IsFaithful) :
    run.queue.ServesIdleEvents now ↔ run.queue.FrontSentInTime now := by
  constructor
  · intro serves nothing servable first front
    obtain ⟨event, -, returned⟩ := serves nothing servable TimePoint.max
    obtain ⟨wakeUpTime, -, outcome⟩ :=
      getExpiredEventLocked_of_nothingDue nothing TimePoint.max
    obtain ⟨rest, list⟩ := List.head?_eq_some_iff.mp front
    rw [outcome, list] at returned
    simp only at returned
    split at returned
    · next isServable => exact isServable.1
    · cases returned
  · intro inTime nothing servable nextExpiredTime
    obtain ⟨wakeUpTime, -, outcome⟩ :=
      getExpiredEventLocked_of_nothingDue nothing nextExpiredTime
    obtain ⟨event, member, sent, due⟩ := servable
    obtain ⟨first, front, earlier⟩ := @IsFaithful.front_le _ faithful .idle event member
    change run.queue.idleEvents.head? = some first at front
    have isServable : run.queue.IsServable now first :=
      ⟨inTime nothing ⟨event, member, sent, due⟩ first front,
        Int64.le_trans earlier due⟩
    obtain ⟨rest, list⟩ := List.head?_eq_some_iff.mp front
    refine ⟨first, List.mem_of_mem_head? front, ?_⟩
    rw [outcome, list]
    simp only [if_pos isServable]

/-- The time to wake up is not later than that of an idle event exactly if
another event comes before it, or it is for the last point of time. -/
theorem wakeUpTime_le_iff (faithful : run.IsFaithful) {wakeUpTime : TimePoint}
    (next : run.queue.IsNextHandleTime wakeUpTime) (time : TimePoint) :
    wakeUpTime ≤ time ↔ time = TimePoint.max ∨
      ∃ priority other, priority ≠ .idle ∧ other ∈ run.queue.events priority ∧
        other.handleTime ≤ time := by
  constructor
  · intro early
    rcases next.2 with ⟨priority, first, waking, front, rfl⟩ | ⟨-, rfl⟩
    · exact .inr ⟨priority, first, waking, List.mem_of_mem_head? front, early⟩
    · exact .inl (Int64.le_antisymm (Int64.le_maxValue _) early)
  · rintro (rfl | ⟨priority, other, waking, member, before⟩)
    · exact Int64.le_maxValue _
    · obtain ⟨first, front, earlier⟩ := faithful.front_le member
      exact Int64.le_trans (next.1 priority waking first front)
        (Int64.le_trans earlier before)

theorem wakesForIdleEvents_iff (faithful : run.IsFaithful) :
    run.queue.WakesForIdleEvents now ↔ run.queue.OthersComeBefore now := by
  constructor
  · intro wakes nothing notServable event member sent
    obtain ⟨wakeUpTime, next, outcome⟩ :=
      getExpiredEventLocked_of_nothingDue nothing TimePoint.max
    apply (wakeUpTime_le_iff faithful next _).mp
    cases list : run.queue.idleEvents with
    | nil =>
        rw [list] at member
        cases member
    | cons first rest =>
        have refused := notServable first (by rw [list]; rfl)
        rw [list] at outcome
        simp only [if_neg refused] at outcome
        refine wakes _ _ _ outcome event ?_ sent
        rw [list] at member
        exact member
  · intro others nextExpiredTime deadline after returned event member sent
    have nothing : run.queue.NothingDue now := by
      rw [nothingDue_iff]
      unfold getExpiredEventLocked at returned
      grind
    obtain ⟨wakeUpTime, next, outcome⟩ :=
      getExpiredEventLocked_of_nothingDue nothing nextExpiredTime
    rw [outcome] at returned
    have waits : (∀ first ∈ run.queue.idleEvents.head?,
          ¬run.queue.IsServable now first) ∧ deadline = wakeUpTime ∧
        after.idleEvents = run.queue.idleEvents ∧
        after.idleTimeStamp = run.queue.idleStamp now := by
      cases list : run.queue.idleEvents with
      | nil =>
          rw [list] at returned
          cases returned
          exact ⟨by simp, rfl, rfl, rfl⟩
      | cons first rest =>
          rw [list] at returned
          by_cases isServable : run.queue.IsServable now first
          · simp only [if_pos isServable] at returned
            cases returned
          · simp only [if_neg isServable] at returned
            cases returned
            exact ⟨by simpa using isServable, rfl, rfl, rfl⟩
    obtain ⟨notServable, rfl, sameEvents, sameStamp⟩ := waits
    rw [sameEvents] at member
    rw [sameStamp] at sent
    exact (wakeUpTime_le_iff faithful next _).mpr
      (others nothing notServable event member sent)

end QueueRun

/-- After any calls, the idle events that were sent in time are served, and are
woken up for, exactly if the first of them was sent in time and other events
come before those that have to wait. -/
theorem idleEvents_served_iff (idleTimeStamp : TimePoint)
    (calls : List QueueCall) (now : TimePoint) :
    let queue := ((QueueRun.start idleTimeStamp).calls calls).queue
    queue.ServesIdleEvents now ∧ queue.WakesForIdleEvents now ↔
      queue.FrontSentInTime now ∧ queue.OthersComeBefore now := by
  have faithful := (QueueRun.isFaithful_start idleTimeStamp).calls calls
  exact and_congr (QueueRun.servesIdleEvents_iff faithful)
    (QueueRun.wakesForIdleEvents_iff faithful)

/-- An idle event that was sent in time and is due stays behind one that was
sent later. -/
theorem idleEvent_left_behind :
    ¬ ∀ (idleTimeStamp : TimePoint) (calls : List QueueCall) (now : TimePoint),
      let queue := ((QueueRun.start idleTimeStamp).calls calls).queue
      queue.ServesIdleEvents now ∧ queue.WakesForIdleEvents now := by
  intro always
  let delayed : InnerEvent := { sendTime := 3, handleTime := 12 }
  let late : InnerEvent := { sendTime := 11, handleTime := 11 }
  let calls : List QueueCall :=
    [.insert (some delayed) .idle, .insert (some late) .idle]
  have nothing : (((QueueRun.start 5).calls calls).queue.getExpiredEventLocked 20
      TimePoint.max).1 = none := by
    decide
  obtain ⟨event, -, returned⟩ := (always 5 calls 20).1
    (EventQueue.nothingDue_iff.mpr (by decide))
    ⟨⟨delayed, 0⟩, by decide, by decide⟩ TimePoint.max
  rw [nothing] at returned
  cases returned

end AppExecFwk
