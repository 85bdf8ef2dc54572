import Mathlib.Algebra.Group.Int.Defs
import Mathlib.Algebra.Group.Nat.Defs
import AppExecFwk.EventHandler.EventOrder

/-!
# Delays and timeouts

A delay comes in milliseconds and a point of time is a number of nanoseconds,
both of 64 bits.  Scaling, adding and subtracting them wraps around, so an event
that is far away can be handled at once, and a long wait can have no end.  The
results here say for which numbers this does not happen.
-/

namespace AppExecFwk

def nanosecondsPerOneMillisecond : Int64 := 1000000

def infiniteTimeout : Int32 := -1

namespace TimePoint

/-- `now + std::chrono::milliseconds(delayTime)`. -/
def addMilliseconds (now : TimePoint) (delayTime : Int64) : TimePoint :=
  now + delayTime * nanosecondsPerOneMillisecond

/-- The milliseconds since the epoch of the clock, rounded towards it. -/
def countMilliseconds (now : TimePoint) : Int64 :=
  now / nanosecondsPerOneMillisecond

end TimePoint

/-- A handler, and whether it has a runner to send events to. -/
structure EventHandler where
  id : HandlerId
  hasRunner : Bool

namespace EventHandler

variable (handler : EventHandler)

/-- The call of the runner's queue that sending an event makes; without an event
or a runner there is none. -/
def sendEvent (event : Option InnerEvent) (delayTime : Int64)
    (priority : Priority) (now : TimePoint) : Option QueueCall :=
  match event with
  | none => none
  | some event =>
      if !handler.hasRunner then none
      else some (.insert (some { event with
        sendTime := now
        handleTime := if delayTime > 0 then now.addMilliseconds delayTime else now
        owner := some handler.id }) priority)

/-- Send an event that is to be handled at `taskTime`.  The clock is read here,
and again where the event is sent. -/
def sendTimingEvent (event : Option InnerEvent) (taskTime : Int64)
    (priority : Priority) (nowSys now : TimePoint) : Option QueueCall :=
  let delayTime := taskTime - nowSys.countMilliseconds
  if delayTime < 0 then handler.sendEvent event 0 priority now
  else handler.sendEvent event delayTime priority now

end EventHandler

/-- The nanoseconds to wait for a point of time. -/
def timePointToTimeOut (when now : TimePoint) : Int64 :=
  if when ≤ now then 0 else when - now

/-- The timeout of `epoll_wait` for a number of nanoseconds, rounded up. -/
def nanosecondsToTimeout (nanoseconds : Int64) : Int32 :=
  if nanoseconds < 0 then infiniteTimeout
  else
    let milliseconds := nanoseconds / nanosecondsPerOneMillisecond
    let milliseconds :=
      if nanoseconds % nanosecondsPerOneMillisecond > 0 then milliseconds + 1
      else milliseconds
    if milliseconds > Int32.maxValue.toInt64 then Int32.maxValue
    else milliseconds.toInt32

namespace NoneIoWaiter

/-- `std::chrono::hours(HOURS_PER_YEAR)` in nanoseconds. -/
def oneYear : Int64 := 24 * 365 * 3600 * 1000000000

/-- How long the waiter sleeps if nobody wakes it up, `none` for ever. -/
def waitFor (nanoseconds : Int64) : Option Int64 :=
  if nanoseconds < 0 then none
  else some (if nanoseconds > oneYear then oneYear else nanoseconds)

end NoneIoWaiter

/-- Two readings of the steady clock, one after the other. -/
structure ClockReadings where
  first : TimePoint
  second : TimePoint
  steady : first ≤ second

section Arithmetic

variable (now when : TimePoint)

theorem toInt_nanosecondsPerOneMillisecond :
    nanosecondsPerOneMillisecond.toInt = 1000000 := by
  decide

/-- A sum of 64-bit numbers wraps around. -/
theorem toInt_addMilliseconds (delayTime : Int64) :
    (now.addMilliseconds delayTime).toInt =
      (now.toInt + delayTime.toInt * 1000000).bmod (2 ^ 64) := by
  rw [TimePoint.addMilliseconds, Int64.toInt_add, Int64.toInt_mul,
    toInt_nanosecondsPerOneMillisecond, Int.add_bmod_bmod]

/-- Before the epoch of the clock the milliseconds are rounded up. -/
theorem tdiv_million (number : ℤ) :
    0 ≤ number ∧ number.tdiv 1000000 * 1000000 ≤ number ∧
        number < number.tdiv 1000000 * 1000000 + 1000000 ∨
      number < 0 ∧ number ≤ number.tdiv 1000000 * 1000000 ∧
        number.tdiv 1000000 * 1000000 < number + 1000000 := by
  rcases Int.lt_or_le number 0 with negative | nonneg
  · have flipped : number.tdiv 1000000 = -((-number) / 1000000) := by
      rw [← Int.tdiv_eq_ediv_of_nonneg (by omega), Int.neg_tdiv, Int.neg_neg]
    omega
  · have plain := Int.tdiv_eq_ediv_of_nonneg (b := 1000000) nonneg
    omega

theorem toInt_countMilliseconds :
    now.countMilliseconds.toInt = now.toInt.tdiv 1000000 := by
  rw [TimePoint.countMilliseconds, Int64.toInt_div,
    toInt_nanosecondsPerOneMillisecond]
  have low := now.le_toInt
  have high := now.toInt_lt
  have rounded := tdiv_million now.toInt
  apply Int.bmod_eq_of_le <;> omega

end Arithmetic

section Sending

variable (handler : EventHandler) (event : Option InnerEvent)
  (priority : Priority)

/-- An event that is inserted is not handled before it is sent, nor before the
requested time if that is still to come; times are integers here. -/
def IsTimely (requested : ℤ) : Option QueueCall → Prop
  | some (.insert (some event) _) =>
      event.sendTime ≤ event.handleTime ∧
        (event.sendTime.toInt < requested →
          requested ≤ event.handleTime.toInt)
  | _ => True

/-- The event is not sent at all. -/
def EventHandler.Refuses : Prop :=
  event = none ∨ handler.hasRunner = false

variable {handler event}

theorem isTimely_of_refuses (refuses : handler.Refuses event)
    (requested : ℤ) (delayTime : Int64) (now : TimePoint) :
    IsTimely requested (handler.sendEvent event delayTime priority now) := by
  rcases refuses with rfl | absent
  · trivial
  · cases event with
    | none => trivial
    | some event => simp [EventHandler.sendEvent, absent, IsTimely]

/-- The time of handling of an event that is sent with a delay. -/
def handleTimeOf (now delayTime : ℤ) : ℤ :=
  if 0 < delayTime then (now + delayTime * 1000000).bmod (2 ^ 64) else now

/-- An event that is sent is timely if its time of handling is. -/
theorem isTimely_sendEvent_iff (sends : ¬handler.Refuses event)
    (requested : ℤ) (delayTime : Int64) (now : TimePoint) :
    IsTimely requested (handler.sendEvent event delayTime priority now) ↔
      now.toInt ≤ handleTimeOf now.toInt delayTime.toInt ∧
        (now.toInt < requested →
          requested ≤ handleTimeOf now.toInt delayTime.toInt) := by
  simp only [EventHandler.Refuses, not_or, Bool.not_eq_false] at sends
  obtain ⟨event, rfl⟩ := Option.ne_none_iff_exists'.mp sends.1
  have positive : 0 < delayTime ↔ 0 < delayTime.toInt := Int64.lt_iff_toInt_lt
  simp only [EventHandler.sendEvent, sends.2, Bool.not_true, Bool.false_eq_true,
    if_false, IsTimely, Int64.le_iff_toInt_le, gt_iff_lt, positive, handleTimeOf]
  split
  · rw [toInt_addMilliseconds]
  · rfl

/-- A number that wraps around differs from itself by a number of turns. -/
theorem exists_bmod_eq (number : ℤ) :
    ∃ turns, number.bmod (2 ^ 64) = number - turns * 2 ^ 64 ∧
      -2 ^ 63 ≤ number.bmod (2 ^ 64) ∧ number.bmod (2 ^ 64) < 2 ^ 63 := by
  have low := @Int.le_bmod number (2 ^ 64) (by decide)
  have high := @Int.bmod_lt number (2 ^ 64) (by decide)
  refine ⟨number.bdiv (2 ^ 64), ?_, by omega, by omega⟩
  exact Int.bmod_eq_self_sub_bdiv_mul number (2 ^ 64)

/-- When an event with a delay is timely. -/
theorem delay_isTimely_iff {now delayTime : ℤ} (nowLow : -2 ^ 63 ≤ now)
    (nowHigh : now < 2 ^ 63) :
    now ≤ handleTimeOf now delayTime ∧ (now < now + delayTime * 1000000 →
        now + delayTime * 1000000 ≤ handleTimeOf now delayTime) ↔
      delayTime ≤ 0 ∨ now + delayTime * 1000000 < 2 ^ 63 := by
  obtain ⟨turns, sum, low, high⟩ := exists_bmod_eq (now + delayTime * 1000000)
  unfold handleTimeOf
  split
  · generalize (now + delayTime * 1000000).bmod (2 ^ 64) = handleTime at *
    constructor
    · intro timely
      omega
    · intro fits
      omega
  · omega

/-- When an event with a time of its own is timely; `millis` is the first
reading of the clock in milliseconds. -/
theorem task_isTimely_iff {task first second millis : ℤ}
    (taskLow : -2 ^ 63 ≤ task) (taskHigh : task < 2 ^ 63)
    (firstLow : -2 ^ 63 ≤ first) (secondHigh : second < 2 ^ 63)
    (steady : first ≤ second)
    (rounded : 0 ≤ first ∧ millis * 1000000 ≤ first ∧
        first < millis * 1000000 + 1000000 ∨
      first < 0 ∧ first ≤ millis * 1000000 ∧
        millis * 1000000 < first + 1000000) :
    second ≤ handleTimeOf second ((task - millis).bmod (2 ^ 64)) ∧
        (second < task * 1000000 → task * 1000000 ≤
          handleTimeOf second ((task - millis).bmod (2 ^ 64))) ↔
      -2 ^ 63 ≤ task - millis ∧ (millis ≤ task →
        millis * 1000000 ≤ second ∧
          second + (task - millis) * 1000000 < 2 ^ 63) := by
  obtain ⟨turns, delay, delayLow, delayHigh⟩ := exists_bmod_eq (task - millis)
  generalize (task - millis).bmod (2 ^ 64) = delayTime at *
  obtain ⟨rounds, sum, low, high⟩ := exists_bmod_eq (second + delayTime * 1000000)
  unfold handleTimeOf
  split
  · generalize (second + delayTime * 1000000).bmod (2 ^ 64) = handleTime at *
    -- The difference to the task's time fits unless that time is long past.
    rcases Int.lt_or_le (task - millis) (-2 ^ 63) with past | fits
    · have turned : turns = -1 := by omega
      omega
    · have turned : turns = 0 := by omega
      subst turned
      constructor
      · intro timely
        omega
      · intro fits
        omega
  · rcases Int.lt_or_le (task - millis) (2 ^ 63) with fits | future
    · omega
    · omega

/-- The first reading in milliseconds. -/
def ClockReadings.millis (readings : ClockReadings) : ℤ :=
  readings.first.toInt.tdiv 1000000

/-- Neither the delay until the time of a task wraps around nor the time of
handling that it leads to, and the clock has reached its own reading in
milliseconds, which is rounded up before the epoch. -/
def TaskFits (taskTime : Int64) (readings : ClockReadings) : Prop :=
  -2 ^ 63 ≤ taskTime.toInt - readings.millis ∧
    (readings.millis ≤ taskTime.toInt →
      readings.millis * 1000000 ≤ readings.second.toInt ∧
        readings.second.toInt + (taskTime.toInt - readings.millis) * 1000000 <
          2 ^ 63)

variable (handler event)

theorem isTimely_sendEvent (delayTime : Int64) (now : TimePoint) :
    IsTimely (now.toInt + delayTime.toInt * 1000000)
        (handler.sendEvent event delayTime priority now) ↔
      handler.Refuses event ∨ delayTime.toInt ≤ 0 ∨
        now.toInt + delayTime.toInt * 1000000 < 2 ^ 63 := by
  by_cases refuses : handler.Refuses event
  · simp [refuses, isTimely_of_refuses priority refuses]
  · rw [isTimely_sendEvent_iff priority refuses,
      delay_isTimely_iff now.le_toInt now.toInt_lt]
    simp [refuses]

/-- A task whose time has come is sent like one without a delay. -/
theorem sendTimingEvent_eq (taskTime : Int64) (nowSys now : TimePoint) :
    ∃ delayTime, handler.sendTimingEvent event taskTime priority nowSys now =
        handler.sendEvent event delayTime priority now ∧
      handleTimeOf now.toInt delayTime.toInt = handleTimeOf now.toInt
        ((taskTime.toInt - nowSys.toInt.tdiv 1000000).bmod (2 ^ 64)) := by
  have difference : (taskTime - nowSys.countMilliseconds).toInt =
      (taskTime.toInt - nowSys.toInt.tdiv 1000000).bmod (2 ^ 64) := by
    rw [Int64.toInt_sub, toInt_countMilliseconds]
  unfold EventHandler.sendTimingEvent
  simp only
  split
  · next past =>
      rw [Int64.lt_iff_toInt_lt, difference] at past
      have notPositive := Int.not_lt.mpr (Int.le_of_lt past)
      refine ⟨0, rfl, ?_⟩
      rw [Int64.toInt_zero] at notPositive ⊢
      simp only [handleTimeOf, if_neg notPositive, lt_irrefl, if_false]
  · exact ⟨_, rfl, by rw [difference]⟩

theorem isTimely_sendTimingEvent (taskTime : Int64) (readings : ClockReadings) :
    IsTimely (taskTime.toInt * 1000000)
        (handler.sendTimingEvent event taskTime priority readings.first
          readings.second) ↔
      handler.Refuses event ∨ TaskFits taskTime readings := by
  obtain ⟨delayTime, sent, sameTime⟩ := sendTimingEvent_eq handler event priority
    taskTime readings.first readings.second
  rw [sent]
  by_cases refuses : handler.Refuses event
  · simp [refuses, isTimely_of_refuses priority refuses]
  · rw [isTimely_sendEvent_iff priority refuses, sameTime,
      task_isTimely_iff taskTime.le_toInt taskTime.toInt_lt
        readings.first.le_toInt readings.second.toInt_lt
        (Int64.le_iff_toInt_le.mp readings.steady)
        (tdiv_million readings.first.toInt)]
    simp [refuses, TaskFits, ClockReadings.millis]

end Sending

section Waiting

variable (when now : TimePoint)

theorem toInt_timePointToTimeOut :
    (timePointToTimeOut when now).toInt =
      if when.toInt ≤ now.toInt then 0
      else (when.toInt - now.toInt).bmod (2 ^ 64) := by
  unfold timePointToTimeOut
  rw [apply_ite Int64.toInt, Int64.toInt_sub]
  simp only [Int64.le_iff_toInt_le, Int64.toInt_zero]

/-- The milliseconds of a timeout, rounded up. -/
theorem toInt_milliseconds {nanoseconds : Int64}
    (nonneg : 0 ≤ nanoseconds.toInt) :
    (if nanoseconds % nanosecondsPerOneMillisecond > 0 then
        nanoseconds / nanosecondsPerOneMillisecond + 1
      else nanoseconds / nanosecondsPerOneMillisecond).toInt =
      (nanoseconds.toInt + 999999) / 1000000 := by
  have high := nanoseconds.toInt_lt
  have quotient : (nanoseconds / nanosecondsPerOneMillisecond).toInt =
      nanoseconds.toInt / 1000000 := by
    have rounded := toInt_countMilliseconds nanoseconds
    rw [Int.tdiv_eq_ediv_of_nonneg nonneg] at rounded
    exact rounded
  have remainder : nanoseconds % nanosecondsPerOneMillisecond > 0 ↔
      0 < nanoseconds.toInt % 1000000 := by
    rw [gt_iff_lt, Int64.lt_iff_toInt_lt, Int64.toInt_mod,
      toInt_nanosecondsPerOneMillisecond, Int.tmod_eq_emod_of_nonneg nonneg,
      Int64.toInt_zero]
  split
  · next rest =>
      rw [remainder] at rest
      rw [Int64.toInt_add, quotient, Int64.toInt_one, Int.bmod_eq_of_le] <;> omega
  · next exactly =>
      rw [remainder] at exactly
      rw [quotient]
      omega

/-- A timeout is rounded up and is never more than fits in it. -/
theorem toInt_nanosecondsToTimeout {nanoseconds : Int64}
    (nonneg : 0 ≤ nanoseconds.toInt) :
    (nanosecondsToTimeout nanoseconds).toInt =
      min (2 ^ 31 - 1) ((nanoseconds.toInt + 999999) / 1000000) := by
  have notNegative : ¬nanoseconds < 0 := by
    rw [Int64.lt_iff_toInt_lt, Int64.toInt_zero]
    omega
  have milliseconds := toInt_milliseconds nonneg
  unfold nanosecondsToTimeout
  rw [if_neg notNegative]
  simp only
  generalize (if nanoseconds % nanosecondsPerOneMillisecond > 0 then _ else _) =
    rounded at *
  have cap : rounded > Int32.maxValue.toInt64 ↔ 2 ^ 31 - 1 < rounded.toInt := by
    rw [gt_iff_lt, Int64.lt_iff_toInt_lt]
    rfl
  split
  · next tooLong =>
      rw [cap, milliseconds] at tooLong
      rw [min_eq_left (Int.le_of_lt tooLong)]
      rfl
  · next fits =>
      rw [cap, milliseconds] at fits
      rw [Int64.toInt_toInt32, milliseconds, Int.bmod_eq_of_le] <;> omega

/-- The waiting time for a point of time that is `when - now` nanoseconds away is
neither endless nor shorter than that, unless it is as long as can be. -/
structure IsWaitingTime (when now : TimePoint) : Prop where
  nanoseconds_nonneg : 0 ≤ timePointToTimeOut when now
  left_le_nanoseconds :
    when.toInt - now.toInt ≤ (timePointToTimeOut when now).toInt
  timeout_nonneg : 0 ≤ nanosecondsToTimeout (timePointToTimeOut when now)
  left_le_timeout :
    nanosecondsToTimeout (timePointToTimeOut when now) = Int32.maxValue ∨
      when.toInt - now.toInt ≤
        (nanosecondsToTimeout (timePointToTimeOut when now)).toInt * 1000000

theorem isWaitingTime_iff :
    IsWaitingTime when now ↔ when.toInt - now.toInt < 2 ^ 63 := by
  have wait := toInt_timePointToTimeOut when now
  obtain ⟨turns, wrapped, low, high⟩ := exists_bmod_eq (when.toInt - now.toInt)
  have whenHigh := when.toInt_lt
  have nowLow := now.le_toInt
  constructor
  · intro waiting
    have nonneg := waiting.nanoseconds_nonneg
    rw [Int64.le_iff_toInt_le, Int64.toInt_zero, wait] at nonneg
    split at nonneg <;> omega
  · intro fits
    have exactly : (timePointToTimeOut when now).toInt =
        max 0 (when.toInt - now.toInt) := by
      rw [wait]
      split <;> omega
    have nonneg : 0 ≤ (timePointToTimeOut when now).toInt := by omega
    have timeout := toInt_nanosecondsToTimeout nonneg
    refine ⟨?_, by omega, ?_, ?_⟩
    · rw [Int64.le_iff_toInt_le, Int64.toInt_zero]
      exact nonneg
    · rw [Int32.le_iff_toInt_le, Int32.toInt_zero]
      omega
    · rcases Int.lt_or_le (2 ^ 31 - 1)
          (((timePointToTimeOut when now).toInt + 999999) / 1000000) with
        tooLong | short
      · left
        apply Int32.toInt_inj.mp
        rw [timeout, min_eq_left (Int.le_of_lt tooLong)]
        rfl
      · right
        omega

/-- A thread that waits without descriptors sleeps as long as it has to, or a
year. -/
theorem waitFor_timePointToTimeOut (fits : when.toInt - now.toInt < 2 ^ 63) :
    ∃ duration, NoneIoWaiter.waitFor (timePointToTimeOut when now) =
        some duration ∧
      (duration = NoneIoWaiter.oneYear ∨
        when.toInt - now.toInt ≤ duration.toInt) := by
  have waiting := (isWaitingTime_iff when now).mpr fits
  unfold NoneIoWaiter.waitFor
  rw [if_neg (Int64.not_lt.mpr waiting.nanoseconds_nonneg)]
  split
  · exact ⟨_, rfl, .inl rfl⟩
  · exact ⟨_, rfl, .inr waiting.left_le_nanoseconds⟩

end Waiting

/-- The times of events and the timeouts are right exactly where nothing wraps
around. -/
theorem delays_iff (handler : EventHandler) (event : Option InnerEvent)
    (priority : Priority) :
    (∀ (delayTime : Int64) (now : TimePoint),
      IsTimely (now.toInt + delayTime.toInt * 1000000)
          (handler.sendEvent event delayTime priority now) ↔
        handler.Refuses event ∨ delayTime.toInt ≤ 0 ∨
          now.toInt + delayTime.toInt * 1000000 < 2 ^ 63) ∧
      (∀ (taskTime : Int64) (readings : ClockReadings),
        IsTimely (taskTime.toInt * 1000000)
            (handler.sendTimingEvent event taskTime priority readings.first
              readings.second) ↔
          handler.Refuses event ∨ TaskFits taskTime readings) ∧
      ∀ when now : TimePoint,
        IsWaitingTime when now ↔ when.toInt - now.toInt < 2 ^ 63 :=
  ⟨isTimely_sendEvent handler event priority,
    isTimely_sendTimingEvent handler event priority, isWaitingTime_iff⟩

/-- An event that is to be handled in 300 million years is handled at once, and
before it is sent. -/
theorem sendEvent_at_once :
    ¬ ∀ (handler : EventHandler) (event : Option InnerEvent)
      (priority : Priority) (delayTime : Int64) (now : TimePoint),
      IsTimely (now.toInt + delayTime.toInt * 1000000)
        (handler.sendEvent event delayTime priority now) := by
  intro always
  have timely := always { id := 1, hasRunner := true } (some {}) .low
    Int64.maxValue 1000000000
  exact absurd timely.1 (by decide)

end AppExecFwk
