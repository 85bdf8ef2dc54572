import AppExecFwk.EventHandler.WaitProtocol

/-!
# Stopping a runner

`EventRunner::Create` starts a thread that prepares the queue, makes sure its
runner still exists and loops until the queue is finished.  The thread is asked
to stop by the destruction of the runner and by the thread collector, which
joins it afterwards.  A stop request that comes before the queue is prepared is
undone; the thread does not loop then if the runner is being destroyed, but it
does if the request was that of the collector.
-/

namespace AppExecFwk

/-- How far the thread of a runner is. -/
inductive RunnerPhase where
  /-- It has been started. -/
  | created
  /-- It holds the inner runner. -/
  | locked
  /-- It has prepared the queue. -/
  | prepared
  /-- It is in the event loop. -/
  | looping
  /-- It is past the event loop. -/
  | left
  /-- It has asked the thread collector to reclaim it. -/
  | reclaimed
  deriving DecidableEq

/-- Who has the handle of the thread. -/
inductive ThreadHandle where
  | creator
  | collector
  | joining
  deriving DecidableEq

/-- A runner with its thread and those who stop it. -/
structure RunnerState where
  wait : WaitState
  phase : RunnerPhase := .created
  handle : ThreadHandle := .creator
  /-- Nobody owns the runner any more. -/
  ownerExpired : Bool := false
  /-- The destructor of the runner has run. -/
  destructed : Bool := false
  /-- A stop request has been made. -/
  stopped : Bool := false
  /-- The queue was prepared after the last stop request. -/
  overwritten : Bool := false

namespace RunnerState

variable (state : RunnerState)

/-- Finish the queue on request. -/
def stop : RunnerState :=
  { state with
    wait := state.wait.finish
    stopped := true
    overwritten := false }

/-- Prepare the queue for the event loop. -/
def prepare : RunnerState :=
  { state with
    wait := { state.wait with queue := state.wait.queue.prepare }
    phase := .prepared
    overwritten := state.stopped }

end RunnerState

/-- A step of the thread of the runner. -/
inductive RunnerThreadStep : RunnerState → RunnerState → Prop where
  | lockFails (state : RunnerState) (phase : state.phase = .created)
      (destructed : state.destructed = true) :
      RunnerThreadStep state { state with phase := .left }
  | locks (state : RunnerState) (phase : state.phase = .created) :
      RunnerThreadStep state { state with phase := .locked }
  | prepares (state : RunnerState) (phase : state.phase = .locked) :
      RunnerThreadStep state state.prepare
  | findsOwnerExpired (state : RunnerState) (phase : state.phase = .prepared)
      (expired : state.ownerExpired = true) :
      RunnerThreadStep state { state with phase := .left }
  | entersLoop (state : RunnerState) (phase : state.phase = .prepared)
      (exists' : state.ownerExpired = false) :
      RunnerThreadStep state { state with phase := .looping }
  | loops (state : RunnerState) (phase : state.phase = .looping)
      (wait : WaitState) (step : ThreadStep state.wait wait) :
      RunnerThreadStep state { state with wait := wait }
  | leavesLoop (state : RunnerState) (phase : state.phase = .looping)
      (finished : state.wait.phase = .returned none) :
      RunnerThreadStep state { state with phase := .left }
  | reclaims (state : RunnerState) (phase : state.phase = .left) :
      RunnerThreadStep state { state with phase := .reclaimed }

/-- A step of anybody else. -/
inductive RunnerClientStep : RunnerState → RunnerState → Prop where
  | client (state : RunnerState) (wait : WaitState)
      (step : ClientStep state.wait wait) :
      RunnerClientStep state { state with wait := wait }
  /-- The last reference to the runner is dropped. -/
  | expires (state : RunnerState) :
      RunnerClientStep state { state with ownerExpired := true }
  /-- The destructor stops the thread. -/
  | destructs (state : RunnerState) (expired : state.ownerExpired = true) :
      RunnerClientStep state { state.stop with destructed := true }
  /-- The thread is deposited with the collector. -/
  | attaches (state : RunnerState) (handle : state.handle = .creator) :
      RunnerClientStep state { state with handle := .collector }
  /-- The collector does not take the thread, so the creator stops and joins it. -/
  | attachFails (state : RunnerState) (handle : state.handle = .creator) :
      RunnerClientStep state { state.stop with handle := .joining }
  /-- The collector calls the exit function and joins the thread. -/
  | exits (state : RunnerState) (handle : state.handle = .collector) :
      RunnerClientStep state { state.stop with handle := .joining }
  /-- The collector joins a thread that has asked for it. -/
  | joins (state : RunnerState) (handle : state.handle = .collector)
      (phase : state.phase = .reclaimed) :
      RunnerClientStep state { state with handle := .joining }

/-- A step of the runner. -/
def RunnerStep (state next : RunnerState) : Prop :=
  RunnerThreadStep state next ∨ RunnerClientStep state next

/-- The thread does not enter the loop after a stop request that was undone. -/
def KeepsStop (state next : RunnerState) : Prop :=
  state.phase = .prepared → next.phase = .looping → state.overwritten = false

/-- A runner that has just been created. -/
def RunnerState.start (idleTimeStamp : TimePoint) : RunnerState where
  wait := .start idleTimeStamp true .none

/-- How many steps the thread has still to do when the queue is finished. -/
def GetEventPhase.stepsLeft : GetEventPhase → Nat
  | .returned none => 0
  | .outside => 1
  | .returned (some _) => 2
  | .locking _ => 1
  | .counted _ _ _ => 2
  | .woken _ _ _ => 3
  | .waiting _ _ => 4

/-- How many steps the thread has still to do when it is stopped. -/
def RunnerState.stepsLeft (state : RunnerState) : Nat :=
  match state.phase with
  | .reclaimed => 0
  | .left => 1
  | .looping => state.wait.phase.stepsLeft + 2
  | .prepared => 4
  | .locked => 5
  | .created => 6

/-- The thread is asleep and nothing has woken it up. -/
def RunnerState.IsBlocked (state : RunnerState) : Prop :=
  state.phase = .looping ∧ ∃ holder deadline,
    state.wait.phase = .waiting holder deadline ∧
      (state.wait.waiters holder).notified = false

/-- The thread will end: it is not blocked, every step brings it nearer to its
end, nobody else throws it back, and it takes no other event. -/
structure RunnerState.IsEnding (state : RunnerState) : Prop where
  awake : ¬state.IsBlocked
  nearer : ∀ next, RunnerThreadStep state next → KeepsStop state next →
    next.stepsLeft < state.stepsLeft
  undisturbed : ∀ next, RunnerClientStep state next →
    next.stepsLeft = state.stepsLeft
  noEvent : ∀ next event, RunnerThreadStep state next → KeepsStop state next →
    next.wait.phase = .returned (some event) →
      state.wait.phase = .returned (some event)

/-- What may happen to a runner, with the number of the steps of its thread. -/
inductive RunnerPath : RunnerState → Nat → RunnerState → Prop where
  | refl (state : RunnerState) : RunnerPath state 0 state
  | thread {first state next : RunnerState} {steps : Nat}
      (path : RunnerPath first steps state) (step : RunnerThreadStep state next)
      (keeps : KeepsStop state next) : RunnerPath first (steps + 1) next
  | client {first state next : RunnerState} {steps : Nat}
      (path : RunnerPath first steps state) (step : RunnerClientStep state next) :
      RunnerPath first steps next

section Wait

variable {state next : WaitState}

@[simp]
theorem WaitState.getEventLocked_finished (now : TimePoint) :
    (state.getEventLocked now).queue.finished = state.queue.finished := by
  unfold WaitState.getEventLocked
  split
  · rfl
  · rcases taken : state.queue.getExpiredEventLocked now TimePoint.max with
      ⟨event, time, queue⟩
    have same := EventQueue.getExpiredEventLocked_finished taken
    cases event <;> exact same

@[simp]
theorem WaitState.afterWait_queue (failed : Bool) :
    (state.afterWait failed).queue = state.queue := by
  cases failed <;> rfl

/-- A finished queue gives the thread no event and nothing to wait for. -/
theorem WaitState.getEventLocked_of_finished
    (finished : state.queue.finished = true) (now : TimePoint) :
    (state.getEventLocked now).phase = .returned none := by
  unfold WaitState.getEventLocked
  rw [if_pos finished]

/-- Taking events neither finishes the queue nor prepares it. -/
theorem ThreadStep.finished (step : ThreadStep state next) :
    next.queue.finished = state.queue.finished := by
  cases step with
  | call now phase => simp
  | dispatched event phase => rfl
  | conditionWakes holder deadline now phase kind =>
      simp [WaitState.setWaiter]
  | epollReturns holder deadline awakened failed phase kind readable => rfl
  | epollCounts holder awakened failed phase => rfl
  | epollDrains holder awakened failed phase => rfl
  | locks failed now phase => simp

theorem WaitState.notify_queue : state.notify.queue = state.queue :=
  rfl

theorem ClientStep.frame (step : ClientStep state next) :
    next.queue.finished = state.queue.finished ∧ next.phase = state.phase := by
  cases step with
  | insert event priority =>
      have same := EventQueue.insert_finished state.queue event priority
      unfold WaitState.insert
      split
      next needNotify queue inserted =>
        rw [inserted] at same
        split <;> exact ⟨same, rfl⟩
  | remove removal =>
      refine ⟨?_, rfl⟩
      unfold WaitState.remove
      rw [removal.apply_eq_remove]
      rfl
  | addFileDescriptorListener fileDescriptor hasEvents hasListener initialized
      added =>
      unfold WaitState.addFileDescriptorListener
        WaitState.ensureIoWaiterSupportListerningFileDescriptorLocked
      grind [WaitState.replaceWaiter, WaitState.notify, WaitState.setWaiter]
  | lateNotification holder kind => exact ⟨rfl, rfl⟩

/-- On a finished queue every step of the thread is one to the end, and none of
them takes an event. -/
theorem ThreadStep.stepsLeft_lt (step : ThreadStep state next)
    (finished : state.queue.finished = true) :
    next.phase.stepsLeft < state.phase.stepsLeft ∧
      ∀ event, next.phase ≠ .returned (some event) := by
  have ends (before : WaitState) (now : TimePoint)
      (same : before.queue.finished = true) :
      (before.getEventLocked now).phase = .returned none :=
    WaitState.getEventLocked_of_finished same now
  cases step with
  | call now phase =>
      rw [ends _ now finished, phase]
      simp [GetEventPhase.stepsLeft]
  | dispatched event phase => simp [phase, GetEventPhase.stepsLeft]
  | conditionWakes holder deadline now phase kind =>
      rw [ends (state.setWaiter holder _) now finished, phase]
      simp [GetEventPhase.stepsLeft]
  | epollReturns holder deadline awakened failed phase kind readable =>
      simp [phase, GetEventPhase.stepsLeft]
  | epollCounts holder awakened failed phase =>
      simp [phase, GetEventPhase.stepsLeft]
  | epollDrains holder awakened failed phase =>
      simp [phase, GetEventPhase.stepsLeft]
  | locks failed now phase =>
      rw [ends _ now (by simpa using finished), phase]
      simp [GetEventPhase.stepsLeft]

end Wait

namespace RunnerState

variable {state next : RunnerState}

/-- A stop request is kept from the preparation of the queue on, unless it has
been overwritten, and then the thread does not loop. -/
structure IsSound (state : RunnerState) : Prop where
  alert : state.wait.IsAlert
  outside : state.phase = .created ∨ state.phase = .locked ∨
    state.phase = .prepared → state.wait.phase = .outside
  finished : state.phase = .prepared ∨ state.phase = .looping →
    state.stopped = true → state.overwritten = false →
      state.wait.queue.finished = true
  entered : state.phase = .looping → state.overwritten = false
  requested : state.handle = .joining →
    state.stopped = true ∨ state.phase = .reclaimed

theorem isSound_start (idleTimeStamp : TimePoint) :
    (start idleTimeStamp).IsSound where
  alert := WaitState.isAlert_start _ _ _
  outside _ := rfl
  finished := nofun
  entered := nofun
  requested := nofun

theorem IsSound.threadStep (sound : state.IsSound)
    (step : RunnerThreadStep state next) (keeps : KeepsStop state next) :
    next.IsSound := by
  obtain ⟨alert, outside, finished, entered, requested⟩ := sound
  cases step with
  | lockFails phase destructed =>
      exact ⟨alert, nofun, nofun, nofun, by simp_all⟩
  | locks phase => exact ⟨alert, by simp_all, by simp, nofun, by simp_all⟩
  | prepares phase =>
      refine ⟨⟨alert.sorted, alert.made, ?_⟩, ?_, ?_, nofun, by simp_all [prepare]⟩
      · intro holder deadline asleep
        simp_all [prepare]
      · simp_all [prepare]
      · simp_all [prepare]
  | findsOwnerExpired phase expired =>
      exact ⟨alert, nofun, nofun, nofun, by simp_all⟩
  | entersLoop phase unexpired =>
      exact ⟨alert, nofun, by simp_all, fun _ => keeps phase rfl, by simp_all⟩
  | loops phase wait step =>
      refine ⟨alert.threadStep step, by simp_all, ?_, by simp_all, by simp_all⟩
      rw [step.finished]
      exact finished
  | leavesLoop phase returned => exact ⟨alert, nofun, nofun, nofun, by simp_all⟩
  | reclaims phase => exact ⟨alert, nofun, nofun, nofun, by simp_all⟩

theorem IsSound.stop (sound : state.IsSound) : state.stop.IsSound where
  alert := sound.alert.finish
  outside := sound.outside
  finished _ _ _ := rfl
  entered _ := rfl
  requested _ := .inl rfl

theorem IsSound.clientStep (sound : state.IsSound)
    (step : RunnerClientStep state next) : next.IsSound := by
  cases step with
  | client wait step =>
      obtain ⟨same, samePhase⟩ := step.frame
      refine ⟨sound.alert.clientStep step, ?_, ?_, sound.entered,
        sound.requested⟩
      · rw [samePhase]
        exact sound.outside
      · rw [same]
        exact sound.finished
  | expires => exact { sound with }
  | destructs expired => exact { sound.stop with }
  | attaches handle => exact { sound with requested := nofun }
  | attachFails handle => exact { sound.stop with requested := fun _ => .inl rfl }
  | exits handle => exact { sound.stop with requested := fun _ => .inl rfl }
  | joins handle phase => exact { sound with requested := fun _ => .inr phase }

theorem IsSound.isEnding (sound : state.IsSound)
    (stopped : state.stopped = true) : state.IsEnding where
  awake := by
    rintro ⟨looping, holder, deadline, asleep, unnotified⟩
    have finished := sound.finished (.inr looping) stopped
      (sound.entered looping)
    obtain ⟨-, -, watched⟩ := sound.alert.asleep holder deadline asleep
    rw [(watched unnotified).unfinished] at finished
    cases finished
  nearer := by
    intro next step keeps
    cases step with
    | loops phase wait step =>
        have finished := sound.finished (.inr phase) stopped (sound.entered phase)
        have nearer := (step.stepsLeft_lt finished).1
        simpa [stepsLeft, phase] using nearer
    | entersLoop phase unexpired =>
        have outside := sound.outside (.inr (.inr phase))
        simp [stepsLeft, phase, outside, GetEventPhase.stepsLeft]
    | leavesLoop phase returned => simp [stepsLeft, phase]
    | lockFails phase | locks phase | prepares phase
    | findsOwnerExpired phase | reclaims phase =>
        simp [stepsLeft, phase, prepare]
  undisturbed := by
    intro next step
    cases step with
    | client wait step => simp [stepsLeft, step.frame.2]
    | expires | destructs | attaches | attachFails | exits | joins => rfl
  noEvent := by
    intro next event step keeps taken
    cases step with
    | loops phase wait step =>
        have finished := sound.finished (.inr phase) stopped (sound.entered phase)
        exact absurd taken ((step.stepsLeft_lt finished).2 event)
    | lockFails | locks | prepares | findsOwnerExpired | entersLoop | leavesLoop
    | reclaims => exact taken

theorem IsSound.path {steps : Nat} (sound : state.IsSound)
    (path : RunnerPath state steps next) : next.IsSound := by
  induction path with
  | refl => exact sound
  | thread path step keeps ih => exact ih.threadStep step keeps
  | client path step ih => exact ih.clientStep step

/-- A stop request stays made. -/
theorem stopped_of_path {steps : Nat} (path : RunnerPath state steps next)
    (stopped : state.stopped = true) : next.stopped = true := by
  induction path with
  | refl => exact stopped
  | thread path step keeps ih =>
      cases step <;> exact ih
  | client path step ih =>
      cases step with
      | client | expires | attaches | joins => exact ih
      | destructs | attachFails | exits => rfl

/-- A stopped thread does no more steps than it has left. -/
theorem IsSound.steps_add_le {steps : Nat} (sound : state.IsSound)
    (path : RunnerPath state steps next) (stopped : state.stopped = true) :
    steps + next.stepsLeft ≤ state.stepsLeft := by
  induction path with
  | refl => omega
  | thread path step keeps ih =>
      have ending := (sound.path path).isEnding (stopped_of_path path stopped)
      have nearer := ending.nearer _ step keeps
      have before := ih
      omega
  | client path step ih =>
      have ending := (sound.path path).isEnding (stopped_of_path path stopped)
      have undisturbed := ending.undisturbed _ step
      have before := ih
      omega

theorem stepsLeft_le (state : RunnerState) : state.stepsLeft ≤ 6 := by
  unfold stepsLeft GetEventPhase.stepsLeft
  split
  case h_3 => split <;> omega
  all_goals omega

end RunnerState

/-- A runner destroyed before its thread has started. -/
def destroyedRunner : RunnerState :=
  let start : RunnerState := .start 0
  { { start with ownerExpired := true }.stop with destructed := true }

end AppExecFwk
