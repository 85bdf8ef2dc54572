import Mathlib.Logic.Function.Basic
import AppExecFwk.Library.Runs

/-!
# Waiting for the initial user

`CreateNewUser` waits until the boot scan has created the initial user.  The
waiting thread reads a flag, hands a promise to the data manager and waits for
it; the boot thread looks for a promise, notifies it and sets the flag.  A
promise that is handed over after the boot thread has looked for it is never
notified.
-/

namespace AppExecFwk

/-- A thread, by its number. -/
abbrev ThreadId := Nat

/-- A shared promise, by its address. -/
abbrev PromiseId := Nat

/-- `BundlePromise`: one side waits until the other has finished all tasks. -/
structure BundlePromise where
  hasNotified : Bool := false
  hasWaited : Bool := false
  /-- The promise has its value. -/
  isSet : Bool := false
  deriving DecidableEq

namespace BundlePromise

/-- Tell the waiting thread that all tasks have been executed. -/
def notifyAllTasksExecuteFinished (promise : BundlePromise) : BundlePromise :=
  if promise.hasNotified then promise
  else { promise with hasNotified := true, isSet := true }

/-- Begin to wait; the result tells whether the thread has to wait for the
value. -/
def waitForAllTasksExecute (promise : BundlePromise) : Bool × BundlePromise :=
  if promise.hasWaited then (false, promise)
  else (true, { promise with hasWaited := true })

@[simp]
theorem notify_hasNotified (promise : BundlePromise) :
    promise.notifyAllTasksExecuteFinished.hasNotified = true := by
  unfold notifyAllTasksExecuteFinished
  split
  · next notified => exact notified
  · rfl

@[simp]
theorem notify_hasWaited (promise : BundlePromise) :
    promise.notifyAllTasksExecuteFinished.hasWaited = promise.hasWaited := by
  unfold notifyAllTasksExecuteFinished
  split <;> rfl

@[simp]
theorem wait_hasNotified (promise : BundlePromise) :
    promise.waitForAllTasksExecute.2.hasNotified = promise.hasNotified := by
  unfold waitForAllTasksExecute
  split <;> rfl

@[simp]
theorem wait_isSet (promise : BundlePromise) :
    promise.waitForAllTasksExecute.2.isSet = promise.isSet := by
  unfold waitForAllTasksExecute
  split <;> rfl

theorem notify_isSet {promise : BundlePromise}
    (faithful : promise.isSet = promise.hasNotified) :
    promise.notifyAllTasksExecuteFinished.isSet = true := by
  unfold notifyAllTasksExecuteFinished
  split
  · next notified => exact faithful.trans notified
  · rfl

end BundlePromise

/-- How far a thread is in `CheckInitialUser`, which `CreateNewUser` calls under
its mutex. -/
inductive CheckPhase where
  /-- Not in `CreateNewUser`. -/
  | outside
  /-- It holds the mutex. -/
  | entered
  /-- It has found that the initial user is not created yet. -/
  | flagUnset
  /-- It has handed a promise to the data manager. -/
  | published (promise : PromiseId)
  | waiting (promise : PromiseId)
  /-- `CheckInitialUser` has returned. -/
  | passed
  deriving DecidableEq

/-- How far the boot thread is in `SetInitialUserFlag`. -/
inductive FlagPhase where
  | outside
  /-- It reads whether the flag is set already. -/
  | started
  /-- It looks for a promise. -/
  | checking
  /-- It has found one, which it notifies. -/
  | notifying
  /-- It sets the flag. -/
  | storing
  deriving DecidableEq

structure InitialUserState where
  initialUserFlag : Bool := false
  /-- The promise that was handed over last. -/
  bundlePromise : Option PromiseId := none
  promises : PromiseId → BundlePromise := fun _ => {}
  /-- How many promises have been made. -/
  promiseNum : Nat := 0
  bundleUserMgrMutex : Option ThreadId := none
  threads : ThreadId → CheckPhase := fun _ => .outside
  boot : FlagPhase := .outside

namespace InitialUserState

variable (state : InitialUserState)

def setThread (thread : ThreadId) (phase : CheckPhase) : InitialUserState :=
  { state with threads := Function.update state.threads thread phase }

def setPromise (number : PromiseId) (promise : BundlePromise) :
    InitialUserState :=
  { state with promises := Function.update state.promises number promise }

/-- `SetBundlePromise` with a new promise. -/
def publish (thread : ThreadId) : InitialUserState :=
  { state with
    bundlePromise := some state.promiseNum
    promiseNum := state.promiseNum + 1
    threads := Function.update state.threads thread
      (.published state.promiseNum) }

/-- Call `WaitForAllTasksExecute`. -/
def wait (thread : ThreadId) (number : PromiseId) : InitialUserState :=
  let (waits, promise) := (state.promises number).waitForAllTasksExecute
  (state.setPromise number promise).setThread thread
    (if waits then .waiting number else .passed)

end InitialUserState

/-- A step of a thread that creates a user. -/
inductive CheckStep (thread : ThreadId) :
    InitialUserState → InitialUserState → Prop where
  | enters (state : InitialUserState) (phase : state.threads thread = .outside)
      (free : state.bundleUserMgrMutex = none) :
      CheckStep thread state
        { state.setThread thread .entered with
          bundleUserMgrMutex := some thread }
  | findsFlagSet (state : InitialUserState)
      (phase : state.threads thread = .entered)
      (created : state.initialUserFlag = true) :
      CheckStep thread state (state.setThread thread .passed)
  | findsFlagUnset (state : InitialUserState)
      (phase : state.threads thread = .entered)
      (missing : state.initialUserFlag = false) :
      CheckStep thread state (state.setThread thread .flagUnset)
  | publishes (state : InitialUserState)
      (phase : state.threads thread = .flagUnset) :
      CheckStep thread state (state.publish thread)
  | waits (state : InitialUserState) (number : PromiseId)
      (phase : state.threads thread = .published number) :
      CheckStep thread state (state.wait thread number)
  | wakes (state : InitialUserState) (number : PromiseId)
      (phase : state.threads thread = .waiting number)
      (set : (state.promises number).isSet = true) :
      CheckStep thread state (state.setThread thread .passed)
  | leaves (state : InitialUserState) (phase : state.threads thread = .passed) :
      CheckStep thread state
        { state.setThread thread .outside with bundleUserMgrMutex := none }

/-- A step of the boot thread, which calls `SetInitialUserFlag(true)`. -/
inductive BootStep : InitialUserState → InitialUserState → Prop where
  | calls (state : InitialUserState) (phase : state.boot = .outside) :
      BootStep state { state with boot := .started }
  | readsFlag (state : InitialUserState) (phase : state.boot = .started) :
      BootStep state { state with
        boot := if state.initialUserFlag then .storing else .checking }
  | checksPromise (state : InitialUserState) (phase : state.boot = .checking) :
      BootStep state { state with
        boot := if state.bundlePromise.isSome then .notifying else .storing }
  | notifies (state : InitialUserState) (number : PromiseId)
      (phase : state.boot = .notifying)
      (found : state.bundlePromise = some number) :
      BootStep state
        { state.setPromise number
            (state.promises number).notifyAllTasksExecuteFinished with
          boot := .storing }
  | setsFlag (state : InitialUserState) (phase : state.boot = .storing) :
      BootStep state { state with boot := .outside, initialUserFlag := true }

def InitialUserStep (state next : InitialUserState) : Prop :=
  (∃ thread, CheckStep thread state next) ∨ BootStep state next

/-- A thread hands its promise over only while the boot thread will still look
for it: before the flag is set and before the last time it reads the pointer. -/
def PublishesInTime (state next : InitialUserState) : Prop :=
  ∀ thread number, state.threads thread = .flagUnset →
    next.threads thread = .published number →
      state.initialUserFlag = false ∧ state.boot ≠ .storing

/-- The flag is set and a thread waits for a promise that nobody notifies. -/
def InitialUserState.HasStuckThread (state : InitialUserState) : Prop :=
  state.initialUserFlag = true ∧ ∃ thread number,
    state.threads thread = .waiting number ∧
      ∀ later, Relation.ReflTransGen InitialUserStep state later →
        (later.promises number).hasNotified = false

/-- The promise that a thread has handed over. -/
def CheckPhase.promise? : CheckPhase → Option PromiseId
  | .published number | .waiting number => some number
  | .outside | .entered | .flagUnset | .passed => none

namespace InitialUserState

variable {state next : InitialUserState} {thread : ThreadId}

/-- What holds in every run: the mutex lets one thread in at a time, and its
promise is the one the data manager has. -/
structure IsOrderly (state : InitialUserState) : Prop where
  alone : ∀ thread, state.threads thread ≠ .outside →
    state.bundleUserMgrMutex = some thread
  handed : ∀ thread number, (state.threads thread).promise? = some number →
    state.bundlePromise = some number
  made : ∀ number, state.bundlePromise = some number → number < state.promiseNum
  faithful : ∀ number,
    (state.promises number).isSet = (state.promises number).hasNotified
  fresh : ∀ number, state.promiseNum ≤ number → state.promises number = {}
  unwaited : ∀ thread number, state.threads thread = .published number →
    (state.promises number).hasWaited = false
  settled : state.initialUserFlag = true →
    state.boot ≠ .checking ∧ state.boot ≠ .notifying

@[simp]
theorem setThread_threads (thread other : ThreadId) (phase : CheckPhase) :
    (state.setThread thread phase).threads other =
      if other = thread then phase else state.threads other := by
  simp [setThread, Function.update_apply]

@[simp]
theorem setPromise_promises (number other : PromiseId)
    (promise : BundlePromise) :
    (state.setPromise number promise).promises other =
      if other = number then promise else state.promises other := by
  simp [setPromise, Function.update_apply]

/-- A promise that nobody has waited for makes the thread wait. -/
theorem wait_eq (number : PromiseId)
    (unwaited : (state.promises number).hasWaited = false) :
    state.wait thread number =
      (state.setPromise number
        { state.promises number with hasWaited := true }).setThread thread
          (.waiting number) := by
  simp [wait, BundlePromise.waitForAllTasksExecute, unwaited]

/-- A thread inside the mutex is the only one. -/
theorem IsOrderly.only (orderly : state.IsOrderly)
    (inside : state.threads thread ≠ .outside) {other : ThreadId}
    (otherInside : state.threads other ≠ .outside) : other = thread := by
  have first := orderly.alone thread inside
  have second := orderly.alone other otherInside
  rw [first] at second
  exact (Option.some.inj second).symm

/-- Moving a thread on inside the mutex without a new promise. -/
theorem IsOrderly.setThread (orderly : state.IsOrderly)
    (inside : state.threads thread ≠ .outside) {phase : CheckPhase}
    (kept : ∀ number, phase.promise? = some number →
      state.bundlePromise = some number)
    (unpublished : ∀ number, phase ≠ .published number) :
    (state.setThread thread phase).IsOrderly where
  alone other otherInside := by
    simp only [setThread_threads] at otherInside
    split at otherInside
    · next same =>
        rw [same]
        exact orderly.alone thread inside
    · exact orderly.alone other otherInside
  handed other number := by
    simp only [setThread_threads]
    split
    · exact kept number
    · exact orderly.handed other number
  made := orderly.made
  faithful := orderly.faithful
  fresh := orderly.fresh
  unwaited other number := by
    simp only [setThread_threads]
    split
    · intro published
      exact absurd published (unpublished number)
    · exact orderly.unwaited other number
  settled := orderly.settled

/-- Changing a promise that has been made. -/
theorem IsOrderly.setPromise (orderly : state.IsOrderly) {number : PromiseId}
    (made : number < state.promiseNum) {promise : BundlePromise}
    (faithful : promise.isSet = promise.hasNotified)
    (unwaited : (state.promises number).hasWaited = false →
      ∀ thread, state.threads thread = .published number →
        promise.hasWaited = false) :
    (state.setPromise number promise).IsOrderly where
  alone := orderly.alone
  handed := orderly.handed
  made := orderly.made
  faithful other := by
    simp only [setPromise_promises]
    split
    · exact faithful
    · exact orderly.faithful other
  fresh other bound := by
    have apart : other ≠ number := by
      rintro rfl
      exact Nat.not_lt.mpr bound made
    simpa [apart] using orderly.fresh other bound
  unwaited thread other published := by
    have before := orderly.unwaited thread other published
    simp only [setPromise_promises]
    split
    · next same =>
        subst same
        exact unwaited before thread published
    · exact before
  settled := orderly.settled

theorem IsOrderly.checkStep (orderly : state.IsOrderly)
    (step : CheckStep thread state next) : next.IsOrderly := by
  cases step with
  | enters phase free =>
      have nobody (other : ThreadId) : state.threads other = .outside := by
        by_contra inside
        have held := orderly.alone other inside
        rw [free] at held
        cases held
      refine ⟨?_, ?_, orderly.made, orderly.faithful, orderly.fresh, ?_,
        orderly.settled⟩
      · intro other inside
        simp only [setThread_threads] at inside
        split at inside
        · next same => rw [same]
        · exact absurd (nobody other) inside
      · intro other number
        simp only [setThread_threads]
        split
        · exact nofun
        · rw [nobody other]
          exact nofun
      · intro other number
        simp only [setThread_threads]
        split
        · exact nofun
        · rw [nobody other]
          exact nofun
  | findsFlagSet phase created | findsFlagUnset phase missing =>
      exact orderly.setThread (by simp [phase]) nofun nofun
  | publishes phase =>
      have inside : state.threads thread ≠ .outside := by simp [phase]
      have threads (other : ThreadId) :
          (state.publish thread).threads other =
            if other = thread then .published state.promiseNum
            else state.threads other := by
        simp [publish, Function.update_apply]
      refine ⟨?_, ?_, ?_, orderly.faithful, ?_, ?_, orderly.settled⟩
      · intro other otherInside
        rw [threads] at otherInside
        split at otherInside
        · next same =>
            rw [same]
            exact orderly.alone thread inside
        · exact orderly.alone other otherInside
      · intro other number handed
        rw [threads] at handed
        split at handed
        · cases handed
          rfl
        · next apart =>
            have outside : state.threads other = .outside := by
              by_contra otherInside
              exact apart (orderly.only inside otherInside)
            rw [outside] at handed
            cases handed
      · intro number handed
        cases handed
        exact Nat.lt_succ_self _
      · intro number bound
        exact orderly.fresh number (Nat.le_of_succ_le bound)
      · intro other number published
        rw [threads] at published
        split at published
        · cases published
          change (state.promises state.promiseNum).hasWaited = false
          rw [orderly.fresh _ (Nat.le_refl _)]
        · exact orderly.unwaited other number published
  | waits number phase =>
      have inside : state.threads thread ≠ .outside := by simp [phase]
      have handed := orderly.handed thread number (by rw [phase]; rfl)
      have moved : (state.setThread thread (.waiting number)).IsOrderly := by
        apply orderly.setThread inside
        · rintro other ⟨⟩
          exact handed
        · exact nofun
      rw [wait_eq number (orderly.unwaited thread number phase)]
      refine moved.setPromise (orderly.made _ handed) (orderly.faithful number) ?_
      intro _ other published
      rw [setThread_threads] at published
      split at published
      · cases published
      · next apart =>
          exact absurd (orderly.only inside (by simp [published])) apart
  | wakes number phase set =>
      exact orderly.setThread (by simp [phase]) nofun nofun
  | leaves phase =>
      have inside : state.threads thread ≠ .outside := by simp [phase]
      have nobody (other : ThreadId) :
          (state.setThread thread .outside).threads other = .outside := by
        rw [setThread_threads]
        split
        · rfl
        · next apart =>
            by_contra otherInside
            exact apart (orderly.only inside otherInside)
      refine ⟨?_, ?_, orderly.made, orderly.faithful, orderly.fresh, ?_,
        orderly.settled⟩
      · intro other otherInside
        exact absurd (nobody other) otherInside
      · intro other number handed
        change ((state.setThread thread .outside).threads other).promise? = _
          at handed
        rw [nobody] at handed
        cases handed
      · intro other number published
        change (state.setThread thread .outside).threads other = _ at published
        rw [nobody] at published
        cases published

theorem IsOrderly.bootStep (orderly : state.IsOrderly)
    (step : BootStep state next) : next.IsOrderly := by
  cases step with
  | calls phase =>
      exact { orderly with settled := fun _ => ⟨nofun, nofun⟩ }
  | readsFlag phase =>
      refine { orderly with settled := fun created => ?_ }
      simp only at created
      simp [created]
  | checksPromise phase =>
      refine { orderly with settled := fun created => ?_ }
      exact absurd phase (orderly.settled created).1
  | setsFlag phase =>
      exact { orderly with settled := fun _ => ⟨nofun, nofun⟩ }
  | notifies number phase found =>
      have faithful := orderly.faithful number
      have kept : (state.setPromise number
          (state.promises number).notifyAllTasksExecuteFinished).IsOrderly := by
        apply orderly.setPromise (orderly.made number found)
        · rw [BundlePromise.notify_isSet faithful,
            BundlePromise.notify_hasNotified]
        · intro unwaited _ _
          unfold BundlePromise.notifyAllTasksExecuteFinished
          split <;> exact unwaited
      exact { kept with settled := fun _ => ⟨nofun, nofun⟩ }

theorem IsOrderly.step (orderly : state.IsOrderly)
    (step : InitialUserStep state next) : next.IsOrderly := by
  rcases step with ⟨thread, step⟩ | step
  · exact orderly.checkStep step
  · exact orderly.bootStep step

theorem isOrderly_start : ({} : InitialUserState).IsOrderly :=
  ⟨nofun, nofun, nofun, fun _ => rfl, fun _ _ => rfl, nofun, nofun⟩

/-- The boot thread will not look for a promise any more. -/
def IsPast (state : InitialUserState) : Prop :=
  state.initialUserFlag = true ∨ state.boot = .storing

/-- From then on every promise handed over has been notified. -/
def IsAnswered (state : InitialUserState) : Prop :=
  state.IsPast → ∀ thread number,
    (state.threads thread).promise? = some number →
      (state.promises number).hasNotified = true

theorem IsAnswered.checkStep (answered : state.IsAnswered)
    (orderly : state.IsOrderly) (step : CheckStep thread state next)
    (inTime : PublishesInTime state next) : next.IsAnswered := by
  -- A thread that moves on with no other promise changes nothing.
  have moved (phase : CheckPhase)
      (kept : ∀ number, phase.promise? = some number →
        (state.threads thread).promise? = some number) :
      (state.setThread thread phase).IsAnswered := by
    intro past other number handed
    simp only [setThread_threads] at handed
    split at handed
    · exact answered past thread number (kept number handed)
    · exact answered past other number handed
  cases step with
  | enters phase free =>
      intro past other number handed
      exact moved .entered nofun past other number handed
  | findsFlagSet phase created | findsFlagUnset phase missing
  | wakes number phase set => exact moved _ nofun
  | publishes phase =>
      intro past
      obtain ⟨missing, looking⟩ := inTime thread state.promiseNum phase
        (by simp [publish])
      rcases past with created | storing
      · rw [publish, missing] at created
        cases created
      · exact absurd storing looking
  | waits number phase =>
      rw [wait_eq number (orderly.unwaited thread number phase)]
      intro past other another handed
      have before := moved (.waiting number)
        (by simp [phase, CheckPhase.promise?]) past other another handed
      simp only [InitialUserState.setThread, setPromise_promises]
      split
      · next same =>
          rw [same] at before
          exact before
      · exact before
  | leaves phase =>
      intro past other number handed
      exact moved .outside nofun past other number handed

theorem IsAnswered.bootStep (answered : state.IsAnswered)
    (orderly : state.IsOrderly) (step : BootStep state next) :
    next.IsAnswered := by
  cases step with
  | calls phase =>
      rintro (created | storing)
      · exact answered (.inl created)
      · cases storing
  | readsFlag phase =>
      rintro (created | storing)
      · exact answered (.inl created)
      · apply answered
        left
        by_contra missing
        simp [missing] at storing
  | checksPromise phase =>
      rintro (created | storing) thread number handed
      · exact answered (.inl created) thread number handed
      · have found := orderly.handed thread number handed
        simp [found] at storing
  | notifies number phase found =>
      intro _ thread other handed
      have same : some other = some number :=
        (orderly.handed thread other handed).symm.trans found
      cases same
      simp
  | setsFlag phase =>
      intro _
      exact answered (.inr phase)

/-- A thread has handed a promise over that the boot thread will not see. -/
structure IsForgotten (thread : ThreadId) (number : PromiseId)
    (state : InitialUserState) : Prop where
  past : state.IsPast
  handed : (state.threads thread).promise? = some number
  unnotified : (state.promises number).hasNotified = false

theorem IsForgotten.checkStep {number : PromiseId} {other : ThreadId}
    (forgotten : state.IsForgotten thread number) (orderly : state.IsOrderly)
    (step : CheckStep other state next) : next.IsForgotten thread number := by
  obtain ⟨past, handed, unnotified⟩ := forgotten
  have inside : state.threads thread ≠ .outside := by
    intro outside
    rw [outside] at handed
    cases handed
  have same : state.threads other ≠ .outside → other = thread :=
    orderly.only inside
  cases step with
  | enters phase free =>
      rw [orderly.alone thread inside] at free
      cases free
  | findsFlagSet phase | findsFlagUnset phase | publishes phase
  | leaves phase =>
      rw [same (by simp [phase])] at phase
      simp [phase, CheckPhase.promise?] at handed
  | waits another phase =>
      obtain rfl := same (by simp [phase])
      simp only [phase, CheckPhase.promise?, Option.some.injEq] at handed
      subst handed
      rw [wait_eq another (orderly.unwaited other another phase)]
      refine ⟨past, ?_, ?_⟩
      · simp [CheckPhase.promise?]
      · simp [InitialUserState.setThread, unnotified]
  | wakes another phase set =>
      obtain rfl := same (by simp [phase])
      simp only [phase, CheckPhase.promise?, Option.some.injEq] at handed
      subst handed
      rw [orderly.faithful, unnotified] at set
      cases set

theorem IsForgotten.bootStep {number : PromiseId}
    (forgotten : state.IsForgotten thread number) (orderly : state.IsOrderly)
    (step : BootStep state next) : next.IsForgotten thread number := by
  obtain ⟨past, handed, unnotified⟩ := forgotten
  have created (phase : state.boot ≠ .storing) : state.initialUserFlag = true :=
    past.resolve_right phase
  cases step with
  | calls phase => exact ⟨.inl (created (by simp [phase])), handed, unnotified⟩
  | readsFlag phase =>
      exact ⟨.inl (created (by simp [phase])), handed, unnotified⟩
  | checksPromise phase =>
      exact absurd phase (orderly.settled (created (by simp [phase]))).1
  | notifies another phase found =>
      exact absurd phase (orderly.settled (created (by simp [phase]))).2
  | setsFlag phase => exact ⟨.inl rfl, handed, unnotified⟩

/-- A forgotten promise is never notified. -/
theorem IsForgotten.stays {number : PromiseId}
    (forgotten : state.IsForgotten thread number) (orderly : state.IsOrderly)
    (run : Relation.ReflTransGen InitialUserStep state next) :
    next.IsForgotten thread number ∧ next.IsOrderly := by
  apply Runs.invariant (fun state =>
    state.IsForgotten thread number ∧ state.IsOrderly) _ run ⟨forgotten, orderly⟩
  rintro before after ⟨forgotten, orderly⟩ step
  refine ⟨?_, orderly.step step⟩
  rcases step with ⟨other, step⟩ | step
  · exact forgotten.checkStep orderly step
  · exact forgotten.bootStep orderly step

/-- Only the thread itself hands its promise over. -/
theorem publishes_of_published {number : PromiseId}
    (step : InitialUserStep state next)
    (unset : state.threads thread = .flagUnset)
    (published : next.threads thread = .published number) :
    next = state.publish thread ∧ number = state.promiseNum := by
  rcases step with ⟨other, step⟩ | step
  · by_cases same : other = thread
    · subst same
      cases step with
      | publishes phase => simp_all [publish]
      | enters phase | findsFlagSet phase | findsFlagUnset phase
      | waits number phase | wakes number phase | leaves phase =>
          rw [unset] at phase
          cases phase
    · have apart : thread ≠ other := Ne.symm same
      cases step with
      | waits number phase =>
          simp [wait, setPromise, InitialUserState.setThread,
            Function.update_of_ne apart, unset] at published
      | enters phase | findsFlagSet phase | findsFlagUnset phase
      | wakes number phase | leaves phase | publishes phase =>
          simp [publish, InitialUserState.setThread,
            Function.update_of_ne apart, unset] at published
  · have same : next.threads = state.threads := by
      cases step <;> rfl
    rw [same, unset] at published
    cases published

/-- The thread waits for it for ever once the flag is set. -/
theorem IsForgotten.exists_stuck {number : PromiseId}
    (forgotten : state.IsForgotten thread number) (orderly : state.IsOrderly)
    (published : state.threads thread = .published number) :
    ∃ later, Relation.ReflTransGen InitialUserStep state later ∧
      later.HasStuckThread := by
  have waits : InitialUserStep state (state.wait thread number) :=
    .inl ⟨thread, .waits state number published⟩
  have waiting : (state.wait thread number).threads thread = .waiting number := by
    rw [wait_eq number (orderly.unwaited thread number published)]
    simp
  have stuck {later : InitialUserState}
      (run : Relation.ReflTransGen InitialUserStep state later)
      (created : later.initialUserFlag = true)
      (waiting : later.threads thread = .waiting number) :
      later.HasStuckThread := by
    refine ⟨created, thread, number, waiting, fun last rest => ?_⟩
    exact (forgotten.stays orderly (run.trans rest)).1.unnotified
  rcases forgotten.past with created | storing
  · exact ⟨_, .single waits, stuck (.single waits) created waiting⟩
  · have run := (Relation.ReflTransGen.single waits).tail
      (.inr (.setsFlag _ storing))
    exact ⟨_, run, stuck run rfl waiting⟩

end InitialUserState

open InitialUserState in
/-- As long as every promise is handed over while the boot thread will still look
for it, no thread is stuck once the flag is set; and the first promise that is
handed over later leaves its thread stuck. -/
theorem initialUser_handshake {state : InitialUserState}
    (reached : Relation.ReflTransGen
      (Runs.Meeting InitialUserStep PublishesInTime) {} state) :
    ¬state.HasStuckThread ∧
    ∀ next, InitialUserStep state next → ¬PublishesInTime state next →
      ∃ later, Relation.ReflTransGen InitialUserStep next later ∧
        later.HasStuckThread := by
  have ⟨orderly, answered⟩ : state.IsOrderly ∧ state.IsAnswered := by
    apply Runs.invariant (fun state =>
      state.IsOrderly ∧ state.IsAnswered) _ reached ⟨isOrderly_start, nofun⟩
    rintro before after ⟨orderly, answered⟩ ⟨step, inTime⟩
    refine ⟨orderly.step step, ?_⟩
    rcases step with ⟨thread, step⟩ | step
    · exact answered.checkStep orderly step inTime
    · exact answered.bootStep orderly step
  constructor
  · rintro ⟨created, thread, number, waiting, never⟩
    have notified := answered (.inl created) thread number (by rw [waiting]; rfl)
    rw [never state .refl] at notified
    cases notified
  · intro next step late
    simp only [PublishesInTime, not_forall, exists_prop] at late
    obtain ⟨thread, number, unset, published, late⟩ := late
    obtain ⟨rfl, rfl⟩ := publishes_of_published step unset published
    refine IsForgotten.exists_stuck ⟨?_, ?_, ?_⟩ (orderly.step step) published
    · change state.IsPast
      unfold IsPast
      cases missing : state.initialUserFlag with
      | true => exact .inl rfl
      | false => exact .inr (by simpa [missing] using late)
    · rw [published]
      rfl
    · have fresh := orderly.fresh state.promiseNum (Nat.le_refl _)
      simp [publish, fresh]

/-- A thread that has handed a promise over, and a boot thread that looks for
it. -/
def handedOver : InitialUserState :=
  let entered : InitialUserState :=
    { ({} : InitialUserState).setThread 0 .entered with
      bundleUserMgrMutex := some 0 }
  { (entered.setThread 0 .flagUnset).publish 0 with boot := .checking }

theorem initialUser_handshake_handedOver : ¬handedOver.HasStuckThread := by
  have inTime (state next : InitialUserState)
      (looking : state.initialUserFlag = false ∧ state.boot ≠ .storing)
      (step : InitialUserStep state next) :
      Runs.Meeting InitialUserStep PublishesInTime state next :=
    ⟨step, fun _ _ _ _ => looking⟩
  let entered : InitialUserState :=
    { ({} : InitialUserState).setThread 0 .entered with
      bundleUserMgrMutex := some 0 }
  let unset := entered.setThread 0 .flagUnset
  let published := unset.publish 0
  have enters := inTime {} entered ⟨rfl, nofun⟩
    (.inl ⟨0, .enters _ rfl rfl⟩)
  have finds := inTime entered unset ⟨rfl, nofun⟩
    (.inl ⟨0, .findsFlagUnset _ rfl rfl⟩)
  have publishes := inTime unset published ⟨rfl, nofun⟩
    (.inl ⟨0, .publishes _ rfl⟩)
  have calls := inTime published { published with boot := .started } ⟨rfl, nofun⟩
    (.inr (.calls _ rfl))
  have reads := inTime { published with boot := .started } handedOver
    ⟨rfl, nofun⟩ (.inr (.readsFlag _ rfl))
  have reached := ((((Relation.ReflTransGen.single enters).tail finds).tail
    publishes).tail calls).tail reads
  exact (initialUser_handshake reached).1

/-- The boot thread looks for a promise between the moment a thread has read the
flag and the moment it hands its promise over. -/
theorem initialUser_lostPromise :
    ∃ state, Relation.ReflTransGen InitialUserStep {} state ∧
      state.HasStuckThread := by
  let entered : InitialUserState :=
    { ({} : InitialUserState).setThread 0 .entered with
      bundleUserMgrMutex := some 0 }
  let unset := entered.setThread 0 .flagUnset
  let storing : InitialUserState := { unset with boot := .storing }
  have enters : InitialUserStep {} entered := .inl ⟨0, .enters _ rfl rfl⟩
  have finds : InitialUserStep entered unset :=
    .inl ⟨0, .findsFlagUnset _ rfl rfl⟩
  have calls : InitialUserStep unset { unset with boot := .started } :=
    .inr (.calls _ rfl)
  have reads : InitialUserStep { unset with boot := .started }
      { unset with boot := .checking } :=
    .inr (.readsFlag _ rfl)
  have checks : InitialUserStep { unset with boot := .checking } storing :=
    .inr (.checksPromise _ rfl)
  have publishes : InitialUserStep storing (storing.publish 0) :=
    .inl ⟨0, .publishes _ rfl⟩
  have run := (((((Relation.ReflTransGen.single enters).tail finds).tail
    calls).tail reads).tail checks).tail publishes
  have orderly : (storing.publish 0).IsOrderly := by
    apply Runs.invariant InitialUserState.IsOrderly _ run
      InitialUserState.isOrderly_start
    intro before after orderly step
    exact orderly.step step
  have forgotten : (storing.publish 0).IsForgotten 0 0 := ⟨.inr rfl, rfl, rfl⟩
  obtain ⟨later, rest, stuck⟩ := forgotten.exists_stuck orderly rfl
  exact ⟨later, run.trans rest, stuck⟩

end AppExecFwk
