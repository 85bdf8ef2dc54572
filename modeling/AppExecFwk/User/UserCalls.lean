import AppExecFwk.User.InstallerPool

/-!
# Every bundle exactly once

A call of `CreateNewUser` or `RemoveUser` returns only after every bundle has
been attempted exactly once, in every run in which no installer finds its id
taken.  Two installers that are created in the same microsecond get the same id;
the second one is refused, and its refusal is counted as a result.
-/

namespace AppExecFwk

/-- The call that a thread makes, and what it still has to ask for. -/
def CallerPhase.ledger? :
    CallerPhase → Option (UserCall × List InstallerRequest)
  | .outside | .entered | .asking _ _ none => none
  | .looping call rest => some (call, rest)
  | .asking request _ (some (call, rest)) => some (call, request :: rest)
  | .unfinished call | .waiting call | .finishing call => some (call, [])

/-- The thread holds the mutex of the user manager. -/
def CallerPhase.isInside : CallerPhase → Bool
  | .outside | .asking _ _ none => false
  | _ => true

/-- The thread has still to wait. -/
def CallerPhase.waitsLater? : CallerPhase → Option UserCall
  | .looping call _ | .asking _ _ (some (call, _)) | .unfinished call => some call
  | _ => none

/-- A request of a call has been refused. -/
def CallerPhase.isRefused : CallerPhase → Bool
  | .asking _ .refused (some _) | .asking _ .told (some _) => true
  | _ => false

namespace UserMgrState

variable (state : UserMgrState)

/-- What the claim of completeness says about a state. -/
structure IsComplete : Prop where
  /-- A call in progress attempts nothing more often than asked for. -/
  once : ∀ thread call remaining,
    (state.threads thread).ledger? = some (call, remaining) → ∀ request,
      (partOf call.bundlePromise state.attempts).count request ≤
        call.requests.count request
  /-- A call that has returned has attempted everything exactly once. -/
  complete : ∀ call ∈ state.returned,
    (partOf call.bundlePromise state.attempts).Perm call.requests ∧
      (partOf call.bundlePromise state.finished).Perm call.requests
  unrefused : state.clashes = []
  /-- A thread is released once all results have been reported. -/
  released : ∀ thread call, state.threads thread = .waiting call →
    (partOf call.bundlePromise state.finished).Perm call.requests →
    partOf call.bundlePromise (atStage .reporting state.running) = [] →
    partOf call.bundlePromise (atStage .comparing state.running) = [] →
      (state.promises call.bundlePromise).isSet = true

end UserMgrState

/-- A step at which nothing comes in the way: a new installer has an id of its
own, a call may install bundles and its bundles can be counted. -/
structure IsUnhindered (state next : UserMgrState) : Prop where
  unused : ∀ thread request installerId part,
    state.threads thread = .asking request (.identified installerId) part →
    next.threads thread ≠ state.threads thread →
      state.installers installerId = false
  allowed : ∀ thread request part,
    state.threads thread = .asking request .asked (some part) →
    next.threads thread ≠ state.threads thread →
      state.hasManager = true ∧ request.isPermitted = true
  countable : ∀ thread call rest, state.threads thread = .entered →
    next.threads thread = .looping call rest → call.requests.length < 2 ^ 31

/-- A call that waits has asked for something, and one that finishes has
everything counted. -/
def CallerPhase.Fits (phase : CallerPhase) (pool : InstallerPool) : Prop :=
  match phase with
  | .unfinished call | .waiting call => call.requests ≠ []
  | .finishing call => pool.IsSettled call.bundlePromise
  | _ => True

theorem CallerPhase.Fits.mono {phase : CallerPhase} {pool later : InstallerPool}
    (fits : phase.Fits pool)
    (settled : ∀ number, pool.IsSettled number → later.IsSettled number) :
    phase.Fits later := by
  cases phase with
  | finishing call => exact settled _ fits
  | outside | entered | looping | asking | unfinished | waiting => exact fits

/-- A phase follows another one in the same call, which is not refused. -/
structure CallerPhase.Follows (before after : CallerPhase) : Prop where
  ledger : after.ledger? = before.ledger?
  waits : ∀ call, after.waitsLater? = some call →
    before.waitsLater? = some call
  unrefused : after.isRefused = false

theorem CallerPhase.fits_of_outside {phase : CallerPhase} {pool : InstallerPool}
    (outside : phase.isInside = false) : phase.Fits pool := by
  cases phase with
  | looping | unfinished | waiting | finishing => cases outside
  | outside | entered | asking => exact trivial

namespace UserMgrState

variable {state next : UserMgrState} {thread other : ThreadId}

/-- What holds in every run in which nothing comes in the way. -/
structure IsOrderly (state : UserMgrState) : Prop where
  alone : ∀ thread, (state.threads thread).isInside = true →
    state.bundleUserMgrMutex = some thread
  worked : state.attempts.Perm
    (atStage .working state.running ++ state.finished)
  made : ∀ request ∈ state.given, ∀ bundlePromise,
    request.isOf bundlePromise = true → bundlePromise < state.promiseNum
  fresh : ∀ number, state.promiseNum ≤ number → state.promises number = {}
  faithful : ∀ number,
    (state.promises number).isSet = (state.promises number).hasNotified
  unwaited : ∀ thread call, (state.threads thread).waitsLater? = some call →
    (state.promises call.bundlePromise).hasWaited = false
  ordinary : ∀ thread request phase,
    state.threads thread = .asking request phase none →
      request.statusReceiver = .other
  unrefused : ∀ thread, (state.threads thread).isRefused = false
  account : ∀ thread call remaining,
    (state.threads thread).ledger? = some (call, remaining) →
      state.IsAccounted call remaining
  settled : ∀ bundlePromise < state.promiseNum,
    state.IsSettled bundlePromise ∨
      ∃ thread call remaining,
        (state.threads thread).ledger? = some (call, remaining) ∧
          call.bundlePromise = bundlePromise
  fits : ∀ thread, (state.threads thread).Fits state.toInstallerPool
  returned : ∀ call ∈ state.returned, state.IsDone call
  apart : ∀ thread call remaining,
    (state.threads thread).ledger? = some (call, remaining) →
      ∀ past ∈ state.returned, past.bundlePromise ≠ call.bundlePromise
  unclashed : state.clashes = []

/-- A call in progress is made inside the mutex. -/
theorem isInside_of_ledger {phase : CallerPhase} {call : UserCall}
    {remaining : List InstallerRequest}
    (ledger : phase.ledger? = some (call, remaining)) :
    phase.isInside = true := by
  cases phase with
  | outside | entered => cases ledger
  | asking request reached part =>
      cases part with
      | none => cases ledger
      | some part => rfl
  | looping | unfinished | waiting | finishing => rfl

theorem isInside_of_waitsLater {phase : CallerPhase} {call : UserCall}
    (waits : phase.waitsLater? = some call) : phase.isInside = true := by
  cases phase with
  | outside | entered | waiting | finishing => cases waits
  | asking request reached part =>
      cases part with
      | none => cases waits
      | some part => rfl
  | looping | unfinished => rfl

/-- Only one thread is inside. -/
theorem IsOrderly.only (orderly : state.IsOrderly)
    (inside : (state.threads thread).isInside = true)
    (otherInside : (state.threads other).isInside = true) : other = thread := by
  have first := orderly.alone thread inside
  rw [orderly.alone other otherInside] at first
  exact Option.some.inj first

@[simp]
theorem setThread_threads (phase : CallerPhase) :
    (state.setThread thread phase).threads other =
      if other = thread then phase else state.threads other := by
  simp [setThread, Function.update_apply]

/-- A thread moves on, and may take the mutex or give it back. -/
theorem IsOrderly.move (orderly : state.IsOrderly) {phase : CallerPhase}
    (holder : Option ThreadId)
    (alone : ∀ other,
      ((state.setThread thread phase).threads other).isInside = true →
        holder = some other)
    (follows : (state.threads thread).Follows phase)
    (ordinary : ∀ request reached, phase = .asking request reached none →
      request.statusReceiver = .other)
    (fits : phase.Fits state.toInstallerPool) :
    { state.setThread thread phase with
      bundleUserMgrMutex := holder : UserMgrState }.IsOrderly where
  alone := alone
  worked := orderly.worked
  made := orderly.made
  fresh := orderly.fresh
  faithful := orderly.faithful
  unwaited other call := by
    simp only [setThread_threads]
    split
    · intro waits
      exact orderly.unwaited thread call (follows.waits call waits)
    · exact orderly.unwaited other call
  ordinary other := by
    simp only [setThread_threads]
    split
    · exact ordinary
    · exact orderly.ordinary other
  unrefused other := by
    simp only [setThread_threads]
    split
    · exact follows.unrefused
    · exact orderly.unrefused other
  account other call remaining := by
    simp only [setThread_threads]
    split
    · intro here
      exact orderly.account thread call remaining (follows.ledger.symm.trans here)
    · exact orderly.account other call remaining
  settled number bound := by
    rcases orderly.settled number bound with settled | ⟨other, call, remaining,
      there, same⟩
    · exact .inl settled
    · refine .inr ⟨other, call, remaining, ?_, same⟩
      simp only [setThread_threads]
      split
      · next same => rw [follows.ledger, ← same, there]
      · exact there
  fits other := by
    simp only [setThread_threads]
    split
    · exact fits
    · exact orderly.fits other
  returned := orderly.returned
  apart other call remaining := by
    simp only [setThread_threads]
    split
    · intro here
      exact orderly.apart thread call remaining (follows.ledger.symm.trans here)
    · exact orderly.apart other call remaining
  unclashed := orderly.unclashed

/-- A thread moves on in its call. -/
theorem IsOrderly.setThread (orderly : state.IsOrderly) {phase : CallerPhase}
    (inside : phase.isInside = (state.threads thread).isInside)
    (follows : (state.threads thread).Follows phase)
    (ordinary : ∀ request reached, phase = .asking request reached none →
      request.statusReceiver = .other)
    (fits : phase.Fits state.toInstallerPool) :
    (state.setThread thread phase).IsOrderly := by
  refine orderly.move state.bundleUserMgrMutex ?_ follows ordinary fits
  intro other otherInside
  simp only [setThread_threads] at otherInside
  split at otherInside
  · next same =>
      rw [inside] at otherInside
      rw [same]
      exact orderly.alone thread otherInside
  · exact orderly.alone other otherInside

/-- If a thread inside leaves, nobody is inside any more. -/
theorem IsOrderly.nobody (orderly : state.IsOrderly) {phase : CallerPhase}
    (inside : (state.threads thread).isInside = true)
    (outside : phase.isInside = false) (other : ThreadId) :
    ((state.setThread thread phase).threads other).isInside = false := by
  simp only [setThread_threads]
  split
  · exact outside
  · next apart =>
      by_contra otherInside
      exact apart (orderly.only inside (Bool.not_eq_false _ ▸ otherInside))

@[simp]
theorem begin_threads (call : UserCall) :
    (state.begin thread call).threads other =
      if other = thread then .looping call call.requests
      else state.threads other :=
  setThread_threads (.looping call call.requests)

theorem ofBundles_receiver {number : PromiseId} {operation : InstallerOperation}
    {userId : Int} {bundleNames : List String} {isPermitted : Bool} :
    ∀ request ∈ (UserCall.ofBundles number operation userId bundleNames
        isPermitted).requests, request.statusReceiver =
      .userReceiver number (UserCall.ofBundles number operation userId
        bundleNames isPermitted).totalHapNum := by
  intro request member
  simp only [UserCall.ofBundles, List.mem_map] at member
  obtain ⟨bundleName, -, rfl⟩ := member
  simp [UserCall.totalHapNum, UserCall.ofBundles]

/-- A new call has nothing in the pool. -/
theorem IsOrderly.begin (orderly : state.IsOrderly)
    (entered : state.threads thread = .entered) {call : UserCall}
    (new : call.bundlePromise = state.promiseNum)
    (own : ∀ request ∈ call.requests, request.statusReceiver =
      .userReceiver call.bundlePromise call.totalHapNum)
    (countable : call.requests.length < 2 ^ 31) :
    (state.begin thread call).IsOrderly := by
  have inside : (state.threads thread).isInside = true := by
    rw [entered]
    rfl
  have nothing (requests : List InstallerRequest)
      (given : ∀ request ∈ requests, request ∈ state.given) :
      partOf call.bundlePromise requests = [] := by
    apply List.filter_eq_nil_iff.mpr
    intro request member isOf
    exact absurd new
      (Nat.ne_of_lt (orderly.made request (given request member) _ isOf))
  have noneQueued : partOf call.bundlePromise (queued state.tasks) = [] :=
    nothing _ fun request member =>
      List.mem_append_left _ (List.mem_append_left _ member)
  have noneAttempted : partOf call.bundlePromise state.attempts = [] :=
    nothing _ fun request member => List.mem_append_right _ member
  have noneFinished : partOf call.bundlePromise state.finished = [] :=
    nothing _ fun request member => List.mem_append_right _
      (orderly.worked.mem_iff.mpr (List.mem_append_right _ member))
  have noneAtStage (stage : TaskStage) :
      partOf call.bundlePromise (atStage stage state.running) = [] := by
    apply nothing
    intro request member
    obtain ⟨task, runs, rfl⟩ := mem_atStage.mp member
    exact List.mem_append_left _ (List.mem_append_right _
      (List.mem_map.mpr ⟨_, runs, rfl⟩))
  have account : { state.toInstallerPool with
      installedHapNum := 0
      promiseNum := state.promiseNum + 1 : InstallerPool }.IsAccounted call
        call.requests := by
    refine {
      current := congrArg (· + 1) new
      countable := countable
      own := own
      known := fun request member isOf => ?_
      asked := ?_
      counted := ?_
      told := fun notified => ?_
      telling := fun some all => ?_ }
    · exact absurd new (Nat.ne_of_lt (orderly.made request member _ isOf))
    · simp [noneQueued, noneAttempted]
    · simp [noneFinished, noneAtStage]
    · rw [orderly.fresh _ (Nat.le_of_eq new.symm)] at notified
      cases notified
    · exact absurd (List.eq_nil_of_length_eq_zero all.symm) some
  have only {other : ThreadId} {later : UserCall}
      {remaining : List InstallerRequest} (apart : other ≠ thread) :
      (state.threads other).ledger? ≠ some (later, remaining) :=
    fun there => apart (orderly.only inside (isInside_of_ledger there))
  refine {
    alone := fun other otherInside => ?_
    worked := orderly.worked
    made := fun request member number isOf =>
      Nat.lt_succ_of_lt (orderly.made request member number isOf)
    fresh := fun number bound => orderly.fresh number (Nat.le_of_succ_le bound)
    faithful := orderly.faithful
    unwaited := fun other later waits => ?_
    ordinary := fun other request reached there => ?_
    unrefused := fun other => ?_
    account := fun other later remaining there => ?_
    settled := fun number bound => ?_
    fits := fun other => ?_
    returned := fun past member => ?_
    apart := fun other later remaining there past member => ?_
    unclashed := orderly.unclashed }
  · rw [begin_threads] at otherInside
    split at otherInside
    · next same =>
        rw [same]
        exact orderly.alone thread inside
    · exact orderly.alone other otherInside
  · rw [begin_threads] at waits
    split at waits
    · cases waits
      change (state.promises call.bundlePromise).hasWaited = false
      rw [orderly.fresh _ (Nat.le_of_eq new.symm)]
    · exact orderly.unwaited other later waits
  · rw [begin_threads] at there
    split at there
    · cases there
    · exact orderly.ordinary other request reached there
  · rw [begin_threads]
    split
    · rfl
    · exact orderly.unrefused other
  · rw [begin_threads] at there
    split at there
    · cases there
      exact account
    · next apart => exact absurd there (only apart)
  · rcases Nat.lt_succ_iff_lt_or_eq.mp bound with past | rfl
    · rcases orderly.settled number past with settled | ⟨other, later,
        remaining, there, -⟩
      · exact .inl { settled with }
      · -- The thread that begins is the only one inside.
        obtain rfl := orderly.only inside (isInside_of_ledger there)
        rw [entered] at there
        cases there
    · refine .inr ⟨thread, call, call.requests, ?_, new⟩
      rw [begin_threads, if_pos rfl]
      rfl
  · rw [begin_threads]
    split
    · exact trivial
    · exact (orderly.fits other).mono fun _ settled => { settled with }
  · have done := orderly.returned past member
    exact ⟨Nat.lt_succ_of_lt done.made, { done.settled with }, done.attempted,
      done.finished⟩
  · rw [begin_threads] at there
    split at there
    · cases there
      rw [new]
      exact Nat.ne_of_lt (orderly.returned past member).made
    · next apart => exact absurd there (only apart)

/-- A task that is part of no call is given to the pool. -/
theorem IsOrderly.addForeign (orderly : state.IsOrderly) {task : InstallerTask}
    (foreign : ∀ number, task.request.isOf number = false) :
    { state with tasks := state.tasks ++ [task] : UserMgrState }.IsOrderly where
  alone := orderly.alone
  worked := orderly.worked
  made request member number isOf := by
    rcases InstallerPool.mem_given_add.mp member with rfl | before
    · rw [foreign] at isOf
      cases isOf
    · exact orderly.made request before number isOf
  fresh := orderly.fresh
  faithful := orderly.faithful
  unwaited := orderly.unwaited
  ordinary := orderly.ordinary
  unrefused := orderly.unrefused
  account other call remaining there :=
    (orderly.account other call remaining there).addForeign (foreign _)
  settled number bound := (orderly.settled number bound).imp_left
    fun settled => settled.add (foreign _)
  fits other := (orderly.fits other).mono
    fun _ settled => settled.add (foreign _)
  returned call member :=
    let done := orderly.returned call member
    ⟨done.made, done.settled.add (foreign _), done.attempted, done.finished⟩
  apart := orderly.apart
  unclashed := orderly.unclashed

/-- A task of a call is given to the pool. -/
theorem IsOrderly.addOwn (orderly : state.IsOrderly) {task : InstallerTask}
    {reached : RequestPhase} {call : UserCall} {rest : List InstallerRequest}
    (phase : state.threads thread =
      .asking task.request reached (some (call, rest))) :
    { state.setThread thread (.looping call rest) with
      tasks := state.tasks ++ [task] : UserMgrState }.IsOrderly := by
  have ledger : (state.threads thread).ledger? =
      some (call, task.request :: rest) := by
    rw [phase]
    rfl
  have inside := isInside_of_ledger ledger
  have account := orderly.account thread call _ ledger
  have own := account.own task.request (account.asked.mem_iff.mpr (by simp))
  have isOf_iff (number : PromiseId) :
      task.request.isOf number = true ↔ call.bundlePromise = number := by
    simp [InstallerRequest.isOf, own]
  have foreign {number : PromiseId} (apart : call.bundlePromise ≠ number) :
      task.request.isOf number = false :=
    Bool.eq_false_iff.mpr (mt (isOf_iff number).mp apart)
  have only {other : ThreadId} {later : UserCall}
      {remaining : List InstallerRequest} (apart : other ≠ thread) :
      (state.threads other).ledger? ≠ some (later, remaining) :=
    fun there => apart (orderly.only inside (isInside_of_ledger there))
  have made : call.bundlePromise < state.promiseNum :=
    Nat.lt_of_lt_of_eq (Nat.lt_succ_self _) account.current
  have here : ((state.setThread thread (.looping call rest)).threads
      thread).ledger? = some (call, rest) := by
    rw [setThread_threads, if_pos rfl]
    rfl
  refine {
    alone := fun other otherInside => ?_
    worked := orderly.worked
    made := fun request member number isOf => ?_
    fresh := orderly.fresh
    faithful := orderly.faithful
    unwaited := fun other later waits => ?_
    ordinary := fun other request reached there => ?_
    unrefused := fun other => ?_
    account := fun other later remaining there => ?_
    settled := fun number bound => ?_
    fits := fun other => ?_
    returned := fun past member => ?_
    apart := fun other later remaining there past member => ?_
    unclashed := orderly.unclashed }
  · simp only [setThread_threads] at otherInside
    split at otherInside
    · next same =>
        rw [same]
        exact orderly.alone thread inside
    · exact orderly.alone other otherInside
  · rcases InstallerPool.mem_given_add.mp member with rfl | before
    · rw [← (isOf_iff number).mp isOf]
      exact made
    · exact orderly.made request before number isOf
  · simp only [setThread_threads] at waits
    split at waits
    · cases waits
      exact orderly.unwaited thread call (by rw [phase]; rfl)
    · exact orderly.unwaited other later waits
  · simp only [setThread_threads] at there
    split at there
    · cases there
    · exact orderly.ordinary other request reached there
  · simp only [setThread_threads]
    split
    · rfl
    · exact orderly.unrefused other
  · simp only [setThread_threads] at there
    split at there
    · cases there
      exact account.addOwn
    · next apart => exact absurd there (only apart)
  · by_cases same : call.bundlePromise = number
    · exact .inr ⟨thread, call, rest, here, same⟩
    · rcases orderly.settled number bound with settled | ⟨other, later,
        remaining, there, sameNumber⟩
      · exact .inl (settled.add (foreign same))
      · obtain rfl := orderly.only inside (isInside_of_ledger there)
        rw [ledger] at there
        cases there
        exact absurd sameNumber same
  · simp only [setThread_threads]
    split
    · exact trivial
    · next apart =>
        apply CallerPhase.fits_of_outside
        by_contra otherInside
        exact apart (orderly.only inside (Bool.not_eq_false _ ▸ otherInside))
  · have done := orderly.returned past member
    have apart := orderly.apart thread call _ ledger past member
    exact ⟨done.made, done.settled.add (foreign apart.symm), done.attempted,
      done.finished⟩
  · simp only [setThread_threads] at there
    split at there
    · cases there
      exact orderly.apart thread call _ ledger past member
    · next apart => exact absurd there (only apart)

/-- A thread goes on with its request. -/
theorem IsOrderly.goOn (orderly : state.IsOrderly) {request : InstallerRequest}
    {reached later : RequestPhase}
    {part : Option (UserCall × List InstallerRequest)}
    (phase : state.threads thread = .asking request reached part)
    (unrefused : (CallerPhase.asking request later part).isRefused = false) :
    (state.setThread thread (.asking request later part)).IsOrderly := by
  apply orderly.setThread
  · rw [phase]
    cases part <;> rfl
  · rw [phase]
    cases part with
    | none => exact ⟨rfl, nofun, unrefused⟩
    | some part => exact ⟨rfl, fun _ waits => waits, unrefused⟩
  · rintro _ _ ⟨⟩
    exact orderly.ordinary thread request _ phase
  · exact trivial

/-- A thread is done with a request of its own. -/
theorem IsOrderly.endRequest (orderly : state.IsOrderly)
    {request : InstallerRequest} {reached : RequestPhase}
    (phase : state.threads thread = .asking request reached none) :
    (state.setThread thread .outside).IsOrderly := by
  refine orderly.setThread ?_ ?_ (by intros; contradiction) trivial
  · rw [phase]
    rfl
  · rw [phase]
    exact ⟨rfl, nofun, rfl⟩

/-- A request of a call is never refused. -/
theorem IsOrderly.not_refused (orderly : state.IsOrderly) {phase : CallerPhase}
    (here : state.threads thread = phase) (refused : phase.isRefused = true) :
    False := by
  have unrefused := orderly.unrefused thread
  rw [here, refused] at unrefused
  cases unrefused

/-- A promise changes in a way that no thread notices. -/
theorem IsOrderly.setPromise (orderly : state.IsOrderly) {number : PromiseId}
    {promise : BundlePromise} (made : number < state.promiseNum)
    (faithful : promise.isSet = promise.hasNotified)
    (waits : ∀ thread call, (state.threads thread).waitsLater? = some call →
      call.bundlePromise = number → promise.hasWaited = false)
    (told : ∀ thread call remaining,
      (state.threads thread).ledger? = some (call, remaining) →
        call.bundlePromise = number →
        state.IsAccounted call remaining →
        { state.toInstallerPool with
          promises := Function.update state.promises number promise :
            InstallerPool }.IsAccounted call remaining) :
    (state.setPromise number promise).IsOrderly where
  alone := orderly.alone
  worked := orderly.worked
  made := orderly.made
  fresh other bound := by
    have apart : other ≠ number := by
      rintro rfl
      exact Nat.not_lt.mpr bound made
    change Function.update state.promises number promise other = {}
    rw [Function.update_of_ne apart]
    exact orderly.fresh other bound
  faithful other := by
    change (Function.update state.promises number promise other).isSet =
      (Function.update state.promises number promise other).hasNotified
    rw [Function.update_apply]
    split
    · exact faithful
    · exact orderly.faithful other
  unwaited other call later := by
    change (Function.update state.promises number promise
      call.bundlePromise).hasWaited = false
    rw [Function.update_apply]
    split
    · next same => exact waits other call later same
    · exact orderly.unwaited other call later
  ordinary := orderly.ordinary
  unrefused := orderly.unrefused
  account other call remaining ledger := by
    have account := orderly.account other call remaining ledger
    by_cases same : call.bundlePromise = number
    · exact told other call remaining ledger same account
    · have promises : (Function.update state.promises number promise)
          call.bundlePromise = state.promises call.bundlePromise :=
        Function.update_of_ne same ..
      exact { account with
        told := by
          change (Function.update state.promises number promise
            call.bundlePromise).hasNotified = true → _
          rw [promises]
          exact account.told
        telling := by
          change _ → _ → (Function.update state.promises number promise
            call.bundlePromise).hasNotified = true ∨ _
          rw [promises]
          exact account.telling }
  settled number bound := (orderly.settled number bound).imp_left
    fun settled => { settled with }
  fits other := (orderly.fits other).mono fun _ settled => { settled with }
  returned call member :=
    let done := orderly.returned call member
    ⟨done.made, { done.settled with }, done.attempted, done.finished⟩
  apart := orderly.apart
  unclashed := orderly.unclashed

/-- A call is over once everything has been counted. -/
theorem IsOrderly.isSettled (orderly : state.IsOrderly) {call : UserCall}
    {remaining : List InstallerRequest}
    (ledger : (state.threads thread).ledger? = some (call, remaining))
    (all : state.installedHapNum.toNat = call.requests.length) :
    state.IsSettled call.bundlePromise :=
  (orderly.account thread call remaining ledger).isSettled orderly.worked all

/-- The count of a call in progress never exceeds the number of bundles. -/
theorem IsOrderly.compare_iff (orderly : state.IsOrderly) {call : UserCall}
    {remaining : List InstallerRequest}
    (ledger : (state.threads thread).ledger? = some (call, remaining)) :
    state.installedHapNum.toInt32 ≥ call.totalHapNum ↔
      state.installedHapNum.toNat = call.requests.length := by
  have account := orderly.account thread call remaining ledger
  have total := account.length_le orderly.worked
  have countable := account.countable
  rw [UserCall.totalHapNum, ge_totalHapNum_iff (by omega) countable]
  omega

/-- A call returns. -/
theorem IsOrderly.return (orderly : state.IsOrderly) {call : UserCall}
    (phase : state.threads thread = .finishing call) :
    { state.setThread thread .outside with
      bundleUserMgrMutex := none
      returned := call :: state.returned : UserMgrState }.IsOrderly := by
  have ledger : (state.threads thread).ledger? = some (call, []) := by
    rw [phase]
    rfl
  have inside := isInside_of_ledger ledger
  have account := orderly.account thread call [] ledger
  have settled : state.IsSettled call.bundlePromise := by
    have fits := orderly.fits thread
    rw [phase] at fits
    exact fits
  have nobody (other : ThreadId) :
      ((state.setThread thread .outside).threads other).isInside = false :=
    orderly.nobody inside rfl other
  have callless {other : ThreadId} {later : UserCall}
      {remaining : List InstallerRequest}
      (there : ((state.setThread thread .outside).threads other).ledger? =
        some (later, remaining)) : False := by
    have otherInside := isInside_of_ledger there
    rw [nobody other] at otherInside
    cases otherInside
  -- All threads but the one that returns are as they were.
  have kept (other : ThreadId) :
      (state.setThread thread .outside).threads other = .outside ∨
        (state.setThread thread .outside).threads other =
          state.threads other := by
    simp only [setThread_threads]
    split
    · exact .inl rfl
    · exact .inr rfl
  refine {
    alone := fun other otherInside => ?_
    worked := orderly.worked
    made := orderly.made
    fresh := orderly.fresh
    faithful := orderly.faithful
    unwaited := fun other later waits => ?_
    ordinary := fun other request reached there => ?_
    unrefused := fun other => ?_
    account := fun other later remaining there => (callless there).elim
    settled := fun number bound => ?_
    fits := fun other => ?_
    returned := fun later member => ?_
    apart := fun other later remaining there => (callless there).elim
    unclashed := orderly.unclashed }
  · have otherOutside := nobody other
    rw [otherInside] at otherOutside
    cases otherOutside
  · have otherInside := isInside_of_waitsLater waits
    rw [nobody other] at otherInside
    cases otherInside
  · rcases kept other with outside | same
    · rw [outside] at there
      cases there
    · exact orderly.ordinary other request reached (same.symm.trans there)
  · rcases kept other with outside | same
    · exact congrArg CallerPhase.isRefused outside
    · exact (congrArg CallerPhase.isRefused same).trans (orderly.unrefused other)
  · rcases orderly.settled number bound with past | ⟨other, later, remaining,
      there, same⟩
    · exact .inl past
    · -- The only call in progress is the one that returns.
      obtain rfl := orderly.only inside (isInside_of_ledger there)
      rw [ledger] at there
      cases there
      rw [← same]
      exact .inl settled
  · exact CallerPhase.fits_of_outside (nobody other)
  · rcases List.mem_cons.mp member with rfl | past
    · exact account.isDone orderly.worked settled
    · exact orderly.returned later past

/-- A call that is to wait has something to wait for. -/
theorem IsOrderly.requests_ne_nil (orderly : state.IsOrderly) {call : UserCall}
    {remaining : List InstallerRequest}
    (ledger : (state.threads thread).ledger? = some (call, remaining))
    (less : state.installedHapNum.toInt32 < call.totalHapNum) :
    call.requests ≠ [] := by
  intro empty
  have total := (orderly.account thread call remaining ledger).length_le
    orderly.worked
  apply Int32.not_le.mpr less
  rw [← ge_iff_le, orderly.compare_iff ledger]
  simp only [empty, List.length_nil] at total ⊢
  omega

/-- A thread begins to wait. -/
theorem IsOrderly.wait (orderly : state.IsOrderly) {call : UserCall}
    (phase : state.threads thread = .unfinished call) :
    (state.wait thread call).IsOrderly := by
  have unwaited := orderly.unwaited thread call (by rw [phase]; rfl)
  have account := orderly.account thread call [] (by rw [phase]; rfl)
  have some : call.requests ≠ [] := by
    have fits := orderly.fits thread
    rw [phase] at fits
    exact fits
  have moved : (state.setThread thread (.waiting call)).IsOrderly := by
    refine orderly.setThread ?_ ?_ (by intros; contradiction) some
    · rw [phase]
      rfl
    · rw [phase]
      exact ⟨rfl, nofun, rfl⟩
  rw [UserMgrState.wait, BundlePromise.waitForAllTasksExecute, unwaited]
  -- The order of the two updates does not matter.
  change ((state.setThread thread (.waiting call)).setPromise
    call.bundlePromise { state.promises call.bundlePromise with
      hasWaited := true }).IsOrderly
  apply moved.setPromise
  · exact Nat.lt_of_lt_of_eq (Nat.lt_succ_self _) account.current
  · exact orderly.faithful call.bundlePromise
  · intro other later waits _
    have here : other = thread :=
      moved.only (by simp [CallerPhase.isInside]) (isInside_of_waitsLater waits)
    rw [here] at waits
    simp [CallerPhase.waitsLater?] at waits
  · intro other later remaining _ same account
    have kept : (Function.update state.promises call.bundlePromise
        { state.promises call.bundlePromise with hasWaited := true }
        later.bundlePromise).hasNotified =
          (state.promises later.bundlePromise).hasNotified := by
      rw [same, Function.update_self]
    exact { account with
      told := fun notified => account.told (kept.symm.trans notified)
      telling := fun some all => (account.telling some all).imp_left
        fun notified => kept.trans notified }

theorem IsOrderly.callerStep (orderly : state.IsOrderly)
    (step : CallerStep thread state next)
    (unhindered : IsUnhindered state next) : next.IsOrderly := by
  cases step with
  | enters phase free =>
      refine orderly.move (some thread) ?_ ?_ (by simp) trivial
      · intro other otherInside
        simp only [setThread_threads] at otherInside
        split at otherInside
        · next same => rw [same]
        · have held := orderly.alone other otherInside
          rw [free] at held
          cases held
      · rw [phase]
        exact ⟨rfl, fun _ waits => (by cases waits), rfl⟩
  | leaves phase =>
      refine orderly.move none ?_ ?_ (by simp) trivial
      · intro other otherInside
        rw [orderly.nobody (by rw [phase]; rfl) rfl] at otherInside
        cases otherInside
      · rw [phase]
        exact ⟨rfl, fun _ waits => (by cases waits), rfl⟩
  | creates userId bundleNames isPermitted phase
  | removes userId bundleNames isPermitted phase =>
      apply orderly.begin phase rfl ofBundles_receiver
      exact unhindered.countable thread _ _ phase (Function.update_self ..)
  | asks call request rest phase =>
      refine orderly.setThread ?_ ?_ (by simp) trivial
      · rw [phase]
        rfl
      · rw [phase]
        exact ⟨rfl, fun _ waits => waits, rfl⟩
  | asksOther request phase receiver =>
      refine orderly.setThread ?_ ?_ ?_ trivial
      · rw [phase]
        rfl
      · rw [phase]
        exact ⟨rfl, fun _ waits => (by cases waits), rfl⟩
      · rintro _ _ ⟨⟩
        exact receiver
  | checks request part phase =>
      apply orderly.goOn phase
      cases part with
      | none => split <;> rfl
      | some part =>
          have moves : (state.setThread thread (.asking request
              (if state.hasManager && request.isPermitted then .permitted
                else .refused) (some part))).threads thread ≠
                state.threads thread := by
            rw [phase, setThread_threads, if_pos rfl]
            split <;> simp
          have allowed := unhindered.allowed thread request part phase moves
          simp [allowed, CallerPhase.isRefused]
  | readsTime request part phase =>
      apply orderly.goOn phase
      cases part <;> rfl
  | emplaces request installerId part phase =>
      have free : state.installers installerId = false := by
        apply unhindered.unused thread request installerId part phase
        rw [phase, emplace]
        split <;> simp [UserMgrState.setThread]
      have moved : (state.setThread thread
          (.asking request (.adding installerId) part)).IsOrderly := by
        apply orderly.goOn phase
        cases part <;> rfl
      rw [emplace, free]
      exact { moved with }
  | addsTask request installerId part phase room =>
      cases part with
      | none =>
          have receiver := orderly.ordinary thread request _ phase
          apply (orderly.endRequest phase).addForeign
          intro number
          simp [InstallerRequest.isOf, receiver]
      | some part => exact orderly.addOwn phase
  | countsRefusal request part phase =>
      cases part with
      | none =>
          rw [orderly.ordinary thread request _ phase]
          exact orderly.goOn phase rfl
      | some part => exact (orderly.not_refused phase rfl).elim
  | comparesRefusal request part phase =>
      cases part with
      | none =>
          rw [orderly.ordinary thread request _ phase]
          exact orderly.endRequest phase
      | some part => exact (orderly.not_refused phase rfl).elim
  | comparesCount call phase =>
      have ledger : (state.threads thread).ledger? = some (call, []) := by
        rw [phase]
        rfl
      split
      · next less =>
          refine orderly.setThread ?_ ?_ (by simp) (orderly.requests_ne_nil ledger less)
          · rw [phase]
            rfl
          · rw [phase]
            exact ⟨rfl, fun _ waits => waits, rfl⟩
      · next enough =>
          have all := (orderly.compare_iff ledger).mp (Int32.not_lt.mp enough)
          refine orderly.setThread ?_ ?_ (by simp) (orderly.isSettled ledger all)
          · rw [phase]
            rfl
          · rw [phase]
            exact ⟨rfl, fun _ waits => (by cases waits), rfl⟩
  | waits call phase => exact orderly.wait phase
  | wakes call phase set =>
      have ledger : (state.threads thread).ledger? = some (call, []) := by
        rw [phase]
        rfl
      rw [orderly.faithful] at set
      have all := (orderly.account thread call [] ledger).told set
      refine orderly.setThread ?_ ?_ (by simp) (orderly.isSettled ledger all)
      · rw [phase]
        rfl
      · rw [phase]
        exact ⟨rfl, fun _ waits => (by cases waits), rfl⟩
  | returns call phase => exact orderly.return phase

/-- The pool changes without any thread. -/
theorem IsOrderly.withPool (orderly : state.IsOrderly) {pool : InstallerPool}
    (worked : pool.attempts.Perm
      (atStage .working pool.running ++ pool.finished))
    (given : ∀ request ∈ pool.given, request ∈ state.given)
    (promiseNum : pool.promiseNum = state.promiseNum)
    (fresh : ∀ number, state.promiseNum ≤ number →
      pool.promises number = state.promises number)
    (faithful : ∀ number,
      (pool.promises number).isSet = (pool.promises number).hasNotified)
    (hasWaited : ∀ number,
      (pool.promises number).hasWaited = (state.promises number).hasWaited)
    (account : ∀ thread call remaining,
      (state.threads thread).ledger? = some (call, remaining) →
      state.IsAccounted call remaining → pool.IsAccounted call remaining)
    (settled : ∀ number, state.IsSettled number → pool.IsSettled number)
    (kept : ∀ number, state.IsSettled number →
      partOf number pool.attempts = partOf number state.attempts ∧
        partOf number pool.finished = partOf number state.finished) :
    { state with toInstallerPool := pool : UserMgrState }.IsOrderly where
  alone := orderly.alone
  worked := worked
  made request member number isOf := by
    rw [promiseNum]
    exact orderly.made request (given request member) number isOf
  fresh number bound := by
    rw [promiseNum] at bound
    exact (fresh number bound).trans (orderly.fresh number bound)
  faithful := faithful
  unwaited other call waits :=
    (hasWaited _).trans (orderly.unwaited other call waits)
  ordinary := orderly.ordinary
  unrefused := orderly.unrefused
  account other call remaining there := account other call remaining there
    (orderly.account other call remaining there)
  settled number bound := by
    rw [promiseNum] at bound
    exact (orderly.settled number bound).imp_left (settled number)
  fits other := (orderly.fits other).mono settled
  returned call member := by
    have done := orderly.returned call member
    obtain ⟨attempts, finished⟩ := kept _ done.settled
    refine ⟨?_, settled _ done.settled, ?_, ?_⟩
    · rw [promiseNum]
      exact done.made
    · rw [attempts]
      exact done.attempted
    · rw [finished]
      exact done.finished
  apart := orderly.apart
  unclashed := orderly.unclashed

/-- Only workers move on, and nothing is counted. -/
theorem IsOrderly.withRunning (orderly : state.IsOrderly)
    {running : List (InstallerTask × TaskStage)}
    (given : running.map (·.1.request) ⊆ state.running.map (·.1.request))
    (working : atStage .working running = atStage .working state.running)
    (fewer : atStage .reporting running ⊆ atStage .reporting state.running)
    (reporting : ∀ thread call remaining,
      (state.threads thread).ledger? = some (call, remaining) →
      (partOf call.bundlePromise (atStage .reporting running)).length =
        (partOf call.bundlePromise (atStage .reporting state.running)).length)
    (telling : ∀ thread call remaining,
      (state.threads thread).ledger? = some (call, remaining) →
      call.requests ≠ [] →
      state.installedHapNum.toNat = call.requests.length →
        (state.promises call.bundlePromise).hasNotified = true ∨
          partOf call.bundlePromise (atStage .comparing running) ≠ []) :
    { state with running := running : UserMgrState }.IsOrderly := by
  have givenBefore (request : InstallerRequest)
      (member : request ∈ queued state.tasks ++ running.map (·.1.request) ++
        state.attempts) : request ∈ state.given := by
    simp only [InstallerPool.given, List.mem_append] at member ⊢
    exact member.imp_left (Or.imp_right (given ·))
  apply orderly.withPool
  · change state.attempts.Perm (atStage .working running ++ state.finished)
    rw [working]
    exact orderly.worked
  · exact givenBefore
  · rfl
  · exact fun _ _ => rfl
  · exact orderly.faithful
  · exact fun _ => rfl
  · intro thread call remaining there account
    exact { account with
      known := fun request member => account.known request
        (givenBefore request member)
      counted := account.counted.trans
        (congrArg (· + _) (reporting thread call remaining there).symm)
      telling := telling thread call remaining there }
  · intro number settled
    exact settled.of_subset rfl (working ▸ List.Subset.refl _) fewer
  · exact fun _ _ => ⟨rfl, rfl⟩

/-- A result that is to be counted is one of the call in progress. -/
theorem IsOrderly.exists_call (orderly : state.IsOrderly) {task : InstallerTask}
    {before after : List (InstallerTask × TaskStage)} {number : PromiseId}
    (runs : state.running = before ++ (task, .reporting) :: after)
    (isOf : task.request.isOf number = true) :
    ∃ thread call remaining,
      (state.threads thread).ledger? = some (call, remaining) ∧
        call.bundlePromise = number := by
  have given : task.request ∈ state.given := by
    simp [InstallerPool.given, runs]
  rcases orderly.settled number (orderly.made _ given number isOf) with
    settled | inProgress
  · have reporting := settled.reporting
    simp [runs, partOf_cons, isOf] at reporting
  · exact inProgress

/-- A worker compares the count with the number of bundles. -/
theorem IsOrderly.compare (orderly : state.IsOrderly) {task : InstallerTask}
    {before after : List (InstallerTask × TaskStage)}
    (runs : state.running = before ++ (task, .comparing) :: after) :
    { state.compare task.request.statusReceiver with
      running := before ++ (task, .removing) :: after :
        UserMgrState }.IsOrderly := by
  have given : task.request ∈ state.given := by
    simp [InstallerPool.given, runs]
  -- Nobody is told unless the last result has been counted.
  have quiet (silent : ∀ thread call remaining,
      (state.threads thread).ledger? = some (call, remaining) →
      task.request.isOf call.bundlePromise = true →
      state.installedHapNum.toNat ≠ call.requests.length) :
      { state with
        running := before ++ (task, .removing) :: after :
          UserMgrState }.IsOrderly := by
    apply orderly.withRunning
    · simp [runs]
    · simp [runs, atStage_cons]
    · simp [runs, atStage_cons]
    · simp [runs, atStage_cons]
    · intro thread call remaining there some all
      have telling := (orderly.account thread call remaining there).telling
        some all
      have foreign : task.request.isOf call.bundlePromise = false := by
        by_contra isOf
        exact silent thread call remaining there (Bool.not_eq_false _ ▸ isOf) all
      simpa [runs, atStage_cons, partOf_cons, foreign] using telling
  cases receiver : task.request.statusReceiver with
  | other =>
      apply quiet
      intro thread call remaining there isOf
      simp [InstallerRequest.isOf, receiver] at isOf
  | userReceiver number total =>
      have isOf : task.request.isOf number = true := by
        simp [InstallerRequest.isOf, receiver]
      have made := orderly.made _ given number isOf
      -- The receiver of a result of the call in progress knows its total.
      have total_eq {thread : ThreadId} {call : UserCall}
          {remaining : List InstallerRequest}
          (there : (state.threads thread).ledger? = some (call, remaining))
          (isOf : task.request.isOf call.bundlePromise = true) :
          call.bundlePromise = number ∧ total = call.totalHapNum := by
        have known := (orderly.account thread call remaining there).known
          _ given isOf
        rw [receiver] at known
        cases known
        exact ⟨rfl, rfl⟩
      simp only [UserMgrState.compare]
      split
      · next reached =>
          have all {thread : ThreadId} {call : UserCall}
              {remaining : List InstallerRequest}
              (there : (state.threads thread).ledger? = some (call, remaining))
              (same : call.bundlePromise = number) :
              state.installedHapNum.toNat = call.requests.length := by
            obtain ⟨-, rfl⟩ := total_eq there (by rw [same]; exact isOf)
            exact (orderly.compare_iff there).mp reached
          have told : (state.setPromise number (state.promises
              number).notifyAllTasksExecuteFinished).IsOrderly := by
            apply orderly.setPromise made
            · rw [BundlePromise.notify_isSet (orderly.faithful number),
                BundlePromise.notify_hasNotified]
            · intro thread call waits same
              rw [BundlePromise.notify_hasWaited, ← same]
              exact orderly.unwaited thread call waits
            · intro thread call remaining there same account
              exact { account with
                told := fun _ => all there same
                telling := fun _ _ => .inl (by simp [same]) }
          apply told.withRunning
          · simp [runs, UserMgrState.setPromise]
          · simp [runs, UserMgrState.setPromise, atStage_cons]
          · simp [runs, UserMgrState.setPromise, atStage_cons]
          · simp [runs, UserMgrState.setPromise, atStage_cons]
          · intro thread call remaining there some counted
            have telling := (told.account thread call remaining there).telling
              some counted
            by_cases same : call.bundlePromise = number
            · left
              simp [UserMgrState.setPromise, same]
            · have foreign : task.request.isOf call.bundlePromise = false := by
                by_contra isOf
                exact same (total_eq there (Bool.not_eq_false _ ▸ isOf)).1
              simpa [UserMgrState.setPromise, runs, atStage_cons, partOf_cons,
                foreign] using telling
      · next less =>
          apply quiet
          intro thread call remaining there isOf all
          obtain ⟨-, rfl⟩ := total_eq there isOf
          exact less ((orderly.compare_iff there).mpr all)

theorem IsOrderly.workerStep (orderly : state.IsOrderly)
    (step : WorkerStep state next) : next.IsOrderly := by
  cases step with
  | takes task rest waiting =>
      apply orderly.withPool
      · simpa [atStage_cons] using orderly.worked
      · intro request member
        simp only [InstallerPool.given, queued, waiting, List.map_cons,
          List.mem_append, List.mem_cons] at member ⊢
        grind
      · rfl
      · exact fun _ _ => rfl
      · exact orderly.faithful
      · exact fun _ => rfl
      · exact fun _ _ _ _ account => account.take waiting
      · exact fun _ settled => (settled.take waiting).2
      · intro number settled
        simp [partOf_cons, (settled.take waiting).1]
  | finishes task before after runs =>
      apply orderly.withPool
      · have worked := orderly.worked
        simp only [runs, atStage_append, atStage_cons, if_true, reduceCtorEq,
          if_false] at worked ⊢
        refine worked.trans ((List.perm_middle.append_right _).trans ?_)
        exact List.perm_middle.symm
      · intro request member
        simpa [InstallerPool.given, runs] using member
      · rfl
      · exact fun _ _ => rfl
      · exact orderly.faithful
      · exact fun _ => rfl
      · exact fun _ _ _ _ account => account.finish runs
      · exact fun _ settled => (settled.finish runs).2
      · intro number settled
        simp [partOf_cons, (settled.finish runs).1]
  | counts task before after runs =>
      cases receiver : task.request.statusReceiver with
      | other =>
          have foreign (number : PromiseId) :
              task.request.isOf number = false := by
            simp [InstallerRequest.isOf, receiver]
          apply orderly.withRunning
          · simp [runs]
          · simp [runs, atStage_cons]
          · simp [runs, atStage_cons]
          · simp [runs, atStage_cons, partOf_cons, foreign]
          · intro thread call remaining there some all
            have telling := (orderly.account thread call remaining there).telling
              some all
            simpa [runs, atStage_cons, partOf_cons, foreign] using telling
      | userReceiver number total =>
          have isOf : task.request.isOf number = true := by
            simp [InstallerRequest.isOf, receiver]
          obtain ⟨thread, call, remaining, ledger, rfl⟩ :=
            orderly.exists_call runs isOf
          simp only [UserMgrState.count]
          apply orderly.withPool
          · simpa [runs, atStage_cons] using orderly.worked
          · intro request member
            simpa [InstallerPool.given, runs] using member
          · rfl
          · exact fun _ _ => rfl
          · exact orderly.faithful
          · exact fun _ => rfl
          · intro other later rest there account
            obtain rfl := orderly.only (isInside_of_ledger ledger)
              (isInside_of_ledger there)
            rw [ledger] at there
            cases there
            exact account.count orderly.worked runs isOf
          · intro number settled
            refine settled.of_subset rfl ?_ ?_
            · simp [runs, atStage_cons]
            · simp [runs, atStage_cons]
          · exact fun _ _ => ⟨rfl, rfl⟩
  | compares task before after runs => exact orderly.compare runs
  | sendsRemoval task before after runs =>
      have moved : { state with
          running := before ++ after : UserMgrState }.IsOrderly := by
        apply orderly.withRunning
        · simp [runs]
        · simp [runs, atStage_cons]
        · simp [runs, atStage_cons]
        · simp [runs, atStage_cons]
        · intro thread call remaining there some all
          have telling := (orderly.account thread call remaining there).telling
            some all
          simpa [runs, atStage_cons] using telling
      exact { moved with }

theorem IsOrderly.step (orderly : state.IsOrderly)
    (step : UserMgrStep state next) (unhindered : IsUnhindered state next) :
    next.IsOrderly := by
  rcases step with ⟨thread, step⟩ | step | step | step
  · exact orderly.callerStep step unhindered
  · exact orderly.workerStep step
  · cases step with
    | tick later bound => exact { orderly with }
  · cases step with
    | removes installerId rest sent => exact { orderly with }

theorem isOrderly_start : ({} : UserMgrState).IsOrderly where
  alone := by intros; contradiction
  worked := .nil
  made := by intros; contradiction
  fresh := fun _ _ => rfl
  faithful := fun _ => rfl
  unwaited := by intros; contradiction
  ordinary := by intros; contradiction
  unrefused := fun _ => rfl
  account := by intros; contradiction
  settled := by intros; contradiction
  fits := fun _ => trivial
  returned := by intros; contradiction
  apart := by intros; contradiction
  unclashed := rfl

theorem IsOrderly.isComplete (orderly : state.IsOrderly) : state.IsComplete where
  once thread call remaining there request := by
    have account := orderly.account thread call remaining there
    have counts := account.asked.count_eq request
    simp only [List.count_append] at counts
    omega
  complete call member :=
    let done := orderly.returned call member
    ⟨done.attempted, done.finished⟩
  unrefused := orderly.unclashed
  released thread call waiting all reporting comparing := by
    have ledger : (state.threads thread).ledger? = some (call, []) := by
      rw [waiting]
      rfl
    have account := orderly.account thread call [] ledger
    have some : call.requests ≠ [] := by
      have fits := orderly.fits thread
      rw [waiting] at fits
      exact fits
    have counted := account.counted
    rw [all.length_eq, reporting, List.length_nil, Nat.zero_add] at counted
    rw [orderly.faithful]
    exact (account.telling some counted.symm).resolve_right (· comparing)

end UserMgrState

/-- In every run in which nothing comes in the way of a call, every call
attempts every bundle exactly once and returns only after that. -/
theorem userCalls_complete {state : UserMgrState}
    (reached : Relation.ReflTransGen
      (Runs.Meeting UserMgrStep IsUnhindered) {} state) :
    state.IsComplete := by
  have orderly : state.IsOrderly := by
    apply Runs.invariant UserMgrState.IsOrderly _ reached
      UserMgrState.isOrderly_start
    rintro before after orderly ⟨step, unhindered⟩
    exact orderly.step step unhindered
  exact orderly.isComplete

/-- Only the first thread does anything. -/
def IsSingle (state : UserMgrState) (phase : CallerPhase) : Prop :=
  ∀ thread, state.threads thread = if thread = 0 then phase else .outside

theorem IsSingle.setThread {state : UserMgrState} {phase : CallerPhase}
    (single : IsSingle state phase) (later : CallerPhase) :
    IsSingle (state.setThread 0 later) later := by
  intro thread
  rw [UserMgrState.setThread_threads, single thread]
  split <;> rfl

/-- Nothing hinders the first thread where it is. -/
def IsFree (state next : UserMgrState) : CallerPhase → Prop
  | .entered => ∀ call rest, next.threads 0 = .looping call rest →
      call.requests.length < 2 ^ 31
  | .asking request .asked (some _) =>
      state.hasManager = true ∧ request.isPermitted = true
  | .asking _ (.identified installerId) _ => state.installers installerId = false
  | _ => True

theorem IsSingle.isUnhindered {state next : UserMgrState} {phase : CallerPhase}
    (single : IsSingle state phase) (free : IsFree state next phase) :
    IsUnhindered state next where
  unused thread request installerId part there _ := by
    rw [single] at there
    split at there
    · subst there
      exact free
    · cases there
  allowed thread request part there _ := by
    rw [single] at there
    split at there
    · subst there
      exact free
    · cases there
  countable thread call rest there next := by
    rw [single] at there
    split at there
    · next same =>
        subst there
        rw [same] at next
        exact free call rest next
    · cases there

/-- The installation of a bundle for a new user. -/
def installForUser : InstallerRequest where
  operation := .installByBundleName
  bundleName := "music"
  userId := 100
  statusReceiver := .userReceiver 0 1
  isPermitted := true

/-- A call of `CreateNewUser` with one preinstalled bundle. -/
def createUser : UserCall := ⟨0, [installForUser]⟩

/-- The call has given its only task to the pool. -/
theorem userCalls_complete_createUser :
    ∃ state : UserMgrState, state.tasks = [⟨0, installForUser⟩] ∧
      state.IsComplete := by
  let part : Option (UserCall × List InstallerRequest) := some (createUser, [])
  let entered : UserMgrState :=
    { ({} : UserMgrState).setThread 0 .entered with bundleUserMgrMutex := some 0 }
  let begun := entered.begin 0 createUser
  let asked := begun.setThread 0 (.asking installForUser .asked part)
  let permitted := asked.setThread 0 (.asking installForUser .permitted part)
  let timed := permitted.setThread 0 (.asking installForUser (.identified 0) part)
  let created := timed.emplace 0 installForUser 0 part
  let added : UserMgrState := { created.setThread 0 (.looping createUser []) with
    tasks := [⟨0, installForUser⟩] }
  have single : IsSingle {} .outside := fun thread => by simp
  have singleEntered : IsSingle entered .entered := single.setThread .entered
  have singleBegun : IsSingle begun (.looping createUser [installForUser]) :=
    singleEntered.setThread _
  have singleAsked : IsSingle asked (.asking installForUser .asked part) :=
    singleBegun.setThread _
  have singlePermitted :
      IsSingle permitted (.asking installForUser .permitted part) :=
    singleAsked.setThread _
  have singleTimed :
      IsSingle timed (.asking installForUser (.identified 0) part) :=
    singlePermitted.setThread _
  have singleCreated :
      IsSingle created (.asking installForUser (.adding 0) part) :=
    singleTimed.setThread _
  have enters : Runs.Meeting UserMgrStep IsUnhindered {} entered :=
    ⟨.inl ⟨0, .enters _ rfl rfl⟩, single.isUnhindered trivial⟩
  have begins : Runs.Meeting UserMgrStep IsUnhindered entered begun := by
    refine ⟨.inl ⟨0, .creates entered 100 ["music"] true rfl⟩,
      singleEntered.isUnhindered ?_⟩
    rintro call rest ⟨⟩
    decide
  have asks : Runs.Meeting UserMgrStep IsUnhindered begun asked :=
    ⟨.inl ⟨0, .asks begun createUser installForUser [] rfl⟩,
      singleBegun.isUnhindered trivial⟩
  have checks : Runs.Meeting UserMgrStep IsUnhindered asked permitted :=
    ⟨.inl ⟨0, .checks asked installForUser part rfl⟩,
      singleAsked.isUnhindered ⟨rfl, rfl⟩⟩
  have reads : Runs.Meeting UserMgrStep IsUnhindered permitted timed :=
    ⟨.inl ⟨0, .readsTime permitted installForUser part rfl⟩,
      singlePermitted.isUnhindered trivial⟩
  have emplaces : Runs.Meeting UserMgrStep IsUnhindered timed created :=
    ⟨.inl ⟨0, .emplaces timed installForUser 0 part rfl⟩,
      singleTimed.isUnhindered rfl⟩
  have adds : Runs.Meeting UserMgrStep IsUnhindered created added :=
    ⟨.inl ⟨0, .addsTask created installForUser 0 part rfl (by decide)⟩,
      singleCreated.isUnhindered trivial⟩
  have run := ((((((Relation.ReflTransGen.single enters).tail begins).tail
    asks).tail checks).tail reads).tail emplaces).tail adds
  exact ⟨added, rfl, userCalls_complete run⟩

/-- Another thread creates an installer in the same microsecond: the call is
refused, counts the refusal as its result and returns. -/
theorem userCalls_clash :
    ∃ state, Relation.ReflTransGen UserMgrStep {} state ∧
      ¬state.IsComplete ∧ createUser ∈ state.returned ∧
        state.attempts = [] := by
  let other : InstallerRequest := ⟨.install, "clock", 100, .other, true⟩
  let part : Option (UserCall × List InstallerRequest) := some (createUser, [])
  -- Thread 1 has an installer of its own.
  let otherAsked := ({} : UserMgrState).setThread 1 (.asking other .asked none)
  let otherPermitted := otherAsked.setThread 1 (.asking other .permitted none)
  let otherTimed := otherPermitted.setThread 1 (.asking other (.identified 0) none)
  let otherCreated := otherTimed.emplace 1 other 0 none
  -- Thread 0 creates a user.
  let entered : UserMgrState :=
    { otherCreated.setThread 0 .entered with bundleUserMgrMutex := some 0 }
  let begun := entered.begin 0 createUser
  let asked := begun.setThread 0 (.asking installForUser .asked part)
  let permitted := asked.setThread 0 (.asking installForUser .permitted part)
  let timed := permitted.setThread 0 (.asking installForUser (.identified 0) part)
  let refused := timed.emplace 0 installForUser 0 part
  let told := (refused.count (.userReceiver 0 1)).setThread 0
    (.asking installForUser .told part)
  let compared := (told.compare (.userReceiver 0 1)).setThread 0
    (.looping createUser [])
  let finishing := compared.setThread 0 (.finishing createUser)
  let returned : UserMgrState := { finishing.setThread 0 .outside with
    bundleUserMgrMutex := none
    returned := [createUser] }
  have otherAsks : UserMgrStep {} otherAsked :=
    .inl ⟨1, .asksOther _ other rfl rfl⟩
  have otherChecks : UserMgrStep otherAsked otherPermitted :=
    .inl ⟨1, .checks otherAsked other none rfl⟩
  have otherReads : UserMgrStep otherPermitted otherTimed :=
    .inl ⟨1, .readsTime otherPermitted other none rfl⟩
  have otherEmplaces : UserMgrStep otherTimed otherCreated :=
    .inl ⟨1, .emplaces otherTimed other 0 none rfl⟩
  have enters : UserMgrStep otherCreated entered :=
    .inl ⟨0, .enters otherCreated rfl rfl⟩
  have begins : UserMgrStep entered begun :=
    .inl ⟨0, .creates entered 100 ["music"] true rfl⟩
  have asks : UserMgrStep begun asked :=
    .inl ⟨0, .asks begun createUser installForUser [] rfl⟩
  have checks : UserMgrStep asked permitted :=
    .inl ⟨0, .checks asked installForUser part rfl⟩
  have reads : UserMgrStep permitted timed :=
    .inl ⟨0, .readsTime permitted installForUser part rfl⟩
  have emplaces : UserMgrStep timed refused :=
    .inl ⟨0, .emplaces timed installForUser 0 part rfl⟩
  have counts : UserMgrStep refused told :=
    .inl ⟨0, .countsRefusal refused installForUser part rfl⟩
  have compares : UserMgrStep told compared :=
    .inl ⟨0, .comparesRefusal told installForUser part rfl⟩
  have finishes : UserMgrStep compared finishing :=
    .inl ⟨0, .comparesCount compared createUser rfl⟩
  have returns : UserMgrStep finishing returned :=
    .inl ⟨0, .returns finishing createUser rfl⟩
  have run := (((((((((((((Relation.ReflTransGen.single otherAsks).tail
    otherChecks).tail otherReads).tail otherEmplaces).tail enters).tail
    begins).tail asks).tail checks).tail reads).tail emplaces).tail counts).tail
    compares).tail finishes).tail returns
  refine ⟨returned, run, fun complete => ?_, List.mem_singleton_self _, rfl⟩
  have attempted := (complete.complete createUser (List.mem_singleton_self _)).1
  cases attempted.length_eq

end AppExecFwk
