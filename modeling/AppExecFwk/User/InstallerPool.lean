import AppExecFwk.User.UserMgr

/-!
# Accounts of the installer pool

What the pool of workers has been given for a call, how far it is with it and
what has been counted.  Each step of a worker keeps the account of a call in
progress.
-/

namespace AppExecFwk

namespace InstallerRequest

/-- The request is part of the call with a promise. -/
def isOf (bundlePromise : PromiseId) (request : InstallerRequest) : Bool :=
  match request.statusReceiver with
  | .userReceiver number _ => number == bundlePromise
  | .other => false

end InstallerRequest

/-- The requests that are part of a call. -/
def partOf (bundlePromise : PromiseId) (requests : List InstallerRequest) :
    List InstallerRequest :=
  requests.filter (·.isOf bundlePromise)

/-- What the workers do that are at a stage. -/
def atStage (stage : TaskStage) (running : List (InstallerTask × TaskStage)) :
    List InstallerRequest :=
  running.filterMap fun (task, reached) =>
    if reached = stage then some task.request else none

/-- What waits for a worker. -/
def queued (tasks : List InstallerTask) : List InstallerRequest :=
  tasks.map (·.request)

section Lists

variable {bundlePromise : PromiseId} {request : InstallerRequest}
  {requests more : List InstallerRequest} {stage reached : TaskStage}
  {task : InstallerTask} {running rest : List (InstallerTask × TaskStage)}

@[simp]
theorem partOf_nil : partOf bundlePromise [] = [] := rfl

@[simp]
theorem partOf_append :
    partOf bundlePromise (requests ++ more) =
      partOf bundlePromise requests ++ partOf bundlePromise more :=
  List.filter_append ..

theorem partOf_cons :
    partOf bundlePromise (request :: requests) =
      if request.isOf bundlePromise then
        request :: partOf bundlePromise requests
      else partOf bundlePromise requests := by
  rw [partOf, List.filter_cons]
  rfl

theorem mem_partOf :
    request ∈ partOf bundlePromise requests ↔
      request ∈ requests ∧ request.isOf bundlePromise = true :=
  List.mem_filter

theorem partOf_eq_self
    (all : ∀ request ∈ requests, request.isOf bundlePromise = true) :
    partOf bundlePromise requests = requests :=
  List.filter_eq_self.mpr all

@[simp]
theorem atStage_append :
    atStage stage (running ++ rest) = atStage stage running ++ atStage stage rest :=
  List.filterMap_append

theorem atStage_cons :
    atStage stage ((task, reached) :: rest) =
      if reached = stage then task.request :: atStage stage rest
      else atStage stage rest := by
  unfold atStage
  rw [List.filterMap_cons]
  dsimp only
  split <;> simp_all

@[simp]
theorem atStage_cons_self :
    atStage stage ((task, stage) :: rest) = task.request :: atStage stage rest := by
  rw [atStage_cons, if_pos rfl]

theorem mem_atStage :
    request ∈ atStage stage running ↔
      ∃ task, (task, stage) ∈ running ∧ task.request = request := by
  simp only [atStage, List.mem_filterMap, Prod.exists]
  constructor
  · rintro ⟨task, reached, member, same⟩
    split at same
    · next here =>
        subst here
        cases same
        exact ⟨task, member, rfl⟩
    · cases same
  · rintro ⟨task, member, rfl⟩
    exact ⟨task, stage, member, if_pos rfl⟩

end Lists

/-- The count as a signed number reaches the number of bundles when it is that
number. -/
theorem ge_totalHapNum_iff {count : UInt32} {number : Nat}
    (countBound : count.toNat < 2 ^ 31) (bound : number < 2 ^ 31) :
    count.toInt32 ≥ Int32.ofNat number ↔ number ≤ count.toNat := by
  have total : (Int32.ofNat number).toInt = number :=
    Int32.toInt_ofNat_of_lt bound
  have counted : count.toInt32.toInt = count.toNat := by
    apply BitVec.toInt_eq_toNat_of_lt
    change 2 * count.toNat < _
    omega
  rw [ge_iff_le, Int32.le_iff_toInt_le, total, counted]
  omega

namespace InstallerPool

/-- All requests that the pool has ever been given. -/
def given (pool : InstallerPool) : List InstallerRequest :=
  queued pool.tasks ++ pool.running.map (·.1.request) ++ pool.attempts

/-- Nothing of a call is left to be attempted or counted. -/
structure IsSettled (pool : InstallerPool) (bundlePromise : PromiseId) :
    Prop where
  queued : partOf bundlePromise (queued pool.tasks) = []
  working : partOf bundlePromise (atStage .working pool.running) = []
  reporting : partOf bundlePromise (atStage .reporting pool.running) = []

/-- The account of a call in progress: what it has asked for is in the pool, and
the counter counts what has come to an end. -/
structure IsAccounted (pool : InstallerPool) (call : UserCall)
    (remaining : List InstallerRequest) : Prop where
  current : call.bundlePromise + 1 = pool.promiseNum
  countable : call.requests.length < 2 ^ 31
  own : ∀ request ∈ call.requests, request.statusReceiver =
    .userReceiver call.bundlePromise call.totalHapNum
  known : ∀ request ∈ pool.given, request.isOf call.bundlePromise = true →
    request.statusReceiver = .userReceiver call.bundlePromise call.totalHapNum
  asked : call.requests.Perm (remaining ++
    partOf call.bundlePromise (queued pool.tasks) ++
    partOf call.bundlePromise pool.attempts)
  counted : (partOf call.bundlePromise pool.finished).length =
    (partOf call.bundlePromise (atStage .reporting pool.running)).length +
      pool.installedHapNum.toNat
  told : (pool.promises call.bundlePromise).hasNotified = true →
    pool.installedHapNum.toNat = call.requests.length
  telling : call.requests ≠ [] →
    pool.installedHapNum.toNat = call.requests.length →
      (pool.promises call.bundlePromise).hasNotified = true ∨
        partOf call.bundlePromise (atStage .comparing pool.running) ≠ []

/-- A call that has returned has attempted and finished what it asked for. -/
structure IsDone (pool : InstallerPool) (call : UserCall) : Prop where
  made : call.bundlePromise < pool.promiseNum
  settled : pool.IsSettled call.bundlePromise
  attempted : (partOf call.bundlePromise pool.attempts).Perm call.requests
  finished : (partOf call.bundlePromise pool.finished).Perm call.requests

variable {pool : InstallerPool}

/-- The numbers of a call in progress. -/
theorem IsAccounted.length_le {call : UserCall}
    {remaining : List InstallerRequest}
    (account : pool.IsAccounted call remaining)
    (worked : pool.attempts.Perm
      (atStage .working pool.running ++ pool.finished)) :
    remaining.length + (partOf call.bundlePromise (queued pool.tasks)).length +
      (partOf call.bundlePromise (atStage .working pool.running)).length +
      (partOf call.bundlePromise (atStage .reporting pool.running)).length +
      pool.installedHapNum.toNat = call.requests.length := by
  have asked := account.asked.length_eq
  have parts := (worked.filter (·.isOf call.bundlePromise)).length_eq
  rw [List.filter_append] at parts
  have counted := account.counted
  simp only [List.length_append, partOf] at asked parts counted ⊢
  omega

/-- When everything has been counted, nothing is left to be done. -/
theorem IsAccounted.isSettled {call : UserCall}
    {remaining : List InstallerRequest}
    (account : pool.IsAccounted call remaining)
    (worked : pool.attempts.Perm
      (atStage .working pool.running ++ pool.finished))
    (all : pool.installedHapNum.toNat = call.requests.length) :
    pool.IsSettled call.bundlePromise := by
  have total := account.length_le worked
  refine ⟨?_, ?_, ?_⟩
  all_goals
    apply List.eq_nil_of_length_eq_zero
    omega

/-- One more task waits. -/
def add (pool : InstallerPool) (task : InstallerTask) : InstallerPool :=
  { pool with tasks := pool.tasks ++ [task] }

@[simp]
theorem add_attempts (task : InstallerTask) :
    (pool.add task).attempts = pool.attempts := rfl

theorem partOf_queued_add {bundlePromise : PromiseId} {task : InstallerTask} :
    partOf bundlePromise (AppExecFwk.queued (pool.add task).tasks) =
      partOf bundlePromise (AppExecFwk.queued pool.tasks) ++
        partOf bundlePromise [task.request] := by
  simp [add, AppExecFwk.queued]

theorem mem_given_add {request : InstallerRequest} {task : InstallerTask} :
    request ∈ (pool.add task).given ↔
      request = task.request ∨ request ∈ pool.given := by
  simp only [given, add, AppExecFwk.queued, List.map_append, List.map_cons,
    List.map_nil, List.mem_append, List.mem_singleton]
  grind

/-- A task of another call leaves a call as it is. -/
theorem IsSettled.add {bundlePromise : PromiseId} {task : InstallerTask}
    (settled : pool.IsSettled bundlePromise)
    (foreign : task.request.isOf bundlePromise = false) :
    (pool.add task).IsSettled bundlePromise := by
  refine ⟨?_, settled.working, settled.reporting⟩
  rw [partOf_queued_add, settled.queued, partOf_cons, foreign]
  rfl

theorem IsAccounted.addForeign {call : UserCall}
    {remaining : List InstallerRequest} {task : InstallerTask}
    (account : pool.IsAccounted call remaining)
    (foreign : task.request.isOf call.bundlePromise = false) :
    (pool.add task).IsAccounted call remaining := by
  refine { account with
    known := fun request member isOf => ?_
    asked := ?_ }
  · rcases mem_given_add.mp member with rfl | before
    · rw [foreign] at isOf
      cases isOf
    · exact account.known request before isOf
  · rw [partOf_queued_add, partOf_cons, foreign]
    simpa using account.asked

/-- A task that a call asks for moves from the call to the pool. -/
theorem IsAccounted.addOwn {call : UserCall} {remaining : List InstallerRequest}
    {task : InstallerTask}
    (account : pool.IsAccounted call (task.request :: remaining)) :
    (pool.add task).IsAccounted call remaining := by
  have own := account.own task.request
    (account.asked.mem_iff.mpr (by simp))
  have isOf : task.request.isOf call.bundlePromise = true := by
    simp [InstallerRequest.isOf, own]
  refine { account with
    known := fun request member isOf => ?_
    asked := ?_ }
  · rcases mem_given_add.mp member with rfl | before
    · exact own
    · exact account.known request before isOf
  · rw [partOf_queued_add, partOf_cons, isOf]
    refine account.asked.trans ?_
    simp only [if_true, partOf_nil, List.cons_append, List.append_assoc,
      List.nil_append, add_attempts]
    rw [← List.append_assoc, ← List.append_assoc]
    exact List.perm_middle.symm

section Workers

variable {call : UserCall} {remaining : List InstallerRequest}
  {bundlePromise : PromiseId} {task : InstallerTask}
  {before after : List (InstallerTask × TaskStage)}

theorem IsSettled.take {rest : List InstallerTask}
    (settled : pool.IsSettled bundlePromise) (waiting : pool.tasks = task :: rest) :
    task.request.isOf bundlePromise = false ∧
      { pool with
        tasks := rest
        running := (task, .working) :: pool.running
        attempts := task.request :: pool.attempts :
          InstallerPool }.IsSettled bundlePromise := by
  obtain ⟨queued, working, reporting⟩ := settled
  simp only [waiting, AppExecFwk.queued, List.map_cons, partOf_cons] at queued
  split at queued
  · cases queued
  · next foreign =>
      rw [Bool.not_eq_true] at foreign
      refine ⟨foreign, queued, ?_, ?_⟩
      · simpa [partOf_cons, foreign] using working
      · simpa [atStage_cons] using reporting

theorem IsAccounted.take {rest : List InstallerTask}
    (account : pool.IsAccounted call remaining)
    (waiting : pool.tasks = task :: rest) :
    { pool with
      tasks := rest
      running := (task, .working) :: pool.running
      attempts := task.request :: pool.attempts :
        InstallerPool }.IsAccounted call remaining := by
  refine { account with
    known := fun request member isOf => ?_
    asked := ?_
    counted := ?_
    telling := ?_ }
  · apply account.known request _ isOf
    simp only [given, AppExecFwk.queued, waiting, List.map_cons,
      List.mem_append, List.mem_cons] at member ⊢
    grind
  · have asked := account.asked
    simp only [waiting, AppExecFwk.queued, List.map_cons, partOf_cons]
      at asked ⊢
    split
    · next isOf =>
        rw [if_pos isOf] at asked
        refine asked.trans ((List.perm_middle.append_right _).trans ?_)
        exact List.perm_middle.symm
    · next foreign =>
        rw [if_neg foreign] at asked
        exact asked
  · simpa [atStage_cons] using account.counted
  · simpa [atStage_cons] using account.telling

theorem IsSettled.finish (settled : pool.IsSettled bundlePromise)
    (runs : pool.running = before ++ (task, .working) :: after) :
    task.request.isOf bundlePromise = false ∧
      { pool with
        running := before ++ (task, .reporting) :: after
        finished := task.request :: pool.finished :
          InstallerPool }.IsSettled bundlePromise := by
  obtain ⟨queued, working, reporting⟩ := settled
  simp only [runs, atStage_append, atStage_cons, if_true, partOf_append,
    partOf_cons, List.append_eq_nil_iff, reduceCtorEq, if_false] at working reporting
  obtain ⟨noneBefore, noneAfter⟩ := working
  split at noneAfter
  · cases noneAfter
  · next foreign =>
      rw [Bool.not_eq_true] at foreign
      refine ⟨foreign, queued, ?_, ?_⟩
      · simp [atStage_cons, noneBefore, noneAfter]
      · simp [partOf_cons, foreign, reporting]

theorem IsAccounted.finish (account : pool.IsAccounted call remaining)
    (runs : pool.running = before ++ (task, .working) :: after) :
    { pool with
      running := before ++ (task, .reporting) :: after
      finished := task.request :: pool.finished :
        InstallerPool }.IsAccounted call remaining := by
  refine { account with
    known := fun request member isOf => ?_
    counted := ?_
    telling := ?_ }
  · apply account.known request _ isOf
    simpa [given, runs] using member
  · have counted := account.counted
    simp only [runs, atStage_append, atStage_cons, if_true, partOf_append,
      partOf_cons, reduceCtorEq, if_false, List.length_append] at counted ⊢
    split
    · simp only [List.length_cons]
      omega
    · exact counted
  · simpa [runs, atStage_cons] using account.telling

/-- What is left to be done gets less. -/
theorem IsSettled.of_subset {later : InstallerPool}
    (settled : pool.IsSettled bundlePromise) (tasks : later.tasks = pool.tasks)
    (working : atStage .working later.running ⊆ atStage .working pool.running)
    (reporting : atStage .reporting later.running ⊆
      atStage .reporting pool.running) : later.IsSettled bundlePromise := by
  have nothing {fewer requests : List InstallerRequest}
      (subset : fewer ⊆ requests) (none : partOf bundlePromise requests = []) :
      partOf bundlePromise fewer = [] := by
    apply List.filter_eq_nil_iff.mpr
    intro request member
    exact List.filter_eq_nil_iff.mp none request (subset member)
  exact ⟨by rw [tasks, settled.queued], nothing working settled.working,
    nothing reporting settled.reporting⟩

/-- A result of the call is counted. -/
theorem IsAccounted.count (account : pool.IsAccounted call remaining)
    (worked : pool.attempts.Perm
      (atStage .working pool.running ++ pool.finished))
    (runs : pool.running = before ++ (task, .reporting) :: after)
    (isOf : task.request.isOf call.bundlePromise = true) :
    { pool with
      running := before ++ (task, .comparing) :: after
      installedHapNum := pool.installedHapNum + 1 :
        InstallerPool }.IsAccounted call remaining := by
  have total := account.length_le worked
  have counted := account.counted
  have countable := account.countable
  simp only [runs, atStage_append, atStage_cons, if_true, partOf_append,
    partOf_cons, isOf, List.length_append, List.length_cons] at total counted
  have next : (pool.installedHapNum + 1).toNat =
      pool.installedHapNum.toNat + 1 := by
    rw [UInt32.toNat_add]
    change (_ + 1) % _ = _
    omega
  refine { account with
    known := fun request member isOf => ?_
    counted := ?_
    told := fun notified => ?_
    telling := fun _ _ => ?_ }
  · apply account.known request _ isOf
    simpa [given, runs] using member
  · simp only [atStage_append, atStage_cons, reduceCtorEq, if_false,
      partOf_append, List.length_append, next]
    omega
  · have all := account.told notified
    omega
  · right
    simp [partOf_cons, isOf]

end Workers

/-- A call with nothing left is done. -/
theorem IsAccounted.isDone {call : UserCall}
    (account : pool.IsAccounted call [])
    (worked : pool.attempts.Perm
      (atStage .working pool.running ++ pool.finished))
    (settled : pool.IsSettled call.bundlePromise) : pool.IsDone call := by
  have asked := account.asked
  rw [settled.queued, List.nil_append, List.nil_append] at asked
  have parts := worked.filter (·.isOf call.bundlePromise)
  have working := settled.working
  rw [List.filter_append] at parts
  unfold partOf at working
  rw [working, List.nil_append] at parts
  have made : call.bundlePromise < pool.promiseNum :=
    Nat.lt_of_lt_of_eq (Nat.lt_succ_self _) account.current
  exact ⟨made, settled, asked.symm, parts.symm.trans asked.symm⟩

end InstallerPool

end AppExecFwk
