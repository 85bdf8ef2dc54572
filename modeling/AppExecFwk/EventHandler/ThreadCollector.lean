import Mathlib.Logic.Function.Basic
import Mathlib.Logic.Relation

/-!
# Collecting threads

Each runner with a thread of its own deposits the thread with the thread
collector.  A thread that leaves its event loop asks to be reclaimed, and a
daemon thread, which the first such request starts, joins it.  When the process
ends, the collector is stopped: it waits for its daemon and has every thread
that is left exit.  The state is guarded by one lock, the start of the daemon by
another; whatever is done under a lock without a break is one step.
-/

namespace AppExecFwk

/-- The thread of a runner, by the number of its creation. -/
abbrev RunnerThread := Nat

/-- How far the thread of a runner is. -/
inductive WorkerPhase where
  /-- It has not left its event loop. -/
  | running
  /-- It has asked to be reclaimed. -/
  | reclaimed
  /-- It may start the daemon. -/
  | starting
  | ended
  deriving DecidableEq

/-- How far the daemon of the collector is. -/
inductive DaemonPhase where
  | absent
  /-- It is about to check whether the collector is being stopped. -/
  | checking
  /-- It is about to look for a thread to reclaim. -/
  | reclaiming
  | joining (threadId : RunnerThread)
  | waiting
  | ended
  | joined
  deriving DecidableEq

/-- How far the one is who stops the collector. -/
inductive StopPhase where
  | idle
  | flagged
  /-- It waits for the daemon, holding the lock of its start. -/
  | joiningDaemon
  | reclaiming
  | joining (threadId : RunnerThread)
  | done
  deriving DecidableEq

/-- Who holds the lock of the daemon's start. -/
inductive ThreadLock where
  | free
  | worker (threadId : RunnerThread)
  | stopper
  deriving DecidableEq

/-- The collector with the threads made so far.  The handle of a thread is with
its creator, with a creator whom the collector has refused it, in the deposit
map, or with those who join it. -/
structure CollectorState where
  threadNum : Nat := 0
  workers : RunnerThread → WorkerPhase := fun _ => .running
  creators : List RunnerThread := []
  refused : List RunnerThread := []
  depositMap : List RunnerThread := []
  /-- The threads to reclaim, the latest first. -/
  reclaims : List RunnerThread := []
  isWaiting : Bool := false
  /-- The condition variable has been notified since the wait began. -/
  notified : Bool := false
  destroying : Bool := false
  threadLock : ThreadLock := .free
  needCreateThread : Bool := true
  daemon : DaemonPhase := .absent
  stopper : StopPhase := .idle
  /-- The threads whose exit function has been called. -/
  exited : List RunnerThread := []
  joined : List RunnerThread := []

namespace CollectorState

variable (state : CollectorState)

/-- Wake up the daemon if it waits. -/
def notify : CollectorState :=
  { state with notified := state.notified || state.isWaiting }

def setWorker (threadId : RunnerThread) (phase : WorkerPhase) : CollectorState :=
  { state with workers := Function.update state.workers threadId phase }

/-- The first part of a request of a thread to be reclaimed. -/
def reclaimCurrentThread (threadId : RunnerThread) : CollectorState :=
  if state.destroying then state.setWorker threadId .ended
  else
    { (state.setWorker threadId .reclaimed) with
      reclaims := threadId :: state.reclaims }.notify

/-- Try to take the lock of the daemon's start; the attempt may fail without a
reason, too. -/
def tryLock (threadId : RunnerThread) (fails : Bool) : CollectorState :=
  if state.threadLock = .free ∧ fails = false then
    { state.setWorker threadId .starting with threadLock := .worker threadId }
  else state.setWorker threadId .ended

/-- Start the daemon, if there is none yet. -/
def startDaemon (threadId : RunnerThread) : CollectorState :=
  { state.setWorker threadId .ended with
    threadLock := .free
    daemon :=
      if state.daemon = .absent ∧ state.needCreateThread then .checking
      else state.daemon }

/-- Take over a thread, unless the collector is being stopped: then its creator
has it exit. -/
def deposit (threadId : RunnerThread) : CollectorState :=
  if state.destroying then
    { state with
      creators := state.creators.erase threadId
      refused := threadId :: state.refused
      exited := threadId :: state.exited }
  else
    { state with
      creators := state.creators.erase threadId
      depositMap := threadId :: state.depositMap }

/-- The latest of the threads to reclaim that is deposited, with those before
it. -/
def nextReclaim (depositMap : List RunnerThread) :
    List RunnerThread → Option (RunnerThread × List RunnerThread)
  | [] => none
  | threadId :: reclaims =>
      if threadId ∈ depositMap then some (threadId, reclaims)
      else nextReclaim depositMap reclaims

/-- The inner loop of the daemon, up to where it drops the lock. -/
def runReclaiming : CollectorState :=
  match nextReclaim state.depositMap state.reclaims with
  | some (threadId, reclaims) =>
      { state with
        reclaims := reclaims
        depositMap := state.depositMap.erase threadId
        daemon := .joining threadId }
  | none =>
      if state.destroying then
        { state with reclaims := [], daemon := .ended }
      else
        { state with
          reclaims := []
          isWaiting := true
          notified := false
          daemon := .waiting }

/-- The outer loop of the daemon, up to where it drops the lock. -/
def run : CollectorState :=
  if state.destroying then { state with daemon := .ended }
  else state.runReclaiming

/-- The daemon goes on with the lock. -/
def goOn : CollectorState :=
  match state.daemon with
  | .checking => state.run
  | .reclaiming => state.runReclaiming
  | .waiting => { state with isWaiting := false }.run
  | _ => state

/-- The daemon has joined a thread. -/
def daemonJoins : CollectorState :=
  match state.daemon with
  | .joining threadId =>
      { state with daemon := .reclaiming, joined := threadId :: state.joined }
  | _ => state

/-- The one who stops the collector has joined a thread. -/
def stopperJoins : CollectorState :=
  match state.stopper with
  | .joining threadId =>
      { state with stopper := .reclaiming, joined := threadId :: state.joined }
  | _ => state

end CollectorState

/-- What the creators, the threads, the daemon and the one who stops the
collector do. -/
inductive CollectorAction where
  | create
  | deposit (threadId : RunnerThread)
  | joinRefused (threadId : RunnerThread)
  | leave (threadId : RunnerThread)
  | tryLock (threadId : RunnerThread) (fails : Bool)
  | startDaemon (threadId : RunnerThread)
  | goOn
  | daemonJoins
  | stop
  | lock
  | joinDaemon
  | reclaimNext (threadId : RunnerThread)
  | finish
  | stopperJoins

namespace CollectorState

variable (state : CollectorState)

def perform : CollectorAction → CollectorState
  | .create =>
      { state with
        threadNum := state.threadNum + 1
        creators := state.threadNum :: state.creators }
  | .deposit threadId => state.deposit threadId
  | .joinRefused threadId =>
      { state with
        refused := state.refused.erase threadId
        joined := threadId :: state.joined }
  | .leave threadId => state.reclaimCurrentThread threadId
  | .tryLock threadId fails => state.tryLock threadId fails
  | .startDaemon threadId => state.startDaemon threadId
  | .goOn => state.goOn
  | .daemonJoins => state.daemonJoins
  | .stop => { state with destroying := true, stopper := .flagged }.notify
  | .lock => { state with threadLock := .stopper, stopper := .joiningDaemon }
  | .joinDaemon =>
      { state with
        daemon := if state.daemon = .absent then .absent else .joined
        needCreateThread := false
        threadLock := .free
        stopper := .reclaiming }
  | .reclaimNext threadId =>
      { state with
        depositMap := state.depositMap.erase threadId
        exited := threadId :: state.exited
        stopper := .joining threadId }
  | .finish => { state with stopper := .done }
  | .stopperJoins => state.stopperJoins

/-- What may happen next; to join a thread is to wait for its end. -/
def IsPossible : CollectorAction → Prop
  | .create => True
  | .deposit threadId => threadId ∈ state.creators
  | .joinRefused threadId =>
      threadId ∈ state.refused ∧ state.workers threadId = .ended
  | .leave threadId =>
      threadId < state.threadNum ∧ state.workers threadId = .running
  | .tryLock threadId _ => state.workers threadId = .reclaimed
  | .startDaemon threadId => state.workers threadId = .starting
  | .goOn => state.daemon = .checking ∨ state.daemon = .reclaiming ∨
      state.daemon = .waiting
  | .daemonJoins => ∃ threadId, state.daemon = .joining threadId ∧
      state.workers threadId = .ended
  | .stop => state.stopper = .idle
  | .lock => state.stopper = .flagged ∧ state.threadLock = .free
  | .joinDaemon => state.stopper = .joiningDaemon ∧
      (state.daemon = .absent ∨ state.daemon = .ended)
  | .reclaimNext threadId =>
      state.stopper = .reclaiming ∧ threadId ∈ state.depositMap
  | .finish => state.stopper = .reclaiming ∧ state.depositMap = []
  | .stopperJoins => ∃ threadId, state.stopper = .joining threadId ∧
      state.workers threadId = .ended

end CollectorState

/-- A step of anybody. -/
def CollectorStep (state next : CollectorState) : Prop :=
  ∃ action, state.IsPossible action ∧ next = state.perform action

/-- The one who holds the handle of a thread, if the daemon does. -/
def DaemonPhase.held : DaemonPhase → List RunnerThread
  | .joining threadId => [threadId]
  | _ => []

/-- The one who holds the handle of a thread, if the stopper does. -/
def StopPhase.held : StopPhase → List RunnerThread
  | .joining threadId => [threadId]
  | _ => []

/-- How many hold the handle of a thread or have joined it. -/
def CollectorState.ownerNum (state : CollectorState) (threadId : RunnerThread) : Nat :=
  state.creators.count threadId + state.refused.count threadId +
    state.depositMap.count threadId + state.daemon.held.count threadId +
    state.stopper.held.count threadId + state.joined.count threadId

/-- The stopper is past the daemon. -/
def StopPhase.IsPastDaemon : StopPhase → Prop
  | .reclaiming | .joining _ | .done => True
  | _ => False

/-- Every thread has one owner, the daemon does not sleep through a request and
waits only for threads that are about to end, and the stopper leaves no daemon
behind it. -/
structure CollectorState.IsSound (state : CollectorState) : Prop where
  owned : ∀ threadId, state.ownerNum threadId =
    if threadId < state.threadNum then 1 else 0
  ended : ∀ threadId ∈ state.joined, state.workers threadId = .ended
  waits : state.isWaiting = true ↔ state.daemon = .waiting
  awake : state.daemon = .waiting → state.notified = false →
    state.reclaims = [] ∧ state.destroying = false
  reclaimed : ∀ threadId ∈ state.reclaims, state.workers threadId ≠ .running
  leaving : ∀ threadId ∈ state.daemon.held, state.workers threadId ≠ .running
  exiting : ∀ threadId, threadId ∈ state.refused ∨
    threadId ∈ state.stopper.held → threadId ∈ state.exited
  flagged : state.destroying = false ↔ state.stopper = .idle
  lockedBy : ∀ threadId, state.threadLock = .worker threadId ↔
    state.workers threadId = .starting
  lockedByStopper : state.threadLock = .stopper ↔ state.stopper = .joiningDaemon
  past : state.stopper.IsPastDaemon → state.needCreateThread = false ∧
    (state.daemon = .absent ∨ state.daemon = .joined)
  before : state.daemon = .joined → state.stopper.IsPastDaemon
  done : state.stopper = .done → state.depositMap = []

namespace CollectorState

section Steps

variable {state : CollectorState}

theorem nextReclaim_eq_some {depositMap reclaims rest : List RunnerThread}
    {threadId : RunnerThread}
    (found : nextReclaim depositMap reclaims = some (threadId, rest)) :
    threadId ∈ depositMap ∧ threadId ∈ reclaims ∧ rest ⊆ reclaims ∧
      rest.length < reclaims.length := by
  induction reclaims with
  | nil => cases found
  | cons first reclaims ih =>
      unfold nextReclaim at found
      split at found
      · next deposited =>
          cases found
          exact ⟨deposited, List.mem_cons_self, List.subset_cons_self _ _,
            Nat.lt_succ_self _⟩
      · obtain ⟨deposited, asked, later, shorter⟩ := ih found
        exact ⟨deposited, List.mem_cons_of_mem _ asked,
          List.subset_cons_of_subset _ later, Nat.lt_succ_of_lt shorter⟩

/-- Where the daemon drops the lock: it takes a thread to join, ends since the
collector is being stopped, or waits since there is nothing to do. -/
inductive DaemonGoesOn (state : CollectorState) : CollectorState → Prop where
  | joins {threadId : RunnerThread} {reclaims : List RunnerThread}
      (found : nextReclaim state.depositMap state.reclaims =
        some (threadId, reclaims)) :
      DaemonGoesOn state
        { state with
          isWaiting := false
          reclaims := reclaims
          depositMap := state.depositMap.erase threadId
          daemon := .joining threadId }
  | ends {reclaims : List RunnerThread} (flagged : state.destroying = true)
      (fewer : reclaims ⊆ state.reclaims) :
      DaemonGoesOn state
        { state with isWaiting := false, reclaims := reclaims, daemon := .ended }
  | waits (unflagged : state.destroying = false) :
      DaemonGoesOn state
        { state with
          isWaiting := true
          notified := false
          reclaims := []
          daemon := .waiting }

theorem runReclaiming_goesOn (state : CollectorState) :
    DaemonGoesOn state { state with isWaiting := false }.runReclaiming := by
  unfold runReclaiming
  simp only
  split
  · next found => exact .joins found
  · split
    · next isFlag => exact .ends isFlag (List.nil_subset _)
    · next noFlag => exact .waits (eq_false_of_ne_true noFlag)

theorem run_goesOn (state : CollectorState) :
    DaemonGoesOn state { state with isWaiting := false }.run := by
  unfold run
  split
  · next isFlag => exact .ends isFlag (List.Subset.refl _)
  · exact runReclaiming_goesOn state

theorem goOn_goesOn (waits : state.isWaiting = true ↔ state.daemon = .waiting)
    (possible : state.IsPossible .goOn) : DaemonGoesOn state state.goOn := by
  have same (awake : state.daemon ≠ .waiting) :
      { state with isWaiting := false } = state := by
    have isAwake : state.isWaiting = false := by
      rw [← Bool.not_eq_true, waits]
      exact awake
    rw [← isAwake]
  unfold goOn
  rcases possible with isDaemon | isDaemon | isDaemon
  · have goes := run_goesOn state
    rw [same (by simp [isDaemon])] at goes
    rw [isDaemon]
    exact goes
  · have goes := runReclaiming_goesOn state
    rw [same (by simp [isDaemon])] at goes
    rw [isDaemon]
    exact goes
  · rw [isDaemon]
    exact run_goesOn state

/-- Moving a handle from one list to another leaves it with one owner. -/
theorem count_erase_of_mem {threadIds : List RunnerThread} {threadId : RunnerThread}
    (member : threadId ∈ threadIds) (other : RunnerThread) :
    (threadIds.erase threadId).count other + [threadId].count other =
      threadIds.count other := by
  have positive := List.count_pos_iff.mpr member
  rw [List.count_erase, List.count_singleton]
  by_cases same : threadId = other
  · subst same
    simp only [beq_self_eq_true, ↓reduceIte]
    omega
  · simp [same]

theorem IsSound.create (sound : state.IsSound) :
    (state.perform .create).IsSound := by
  obtain ⟨owned, ended, waits, awake, reclaimed, leaving, exiting, flagged,
    lockedBy, lockedByStopper, past, before, done⟩ := sound
  refine ⟨?_, ended, waits, awake, reclaimed, leaving, exiting, flagged, lockedBy,
    lockedByStopper, past, before, done⟩
  intro threadId
  have now := owned threadId
  unfold ownerNum at now ⊢
  simp only [perform, List.count_cons] at now ⊢
  grind

theorem IsSound.deposit (sound : state.IsSound) {threadId : RunnerThread}
    (possible : state.IsPossible (.deposit threadId)) :
    (state.perform (.deposit threadId)).IsSound := by
  have moved := count_erase_of_mem possible
  obtain ⟨owned, ended, waits, awake, reclaimed, leaving, exiting, flagged,
    lockedBy, lockedByStopper, past, before, done⟩ := sound
  cases isFlag : state.destroying with
  | true =>
      simp only [perform, CollectorState.deposit, isFlag, ↓reduceIte]
      constructor <;> simp only [ownerNum] at * <;> grind
  | false =>
      simp only [perform, CollectorState.deposit, isFlag]
      constructor <;> simp only [ownerNum] at * <;> grind

theorem IsSound.joinRefused (sound : state.IsSound) {threadId : RunnerThread}
    (possible : state.IsPossible (.joinRefused threadId)) :
    (state.perform (.joinRefused threadId)).IsSound := by
  obtain ⟨isRefused, hasEnded⟩ := possible
  have moved := count_erase_of_mem isRefused
  have remain (other : RunnerThread) (member : other ∈ state.refused.erase threadId) :
      other ∈ state.refused := List.mem_of_mem_erase member
  obtain ⟨owned, ended, waits, awake, reclaimed, leaving, exiting, flagged,
    lockedBy, lockedByStopper, past, before, done⟩ := sound
  simp only [perform]
  constructor <;> simp only [ownerNum] at * <;> grind

/-- A thread goes on to another phase, which is none of those that others have
seen it in. -/
theorem IsSound.leave (sound : state.IsSound) {threadId : RunnerThread}
    (possible : state.IsPossible (.leave threadId)) :
    (state.perform (.leave threadId)).IsSound := by
  obtain ⟨isThread, isRunning⟩ := possible
  obtain ⟨owned, ended, waits, awake, reclaimed, leaving, exiting, flagged,
    lockedBy, lockedByStopper, past, before, done⟩ := sound
  cases isFlag : state.destroying with
  | true =>
      simp only [perform, reclaimCurrentThread, isFlag, ↓reduceIte, setWorker]
      constructor <;> simp only [ownerNum] at * <;> grind
  | false =>
      simp only [perform, reclaimCurrentThread, isFlag, setWorker, notify]
      constructor <;> simp only [ownerNum] at * <;> grind

theorem IsSound.tryLock (sound : state.IsSound) {threadId : RunnerThread}
    {fails : Bool} (possible : state.IsPossible (.tryLock threadId fails)) :
    (state.perform (.tryLock threadId fails)).IsSound := by
  have hasAsked : state.workers threadId = .reclaimed := possible
  obtain ⟨owned, ended, waits, awake, reclaimed, leaving, exiting, flagged,
    lockedBy, lockedByStopper, past, before, done⟩ := sound
  simp only [perform, CollectorState.tryLock, setWorker]
  split <;> constructor <;> simp only [ownerNum] at * <;> grind

theorem IsSound.startDaemon (sound : state.IsSound) {threadId : RunnerThread}
    (possible : state.IsPossible (.startDaemon threadId)) :
    (state.perform (.startDaemon threadId)).IsSound := by
  have isStarting : state.workers threadId = .starting := possible
  have holds := (sound.lockedBy threadId).mpr isStarting
  obtain ⟨owned, ended, waits, awake, reclaimed, leaving, exiting, flagged,
    lockedBy, lockedByStopper, past, before, done⟩ := sound
  simp only [perform, CollectorState.startDaemon, setWorker]
  split <;> constructor <;> simp only [ownerNum, DaemonPhase.held] at * <;> grind

theorem IsSound.goOn (sound : state.IsSound)
    (possible : state.IsPossible .goOn) : (state.perform .goOn).IsSound := by
  have goes : DaemonGoesOn state (state.perform .goOn) :=
    goOn_goesOn sound.waits possible
  have free : state.daemon.held = [] := by
    rcases possible with isDaemon | isDaemon | isDaemon <;> rw [isDaemon] <;> rfl
  have notPast : ¬state.stopper.IsPastDaemon := by
    intro isPast
    have isDaemon := (sound.past isPast).2
    rcases possible with other | other | other <;> simp [other] at isDaemon
  generalize state.perform .goOn = next at goes ⊢
  obtain ⟨owned, ended, waits, awake, reclaimed, leaving, exiting, flagged,
    lockedBy, lockedByStopper, past, before, done⟩ := sound
  cases goes with
  | joins found =>
      obtain ⟨isDeposited, isAsked, later, -⟩ := nextReclaim_eq_some found
      have moved := count_erase_of_mem isDeposited
      constructor <;> simp only [ownerNum, free] at * <;>
        grind [DaemonPhase.held]
  | ends isFlag fewer =>
      constructor <;> simp only [ownerNum, free] at * <;>
        grind [DaemonPhase.held]
  | waits noFlag =>
      constructor <;> simp only [ownerNum, free] at * <;>
        grind [DaemonPhase.held]

theorem IsSound.daemonJoins (sound : state.IsSound)
    (possible : state.IsPossible .daemonJoins) :
    (state.perform .daemonJoins).IsSound := by
  obtain ⟨threadId, isJoining, hasEnded⟩ := possible
  have isNext : state.perform .daemonJoins =
      { state with
        daemon := .reclaiming
        joined := threadId :: state.joined } := by
    simp only [perform, CollectorState.daemonJoins, isJoining]
  have held : state.daemon.held = [threadId] := by
    rw [isJoining]
    rfl
  rw [isNext]
  obtain ⟨owned, ended, waits, awake, reclaimed, leaving, exiting, flagged,
    lockedBy, lockedByStopper, past, before, done⟩ := sound
  constructor <;> simp only [ownerNum, held] at * <;> grind [DaemonPhase.held]

theorem IsSound.stop (sound : state.IsSound)
    (possible : state.IsPossible .stop) : (state.perform .stop).IsSound := by
  have isIdle : state.stopper = .idle := possible
  have held : state.stopper.held = [] := by
    rw [isIdle]
    rfl
  obtain ⟨owned, ended, waits, awake, reclaimed, leaving, exiting, flagged,
    lockedBy, lockedByStopper, past, before, done⟩ := sound
  simp only [perform, notify]
  constructor <;> simp only [ownerNum, held] at * <;>
    grind [StopPhase.held, StopPhase.IsPastDaemon]

theorem IsSound.lock (sound : state.IsSound)
    (possible : state.IsPossible .lock) : (state.perform .lock).IsSound := by
  obtain ⟨isFlagged, isFree⟩ := possible
  have held : state.stopper.held = [] := by
    rw [isFlagged]
    rfl
  obtain ⟨owned, ended, waits, awake, reclaimed, leaving, exiting, flagged,
    lockedBy, lockedByStopper, past, before, done⟩ := sound
  simp only [perform]
  constructor <;> simp only [ownerNum, held] at * <;>
    grind [StopPhase.held, StopPhase.IsPastDaemon]

theorem IsSound.joinDaemon (sound : state.IsSound)
    (possible : state.IsPossible .joinDaemon) :
    (state.perform .joinDaemon).IsSound := by
  obtain ⟨isJoining, isOver⟩ := possible
  have held : state.stopper.held = [] := by
    rw [isJoining]
    rfl
  have free : state.daemon.held = [] := by
    rcases isOver with isDaemon | isDaemon <;> rw [isDaemon] <;> rfl
  obtain ⟨owned, ended, waits, awake, reclaimed, leaving, exiting, flagged,
    lockedBy, lockedByStopper, past, before, done⟩ := sound
  simp only [perform]
  split <;> constructor <;> simp only [ownerNum, held, free] at * <;>
    grind [DaemonPhase.held, StopPhase.held, StopPhase.IsPastDaemon]

theorem IsSound.reclaimNext (sound : state.IsSound) {threadId : RunnerThread}
    (possible : state.IsPossible (.reclaimNext threadId)) :
    (state.perform (.reclaimNext threadId)).IsSound := by
  obtain ⟨isReclaiming, isDeposited⟩ := possible
  have held : state.stopper.held = [] := by
    rw [isReclaiming]
    rfl
  have moved := count_erase_of_mem isDeposited
  obtain ⟨owned, ended, waits, awake, reclaimed, leaving, exiting, flagged,
    lockedBy, lockedByStopper, past, before, done⟩ := sound
  simp only [perform]
  constructor <;> simp only [ownerNum, held] at * <;>
    grind [StopPhase.held, StopPhase.IsPastDaemon]

theorem IsSound.finish (sound : state.IsSound)
    (possible : state.IsPossible .finish) : (state.perform .finish).IsSound := by
  obtain ⟨isReclaiming, nothingLeft⟩ := possible
  have held : state.stopper.held = [] := by
    rw [isReclaiming]
    rfl
  obtain ⟨owned, ended, waits, awake, reclaimed, leaving, exiting, flagged,
    lockedBy, lockedByStopper, past, before, done⟩ := sound
  simp only [perform]
  constructor <;> simp only [ownerNum, held] at * <;>
    grind [StopPhase.held, StopPhase.IsPastDaemon]

theorem IsSound.stopperJoins (sound : state.IsSound)
    (possible : state.IsPossible .stopperJoins) :
    (state.perform .stopperJoins).IsSound := by
  obtain ⟨threadId, isJoining, hasEnded⟩ := possible
  have isNext : state.perform .stopperJoins =
      { state with
        stopper := .reclaiming
        joined := threadId :: state.joined } := by
    simp only [perform, CollectorState.stopperJoins, isJoining]
  have held : state.stopper.held = [threadId] := by
    rw [isJoining]
    rfl
  rw [isNext]
  obtain ⟨owned, ended, waits, awake, reclaimed, leaving, exiting, flagged,
    lockedBy, lockedByStopper, past, before, done⟩ := sound
  constructor <;> simp only [ownerNum, held] at * <;>
    grind [StopPhase.held, StopPhase.IsPastDaemon]

theorem IsSound.perform (sound : state.IsSound) {action : CollectorAction}
    (possible : state.IsPossible action) : (state.perform action).IsSound := by
  cases action with
  | create => exact sound.create
  | deposit threadId => exact sound.deposit possible
  | joinRefused threadId => exact sound.joinRefused possible
  | leave threadId => exact sound.leave possible
  | tryLock threadId fails => exact sound.tryLock possible
  | startDaemon threadId => exact sound.startDaemon possible
  | goOn => exact sound.goOn possible
  | daemonJoins => exact sound.daemonJoins possible
  | stop => exact sound.stop possible
  | lock => exact sound.lock possible
  | joinDaemon => exact sound.joinDaemon possible
  | reclaimNext threadId => exact sound.reclaimNext possible
  | finish => exact sound.finish possible
  | stopperJoins => exact sound.stopperJoins possible

end Steps

end CollectorState

open Relation

theorem CollectorState.isSound_of_run {state : CollectorState}
    (run : ReflTransGen CollectorStep {} state) : state.IsSound := by
  induction run with
  | refl =>
      constructor <;> simp [CollectorState.ownerNum, DaemonPhase.held,
        StopPhase.held, StopPhase.IsPastDaemon]
  | tail _ step ih =>
      obtain ⟨action, possible, rfl⟩ := step
      exact ih.perform possible

/-- Whoever does what in whatever order: each thread has one owner until it is
joined, once and after its end; the daemon waits only for threads that are about
to end and does not sleep through a request; and when the collector has been
stopped, its daemon is gone and every thread is joined or left to its creator. -/
theorem threads_collected {state : CollectorState}
    (run : ReflTransGen CollectorStep {} state) :
    (∀ threadId, state.ownerNum threadId =
      if threadId < state.threadNum then 1 else 0) ∧
    (∀ threadId ∈ state.joined, state.workers threadId = .ended) ∧
    (∀ threadId, state.daemon = .joining threadId →
      state.workers threadId ≠ .running) ∧
    (state.daemon = .waiting → state.notified = false → state.reclaims = []) ∧
    (state.stopper = .done →
      (state.daemon = .absent ∨ state.daemon = .joined) ∧
        ∀ threadId < state.threadNum, threadId ∈ state.joined ∨
          threadId ∈ state.creators ∨ threadId ∈ state.refused) := by
  have sound := state.isSound_of_run run
  refine ⟨sound.owned, sound.ended, fun threadId isJoining => ?_,
    fun waits asleep => (sound.awake waits asleep).1, fun isDone => ?_⟩
  · refine sound.leaving threadId ?_
    rw [isJoining]
    exact List.mem_singleton.mpr rfl
  · have isPast : state.stopper.IsPastDaemon := by
      rw [isDone]
      trivial
    have noDaemon := (sound.past isPast).2
    refine ⟨noDaemon, fun threadId isThread => ?_⟩
    have owner := sound.owned threadId
    have free : state.daemon.held = [] := by
      rcases noDaemon with isDaemon | isDaemon <;> rw [isDaemon] <;> rfl
    have held : state.stopper.held = [] := by
      rw [isDone]
      rfl
    rw [if_pos isThread, CollectorState.ownerNum, sound.done isDone, free, held]
      at owner
    simp only [← List.count_pos_iff]
    simp only [List.count_nil] at owner
    omega

/-- The steps of the daemon that are left when the collector is being stopped,
with so many threads to reclaim. -/
def DaemonPhase.stepsLeft (needCreateThread : Bool) (reclaimNum : Nat) :
    DaemonPhase → Nat
  | .absent => if needCreateThread then 2 else 0
  | .checking | .waiting => 1
  | .reclaiming => 2 * reclaimNum + 1
  | .joining _ => 2 * reclaimNum + 2
  | .ended | .joined => 0

/-- The steps of the one who stops the collector that are left, with so many
threads deposited. -/
def StopPhase.stepsLeft (depositNum : Nat) : StopPhase → Nat
  | .idle => 2 * depositNum + 5
  | .flagged => 2 * depositNum + 4
  | .joiningDaemon | .joining _ => 2 * depositNum + 3
  | .reclaiming => 2 * depositNum + 2
  | .done => 0

def CollectorState.stepsLeft (state : CollectorState) : Nat :=
  state.daemon.stepsLeft state.needCreateThread state.reclaims.length +
    state.stopper.stepsLeft state.depositMap.length

/-- Fewer threads are deposited. -/
theorem StopPhase.stepsLeft_mono (phase : StopPhase) {fewer more : Nat}
    (less : fewer ≤ more) : phase.stepsLeft fewer ≤ phase.stepsLeft more := by
  cases phase <;> simp only [StopPhase.stepsLeft] <;> omega

/-- A step of the daemon or of the one who stops the collector. -/
def CollectorAction.IsStopping : CollectorAction → Prop
  | .goOn | .daemonJoins | .lock | .joinDaemon | .reclaimNext _ | .finish
  | .stopperJoins => True
  | _ => False

/-- What happens while the collector is being stopped, with the number of steps
of those who stop it. -/
inductive StoppingPath (first : CollectorState) : Nat → CollectorState → Prop where
  | refl : StoppingPath first 0 first
  | stopping {steps : Nat} {state : CollectorState}
      (path : StoppingPath first steps state) (action : CollectorAction)
      (isStopping : action.IsStopping) (possible : state.IsPossible action) :
      StoppingPath first (steps + 1) (state.perform action)
  | other {steps : Nat} {state : CollectorState}
      (path : StoppingPath first steps state) (action : CollectorAction)
      (isOther : ¬action.IsStopping) (possible : state.IsPossible action) :
      StoppingPath first steps (state.perform action)

/-- Those who stop the collector can go on, the daemon not only by a wake-up
without a reason; or they wait for a thread that has been told to exit or is past
its loop, or for one that is about to drop the lock. -/
def CollectorState.GoesOn (state : CollectorState) : Prop :=
  (∃ action : CollectorAction, action.IsStopping ∧ state.IsPossible action ∧
    (state.daemon = .waiting → state.notified = true)) ∨
  (∃ threadId, (state.daemon = .joining threadId ∨
      state.stopper = .joining threadId) ∧
    state.workers threadId ≠ .ended ∧
    (threadId ∈ state.exited ∨ state.workers threadId ≠ .running)) ∨
  ∃ threadId, state.threadLock = .worker threadId ∧
    state.workers threadId = .starting

namespace CollectorState

section Stopping

variable {state : CollectorState} {action : CollectorAction}

theorem goOn_stepsLeft_lt (flagged : state.destroying = true)
    (possible : state.IsPossible .goOn) :
    (state.perform .goOn).stepsLeft < state.stepsLeft := by
  change state.goOn.stepsLeft < _
  unfold goOn
  rcases possible with isDaemon | isDaemon | isDaemon
  · simp only [isDaemon, run, flagged, ↓reduceIte, stepsLeft,
      DaemonPhase.stepsLeft]
    omega
  · simp only [isDaemon]
    unfold runReclaiming
    split
    · next threadId reclaims found =>
        obtain ⟨-, -, -, shorter⟩ := nextReclaim_eq_some found
        have shorterMap : (state.depositMap.erase threadId).length ≤
            state.depositMap.length := List.length_erase_le
        have fewer := state.stopper.stepsLeft_mono shorterMap
        simp only [isDaemon, stepsLeft, DaemonPhase.stepsLeft]
        omega
    · simp only [isDaemon, flagged, ↓reduceIte, stepsLeft,
        DaemonPhase.stepsLeft]
      omega
  · simp only [isDaemon, run, flagged, ↓reduceIte, stepsLeft,
      DaemonPhase.stepsLeft]
    omega

/-- Each step of those who stop the collector brings them nearer to the end. -/
theorem stepsLeft_lt (flagged : state.destroying = true)
    (isStopping : action.IsStopping) (possible : state.IsPossible action) :
    (state.perform action).stepsLeft < state.stepsLeft := by
  cases action with
  | create | deposit | joinRefused | leave | tryLock | startDaemon | stop =>
      cases isStopping
  | goOn => exact goOn_stepsLeft_lt flagged possible
  | daemonJoins =>
      obtain ⟨threadId, isJoining, -⟩ := possible
      simp only [perform, daemonJoins, isJoining, stepsLeft,
        DaemonPhase.stepsLeft]
      omega
  | lock =>
      simp only [perform, stepsLeft, StopPhase.stepsLeft, possible.1]
      omega
  | joinDaemon =>
      obtain ⟨isJoining, isDaemon | isDaemon⟩ := possible <;>
      simp only [perform, stepsLeft, DaemonPhase.stepsLeft, StopPhase.stepsLeft,
        isJoining, isDaemon, ↓reduceIte, reduceCtorEq] <;>
      omega
  | reclaimNext threadId =>
      have fewer := List.length_erase_of_mem possible.2
      have some := List.length_pos_of_mem possible.2
      simp only [perform, stepsLeft, StopPhase.stepsLeft, possible.1, fewer]
      omega
  | finish =>
      simp only [perform, stepsLeft, StopPhase.stepsLeft, possible.1]
      omega
  | stopperJoins =>
      obtain ⟨threadId, isJoining, -⟩ := possible
      simp only [perform, stopperJoins, isJoining, stepsLeft,
        StopPhase.stepsLeft]
      omega

/-- Nobody else throws them back. -/
theorem stepsLeft_le (sound : state.IsSound) (flagged : state.destroying = true)
    (isOther : ¬action.IsStopping) (possible : state.IsPossible action) :
    (state.perform action).stepsLeft ≤ state.stepsLeft := by
  cases action with
  | goOn | daemonJoins | lock | joinDaemon | reclaimNext | finish
  | stopperJoins => exact absurd trivial isOther
  | create | joinRefused => exact Nat.le_refl _
  | deposit threadId =>
      simp only [perform, CollectorState.deposit, flagged, ↓reduceIte]
      exact Nat.le_refl _
  | leave threadId =>
      simp only [perform, reclaimCurrentThread, flagged, ↓reduceIte]
      exact Nat.le_refl _
  | tryLock threadId fails =>
      simp only [perform, CollectorState.tryLock]
      split <;> exact Nat.le_refl _
  | startDaemon threadId =>
      simp only [perform, CollectorState.startDaemon]
      split
      · next starts =>
          simp only [stepsLeft, DaemonPhase.stepsLeft, starts.1, starts.2,
            ↓reduceIte, setWorker]
          omega
      · exact Nat.le_refl _
  | stop =>
      rw [sound.flagged.mpr possible] at flagged
      cases flagged

/-- The flag stays. -/
theorem IsSound.destroying_perform (sound : state.IsSound)
    (flagged : state.destroying = true) (possible : state.IsPossible action) :
    (CollectorState.perform state action).destroying = true := by
  cases action with
  | create | joinRefused | stop | lock | joinDaemon | reclaimNext | finish =>
      first | exact flagged | rfl
  | deposit threadId =>
      simp only [CollectorState.perform, CollectorState.deposit, flagged,
        ↓reduceIte]
  | leave threadId =>
      simp only [CollectorState.perform, reclaimCurrentThread, flagged,
        ↓reduceIte]
      exact flagged
  | tryLock threadId fails =>
      simp only [CollectorState.perform, CollectorState.tryLock]
      split <;> exact flagged
  | startDaemon threadId => exact flagged
  | goOn =>
      have goes : DaemonGoesOn state (CollectorState.perform state .goOn) :=
        goOn_goesOn sound.waits possible
      generalize CollectorState.perform state .goOn = next at goes ⊢
      cases goes <;> exact flagged
  | daemonJoins =>
      simp only [CollectorState.perform, CollectorState.daemonJoins]
      split <;> exact flagged
  | stopperJoins =>
      simp only [CollectorState.perform, CollectorState.stopperJoins]
      split <;> exact flagged

/-- Those who stop the collector are never stuck. -/
theorem IsSound.goesOn (sound : state.IsSound)
    (flagged : state.destroying = true) (notDone : state.stopper ≠ .done) :
    state.GoesOn := by
  have waits (isWaiting : state.daemon = .waiting) : state.notified = true := by
    by_contra asleep
    have unflagged := (sound.awake isWaiting (eq_false_of_ne_true asleep)).2
    rw [flagged] at unflagged
    cases unflagged
  have canStep (action : CollectorAction) (isStopping : action.IsStopping)
      (possible : state.IsPossible action) : state.GoesOn :=
    .inl ⟨action, isStopping, possible, waits⟩
  cases isPhase : state.stopper with
  | idle =>
      rw [sound.flagged.mpr isPhase] at flagged
      cases flagged
  | done => exact absurd isPhase notDone
  | flagged =>
      cases isLock : state.threadLock with
      | free => exact canStep .lock trivial ⟨isPhase, isLock⟩
      | worker threadId =>
          exact .inr (.inr ⟨threadId, isLock, (sound.lockedBy _).mp isLock⟩)
      | stopper =>
          have isJoining := sound.lockedByStopper.mp isLock
          rw [isPhase] at isJoining
          cases isJoining
  | joiningDaemon =>
      cases isDaemon : state.daemon with
      | absent => exact canStep .joinDaemon trivial ⟨isPhase, .inl isDaemon⟩
      | ended => exact canStep .joinDaemon trivial ⟨isPhase, .inr isDaemon⟩
      | checking => exact canStep .goOn trivial (.inl isDaemon)
      | reclaiming => exact canStep .goOn trivial (.inr (.inl isDaemon))
      | waiting => exact canStep .goOn trivial (.inr (.inr isDaemon))
      | joined =>
          have isPast := sound.before isDaemon
          rw [isPhase] at isPast
          cases isPast
      | joining threadId =>
          by_cases hasEnded : state.workers threadId = .ended
          · exact canStep .daemonJoins trivial ⟨threadId, isDaemon, hasEnded⟩
          · refine .inr (.inl ⟨threadId, .inl isDaemon, hasEnded, .inr ?_⟩)
            refine sound.leaving threadId ?_
            rw [isDaemon]
            exact List.mem_singleton.mpr rfl
  | reclaiming =>
      cases isLeft : state.depositMap with
      | nil => exact canStep .finish trivial ⟨isPhase, isLeft⟩
      | cons threadId rest =>
          refine canStep (.reclaimNext threadId) trivial ⟨isPhase, ?_⟩
          rw [isLeft]
          exact List.mem_cons_self
  | joining threadId =>
      by_cases hasEnded : state.workers threadId = .ended
      · exact canStep .stopperJoins trivial ⟨threadId, isPhase, hasEnded⟩
      · refine .inr (.inl ⟨threadId, .inr isPhase, hasEnded, .inl ?_⟩)
        refine sound.exiting threadId (.inr ?_)
        rw [isPhase]
        exact List.mem_singleton.mpr rfl

end Stopping

end CollectorState

/-- To stop the collector takes only so many steps, and those who do it are never
stuck: they can go on until the stopper is done, or wait for a thread that has
been told to exit or is past its loop. -/
theorem stop_ends {first state : CollectorState}
    (run : ReflTransGen CollectorStep {} first)
    (isStopped : first.stopper ≠ .idle) {steps : Nat}
    (path : StoppingPath first steps state) :
    steps + state.stepsLeft ≤ first.stepsLeft ∧
      (state.stopper ≠ .done → state.GoesOn) := by
  suffices invariant : state.IsSound ∧ state.destroying = true ∧
      steps + state.stepsLeft ≤ first.stepsLeft from
    ⟨invariant.2.2, invariant.1.goesOn invariant.2.1⟩
  induction path with
  | refl =>
      have sound := first.isSound_of_run run
      refine ⟨sound, ?_, by omega⟩
      by_contra unflagged
      exact isStopped (sound.flagged.mp (eq_false_of_ne_true unflagged))
  | stopping path action isStopping possible ih =>
      obtain ⟨sound, flagged, bounded⟩ := ih
      have nearer := CollectorState.stepsLeft_lt flagged isStopping possible
      exact ⟨sound.perform possible, sound.destroying_perform flagged possible,
        by omega⟩
  | other path action isOther possible ih =>
      obtain ⟨sound, flagged, bounded⟩ := ih
      have unmoved := CollectorState.stepsLeft_le sound flagged isOther possible
      exact ⟨sound.perform possible, sound.destroying_perform flagged possible,
        by omega⟩

/-- A thread is collected; then the collector is stopped. -/
def collectingActions : List CollectorAction := [
  .create, .deposit 0, .leave 0, .tryLock 0 false, .startDaemon 0, .goOn,
  .daemonJoins, .goOn, .stop, .lock, .goOn, .joinDaemon, .finish]

def collectingState (steps : Nat) : CollectorState :=
  (collectingActions.take steps).foldl .perform {}

theorem collectingState_stopped :
    ReflTransGen CollectorStep {} (collectingState 9) := by
  have created : ReflTransGen CollectorStep {} (collectingState 1) :=
    .single ⟨.create, trivial, rfl⟩
  have deposited : ReflTransGen CollectorStep {} (collectingState 2) :=
    created.tail ⟨.deposit 0, List.mem_singleton.mpr rfl, rfl⟩
  have left : ReflTransGen CollectorStep {} (collectingState 3) :=
    deposited.tail ⟨.leave 0, ⟨by decide, rfl⟩, rfl⟩
  have locked : ReflTransGen CollectorStep {} (collectingState 4) :=
    left.tail ⟨.tryLock 0 false, rfl, rfl⟩
  have started : ReflTransGen CollectorStep {} (collectingState 5) :=
    locked.tail ⟨.startDaemon 0, rfl, rfl⟩
  have found : ReflTransGen CollectorStep {} (collectingState 6) :=
    started.tail ⟨.goOn, .inl rfl, rfl⟩
  have joined : ReflTransGen CollectorStep {} (collectingState 7) :=
    found.tail ⟨.daemonJoins, ⟨0, rfl, rfl⟩, rfl⟩
  have waiting : ReflTransGen CollectorStep {} (collectingState 8) :=
    joined.tail ⟨.goOn, .inr (.inl rfl), rfl⟩
  exact waiting.tail ⟨.stop, rfl, rfl⟩

theorem threads_collected_collecting :
    (∀ threadId, (collectingState 9).ownerNum threadId =
      if threadId < (collectingState 9).threadNum then 1 else 0) ∧
    (∀ threadId ∈ (collectingState 9).joined,
      (collectingState 9).workers threadId = .ended) ∧
    (∀ threadId, (collectingState 9).daemon = .joining threadId →
      (collectingState 9).workers threadId ≠ .running) ∧
    ((collectingState 9).daemon = .waiting → (collectingState 9).notified = false →
      (collectingState 9).reclaims = []) ∧
    ((collectingState 9).stopper = .done →
      ((collectingState 9).daemon = .absent ∨
          (collectingState 9).daemon = .joined) ∧
        ∀ threadId < (collectingState 9).threadNum,
          threadId ∈ (collectingState 9).joined ∨
            threadId ∈ (collectingState 9).creators ∨
            threadId ∈ (collectingState 9).refused) :=
  threads_collected collectingState_stopped

theorem stop_ends_collecting :
    4 + (collectingState 13).stepsLeft ≤ (collectingState 9).stepsLeft ∧
      ((collectingState 13).stopper ≠ .done → (collectingState 13).GoesOn) := by
  have locked : StoppingPath (collectingState 9) 1 (collectingState 10) :=
    .stopping .refl .lock trivial ⟨rfl, rfl⟩
  have ended : StoppingPath (collectingState 9) 2 (collectingState 11) :=
    .stopping locked .goOn trivial (.inr (.inr rfl))
  have alone : StoppingPath (collectingState 9) 3 (collectingState 12) :=
    .stopping ended .joinDaemon trivial ⟨rfl, .inr rfl⟩
  have finished : StoppingPath (collectingState 9) 4 (collectingState 13) :=
    .stopping alone .finish trivial ⟨rfl, rfl⟩
  exact stop_ends collectingState_stopped (by decide) finished

end AppExecFwk
