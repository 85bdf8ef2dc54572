import Mathlib.Algebra.Group.Int.Defs
import Mathlib.Algebra.Group.Nat.Defs
import AppExecFwk.User.InitialUser

/-!
# Creating and removing users

`CreateNewUser` asks the installer to install every preinstalled bundle for the
new user and `RemoveUser` to uninstall every bundle of the old one.  Each request
becomes a task of a pool of workers, under an id that is made from the time, and
the call waits until as many results have been counted as there are bundles.
Other threads make requests of their own meanwhile, which share the ids and the
pool.
-/

namespace AppExecFwk

/-- What an installer is asked to do. -/
inductive InstallerOperation where
  | install | recover | installByBundleName | uninstall | uninstallModule
  deriving DecidableEq

/-- Who is told the result of a request. -/
inductive StatusReceiver where
  /-- `UserReceiverImpl` -/
  | userReceiver (bundlePromise : PromiseId) (totalHapNum : Int32)
  | other
  deriving DecidableEq

structure InstallerRequest where
  operation : InstallerOperation
  bundleName : String
  userId : Int
  statusReceiver : StatusReceiver
  /-- The caller may install bundles. -/
  isPermitted : Bool
  deriving DecidableEq

/-- An installer that waits for a worker or is run by one. -/
structure InstallerTask where
  installerId : Nat
  request : InstallerRequest
  deriving DecidableEq

/-- How far a worker is with its task. -/
inductive TaskStage where
  /-- It installs or uninstalls. -/
  | working
  /-- It counts the result. -/
  | reporting
  /-- It compares the count with the number of bundles. -/
  | comparing
  /-- It sends the event that removes the installer. -/
  | removing
  deriving DecidableEq

/-- How many tasks may wait for a worker. -/
def maxTaskNumber : Nat := 10

/-- A call of `CreateNewUser` or `RemoveUser`, known by its promise. -/
structure UserCall where
  bundlePromise : PromiseId
  requests : List InstallerRequest
  deriving DecidableEq

def UserCall.totalHapNum (call : UserCall) : Int32 :=
  Int32.ofNat call.requests.length

/-- The call that asks for the same of every bundle. -/
def UserCall.ofBundles (bundlePromise : PromiseId) (operation : InstallerOperation)
    (userId : Int) (bundleNames : List String) (isPermitted : Bool) :
    UserCall where
  bundlePromise := bundlePromise
  requests := bundleNames.map fun bundleName => {
    operation := operation
    bundleName := bundleName
    userId := userId
    statusReceiver := .userReceiver bundlePromise (Int32.ofNat bundleNames.length)
    isPermitted := isPermitted }

/-- How far a thread is with a request. -/
inductive RequestPhase where
  | asked
  /-- `CreateInstaller` reads the time. -/
  | permitted
  /-- It adds the installer under its id. -/
  | identified (installerId : Nat)
  /-- The task is given to the pool. -/
  | adding (installerId : Nat)
  /-- The receiver is told of an error: it counts. -/
  | refused
  /-- The receiver compares. -/
  | told
  deriving DecidableEq

/-- How far a thread is. -/
inductive CallerPhase where
  | outside
  /-- It holds the mutex of the user manager. -/
  | entered
  /-- The bundles that are still to be asked for. -/
  | looping (call : UserCall) (rest : List InstallerRequest)
  /-- A request, and the call it is part of with what is to be asked for next. -/
  | asking (request : InstallerRequest) (phase : RequestPhase)
      (part : Option (UserCall × List InstallerRequest))
  /-- Not all results have been counted. -/
  | unfinished (call : UserCall)
  | waiting (call : UserCall)
  | finishing (call : UserCall)
  deriving DecidableEq

/-- Go on after a request. -/
def CallerPhase.after :
    Option (UserCall × List InstallerRequest) → CallerPhase
  | some (call, rest) => .looping call rest
  | none => .outside

/-- The tasks, and where their results are counted. -/
structure InstallerPool where
  /-- The tasks that wait for a worker. -/
  tasks : List InstallerTask := []
  /-- The tasks that workers have taken.  The number of workers is left open. -/
  running : List (InstallerTask × TaskStage) := []
  /-- The installations and uninstallations that have been begun. -/
  attempts : List InstallerRequest := []
  /-- Those that have come to an end. -/
  finished : List InstallerRequest := []
  installedHapNum : UInt32 := 0
  promises : PromiseId → BundlePromise := fun _ => {}
  /-- How many promises have been made. -/
  promiseNum : Nat := 0

structure UserMgrState extends InstallerPool where
  bundleUserMgrMutex : Option ThreadId := none
  threads : ThreadId → CallerPhase := fun _ => .outside
  /-- `GetMicroTickCount` -/
  microTickCount : Nat := 0
  /-- The installer host has a manager. -/
  hasManager : Bool := true
  /-- The ids of `installers_`. -/
  installers : Nat → Bool := fun _ => false
  /-- The events that remove installers. -/
  removals : List Nat := []
  /-- The requests that found their id taken. -/
  clashes : List InstallerRequest := []
  returned : List UserCall := []

namespace UserMgrState

variable (state : UserMgrState)

def setThread (thread : ThreadId) (phase : CallerPhase) : UserMgrState :=
  { state with threads := Function.update state.threads thread phase }

def setPromise (number : PromiseId) (promise : BundlePromise) : UserMgrState :=
  { state with promises := Function.update state.promises number promise }

/-- The first half of `OnFinished`. -/
def count (receiver : StatusReceiver) : UserMgrState :=
  match receiver with
  | .userReceiver _ _ => { state with installedHapNum := state.installedHapNum + 1 }
  | .other => state

/-- The second half of `OnFinished`. -/
def compare (receiver : StatusReceiver) : UserMgrState :=
  match receiver with
  | .userReceiver bundlePromise totalHapNum =>
      if state.installedHapNum.toInt32 ≥ totalHapNum then
        state.setPromise bundlePromise
          (state.promises bundlePromise).notifyAllTasksExecuteFinished
      else state
  | .other => state

/-- Begin to ask for every bundle, with a new promise and a new count. -/
def begin (thread : ThreadId) (call : UserCall) : UserMgrState :=
  { state.setThread thread (.looping call call.requests) with
    installedHapNum := 0
    promiseNum := state.promiseNum + 1 }

/-- `try_emplace` in `CreateInstaller`. -/
def emplace (thread : ThreadId) (request : InstallerRequest) (installerId : Nat)
    (part : Option (UserCall × List InstallerRequest)) : UserMgrState :=
  if state.installers installerId then
    { state.setThread thread (.asking request .refused part) with
      clashes := request :: state.clashes }
  else
    { state.setThread thread (.asking request (.adding installerId) part) with
      installers := Function.update state.installers installerId true }

/-- Call `WaitForAllTasksExecute`. -/
def wait (thread : ThreadId) (call : UserCall) : UserMgrState :=
  let (waits, promise) :=
    (state.promises call.bundlePromise).waitForAllTasksExecute
  (state.setPromise call.bundlePromise promise).setThread thread
    (if waits then .waiting call else .finishing call)

end UserMgrState

open UserMgrState

/-- A step of a thread that makes calls. -/
inductive CallerStep (thread : ThreadId) :
    UserMgrState → UserMgrState → Prop where
  | enters (state : UserMgrState) (phase : state.threads thread = .outside)
      (free : state.bundleUserMgrMutex = none) :
      CallerStep thread state
        { state.setThread thread .entered with
          bundleUserMgrMutex := some thread }
  /-- There is nothing to do: the user exists already, or not any more. -/
  | leaves (state : UserMgrState) (phase : state.threads thread = .entered) :
      CallerStep thread state
        { state.setThread thread .outside with bundleUserMgrMutex := none }
  | creates (state : UserMgrState) (userId : Int) (bundleNames : List String)
      (isPermitted : Bool) (phase : state.threads thread = .entered) :
      CallerStep thread state
        (state.begin thread (.ofBundles state.promiseNum .installByBundleName
          userId bundleNames isPermitted))
  | removes (state : UserMgrState) (userId : Int) (bundleNames : List String)
      (isPermitted : Bool) (phase : state.threads thread = .entered) :
      CallerStep thread state
        (state.begin thread (.ofBundles state.promiseNum .uninstall
          userId bundleNames isPermitted))
  | asks (state : UserMgrState) (call : UserCall) (request : InstallerRequest)
      (rest : List InstallerRequest)
      (phase : state.threads thread = .looping call (request :: rest)) :
      CallerStep thread state
        (state.setThread thread (.asking request .asked (some (call, rest))))
  /-- A request of the thread's own. -/
  | asksOther (state : UserMgrState) (request : InstallerRequest)
      (phase : state.threads thread = .outside)
      (receiver : request.statusReceiver = .other) :
      CallerStep thread state
        (state.setThread thread (.asking request .asked none))
  | checks (state : UserMgrState) (request : InstallerRequest)
      (part : Option (UserCall × List InstallerRequest))
      (phase : state.threads thread = .asking request .asked part) :
      CallerStep thread state
        (state.setThread thread (.asking request
          (if state.hasManager && request.isPermitted then .permitted
            else .refused) part))
  | readsTime (state : UserMgrState) (request : InstallerRequest)
      (part : Option (UserCall × List InstallerRequest))
      (phase : state.threads thread = .asking request .permitted part) :
      CallerStep thread state
        (state.setThread thread
          (.asking request (.identified state.microTickCount) part))
  | emplaces (state : UserMgrState) (request : InstallerRequest)
      (installerId : Nat) (part : Option (UserCall × List InstallerRequest))
      (phase : state.threads thread =
        .asking request (.identified installerId) part) :
      CallerStep thread state (state.emplace thread request installerId part)
  | addsTask (state : UserMgrState) (request : InstallerRequest)
      (installerId : Nat) (part : Option (UserCall × List InstallerRequest))
      (phase : state.threads thread =
        .asking request (.adding installerId) part)
      (room : state.tasks.length < maxTaskNumber) :
      CallerStep thread state
        { state.setThread thread (.after part) with
          tasks := state.tasks ++ [⟨installerId, request⟩] }
  | countsRefusal (state : UserMgrState) (request : InstallerRequest)
      (part : Option (UserCall × List InstallerRequest))
      (phase : state.threads thread = .asking request .refused part) :
      CallerStep thread state
        ((state.count request.statusReceiver).setThread thread
          (.asking request .told part))
  | comparesRefusal (state : UserMgrState) (request : InstallerRequest)
      (part : Option (UserCall × List InstallerRequest))
      (phase : state.threads thread = .asking request .told part) :
      CallerStep thread state
        ((state.compare request.statusReceiver).setThread thread (.after part))
  | comparesCount (state : UserMgrState) (call : UserCall)
      (phase : state.threads thread = .looping call []) :
      CallerStep thread state
        (state.setThread thread
          (if state.installedHapNum.toInt32 < call.totalHapNum then
            .unfinished call
          else .finishing call))
  | waits (state : UserMgrState) (call : UserCall)
      (phase : state.threads thread = .unfinished call) :
      CallerStep thread state (state.wait thread call)
  | wakes (state : UserMgrState) (call : UserCall)
      (phase : state.threads thread = .waiting call)
      (set : (state.promises call.bundlePromise).isSet = true) :
      CallerStep thread state (state.setThread thread (.finishing call))
  | returns (state : UserMgrState) (call : UserCall)
      (phase : state.threads thread = .finishing call) :
      CallerStep thread state
        { state.setThread thread .outside with
          bundleUserMgrMutex := none
          returned := call :: state.returned }

/-- A step of a worker. -/
inductive WorkerStep : UserMgrState → UserMgrState → Prop where
  | takes (state : UserMgrState) (task : InstallerTask)
      (rest : List InstallerTask) (waiting : state.tasks = task :: rest) :
      WorkerStep state { state with
        tasks := rest
        running := (task, .working) :: state.running
        attempts := task.request :: state.attempts }
  | finishes (state : UserMgrState) (task : InstallerTask)
      (before after : List (InstallerTask × TaskStage))
      (runs : state.running = before ++ (task, .working) :: after) :
      WorkerStep state { state with
        running := before ++ (task, .reporting) :: after
        finished := task.request :: state.finished }
  | counts (state : UserMgrState) (task : InstallerTask)
      (before after : List (InstallerTask × TaskStage))
      (runs : state.running = before ++ (task, .reporting) :: after) :
      WorkerStep state { state.count task.request.statusReceiver with
        running := before ++ (task, .comparing) :: after }
  | compares (state : UserMgrState) (task : InstallerTask)
      (before after : List (InstallerTask × TaskStage))
      (runs : state.running = before ++ (task, .comparing) :: after) :
      WorkerStep state { state.compare task.request.statusReceiver with
        running := before ++ (task, .removing) :: after }
  | sendsRemoval (state : UserMgrState) (task : InstallerTask)
      (before after : List (InstallerTask × TaskStage))
      (runs : state.running = before ++ (task, .removing) :: after) :
      WorkerStep state { state with
        running := before ++ after
        removals := state.removals ++ [task.installerId] }

/-- Time passes. -/
inductive TickStep : UserMgrState → UserMgrState → Prop where
  | tick (state : UserMgrState) (later : Nat)
      (bound : state.microTickCount ≤ later) :
      TickStep state { state with microTickCount := later }

/-- The handler of the manager removes an installer. -/
inductive RemovalStep : UserMgrState → UserMgrState → Prop where
  | removes (state : UserMgrState) (installerId : Nat) (rest : List Nat)
      (sent : state.removals = installerId :: rest) :
      RemovalStep state { state with
        removals := rest
        installers := Function.update state.installers installerId false }

def UserMgrStep (state next : UserMgrState) : Prop :=
  (∃ thread, CallerStep thread state next) ∨ WorkerStep state next ∨
    TickStep state next ∨ RemovalStep state next

end AppExecFwk
