import Mathlib.Logic.Function.Basic
import AppExecFwk.Info.Base
import AppExecFwk.User.InitialUser

/-!
# Free installation

`BundleConnectAbilityMgr` enters each free-install request in a map under a
transact id, sends it to the service center from the task of a runner and arms a
timeout.  The request task, the timeout, the replies of the service center and
its death recipient all look the entry up, call back and erase it, each in
several steps and without a lock.
-/

namespace AppExecFwk

/-- An object of another process, to which requests can be sent. -/
abbrev RemoteObject := Nat

/-- The number of a call of `QueryAbilityInfo` or `UpgradeAtomicService`. -/
abbrev RequestId := Nat

namespace FreeInstallErrorCode

def connectError : Int32 := 0x600001
def serviceCenterCrash : Int32 := 0x600002
def serviceCenterTimeout : Int32 := 0x600003
def undefinedError : Int32 := 0x600004

end FreeInstallErrorCode

namespace ServiceCenterResultCode

def freeInstallOk : Int32 := 0
def freeInstallDownloading : Int32 := 1

end ServiceCenterResultCode

inductive ServiceCenterFunction where
  | connectSilentInstall
  | connectUpgradeCheck
  | connectUpgradeInstall
  deriving DecidableEq

inductive ServiceCenterConnectState where
  | connected
  | connecting
  | disconnected
  deriving DecidableEq

/-- What the requests read of a want. -/
structure Want where
  bundleName : String
  abilityName : String
  freeInstallUpgraded : Bool := false
  deriving DecidableEq

structure FreeInstallParams where
  callback : Option RemoteObject
  want : Want
  userId : Int32
  serviceCenterFunction : ServiceCenterFunction
  /-- The call that has made the entry. -/
  request : RequestId
  deriving DecidableEq

/-- A call of `QueryAbilityInfo`, or of `UpgradeAtomicService`, which has no
callback. -/
structure FreeInstallCall where
  request : RequestId
  want : Want
  userId : Int32
  callBack : Option RemoteObject
  serviceCenterFunction : ServiceCenterFunction
  deriving DecidableEq

/-- The entry that the call makes. -/
def FreeInstallCall.params (call : FreeInstallCall) : FreeInstallParams where
  callback := call.callBack
  want := call.want
  userId := call.userId
  serviceCenterFunction := call.serviceCenterFunction
  request := call.request

/-- A message `FREE_INSTALL_DONE`. -/
structure FreeInstallDone where
  callback : RemoteObject
  resultCode : Int32
  want : Want
  userId : Int32
  /-- The call that is answered. -/
  request : RequestId
  deriving DecidableEq

/-- The arguments of `SendRequestToServiceCenter`. -/
structure ServiceRequest where
  flag : ServiceCenterFunction
  transactId : String
  want : Want
  userId : Int32
  deriving DecidableEq

/-- The arguments of `SendCallBack`. -/
structure CallBack where
  resultCode : Int32
  want : Want
  userId : Int32
  transactId : String
  deriving DecidableEq

/-- What `OnServiceCenterCall` reads of a reply. -/
structure ServiceCenterResult where
  transactId : String
  retCode : Int32
  deriving DecidableEq

/-- A task that has been posted under its transact id. -/
inductive FreeInstallTask where
  /-- A call of `SendRequestToServiceCenter`. -/
  | sendRequest (request : ServiceRequest)
  /-- The timeout that `OutTimeMonitor` arms. -/
  | timeout (transactId : String) (want : Want) (userId : Int32)
  deriving DecidableEq

def FreeInstallTask.transactId : FreeInstallTask → String
  | .sendRequest request => request.transactId
  | .timeout transactId _ _ => transactId

/-- What a thread waits for in `ConnectAbility`. -/
inductive ConnectGoal where
  /-- `WaitFromConnecting` -/
  | notConnecting
  /-- `WaitFromConnected` -/
  | connected
  deriving DecidableEq

def ConnectGoal.isMet : ConnectGoal → ServiceCenterConnectState → Bool
  | .notConnecting, state => state ≠ .connecting
  | .connected, state => state = .connected

/-- How far a thread is in the loop around `cv_.wait`. -/
inductive AwaitPhase where
  | checking
  /-- The goal is not met, and the thread is about to wait. -/
  | blocking
  | blocked
  deriving DecidableEq

/-- How far a request task is in `SendRequestToServiceCenter`. -/
inductive ServiceRequestPhase where
  -- `ConnectAbility`
  | connecting
  | gettingProxy
  | allocatingConnection
  | askingToConnect
  | awaiting (goal : ConnectGoal) (phase : AwaitPhase)
  | checkingConnection
  -- `SendRequest`
  | writingRequest
  | allocatingCallback
  | writingCallback
  | sending
  -- `OutTimeMonitor`
  | monitoring
  | arming (params : FreeInstallParams)
  deriving DecidableEq

/-- How far a thread is in `SendCallBack`. -/
inductive CallBackPhase where
  | lookingUp
  | notifying (target : RemoteObject) (request : RequestId)
  | erasing (request : RequestId)
  | checkingEmpty
  | disconnecting
  deriving DecidableEq

/-- What a thread is doing. -/
inductive FreeInstallWork where
  | idle
  /-- It has to increment the counter of transact ids, and then to read it. -/
  | counting (call : FreeInstallCall)
  | numbering (call : FreeInstallCall)
  | emplacing (call : FreeInstallCall) (transactId : String)
  /-- In `SilentInstall`, `UpgradeCheck` or `UpgradeInstall`. -/
  | posting (call : FreeInstallCall) (transactId : String)
  | requesting (request : ServiceRequest) (phase : ServiceRequestPhase)
  | callingBack (callBack : CallBack) (phase : CallBackPhase)
  /-- In `OnServiceCenterCall`, which has found the entry: it removes the tasks
  and reads the entry. -/
  | removing (result : ServiceCenterResult)
  | reading (result : ServiceCenterResult)
  /-- In `ServiceCenterDeathRecipient::OnRemoteDied`, at an entry. -/
  | reporting (transactId : String) (params : FreeInstallParams)
  | forgetting (transactId : String)
  deriving DecidableEq

/-- A thread that waits for the connection looks again. -/
def FreeInstallWork.wake : FreeInstallWork → FreeInstallWork
  | .requesting request (.awaiting goal .blocked) =>
      .requesting request (.awaiting goal .checking)
  | work => work

/-- The thread of `runner_`. -/
def runnerThread : ThreadId := 0

structure FreeInstallState where
  /-- `Init` has created the handler. -/
  hasHandler : Bool := true
  transactId : Int32 := 0
  freeInstallParamsMap : StringMap FreeInstallParams := ∅
  tasks : List FreeInstallTask := []
  connectState : ServiceCenterConnectState := .disconnected
  hasConnection : Bool := false
  work : ThreadId → FreeInstallWork := fun _ => .idle
  /-- The ability manager has still to answer `ConnectAbility`. -/
  connectAsked : Bool := false
  /-- How many calls there have been. -/
  requestNum : Nat := 0
  /-- The calls that have been answered at once or entered in the map. -/
  accepted : List FreeInstallCall := []
  answers : List FreeInstallDone := []
  /-- How many entries there were each time the connection was dropped. -/
  disconnects : List Nat := []
  /-- The program has left its defined behaviour. -/
  isUndefined : Bool := false

namespace FreeInstallState

variable (state : FreeInstallState) (thread : ThreadId)

def setWork (work : FreeInstallWork) : FreeInstallState :=
  { state with work := Function.update state.work thread work }

def postTask (task : FreeInstallTask) : FreeInstallState :=
  { state with tasks := state.tasks ++ [task] }

def accept (call : FreeInstallCall) : FreeInstallState :=
  { state with accepted := call :: state.accepted }

/-- Send a message to the caller's callback. -/
def answer (done : FreeInstallDone) : FreeInstallState :=
  { state with answers := done :: state.answers }

/-- Answer a call at once; nothing is sent if the message cannot be written. -/
def callAbilityManager (resultCode : Int32) (call : FreeInstallCall)
    (written : Bool) : FreeInstallState :=
  let accepting := state.accept call
  if written then
    match call.callBack with
    | none => { accepting with isUndefined := true }
    | some callback => accepting.answer
        ⟨callback, resultCode, call.want, call.userId, call.request⟩
  else accepting

/-- Begin `SendCallBack`. -/
def sendCallBack (callBack : CallBack) : FreeInstallState :=
  state.setWork thread (.callingBack callBack .lookingUp)

/-- Wake up every thread that waits for the connection. -/
def notifyAll : FreeInstallState :=
  { state with work := fun thread => (state.work thread).wake }

/-- `SendRequestToServiceCenter` fails and calls back. -/
def failRequest (resultCode : Int32) (request : ServiceRequest) :
    FreeInstallState :=
  state.sendCallBack thread
    ⟨resultCode, request.want, request.userId, request.transactId⟩

/-- `ConnectAbility` cannot ask for the connection. -/
def failConnection (request : ServiceRequest) : FreeInstallState :=
  { state with connectState := .disconnected }.notifyAll.failRequest thread
    FreeInstallErrorCode.connectError request

/-- One step of a request task; the outcome is that of what the step calls. -/
def advanceRequest (request : ServiceRequest) (outcome : Bool) :
    ServiceRequestPhase → FreeInstallState
  | .connecting =>
      match state.connectState with
      | .connecting => goOn (.awaiting .notConnecting .checking)
      | .disconnected =>
          { state with connectState := .connecting }.setWork thread
            (.requesting request .gettingProxy)
      | .connected => goOn .checkingConnection
  | .gettingProxy =>
      if outcome then goOn .allocatingConnection
      else state.failConnection thread request
  | .allocatingConnection =>
      let allocated := { state with hasConnection := outcome }
      if outcome then
        allocated.setWork thread (.requesting request .askingToConnect)
      else allocated.failConnection thread request
  | .askingToConnect =>
      if outcome then
        { state with connectAsked := true }.setWork thread
          (.requesting request (.awaiting .connected .checking))
      else goOn .checkingConnection
  | .awaiting goal .checking =>
      if goal.isMet state.connectState then goOn .checkingConnection
      else goOn (.awaiting goal .blocking)
  | .awaiting goal .blocking => goOn (.awaiting goal .blocked)
  -- The thread may also wake up without a notification.
  | .awaiting goal .blocked => goOn (.awaiting goal .checking)
  | .checkingConnection =>
      if state.connectState = .connected then goOn .writingRequest
      else { state with connectState := .disconnected }.failRequest thread
        FreeInstallErrorCode.connectError request
  | .writingRequest =>
      if outcome then goOn .allocatingCallback
      else state.failRequest thread FreeInstallErrorCode.undefinedError request
  | .allocatingCallback =>
      if outcome then goOn .writingCallback else state.setWork thread .idle
  | .writingCallback =>
      if outcome then goOn .sending
      else state.failRequest thread FreeInstallErrorCode.undefinedError request
  | .sending =>
      if outcome then goOn .monitoring
      else state.failRequest thread FreeInstallErrorCode.connectError request
  | .monitoring =>
      match state.freeInstallParamsMap[request.transactId]? with
      | none => state.setWork thread .idle
      | some params => goOn (.arming params)
  | .arming params =>
      if state.hasHandler then
        (state.postTask (.timeout request.transactId params.want
          params.userId)).setWork thread .idle
      else state.setWork thread .idle
where
  goOn (phase : ServiceRequestPhase) : FreeInstallState :=
    state.setWork thread (.requesting request phase)

/-- One step of `SendCallBack`; the outcome tells whether the message can be
written. -/
def advanceCallBack (callBack : CallBack) (outcome : Bool) :
    CallBackPhase → FreeInstallState
  | .lookingUp =>
      match state.freeInstallParamsMap[callBack.transactId]? with
      | none => goOn .disconnecting
      | some params =>
          match params.callback with
          | none => goOn .disconnecting
          | some target => goOn (.notifying target params.request)
  | .notifying target request =>
      if outcome then
        (state.answer ⟨target, callBack.resultCode, callBack.want,
          callBack.userId, request⟩).setWork thread
            (.callingBack callBack (.erasing request))
      else state.setWork thread .idle
  | .erasing _ =>
      { state with freeInstallParamsMap :=
          state.freeInstallParamsMap.erase callBack.transactId }.setWork thread
        (.callingBack callBack .checkingEmpty)
  | .checkingEmpty =>
      if state.freeInstallParamsMap.size = 0 ∧ state.connectState = .connected
      then goOn .disconnecting
      else state.setWork thread .idle
  -- `DisconnectAbility`
  | .disconnecting =>
      if state.hasConnection then
        { state with disconnects := state.freeInstallParamsMap.size ::
            state.disconnects }.setWork thread .idle
      else state.setWork thread .idle
where
  goOn (phase : CallBackPhase) : FreeInstallState :=
    state.setWork thread (.callingBack callBack phase)

/-- Enter a call in the map. -/
def emplace (call : FreeInstallCall) (transactId : String) (written : Bool) :
    FreeInstallState :=
  if state.freeInstallParamsMap.contains transactId then
    match call.serviceCenterFunction with
    | .connectSilentInstall =>
        (state.callAbilityManager FreeInstallErrorCode.undefinedError call
          written).setWork thread .idle
    -- `CheckIsModuleNeedUpdate` goes on after the error.
    | .connectUpgradeInstall =>
        (state.callAbilityManager FreeInstallErrorCode.undefinedError call
          written).setWork thread (.posting call transactId)
    | .connectUpgradeCheck => state.setWork thread .idle
  else
    { state.accept call with
      freeInstallParamsMap := state.freeInstallParamsMap.insert transactId
        call.params }.setWork thread (.posting call transactId)

/-- Post the task that sends the request. -/
def post (call : FreeInstallCall) (transactId : String) : FreeInstallState :=
  if state.hasHandler then
    (state.postTask (.sendRequest ⟨call.serviceCenterFunction, transactId,
      call.want, call.userId⟩)).setWork thread .idle
  else state.sendCallBack thread
    ⟨FreeInstallErrorCode.undefinedError, call.want, call.userId, transactId⟩

/-- `RemoveTask`: the tasks of the transaction that have not begun are gone. -/
def removeTask (transactId : String) : FreeInstallState :=
  { state with tasks := state.tasks.filter (·.transactId ≠ transactId) }

/-- `OnServiceCenterCall` reads the entry that it has found. -/
def read (result : ServiceCenterResult) : FreeInstallState :=
  match state.freeInstallParamsMap[result.transactId]? with
  -- The iterator does not point to an entry any more.
  | none => { state with isUndefined := true }
  | some params =>
      if result.retCode = ServiceCenterResultCode.freeInstallDownloading then
        state.setWork thread .idle
      else
        let isUpgraded := params.serviceCenterFunction = .connectUpgradeInstall ∧
          result.retCode = ServiceCenterResultCode.freeInstallOk
        let want := if isUpgraded then
            { params.want with freeInstallUpgraded := true }
          else params.want
        state.sendCallBack thread
          ⟨result.retCode, want, params.userId, result.transactId⟩

/-- `ServiceCenterDeathRecipient::SendCallBack`. -/
def report (transactId : String) (params : FreeInstallParams) (written : Bool) :
    FreeInstallState :=
  if written then
    match params.callback with
    | none => { state with isUndefined := true }
    | some callback =>
        (state.answer ⟨callback, FreeInstallErrorCode.serviceCenterCrash,
          params.want, params.userId, params.request⟩).setWork thread
            (.forgetting transactId)
  -- The loop stays at the entry.
  else state

/-- One step of a thread. -/
def advance (outcome : Bool) : Option FreeInstallState :=
  match state.work thread with
  | .idle => none
  | .counting call =>
      some ({ state with transactId := state.transactId + 1 }.setWork thread
        (.numbering call))
  | .numbering call =>
      some (state.setWork thread (.emplacing call (toString state.transactId.toInt)))
  | .emplacing call transactId => some (state.emplace thread call transactId outcome)
  | .posting call transactId => some (state.post thread call transactId)
  | .requesting request phase =>
      some (state.advanceRequest thread request outcome phase)
  | .callingBack callBack phase =>
      some (state.advanceCallBack thread callBack outcome phase)
  | .removing result =>
      if state.hasHandler then
        some ((state.removeTask result.transactId).setWork thread
          (.reading result))
      else some { state with isUndefined := true }
  | .reading result => some (state.read thread result)
  | .reporting transactId params =>
      some (state.report thread transactId params outcome)
  -- The loop goes on with the iterator to the entry that it has erased.
  | .forgetting transactId =>
      some { state with
        freeInstallParamsMap := state.freeInstallParamsMap.erase transactId
        isUndefined := true }

/-- Begin a call that is not answered at once, if there is memory for it. -/
def beginCall (call : FreeInstallCall) (allocated : Bool) : FreeInstallState :=
  if allocated then state.setWork thread (.counting call) else state

/-- `QueryAbilityInfo`.  The data manager may have found the ability, and then
tells whether its module is to be updated. -/
def query (want : Want) (userId : Int32) (callBack : Option RemoteObject)
    (found : Option Bool) (allocated written : Bool) : FreeInstallState :=
  let call : FreeInstallCall :=
    ⟨state.requestNum, want, userId, callBack, .connectSilentInstall⟩
  let numbered := { state with requestNum := state.requestNum + 1 }
  if want.bundleName = "" ∨ want.abilityName = "" then
    (numbered.callAbilityManager FreeInstallErrorCode.undefinedError call
      written).beginCall thread call allocated
  else
    match found with
    | none => numbered.beginCall thread call allocated
    | some needsUpdate =>
        if needsUpdate && allocated then
          numbered.beginCall thread
            { call with serviceCenterFunction := .connectUpgradeInstall } allocated
        else numbered.callAbilityManager ServiceCenterResultCode.freeInstallOk call
          written

def upgradeAtomicService (want : Want) (userId : Int32) (allocated : Bool) :
    FreeInstallState :=
  { state with requestNum := state.requestNum + 1 }.beginCall thread
    ⟨state.requestNum, want, userId, none, .connectUpgradeCheck⟩ allocated

/-- `OnServiceCenterCall` looks for the entry. -/
def onServiceCenterCall (result : ServiceCenterResult) : FreeInstallState :=
  if state.freeInstallParamsMap.contains result.transactId then
    state.setWork thread (.removing result)
  else state

/-- `OnRemoteDied` takes the first entry. -/
def onRemoteDied : FreeInstallState :=
  match state.freeInstallParamsMap.toList with
  | [] => state
  | (transactId, params) :: _ =>
      state.setWork thread (.reporting transactId params)

/-- The runner begins a task. -/
def perform : FreeInstallTask → FreeInstallState
  | .sendRequest request =>
      state.setWork runnerThread (.requesting request .connecting)
  | .timeout transactId want userId =>
      state.sendCallBack runnerThread
        ⟨FreeInstallErrorCode.serviceCenterTimeout, want, userId, transactId⟩

/-- The ability manager answers `ConnectAbility`. -/
def onAbilityConnectDone (succeeds : Bool) : FreeInstallState :=
  let answered := { state with connectAsked := false }
  if succeeds then { answered with connectState := .connected }.notifyAll
  else answered.notifyAll

def onAbilityDisconnectDone : FreeInstallState :=
  { state with connectState := .disconnected }.notifyAll

end FreeInstallState

/-- What may happen next. -/
inductive FreeInstallEvent where
  | query (thread : ThreadId) (want : Want) (userId : Int32)
      (callBack : Option RemoteObject) (found : Option Bool)
      (allocated written : Bool)
  | upgradeAtomicService (thread : ThreadId) (want : Want) (userId : Int32)
      (allocated : Bool)
  | reply (thread : ThreadId) (result : ServiceCenterResult)
  | remoteDied (thread : ThreadId)
  /-- The runner takes a task from its queue. -/
  | take (before : List FreeInstallTask) (task : FreeInstallTask)
      (after : List FreeInstallTask)
  | advance (thread : ThreadId) (outcome : Bool)
  | connectDone (succeeds : Bool)
  | disconnectDone
  deriving DecidableEq

namespace FreeInstallState

/-- A thread other than the runner has nothing to do. -/
def isFree (state : FreeInstallState) (thread : ThreadId) : Bool :=
  thread ≠ runnerThread ∧ state.work thread = .idle

def step (state : FreeInstallState) (event : FreeInstallEvent) :
    Option FreeInstallState := do
  guard !state.isUndefined
  match event with
  | .query thread want userId callBack found allocated written =>
      guard (state.isFree thread)
      return state.query thread want userId callBack found allocated written
  | .upgradeAtomicService thread want userId allocated =>
      guard (state.isFree thread)
      return state.upgradeAtomicService thread want userId allocated
  | .reply thread result =>
      guard (state.isFree thread)
      return state.onServiceCenterCall thread result
  | .remoteDied thread =>
      guard (state.isFree thread)
      return state.onRemoteDied thread
  | .take before task after =>
      guard (state.work runnerThread = .idle ∧
        state.tasks = before ++ task :: after)
      return { state with tasks := before ++ after }.perform task
  | .advance thread outcome => state.advance thread outcome
  | .connectDone succeeds =>
      guard state.connectAsked
      return state.onAbilityConnectDone succeeds
  | .disconnectDone => return state.onAbilityDisconnectDone

end FreeInstallState

end AppExecFwk
