import Mathlib.Logic.Function.Basic
import Mathlib.Logic.Relation
import AppExecFwk.Installd.InstalldMessages
import AppExecFwk.Library.Runs

/-!
# Calls of the bundle manager to installd

Threads of the bundle manager call installd through one client, which looks for
installd at the first call, registers to be told of its death and forgets it when
told.  Installd may die at any time and be started again; a message to an instance
that has died, and the reply of one that dies, are lost.  The threads, installd and
the one who tells of its death take their steps in any order.
-/

namespace AppExecFwk

open Relation

variable {υ σ : Type}

/-- An instance of installd, by the number of its start. -/
abbrev InstalldRemote := Nat

/-- How far a call is. -/
inductive CallStage (υ : Type) where
  /-- It is about to look whether there is a proxy. -/
  | entered
  /-- It waits for the lock of the client. -/
  | locking
  /-- It holds the lock and is about to ask for installd. -/
  | asking
  | registering (remote : InstalldRemote)
  | assigning (remote : InstalldRemote)
  /-- It has found a proxy and is about to use the one there is. -/
  | proxied
  | sending (remote : InstalldRemote) (data : InstalldParcel υ)
  | handling (remote : InstalldRemote) (data : InstalldParcel υ)
  | answered (status : Int32) (reply : InstalldParcel υ)
  | returned (answer : InstalldAnswer)
  /-- It has used a proxy that was gone. -/
  | crashed

/-- A call on its way. -/
structure Caller (υ : Type) where
  call : InstalldCall
  stage : CallStage υ

/-- A call that installd has carried out. -/
structure Performed where
  caller : Nat
  call : InstalldCall
  answer : InstalldAnswer

/-- The calls made so far, the client, what was told to it, and installd with what
it manages. -/
structure ClientState (υ σ : Type) where
  callers : Nat → Option (Caller υ) := fun _ => none
  /-- The call that holds `mutex_`. -/
  lockHolder : Option Nat := none
  installdProxy : Option InstalldRemote := none
  /-- Whose death will be told. -/
  registered : List InstalldRemote := []
  /-- The deaths told which the client has not handled. -/
  notices : List InstalldRemote := []
  service : Option InstalldRemote := none
  started : Nat := 0
  world : σ
  performed : List Performed := []

namespace InstalldClient

/-- The arguments the client passes on. -/
def checkParams : InstalldCall → Bool
  | .createBundleDir bundleDir => bundleDir ≠ ""
  | .extractModuleFiles srcModulePath targetPath _ _ => srcModulePath ≠ "" ∧ targetPath ≠ ""
  | .renameModuleDir oldPath newPath => oldPath ≠ "" ∧ newPath ≠ ""
  | .createBundleDataDir bundleName userid uid gid _ =>
    bundleName ≠ "" ∧ 0 ≤ userid ∧ 0 ≤ uid ∧ 0 ≤ gid
  | .removeBundleDataDir bundleName userid => bundleName ≠ "" ∧ 0 ≤ userid
  | .removeModuleDataDir moduleName userid => moduleName ≠ "" ∧ 0 ≤ userid
  | .removeDir dir => dir ≠ ""
  | .cleanBundleDataDir bundleDir => bundleDir ≠ ""
  | .getBundleStats bundleName _ => bundleName ≠ ""
  | .setDirApl dir bundleName apl => dir ≠ "" ∧ bundleName ≠ "" ∧ apl ≠ ""
  | .getBundleCachePath dir => dir ≠ ""

/-- The first stage of a call. -/
def enter (call : InstalldCall) : CallStage υ :=
  if checkParams call then .entered else .returned ⟨.installdParamError, {}⟩

end InstalldClient

namespace ClientState

variable (state : ClientState υ σ)

def setStage (id : Nat) (call : InstalldCall) (stage : CallStage υ) : ClientState υ σ :=
  { state with callers := Function.update state.callers id (some ⟨call, stage⟩) }

/-- `AddDeathRecipient`; an object that is dead already refuses. -/
def addDeathRecipient (remote : InstalldRemote) : ClientState υ σ :=
  if state.service = some remote then { state with registered := remote :: state.registered }
  else state

/-- Installd ends, and those who registered are told. -/
def die (remote : InstalldRemote) : ClientState υ σ :=
  { state with
    service := none
    registered := state.registered.erase remote
    notices := if remote ∈ state.registered then remote :: state.notices else state.notices }

def resetInstalldProxy : ClientState υ σ :=
  match state.installdProxy with
  | some remote =>
    { state with registered := state.registered.erase remote, installdProxy := none }
  | none => state

section Frames

variable (remote : InstalldRemote)

theorem callers_addDeathRecipient : (state.addDeathRecipient remote).callers = state.callers := by
  unfold addDeathRecipient
  split <;> rfl

theorem performed_addDeathRecipient :
    (state.addDeathRecipient remote).performed = state.performed := by
  unfold addDeathRecipient
  split <;> rfl

theorem world_addDeathRecipient : (state.addDeathRecipient remote).world = state.world := by
  unfold addDeathRecipient
  split <;> rfl

theorem callers_resetInstalldProxy : state.resetInstalldProxy.callers = state.callers := by
  unfold resetInstalldProxy
  split <;> rfl

theorem performed_resetInstalldProxy :
    state.resetInstalldProxy.performed = state.performed := by
  unfold resetInstalldProxy
  split <;> rfl

theorem world_resetInstalldProxy : state.resetInstalldProxy.world = state.world := by
  unfold resetInstalldProxy
  split <;> rfl

theorem resetInstalldProxy_of_none {state : ClientState υ σ}
    (absent : state.installdProxy = none) : state.resetInstalldProxy = state := by
  rw [resetInstalldProxy, absent]

variable {remote} in
theorem resetInstalldProxy_of_some {state : ClientState υ σ}
    (held : state.installdProxy = some remote) : state.resetInstalldProxy =
      { state with registered := state.registered.erase remote, installdProxy := none } := by
  rw [resetInstalldProxy, held]

end Frames

end ClientState

/-- What the calls share: the conversion of strings, installd, and the status of
its host for a code without a handler. -/
structure InstalldSetup (υ σ : Type) where
  conversion : StringConversion υ
  installd : IInstalld σ
  stub : UInt32 → Int32

/-- What a message does at the host. -/
def InstalldSetup.serve (setup : InstalldSetup υ σ)
    (hasRoom : InstalldParcel υ → InstalldItem υ → Bool) (call : InstalldCall)
    (data : InstalldParcel υ) (world : σ) : InstalldHost.Served υ σ :=
  InstalldHost.onRemoteRequest setup.conversion setup.installd hasRoom setup.stub
    (InstalldProxy.request setup.conversion call).code data world

/-- The state after installd has served a message. -/
def ClientState.served (state : ClientState υ σ) (id : Nat) (call : InstalldCall)
    (served : InstalldHost.Served υ σ) : ClientState υ σ :=
  { state.setStage id call (.answered served.status served.reply) with
    world := served.world
    performed := state.performed ++
      (served.performed.map fun made => ⟨id, made.1, made.2⟩).toList }

open ClientState InstalldClient

/-- One step of a call, of installd, or of the one who tells of its death. -/
inductive InstalldStep (setup : InstalldSetup υ σ) :
    ClientState υ σ → ClientState υ σ → Prop where
  | enter {state} (id call) (new : state.callers id = none) :
    InstalldStep setup state (state.setStage id call (enter call))
  | look {state} {call} (id) (at_ : state.callers id = some ⟨call, .entered⟩) :
    InstalldStep setup state
      (state.setStage id call (if state.installdProxy.isSome then .proxied else .locking))
  | lockFound {state} {call} (id) (at_ : state.callers id = some ⟨call, .locking⟩)
    (free : state.lockHolder = none) (found : state.installdProxy.isSome) :
    InstalldStep setup state (state.setStage id call .proxied)
  | lock {state} {call} (id) (at_ : state.callers id = some ⟨call, .locking⟩)
    (free : state.lockHolder = none) (absent : state.installdProxy = none) :
    InstalldStep setup state { state.setStage id call .asking with lockHolder := some id }
  | askFails {state} {call} (id) (at_ : state.callers id = some ⟨call, .asking⟩) :
    InstalldStep setup state
      { state.setStage id call (.returned ⟨.installdGetProxyError, {}⟩) with
        lockHolder := none }
  | ask {state} {call remote} (id) (at_ : state.callers id = some ⟨call, .asking⟩)
    (running : state.service = some remote) :
    InstalldStep setup state (state.setStage id call (.registering remote))
  | register {state} {call remote} (id)
    (at_ : state.callers id = some ⟨call, .registering remote⟩) :
    InstalldStep setup state
      ((state.setStage id call (.assigning remote)).addDeathRecipient remote)
  | assign {state} {call remote} (id)
    (at_ : state.callers id = some ⟨call, .assigning remote⟩) :
    InstalldStep setup state
      { state.setStage id call .proxied with installdProxy := some remote, lockHolder := none }
  | crash {state} {call} (id) (at_ : state.callers id = some ⟨call, .proxied⟩)
    (absent : state.installdProxy = none) :
    InstalldStep setup state (state.setStage id call .crashed)
  | request {state} {call remote} (id) (hasRoom : InstalldParcel υ → InstalldItem υ → Bool)
    (at_ : state.callers id = some ⟨call, .proxied⟩) (found : state.installdProxy = some remote)
    (written : (InstalldParcel.writeAll hasRoom
      (InstalldProxy.items setup.conversion call) []).1 = true) :
    InstalldStep setup state (state.setStage id call (.sending remote
      (InstalldParcel.writeAll hasRoom (InstalldProxy.items setup.conversion call) []).2))
  | requestFails {state} {call} (id) (at_ : state.callers id = some ⟨call, .proxied⟩)
    (found : state.installdProxy.isSome) :
    InstalldStep setup state (state.setStage id call (.returned ⟨.parcelError, {}⟩))
  | deliver {state} {call remote data} (id)
    (at_ : state.callers id = some ⟨call, .sending remote data⟩)
    (running : state.service = some remote) :
    InstalldStep setup state (state.setStage id call (.handling remote data))
  | refuse {state} {call remote data} (id)
    (at_ : state.callers id = some ⟨call, .sending remote data⟩) :
    InstalldStep setup state
      (state.setStage id call (.returned ⟨.installInstalldServiceError, {}⟩))
  | serve {state} {call remote data} (id)
    (hasRoom : InstalldParcel υ → InstalldItem υ → Bool)
    (at_ : state.callers id = some ⟨call, .handling remote data⟩)
    (running : state.service = some remote) :
    InstalldStep setup state
      (state.served id call (setup.serve hasRoom call data state.world))
  | loseMessage {state} {call remote data} (id)
    (at_ : state.callers id = some ⟨call, .handling remote data⟩)
    (dead : state.service ≠ some remote) :
    InstalldStep setup state
      (state.setStage id call (.returned ⟨.installInstalldServiceError, {}⟩))
  | loseReply {state} {call status reply} (id)
    (at_ : state.callers id = some ⟨call, .answered status reply⟩) :
    InstalldStep setup state
      (state.setStage id call (.returned ⟨.installInstalldServiceError, {}⟩))
  | receive {state} {call status reply} (id)
    (at_ : state.callers id = some ⟨call, .answered status reply⟩) :
    InstalldStep setup state
      (state.setStage id call (.returned (InstalldProxy.receive call status reply)))
  | start {state} (stopped : state.service = none) :
    InstalldStep setup state
      { state with service := some state.started, started := state.started + 1 }
  | die {state} {remote} (running : state.service = some remote) :
    InstalldStep setup state (state.die remote)
  | onRemoteDied {state} {remote} (told : remote ∈ state.notices) :
    InstalldStep setup state
      { state with notices := state.notices.erase remote }.resetInstalldProxy

end AppExecFwk
