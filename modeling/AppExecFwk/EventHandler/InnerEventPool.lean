import Mathlib.Data.List.Nodup
import Mathlib.Logic.Function.Basic
import Mathlib.Logic.Relation
import AppExecFwk.EventHandler.EventQueue
import AppExecFwk.Library.Runs

/-!
# The pool of inner events

`InnerEvent::Get` takes an event out of a pool and fills in what it is given;
when the event is released, `ClearEvent` takes its contents away and the event
goes back.  What the pool holds has no handler, object, task, waiter or trace, but
the times of the last use stay, and so do the number and the parameter.

An event that is not in the pool belongs to one thread, so filling and clearing
it is one step with the access to the pool.
-/

namespace AppExecFwk

/-- An event with everything that is kept in it. -/
structure PooledEvent (Object Callback : Type) where
  owner : Option HandlerId := none
  handleTime : TimePoint := 0
  sendTime : TimePoint := 0
  innerEventId : UInt32 := 0
  param : Int64 := 0
  smartPtrTypeId : UInt64 := 0
  smartPtr : Option Object := none
  /-- Whether there is a function that destroys the object. -/
  smartPtrDtor : Bool := false
  taskCallback : Option Callback := none
  taskName : String := ""
  waiter : Option Nat := none
  hiTraceId : Option Nat := none
  deriving DecidableEq

namespace PooledEvent

variable {Object Callback : Type} (event : PooledEvent Object Callback)

def hasTask : Bool :=
  event.taskCallback.isSome

/-- Keep a shared, weak or unique pointer. -/
def saveSmartPtr (typeId : UInt64) (object : Object) :
    PooledEvent Object Callback :=
  { event with
    smartPtr := some object
    smartPtrDtor := true
    smartPtrTypeId := typeId }

/-- Take the contents of an event away. -/
def clearEvent : PooledEvent Object Callback :=
  let event := { event with waiter := none }
  let event :=
    if event.hasTask then { event with taskCallback := none, taskName := "" }
    else if event.smartPtrDtor then
      { event with
        smartPtrDtor := false
        smartPtr := none
        smartPtrTypeId := 0 }
    else event
  { event with hiTraceId := none, owner := none }

end PooledEvent

/-- A call of one of the functions `InnerEvent::Get`. -/
inductive GetCall (Object Callback : Type) where
  | plain
  | event (innerEventId : UInt32) (param : Int64)
  | object (innerEventId : UInt32) (param : Int64) (typeId : UInt64)
      (object : Object)
  /-- The callback may be an empty function. -/
  | task (callback : Option Callback) (name : String)

namespace GetCall

variable {Object Callback : Type}

/-- What the call makes of an event from the pool; a task without a function
gets none. -/
def fill (event : PooledEvent Object Callback) :
    GetCall Object Callback → Option (PooledEvent Object Callback)
  | plain => some event
  | .event innerEventId param =>
      some { event with innerEventId := innerEventId, param := param }
  | object innerEventId param typeId value =>
      some ({ event with
        innerEventId := innerEventId
        param := param }.saveSmartPtr typeId value)
  | task none _ => none
  | task (some callback) name =>
      some { event with taskCallback := some callback, taskName := name }

/-- The call fills in the number and the parameter. -/
def givesId : GetCall Object Callback → Bool
  | event _ _ | object _ _ _ _ => true
  | plain | task _ _ => false

end GetCall

/-- What is done with an event that has been handed out. -/
inductive EventUse where
  | setOwner (owner : Option HandlerId)
  | setHandleTime (handleTime : TimePoint)
  | setSendTime (sendTime : TimePoint)
  | createWaiter (waiter : Nat)
  | getOrCreateTraceId (hiTraceId : Option Nat)

def EventUse.apply {Object Callback : Type}
    (event : PooledEvent Object Callback) :
    EventUse → PooledEvent Object Callback
  | setOwner owner => { event with owner := owner }
  | setHandleTime handleTime => { event with handleTime := handleTime }
  | setSendTime sendTime => { event with sendTime := sendTime }
  | createWaiter waiter => { event with waiter := some waiter }
  | getOrCreateTraceId hiTraceId =>
      { event with hiTraceId := event.hiTraceId <|> hiTraceId }

/-- How many events the pool holds at most. -/
def maxBufferPoolSize : Nat := 64

/-- `UINT32_MAX`, as a size. -/
def maxPeakUsingCount : UInt64 := 4294967295

/-- The pool, with the events that it has handed out. -/
structure InnerEventPool (Object Callback : Type) where
  /-- The addresses of the events in the pool, the last one first. -/
  events : List Nat := []
  usingCount : UInt64 := 0
  nextPeakUsingCount : UInt64 := maxBufferPoolSize.toUInt64
  /-- The addresses of the events that are in use. -/
  used : List Nat := []
  heap : Nat → PooledEvent Object Callback := fun _ => {}

namespace InnerEventPool

variable {Object Callback : Type} (pool : InnerEventPool Object Callback)

/-- Keep the number of events in use up, as far as it is a new peak. -/
def updatePeak : UInt64 :=
  if pool.usingCount + 1 ≥ pool.nextPeakUsingCount then
    if maxPeakUsingCount - pool.nextPeakUsingCount >
        maxBufferPoolSize.toUInt64 then
      pool.nextPeakUsingCount + maxBufferPoolSize.toUInt64
    else maxPeakUsingCount
  else pool.nextPeakUsingCount

/-- Take an event from the pool, or a new one at a free address. -/
def get (free : Nat) : Nat × InnerEventPool Object Callback :=
  match pool.events with
  | address :: rest =>
      (address, { pool with
        events := rest
        usingCount := pool.usingCount + 1
        used := address :: pool.used })
  | [] =>
      (free, { pool with
        usingCount := pool.usingCount + 1
        nextPeakUsingCount := pool.updatePeak
        used := free :: pool.used
        heap := Function.update pool.heap free {} })

/-- Get an event; there is none for a task without a function. -/
def getEvent (call : GetCall Object Callback) (free : Nat) :
    Option (Nat × InnerEventPool Object Callback) :=
  let (address, next) := pool.get free
  (call.fill (next.heap address)).map fun event =>
    (address, { next with heap := Function.update next.heap address event })

/-- Use an event that has been handed out. -/
def useEvent (address : Nat) (use : EventUse) : InnerEventPool Object Callback :=
  { pool with
    heap := Function.update pool.heap address (use.apply (pool.heap address)) }

/-- Release an event: it goes back if the pool is not full. -/
def drop (address : Nat) : InnerEventPool Object Callback :=
  { pool with
    heap := Function.update pool.heap address (pool.heap address).clearEvent
    usingCount := pool.usingCount - 1
    used := pool.used.erase address
    events :=
      if pool.events.length < maxBufferPoolSize then address :: pool.events
      else pool.events }

end InnerEventPool

/-- A step of some thread.  An address is free unless an event lives there. -/
inductive PoolStep {Object Callback : Type} :
    InnerEventPool Object Callback → InnerEventPool Object Callback → Prop where
  | get (pool next : InnerEventPool Object Callback)
      (call : GetCall Object Callback) (free address : Nat)
      (unused : free ∉ pool.events ∧ free ∉ pool.used)
      (got : pool.getEvent call free = some (address, next)) : PoolStep pool next
  | use (pool : InnerEventPool Object Callback) (address : Nat) (use : EventUse)
      (used : address ∈ pool.used) : PoolStep pool (pool.useEvent address use)
  | drop (pool : InnerEventPool Object Callback) (address : Nat)
      (used : address ∈ pool.used) : PoolStep pool (pool.drop address)

section Isolation

variable {Object Callback : Type}

/-- What the pool leaves of an event: the times, the number and the parameter. -/
structure PooledEvent.IsCleared (event : PooledEvent Object Callback) : Prop where
  owner : event.owner = none
  smartPtrTypeId : event.smartPtrTypeId = 0
  smartPtr : event.smartPtr = none
  smartPtrDtor : event.smartPtrDtor = false
  taskCallback : event.taskCallback = none
  taskName : event.taskName = ""
  waiter : event.waiter = none
  hiTraceId : event.hiTraceId = none

/-- An event in use has a task or an object, not both, and nothing is left of what
it has not. -/
structure PooledEvent.IsOneKind (event : PooledEvent Object Callback) :
    Prop where
  object : event.taskCallback = none ∨ event.smartPtrDtor = false
  noTask : event.taskCallback = none → event.taskName = ""
  noObject : event.smartPtrDtor = false →
    event.smartPtr = none ∧ event.smartPtrTypeId = 0

/-- Nothing is left of the last use that the call does not fill in. -/
def GetCall.LeavesNothing (call : GetCall Object Callback)
    (left : PooledEvent Object Callback) : Prop :=
  (left.handleTime = 0 ∧ left.sendTime = 0) ∧
    (call.givesId = false → left.innerEventId = 0 ∧ left.param = 0)

namespace PooledEvent

variable {event : PooledEvent Object Callback}

theorem IsOneKind.clearEvent (oneKind : event.IsOneKind) :
    event.clearEvent.IsCleared := by
  obtain ⟨object, noTask, noObject⟩ := oneKind
  unfold PooledEvent.clearEvent hasTask
  cases task : event.taskCallback with
  | some callback =>
      have gone := noObject (object.resolve_left (by simp [task]))
      have dtor : event.smartPtrDtor = false :=
        object.resolve_left (by simp [task])
      constructor <;> simp [gone, dtor]
  | none =>
      have name := noTask task
      cases dtor : event.smartPtrDtor with
      | true => constructor <;> simp [name]
      | false =>
          have gone := noObject dtor
          constructor <;> simp [gone, name]

theorem IsCleared.isOneKind (cleared : event.IsCleared) : event.IsOneKind where
  object := .inl cleared.taskCallback
  noTask _ := cleared.taskName
  noObject _ := ⟨cleared.smartPtr, cleared.smartPtrTypeId⟩

/-- A cleared event is a new one but for the times, the number and the parameter. -/
theorem IsCleared.eq (cleared : event.IsCleared) :
    event = { ({} : PooledEvent Object Callback) with
      handleTime := event.handleTime
      sendTime := event.sendTime
      innerEventId := event.innerEventId
      param := event.param } := by
  obtain ⟨owner, typeId, ptr, dtor, task, name, waiter, trace⟩ := cleared
  cases event
  simp_all

theorem IsOneKind.fill (cleared : event.IsCleared) {call : GetCall Object Callback}
    {filled : PooledEvent Object Callback} (fills : call.fill event = some filled) :
    filled.IsOneKind := by
  obtain ⟨owner, typeId, ptr, dtor, task, name, waiter, trace⟩ := cleared
  cases call with
  | plain =>
      cases fills
      exact ⟨.inl task, fun _ => name, fun _ => ⟨ptr, typeId⟩⟩
  | event innerEventId param =>
      cases fills
      exact ⟨.inl task, fun _ => name, fun _ => ⟨ptr, typeId⟩⟩
  | object innerEventId param typeId value =>
      cases fills
      exact ⟨.inl task, fun _ => name, nofun⟩
  | task callback taskName =>
      cases callback with
      | none => cases fills
      | some callback =>
          cases fills
          exact ⟨.inr dtor, nofun, fun _ => ⟨ptr, typeId⟩⟩

theorem IsOneKind.apply (oneKind : event.IsOneKind) (use : EventUse) :
    (use.apply event).IsOneKind := by
  obtain ⟨object, noTask, noObject⟩ := oneKind
  cases use <;> exact ⟨object, noTask, noObject⟩

/-- A cleared event is filled in as a new one exactly if nothing is left of what
the call does not fill in. -/
theorem IsCleared.fill_eq_iff (cleared : event.IsCleared)
    {call : GetCall Object Callback} (valid : (call.fill event).isSome = true) :
    call.fill event = call.fill {} ↔ call.LeavesNothing event := by
  rw [cleared.eq]
  unfold GetCall.LeavesNothing
  cases call with
  | plain => simp [GetCall.fill, GetCall.givesId, and_assoc]
  | event innerEventId param => simp [GetCall.fill, GetCall.givesId]
  | object innerEventId param typeId value =>
      simp [GetCall.fill, GetCall.givesId, saveSmartPtr]
  | task callback taskName =>
      cases callback with
      | none => simp [GetCall.fill] at valid
      | some callback => simp [GetCall.fill, GetCall.givesId, and_assoc]

end PooledEvent

namespace InnerEventPool

/-- The events of the pool and those in use are all different; the pool is not too
full, and what is in it has been cleared. -/
structure IsSound (pool : InnerEventPool Object Callback) : Prop where
  distinct : (pool.events ++ pool.used).Nodup
  size : pool.events.length ≤ maxBufferPoolSize
  cleared : ∀ address ∈ pool.events, (pool.heap address).IsCleared
  oneKind : ∀ address ∈ pool.used, (pool.heap address).IsOneKind

variable {pool next : InnerEventPool Object Callback}

theorem isCleared_new : ({} : PooledEvent Object Callback).IsCleared :=
  ⟨rfl, rfl, rfl, rfl, rfl, rfl, rfl, rfl⟩

/-- What is filled in is the last event of the pool, or a new one if there is
none. -/
inductive Takes (pool : InnerEventPool Object Callback) (free : Nat) :
    Nat → List Nat → PooledEvent Object Callback → Prop where
  | pooled {address : Nat} {rest : List Nat}
      (events : pool.events = address :: rest) :
      Takes pool free address rest (pool.heap address)
  | new (events : pool.events = []) : Takes pool free free [] {}

/-- Getting an event moves it from the pool, or from nowhere, to those in use. -/
theorem getEvent_spec {call : GetCall Object Callback} {free address : Nat}
    (got : pool.getEvent call free = some (address, next)) :
    ∃ rest slot, pool.Takes free address rest slot ∧
      call.fill slot = some (next.heap address) ∧ next.events = rest ∧
      next.used = address :: pool.used ∧
      ∀ other, other ≠ address → next.heap other = pool.heap other := by
  unfold getEvent get at got
  cases events : pool.events with
  | nil =>
      simp only [events, Function.update_self, Option.map_eq_some_iff] at got
      obtain ⟨filled, fills, same⟩ := got
      cases same
      refine ⟨[], {}, .new events, by simpa using fills, rfl, rfl, ?_⟩
      intro other apart
      simp [Function.update_of_ne apart]
  | cons first rest =>
      simp only [events, Option.map_eq_some_iff] at got
      obtain ⟨filled, fills, same⟩ := got
      cases same
      refine ⟨rest, _, .pooled events, by simpa using fills, rfl, rfl, ?_⟩
      intro other apart
      simp [Function.update_of_ne apart]

theorem isSound_start : ({} : InnerEventPool Object Callback).IsSound where
  distinct := by simp
  size := Nat.zero_le _
  cleared := nofun
  oneKind := nofun

theorem IsSound.getEvent (sound : pool.IsSound)
    {call : GetCall Object Callback} {free address : Nat}
    (unused : free ∉ pool.events ∧ free ∉ pool.used)
    (got : pool.getEvent call free = some (address, next)) : next.IsSound := by
  obtain ⟨distinct, size, cleared, oneKind⟩ := sound
  obtain ⟨rest, slot, takes, fills, events, used, others⟩ := getEvent_spec got
  have slotCleared : slot.IsCleared := by
    cases takes with
    | pooled taken => exact cleared address (taken ▸ List.mem_cons_self)
    | new empty => exact isCleared_new
  have subset : rest ⊆ pool.events := by
    cases takes with
    | pooled taken => exact taken ▸ List.subset_cons_self _ _
    | new empty => exact List.nil_subset _
  have moved : (rest ++ address :: pool.used).Nodup := by
    cases takes with
    | pooled taken =>
        rw [taken] at distinct
        exact (List.perm_middle.nodup_iff).mpr distinct
    | new empty =>
        rw [empty] at distinct
        exact List.nodup_cons.mpr ⟨unused.2, distinct⟩
  have apart {other : Nat} (member : other ∈ rest ++ pool.used) :
      other ≠ address := by
    rintro rfl
    have twice := List.perm_middle.nodup_iff.mp moved
    exact (List.nodup_cons.mp twice).1 member
  constructor
  case distinct =>
    rw [events, used]
    exact moved
  case size =>
    rw [events]
    cases takes with
    | pooled taken =>
        rw [taken] at size
        exact Nat.le_of_succ_le size
    | new empty => exact Nat.zero_le _
  case cleared =>
    intro other member
    rw [events] at member
    rw [others other (apart (List.mem_append_left _ member))]
    exact cleared other (subset member)
  case oneKind =>
    intro other member
    rw [used] at member
    rcases List.mem_cons.mp member with rfl | before
    · exact .fill slotCleared fills
    · rw [others other (apart (List.mem_append_right _ before))]
      exact oneKind other before

theorem IsSound.useEvent (sound : pool.IsSound) {address : Nat}
    (used : address ∈ pool.used) (use : EventUse) :
    (pool.useEvent address use).IsSound := by
  obtain ⟨distinct, size, cleared, oneKind⟩ := sound
  refine ⟨distinct, size, ?_, ?_⟩
  · intro other member
    have apart : other ≠ address := by
      rintro rfl
      exact (List.nodup_append.mp distinct).2.2 other member other used rfl
    simp only [InnerEventPool.useEvent, Function.update_of_ne apart]
    exact cleared other member
  · intro other member
    by_cases same : other = address
    · subst same
      simp only [InnerEventPool.useEvent, Function.update_self]
      exact (oneKind other member).apply use
    · simp only [InnerEventPool.useEvent, Function.update_of_ne same]
      exact oneKind other member

theorem IsSound.drop (sound : pool.IsSound) {address : Nat}
    (used : address ∈ pool.used) : (pool.drop address).IsSound := by
  obtain ⟨distinct, size, cleared, oneKind⟩ := sound
  obtain ⟨eventsDistinct, usedDistinct, disjoint⟩ := List.nodup_append.mp distinct
  have absent : address ∉ pool.events :=
    fun member => disjoint address member address used rfl
  have left {other : Nat} (member : other ∈ pool.used.erase address) :
      other ∈ pool.used ∧ other ≠ address := by
    rw [usedDistinct.mem_erase_iff] at member
    exact member.symm
  constructor
  case distinct =>
    have kept : (pool.events ++ pool.used.erase address).Nodup :=
      distinct.sublist (List.Sublist.append_left List.erase_sublist _)
    simp only [InnerEventPool.drop]
    split
    · refine List.nodup_cons.mpr ⟨fun member => ?_, kept⟩
      rcases List.mem_append.mp member with inPool | stillUsed
      · exact absent inPool
      · exact (left stillUsed).2 rfl
    · exact kept
  case size =>
    simp only [InnerEventPool.drop]
    split
    · next room => exact room
    · exact size
  case cleared =>
    intro other member
    by_cases same : other = address
    · subst same
      simp only [InnerEventPool.drop, Function.update_self]
      exact (oneKind other used).clearEvent
    · simp only [InnerEventPool.drop, Function.update_of_ne same] at member ⊢
      split at member
      · exact cleared other ((List.mem_cons.mp member).resolve_left same)
      · exact cleared other member
  case oneKind =>
    intro other member
    obtain ⟨before, apart⟩ := left member
    simp only [InnerEventPool.drop, Function.update_of_ne apart]
    exact oneKind other before

theorem IsSound.step (sound : pool.IsSound) (step : PoolStep pool next) :
    next.IsSound := by
  cases step with
  | get _ call free address unused got => exact sound.getEvent unused got
  | use address use used => exact sound.useEvent used use
  | drop address used => exact sound.drop used

theorem isSound_of_reached
    (reached : Relation.ReflTransGen PoolStep {} pool) : pool.IsSound :=
  Runs.invariant IsSound (fun _ _ sound step => sound.step step) reached
    isSound_start

/-- What a call makes of a sound pool is a new event exactly if the slot holds
nothing that the call leaves. -/
theorem IsSound.getEvent_eq_iff (sound : pool.IsSound)
    {call : GetCall Object Callback} {free address : Nat}
    (got : pool.getEvent call free = some (address, next)) :
    some (next.heap address) = call.fill {} ↔
      ∀ slot ∈ pool.events.head?, call.LeavesNothing (pool.heap slot) := by
  obtain ⟨rest, slot, takes, fills, -⟩ := getEvent_spec got
  rw [← fills]
  cases takes with
  | pooled taken =>
      have cleared := sound.cleared address (taken ▸ List.mem_cons_self)
      rw [cleared.fill_eq_iff (by simp [fills])]
      simp [taken]
  | new empty => simp [empty]

end InnerEventPool

/-- In every history the events of the pool are different and not too many, and an
event that is got is like a new one exactly if the last use of its slot has left
no time, and no number and parameter that the call does not fill in. -/
theorem innerEventPool_isolated_iff {pool : InnerEventPool Object Callback}
    (reached : Relation.ReflTransGen PoolStep {} pool) :
    (pool.events.Nodup ∧ pool.events.length ≤ maxBufferPoolSize) ∧
      ∀ call free address next,
        pool.getEvent call free = some (address, next) →
          (some (next.heap address) = call.fill {} ↔
            ∀ slot ∈ pool.events.head?, call.LeavesNothing (pool.heap slot)) := by
  have sound := InnerEventPool.isSound_of_reached reached
  refine ⟨⟨(List.nodup_append.mp sound.distinct).1, sound.size⟩, ?_⟩
  intro call free address next got
  exact sound.getEvent_eq_iff got

end Isolation

/-- An event with a number and a parameter is got and released. -/
def releasedPool : InnerEventPool Nat Nat :=
  let pool : InnerEventPool Nat Nat := {}
  let used := (pool.getEvent (.event 5 7) 0).elim pool Prod.snd
  used.drop 0

theorem reached_releasedPool :
    Relation.ReflTransGen PoolStep {} releasedPool :=
  (Relation.ReflTransGen.single (.get _ _ (.event 5 7) 0 0 ⟨nofun, nofun⟩ rfl)).tail
    (.drop _ 0 List.mem_cons_self)

theorem innerEventPool_isolated_releasedPool :
    releasedPool.events.Nodup ∧
      ∀ address next, releasedPool.getEvent (.event 1 2) 1 = some (address, next) →
        some (next.heap address) =
          (GetCall.event 1 2 : GetCall Nat Nat).fill {} := by
  obtain ⟨⟨distinct, -⟩, isolated⟩ :=
    innerEventPool_isolated_iff reached_releasedPool
  refine ⟨distinct, fun address next got => ?_⟩
  refine (isolated (.event 1 2) 1 address next got).mpr fun slot front => ?_
  cases front
  exact ⟨⟨rfl, rfl⟩, nofun⟩

/-- The number of an event shows up in the next one that is got without one. -/
theorem innerEventPool_not_isolated :
    ∃ pool : InnerEventPool Nat Nat,
      Relation.ReflTransGen PoolStep {} pool ∧
      ∃ address next, pool.getEvent .plain 1 = some (address, next) ∧
        some (next.heap address) ≠ GetCall.plain.fill {} ∧
        (next.heap address).innerEventId = 5 :=
  ⟨releasedPool, reached_releasedPool, 0, _, rfl, by decide, by decide⟩

end AppExecFwk
