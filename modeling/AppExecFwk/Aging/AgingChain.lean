import AppExecFwk.Aging.AgingHandler

/-!
# The aging chain

The handlers work on one sorted list in turn, until one of them finds the end
threshold reached.  The chain uninstalls each bundle at most once, never one that
is running, and a recently used one only when too much is left.  A handler leaves
bundles behind that meet its threshold exactly when the sort may put a bundle in
front of them that was last used 10 days ago to the millisecond: the sort counts
it among those that are ordered by size, the handler does not count it at all.
-/

namespace AppExecFwk

/-- A call of the chain's `Process`: the calls of its handlers, the request they
left and what it returned. -/
structure AgingChainRun where
  handlerRuns : List AgingHandlerRun
  request : AgingRequest
  isReachEnd : Bool

namespace AgingChainRun

variable (run : AgingChainRun)

/-- The bundles that the handlers took off the list, in this order. -/
def visits : List AgingVisit :=
  run.handlerRuns.flatMap (·.visits)

/-- The bundles that the handlers uninstalled. -/
def uninstalled : List AgingBundleInfo :=
  (run.visits.filter (·.uninstalled)).map (·.bundle)

end AgingChainRun

namespace AgingHandlerChain

open AgingHandler

section Process

variable (clock : AgingClock) (platform : AgingPlatform)

def process : List AgingHandler → AgingRequest → AgingChainRun
  | [], request =>
      { handlerRuns := [], request
        isReachEnd := request.isReachEndAgingThreshold platform.endAgingThreshold }
  | handler :: handlers, request =>
      let run := handler.process clock platform request
      if run.passed then
        let rest := process handlers run.request
        { rest with handlerRuns := run :: rest.handlerRuns }
      else
        { handlerRuns := [run], request := run.request
          isReachEnd :=
            run.request.isReachEndAgingThreshold platform.endAgingThreshold }

end Process

def initAgingHandlerChain : List AgingHandler :=
  [over30DaysUnused, over20DaysUnused, over10DaysUnused, bundleDataSize]

variable {clock : AgingClock} {platform : AgingPlatform}
  {handlers front rest : List AgingHandler} {handler : AgingHandler}
  {request : AgingRequest} {first second : AgingBundleInfo}

/-- What holds of the request when a handler that passes hands it on holds of all
the requests in a run, so all calls of handlers have what follows from it. -/
theorem forall_handlerRuns (Holds : AgingRequest → Prop)
    {Good : AgingHandlerRun → Prop}
    (step : ∀ handler ∈ handlers, ∀ request, Holds request →
      Good (handler.process clock platform request) ∧
        ((handler.process clock platform request).passed = true →
          Holds (handler.process clock platform request).request))
    (start : Holds request) :
    ∀ run ∈ (process clock platform handlers request).handlerRuns, Good run := by
  induction handlers generalizing request with
  | nil => exact nofun
  | cons handler handlers ih =>
      obtain ⟨good, holds⟩ := step handler List.mem_cons_self request start
      rw [process]
      dsimp only
      split
      case isTrue passed =>
        rw [List.forall_mem_cons]
        refine ⟨good, ih ?_ (holds passed)⟩
        intro other member
        exact step other (List.mem_cons_of_mem _ member)
      case isFalse =>
        rw [List.forall_mem_cons]
        exact ⟨good, nofun⟩

theorem checkBundle_of_mem_visits :
    ∀ run ∈ (process clock platform handlers request).handlerRuns,
      ∀ visit ∈ run.visits, run.handler.checkBundle clock visit.bundle = true := by
  refine forall_handlerRuns (fun _ => True) ?_ trivial
  intro handler _ request _
  exact ⟨(serves_process request).checked, fun _ => trivial⟩

theorem isRunning_of_uninstalled :
    ∀ run ∈ (process clock platform handlers request).handlerRuns,
      ∀ visit ∈ run.visits, visit.uninstalled = true →
      platform.isRunning visit.bundle.bundleUid = false := by
  refine forall_handlerRuns (fun _ => True) ?_ trivial
  intro handler _ request _
  refine ⟨?_, fun _ => trivial⟩
  intro visit member uninstalled
  exact ((serves_process request).uninstalls visit member uninstalled).1

/-- Behind the first handler, those that look at the end threshold visit a bundle
only when the total is not below it. -/
theorem above_of_later :
    ∀ run ∈ (process clock platform (handler :: handlers) request).handlerRuns,
      run.handler = handler ∨
        (run.handler.stopsAtEnd = true → ∀ visit ∈ run.visits,
          platform.endAgingThreshold ≤ visit.tatalDataBytes) := by
  rw [process]
  dsimp only
  split
  case isFalse =>
    rw [List.forall_mem_cons]
    exact ⟨.inl handler_process, nofun⟩
  case isTrue passed =>
    rw [List.forall_mem_cons]
    refine ⟨.inl handler_process, ?_⟩
    refine forall_handlerRuns
      (fun request => platform.endAgingThreshold ≤ request.tatalDataBytes) ?_
      ((serves_process request).passes.mp passed)
    intro other _ given enough
    constructor
    · right
      intro stopsAtEnd
      exact (serves_process given).above stopsAtEnd enough
    · exact (serves_process given).passes.mp

/-- The chain takes bundles off the front of the list, and each visit sees the
total that the ones before it have left. -/
theorem process_splits (clock : AgingClock) (platform : AgingPlatform)
    (handlers : List AgingHandler) (request : AgingRequest) :
    (process clock platform handlers request).visits.map (·.bundle) ++
        (process clock platform handlers request).request.agingBundles =
      request.agingBundles ∧
    AgingVisit.Track request.tatalDataBytes
      (process clock platform handlers request).visits
      (process clock platform handlers request).request.tatalDataBytes := by
  induction handlers generalizing request with
  | nil => exact ⟨rfl, rfl⟩
  | cons handler handlers ih =>
      have serves : AgingHandlerRun.Serves clock platform request.agingBundles
          request.tatalDataBytes (handler.process clock platform request) :=
        serves_process request
      rw [process]
      dsimp only
      split
      case isTrue =>
        obtain ⟨splits, tracks⟩ :=
          ih (handler.process clock platform request).request
        simp only [AgingChainRun.visits, List.flatMap_cons, List.map_append,
          List.append_assoc] at splits tracks ⊢
        rw [splits, serves.splits]
        exact ⟨rfl, serves.tracks.append tracks⟩
      case isFalse =>
        simp only [AgingChainRun.visits, List.flatMap_cons, List.flatMap_nil,
          List.append_nil]
        exact ⟨serves.splits, serves.tracks⟩

theorem visits_sublist (clock : AgingClock) (platform : AgingPlatform)
    (handlers : List AgingHandler) (request : AgingRequest) :
    ((process clock platform handlers request).visits.map (·.bundle)).Sublist
      request.agingBundles := by
  obtain ⟨takesOff, -⟩ := process_splits clock platform handlers request
  have inFront := List.sublist_append_left
    ((process clock platform handlers request).visits.map (·.bundle))
    (process clock platform handlers request).request.agingBundles
  rw [takesOff] at inFront
  exact inFront

/-- The uninstalled bundles stand in the list in this order. -/
theorem uninstalled_sublist (clock : AgingClock) (platform : AgingPlatform)
    (handlers : List AgingHandler) (request : AgingRequest) :
    (process clock platform handlers request).uninstalled.Sublist
      request.agingBundles := by
  have chosen : ((process clock platform handlers request).visits.filter
      (·.uninstalled)).Sublist (process clock platform handlers request).visits :=
    List.filter_sublist
  exact (chosen.map (·.bundle)).trans (visits_sublist clock platform handlers request)

end AgingHandlerChain

end AppExecFwk
