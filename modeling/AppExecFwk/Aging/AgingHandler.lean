import AppExecFwk.Aging.AgingRequest

/-!
# Aging handlers

A handler walks along the sorted list, takes the bundles off that meet its
threshold, uninstalls those that are not running, and stops at the first bundle
that does not meet it.  The handlers for 10 days and for the data size also stop
as soon as the end threshold is reached.
-/

namespace AppExecFwk

/-- The handlers of the chain. -/
inductive AgingHandler where
  | over30DaysUnused
  | over20DaysUnused
  | over10DaysUnused
  | bundleDataSize
  deriving DecidableEq

/-- What a handler finds outside the request: the end threshold, the uids of the
running processes, and whether there is an installer to uninstall a bundle. -/
structure AgingPlatform where
  endAgingThreshold : Int
  allRunningProcesses : List Nat
  unInstallBundle : String → Bool

namespace AgingPlatform

variable (platform : AgingPlatform)

def isRunning (bundleUid : Int) : Bool :=
  if bundleUid < 0 then false
  else if platform.allRunningProcesses.length = 0 then false
  else platform.allRunningProcesses.any fun uid => uid = bundleUid

def needContinue (request : AgingRequest) : Bool :=
  !request.isReachEndAgingThreshold platform.endAgingThreshold

variable {platform}

/-- A bundle is running when one of the processes has its uid. -/
theorem isRunning_iff {bundleUid : Int} :
    platform.isRunning bundleUid = true ↔
      ∃ uid ∈ platform.allRunningProcesses, (uid : Int) = bundleUid := by
  unfold isRunning
  split
  case isTrue negative =>
    constructor
    · exact nofun
    · rintro ⟨uid, _, rfl⟩
      omega
  case isFalse =>
    split
    case isTrue none =>
      rw [List.length_eq_zero_iff.mp none]
      simp
    case isFalse => simp

theorem needContinue_iff {request : AgingRequest} :
    platform.needContinue request = true ↔
      platform.endAgingThreshold ≤ request.tatalDataBytes := by
  simp [needContinue, AgingRequest.isReachEndAgingThreshold]

end AgingPlatform

/-- A bundle that a handler took off the list: the total data size at that time,
and whether the bundle was uninstalled. -/
structure AgingVisit where
  bundle : AgingBundleInfo
  tatalDataBytes : Int
  uninstalled : Bool

namespace AgingVisit

/-- The data size that the visit takes off the total. -/
def freed (visit : AgingVisit) : Int :=
  if visit.uninstalled then visit.bundle.dataBytes else 0

/-- The request behind the visit, when other bundles are left. -/
def leave (visit : AgingVisit) (agingBundles : List AgingBundleInfo) : AgingRequest :=
  let request : AgingRequest := { agingBundles, tatalDataBytes := visit.tatalDataBytes }
  if visit.uninstalled then
    request.updateTotalDataBytesAfterUninstalled visit.bundle.dataBytes
  else request

theorem leave_eq (visit : AgingVisit) (agingBundles : List AgingBundleInfo) :
    visit.leave agingBundles = ⟨agingBundles, visit.tatalDataBytes - visit.freed⟩ := by
  unfold leave freed
  split
  · rfl
  · rw [Int.sub_zero]

/-- The visits change a total to another one, and each sees the one before it. -/
def Track : Int → List AgingVisit → Int → Prop
  | total, [], final => total = final
  | total, visit :: visits, final =>
      visit.tatalDataBytes = total ∧ Track (total - visit.freed) visits final

variable {total middle final : Int} {visits others front behind : List AgingVisit}
  {visit : AgingVisit}

theorem Track.append (tracks : Track total visits middle)
    (follows : Track middle others final) : Track total (visits ++ others) final := by
  induction visits generalizing total with
  | nil =>
      obtain rfl : total = middle := tracks
      exact follows
  | cons visit visits ih => exact ⟨tracks.1, ih tracks.2⟩

/-- Visits that free nothing keep the total. -/
theorem Track.eq_of_freed (tracks : Track total visits final)
    (nothing : ∀ visit ∈ visits, visit.freed = 0) : total = final := by
  induction visits generalizing total with
  | nil => exact tracks
  | cons visit visits ih =>
      rw [List.forall_mem_cons] at nothing
      have kept := ih tracks.2 nothing.2
      rw [nothing.1, Int.sub_zero] at kept
      exact kept

/-- A visit sees the total without what the visits before it have freed. -/
theorem Track.tatalDataBytes_eq (tracks : Track total visits final)
    (splits : visits = front ++ visit :: behind) :
    visit.tatalDataBytes = total - (front.map freed).sum := by
  induction front generalizing total visits with
  | nil =>
      subst splits
      rw [List.map_nil, List.sum_nil, Int.sub_zero]
      exact tracks.1
  | cons first front ih =>
      subst splits
      rw [List.map_cons, List.sum_cons, ih tracks.2 rfl]
      omega

end AgingVisit

/-- A call of `Process`: the bundles it visited, the request it left and what it
returned. -/
structure AgingHandlerRun where
  handler : AgingHandler
  visits : List AgingVisit
  request : AgingRequest
  passed : Bool

namespace AgingHandler

open AgingConstants

def getName : AgingHandler → String
  | over30DaysUnused => "UnusedFor30DaysBundleAgingHandler"
  | over20DaysUnused => "UnusedFor20DaysBundleAgingHandler"
  | over10DaysUnused => "UnusedFor10DaysBundleAgingHandler"
  | bundleDataSize => "BundleDataSizeAgingHandler"

def checkBundle (clock : AgingClock) (bundle : AgingBundleInfo) :
    AgingHandler → Bool
  | over30DaysUnused =>
      clock.nowSysTimeMs - bundle.recentlyUsedTime > time30Days * clock.oneDayTimeMs
  | over20DaysUnused =>
      clock.nowSysTimeMs - bundle.recentlyUsedTime > time20Days * clock.oneDayTimeMs
  | over10DaysUnused =>
      clock.nowSysTimeMs - bundle.recentlyUsedTime > time10Days * clock.oneDayTimeMs
  | bundleDataSize => true

/-- The handlers that look at the end threshold after each bundle. -/
def stopsAtEnd (handler : AgingHandler) : Bool :=
  handler.getName == getName over10DaysUnused || handler.getName == getName bundleDataSize

section Process

variable (clock : AgingClock) (platform : AgingPlatform) (handler : AgingHandler)

/-- The loop of `Process` over the bundles that are left. -/
def processBundles (tatalDataBytes : Int) : List AgingBundleInfo → AgingHandlerRun
  | [] =>
      let request : AgingRequest := { agingBundles := [], tatalDataBytes }
      { handler, visits := [], request, passed := platform.needContinue request }
  | bundle :: agingBundles =>
      if handler.checkBundle clock bundle then
        let visit : AgingVisit :=
          { bundle, tatalDataBytes
            uninstalled := !platform.isRunning bundle.bundleUid &&
              platform.unInstallBundle bundle.bundleName }
        let request := visit.leave agingBundles
        if handler.stopsAtEnd && !platform.needContinue request then
          { handler, visits := [visit], request, passed := false }
        else
          let run := processBundles request.tatalDataBytes agingBundles
          { run with visits := visit :: run.visits }
      else
        let request : AgingRequest :=
          { agingBundles := bundle :: agingBundles, tatalDataBytes }
        { handler, visits := [], request, passed := platform.needContinue request }

def process (request : AgingRequest) : AgingHandlerRun :=
  handler.processBundles clock platform request.tatalDataBytes request.agingBundles

end Process

@[simp]
theorem stopsAtEnd_eq : handler.stopsAtEnd = true ↔
    handler = over10DaysUnused ∨ handler = bundleDataSize := by
  cases handler <;> decide

end AgingHandler

namespace AgingHandlerRun

open AgingHandler

/-- What a call of `Process` does with the bundles and the total it is given. -/
structure Serves (clock : AgingClock) (platform : AgingPlatform)
    (agingBundles : List AgingBundleInfo) (total : Int) (run : AgingHandlerRun) :
    Prop where
  splits : run.visits.map (·.bundle) ++ run.request.agingBundles = agingBundles
  checked : ∀ visit ∈ run.visits, run.handler.checkBundle clock visit.bundle = true
  uninstalls : ∀ visit ∈ run.visits, visit.uninstalled = true →
    platform.isRunning visit.bundle.bundleUid = false ∧
      platform.unInstallBundle visit.bundle.bundleName = true
  tracks : AgingVisit.Track total run.visits run.request.tatalDataBytes
  passes : run.passed = true ↔ platform.endAgingThreshold ≤ run.request.tatalDataBytes
  stops : (∀ bundle ∈ run.request.agingBundles.head?,
      run.handler.checkBundle clock bundle = false) ∨
    run.handler.stopsAtEnd = true ∧
      run.request.tatalDataBytes < platform.endAgingThreshold
  above : run.handler.stopsAtEnd = true → platform.endAgingThreshold ≤ total →
    ∀ visit ∈ run.visits, platform.endAgingThreshold ≤ visit.tatalDataBytes

variable {clock : AgingClock} {platform : AgingPlatform} {handler : AgingHandler}
  {agingBundles : List AgingBundleInfo} {total : Int} {run : AgingHandlerRun}
  {visit : AgingVisit}

/-- A call, or the end of one, that visits nothing. -/
theorem Serves.of_none {passed : Bool}
    (passes : passed = true ↔ platform.endAgingThreshold ≤ total)
    (stops : (∀ bundle ∈ agingBundles.head?,
        handler.checkBundle clock bundle = false) ∨
      handler.stopsAtEnd = true ∧ total < platform.endAgingThreshold) :
    Serves clock platform agingBundles total
      { handler, visits := [], request := ⟨agingBundles, total⟩, passed } where
  splits := rfl
  checked := nofun
  uninstalls := nofun
  tracks := rfl
  passes := passes
  stops := stops
  above _ _ := nofun

/-- A call that visits the first bundle and then serves the others. -/
theorem Serves.cons
    (serves : Serves clock platform agingBundles (visit.tatalDataBytes - visit.freed)
      run)
    (checked : run.handler.checkBundle clock visit.bundle = true)
    (uninstalls : visit.uninstalled = true →
      platform.isRunning visit.bundle.bundleUid = false ∧
        platform.unInstallBundle visit.bundle.bundleName = true)
    (continues : run.handler.stopsAtEnd = true → run.visits ≠ [] →
      platform.endAgingThreshold ≤ visit.tatalDataBytes - visit.freed) :
    Serves clock platform (visit.bundle :: agingBundles) visit.tatalDataBytes
      { run with visits := visit :: run.visits } where
  splits := by
    rw [List.map_cons, List.cons_append, serves.splits]
  checked := List.forall_mem_cons.mpr ⟨checked, serves.checked⟩
  uninstalls := List.forall_mem_cons.mpr ⟨uninstalls, serves.uninstalls⟩
  tracks := ⟨rfl, serves.tracks⟩
  passes := serves.passes
  stops := serves.stops
  above := by
    intro stopsAtEnd enough
    rw [List.forall_mem_cons]
    refine ⟨enough, ?_⟩
    intro other member
    exact serves.above stopsAtEnd
      (continues stopsAtEnd (List.ne_nil_of_mem member)) other member

end AgingHandlerRun

namespace AgingHandler

variable {clock : AgingClock} {platform : AgingPlatform} {handler : AgingHandler}

@[simp]
theorem handler_processBundles {total : Int} {agingBundles : List AgingBundleInfo} :
    (handler.processBundles clock platform total agingBundles).handler = handler := by
  induction agingBundles generalizing total with
  | nil => rfl
  | cons bundle agingBundles ih =>
      unfold processBundles
      split
      · dsimp only
        split
        · rfl
        · exact ih
      · rfl

/-- The first bundle is visited, and the loop goes on or has reached the end
threshold. -/
theorem serves_processBundles_of_check {bundle : AgingBundleInfo}
    {agingBundles : List AgingBundleInfo} {total : Int}
    (checked : handler.checkBundle clock bundle = true)
    (serves : ∀ rest, AgingHandlerRun.Serves clock platform agingBundles rest
      (handler.processBundles clock platform rest agingBundles)) :
    AgingHandlerRun.Serves clock platform (bundle :: agingBundles) total
      (handler.processBundles clock platform total (bundle :: agingBundles)) := by
  rw [processBundles, if_pos checked]
  dsimp only
  generalize isVisit : AgingVisit.mk bundle total _ = visit
  have uninstalls : visit.uninstalled = true →
      platform.isRunning visit.bundle.bundleUid = false ∧
        platform.unInstallBundle visit.bundle.bundleName = true := by
    subst isVisit
    intro uninstalled
    rw [Bool.and_eq_true_iff, Bool.not_eq_true'] at uninstalled
    exact uninstalled
  obtain rfl : visit.bundle = bundle := isVisit ▸ rfl
  obtain rfl : visit.tatalDataBytes = total := isVisit ▸ rfl
  rw [AgingVisit.leave_eq]
  split
  case isTrue ended =>
    rw [Bool.and_eq_true_iff, Bool.not_eq_true', ← Bool.not_eq_true,
      AgingPlatform.needContinue_iff, not_le] at ended
    have passes : false = true ↔
        platform.endAgingThreshold ≤ visit.tatalDataBytes - visit.freed := by
      constructor
      · exact nofun
      · intro enough
        exact absurd ended.2 enough.not_gt
    have serves : AgingHandlerRun.Serves clock platform agingBundles
        (visit.tatalDataBytes - visit.freed)
        { handler, visits := []
          request := ⟨agingBundles, visit.tatalDataBytes - visit.freed⟩
          passed := false } :=
      .of_none passes (.inr ended)
    exact serves.cons checked uninstalls fun _ visits => absurd rfl visits
  case isFalse continues =>
    apply AgingHandlerRun.Serves.cons (serves _)
    · rw [handler_processBundles]
      exact checked
    · exact uninstalls
    · rw [handler_processBundles]
      intro stopsAtEnd _
      by_contra ended
      apply continues
      rw [stopsAtEnd, Bool.true_and, Bool.not_eq_true', ← Bool.not_eq_true,
        AgingPlatform.needContinue_iff]
      exact ended

theorem serves_processBundles (total : Int) (agingBundles : List AgingBundleInfo) :
    AgingHandlerRun.Serves clock platform agingBundles total
      (handler.processBundles clock platform total agingBundles) := by
  induction agingBundles generalizing total with
  | nil => exact .of_none AgingPlatform.needContinue_iff (.inl nofun)
  | cons bundle agingBundles ih =>
      by_cases checked : handler.checkBundle clock bundle = true
      · exact serves_processBundles_of_check checked ih
      · have stops : ∀ first ∈ (bundle :: agingBundles).head?,
            handler.checkBundle clock first = false := by
          intro first isFirst
          obtain rfl := Option.mem_some_iff.mp isFirst
          exact Bool.eq_false_of_not_eq_true checked
        rw [processBundles, if_neg checked]
        exact .of_none AgingPlatform.needContinue_iff (.inl stops)

theorem serves_process (request : AgingRequest) :
    AgingHandlerRun.Serves clock platform request.agingBundles request.tatalDataBytes
      (handler.process clock platform request) :=
  serves_processBundles request.tatalDataBytes request.agingBundles

@[simp]
theorem handler_process {request : AgingRequest} :
    (handler.process clock platform request).handler = handler :=
  handler_processBundles

end AgingHandler

end AppExecFwk
