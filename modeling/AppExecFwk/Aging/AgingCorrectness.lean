import AppExecFwk.Aging.AgingChain

/-!
# Aging is correct

Whatever the times, the sizes and the running processes are, the chain takes the
bundles off the front of a sorted list, so it visits each at most once.  The
handlers stop at the first bundle that does not meet their threshold; that this
leaves none behind that does rests on the comparison of the sort.
-/

namespace AppExecFwk

open AgingHandler AgingHandlerChain AgingConstants

/-- What aging promises of a run on a list of bundles with some total data
size. -/
structure AgesCorrectly (clock : AgingClock) (platform : AgingPlatform)
    (bundles : List AgingBundleInfo) (tatalDataBytes : Int) (run : AgingChainRun) :
    Prop where
  /-- The loops end: they take up no more bundles than there are. -/
  ends : run.visits.length ≤ bundles.length
  /-- Each bundle of the list is uninstalled at most once. -/
  once : run.uninstalled.Subperm bundles
  onceByName : (bundles.map (·.bundleName)).Nodup →
    (run.uninstalled.map (·.bundleName)).Nodup
  notRunning : ∀ bundle ∈ run.uninstalled, ∀ uid ∈ platform.allRunningProcesses,
    (uid : Int) ≠ bundle.bundleUid
  /-- When a bundle is uninstalled that is unused for fewer than 10 days, the total
  without what is freed so far is not below the end threshold, and the handlers
  have tried all bundles that are longer unused. -/
  recent : ∀ tried visit later, run.visits = tried ++ visit :: later →
    visit.uninstalled = true →
    clock.nowSysTimeMs - visit.bundle.recentlyUsedTime <
      time10Days * clock.oneDayTimeMs →
    platform.endAgingThreshold ≤ tatalDataBytes - (tried.map AgingVisit.freed).sum ∧
      ∀ other ∈ bundles, other.recentlyUsedTime < visit.bundle.recentlyUsedTime →
        other ∈ tried.map (·.bundle)
  /-- A handler leaves no bundle that meets its threshold, unless it is one that
  stops at the end threshold and has reached it. -/
  thorough : ∀ handlerRun ∈ run.handlerRuns,
    ∀ bundle ∈ handlerRun.request.agingBundles,
    handlerRun.handler.checkBundle clock bundle = true →
    handlerRun.handler.stopsAtEnd = true ∧
      handlerRun.request.tatalDataBytes < platform.endAgingThreshold

variable {clock : AgingClock} {platform : AgingPlatform}
  {handlers front rest : List AgingHandler} {handler : AgingHandler}
  {request : AgingRequest} {bundles sorted : List AgingBundleInfo}
  {first second : AgingBundleInfo} {tatalDataBytes : Int}

/-- A bundle that was last used 10 days ago and one that was last used earlier but
not 20 days ago, which is no larger. -/
structure AgingClock.Blocks (clock : AgingClock) (stopper missed : AgingBundleInfo) :
    Prop where
  atLimit : stopper.recentlyUsedTime = clock.unusedTimeMsBaseOnCurrentTime time10Days
  longer : missed.recentlyUsedTime < clock.unusedTimeMsBaseOnCurrentTime time10Days
  within : clock.unusedTimeMsBaseOnCurrentTime time20Days < missed.recentlyUsedTime
  noLarger : missed.dataBytes ≤ stopper.dataBytes

/-- When a bundle meets a threshold and may stand behind one that does not, it is
blocked by it. -/
theorem blocks_of_checkBundle
    (fails : handler.checkBundle clock first = false)
    (meets : handler.checkBundle clock second = true)
    (ordered : clock.sortTwoAgingBundleInfos second first = false) :
    handler = over10DaysUnused ∧ clock.Blocks first second := by
  rw [← Bool.not_eq_true, AgingClock.sortTwoAgingBundleInfos_iff] at ordered
  cases handler
  case bundleDataSize => cases fails
  all_goals
    simp only [checkBundle, gt_iff_lt, decide_eq_true_iff, decide_eq_false_iff_not,
      time10Days, time20Days, time30Days] at fails meets
    split at ordered
  case over10DaysUnused.isTrue within =>
    refine ⟨rfl, ?_, ?_, ?_, by omega⟩ <;>
      simp only [AgingClock.unusedTimeMsBaseOnCurrentTime, time10Days, time20Days] <;>
      omega
  all_goals omega

/-- A handler that takes recently used bundles is the one for the data size. -/
theorem eq_bundleDataSize_of_recent
    (meets : handler.checkBundle clock first = true)
    (recent : clock.nowSysTimeMs - first.recentlyUsedTime <
      time10Days * clock.oneDayTimeMs) : handler = bundleDataSize := by
  cases handler
  case bundleDataSize => rfl
  all_goals
    simp only [checkBundle, gt_iff_lt, decide_eq_true_iff, time10Days, time20Days,
      time30Days] at meets recent
    omega

section Run

/-- In a run on a sorted list a handler leaves a bundle that meets its threshold
only behind one that blocks it. -/
theorem left_of_blocks
    (sorts : List.SortsTo clock.sortTwoAgingBundleInfos bundles sorted) :
    ∀ run ∈ (process clock platform handlers ⟨sorted, tatalDataBytes⟩).handlerRuns,
      ∀ bundle ∈ run.request.agingBundles,
      run.handler.checkBundle clock bundle = true →
      run.handler.stopsAtEnd = true ∧
          run.request.tatalDataBytes < platform.endAgingThreshold ∨
        ∃ stopper ∈ bundles, ∃ missed ∈ bundles, clock.Blocks stopper missed := by
  refine forall_handlerRuns (fun request => request.agingBundles.Sublist sorted) ?_
    (.refl sorted)
  intro handler _ request isSublist
  have serves : AgingHandlerRun.Serves clock platform request.agingBundles
      request.tatalDataBytes (handler.process clock platform request) :=
    serves_process request
  have leftSublist :
      (handler.process clock platform request).request.agingBundles.Sublist sorted := by
    rw [← serves.splits] at isSublist
    exact (List.sublist_append_right _ _).trans isSublist
  refine ⟨?_, fun _ => leftSublist⟩
  intro bundle member meets
  rcases serves.stops with stops | ended
  · right
    obtain ⟨stopper, behind, isLeft⟩ :=
      List.exists_cons_of_ne_nil (List.ne_nil_of_mem member)
    have fails := stops stopper (by rw [isLeft]; rfl)
    rw [isLeft] at leftSublist member
    have inBundles : ∀ other ∈ stopper :: behind, other ∈ bundles := by
      intro other inLeft
      exact sorts.mem_iff.mp (leftSublist.subset inLeft)
    rcases List.mem_cons.mp member with rfl | inBehind
    · rw [fails] at meets
      cases meets
    · have ordered := List.rel_of_pairwise_cons
        (sorts.ordered.sublist leftSublist) inBehind
      exact ⟨stopper, inBundles stopper List.mem_cons_self, bundle,
        inBundles bundle member, (blocks_of_checkBundle fails meets ordered).2⟩
  · exact .inl ended

/-- The bundles in front of a visit contain all that are longer unused, when its
bundle is recently used. -/
theorem mem_tried_of_recent
    (sorts : List.SortsTo clock.sortTwoAgingBundleInfos bundles sorted)
    {tried later : List AgingVisit} {visit : AgingVisit}
    (splits : (process clock platform handlers ⟨sorted, tatalDataBytes⟩).visits =
      tried ++ visit :: later)
    (recent : clock.nowSysTimeMs - visit.bundle.recentlyUsedTime <
      time10Days * clock.oneDayTimeMs)
    (other : AgingBundleInfo) (member : other ∈ bundles)
    (earlier : other.recentlyUsedTime < visit.bundle.recentlyUsedTime) :
    other ∈ tried.map (·.bundle) := by
  obtain ⟨takesOff, -⟩ := process_splits clock platform handlers
    ⟨sorted, tatalDataBytes⟩
  rw [splits, List.map_append, List.map_cons, List.append_assoc,
    List.cons_append] at takesOff
  apply sorts.mem_front takesOff.symm member
  · apply AgingClock.sortTwoAgingBundleInfos_of_recent _ earlier
    simp only [time10Days] at recent
    omega
  · exact AgingClock.sortTwoAgingBundleInfos_self

theorem tatalDataBytes_of_recent {visit : AgingVisit}
    (member : visit ∈
      (process clock platform initAgingHandlerChain request).visits)
    (recent : clock.nowSysTimeMs - visit.bundle.recentlyUsedTime <
      time10Days * clock.oneDayTimeMs) :
    platform.endAgingThreshold ≤ visit.tatalDataBytes := by
  obtain ⟨run, runMem, visitMem⟩ := List.mem_flatMap.mp member
  have isLast : run.handler = bundleDataSize :=
    eq_bundleDataSize_of_recent (checkBundle_of_mem_visits run runMem visit visitMem)
      recent
  rcases above_of_later run runMem with isFirst | above
  · rw [isLast] at isFirst
    cases isFirst
  · apply above _ visit visitMem
    rw [isLast]
    rfl

/-- Apart from the bundles that a handler leaves, a run on a sorted list is always
correct. -/
theorem agesCorrectly_of_thorough
    (sorts : List.SortsTo clock.sortTwoAgingBundleInfos bundles sorted)
    (thorough : ∀ run ∈ (process clock platform initAgingHandlerChain
        ⟨sorted, tatalDataBytes⟩).handlerRuns,
      ∀ bundle ∈ run.request.agingBundles,
      run.handler.checkBundle clock bundle = true →
      run.handler.stopsAtEnd = true ∧
        run.request.tatalDataBytes < platform.endAgingThreshold) :
    AgesCorrectly clock platform bundles tatalDataBytes
      (process clock platform initAgingHandlerChain ⟨sorted, tatalDataBytes⟩) := by
  obtain ⟨-, tracks⟩ := process_splits clock platform initAgingHandlerChain
    ⟨sorted, tatalDataBytes⟩
  have visited :=
    visits_sublist clock platform initAgingHandlerChain ⟨sorted, tatalDataBytes⟩
  have uninstalled :=
    uninstalled_sublist clock platform initAgingHandlerChain ⟨sorted, tatalDataBytes⟩
  generalize isRun :
    process clock platform initAgingHandlerChain ⟨sorted, tatalDataBytes⟩ = run
      at tracks thorough visited uninstalled ⊢
  constructor
  case ends =>
    rw [← List.length_map (·.bundle), ← sorts.perm.length_eq]
    exact visited.length_le
  case once => exact uninstalled.subperm.trans sorts.perm.subperm
  case onceByName =>
    intro nodup
    rw [← (sorts.perm.map (·.bundleName)).nodup_iff] at nodup
    exact nodup.sublist (uninstalled.map (·.bundleName))
  case notRunning =>
    intro bundle member uid running same
    obtain ⟨visit, visitMem, rfl⟩ := List.mem_map.mp member
    obtain ⟨inVisits, isUninstalled⟩ := List.mem_filter.mp visitMem
    subst isRun
    obtain ⟨handlerRun, runMem, inRun⟩ := List.mem_flatMap.mp inVisits
    have idle := isRunning_of_uninstalled handlerRun runMem visit inRun isUninstalled
    rw [AgingPlatform.isRunning_iff.mpr ⟨uid, running, same⟩] at idle
    cases idle
  case recent =>
    intro tried visit later splits _ isRecent
    have member : visit ∈ run.visits := by
      rw [splits]
      exact List.mem_append_right _ List.mem_cons_self
    have above := tracks.tatalDataBytes_eq splits
    subst isRun
    constructor
    · rw [← above]
      exact tatalDataBytes_of_recent member isRecent
    · exact mem_tried_of_recent sorts splits isRecent
  case thorough => exact thorough

end Run

section Blocked

/-- There is no installer, and the total stays what it is. -/
def idlePlatform : AgingPlatform where
  endAgingThreshold := 0
  allRunningProcesses := []
  unInstallBundle _ := false

theorem tatalDataBytes_process_idle :
    (handler.process clock idlePlatform request).request.tatalDataBytes =
      request.tatalDataBytes := by
  have serves : AgingHandlerRun.Serves clock idlePlatform request.agingBundles
      request.tatalDataBytes (handler.process clock idlePlatform request) :=
    serves_process request
  symm
  apply serves.tracks.eq_of_freed
  intro visit member
  unfold AgingVisit.freed
  split
  case isTrue uninstalled => cases (serves.uninstalls visit member uninstalled).2
  case isFalse => rfl

/-- A pair of bundles of which the first one fails the test stays on the list. -/
theorem pair_sublist_process
    (fails : handler.checkBundle clock first = false)
    (pair : [first, second].Sublist request.agingBundles) :
    [first, second].Sublist
      (handler.process clock platform request).request.agingBundles := by
  have serves : AgingHandlerRun.Serves clock platform request.agingBundles
      request.tatalDataBytes (handler.process clock platform request) :=
    serves_process request
  rw [← serves.splits] at pair
  apply List.pair_sublist_of_notMem pair
  intro member
  obtain ⟨visit, visitMem, rfl⟩ := List.mem_map.mp member
  have checked := serves.checked visit visitMem
  rw [handler_process, fails] at checked
  cases checked

/-- Without an installer the chain comes to each of its handlers, and the pair is
then still on the list. -/
theorem exists_given_of_idle (front : List AgingHandler) (handler : AgingHandler)
    (rest : List AgingHandler)
    (fails : ∀ other ∈ front, other.checkBundle clock first = false)
    (pair : [first, second].Sublist request.agingBundles)
    (nothing : request.tatalDataBytes = 0) :
    ∃ given, [first, second].Sublist given.agingBundles ∧
      given.tatalDataBytes = 0 ∧
      handler.process clock idlePlatform given ∈
        (process clock idlePlatform (front ++ handler :: rest) request).handlerRuns := by
  induction front generalizing request with
  | nil =>
      refine ⟨request, pair, nothing, ?_⟩
      rw [List.nil_append, AgingHandlerChain.process]
      dsimp only
      split <;> exact List.mem_cons_self
  | cons other front ih =>
      rw [List.forall_mem_cons] at fails
      have kept : (other.process clock idlePlatform request).request.tatalDataBytes = 0 :=
        tatalDataBytes_process_idle.trans nothing
      obtain ⟨given, givenPair, givenNothing, isRun⟩ :=
        ih fails.2 (pair_sublist_process fails.1 pair) kept
      refine ⟨given, givenPair, givenNothing, ?_⟩
      have passed : (other.process clock idlePlatform request).passed = true := by
        rw [(serves_process request).passes, kept]
        exact le_rfl
      rw [List.cons_append, AgingHandlerChain.process]
      dsimp only
      rw [if_pos passed]
      exact List.mem_cons_of_mem _ isRun

/-- When a bundle blocks another one that stands behind it, the handler for 10 days
leaves both. -/
theorem not_thorough_of_blocks (blocks : clock.Blocks first second)
    (pair : [first, second].Sublist sorted) :
    ¬AgesCorrectly clock idlePlatform bundles 0
      (process clock idlePlatform initAgingHandlerChain ⟨sorted, 0⟩) := by
  have atLimit := blocks.atLimit
  have longer := blocks.longer
  have within := blocks.within
  simp only [AgingClock.unusedTimeMsBaseOnCurrentTime, time10Days, time20Days]
    at atLimit longer within
  have fails : ∀ other, other ≠ bundleDataSize →
      other.checkBundle clock first = false := by
    intro other notLast
    cases other
    case bundleDataSize => exact absurd rfl notLast
    all_goals
      simp only [checkBundle, gt_iff_lt, decide_eq_false_iff_not, time10Days,
        time20Days, time30Days]
      omega
  have meets : over10DaysUnused.checkBundle clock second = true := by
    simp only [checkBundle, gt_iff_lt, decide_eq_true_iff, time10Days]
    omega
  have failsBefore : ∀ other ∈ [over30DaysUnused, over20DaysUnused],
      other.checkBundle clock first = false := by
    rw [List.forall_mem_cons, List.forall_mem_singleton]
    exact ⟨fails _ (by decide), fails _ (by decide)⟩
  have inRequest : [first, second].Sublist (AgingRequest.mk sorted 0).agingBundles :=
    pair
  intro correct
  obtain ⟨given, givenPair, nothing, isRun⟩ :=
    exists_given_of_idle [over30DaysUnused, over20DaysUnused] over10DaysUnused
      [bundleDataSize] failsBefore inRequest rfl
  have leftPair : [first, second].Sublist
      (over10DaysUnused.process clock idlePlatform given).request.agingBundles :=
    pair_sublist_process (fails _ (by decide)) givenPair
  obtain ⟨-, ended⟩ := correct.thorough _ isRun second
    (leftPair.subset (by simp)) (by rw [handler_process]; exact meets)
  rw [tatalDataBytes_process_idle, nothing] at ended
  exact lt_irrefl _ ended

end Blocked

/-- Aging is correct for a list of bundles, whatever else it meets, exactly when no
bundle on the list blocks another one. -/
theorem agesCorrectly_iff (clock : AgingClock) (bundles : List AgingBundleInfo) :
    (∀ (platform : AgingPlatform) (tatalDataBytes : Int)
        (sorted : List AgingBundleInfo),
      List.SortsTo clock.sortTwoAgingBundleInfos bundles sorted →
      AgesCorrectly clock platform bundles tatalDataBytes
        (process clock platform initAgingHandlerChain ⟨sorted, tatalDataBytes⟩)) ↔
      ∀ stopper ∈ bundles, ∀ missed ∈ bundles, ¬clock.Blocks stopper missed := by
  constructor
  · intro correct stopper stopperMem missed missedMem blocks
    have apart : stopper ≠ missed := by
      rintro rfl
      exact blocks.longer.ne blocks.atLimit
    have free : clock.sortTwoAgingBundleInfos missed stopper = false := by
      have atLimit := blocks.atLimit
      have longer := blocks.longer
      have within := blocks.within
      have noLarger := blocks.noLarger
      simp only [AgingClock.unusedTimeMsBaseOnCurrentTime, time10Days, time20Days]
        at atLimit longer within
      rw [← Bool.not_eq_true, AgingClock.sortTwoAgingBundleInfos_iff]
      split <;> omega
    obtain ⟨sorted, sorts, pair⟩ :=
      List.exists_sortsTo_pair stopperMem missedMem apart free
    exact not_thorough_of_blocks blocks pair (correct idlePlatform 0 sorted sorts)
  · intro free platform tatalDataBytes sorted sorts
    apply agesCorrectly_of_thorough sorts
    intro run runMem bundle member meets
    rcases left_of_blocks sorts run runMem bundle member meets with ended | blocked
    · exact ended
    · obtain ⟨stopper, stopperMem, missed, missedMem, blocks⟩ := blocked
      exact absurd blocks (free stopper stopperMem missed missedMem)

/-- Two bundles of which the larger one was last used 10 days ago, and the smaller one
a millisecond earlier. -/
theorem not_agesCorrectly_atLimit :
    let clock : AgingClock := { nowSysTimeMs := 86400000000 }
    let bundles : List AgingBundleInfo :=
      [{ bundleName := "com.example.larger", recentlyUsedTime := 85536000000
         dataBytes := 5000000, bundleUid := 20010001 },
       { bundleName := "com.example.smaller", recentlyUsedTime := 85535999999
         dataBytes := 3000000, bundleUid := 20010002 }]
    let platform : AgingPlatform :=
      { endAgingThreshold := 419430400, allRunningProcesses := []
        unInstallBundle := fun _ => true }
    List.SortsTo clock.sortTwoAgingBundleInfos bundles bundles ∧
      ¬AgesCorrectly clock platform bundles 629145600
        (process clock platform initAgingHandlerChain ⟨bundles, 629145600⟩) := by
  intro clock bundles platform
  constructor
  · exact ⟨.refl bundles, by decide⟩
  · intro correct
    exact absurd correct.thorough (by decide +kernel)

/-- The bundles of a request that `BundleAgingMgr` makes have different names, so no
name is uninstalled twice. -/
theorem nodup_uninstalled_reInitAgingRequest
    {bundleNamesAndUid : Std.ExtTreeMap String Int}
    {activeModuleRecord : List BundleActiveModuleRecord}
    {bundleSpaceSize : String → Int} {total : Int}
    (sorts : List.SortsTo clock.sortTwoAgingBundleInfos
      (reInitAgingRequest clock bundleNamesAndUid activeModuleRecord bundleSpaceSize
        total).agingBundles sorted) :
    ((process clock platform handlers ⟨sorted, total⟩).uninstalled.map
      (·.bundleName)).Nodup := by
  have distinct : (sorted.map (·.bundleName)).Nodup := by
    rw [(sorts.perm.map (·.bundleName)).nodup_iff]
    exact nodup_map_bundleName_reInitAgingRequest
  exact distinct.sublist
    ((uninstalled_sublist clock platform handlers ⟨sorted, total⟩).map (·.bundleName))

end AppExecFwk
