import AppExecFwk.Info.InnerBundleInfo
import AppExecFwk.Library.WorkList

/-!
# Dependencies between modules

A module names the modules it depends on, and these may name others, unknown
ones, or itself.  The modules that one depends on in the end are collected by a
work list.
-/

namespace AppExecFwk

namespace InnerBundleInfo

variable (info : InnerBundleInfo)

/-- What the first module of a name depends on. -/
def getDependentModuleNames (moduleName : String) : Option (List String) :=
  (info.innerModuleInfos.values.find? (·.moduleName = moduleName)).map
    (·.dependencies)

/-- The modules of a record and what they depend on. -/
def dependencyGraph : FiniteGraph String where
  successors moduleName := (info.getDependentModuleNames moduleName).getD []
  sources := info.innerModuleInfos.values.map (·.moduleName)
  mem_sources := by
    intro moduleName depends
    cases found : info.innerModuleInfos.values.find?
        (·.moduleName = moduleName) with
    | none => simp [getDependentModuleNames, found] at depends
    | some module =>
        have named : module.moduleName = moduleName := by
          simpa using List.find?_some found
        exact List.mem_map.mpr ⟨module, List.mem_of_find?_eq_some found, named⟩

/-- All modules that a module depends on, directly or through others, in the
order in which they are found. -/
def getAllDependentModuleNames (moduleName : String) : Option (List String) :=
  (info.getDependentModuleNames moduleName).map fun moduleDeque =>
    info.dependencyGraph.traverse moduleDeque []

/-- A module names another one that it depends on. -/
def DependsOn (moduleName dependency : String) : Prop :=
  ∃ dependencies, info.getDependentModuleNames moduleName = some dependencies ∧
    dependency ∈ dependencies

theorem edge_iff_dependsOn (moduleName dependency : String) :
    info.dependencyGraph.Edge moduleName dependency ↔
      info.DependsOn moduleName dependency := by
  change dependency ∈ (info.getDependentModuleNames moduleName).getD [] ↔ _
  cases found : info.getDependentModuleNames moduleName with
  | none => simp [DependsOn, found]
  | some dependencies => simp [DependsOn, found]

/-- For a module the record has, the answer is the modules it depends on, each
of them once; for another one there is no answer. -/
theorem getAllDependentModuleNames_exact (moduleName : String) :
    (info.getAllDependentModuleNames moduleName = none ↔
        ∀ module ∈ info.innerModuleInfos.values,
          module.moduleName ≠ moduleName) ∧
      ∀ names, info.getAllDependentModuleNames moduleName = some names →
        names.Nodup ∧ ∀ name, name ∈ names ↔
          Relation.TransGen info.DependsOn moduleName name := by
  have sameEdges : info.dependencyGraph.Edge = info.DependsOn := by
    funext first second
    exact propext (info.edge_iff_dependsOn first second)
  constructor
  · simp [getAllDependentModuleNames, getDependentModuleNames]
  · intro names collected
    unfold getAllDependentModuleNames at collected
    obtain ⟨dependencies, found, rfl⟩ := Option.map_eq_some_iff.mp collected
    refine ⟨info.dependencyGraph.nodup_traverse _ List.nodup_nil, ?_⟩
    intro name
    rw [info.dependencyGraph.mem_traverse_iff, sameEdges,
      Relation.TransGen.head'_iff]
    apply exists_congr
    intro dependency
    simp [DependsOn, found]

end InnerBundleInfo

end AppExecFwk
