import Mathlib.Logic.Relation

/-!
# Runs of a transition system

A system of several threads is a relation between its states: one pair for each
atomic step that any of them may do.  A run is a sequence of such steps in any
order, and a condition on the steps cuts out the runs all of whose steps meet
it.
-/

namespace Runs

open Relation

variable {State : Type*} {Step : State → State → Prop}
  {ok : State → State → Prop} {state next : State}

/-- The steps that meet a condition. -/
def Meeting (Step ok : State → State → Prop) (state next : State) : Prop :=
  Step state next ∧ ok state next

/-- What every step keeps holds at the end of a run if it holds at the start. -/
theorem invariant (Invariant : State → Prop)
    (kept : ∀ before after, Invariant before → Step before after →
      Invariant after)
    (run : ReflTransGen Step state next) (start : Invariant state) :
    Invariant next := by
  induction run with
  | refl => exact start
  | tail _ step ih => exact kept _ _ ih step

end Runs
