import Mathlib.Tactic.Common

/-!
# Programs that call commands

A long operation of a service reads and writes a shared store through atomic
commands, and every command may also depend on an answer of the environment: a
storage that refuses a write, a helper process that fails.  This file describes
such an operation as a tree of calls, runs it against a system that performs
the commands, and gives the weakest precondition calculus with which the runs
are reasoned about.  The tree does not fix what happens between two calls, so
the same operation can also be run while other clients use the store.
-/

namespace CommandProgram

/-- An operation: it returns a value, calls a command and goes on with its
result, or stops with an uncaught exception. -/
inductive Program (Cmd : Type) (Res : Cmd → Type) (α : Type) : Type where
  | ret (value : α)
  | call (cmd : Cmd) (next : Res cmd → Program Cmd Res α)
  | halt

/-- What the commands do: each one turns the world and the answer of the
environment into its result and the next world, in one atomic step. -/
structure System (Cmd : Type) (Res : Cmd → Type) where
  World : Type
  Answer : Cmd → Type
  perform : (cmd : Cmd) → Answer cmd → World → Res cmd × World

variable {Cmd : Type} {Res : Cmd → Type} {α β : Type}

namespace Program

/-- Run one operation and go on with its value. -/
def bind : Program Cmd Res α → (α → Program Cmd Res β) → Program Cmd Res β
  | .ret value, next => next value
  | .call cmd rest, next => .call cmd fun result => bind (rest result) next
  | .halt, _ => .halt

instance : Monad (Program Cmd Res) where
  pure := .ret
  bind := bind

/-- The operation that calls one command and returns its result. -/
def perform (cmd : Cmd) : Program Cmd Res (Res cmd) :=
  .call cmd .ret

@[simp]
theorem pure_eq (value : α) : (pure value : Program Cmd Res α) = .ret value :=
  rfl

@[simp]
theorem ret_bind (value : α) (next : α → Program Cmd Res β) :
    (Program.ret value >>= next) = next value :=
  rfl

@[simp]
theorem call_bind (cmd : Cmd) (rest : Res cmd → Program Cmd Res α)
    (next : α → Program Cmd Res β) :
    (Program.call cmd rest >>= next) =
      .call cmd fun result => rest result >>= next :=
  rfl

@[simp]
theorem halt_bind (next : α → Program Cmd Res β) :
    ((Program.halt : Program Cmd Res α) >>= next) = .halt :=
  rfl

private theorem bind_ret (program : Program Cmd Res α) :
    program >>= Program.ret = program := by
  induction program with
  | ret value => rfl
  | call cmd next ih =>
      exact congrArg (Program.call cmd) (funext fun result => ih result)
  | halt => rfl

private theorem bind_bind {γ : Type} (program : Program Cmd Res α)
    (first : α → Program Cmd Res β) (second : β → Program Cmd Res γ) :
    program >>= first >>= second =
      program >>= fun value => first value >>= second := by
  induction program with
  | ret value => rfl
  | call cmd next ih =>
      exact congrArg (Program.call cmd) (funext fun result => ih result)
  | halt => rfl

instance : LawfulMonad (Program Cmd Res) :=
  LawfulMonad.mk' (Program Cmd Res) bind_ret (fun _ _ => rfl) bind_bind

end Program

/-- One call of a run: the command, the world it found and the answer it got. -/
structure Step (S : System Cmd Res) where
  cmd : Cmd
  world : S.World
  answer : S.Answer cmd

namespace Step

variable {S : System Cmd Res}

/-- The result the call returned to the operation. -/
def result (step : Step S) : Res step.cmd :=
  (S.perform step.cmd step.answer step.world).1

/-- The world the call left behind. -/
def after (step : Step S) : S.World :=
  (S.perform step.cmd step.answer step.world).2

end Step

/-- The end of a run: the value returned, unless the operation stopped with an
exception, the last world, and every call that was made. -/
structure Outcome (S : System Cmd Res) (α : Type) where
  value : Option α
  world : S.World
  steps : List (Step S)

/-- The environment: the answer to the call made at each position of a run. -/
abbrev Environment (S : System Cmd Res) :=
  Nat → (cmd : Cmd) → S.Answer cmd

/-- Run an operation from a world; `position` counts the calls made before. -/
def run (S : System Cmd Res) (env : Environment S) :
    Program Cmd Res α → Nat → S.World → Outcome S α
  | .ret value, _, world => ⟨some value, world, []⟩
  | .call cmd next, position, world =>
      let step : Step S := ⟨cmd, world, env position cmd⟩
      let rest := run S env (next step.result) (position + 1) step.after
      { rest with steps := step :: rest.steps }
  | .halt, _, world => ⟨none, world, []⟩

/-- What a run comes to: the value it returns and the world it leaves behind. -/
def Outcome.ending {S : System Cmd Res} (outcome : Outcome S α) :
    Option α × S.World :=
  (outcome.value, outcome.world)

theorem Outcome.ending_of_value {S : System Cmd Res} {outcome : Outcome S α}
    {value : α} (returned : outcome.value = some value) :
    outcome.ending = (some value, outcome.world) :=
  Prod.ext returned rfl

/-- A run goes on after its first call. -/
theorem ending_perform_bind {S : System Cmd Res} {env : Environment S}
    {position : Nat} {world : S.World} {cmd : Cmd}
    {next : Res cmd → Program Cmd Res α} :
    (run S env (.perform cmd >>= next) position world).ending =
      (run S env (next (S.perform cmd (env position cmd) world).1)
        (position + 1) (S.perform cmd (env position cmd) world).2).ending :=
  rfl

/-- The weakest precondition of an operation: whatever the environment answers,
as long as every call meets `ok`, a returned value and the world left behind
meet the postcondition. -/
def wp (S : System Cmd Res) (ok : Step S → Prop) :
    Program Cmd Res α → (α → S.World → Prop) → S.World → Prop
  | .ret value, post, world => post value world
  | .call cmd next, post, world =>
      ∀ answer, ok ⟨cmd, world, answer⟩ →
        wp S ok (next (S.perform cmd answer world).1) post
          (S.perform cmd answer world).2
  | .halt, _, _ => True

section Rules

variable {S : System Cmd Res} {ok : Step S → Prop}
  {post : α → S.World → Prop} {world : S.World}

@[simp]
theorem wp_ret (value : α) :
    wp S ok (.ret value) post world ↔ post value world :=
  Iff.rfl

@[simp]
theorem wp_halt : wp S ok (.halt : Program Cmd Res α) post world :=
  trivial

/-- The postcondition may be weakened. -/
theorem wp_mono {program : Program Cmd Res α} {weaker : α → S.World → Prop}
    (holds : wp S ok program post world)
    (implies : ∀ value world, post value world → weaker value world) :
    wp S ok program weaker world := by
  induction program generalizing world with
  | ret value => exact implies value world holds
  | call cmd next ih =>
      intro answer allowed
      exact ih _ (holds answer allowed)
  | halt => trivial

/-- A sequence is reasoned about from its end. -/
theorem wp_bind {program : Program Cmd Res α}
    {next : α → Program Cmd Res β} {post : β → S.World → Prop} :
    wp S ok (program >>= next) post world ↔
      wp S ok program (fun value world => wp S ok (next value) post world)
        world := by
  induction program generalizing world with
  | ret value => rfl
  | call cmd rest ih =>
      constructor
      · intro holds answer allowed
        exact (ih _).mp (holds answer allowed)
      · intro holds answer allowed
        exact (ih _).mpr (holds answer allowed)
  | halt => exact Iff.rfl

/-- What a first part establishes is what the second part may start from. -/
theorem wp_seq {program : Program Cmd Res α} {middle : α → S.World → Prop}
    {next : α → Program Cmd Res β} {post : β → S.World → Prop}
    (first : wp S ok program middle world)
    (second : ∀ value world, middle value world →
      wp S ok (next value) post world) :
    wp S ok (program >>= next) post world :=
  wp_bind.mpr (wp_mono first second)

/-- Two postconditions that hold separately hold together. -/
theorem wp_and {program : Program Cmd Res α} {other : α → S.World → Prop}
    (first : wp S ok program post world)
    (second : wp S ok program other world) :
    wp S ok program (fun value world => post value world ∧ other value world)
      world := by
  induction program generalizing world with
  | ret value => exact ⟨first, second⟩
  | call cmd next ih =>
      intro answer allowed
      exact ih _ (first answer allowed) (second answer allowed)
  | halt => trivial

/-- Every call an operation can make is one of these. -/
def MakesOnly (isMade : Cmd → Prop) : Program Cmd Res α → Prop
  | .ret _ => True
  | .call cmd next => isMade cmd ∧ ∀ result, MakesOnly isMade (next result)
  | .halt => True

theorem MakesOnly.perform {isMade : Cmd → Prop} {cmd : Cmd}
    (made : isMade cmd) :
    MakesOnly isMade (Program.perform cmd : Program Cmd Res (Res cmd)) :=
  ⟨made, fun _ => trivial⟩

theorem MakesOnly.bind {isMade : Cmd → Prop} {program : Program Cmd Res α}
    {next : α → Program Cmd Res β} (first : MakesOnly isMade program)
    (second : ∀ value, MakesOnly isMade (next value)) :
    MakesOnly isMade (program >>= next) := by
  induction program with
  | ret value => exact second value
  | call cmd rest ih => exact ⟨first.1, fun result => ih result (first.2 result)⟩
  | halt => trivial

theorem MakesOnly.forM {isMade : Cmd → Prop} {items : List β}
    {body : β → Program Cmd Res PUnit}
    (each : ∀ item, MakesOnly isMade (body item)) :
    MakesOnly isMade (items.forM body) := by
  induction items with
  | nil => trivial
  | cons item rest ih => exact (each item).bind fun _ => ih

/-- What the calls of an operation preserve, the operation preserves. -/
theorem wp_of_makesOnly {isMade : Cmd → Prop} {program : Program Cmd Res α}
    {invariant : S.World → Prop} (made : MakesOnly isMade program)
    (preserved : ∀ step : Step S, isMade step.cmd → invariant step.world →
      invariant step.after)
    (initially : invariant world) :
    wp S ok program (fun _ => invariant) world := by
  induction program generalizing world with
  | ret value => exact initially
  | call cmd next ih =>
      intro answer _
      exact ih _ (made.2 _) (preserved ⟨cmd, world, answer⟩ made.1 initially)
  | halt => trivial

/-- Every value an operation can return is one of these, whatever the results of
its calls. -/
def Returns (isReturned : α → Prop) : Program Cmd Res α → Prop
  | .ret value => isReturned value
  | .call _ next => ∀ result, Returns isReturned (next result)
  | .halt => True

theorem Returns.bind {isFirst : α → Prop} {isReturned : β → Prop}
    {program : Program Cmd Res α} {next : α → Program Cmd Res β}
    (first : Returns isFirst program)
    (second : ∀ value, isFirst value → Returns isReturned (next value)) :
    Returns isReturned (program >>= next) := by
  induction program with
  | ret value => exact second value first
  | call cmd rest ih => exact fun result => ih result (first result)
  | halt => trivial

theorem Returns.trivial (program : Program Cmd Res α) :
    Returns (fun _ => True) program := by
  induction program with
  | ret value => exact True.intro
  | call cmd next ih => exact ih
  | halt => exact True.intro

/-- What the value of an operation is does not depend on the world. -/
theorem wp_of_returns {isReturned : α → Prop} {program : Program Cmd Res α}
    (returns : Returns isReturned program) :
    wp S ok program (fun value _ => isReturned value) world := by
  induction program generalizing world with
  | ret value => exact returns
  | call cmd next ih => exact fun answer _ => ih _ (returns _)
  | halt => exact True.intro

/-- The loop rule: what the body preserves for every item, the loop preserves. -/
theorem wp_forM {items : List β} {body : β → Program Cmd Res PUnit}
    {invariant : S.World → Prop} (initially : invariant world)
    (preserved : ∀ item ∈ items, ∀ world, invariant world →
      wp S ok (body item) (fun _ => invariant) world) :
    wp S ok (items.forM body) (fun _ => invariant) world := by
  induction items generalizing world with
  | nil => exact initially
  | cons item rest ih =>
      have first := preserved item List.mem_cons_self world initially
      refine wp_seq first fun _ middle holds => ih holds ?_
      intro later inRest
      exact preserved later (List.mem_cons_of_mem _ inRest)

/-- The calculus is about the runs: a run whose calls all meet `ok` ends as the
weakest precondition says. -/
theorem wp_run {program : Program Cmd Res α} {env : Environment S}
    {position : Nat} (holds : wp S ok program post world)
    (allowed : ∀ step ∈ (run S env program position world).steps, ok step)
    {value : α}
    (returned : (run S env program position world).value = some value) :
    post value (run S env program position world).world := by
  induction program generalizing position world with
  | ret result =>
      cases returned
      exact holds
  | call cmd next ih =>
      simp only [run, List.forall_mem_cons] at allowed returned ⊢
      exact ih _ (holds _ allowed.1) allowed.2 returned
  | halt => cases returned

theorem wp_ending {program : Program Cmd Res α} {env : Environment S}
    {position : Nat} {value : α} {after : S.World}
    (holds : wp S (fun _ => True) program post world)
    (ended : (run S env program position world).ending = (some value, after)) :
    post value after := by
  have returned := congrArg Prod.fst ended
  have left := congrArg Prod.snd ended
  subst left
  exact wp_run holds (fun _ _ => True.intro) returned

end Rules

/-- A sequence is run by running its first part and then the second one. -/
theorem run_bind {S : System Cmd Res} {env : Environment S} {position : Nat}
    {world : S.World} {program : Program Cmd Res α}
    {next : α → Program Cmd Res β} {value : α}
    (returned : (run S env program position world).value = some value) :
    let first := run S env program position world
    let second := run S env (next value) (position + first.steps.length)
      first.world
    run S env (program >>= next) position world =
      { second with steps := first.steps ++ second.steps } := by
  induction program generalizing position world with
  | ret result =>
      cases returned
      rfl
  | call cmd rest ih =>
      simp only [Program.call_bind, run, List.length_cons, List.cons_append,
        ih _ returned, Nat.add_assoc, Nat.add_comm 1]
  | halt => cases returned

/-- A first part that does not return ends the run. -/
theorem run_bind_of_none {S : System Cmd Res} {env : Environment S}
    {position : Nat} {world : S.World} {program : Program Cmd Res α}
    {next : α → Program Cmd Res β}
    (stopped : (run S env program position world).value = none) :
    (run S env (program >>= next) position world).value = none := by
  induction program generalizing position world with
  | ret result => cases stopped
  | call cmd rest ih => exact ih _ stopped
  | halt => rfl

/-- A run that returns has gone through its first part. -/
theorem exists_of_run_bind {S : System Cmd Res} {env : Environment S}
    {position : Nat} {world : S.World} {program : Program Cmd Res α}
    {next : α → Program Cmd Res β} {value : β}
    (returned : (run S env (program >>= next) position world).value =
      some value) :
    ∃ first, (run S env program position world).value = some first ∧
      let before := run S env program position world
      let rest := run S env (next first) (position + before.steps.length)
        before.world
      run S env (program >>= next) position world =
        { rest with steps := before.steps ++ rest.steps } := by
  cases stopped : (run S env program position world).value with
  | none =>
      rw [run_bind_of_none stopped] at returned
      cases returned
  | some first => exact ⟨first, rfl, run_bind stopped⟩

/-- The weakest precondition that also keeps track of whether every call so far
has met `ok`: the postcondition may say what holds exactly in that case. -/
def wpWhether (S : System Cmd Res) (ok : Step S → Prop) :
    Program Cmd Res α → (α → S.World → Prop → Prop) → S.World → Prop → Prop
  | .ret value, post, world, soFar => post value world soFar
  | .call cmd next, post, world, soFar =>
      ∀ answer, wpWhether S ok (next (S.perform cmd answer world).1) post
        (S.perform cmd answer world).2 (soFar ∧ ok ⟨cmd, world, answer⟩)
  | .halt, _, _, _ => True

section Whether

variable {S : System Cmd Res} {ok : Step S → Prop}
  {post : α → S.World → Prop → Prop} {world : S.World} {soFar : Prop}

@[simp]
theorem wpWhether_ret (value : α) :
    wpWhether S ok (.ret value) post world soFar ↔ post value world soFar :=
  Iff.rfl

@[simp]
theorem wpWhether_halt :
    wpWhether S ok (.halt : Program Cmd Res α) post world soFar :=
  trivial

theorem wpWhether_bind {program : Program Cmd Res α}
    {next : α → Program Cmd Res β} {post : β → S.World → Prop → Prop} :
    wpWhether S ok (program >>= next) post world soFar ↔
      wpWhether S ok program (fun value world soFar =>
        wpWhether S ok (next value) post world soFar) world soFar := by
  induction program generalizing world soFar with
  | ret value => rfl
  | call cmd rest ih =>
      constructor
      · intro holds answer
        exact (ih _).mp (holds answer)
      · intro holds answer
        exact (ih _).mpr (holds answer)
  | halt => exact Iff.rfl

theorem wpWhether_mono {program : Program Cmd Res α}
    {weaker : α → S.World → Prop → Prop}
    (holds : wpWhether S ok program post world soFar)
    (implies : ∀ value world soFar, post value world soFar →
      weaker value world soFar) :
    wpWhether S ok program weaker world soFar := by
  induction program generalizing world soFar with
  | ret value => exact implies value world soFar holds
  | call cmd next ih =>
      intro answer
      exact ih _ (holds answer)
  | halt => trivial

/-- A run ends as the precondition says for the calls that it made. -/
theorem wpWhether_run {program : Program Cmd Res α} {env : Environment S}
    {position : Nat} (holds : wpWhether S ok program post world soFar)
    {value : α}
    (returned : (run S env program position world).value = some value) :
    post value (run S env program position world).world
      (soFar ∧ ∀ step ∈ (run S env program position world).steps, ok step) := by
  induction program generalizing position world soFar with
  | ret result =>
      cases returned
      simpa [run] using holds
  | call cmd next ih =>
      have rest := ih _ (holds (env position cmd)) returned
      simp only [run, List.forall_mem_cons, ← and_assoc]
      exact rest
  | halt => cases returned

end Whether

/-- The loop rule that keeps track of the items which are still to come. -/
theorem wpWhether_forM {S : System Cmd Res} {ok : Step S → Prop}
    {world : S.World} {soFar : Prop} {items : List β}
    {body : β → Program Cmd Res PUnit}
    {invariant : List β → S.World → Prop → Prop}
    (initially : invariant items world soFar)
    (preserved : ∀ item rest world soFar, invariant (item :: rest) world soFar →
      wpWhether S ok (body item) (fun _ => invariant rest) world soFar) :
    wpWhether S ok (items.forM body) (fun _ => invariant []) world soFar := by
  induction items generalizing world soFar with
  | nil => exact initially
  | cons item rest ih =>
      refine wpWhether_bind.mpr (wpWhether_mono
        (preserved item rest world soFar initially) ?_)
      exact fun _ _ _ holds => ih holds

/-- An operation stops with an exception on none of its branches. -/
def AlwaysReturns : Program Cmd Res α → Prop
  | .ret _ => True
  | .call _ next => ∀ result, AlwaysReturns (next result)
  | .halt => False

section Exceptions

variable {S : System Cmd Res} {env : Environment S} {world : S.World}
  {position : Nat}

theorem AlwaysReturns.bind {program : Program Cmd Res α}
    {next : α → Program Cmd Res β} (first : AlwaysReturns program)
    (second : ∀ value, AlwaysReturns (next value)) :
    AlwaysReturns (program >>= next) := by
  induction program with
  | ret value => exact second value
  | call cmd rest ih => exact fun result => ih result (first result)
  | halt => exact first

theorem AlwaysReturns.forM {items : List β} {body : β → Program Cmd Res PUnit}
    (each : ∀ item ∈ items, AlwaysReturns (body item)) :
    AlwaysReturns (items.forM body) := by
  induction items with
  | nil => exact True.intro
  | cons item rest ih =>
      refine (each item List.mem_cons_self).bind fun _ => ih fun other inRest => ?_
      exact each other (List.mem_cons_of_mem item inRest)

theorem AlwaysReturns.exists_value {program : Program Cmd Res α}
    (returns : AlwaysReturns program) :
    ∃ value, (run S env program position world).value = some value := by
  induction program generalizing world position with
  | ret value => exact ⟨value, rfl⟩
  | call cmd next ih => exact ih _ (returns _)
  | halt => exact False.elim returns

/-- A loop that comes to an exception does not return. -/
theorem value_run_forM_of_halt {items : List β} {item : β}
    {body : β → Program Cmd Res PUnit} (member : item ∈ items)
    (stops : body item = .halt) :
    (run S env (items.forM body) position world).value = none := by
  induction items generalizing world position with
  | nil => cases member
  | cons first rest ih =>
      change (run S env (body first >>= fun _ => rest.forM body) position
        world).value = none
      rcases returned : (run S env (body first) position world).value with
        _ | value
      · exact run_bind_of_none returned
      · rw [run_bind returned]
        rcases List.mem_cons.mp member with rfl | inRest
        · rw [stops] at returned
          cases returned
        · exact ih inRest

end Exceptions

/-- The worlds that any number of clients together can bring about, as long as
every call meets `ok`. -/
inductive Reachable (S : System Cmd Res) (ok : Step S → Prop)
    (initial : S.World) : S.World → Prop where
  | start : Reachable S ok initial initial
  | step (world : S.World) (cmd : Cmd) (answer : S.Answer cmd)
      (reached : Reachable S ok initial world)
      (allowed : ok ⟨cmd, world, answer⟩) :
      Reachable S ok initial (S.perform cmd answer world).2

/-- What holds at the start and survives every allowed call holds always. -/
theorem Reachable.invariant {S : System Cmd Res} {ok : Step S → Prop}
    {initial world : S.World} {invariant : S.World → Prop}
    (reached : Reachable S ok initial world) (initially : invariant initial)
    (preserved : ∀ step : Step S, ok step → invariant step.world →
      invariant step.after) :
    invariant world := by
  induction reached with
  | start => exact initially
  | step world cmd answer _ allowed ih =>
      exact preserved ⟨cmd, world, answer⟩ allowed ih

/-- The worlds that operations bring about which are run one after another, each
of them to its end. -/
inductive Completes (S : System Cmd Res) (ok : Step S → Prop)
    (isOperation : Program Cmd Res Unit → Prop) (isInitial : S.World → Prop) :
    S.World → Prop where
  | start (world : S.World) (initially : isInitial world) :
      Completes S ok isOperation isInitial world
  | next (world : S.World) (program : Program Cmd Res Unit)
      (env : Environment S)
      (before : Completes S ok isOperation isInitial world)
      (operation : isOperation program)
      (allowed : ∀ step ∈ (run S env program 0 world).steps, ok step)
      (ended : (run S env program 0 world).value = some ()) :
      Completes S ok isOperation isInitial (run S env program 0 world).world

/-- What every operation preserves from its start to its end holds after any
sequence of operations. -/
theorem Completes.invariant {S : System Cmd Res} {ok : Step S → Prop}
    {isOperation : Program Cmd Res Unit → Prop} {isInitial : S.World → Prop}
    {world : S.World} {invariant : S.World → Prop}
    (completes : Completes S ok isOperation isInitial world)
    (initially : ∀ world, isInitial world → invariant world)
    (preserved : ∀ program, isOperation program → ∀ world, invariant world →
      wp S ok program (fun _ => invariant) world) :
    invariant world := by
  induction completes with
  | start world start => exact initially world start
  | next world program env _ operation allowed ended ih =>
      exact wp_run (preserved program operation world ih) allowed ended

/-- Make calls in order. -/
def System.performAll (S : System Cmd Res) (world : S.World) :
    List ((cmd : Cmd) × S.Answer cmd) → S.World
  | [] => world
  | ⟨cmd, answer⟩ :: rest => S.performAll (S.perform cmd answer world).2 rest

/-- Every one of the calls meets `ok` in the world it finds. -/
def System.AllowsAll (S : System Cmd Res) (ok : Step S → Prop)
    (world : S.World) : List ((cmd : Cmd) × S.Answer cmd) → Prop
  | [] => True
  | ⟨cmd, answer⟩ :: rest =>
      ok ⟨cmd, world, answer⟩ ∧ S.AllowsAll ok (S.perform cmd answer world).2 rest

theorem Reachable.performAll {S : System Cmd Res} {ok : Step S → Prop}
    {initial world : S.World} {calls : List ((cmd : Cmd) × S.Answer cmd)}
    (reached : Reachable S ok initial world)
    (allowed : S.AllowsAll ok world calls) :
    Reachable S ok initial (S.performAll world calls) := by
  induction calls generalizing world with
  | nil => exact reached
  | cons call rest ih =>
      exact ih (.step world call.1 call.2 reached allowed.1) allowed.2

/-- A system together with what an observer remembers of its steps. -/
def System.monitored (S : System Cmd Res) {Memory : Type}
    (observe : Step S → Memory → Memory) : System Cmd Res where
  World := S.World × Memory
  Answer := S.Answer
  perform cmd answer world :=
    ((S.perform cmd answer world.1).1, (S.perform cmd answer world.1).2,
      observe ⟨cmd, world.1, answer⟩ world.2)

section Monitored

variable {S : System Cmd Res} {Memory : Type}
  {observe : Step S → Memory → Memory} {program : Program Cmd Res α}
  {post : α → S.World → Prop} {world : S.World} {memory : Memory}

end Monitored

/-- Carry out so many calls of an operation and then stop: the calls made, and
the world they leave behind. -/
def runFor (S : System Cmd Res) (env : Environment S) :
    Nat → Program Cmd Res α → Nat → S.World → List (Step S) × S.World
  | 0, _, _, world => ([], world)
  | count + 1, .call cmd next, position, world =>
      let step : Step S := ⟨cmd, world, env position cmd⟩
      let rest := runFor S env count (next step.result) (position + 1) step.after
      (step :: rest.1, rest.2)
  | _ + 1, .ret _, _, world | _ + 1, .halt, _, world => ([], world)

/-- What every call of an operation preserves holds wherever it is cut short. -/
theorem runFor_invariant {S : System Cmd Res} {env : Environment S}
    {isMade : Cmd → Prop} (ok : Step S → Prop) (invariant : S.World → Prop)
    (preserved : ∀ step : Step S, isMade step.cmd → ok step →
      invariant step.world → invariant step.after)
    {program : Program Cmd Res α} (made : MakesOnly isMade program)
    {count position : Nat} {world : S.World}
    (allowed : ∀ step ∈ (runFor S env count program position world).1, ok step)
    (initially : invariant world) :
    invariant (runFor S env count program position world).2 := by
  induction program generalizing count position world with
  | ret value => cases count <;> exact initially
  | halt => cases count <;> exact initially
  | call cmd next ih =>
      cases count with
      | zero => exact initially
      | succ count =>
          simp only [runFor, List.forall_mem_cons] at allowed ⊢
          exact ih _ (made.2 _) allowed.2
            (preserved _ made.1 allowed.1 initially)

/-- The calls of a run are calls that the operation can make. -/
theorem MakesOnly.of_mem_steps {S : System Cmd Res} {env : Environment S}
    {isMade : Cmd → Prop} {program : Program Cmd Res α}
    (made : MakesOnly isMade program) {position : Nat} {world : S.World} :
    ∀ step ∈ (run S env program position world).steps, isMade step.cmd := by
  induction program generalizing position world with
  | ret value => simp [run]
  | halt => simp [run]
  | call cmd next ih => exact List.forall_mem_cons.mpr ⟨made.1, ih _ (made.2 _)⟩

end CommandProgram
