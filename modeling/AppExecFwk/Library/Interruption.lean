import AppExecFwk.Library.Program

/-!
# Operations that are cut short

A process can die between any two calls of an operation and start it again from
the world it left behind.  What has to hold at every moment of such an operation
is carried along its calls beside the postcondition, which only a run that comes
to its end has to meet.
-/

namespace CommandProgram

variable {Cmd : Type} {Res : Cmd → Type} {α β : Type}

/-- Every call an operation makes is one of these, and so is what it returns,
whatever the results of its calls. -/
def Conforms (isMade : Cmd → Prop) (isReturned : α → Prop) :
    Program Cmd Res α → Prop
  | .ret value => isReturned value
  | .call cmd next =>
      isMade cmd ∧ ∀ result, Conforms isMade isReturned (next result)
  | .halt => True

section Conforming

variable {isMade : Cmd → Prop} {isReturned : α → Prop}

theorem Conforms.perform {cmd : Cmd} (made : isMade cmd) :
    Conforms isMade (fun _ => True)
      (Program.perform cmd : Program Cmd Res (Res cmd)) :=
  ⟨made, fun _ => trivial⟩

theorem Conforms.bind {isLast : β → Prop} {program : Program Cmd Res α}
    {next : α → Program Cmd Res β}
    (first : Conforms isMade isReturned program)
    (second : ∀ value, isReturned value → Conforms isMade isLast (next value)) :
    Conforms isMade isLast (program >>= next) := by
  induction program with
  | ret value => exact second value first
  | call cmd rest ih => exact ⟨first.1, fun result => ih result (first.2 result)⟩
  | halt => trivial

theorem Conforms.forM {items : List β} {body : β → Program Cmd Res PUnit}
    (each : ∀ item ∈ items, Conforms isMade (fun _ => True) (body item)) :
    Conforms isMade (fun _ => True) (items.forM body) := by
  induction items with
  | nil => trivial
  | cons item rest ih =>
      have first := each item List.mem_cons_self
      refine first.bind fun _ _ => ih fun later inRest => ?_
      exact each later (List.mem_cons_of_mem _ inRest)

end Conforming

/-- Whatever the environment answers, the condition holds before the first call
and after each one, and a returned value and the last world meet the
postcondition. -/
def wpAlways (S : System Cmd Res) (always : S.World → Prop) :
    Program Cmd Res α → (α → S.World → Prop) → S.World → Prop
  | .ret value, post, world => always world ∧ post value world
  | .call cmd next, post, world =>
      always world ∧ ∀ answer,
        wpAlways S always (next (S.perform cmd answer world).1) post
          (S.perform cmd answer world).2
  | .halt, _, world => always world

section Rules

variable {S : System Cmd Res} {always : S.World → Prop}
  {post : α → S.World → Prop} {world : S.World}

@[simp]
theorem wpAlways_ret (value : α) :
    wpAlways S always (.ret value) post world ↔
      always world ∧ post value world :=
  Iff.rfl

@[simp]
theorem wpAlways_halt :
    wpAlways S always (.halt : Program Cmd Res α) post world ↔ always world :=
  Iff.rfl

theorem wpAlways_perform (cmd : Cmd) {post : Res cmd → S.World → Prop}
    (before : always world)
    (after : ∀ answer, always (S.perform cmd answer world).2 ∧
      post (S.perform cmd answer world).1 (S.perform cmd answer world).2) :
    wpAlways S always (.perform cmd) post world :=
  ⟨before, after⟩

/-- The postcondition may be weakened. -/
theorem wpAlways_mono {program : Program Cmd Res α}
    {weaker : α → S.World → Prop}
    (holds : wpAlways S always program post world)
    (implies : ∀ value world, always world → post value world →
      weaker value world) :
    wpAlways S always program weaker world := by
  induction program generalizing world with
  | ret value => exact ⟨holds.1, implies value world holds.1 holds.2⟩
  | call cmd next ih => exact ⟨holds.1, fun answer => ih _ (holds.2 answer)⟩
  | halt => exact holds

/-- So may the condition. -/
theorem wpAlways_weaken {program : Program Cmd Res α}
    {weaker : S.World → Prop}
    (holds : wpAlways S always program post world)
    (implies : ∀ world, always world → weaker world) :
    wpAlways S weaker program post world := by
  induction program generalizing world with
  | ret value => exact ⟨implies world holds.1, holds.2⟩
  | call cmd next ih =>
      exact ⟨implies world holds.1, fun answer => ih _ (holds.2 answer)⟩
  | halt => exact implies world holds

/-- The second part starts from what the first part establishes. -/
theorem wpAlways_seq {program : Program Cmd Res α}
    {next : α → Program Cmd Res β} {post : β → S.World → Prop}
    {middle : α → S.World → Prop}
    (first : wpAlways S always program middle world)
    (second : ∀ value world, always world → middle value world →
      wpAlways S always (next value) post world) :
    wpAlways S always (program >>= next) post world := by
  induction program generalizing world with
  | ret value => exact second value world first.1 first.2
  | call cmd rest ih => exact ⟨first.1, fun answer => ih _ (first.2 answer)⟩
  | halt => exact first

/-- The rule for a loop that hands a value on: the invariant speaks of the items
that are done. -/
theorem wpAlways_foldlM {body : β → α → Program Cmd Res β}
    (invariant : List α → β → S.World → Prop) (items : List α) {start : β}
    (before : always world) (initially : invariant [] start world)
    (preserved : ∀ done item rest value world, items = done ++ item :: rest →
      always world → invariant done value world →
      wpAlways S always (body value item) (invariant (done ++ [item])) world) :
    wpAlways S always (items.foldlM body start) (invariant items) world := by
  suffices loop : ∀ rest done value world, items = done ++ rest → always world →
      invariant done value world →
      wpAlways S always (rest.foldlM body value) (invariant items) world from
    loop items [] start world rfl before initially
  intro rest
  induction rest with
  | nil =>
      intro done value world split before holds
      rw [List.append_nil] at split
      subst split
      exact ⟨before, holds⟩
  | cons item rest ih =>
      intro done value world split before holds
      rw [List.foldlM_cons]
      refine wpAlways_seq
        (preserved done item rest value world split before holds) ?_
      intro next after always_after holds_after
      refine ih (done ++ [item]) next after ?_ always_after holds_after
      rw [split, List.append_assoc, List.singleton_append]

/-- A loop without a value keeps what its body keeps. -/
theorem wpAlways_forM {items : List β} {body : β → Program Cmd Res PUnit}
    (before : always world)
    (preserved : ∀ item ∈ items, ∀ world, always world →
      wpAlways S always (body item) (fun _ _ => True) world) :
    wpAlways S always (items.forM body) (fun _ _ => True) world := by
  induction items generalizing world with
  | nil => exact ⟨before, trivial⟩
  | cons item rest ih =>
      have first := preserved item List.mem_cons_self world before
      refine wpAlways_seq first fun _ middle holds _ => ih holds ?_
      intro later inRest
      exact preserved later (List.mem_cons_of_mem _ inRest)

/-- What each call that an operation makes keeps, the operation keeps, and it
returns what it can return. -/
theorem wpAlways_of_conforms {isMade : Cmd → Prop} {isReturned : α → Prop}
    {program : Program Cmd Res α} (conforms : Conforms isMade isReturned program)
    (preserved : ∀ cmd, isMade cmd → ∀ answer world, always world →
      always (S.perform cmd answer world).2)
    (before : always world) :
    wpAlways S always program (fun value _ => isReturned value) world := by
  induction program generalizing world with
  | ret value => exact ⟨before, conforms⟩
  | call cmd next ih =>
      exact ⟨before, fun answer => ih _ (conforms.2 _)
        (preserved cmd conforms.1 answer world before)⟩
  | halt => exact before

/-- Wherever a run is cut short, the condition holds. -/
theorem wpAlways_runFor {program : Program Cmd Res α} {env : Environment S}
    {count position : Nat} (holds : wpAlways S always program post world) :
    always (runFor S env count program position world).2 := by
  induction program generalizing count position world with
  | ret value => cases count <;> exact holds.1
  | halt => cases count <;> exact holds
  | call cmd next ih =>
      cases count with
      | zero => exact holds.1
      | succ count => exact ih _ (holds.2 _)

/-- A run that comes to its end meets the postcondition. -/
theorem wpAlways_run {program : Program Cmd Res α} {env : Environment S}
    {position : Nat} (holds : wpAlways S always program post world) {value : α}
    (returned : (run S env program position world).value = some value) :
    post value (run S env program position world).world := by
  induction program generalizing position world with
  | ret result =>
      cases returned
      exact holds.2
  | call cmd next ih => exact ih _ (holds.2 _) returned
  | halt => cases returned

end Rules

/-- The worlds that an operation brings about that is started again and again,
each time carried on for some of its calls or to its end. -/
inductive Restarted (S : System Cmd Res) (program : Program Cmd Res α)
    (initial : S.World) : S.World → Prop where
  | start : Restarted S program initial initial
  | again (world : S.World) (env : Environment S) (count : Nat)
      (before : Restarted S program initial world) :
      Restarted S program initial (runFor S env count program 0 world).2

/-- What an operation always keeps holds however often it is cut short. -/
theorem Restarted.invariant {S : System Cmd Res} {program : Program Cmd Res α}
    {initial world : S.World} {always : S.World → Prop}
    (restarted : Restarted S program initial world) (initially : always initial)
    (kept : ∀ world, always world →
      wpAlways S always program (fun _ _ => True) world) :
    always world := by
  induction restarted with
  | start => exact initially
  | again world env count _ ih => exact wpAlways_runFor (kept world ih)

end CommandProgram
