import AppExecFwk.Library.Program

/-!
# Operations that return

The weakest precondition of an operation says nothing about a run that an
exception ends.  Here is the one that rules such a run out.
-/

namespace CommandProgram

variable {Cmd : Type} {Res : Cmd → Type} {α β : Type}

/-- Whatever the environment answers, as long as every call meets `ok`, the
operation returns, and the value and the world left behind meet the
postcondition. -/
def wpReturns (S : System Cmd Res) (ok : Step S → Prop) :
    Program Cmd Res α → (α → S.World → Prop) → S.World → Prop
  | .ret value, post, world => post value world
  | .call cmd next, post, world =>
      ∀ answer, ok ⟨cmd, world, answer⟩ →
        wpReturns S ok (next (S.perform cmd answer world).1) post
          (S.perform cmd answer world).2
  | .halt, _, _ => False

section Rules

variable {S : System Cmd Res} {ok : Step S → Prop}
  {post : α → S.World → Prop} {world : S.World}

/-- The second part starts from what the first part establishes. -/
theorem wpReturns_seq {program : Program Cmd Res α}
    {next : α → Program Cmd Res β} {post : β → S.World → Prop}
    {middle : α → S.World → Prop}
    (first : wpReturns S ok program middle world)
    (second : ∀ value world, middle value world →
      wpReturns S ok (next value) post world) :
    wpReturns S ok (program >>= next) post world := by
  induction program generalizing world with
  | ret value => exact second value world first
  | call cmd rest ih =>
      intro answer allowed
      exact ih _ (first answer allowed)
  | halt => exact first.elim

/-- An operation that starts with a call. -/
theorem wpReturns_perform_bind {cmd : Cmd} {next : Res cmd → Program Cmd Res α}
    (after : ∀ answer, ok ⟨cmd, world, answer⟩ →
      wpReturns S ok (next (S.perform cmd answer world).1) post
        (S.perform cmd answer world).2) :
    wpReturns S ok (.perform cmd >>= next) post world :=
  after

/-- The rule for a loop that hands a value on: the invariant speaks of the items
that are done. -/
theorem wpReturns_foldlM {body : β → α → Program Cmd Res β}
    (invariant : List α → β → S.World → Prop) (items : List α) {start : β}
    (initially : invariant [] start world)
    (preserved : ∀ done item rest value world, items = done ++ item :: rest →
      invariant done value world →
      wpReturns S ok (body value item) (invariant (done ++ [item])) world) :
    wpReturns S ok (items.foldlM body start) (invariant items) world := by
  suffices loop : ∀ rest done value world, items = done ++ rest →
      invariant done value world →
      wpReturns S ok (rest.foldlM body value) (invariant items) world from
    loop items [] start world rfl initially
  intro rest
  induction rest with
  | nil =>
      intro done value world split holds
      rw [List.append_nil] at split
      subst split
      exact holds
  | cons item rest ih =>
      intro done value world split holds
      rw [List.foldlM_cons]
      refine wpReturns_seq (preserved done item rest value world split holds) ?_
      intro next after holds_after
      refine ih (done ++ [item]) next after ?_ holds_after
      rw [split, List.append_assoc, List.singleton_append]

/-- What the body of a loop preserves for every item, the loop preserves. -/
theorem wpReturns_forM {items : List β} {body : β → Program Cmd Res PUnit}
    {invariant : S.World → Prop} (initially : invariant world)
    (preserved : ∀ item ∈ items, ∀ world, invariant world →
      wpReturns S ok (body item) (fun _ => invariant) world) :
    wpReturns S ok (items.forM body) (fun _ => invariant) world := by
  induction items generalizing world with
  | nil => exact initially
  | cons item rest ih =>
      have first := preserved item List.mem_cons_self world initially
      refine wpReturns_seq first fun _ middle holds => ih holds ?_
      intro later inRest
      exact preserved later (List.mem_cons_of_mem _ inRest)

/-- In an environment that meets `ok` the operation returns, and the end meets
the postcondition. -/
theorem wpReturns_run {program : Program Cmd Res α} {env : Environment S}
    {position : Nat} (holds : wpReturns S ok program post world)
    (allowed : ∀ position cmd world, ok ⟨cmd, world, env position cmd⟩) :
    ∃ value, (run S env program position world).value = some value ∧
      post value (run S env program position world).world := by
  induction program generalizing position world with
  | ret value => exact ⟨value, rfl, holds⟩
  | call cmd next ih => exact ih _ (holds _ (allowed position cmd world))
  | halt => exact holds.elim

end Rules

end CommandProgram
