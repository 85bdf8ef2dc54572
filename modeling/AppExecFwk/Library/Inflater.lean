import Mathlib.Tactic.Common

/-!
# Feeding an inflater

An inflater is called with the input there is and with room for output; it tells
how much input it has taken, what has come out and how far it is.  Data that is
longer than a buffer is fed to it piece by piece.  Whether all output has come
out when the data is used up is what the last call tells.
-/

namespace Inflation

/-- `Z_OK` -/
def zOk : Int := 0

/-- `Z_STREAM_END` -/
def zStreamEnd : Int := 1

/-- What a call of `inflate` gives. -/
structure Inflated (State : Type) where
  code : Int
  /-- There is an error message. -/
  hasMessage : Bool := false
  consumed : Nat
  output : List UInt8
  state : State

structure Inflater where
  State : Type
  initial : State
  inflate : State → (input : List UInt8) → (room : Nat) → Inflated State

variable {inflater : Inflater}

/-- Calls of an inflater have taken some bytes and given some others; the code is
that of the last call. -/
inductive Reached (inflater : Inflater) :
    List UInt8 → List UInt8 → Option Int → inflater.State → Prop where
  | start : Reached inflater [] [] none inflater.initial
  | call {used out : List UInt8} {code : Option Int} {state : inflater.State}
      (before : Reached inflater used out code state)
      (input : List UInt8) (room : Nat) :
      Reached inflater
        (used ++ input.take (inflater.inflate state input room).consumed)
        (out ++ (inflater.inflate state input room).output)
        (some (inflater.inflate state input room).code)
        (inflater.inflate state input room).state

/-- The contract of an inflater: it reports the end of the stream exactly when
the bytes it has taken are a complete stream and all that they inflate to has
come out.  No bytes are no stream. -/
structure Documented (inflater : Inflater)
    (inflated : List UInt8 → Option (List UInt8)) : Prop where
  nothing : inflated [] = none
  ends : ∀ used out code state, Reached inflater used out (some code) state →
    (code = zStreamEnd ↔ inflated used = some out)

/-- Data on its way through an inflater. -/
structure Feeding (inflater : Inflater) where
  /-- The data that is not in the input buffer yet. -/
  rest : List UInt8
  input : List UInt8 := []
  state : inflater.State := inflater.initial
  out : List UInt8 := []
  code : Option Int := none
  /-- How many calls in a row have given no output. -/
  idle : Nat := 0

/-- How feeding ends. -/
inductive Fed where
  /-- The inflater has reported an error or given no output too often. -/
  | stuck (out : List UInt8)
  /-- All data has been taken. -/
  | usedUp (out : List UInt8) (code : Option Int)
  deriving DecidableEq

/-- Fill the input buffer when it is empty. -/
def Feeding.refill (feeding : Feeding inflater) (pieceLen : Nat) :
    Feeding inflater :=
  if feeding.input = [] then
    { feeding with
      rest := feeding.rest.drop pieceLen
      input := feeding.rest.take pieceLen }
  else feeding

/-- Call the inflater once. -/
def Feeding.call (feeding : Feeding inflater) (room : Nat) : Feeding inflater :=
  let given := inflater.inflate feeding.state feeding.input room
  { feeding with
    input := feeding.input.drop given.consumed
    state := given.state
    out := feeding.out ++ given.output
    code := some given.code
    idle := if given.output = [] then feeding.idle + 1 else 0 }

/-- Feed the data in pieces of a length to an inflater that has room for some
output in each call. -/
def feed (pieceLen room patience : Nat) :
    Nat → Feeding inflater → Option Fed
  | 0, _ => none
  | fuel + 1, feeding =>
      if feeding.rest = [] ∧ feeding.input = [] then
        some (.usedUp feeding.out feeding.code)
      else
        let feeding := feeding.refill pieceLen
        let given := inflater.inflate feeding.state feeding.input room
        if zOk ≤ given.code ∧ given.hasMessage then some (.stuck feeding.out)
        else
          let feeding := feeding.call room
          if patience ≤ feeding.idle then some (.stuck feeding.out)
          else feed pieceLen room patience fuel feeding

variable {feeding : Feeding inflater} {pieceLen room patience : Nat}

@[simp]
theorem refill_data (feeding : Feeding inflater) (pieceLen : Nat) :
    (feeding.refill pieceLen).input ++ (feeding.refill pieceLen).rest =
      feeding.input ++ feeding.rest := by
  unfold Feeding.refill
  split
  · next empty => simp [empty]
  · rfl

theorem refill_fields (feeding : Feeding inflater) (pieceLen : Nat) :
    (feeding.refill pieceLen).state = feeding.state ∧
      (feeding.refill pieceLen).out = feeding.out ∧
      (feeding.refill pieceLen).code = feeding.code ∧
      (feeding.refill pieceLen).idle = feeding.idle := by
  unfold Feeding.refill
  split <;> exact ⟨rfl, rfl, rfl, rfl⟩

/-- When the data is used up, it is exactly what the inflater has taken. -/
theorem reached_of_feed {used out : List UInt8} {code : Option Int} {fuel : Nat}
    (reached : Reached inflater used feeding.out feeding.code feeding.state)
    (fed : feed pieceLen room patience fuel feeding =
      some (.usedUp out code)) :
    ∃ state, Reached inflater (used ++ feeding.input ++ feeding.rest) out code
      state := by
  induction fuel generalizing feeding used with
  | zero => cases fed
  | succ fuel ih =>
      simp only [feed] at fed
      split at fed
      · next empty =>
          cases fed
          rw [empty.1, empty.2, List.append_nil, List.append_nil]
          exact ⟨_, reached⟩
      · split at fed
        · cases fed
        split at fed
        · cases fed
        obtain ⟨sameState, sameOut, sameCode, -⟩ :=
          refill_fields feeding pieceLen
        rw [← sameState, ← sameOut, ← sameCode] at reached
        obtain ⟨state, atEnd⟩ := ih (.call reached _ room) fed
        refine ⟨state, ?_⟩
        have data := refill_data feeding pieceLen
        rw [List.append_assoc, ← data]
        simpa [Feeding.call, List.append_assoc,
          ← List.append_assoc (List.take _ _) (List.drop _ _)] using atEnd

/-- The last call tells whether the data was a complete stream all of whose
output has come out. -/
theorem inflated_of_feed {inflated : List UInt8 → Option (List UInt8)}
    (documented : Documented inflater inflated) {data out : List UInt8}
    {code : Option Int} {fuel : Nat}
    (fed : feed pieceLen room patience fuel
      ({ rest := data } : Feeding inflater) = some (.usedUp out code)) :
    code = some zStreamEnd ↔ inflated data = some out := by
  obtain ⟨state, reached⟩ := reached_of_feed .start fed
  simp only [List.nil_append] at reached
  cases code with
  | some code =>
      rw [Option.some.injEq]
      exact documented.ends _ _ _ _ reached
  | none =>
      cases reached
      simp [documented.nothing]

section Buffering

variable {inflated : List UInt8 → Option (List UInt8)}

/-- An inflater that keeps all it has taken and given, and gives output as soon
as it has taken a complete stream. -/
def buffering (inflated : List UInt8 → Option (List UInt8)) : Inflater where
  State := List UInt8 × List UInt8
  initial := ([], [])
  inflate state input room :=
    let used := state.1 ++ input
    let output := (((inflated used).getD []).drop state.2.length).take room
    { code := if inflated used = some (state.2 ++ output) then zStreamEnd else zOk
      consumed := input.length
      output := output
      state := (used, state.2 ++ output) }

theorem reached_buffering {used out : List UInt8} {code : Option Int}
    {state : (buffering inflated).State}
    (reached : Reached (buffering inflated) used out code state) :
    state = (used, out) ∧
      ∀ last, code = some last → (last = zStreamEnd ↔ inflated used = some out) := by
  induction reached with
  | start => exact ⟨rfl, nofun⟩
  | call before input room ih =>
      obtain ⟨rfl, -⟩ := ih
      simp only [buffering, List.take_length, true_and, Option.some.injEq,
        forall_eq']
      split
      · next ends => exact iff_of_true rfl ends
      · next notYet => exact iff_of_false (by decide) notYet

theorem documented_buffering (nothing : inflated [] = none) :
    Documented (buffering inflated) inflated where
  nothing := nothing
  ends _ _ code _ reached := (reached_buffering reached).2 code rfl

end Buffering

end Inflation
