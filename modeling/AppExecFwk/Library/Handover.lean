import Mathlib.Tactic.Common

/-!
# Handing a value over through a channel

A channel returns the items written into it in their order.  A writer and a
reader are programs over the state of the channel, which stop at the first
failure.  They agree if the writer adds some items to the channel and the
reader takes just these items off and returns the value; the programs of two
records agree part by part, so no list of the items is ever written down.
-/

namespace AppExecFwk

variable {σ ι α β : Type}

/-- A program over the state `σ` of a channel that stops at its first
failure. -/
abbrev ChannelProgram (σ α : Type) := OptionT (StateM σ) α

namespace ChannelProgram

/-- The result, if there is one, and the state that is left. -/
def apply (program : ChannelProgram σ α) (state : σ) : Option α × σ :=
  program.run.run state

/-- The program that runs a function. -/
def ofFunction (function : σ → Option α × σ) : ChannelProgram σ α :=
  OptionT.mk function

/-- The program that runs a function which always returns a value. -/
def ofTotal (function : σ → α × σ) : ChannelProgram σ α :=
  ofFunction fun state => (some (function state).1, (function state).2)

/-- The program that runs a function which says whether it has succeeded. -/
def ofFlag (function : σ → Bool × σ) : ChannelProgram σ Unit :=
  ofFunction fun state =>
    (if (function state).1 then some () else none, (function state).2)

/-- A program as a function that says whether it has succeeded. -/
def toFlag (program : ChannelProgram σ Unit) (state : σ) : Bool × σ :=
  ((program.apply state).1.isSome, (program.apply state).2)

@[simp]
theorem apply_ofFunction (function : σ → Option α × σ) (state : σ) :
    (ofFunction function).apply state = function state := rfl

@[simp]
theorem apply_pure (value : α) (state : σ) :
    (pure value : ChannelProgram σ α).apply state = (some value, state) := rfl

@[simp]
theorem apply_failure (state : σ) :
    (failure : ChannelProgram σ α).apply state = (none, state) := rfl

theorem apply_bind (program : ChannelProgram σ α)
    (next : α → ChannelProgram σ β) (state : σ) :
    (program >>= next).apply state =
      match program.apply state with
      | (some value, left) => (next value).apply left
      | (none, left) => (none, left) := by
  change StateT.run (OptionT.run (program >>= next)) state = _
  rw [OptionT.run_bind]
  unfold apply
  simp only [StateT.run_bind, Option.elimM]
  change (fun result : Option α × σ => _) (program.run.run state) = _
  rcases program.run.run state with ⟨_ | value, left⟩ <;> rfl

theorem apply_bind_of_some {program : ChannelProgram σ α}
    {next : α → ChannelProgram σ β} {state left : σ} {value : α}
    (result : program.apply state = (some value, left)) :
    (program >>= next).apply state = (next value).apply left := by
  rw [apply_bind, result]

/-- Whatever succeeds has succeeded in its first part. -/
theorem exists_of_apply_bind {program : ChannelProgram σ α}
    {next : α → ChannelProgram σ β} {state : σ} {result : β}
    (returned : ((program >>= next).apply state).1 = some result) :
    ∃ value left, program.apply state = (some value, left) ∧
      ((next value).apply left).1 = some result := by
  rw [apply_bind] at returned
  rcases same : program.apply state with ⟨_ | value, left⟩
  · rw [same] at returned
    cases returned
  · rw [same] at returned
    exact ⟨value, left, rfl, returned⟩

/-! ## What a writer adds and a reader takes off -/

/-- The program succeeds and adds these items to the end of the channel. -/
def Adds (items : σ → List ι) (program : ChannelProgram σ Unit)
    (added : List ι) : Prop :=
  ∀ state, (program.apply state).1 = some () ∧
    items (program.apply state).2 = items state ++ added

/-- From a channel that starts with these items the program takes them off and
returns the value. -/
def Takes (items : σ → List ι) (program : ChannelProgram σ α)
    (taken : List ι) (value : α) : Prop :=
  ∀ state rest, items state = taken ++ rest →
    (program.apply state).1 = some value ∧
      items (program.apply state).2 = rest

variable {items : σ → List ι}

theorem Adds.pure : Adds items (pure ()) [] := by
  intro state
  simp

theorem Takes.pure (value : α) : Takes items (pure value) [] value := by
  intro state rest same
  exact ⟨rfl, same⟩

theorem Adds.bind {first second : ChannelProgram σ Unit}
    {added more : List ι} (firstAdds : Adds items first added)
    (secondAdds : Adds items second more) :
    Adds items (first >>= fun _ => second) (added ++ more) := by
  intro state
  obtain ⟨succeeds, firstItems⟩ := firstAdds state
  obtain ⟨alsoSucceeds, secondItems⟩ := secondAdds (first.apply state).2
  rw [apply_bind_of_some (Prod.ext succeeds rfl)]
  refine ⟨alsoSucceeds, ?_⟩
  rw [secondItems, firstItems, List.append_assoc]

theorem Takes.bind {program : ChannelProgram σ α}
    {next : α → ChannelProgram σ β} {taken more : List ι} {value : α}
    {result : β} (firstTakes : Takes items program taken value)
    (nextTakes : Takes items (next value) more result) :
    Takes items (program >>= next) (taken ++ more) result := by
  intro state rest same
  rw [List.append_assoc] at same
  obtain ⟨returned, left⟩ := firstTakes state (more ++ rest) same
  rw [apply_bind_of_some (Prod.ext returned rfl)]
  exact nextTakes _ rest left

/-- A function that says it has succeeded adds what it has added. -/
theorem Adds.ofFlag {function : σ → Bool × σ} {added : List ι}
    (adds : ∀ state, (function state).1 = true ∧
      items (function state).2 = items state ++ added) :
    Adds items (ofFlag function) added := by
  intro state
  refine ⟨?_, (adds state).2⟩
  change (if (function state).1 then some () else none) = some ()
  rw [if_pos (adds state).1]

theorem Adds.toFlag {program : ChannelProgram σ Unit} {added : List ι}
    (adds : Adds items program added) (state : σ) :
    (program.toFlag state).1 = true ∧
      items (program.toFlag state).2 = items state ++ added := by
  refine ⟨?_, (adds state).2⟩
  change (program.apply state).1.isSome = true
  rw [(adds state).1]
  rfl

/-- A function takes an item off and returns its value. -/
theorem Takes.ofTotal {function : σ → α × σ} {item : ι} {value : α}
    (takes : ∀ rest state, items state = item :: rest →
      (function state).1 = value ∧ items (function state).2 = rest) :
    Takes items (ofTotal function) [item] value := by
  intro state rest same
  obtain ⟨returned, left⟩ := takes rest state same
  refine ⟨?_, left⟩
  change some (function state).1 = some value
  rw [returned]

/-! ## The handover -/

/-- What the writer adds, whatever the channel holds, is what the reader takes
off for the value. -/
def HandsOver (items : σ → List ι) (writer : ChannelProgram σ Unit)
    (reader : ChannelProgram σ α) (value : α) : Prop :=
  ∃ sent, Adds items writer sent ∧ Takes items reader sent value

namespace HandsOver

theorem pure (value : α) :
    HandsOver items (Pure.pure ()) (Pure.pure value) value :=
  ⟨[], .pure, .pure value⟩

theorem bind {writer more : ChannelProgram σ Unit}
    {reader : ChannelProgram σ α} {next : α → ChannelProgram σ β} {value : α}
    {result : β} (first : HandsOver items writer reader value)
    (following : HandsOver items more (next value) result) :
    HandsOver items (writer >>= fun _ => more) (reader >>= next) result := by
  obtain ⟨sent, added, taken⟩ := first
  obtain ⟨sentMore, addedMore, takenMore⟩ := following
  exact ⟨sent ++ sentMore, added.bind addedMore, taken.bind takenMore⟩

/-- The last part of a writer has nothing behind it. -/
theorem last {writer : ChannelProgram σ Unit} {reader : ChannelProgram σ α}
    {next : α → ChannelProgram σ β} {value : α} {result : β}
    (first : HandsOver items writer reader value)
    (same : next value = Pure.pure result) :
    HandsOver items writer (reader >>= next) result := by
  obtain ⟨sent, added, taken⟩ := first
  refine ⟨sent, added, ?_⟩
  rw [← List.append_nil sent]
  refine taken.bind ?_
  rw [same]
  exact .pure result

/-- A value is handed over through a channel that was empty. -/
theorem apply_of_empty {writer : ChannelProgram σ Unit}
    {reader : ChannelProgram σ α} {value : α}
    (handsOver : HandsOver items writer reader value) {start : σ}
    (isEmpty : items start = []) :
    (writer.apply start).1 = some () ∧
      (reader.apply (writer.apply start).2).1 = some value := by
  obtain ⟨sent, added, taken⟩ := handsOver
  obtain ⟨succeeds, holds⟩ := added start
  refine ⟨succeeds, (taken _ [] ?_).1⟩
  rw [holds, isEmpty, List.nil_append, List.append_nil]

end HandsOver

/-! ## Loops -/

/-- Writes one value after another. -/
def writeEach (write : α → ChannelProgram σ Unit) :
    List α → ChannelProgram σ Unit
  | [] => pure ()
  | value :: values => do
      write value
      writeEach write values

/-- Reads that many values, one after another. -/
def readEach (read : ChannelProgram σ α) : Nat → ChannelProgram σ (List α)
  | 0 => pure []
  | count + 1 => do
      let value ← read
      let values ← readEach read count
      return value :: values

/-- A list is handed over if each of its values is. -/
theorem HandsOver.each {write : α → ChannelProgram σ Unit}
    {read : ChannelProgram σ α} {values : List α}
    (handsOver : ∀ value ∈ values, HandsOver items (write value) read value) :
    HandsOver items (writeEach write values) (readEach read values.length)
      values := by
  induction values with
  | nil => exact .pure []
  | cons value values induction =>
      have rest := induction fun other member =>
        handsOver other (List.mem_cons_of_mem value member)
      rw [List.length_cons, writeEach, readEach]
      exact (handsOver value List.mem_cons_self).bind (rest.last rfl)

/-! ## What a reader returns from any channel -/

/-- Whatever the program returns has the property. -/
def Yields (program : ChannelProgram σ α) (good : α → Prop) : Prop :=
  ∀ state value, (program.apply state).1 = some value → good value

namespace Yields

theorem pure {value : α} {good : α → Prop} (isGood : good value) :
    Yields (Pure.pure value : ChannelProgram σ α) good := by
  intro state returned same
  cases same
  exact isGood

theorem failure {good : α → Prop} :
    Yields (Alternative.failure : ChannelProgram σ α) good := by
  intro state returned same
  cases same

theorem bind {program : ChannelProgram σ α} {next : α → ChannelProgram σ β}
    {good : α → Prop} {goodResult : β → Prop} (first : Yields program good)
    (rest : ∀ value, good value → Yields (next value) goodResult) :
    Yields (program >>= next) goodResult := by
  intro state result returned
  obtain ⟨value, left, same, after⟩ := exists_of_apply_bind returned
  exact rest value (first state value (by rw [same])) left result after

/-- Nothing is used of what the first part returns. -/
theorem bind_any {program : ChannelProgram σ α}
    {next : α → ChannelProgram σ β} {good : β → Prop}
    (rest : ∀ value, Yields (next value) good) :
    Yields (program >>= next) good :=
  bind (fun _ _ _ => trivial) fun value (_ : True) => rest value

/-- A loop returns as many values as it is asked for, each of them as one
reader returns it. -/
theorem each {read : ChannelProgram σ α} {good : α → Prop}
    (one : Yields read good) (count : Nat) :
    Yields (readEach read count) fun values =>
      values.length = count ∧ ∀ value ∈ values, good value := by
  induction count with
  | zero => exact .pure ⟨rfl, by simp⟩
  | succ count induction =>
      refine one.bind fun value isGood => ?_
      refine induction.bind fun values areGood => ?_
      refine .pure ⟨?_, ?_⟩
      · rw [List.length_cons, areGood.1]
      · intro other member
        rcases List.mem_cons.mp member with rfl | isLater
        · exact isGood
        · exact areGood.2 other isLater

end Yields

end ChannelProgram

end AppExecFwk
