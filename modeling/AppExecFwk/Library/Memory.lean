import AppExecFwk.Library.ByteFile

/-!
# Blocks of memory

The memory of a C program is a list of blocks of bytes.  A pointer is a block
and an offset, and a program that uses what is outside a block, or a block that
is not allocated, fails.  The functions of the C library that copy bytes and
strings are built on single loads and stores, so that they fail where the real
ones would read or write outside.
-/

namespace Memory

open ByteFile (slice)

structure Pointer where
  block : Nat
  offset : Nat
  deriving DecidableEq

def Pointer.add (pointer : Pointer) (number : Nat) : Pointer :=
  { pointer with offset := pointer.offset + number }

def Pointer.sub (pointer : Pointer) (number : Nat) : Pointer :=
  { pointer with offset := pointer.offset - number }

inductive Fault where
  | notAllocated
  | outside
  deriving DecidableEq

/-- The blocks in the order they were allocated, without what has been freed. -/
abbrev Blocks := List (Option (List UInt8))

abbrev Run := StateT Blocks (Except Fault)

/-- What the C library answers. -/
inductive Errno where
  | eok
  | einval
  | erange
  deriving DecidableEq

/-- What `malloc` finds: no room, or bytes that are still there. -/
abbrev Allocator := (size : Nat) → Option (Vector UInt8 size)

/-- The bytes of a block. -/
def content (block : Nat) : Run (List UInt8) := fun blocks =>
  match blocks[block]? with
  | some (some bytes) => .ok (bytes, blocks)
  | _ => .error .notAllocated

def loadBytes (pointer : Pointer) (number : Nat) : Run (List UInt8) := do
  let bytes ← content pointer.block
  if pointer.offset + number ≤ bytes.length then
    return slice bytes pointer.offset number
  else throw .outside

def load (pointer : Pointer) : Run UInt8 := do
  let bytes ← content pointer.block
  match bytes[pointer.offset]? with
  | some byte => return byte
  | none => throw .outside

/-- The bytes of a block once some of them have been stored over. -/
def overwrite (bytes : List UInt8) (offset : Nat) (stored : List UInt8) :
    List UInt8 :=
  bytes.take offset ++ stored ++ bytes.drop (offset + stored.length)

def storeBytes (pointer : Pointer) (stored : List UInt8) : Run Unit := do
  let bytes ← content pointer.block
  if pointer.offset + stored.length ≤ bytes.length then
    modify (·.set pointer.block (some (overwrite bytes pointer.offset stored)))
  else throw .outside

/-- A new block. -/
def newBlock (bytes : List UInt8) : Run Pointer := fun blocks =>
  .ok (⟨blocks.length, 0⟩, blocks ++ [some bytes])

def malloc (allocator : Allocator) (size : Nat) : Run (Option Pointer) :=
  match allocator size with
  | some bytes => some <$> newBlock bytes.toList
  | none => return none

/-- A block comes to its end. -/
def release (pointer : Pointer) : Run Unit := do
  let _ ← content pointer.block
  modify (·.set pointer.block none)

def free : Option Pointer → Run Unit
  | some pointer => release pointer
  | none => return ()

/-- The number of bytes before a zero, of which at most so many are read. -/
def strnlen (pointer : Pointer) : Nat → Run Nat
  | 0 => return 0
  | limit + 1 => do
      if (← load pointer) = 0 then return 0
      return (← strnlen (pointer.add 1) limit) + 1

/-- Set bytes to a value. -/
def memset_s (dest : Pointer) (destMax : Nat) (value : UInt8) (count : Nat) :
    Run Errno := do
  if destMax = 0 then return .erange
  storeBytes dest (List.replicate (min count destMax) value)
  return if destMax < count then .erange else .eok

/-- Copy bytes of a constant. -/
def memcpy_s (dest : Pointer) (destMax : Nat) (source : List UInt8)
    (count : Nat) : Run Errno := do
  if destMax = 0 then return .erange
  if destMax < count then
    storeBytes dest (List.replicate destMax 0)
    return .erange
  if source.length < count then throw .outside else
    storeBytes dest (source.take count)
    return .eok

/-- Append at most so many bytes of a string to another. -/
def strncat_s (dest : Pointer) (destMax : Nat) (source : Pointer)
    (count : Nat) : Run Errno := do
  let destLen ← strnlen dest destMax
  if destLen = destMax then return .einval
  let sourceLen ← strnlen source count
  if destMax ≤ destLen + sourceLen then
    storeBytes dest [0]
    return .erange
  let appended ← loadBytes source sourceLen
  storeBytes (dest.add destLen) (appended ++ [0])
  return .eok

/-- Copy at most so many bytes of a string to an array of its own; answers the
string that the array has then. -/
def strncpy_s (destMax : Nat) (source : Pointer) (count : Nat) :
    Run (Option (List UInt8)) := do
  let sourceLen ← strnlen source (min count destMax)
  if destMax ≤ sourceLen then return none
  return some (← loadBytes source sourceLen)

section Bytes

variable {front behind stored : List UInt8} {number : Nat}

/-- Storing over zeros behind what is there. -/
theorem overwrite_zeros :
    overwrite (front ++ List.replicate number 0) front.length stored =
      front ++ stored ++ List.replicate (number - stored.length) 0 := by
  simp [overwrite, List.drop_append]

theorem slice_behind :
    slice (front ++ behind) front.length number = behind.take number := by
  simp [slice]

/-- A string is read up to the first zero. -/
theorem takeWhile_string {string : List UInt8} (whole : 0 ∉ string)
    (more : 0 < number) :
    (string ++ List.replicate number 0).takeWhile (· ≠ 0) = string := by
  obtain ⟨rest, rfl⟩ := Nat.exists_eq_add_of_lt more
  have kept : ∀ byte ∈ string, (decide (byte ≠ 0)) = true := by
    intro byte member
    rw [decide_eq_true_eq]
    rintro rfl
    exact whole member
  rw [List.takeWhile_append_of_pos kept, Nat.zero_add, List.replicate_succ,
    List.takeWhile_cons_of_neg (by simp), List.append_nil]

end Bytes

section Runs

variable {α β : Type} {run : Run α} {next : α → Run β} {answer : α}
  {blocks later : Blocks} {bytes stored : List UInt8} {pointer : Pointer}
  {number : Nat}

/-- What follows a call goes on with its answer. -/
theorem bind_of_ok (ran : run blocks = .ok (answer, later)) :
    (run >>= next) blocks = next answer later := by
  simp only [bind, StateT.bind, Except.bind, ran]

theorem map_of_ok {change : α → β} (ran : run blocks = .ok (answer, later)) :
    (change <$> run) blocks = .ok (change answer, later) := by
  simp only [Functor.map, StateT.map, bind, Except.bind, ran, pure, Except.pure]

theorem pure_run : (pure answer : Run α) blocks = .ok (answer, blocks) := rfl

theorem malloc_none {allocator : Allocator} (found : allocator number = none) :
    malloc allocator number blocks = .ok (none, blocks) := by
  simp only [malloc, found, pure_run]

theorem malloc_some {allocator : Allocator} {room : Vector UInt8 number}
    (found : allocator number = some room) :
    malloc allocator number blocks =
      .ok (some ⟨blocks.length, 0⟩, blocks ++ [some room.toList]) := by
  simp only [malloc, found]
  exact map_of_ok rfl

variable (held : blocks[pointer.block]? = some (some bytes))
include held

theorem content_ok : content pointer.block blocks = .ok (bytes, blocks) := by
  simp only [content, held]

theorem loadBytes_ok (inside : pointer.offset + number ≤ bytes.length) :
    loadBytes pointer number blocks =
      .ok (slice bytes pointer.offset number, blocks) := by
  rw [loadBytes, bind_of_ok (content_ok held), if_pos inside, pure_run]

theorem load_ok {byte : UInt8} (found : bytes[pointer.offset]? = some byte) :
    load pointer blocks = .ok (byte, blocks) := by
  rw [load, bind_of_ok (content_ok held)]
  simp only [found, pure_run]

theorem storeBytes_ok (inside : pointer.offset + stored.length ≤ bytes.length) :
    storeBytes pointer stored blocks = .ok ((), blocks.set pointer.block
      (some (overwrite bytes pointer.offset stored))) := by
  rw [storeBytes, bind_of_ok (content_ok held), if_pos inside]
  rfl

theorem release_ok : release pointer blocks =
    .ok ((), blocks.set pointer.block none) := by
  rw [release, bind_of_ok (content_ok held)]
  rfl

/-- The length of a string that has enough bytes behind it. -/
theorem strnlen_ok {limit : Nat}
    (inside : pointer.offset + limit ≤ bytes.length) :
    strnlen pointer limit blocks = .ok
      (((slice bytes pointer.offset limit).takeWhile (· ≠ 0)).length,
        blocks) := by
  induction limit generalizing pointer with
  | zero => simp [strnlen, slice, pure_run]
  | succ limit ih =>
      have first : pointer.offset < bytes.length := by omega
      have split : slice bytes pointer.offset (limit + 1) =
          bytes[pointer.offset] :: slice bytes (pointer.offset + 1) limit := by
        rw [slice, slice, List.drop_eq_getElem_cons first, List.take_succ_cons]
      rw [strnlen, bind_of_ok (load_ok held (List.getElem?_eq_getElem first)),
        split]
      by_cases zero : bytes[pointer.offset] = 0
      · simp [zero, pure_run]
      · have insideRest : (pointer.add 1).offset + limit ≤ bytes.length := by
          simp only [Pointer.add]
          omega
        have rest : strnlen (pointer.add 1) limit blocks = _ :=
          ih held insideRest
        rw [if_neg zero, bind_of_ok rest]
        simp [zero, pure_run, Pointer.add]

theorem memcpy_s_ok {source : List UInt8} {destMax count : Nat}
    (some : 0 < destMax) (room : count ≤ destMax)
    (whole : count ≤ source.length)
    (inside : pointer.offset + count ≤ bytes.length) :
    memcpy_s pointer destMax source count blocks = .ok (.eok,
      blocks.set pointer.block
        (.some (overwrite bytes pointer.offset (source.take count)))) := by
  have copied : storeBytes pointer (source.take count) blocks = _ :=
    storeBytes_ok held (by rwa [List.length_take, Nat.min_eq_left whole])
  rw [memcpy_s, if_neg (by omega), if_neg (by omega), if_neg (by omega),
    bind_of_ok copied, pure_run]

/-- A block that is set as a whole. -/
theorem memset_s_ok {value : UInt8} (start : pointer.offset = 0)
    (whole : bytes.length = number) :
    ∃ errno, memset_s pointer number value number blocks = .ok (errno,
      blocks.set pointer.block (some (List.replicate number value))) := by
  rw [memset_s]
  by_cases empty : number = 0
  · obtain rfl : bytes = [] := List.length_eq_zero_iff.mp (whole.trans empty)
    rw [if_pos empty, empty, List.replicate_zero]
    obtain ⟨known, found⟩ := List.getElem?_eq_some_iff.mp held
    rw [← found, List.set_getElem_self]
    exact ⟨.erange, rfl⟩
  · have stored : storeBytes pointer (List.replicate (min number number) value)
        blocks = _ := storeBytes_ok held (by simp [start, whole])
    rw [if_neg empty, bind_of_ok stored, start, overwrite, ← whole]
    exact ⟨.eok, by simp [pure_run]⟩

/-- A string that fits into the array is copied as a whole. -/
theorem strncpy_s_ok {destMax count : Nat} {string : List UInt8}
    (inside : pointer.offset + min count destMax ≤ bytes.length)
    (read : (slice bytes pointer.offset (min count destMax)).takeWhile (· ≠ 0) =
      string) (fits : string.length < destMax) :
    strncpy_s destMax pointer count blocks = .ok (some string, blocks) := by
  have begins : string <+: bytes.drop pointer.offset := by
    rw [← read]
    exact (List.takeWhile_prefix _).trans (List.take_prefix _ _)
  have short : string.length ≤ min count destMax := by
    rw [← read]
    exact Nat.le_trans (List.takeWhile_prefix _).length_le
      (List.length_take_le _ _)
  have copied : slice bytes pointer.offset string.length = string :=
    (List.prefix_iff_eq_take.mp begins).symm
  have first := strnlen_ok held inside
  have second : loadBytes pointer string.length blocks = _ :=
    loadBytes_ok held (by omega)
  rw [read] at first
  rw [copied] at second
  rw [strncpy_s, bind_of_ok first, if_neg (by omega), bind_of_ok second]
  rfl

variable {source : Pointer} {sourceBytes : List UInt8}
  (heldSource : blocks[source.block]? = some (some sourceBytes))
include heldSource

/-- A string is appended that is read up to its end, with a zero behind it. -/
theorem strncat_s_ok {destMax count : Nat} {string appended : List UInt8}
    (room : pointer.offset + destMax ≤ bytes.length)
    (inside : source.offset + count ≤ sourceBytes.length)
    (there : (slice bytes pointer.offset destMax).takeWhile (· ≠ 0) = string)
    (read : (slice sourceBytes source.offset count).takeWhile (· ≠ 0) =
      appended)
    (fits : string.length + appended.length < destMax) :
    strncat_s pointer destMax source count blocks = .ok (.eok,
      blocks.set pointer.block (some (overwrite bytes
        (pointer.offset + string.length) (appended ++ [0])))) := by
  have begins : appended <+: sourceBytes.drop source.offset := by
    rw [← read]
    exact (List.takeWhile_prefix _).trans (List.take_prefix _ _)
  have short : appended.length ≤ count := by
    rw [← read]
    exact Nat.le_trans (List.takeWhile_prefix _).length_le
      (List.length_take_le _ _)
  have copied : slice sourceBytes source.offset appended.length = appended :=
    (List.prefix_iff_eq_take.mp begins).symm
  have first := strnlen_ok held room
  have second := strnlen_ok heldSource inside
  have third : loadBytes source appended.length blocks = _ :=
    loadBytes_ok heldSource (by omega)
  have stored : storeBytes (pointer.add string.length) (appended ++ [0]) blocks =
      _ := storeBytes_ok held (by
    simp only [Pointer.add, List.length_append, List.length_singleton]
    omega)
  rw [there] at first
  rw [read] at second
  rw [copied] at third
  rw [strncat_s, bind_of_ok first, if_neg (by omega), bind_of_ok second,
    if_neg (by omega), bind_of_ok third, bind_of_ok stored]
  rfl

end Runs

end Memory
