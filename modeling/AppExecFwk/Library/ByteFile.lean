import Mathlib.Algebra.Group.Nat.Defs
import Mathlib.Tactic.Common

/-!
# Files of bytes

Reading a regular file through a stream: seek to a position, read one item of a
given size or as many bytes as there are.  Numbers are stored with their lowest
byte first.
-/

namespace ByteFile

/-- The bytes from an offset on, at most as many as a length. -/
def slice (bytes : List UInt8) (offset length : Nat) : List UInt8 :=
  (bytes.drop offset).take length

/-- The number that bytes stand for, the lowest byte first. -/
def littleEndian : List UInt8 → Nat
  | [] => 0
  | byte :: rest => byte.toNat + 256 * littleEndian rest

/-- The 16 bit number at an offset. -/
def uint16At (bytes : List UInt8) (offset : Nat) : UInt16 :=
  UInt16.ofNat (littleEndian (slice bytes offset 2))

/-- The 32 bit number at an offset. -/
def uint32At (bytes : List UInt8) (offset : Nat) : UInt32 :=
  UInt32.ofNat (littleEndian (slice bytes offset 4))

/-- A regular file; its offsets are signed numbers of 64 bits. -/
structure RegularFile where
  bytes : List UInt8
  length_lt : bytes.length < 2 ^ 63

/-- An open file and the position it is read from next. -/
structure Stream where
  file : RegularFile
  position : Nat := 0

namespace Stream

/-- Go to a position, which fails if it is negative as a signed number. -/
def seek (stream : Stream) (offset : UInt64) : Option Stream :=
  if offset.toNat < 2 ^ 63 then some { stream with position := offset.toNat }
  else none

/-- Read one item of a size.  An item without bytes counts as not read. -/
def readItem (stream : Stream) (size : Nat) : Option (List UInt8 × Stream) :=
  if 0 < size ∧ stream.position + size ≤ stream.file.bytes.length then
    some (slice stream.file.bytes stream.position size,
      { stream with position := stream.position + size })
  else none

/-- The next bytes, as many as there are up to a number. -/
def available (stream : Stream) (number : Nat) : List UInt8 :=
  slice stream.file.bytes stream.position number

/-- Read as many bytes as there are, up to a number. -/
def readBytes (stream : Stream) (number : Nat) : List UInt8 × Stream :=
  let read := stream.available number
  (read, { stream with position := stream.position + read.length })

end Stream

section Slices

variable {bytes : List UInt8} {offset length : Nat}

@[simp]
theorem slice_zero : slice bytes offset 0 = [] := by
  simp [slice]

theorem length_slice :
    (slice bytes offset length).length = min length (bytes.length - offset) := by
  simp [slice]

/-- A slice that ends inside the bytes has its full length. -/
theorem length_slice_of_le (inside : offset + length ≤ bytes.length) :
    (slice bytes offset length).length = length := by
  rw [length_slice]
  omega

/-- A slice of a slice, if it does not reach over the end. -/
theorem slice_slice {inner innerLength : Nat}
    (inside : inner + innerLength ≤ length) :
    slice (slice bytes offset length) inner innerLength =
      slice bytes (offset + inner) innerLength := by
  unfold slice
  rw [List.drop_take, List.take_take, List.drop_drop, Nat.min_eq_left]
  omega

/-- Two slices next to each other make up one. -/
theorem slice_append {more : Nat} :
    slice bytes offset length ++ slice bytes (offset + length) more =
      slice bytes offset (length + more) := by
  unfold slice
  rw [List.take_add, List.drop_drop]

end Slices

namespace Stream

variable {stream next : Stream}

theorem length_readBytes (stream : Stream) (number : Nat) :
    (stream.readBytes number).1.length =
      min number (stream.file.bytes.length - stream.position) :=
  length_slice

theorem seek_eq_some {offset : UInt64} :
    stream.seek offset = some next ↔
      offset.toNat < 2 ^ 63 ∧ next = ⟨stream.file, offset.toNat⟩ := by
  unfold seek
  split
  · next bound =>
      rw [Option.some.injEq]
      exact ⟨fun same => ⟨bound, same.symm⟩, fun spec => spec.2.symm⟩
  · next bound => exact ⟨nofun, fun spec => absurd spec.1 bound⟩

theorem length_available_le (stream : Stream) (number : Nat) :
    (stream.available number).length ≤ number := by
  rw [available, length_slice]
  exact Nat.min_le_left _ _

/-- What is there is the bytes that are read first and what is there then. -/
theorem available_eq_append (stream : Stream) {number length : Nat}
    (le : number ≤ length) :
    stream.available length = (stream.readBytes number).1 ++
      (stream.readBytes number).2.available
        (length - (stream.readBytes number).1.length) := by
  have atMost : (stream.readBytes number).1.length ≤ number :=
    stream.length_available_le number
  have same : (stream.readBytes number).1 = slice stream.file.bytes
      stream.position (stream.readBytes number).1.length := by
    simp only [readBytes, available, slice, List.length_take,
      List.take_eq_take_iff]
    omega
  have sum : (stream.readBytes number).1.length +
      (length - (stream.readBytes number).1.length) = length := by omega
  calc
    _ = slice stream.file.bytes stream.position
            (stream.readBytes number).1.length ++
          slice stream.file.bytes
            (stream.position + (stream.readBytes number).1.length)
            (length - (stream.readBytes number).1.length) := by
        rw [slice_append, sum, available]
    _ = _ := by
        rw [← same]
        rfl

/-- Nothing is read only at the end of the file. -/
theorem available_eq_nil (stream : Stream) {number length : Nat}
    (positive : 0 < number)
    (nothing : (stream.readBytes number).1.length = 0) :
    stream.available length = [] := by
  rw [length_readBytes] at nothing
  rw [← List.length_eq_zero_iff, available, length_slice]
  omega

theorem readItem_eq_some {size : Nat} {read : List UInt8} :
    stream.readItem size = some (read, next) ↔
      0 < size ∧ stream.position + size ≤ stream.file.bytes.length ∧
        read = slice stream.file.bytes stream.position size ∧
        next = ⟨stream.file, stream.position + size⟩ := by
  unfold readItem
  split
  · next inside =>
      simp only [Option.some.injEq, Prod.mk.injEq, inside.1, inside.2, true_and]
      exact and_congr eq_comm eq_comm
  · next outside =>
      simp only [false_iff, reduceCtorEq]
      rintro ⟨positive, inside, -⟩
      exact outside ⟨positive, inside⟩

end Stream

end ByteFile
