import AppExecFwk.Archive.ZipExtract
import AppExecFwk.Info.ErrCode
import AppExecFwk.Library.Memory
import Mathlib.Data.List.TakeWhile

/-!
# The system capabilities of a HAP

The entry `rpcid.sc` names the system capabilities that a HAP requires.  A
decoder in C copies the names out of slots of fixed width into wider slots, each
behind the same prefix; a function in C++ splits what it gets by that width.
-/

namespace AppExecFwk

open Memory
open ByteFile (slice littleEndian)

def apiVersionType : UInt16 := 1
def appSyscapType : UInt16 := 2
def syscapPrefixNameLen : Nat := 18
def singleFeatLength : Nat := 32 * 8
def singleSyscapLength : Nat := singleFeatLength + 17

/-- `SystemCapability.`, without the zero behind it. -/
def syscapPrefix : ByteString :=
  "SystemCapability.".toUTF8.toList

/-- The prefix as the array of the source, which ends in a zero. -/
def syscapPrefixName : List UInt8 :=
  syscapPrefix ++ [0]

/-- The head of the buffer, a number whose lower 15 bits are the version. -/
structure RpcidHead where
  apiVersion : Nat
  apiVersionType : UInt16

def RpcidHead.ofUnit (unit : UInt16) : RpcidHead where
  apiVersion := unit.toNat % 2 ^ 15
  apiVersionType := UInt16.ofNat (unit.toNat / 2 ^ 15)

/-- The two bytes of a number in the other order. -/
def ntohs (number : UInt16) : UInt16 :=
  UInt16.ofNat (number.toNat % 256 * 256 + number.toNat / 256)

def loadUInt16 (pointer : Pointer) : Run UInt16 := do
  let stored ← loadBytes pointer 2
  return UInt16.ofNat (littleEndian stored)

/-- What the decoder returns and writes to its arguments. -/
structure DecodeResult where
  ret : Int32
  syscapSetBuf : Option Pointer
  syscapSetLength : UInt32
  deriving DecidableEq

def DecodeResult.failed : DecodeResult where
  ret := -1
  syscapSetBuf := none
  syscapSetLength := 0

/-- The loop of the decoder over the slots from number `i` on. -/
def copySlots (sysCapArrayPtr syscapBuf : Pointer) :
    Nat → Nat → Pointer → Run Bool
  | 0, _, _ => return true
  | rounds + 1, i, bufferPtr => do
      let last ← load (sysCapArrayPtr.add ((i + 1) * singleFeatLength - 1))
      if last ≠ 0 then
        free (some syscapBuf)
        return false
      let ret ← memcpy_s bufferPtr singleSyscapLength syscapPrefixName
        syscapPrefixNameLen
      if ret ≠ .eok then
        free (some syscapBuf)
        return false
      let ret ← strncat_s bufferPtr singleSyscapLength
        (sysCapArrayPtr.add (i * singleFeatLength)) singleFeatLength
      if ret ≠ .eok then
        free (some syscapBuf)
        return false
      copySlots sysCapArrayPtr syscapBuf rounds (i + 1)
        (bufferPtr.add singleSyscapLength)

def rpcidStreamDecodeToBuffer (allocator : Allocator)
    (contextBuffer : Option Pointer) (bufferLen : UInt32) : Run DecodeResult := do
  match contextBuffer with
  | none => return .failed
  | some contextBuffer =>
      let contextBufferTail := contextBuffer.add bufferLen.toNat
      let sysCapArrayPtr := contextBuffer.add (2 + appSyscapType.toNat * 2)
      if contextBufferTail.offset ≤ sysCapArrayPtr.offset then
        return .failed
      let headPtr := RpcidHead.ofUnit (← loadUInt16 contextBuffer)
      if headPtr.apiVersionType ≠ apiVersionType then
        return .failed
      let sysCaptype :=
        ntohs (← loadUInt16 (sysCapArrayPtr.sub (appSyscapType.toNat * 2)))
      if sysCaptype ≠ appSyscapType then
        return .failed
      let sysCapLength := (ntohs (← loadUInt16 (sysCapArrayPtr.sub 2))).toNat
      if contextBufferTail.offset < sysCapArrayPtr.offset + sysCapLength then
        return .failed
      if sysCapLength % singleFeatLength ≠ 0 then
        return .failed
      let syscapBufLen := sysCapLength / singleFeatLength * singleSyscapLength
      match ← malloc allocator syscapBufLen with
      | none => return .failed
      | some syscapBuf =>
          let _ ← memset_s syscapBuf syscapBufLen 0 syscapBufLen
          let copied ← copySlots sysCapArrayPtr syscapBuf
            (sysCapLength / singleFeatLength) 0 syscapBuf
          if copied then
            return ⟨0, some syscapBuf, UInt32.ofNat syscapBufLen⟩
          return .failed

/-- The loop of `ParseStr`, with as many rounds as there are whole items from an
index on. -/
def parseItems (buf : Pointer) (itemLen : Nat) :
    Nat → Nat → List ByteString → Run (Bool × List ByteString)
  | 0, _, sysCaps => return (true, sysCaps)
  | rounds + 1, index, sysCaps => do
      match ← strncpy_s itemLen (buf.add index) itemLen with
      | none => return (false, sysCaps)
      | some item =>
          parseItems buf itemLen rounds (index + itemLen)
            (sysCaps ++ [item.take itemLen])

def parseStr (buf : Option Pointer) (itemLen totalLen : Int32)
    (sysCaps : List ByteString) : Run (Bool × List ByteString) := do
  match buf with
  | none => return (false, sysCaps)
  | some buf =>
      if itemLen ≤ 0 ∨ totalLen ≤ 0 then
        return (false, sysCaps)
      parseItems buf itemLen.toNatClampNeg
        (totalLen.toNatClampNeg / itemLen.toNatClampNeg) 0 sysCaps

/-- `rpcid.sc`. -/
def syscapName : ByteString :=
  "rpcid.sc".toUTF8.toList

/-- What `ParseSysCap` does with the bytes of the entry, which it reads into an
array of its own. -/
def parseRpcidStream (allocator : Allocator) (rpcidStream : ByteString)
    (sysCaps : List ByteString) : Run (ErrCode × List ByteString) := do
  let rpcidLen := Int32.ofNat rpcidStream.length
  if rpcidLen < 0 then
    return (ErrCode.parseUnexpected, sysCaps)
  let rpcidBuf ← newBlock (rpcidStream.take rpcidLen.toNatClampNeg)
  let result ← rpcidStreamDecodeToBuffer allocator (some rpcidBuf)
    rpcidLen.toUInt32
  if result.ret ≠ 0 then
    release rpcidBuf
    return (ErrCode.parseRpcidFailed, sysCaps)
  let (parsed, sysCaps) ← parseStr result.syscapSetBuf
    (Int32.ofNat singleSyscapLength) result.syscapSetLength.toInt32 sysCaps
  free result.syscapSetBuf
  release rpcidBuf
  return (if parsed then ErrCode.ok else ErrCode.parseRpcidFailed, sysCaps)

/-- The capabilities that the archive at a path requires. -/
def parseSysCap (allocator : Allocator) (archives : FileSystem)
    (pathName : ByteString)
    (extraction : Extraction (BundleExtractor.init archives pathName).2)
    (sysCaps : List ByteString) : Run (ErrCode × List ByteString) := do
  let (opened, zip) := BundleExtractor.init archives pathName
  if !opened then
    return (ErrCode.parseUnexpected, sysCaps)
  if (zip.getEntry syscapName).isNone then
    return (ErrCode.ok, sysCaps)
  let (extracted, rpcidStream) := extraction.result syscapName
  if !extracted then
    return (ErrCode.parseRpcidFailed, sysCaps)
  parseRpcidStream allocator rpcidStream sysCaps

section Slots

/-- Slots of the width of the encoding, from an offset on. -/
def slots (bytes : List UInt8) (start : Nat) : Nat → List (List UInt8)
  | 0 => []
  | number + 1 =>
      slice bytes start singleFeatLength ::
        slots bytes (start + singleFeatLength) number

/-- The name in a slot. -/
def slotName (slot : List UInt8) : ByteString :=
  slot.takeWhile (· ≠ 0)

def EndsInZero (slot : List UInt8) : Prop :=
  slot[singleFeatLength - 1]? = some 0

instance (slot : List UInt8) : Decidable (EndsInZero slot) :=
  inferInstanceAs (Decidable (_ = _))

/-- What the decoder makes of a slot. -/
def syscapItem (slot : List UInt8) : List UInt8 :=
  syscapPrefix ++ slotName slot ++
    List.replicate (singleFeatLength - (slotName slot).length) 0

theorem length_syscapPrefix : syscapPrefix.length = 17 := by
  decide +kernel

theorem zero_notMem_syscapPrefix : 0 ∉ syscapPrefix := by
  decide +kernel

variable {slot : List UInt8}

theorem zero_notMem_slotName : 0 ∉ slotName slot := by
  intro member
  simpa using List.mem_takeWhile_imp member

theorem EndsInZero.length_slotName (ends : EndsInZero slot) :
    (slotName slot).length < singleFeatLength := by
  by_contra long
  have inside : singleFeatLength - 1 < (slotName slot).length := by
    simp only [singleFeatLength] at long ⊢
    omega
  have begins : slotName slot <+: slot := List.takeWhile_prefix _
  have same := begins.getElem inside
  rw [EndsInZero, List.getElem?_eq_some_iff] at ends
  obtain ⟨_, zero⟩ := ends
  rw [zero] at same
  have none : 0 ∉ slotName slot := zero_notMem_slotName
  apply none
  rw [← same]
  exact List.getElem_mem inside

theorem length_syscapItem (ends : EndsInZero slot) :
    (syscapItem slot).length = singleSyscapLength := by
  have short := ends.length_slotName
  simp only [syscapItem, List.length_append, length_syscapPrefix,
    List.length_replicate, singleFeatLength, singleSyscapLength] at short ⊢
  omega

end Slots

section Copying

variable {memory blocks : Blocks} {bytes written : List UInt8}

/-- The block that was allocated last. -/
theorem getElem?_last : (memory ++ [some bytes])[memory.length]? =
    some (some bytes) := by
  simp

theorem set_last (value : Option (List UInt8)) :
    (memory ++ [some bytes]).set memory.length value = memory ++ [value] := by
  simp

variable {number : Nat}

variable (memory written) in
/-- The prefix is copied with its zero, over zeros. -/
theorem copyPrefix_ok (room : singleSyscapLength ≤ number) :
    memcpy_s ⟨memory.length, written.length⟩ singleSyscapLength
        syscapPrefixName syscapPrefixNameLen
        (memory ++ [some (written ++ List.replicate number 0)]) =
      .ok (.eok, memory ++ [some (written ++ syscapPrefix ++
        List.replicate (number - 17) 0)]) := by
  have lengthName : syscapPrefixName.length = 18 := by
    rw [syscapPrefixName, List.length_append, length_syscapPrefix]
    rfl
  simp only [singleSyscapLength, singleFeatLength] at room
  have copied : memcpy_s ⟨memory.length, written.length⟩ singleSyscapLength
      syscapPrefixName syscapPrefixNameLen
      (memory ++ [some (written ++ List.replicate number 0)]) = _ :=
    memcpy_s_ok getElem?_last (by decide) (by decide)
      (by rw [lengthName, syscapPrefixNameLen]) (by
        simp only [List.length_append, List.length_replicate,
          syscapPrefixNameLen]
        omega)
  have whole : syscapPrefixName.take syscapPrefixNameLen = syscapPrefixName :=
    List.take_of_length_le (by rw [lengthName, syscapPrefixNameLen])
  have zeros : [0] ++ List.replicate (number - 18) (0 : UInt8) =
      List.replicate (number - 17) 0 := by
    have more : number - 17 = number - 18 + 1 := by omega
    rw [more, List.replicate_succ, List.singleton_append]
  rw [copied, set_last, whole, overwrite_zeros, lengthName, syscapPrefixName,
    ← zeros]
  simp only [List.append_assoc]

variable {source : Pointer} {slot : List UInt8}
  (held : memory[source.block]? = some (some bytes))
include held

/-- What was held before a block was allocated is held still. -/
theorem getElem?_before (last : Option (List UInt8)) :
    (memory ++ [last])[source.block]? = some (some bytes) := by
  have inMemory := (List.getElem?_eq_some_iff.mp held).1
  rw [List.getElem?_append_left inMemory, held]

variable (written) in
/-- The name of a slot is appended to the prefix. -/
theorem copyName_ok (room : singleSyscapLength ≤ number)
    (inside : source.offset + singleFeatLength ≤ bytes.length)
    (taken : slice bytes source.offset singleFeatLength = slot)
    (ends : EndsInZero slot) :
    strncat_s ⟨memory.length, written.length⟩ singleSyscapLength source
        singleFeatLength (memory ++ [some (written ++ syscapPrefix ++
          List.replicate (number - 17) 0)]) =
      .ok (.eok, memory ++ [some (written ++ syscapItem slot ++
        List.replicate (number - singleSyscapLength) 0)]) := by
  have short := ends.length_slotName
  simp only [singleSyscapLength, singleFeatLength] at room short
  have there : (slice (written ++ syscapPrefix ++
      List.replicate (number - 17) 0) written.length
        singleSyscapLength).takeWhile (· ≠ 0) = syscapPrefix := by
    have front : (syscapPrefix ++ List.replicate (number - 17) 0).take
        singleSyscapLength = syscapPrefix ++ List.replicate 256 0 := by
      rw [List.take_append, length_syscapPrefix, List.take_of_length_le
        (by rw [length_syscapPrefix]; decide), List.take_replicate]
      congr 2
      simp only [singleSyscapLength, singleFeatLength]
      omega
    rw [List.append_assoc, slice_behind, front]
    exact takeWhile_string zero_notMem_syscapPrefix (by decide)
  have read : (slice bytes source.offset singleFeatLength).takeWhile (· ≠ 0) =
      slotName slot := by
    rw [taken, slotName]
  have roomInBlock : written.length + singleSyscapLength ≤
      (written ++ syscapPrefix ++
        List.replicate (number - 17) (0 : UInt8)).length := by
    simp only [List.length_append, List.length_replicate,
      length_syscapPrefix, singleSyscapLength, singleFeatLength]
    omega
  have fits : syscapPrefix.length + (slotName slot).length <
      singleSyscapLength := by
    simp only [length_syscapPrefix, singleSyscapLength, singleFeatLength]
    omega
  have appended : strncat_s ⟨memory.length, written.length⟩ singleSyscapLength
      source singleFeatLength (memory ++ [some (written ++ syscapPrefix ++
        List.replicate (number - 17) 0)]) = _ :=
    strncat_s_ok getElem?_last (getElem?_before held _) roomInBlock inside there
      read fits
  have behind : written.length + syscapPrefix.length =
      (written ++ syscapPrefix).length := by
    rw [List.length_append]
  have zeros : [0] ++ List.replicate
        (number - 17 - (slotName slot ++ [0]).length) (0 : UInt8) =
      List.replicate (singleFeatLength - (slotName slot).length) 0 ++
        List.replicate (number - singleSyscapLength) 0 := by
    have count : number - 17 - ((slotName slot).length + 1) + 1 =
        singleFeatLength - (slotName slot).length +
          (number - singleSyscapLength) := by
      simp only [singleSyscapLength, singleFeatLength]
      omega
    rw [List.singleton_append, ← List.replicate_succ,
      List.replicate_append_replicate, List.length_append,
      List.length_singleton, count]
  simp only at appended
  rw [appended, set_last, behind, overwrite_zeros, syscapItem]
  simp only [List.append_assoc] at zeros ⊢
  rw [zeros]

end Copying

section Copying

variable {memory blocks : Blocks} {bytes written : List UInt8}
  {sysCapArrayPtr : Pointer}
  (held : memory[sysCapArrayPtr.block]? = some (some bytes))
include held

/-- The loop writes one item for each slot behind what is written, or gives the
block back when a slot does not end in a zero. -/
theorem copySlots_ok {rounds i : Nat}
    (inside : sysCapArrayPtr.offset + (i + rounds) * singleFeatLength ≤
      bytes.length)
    (sofar : written.length = i * singleSyscapLength) :
    copySlots sysCapArrayPtr ⟨memory.length, 0⟩ rounds i
        ⟨memory.length, i * singleSyscapLength⟩
        (memory ++ [some (written ++
          List.replicate (rounds * singleSyscapLength) 0)]) =
      .ok (if ∀ slot ∈ slots bytes
            (sysCapArrayPtr.offset + i * singleFeatLength) rounds,
          EndsInZero slot then
        (true, memory ++ [some (written ++ (slots bytes
          (sysCapArrayPtr.offset + i * singleFeatLength) rounds).flatMap
            syscapItem)])
      else (false, memory ++ [none])) := by
  induction rounds generalizing i written with
  | zero => simp [copySlots, slots, pure_run]
  | succ rounds ih =>
      have start : sysCapArrayPtr.offset + i * singleFeatLength +
          singleFeatLength ≤ bytes.length := by
        simp only [singleFeatLength] at inside ⊢
        omega
      have insideRest : sysCapArrayPtr.offset +
          (i + 1 + rounds) * singleFeatLength ≤ bytes.length := by
        rwa [Nat.add_assoc, Nat.add_comm 1 rounds]
      have lastInside : sysCapArrayPtr.offset +
          ((i + 1) * singleFeatLength - 1) < bytes.length := by
        simp only [singleFeatLength] at start ⊢
        omega
      have split : slots bytes (sysCapArrayPtr.offset + i * singleFeatLength)
          (rounds + 1) =
            slice bytes (sysCapArrayPtr.offset + i * singleFeatLength)
              singleFeatLength ::
            slots bytes (sysCapArrayPtr.offset + (i + 1) * singleFeatLength)
              rounds := by
        rw [slots, Nat.add_assoc, ← Nat.succ_mul]
      have ending : EndsInZero (slice bytes
          (sysCapArrayPtr.offset + i * singleFeatLength) singleFeatLength) ↔
            bytes[sysCapArrayPtr.offset +
              ((i + 1) * singleFeatLength - 1)] = 0 := by
        have place : sysCapArrayPtr.offset + i * singleFeatLength +
            (singleFeatLength - 1) =
              sysCapArrayPtr.offset + ((i + 1) * singleFeatLength - 1) := by
          simp only [singleFeatLength]
          omega
        rw [EndsInZero, slice, List.getElem?_take_of_lt (by decide),
          List.getElem?_drop, place, List.getElem?_eq_getElem lastInside,
          Option.some.injEq]
      have heldLast : (memory ++ [some (written ++
          List.replicate ((rounds + 1) * singleSyscapLength) 0)])[
            (sysCapArrayPtr.add ((i + 1) * singleFeatLength - 1)).block]? =
              some (some bytes) :=
        getElem?_before held _
      have loaded := load_ok heldLast (List.getElem?_eq_getElem lastInside)
      rw [copySlots, bind_of_ok loaded, split]
      simp only [List.forall_mem_cons, ending]
      by_cases zero : bytes[sysCapArrayPtr.offset +
          ((i + 1) * singleFeatLength - 1)] = 0
      · have room : singleSyscapLength ≤ (rounds + 1) * singleSyscapLength :=
          Nat.le_mul_of_pos_left _ (Nat.succ_pos _)
        have ends := ending.mpr zero
        have heldSource : memory[
            (sysCapArrayPtr.add (i * singleFeatLength)).block]? =
              some (some bytes) := held
        have first := copyPrefix_ok memory written room
        have second := copyName_ok written heldSource room start rfl ends
        have length : (written ++ syscapItem (slice bytes
            (sysCapArrayPtr.offset + i * singleFeatLength)
              singleFeatLength)).length = (i + 1) * singleSyscapLength := by
          rw [List.length_append, length_syscapItem ends, sofar, Nat.succ_mul]
        have left : (rounds + 1) * singleSyscapLength - singleSyscapLength =
            rounds * singleSyscapLength := by
          rw [Nat.succ_mul, Nat.add_sub_cancel]
        have rest := ih insideRest length
        rw [left] at second
        rw [sofar] at first second
        rw [if_neg (not_not.mpr zero), bind_of_ok first]
        simp only [ne_eq, not_true_eq_false, if_false]
        rw [bind_of_ok second]
        simp only [not_true_eq_false, if_false, Pointer.add, ← Nat.succ_mul]
        rw [rest]
        simp only [zero, true_and, List.flatMap_cons, List.append_assoc]
      · have heldNew : (memory ++ [some (written ++
            List.replicate ((rounds + 1) * singleSyscapLength) 0)])[
              (⟨memory.length, 0⟩ : Pointer).block]? = _ :=
          getElem?_last
        have freed := release_ok heldNew
        rw [set_last] at freed
        rw [if_pos zero, free, bind_of_ok freed, pure_run]
        simp only [zero, false_and, if_false]

end Copying

section Decoding

/-- The number of slots that the head of a buffer gives, if the buffer is of the
right type and the slots are whole and lie in it. -/
def slotCount : List UInt8 → Option Nat
  | _ :: versionHigh :: typeHigh :: typeLow :: lengthHigh :: lengthLow :: rest =>
      if rest ≠ [] ∧ 128 ≤ versionHigh ∧ typeHigh = 0 ∧ typeLow = 2 ∧
          lengthLow = 0 ∧ lengthHigh.toNat * singleFeatLength ≤ rest.length then
        some lengthHigh.toNat
      else none
  | _ => none

variable {memory : Blocks} {buffer : List UInt8}

/-- A number whose higher byte is stored first. -/
theorem loadUInt16_ok {pointer : Pointer} {first second : UInt8}
    (held : memory[pointer.block]? = some (some buffer))
    (stored : slice buffer pointer.offset 2 = [first, second]) :
    loadUInt16 pointer memory =
      .ok (UInt16.ofNat (first.toNat + 256 * second.toNat), memory) := by
  have inside : pointer.offset + 2 ≤ buffer.length := by
    have length := congrArg List.length stored
    rw [ByteFile.length_slice] at length
    simp only [List.length_cons, List.length_nil] at length
    omega
  rw [loadUInt16, bind_of_ok (loadBytes_ok held inside), stored, pure_run]
  simp [littleEndian]

theorem ntohs_toNat (first second : UInt8) :
    (ntohs (UInt16.ofNat (first.toNat + 256 * second.toNat))).toNat =
      256 * first.toNat + second.toNat := by
  have firstLt := first.toNat_lt
  have secondLt := second.toNat_lt
  have whole : (first.toNat + 256 * second.toNat) % 2 ^ 16 =
      first.toNat + 256 * second.toNat :=
    Nat.mod_eq_of_lt (by omega)
  have low : (first.toNat + 256 * second.toNat) % 256 = first.toNat := by
    omega
  have high : (first.toNat + 256 * second.toNat) / 256 = second.toNat := by
    omega
  rw [ntohs, UInt16.toNat_ofNat', UInt16.toNat_ofNat', whole, low, high,
    Nat.mod_eq_of_lt (by omega), Nat.mul_comm]

theorem apiVersionType_ofUnit (first second : UInt8) :
    (RpcidHead.ofUnit (UInt16.ofNat
        (first.toNat + 256 * second.toNat))).apiVersionType = apiVersionType ↔
      128 ≤ second := by
  have firstLt := first.toNat_lt
  have secondLt := second.toNat_lt
  simp only [RpcidHead.ofUnit, apiVersionType, ← UInt16.toNat_inj,
    UInt16.toNat_ofNat', UInt8.le_iff_toNat_le]
  simp
  omega

theorem ntohs_eq_appSyscapType (first second : UInt8) :
    ntohs (UInt16.ofNat (first.toNat + 256 * second.toNat)) = appSyscapType ↔
      first = 0 ∧ second = 2 := by
  have firstLt := first.toNat_lt
  have secondLt := second.toNat_lt
  rw [← UInt16.toNat_inj, ntohs_toNat, appSyscapType, ← UInt8.toNat_inj,
    ← UInt8.toNat_inj]
  simp
  omega

theorem exists_head (long : 6 < buffer.length) :
    ∃ versionLow versionHigh typeHigh typeLow lengthHigh lengthLow rest,
      buffer = versionLow :: versionHigh :: typeHigh :: typeLow ::
        lengthHigh :: lengthLow :: rest ∧ rest ≠ [] := by
  match buffer, long with
  | versionLow :: versionHigh :: typeHigh :: typeLow :: lengthHigh ::
      lengthLow :: next :: rest, _ =>
      exact ⟨_, _, _, _, _, _, _, rfl, List.cons_ne_nil _ _⟩

theorem slotCount_of_short (short : buffer.length ≤ 6) :
    slotCount buffer = none := by
  unfold slotCount
  split
  · next rest =>
      rw [if_neg]
      rintro ⟨more, -⟩
      have length := List.length_pos_iff.mpr more
      simp only [List.length_cons] at short
      omega
  · rfl

/-- What the decoder does with a buffer of its own block. -/
theorem rpcidStreamDecodeToBuffer_run (allocator : Allocator) {block : Nat}
    (held : memory[block]? = some (some buffer))
    (short : buffer.length < 2 ^ 32) :
    rpcidStreamDecodeToBuffer allocator (some ⟨block, 0⟩)
        (UInt32.ofNat buffer.length) memory =
      .ok (match slotCount buffer with
        | none => (.failed, memory)
        | some count =>
            if (allocator (count * singleSyscapLength)).isNone then
              (.failed, memory)
            else if ∀ slot ∈ slots buffer 6 count, EndsInZero slot then
              (⟨0, some ⟨memory.length, 0⟩,
                UInt32.ofNat (count * singleSyscapLength)⟩,
                memory ++ [some ((slots buffer 6 count).flatMap syscapItem)])
            else (.failed, memory ++ [none])) := by
  have bufferLen : (UInt32.ofNat buffer.length).toNat = buffer.length :=
    UInt32.toNat_ofNat_of_lt' short
  rw [rpcidStreamDecodeToBuffer]
  have appSyscaps : appSyscapType.toNat = 2 := rfl
  simp only [Pointer.add, Pointer.sub, bufferLen, appSyscaps, Nat.zero_add]
  by_cases long : buffer.length ≤ 6
  · rw [if_pos long, slotCount_of_short long, pure_run]
  obtain ⟨versionLow, versionHigh, typeHigh, typeLow, lengthHigh, lengthLow,
    rest, rfl, more⟩ := exists_head (Nat.lt_of_not_le long)
  rw [if_neg long, bind_of_ok (loadUInt16_ok held rfl)]
  by_cases versioned : 128 ≤ versionHigh
  case neg =>
    rw [if_pos (mt (apiVersionType_ofUnit _ _).mp versioned), pure_run]
    simp [slotCount, versioned]
  rw [if_neg (not_not.mpr ((apiVersionType_ofUnit _ _).mpr versioned)),
    bind_of_ok (loadUInt16_ok held rfl)]
  by_cases typed : typeHigh = 0 ∧ typeLow = 2
  case neg =>
    rw [if_pos (mt (ntohs_eq_appSyscapType _ _).mp typed), pure_run]
    have none : slotCount (versionLow :: versionHigh :: typeHigh :: typeLow ::
        lengthHigh :: lengthLow :: rest) = none := by
      rw [slotCount, if_neg (by tauto)]
    rw [none]
  rw [if_neg (not_not.mpr ((ntohs_eq_appSyscapType _ _).mpr typed)),
    bind_of_ok (loadUInt16_ok held rfl)]
  simp only [ntohs_toNat]
  have lowLt := lengthLow.toNat_lt
  by_cases fits : 256 * lengthHigh.toNat + lengthLow.toNat ≤ rest.length
  case neg =>
    rw [if_pos (by simp only [List.length_cons]; omega), pure_run, slotCount,
      if_neg]
    rintro ⟨-, -, -, -, rfl, inside⟩
    apply fits
    simp only [singleFeatLength] at inside
    simpa [Nat.mul_comm] using inside
  rw [if_neg (by simp only [List.length_cons]; omega)]
  by_cases aligned : lengthLow = 0
  case neg =>
    have unaligned : (256 * lengthHigh.toNat + lengthLow.toNat) %
        singleFeatLength ≠ 0 := by
      have nonzero : lengthLow.toNat ≠ 0 := by
        intro zero
        exact aligned (UInt8.toNat_inj.mp zero)
      simp only [singleFeatLength]
      omega
    rw [if_pos unaligned, pure_run, slotCount, if_neg]
    rintro ⟨-, -, -, -, zero, -⟩
    exact aligned zero
  subst aligned
  have count : slotCount (versionLow :: versionHigh :: typeHigh :: typeLow ::
      lengthHigh :: 0 :: rest) = some lengthHigh.toNat := by
    rw [slotCount, if_pos]
    refine ⟨more, versioned, typed.1, typed.2, rfl, ?_⟩
    rw [Nat.mul_comm]
    exact fits
  have quotient : (256 * lengthHigh.toNat + (0 : UInt8).toNat) /
      singleFeatLength = lengthHigh.toNat :=
    Nat.mul_div_cancel_left _ (by decide)
  have remainder : (256 * lengthHigh.toNat + (0 : UInt8).toNat) %
      singleFeatLength = 0 :=
    Nat.mul_mod_right 256 _
  rw [if_neg (not_not.mpr remainder), quotient, count]
  cases found : allocator (lengthHigh.toNat * singleSyscapLength) with
  | none =>
      rw [bind_of_ok (malloc_none found)]
      simp only [found, Option.isNone_none, if_true]
      rfl
  | some room =>
      have heldNew : (memory ++ [some room.toList])[
          (⟨memory.length, 0⟩ : Pointer).block]? = some (some room.toList) :=
        getElem?_last
      obtain ⟨errno, zeroed⟩ : ∃ errno, memset_s ⟨memory.length, 0⟩
          (lengthHigh.toNat * singleSyscapLength) 0
          (lengthHigh.toNat * singleSyscapLength)
          (memory ++ [some room.toList]) = .ok (errno, _) :=
        memset_s_ok heldNew rfl room.length_toList
      have inside : (⟨block, 6⟩ : Pointer).offset +
          (0 + lengthHigh.toNat) * singleFeatLength ≤
            (versionLow :: versionHigh :: typeHigh :: typeLow :: lengthHigh ::
              0 :: rest).length := by
        have zero : (0 : UInt8).toNat = 0 := rfl
        simp only [List.length_cons, singleFeatLength]
        omega
      have empty : ([] : List UInt8).length = 0 * singleSyscapLength :=
        (Nat.zero_mul _).symm
      have copied := copySlots_ok held inside empty
      simp only [List.nil_append, Nat.zero_mul, Nat.add_zero] at copied
      rw [set_last] at zeroed
      rw [bind_of_ok (malloc_some found)]
      simp only [found, Option.isNone_some]
      rw [bind_of_ok zeroed, if_neg Bool.false_ne_true]
      by_cases ended : ∀ slot ∈ slots (versionLow :: versionHigh :: typeHigh ::
          typeLow :: lengthHigh :: 0 :: rest) 6 lengthHigh.toNat,
            EndsInZero slot
      · rw [if_pos ended] at copied
        rw [bind_of_ok copied, if_pos ended]
        rfl
      · rw [if_neg ended] at copied
        rw [bind_of_ok copied, if_neg ended]
        rfl

end Decoding

section Splitting

variable {memory : Blocks} {buf : Pointer} {front : List UInt8}
  {items : List (List UInt8)}

/-- The capability that a slot names. -/
def sysCapOf (slot : List UInt8) : ByteString :=
  syscapPrefix ++ slotName slot

theorem zero_notMem_sysCapOf {slot : List UInt8} : 0 ∉ sysCapOf slot := by
  rw [sysCapOf, List.mem_append, not_or]
  exact ⟨zero_notMem_syscapPrefix, zero_notMem_slotName⟩

/-- The items are split where the decoder has put them. -/
theorem parseItems_ok {index : Nat} {sysCaps : List ByteString}
    (held : memory[buf.block]? =
      some (some (front ++ items.flatMap syscapItem)))
    (place : buf.offset + index = front.length)
    (ended : ∀ slot ∈ items, EndsInZero slot) :
    parseItems buf singleSyscapLength items.length index sysCaps memory =
      .ok ((true, sysCaps ++ items.map sysCapOf), memory) := by
  induction items generalizing front index sysCaps with
  | nil => simp [parseItems, pure_run]
  | cons slot rest ih =>
      obtain ⟨ends, endedRest⟩ := List.forall_mem_cons.mp ended
      have length := length_syscapItem ends
      have nameShort := ends.length_slotName
      have pointed : (buf.add index).offset = front.length := place
      have taken : slice (front ++ (slot :: rest).flatMap syscapItem)
          (buf.add index).offset (min singleSyscapLength singleSyscapLength) =
            syscapItem slot := by
        rw [pointed, Nat.min_self, slice_behind, List.flatMap_cons, ← length,
          List.take_left]
      have read : (slice (front ++ (slot :: rest).flatMap syscapItem)
          (buf.add index).offset
            (min singleSyscapLength singleSyscapLength)).takeWhile (· ≠ 0) =
          sysCapOf slot := by
        rw [taken, syscapItem]
        exact takeWhile_string zero_notMem_sysCapOf (Nat.sub_pos_of_lt nameShort)
      have fits : (sysCapOf slot).length < singleSyscapLength := by
        rw [sysCapOf, List.length_append, length_syscapPrefix]
        simp only [singleSyscapLength] at nameShort ⊢
        omega
      have inside : (buf.add index).offset +
          min singleSyscapLength singleSyscapLength ≤
            (front ++ (slot :: rest).flatMap syscapItem).length := by
        rw [pointed, Nat.min_self, List.flatMap_cons, List.length_append,
          List.length_append, length]
        omega
      have heldHere : memory[(buf.add index).block]? =
          some (some (front ++ (slot :: rest).flatMap syscapItem)) := held
      have copied := strncpy_s_ok heldHere inside read fits
      have placeRest : buf.offset + (index + singleSyscapLength) =
          (front ++ syscapItem slot).length := by
        rw [List.length_append, length, ← place, Nat.add_assoc]
      rw [List.flatMap_cons, ← List.append_assoc] at held
      rw [List.length_cons, parseItems, bind_of_ok copied]
      simp only [List.take_of_length_le fits.le]
      rw [ih held placeRest endedRest, List.map_cons, List.append_assoc,
        List.singleton_append]

/-- What the decoder has put out is split into the capabilities of its slots;
an output without items is refused. -/
theorem parseStr_ok {block count : Nat} (sysCaps : List ByteString)
    (held : memory[block]? = some (some (items.flatMap syscapItem)))
    (ended : ∀ slot ∈ items, EndsInZero slot) (counted : items.length = count)
    (few : count < 256) :
    parseStr (some ⟨block, 0⟩) (Int32.ofNat singleSyscapLength)
        (UInt32.ofNat (count * singleSyscapLength)).toInt32 sysCaps memory =
      .ok (if count = 0 then (false, sysCaps)
        else (true, sysCaps ++ items.map sysCapOf), memory) := by
  have short : count * singleSyscapLength < 2 ^ 31 := by
    simp only [singleSyscapLength, singleFeatLength]
    omega
  have itemLen : (Int32.ofNat singleSyscapLength).toNatClampNeg =
      singleSyscapLength :=
    Int32.toNatClampNeg_ofNat_of_lt (by decide)
  have totalLen : (Int32.ofNat (count * singleSyscapLength)).toNatClampNeg =
      count * singleSyscapLength :=
    Int32.toNatClampNeg_ofNat_of_lt short
  have refused : Int32.ofNat singleSyscapLength ≤ 0 ∨
      Int32.ofNat (count * singleSyscapLength) ≤ 0 ↔ count = 0 := by
    rw [Int32.le_iff_toInt_le, Int32.le_iff_toInt_le,
      Int32.toInt_ofNat_of_lt short, Int32.toInt_ofNat_of_lt (by decide),
      Int32.toInt_zero]
    simp only [singleSyscapLength, singleFeatLength]
    omega
  have rounds : count * singleSyscapLength / singleSyscapLength = count :=
    Nat.mul_div_cancel _ (by decide)
  rw [UInt32.toInt32_ofNat', parseStr]
  by_cases none : count = 0
  · rw [if_pos (refused.mpr none), if_pos none, pure_run]
  · have heldAll : memory[(⟨block, 0⟩ : Pointer).block]? =
        some (some ([] ++ items.flatMap syscapItem)) := held
    have split : parseItems ⟨block, 0⟩ singleSyscapLength items.length 0
        sysCaps memory = _ := parseItems_ok heldAll rfl ended
    rw [if_neg (mt refused.mp none), if_neg none, itemLen, totalLen, rounds,
      ← counted, split]

end Splitting

section Encoding

/-- A number of 16 bits with its higher byte first. -/
def bigEndian16 (number : Nat) : List UInt8 :=
  [UInt8.ofNat (number / 256), UInt8.ofNat (number % 256)]

/-- A list of capabilities that can be encoded: each name fits into a slot, and
the length of all slots into a number of 16 bits. -/
structure Rpcid where
  apiVersion : Nat
  names : List ByteString
  apiVersion_lt : apiVersion < 2 ^ 15
  names_ne_nil : names ≠ []
  length_le : ∀ name ∈ names, name.length ≤ 255
  zero_notMem : ∀ name ∈ names, 0 ∉ name
  length_lt : names.length * singleFeatLength < 2 ^ 16

/-- The slot of a name, which zeros fill up. -/
def slotOf (name : ByteString) : List UInt8 :=
  name ++ List.replicate (singleFeatLength - name.length) 0

def Rpcid.bytes (rpcid : Rpcid) : List UInt8 :=
  [UInt8.ofNat (rpcid.apiVersion % 256), UInt8.ofNat (128 + rpcid.apiVersion / 256)] ++
    bigEndian16 appSyscapType.toNat ++
    bigEndian16 (rpcid.names.length * singleFeatLength) ++
    rpcid.names.flatMap slotOf

variable {name : ByteString} {names : List ByteString} {front : List UInt8}

theorem length_slotOf (short : name.length ≤ 255) :
    (slotOf name).length = singleFeatLength := by
  rw [slotOf, List.length_append, List.length_replicate]
  simp only [singleFeatLength]
  omega

theorem slotName_slotOf (short : name.length ≤ 255) (whole : 0 ∉ name) :
    slotName (slotOf name) = name := by
  apply takeWhile_string whole
  simp only [singleFeatLength]
  omega

theorem endsInZero_slotOf (short : name.length ≤ 255) :
    EndsInZero (slotOf name) := by
  have behind : name.length ≤ singleFeatLength - 1 := short
  have inside : singleFeatLength - 1 - name.length <
      singleFeatLength - name.length := by
    simp only [singleFeatLength]
    omega
  rw [EndsInZero, slotOf, List.getElem?_append_right behind,
    List.getElem?_replicate, if_pos inside]

/-- The slots of an encoding are those of its names. -/
theorem slots_flatMap (short : ∀ name ∈ names, name.length ≤ 255) :
    slots (front ++ names.flatMap slotOf) front.length names.length =
      names.map slotOf := by
  induction names generalizing front with
  | nil => rfl
  | cons name rest ih =>
      obtain ⟨nameShort, restShort⟩ := List.forall_mem_cons.mp short
      have length := length_slotOf nameShort
      have next : slots (front ++ slotOf name ++ rest.flatMap slotOf)
          (front ++ slotOf name).length rest.length = rest.map slotOf :=
        ih restShort
      rw [List.length_append, length, List.append_assoc] at next
      rw [List.length_cons, slots, slice_behind, List.flatMap_cons, next,
        ← length, List.take_left, List.map_cons]

namespace Rpcid

variable (rpcid : Rpcid)

theorem length_flatMap_slotOf : (rpcid.names.flatMap slotOf).length =
    rpcid.names.length * singleFeatLength := by
  have short := rpcid.length_le
  generalize rpcid.names = names at short ⊢
  induction names with
  | nil => rfl
  | cons name rest ih =>
      obtain ⟨nameShort, restShort⟩ := List.forall_mem_cons.mp short
      rw [List.flatMap_cons, List.length_append, length_slotOf nameShort,
        ih restShort, List.length_cons, Nat.succ_mul, Nat.add_comm]

theorem length_bytes :
    rpcid.bytes.length = 6 + rpcid.names.length * singleFeatLength := by
  rw [bytes, List.length_append, length_flatMap_slotOf]
  rfl

theorem slots_bytes : slots rpcid.bytes 6 rpcid.names.length =
    rpcid.names.map slotOf :=
  slots_flatMap rpcid.length_le

theorem length_names_lt : rpcid.names.length < 256 := by
  have short := rpcid.length_lt
  simp only [singleFeatLength] at short
  omega

theorem slotCount_bytes : slotCount rpcid.bytes = some rpcid.names.length := by
  have few := rpcid.length_names_lt
  have version := rpcid.apiVersion_lt
  have count : (UInt8.ofNat (rpcid.names.length * singleFeatLength / 256)).toNat =
      rpcid.names.length := by
    have quotient : rpcid.names.length * singleFeatLength / 256 =
        rpcid.names.length :=
      Nat.mul_div_cancel _ (by decide)
    rw [UInt8.toNat_ofNat', quotient, Nat.mod_eq_of_lt few]
  have aligned : UInt8.ofNat (rpcid.names.length * singleFeatLength % 256) = 0 := by
    rw [singleFeatLength, Nat.mul_mod_left]
    rfl
  have typed : 128 ≤ UInt8.ofNat (128 + rpcid.apiVersion / 256) := by
    rw [UInt8.le_iff_toNat_le, UInt8.toNat_ofNat', Nat.mod_eq_of_lt (by omega)]
    exact Nat.le_add_right _ _
  have some : rpcid.names.flatMap slotOf ≠ [] := by
    intro empty
    have length := rpcid.length_flatMap_slotOf
    have names := List.length_pos_iff.mpr rpcid.names_ne_nil
    rw [empty] at length
    simp only [List.length_nil, singleFeatLength] at length
    omega
  have shape : slotCount rpcid.bytes =
      if rpcid.names.flatMap slotOf ≠ [] ∧
          128 ≤ UInt8.ofNat (128 + rpcid.apiVersion / 256) ∧
          (0 : UInt8) = 0 ∧ (2 : UInt8) = 2 ∧
          UInt8.ofNat (rpcid.names.length * singleFeatLength % 256) = 0 ∧
          (UInt8.ofNat (rpcid.names.length * singleFeatLength / 256)).toNat *
            singleFeatLength ≤ (rpcid.names.flatMap slotOf).length then
        .some (UInt8.ofNat (rpcid.names.length * singleFeatLength / 256)).toNat
      else none := rfl
  rw [shape, count, if_pos]
  exact ⟨some, typed, rfl, rfl, aligned, rpcid.length_flatMap_slotOf.ge⟩

end Rpcid

end Encoding

section Parsing

variable {memory : Blocks} {buffer : List UInt8}

theorem length_slots {start number : Nat} :
    (slots buffer start number).length = number := by
  induction number generalizing start with
  | zero => rfl
  | succ number ih => rw [slots, List.length_cons, ih]

theorem slotCount_lt {count : Nat} (found : slotCount buffer = some count) :
    count < 256 := by
  unfold slotCount at found
  split at found
  · next lengthHigh _ _ =>
      split at found
      · obtain rfl := Option.some.inj found
        exact lengthHigh.toNat_lt
      · nomatch found
  · nomatch found

/-- The capabilities in a buffer; none where it is refused or there is no room. -/
def sysCapsIn (allocator : Allocator) (buffer : List UInt8) :
    Option (List ByteString) := do
  let count ← slotCount buffer
  let _ ← allocator (count * singleSyscapLength)
  if count ≠ 0 ∧ ∀ slot ∈ slots buffer 6 count, EndsInZero slot then
    return (slots buffer 6 count).map sysCapOf
  else none

theorem release_between {bytes : List UInt8} {behind : Blocks} :
    release ⟨memory.length, 0⟩ (memory ++ some bytes :: behind) =
      .ok ((), memory ++ none :: behind) := by
  have held : (memory ++ some bytes :: behind)[
      (⟨memory.length, 0⟩ : Pointer).block]? = some (some bytes) := by
    simp
  rw [release_ok held]
  simp

variable (memory) in
/-- What is put out for the stream, and that every block has come to its end. -/
theorem parseRpcidStream_run (allocator : Allocator) (stream : ByteString)
    (sysCaps : List ByteString) (fits : 0 ≤ Int32.ofNat stream.length) :
    ∃ ended, parseRpcidStream allocator stream sysCaps memory =
      .ok (match sysCapsIn allocator
          (stream.take (Int32.ofNat stream.length).toNatClampNeg) with
        | none => (ErrCode.parseRpcidFailed, sysCaps)
        | some found => (ErrCode.ok, sysCaps ++ found),
        memory ++ List.replicate ended none) := by
  have clamped : (Int32.ofNat stream.length).toNatClampNeg =
      stream.length % 2 ^ 32 := by
    rw [← Int32.toNat_toUInt32_of_le fits, Int32.toUInt32_ofNat',
      UInt32.toNat_ofNat']
  have length : (stream.take (Int32.ofNat stream.length).toNatClampNeg).length =
      stream.length % 2 ^ 32 := by
    rw [List.length_take, clamped, Nat.min_eq_left (Nat.mod_le _ _)]
  have bufferLen : (Int32.ofNat stream.length).toUInt32 = UInt32.ofNat
      (stream.take (Int32.ofNat stream.length).toNatClampNeg).length := by
    rw [Int32.toUInt32_ofNat', length, ← UInt32.toNat_inj, UInt32.toNat_ofNat',
      UInt32.toNat_ofNat', Nat.mod_mod]
  have short : (stream.take
      (Int32.ofNat stream.length).toNatClampNeg).length < 2 ^ 32 := by
    rw [length]
    exact Nat.mod_lt _ (by decide)
  have read : newBlock (stream.take (Int32.ofNat stream.length).toNatClampNeg)
      memory = .ok (⟨memory.length, 0⟩, memory ++ [some (stream.take
        (Int32.ofNat stream.length).toNatClampNeg)]) := rfl
  rw [parseRpcidStream, if_neg (Int32.not_lt.mpr fits), bind_of_ok read,
    bufferLen]
  generalize stream.take (Int32.ofNat stream.length).toNatClampNeg = buffer at *
  have held : (memory ++ [some buffer])[memory.length]? = some (some buffer) :=
    getElem?_last
  have decoded := rpcidStreamDecodeToBuffer_run allocator held short
  have refused (behind : Blocks) (result : Run (ErrCode × List ByteString)) :
      (if DecodeResult.failed.ret ≠ 0 then do
          release ⟨memory.length, 0⟩
          return (ErrCode.parseRpcidFailed, sysCaps)
        else result) (memory ++ some buffer :: behind) =
      .ok ((ErrCode.parseRpcidFailed, sysCaps), memory ++ none :: behind) := by
    rw [if_pos (by decide), bind_of_ok release_between, pure_run]
  rw [sysCapsIn]
  cases counted : slotCount buffer with
  | none =>
      rw [counted] at decoded
      rw [bind_of_ok decoded, refused]
      exact ⟨1, rfl⟩
  | some count =>
      simp only [counted] at decoded
      cases found : allocator (count * singleSyscapLength) with
      | none =>
          rw [found, Option.isNone_none, if_pos rfl] at decoded
          rw [bind_of_ok decoded, refused]
          exact ⟨1, by simp [found]⟩
      | some room =>
          rw [found, Option.isNone_some, if_neg Bool.false_ne_true] at decoded
          by_cases ended : ∀ slot ∈ slots buffer 6 count, EndsInZero slot
          case neg =>
            rw [if_neg ended, List.append_assoc] at decoded
            rw [bind_of_ok decoded, List.singleton_append, refused]
            refine ⟨2, ?_⟩
            simp [found, ended]
          rw [if_pos ended] at decoded
          have heldOut : (memory ++ [some buffer] ++ [some
              ((slots buffer 6 count).flatMap syscapItem)])[
                (memory ++ [some buffer]).length]? = _ :=
            getElem?_last
          have split := parseStr_ok sysCaps heldOut ended length_slots
            (slotCount_lt counted)
          have freed : free (some ⟨(memory ++ [some buffer]).length, 0⟩)
              (memory ++ [some buffer] ++
                [some ((slots buffer 6 count).flatMap syscapItem)]) =
                .ok ((), memory ++ some buffer :: [none]) := by
            rw [free, release_between, List.append_assoc,
              List.singleton_append]
          rw [bind_of_ok decoded]
          simp only [ne_eq, not_true_eq_false, if_false]
          rw [bind_of_ok split, bind_of_ok freed, bind_of_ok release_between,
            pure_run]
          refine ⟨2, ?_⟩
          by_cases none : count = 0
          · simp [none]
          · have both : count ≠ 0 ∧
                ∀ slot ∈ slots buffer 6 count, EndsInZero slot := ⟨none, ended⟩
            simp only [found, Option.bind_eq_bind, Option.bind_some, if_pos both,
              if_neg none]
            rfl

/-- The decoder stays inside a buffer of its own block: it fails and has given
back what it allocated, or its output is one block of the length it says, which
is split without leaving it. -/
def DecodesSafely (allocator : Allocator) (memory : Blocks) (block : Nat)
    (buffer : List UInt8) : Prop :=
  ∃ result after,
    rpcidStreamDecodeToBuffer allocator (some ⟨block, 0⟩)
      (UInt32.ofNat buffer.length) memory = .ok (result, after) ∧
    ((result = .failed ∧ ∃ ended, after = memory ++ List.replicate ended none) ∨
      ∃ out, result.ret = 0 ∧
        result.syscapSetBuf = some ⟨memory.length, 0⟩ ∧
        result.syscapSetLength.toNat = out.length ∧
        after = memory ++ [some out] ∧
        ∀ sysCaps, ∃ answer, parseStr result.syscapSetBuf
          (Int32.ofNat singleSyscapLength) result.syscapSetLength.toInt32 sysCaps
          after = .ok (answer, after))

theorem length_flatMap_syscapItem {items : List (List UInt8)}
    (ended : ∀ slot ∈ items, EndsInZero slot) :
    (items.flatMap syscapItem).length = items.length * singleSyscapLength := by
  induction items with
  | nil => simp
  | cons slot rest ih =>
      obtain ⟨ends, endedRest⟩ := List.forall_mem_cons.mp ended
      rw [List.flatMap_cons, List.length_append, length_syscapItem ends,
        ih endedRest, List.length_cons, Nat.succ_mul, Nat.add_comm]

theorem decodesSafely (allocator : Allocator) {block : Nat}
    (held : memory[block]? = some (some buffer))
    (short : buffer.length < 2 ^ 32) :
    DecodesSafely allocator memory block buffer := by
  have decoded := rpcidStreamDecodeToBuffer_run allocator held short
  cases counted : slotCount buffer with
  | none =>
      rw [counted] at decoded
      exact ⟨_, _, decoded, .inl ⟨rfl, 0, by simp⟩⟩
  | some count =>
      simp only [counted] at decoded
      split at decoded
      · exact ⟨_, _, decoded, .inl ⟨rfl, 0, by simp⟩⟩
      split at decoded
      case isFalse => exact ⟨_, _, decoded, .inl ⟨rfl, 1, rfl⟩⟩
      case isTrue ended =>
        have few := slotCount_lt counted
        have lengthOut := length_flatMap_syscapItem ended
        rw [length_slots] at lengthOut
        have lengthSaid : (UInt32.ofNat (count * singleSyscapLength)).toNat =
            count * singleSyscapLength := by
          apply UInt32.toNat_ofNat_of_lt'
          simp only [singleSyscapLength, singleFeatLength]
          change _ < 4294967296
          omega
        refine ⟨_, _, decoded, .inr ⟨_, rfl, rfl, lengthSaid.trans lengthOut.symm,
          rfl, fun sysCaps => ⟨_, parseStr_ok sysCaps getElem?_last ended
            length_slots few⟩⟩⟩

theorem sysCapsIn_bytes (allocator : Allocator) (rpcid : Rpcid)
    (room : (allocator (rpcid.names.length * singleSyscapLength)).isSome) :
    sysCapsIn allocator rpcid.bytes =
      some (rpcid.names.map (syscapPrefix ++ ·)) := by
  obtain ⟨bytes, found⟩ := Option.isSome_iff_exists.mp room
  have some : rpcid.names.length ≠ 0 := by
    intro empty
    exact rpcid.names_ne_nil (List.length_eq_zero_iff.mp empty)
  have ended : ∀ slot ∈ rpcid.names.map slotOf, EndsInZero slot := by
    intro slot member
    obtain ⟨name, named, rfl⟩ := List.mem_map.mp member
    exact endsInZero_slotOf (rpcid.length_le name named)
  have caps : (rpcid.names.map slotOf).map sysCapOf =
      rpcid.names.map (syscapPrefix ++ ·) := by
    rw [List.map_map]
    apply List.map_congr_left
    intro name member
    rw [Function.comp_apply, sysCapOf, slotName_slotOf
      (rpcid.length_le name member) (rpcid.zero_notMem name member)]
  have both := And.intro some ended
  rw [sysCapsIn, rpcid.slotCount_bytes]
  simp only [found, Option.bind_eq_bind, Option.bind_some, rpcid.slots_bytes,
    if_pos both, caps]
  rfl

/-- What is encoded is decoded and split into the same names, each behind the
prefix. -/
theorem parseRpcidStream_bytes (allocator : Allocator) (rpcid : Rpcid)
    (sysCaps : List ByteString)
    (room : (allocator (rpcid.names.length * singleSyscapLength)).isSome) :
    ∃ ended, parseRpcidStream allocator rpcid.bytes sysCaps memory =
      .ok ((ErrCode.ok, sysCaps ++ rpcid.names.map (syscapPrefix ++ ·)),
        memory ++ List.replicate ended none) := by
  have short : rpcid.bytes.length < 2 ^ 31 := by
    have few := rpcid.length_lt
    rw [rpcid.length_bytes]
    omega
  have fits : 0 ≤ Int32.ofNat rpcid.bytes.length := by
    rw [Int32.le_iff_toInt_le, Int32.toInt_ofNat_of_lt short, Int32.toInt_zero]
    exact Int.natCast_nonneg _
  have whole : rpcid.bytes.take
      (Int32.ofNat rpcid.bytes.length).toNatClampNeg = rpcid.bytes := by
    rw [Int32.toNatClampNeg_ofNat_of_lt short, List.take_length]
  obtain ⟨ended, parsed⟩ := parseRpcidStream_run memory allocator
    rpcid.bytes sysCaps fits
  rw [whole, sysCapsIn_bytes allocator rpcid room] at parsed
  exact ⟨ended, parsed⟩

theorem parseRpcidStream_ends (allocator : Allocator) (stream : ByteString)
    (sysCaps : List ByteString) :
    ∃ answer ended, parseRpcidStream allocator stream sysCaps memory =
      .ok (answer, memory ++ List.replicate ended none) := by
  by_cases fits : 0 ≤ Int32.ofNat stream.length
  · obtain ⟨ended, parsed⟩ := parseRpcidStream_run memory allocator
      stream sysCaps fits
    exact ⟨_, ended, parsed⟩
  · refine ⟨(ErrCode.parseUnexpected, sysCaps), 0, ?_⟩
    rw [parseRpcidStream, if_pos (Int32.not_le.mp fits), pure_run,
      List.replicate_zero, List.append_nil]

/-- Whatever an archive holds, no memory is used that is not there, and none is
kept. -/
theorem parseSysCap_ends (allocator : Allocator) (archives : FileSystem)
    (pathName : ByteString)
    (extraction : Extraction (BundleExtractor.init archives pathName).2)
    (sysCaps : List ByteString) :
    ∃ answer ended, parseSysCap allocator archives pathName extraction sysCaps
      memory = .ok (answer, memory ++ List.replicate ended none) := by
  have unchanged (answer : ErrCode × List ByteString) :
      ∃ given ended, (pure answer : Run (ErrCode × List ByteString)) memory =
        .ok (given, memory ++ List.replicate ended none) :=
    ⟨answer, 0, by simp [pure_run]⟩
  rw [parseSysCap]
  dsimp only
  split
  · exact unchanged _
  split
  · exact unchanged _
  split
  · exact unchanged _
  exact parseRpcidStream_ends allocator _ sysCaps

/-- The decoder never leaves its buffer, an output is split without leaving it,
and the names of an encoding come out again, in their order and each behind the
prefix. -/
theorem rpcidStreamDecodeToBuffer_safe_exact (allocator : Allocator)
    (memory : Blocks) :
    (∀ bufferLen, rpcidStreamDecodeToBuffer allocator none bufferLen memory =
      .ok (.failed, memory)) ∧
    (∀ block buffer, memory[block]? = some (some buffer) →
      buffer.length < 2 ^ 32 → DecodesSafely allocator memory block buffer) ∧
    (∀ stream sysCaps, ∃ answer ended,
      parseRpcidStream allocator stream sysCaps memory =
        .ok (answer, memory ++ List.replicate ended none)) ∧
    ∀ (rpcid : Rpcid) sysCaps,
      (allocator (rpcid.names.length * singleSyscapLength)).isSome →
      ∃ ended, parseRpcidStream allocator rpcid.bytes sysCaps memory =
        .ok ((ErrCode.ok, sysCaps ++ rpcid.names.map (syscapPrefix ++ ·)),
          memory ++ List.replicate ended none) :=
  ⟨fun _ => rfl, fun _ _ held short => decodesSafely allocator held short,
    parseRpcidStream_ends allocator,
    fun rpcid sysCaps room => parseRpcidStream_bytes allocator rpcid sysCaps room⟩

/-- The encoding of two names for version 9. -/
def twoNames : Rpcid where
  apiVersion := 9
  names := ["Ability.Base".toUTF8.toList, "Web".toUTF8.toList]
  apiVersion_lt := by decide
  names_ne_nil := by decide
  length_le := by decide +kernel
  zero_notMem := by decide +kernel
  length_lt := by decide

theorem rpcidStreamDecodeToBuffer_safe_exact_twoNames :
    DecodesSafely (fun size => some (Vector.replicate size 0xff))
        [some twoNames.bytes] 0 twoNames.bytes ∧
      ∃ ended, parseRpcidStream (fun size => some (Vector.replicate size 0xff))
          twoNames.bytes [] [] =
        .ok ((ErrCode.ok, ["SystemCapability.Ability.Base".toUTF8.toList,
          "SystemCapability.Web".toUTF8.toList]), List.replicate ended none) := by
  have short : twoNames.bytes.length < 2 ^ 32 := by
    rw [twoNames.length_bytes]
    decide
  have names : [] ++ twoNames.names.map (syscapPrefix ++ ·) =
      ["SystemCapability.Ability.Base".toUTF8.toList,
        "SystemCapability.Web".toUTF8.toList] := by
    decide +kernel
  obtain ⟨-, safe, -, -⟩ := rpcidStreamDecodeToBuffer_safe_exact
    (fun size => some (Vector.replicate size 0xff)) [some twoNames.bytes]
  obtain ⟨-, -, -, exact⟩ := rpcidStreamDecodeToBuffer_safe_exact
    (fun size => some (Vector.replicate size 0xff)) []
  obtain ⟨ended, parsed⟩ := exact twoNames [] rfl
  rw [names, List.nil_append] at parsed
  exact ⟨safe 0 twoNames.bytes rfl short, ended, parsed⟩

end Parsing

end AppExecFwk
