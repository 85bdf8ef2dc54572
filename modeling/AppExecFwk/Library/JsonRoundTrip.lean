import Mathlib.Algebra.GroupWithZero.Nat
import AppExecFwk.Library.JsonText
import AppExecFwk.Library.OrderedMap
import Mathlib.Data.List.TakeDrop

/-!
# Reading back what was written

A plain document has no number with a fraction and no integer beyond 64 bits,
and its objects list their members in the order of the keys.  Reading the text
of a plain document returns the document and what follows the text.
-/

namespace JsonText

/-! ## Strings -/

theorem hexValue4_escape : ∀ number < 32,
    hexValue4 0x30 0x30 (hexDigit (number.toUInt8 / 16))
        (hexDigit (number.toUInt8 % 16)) = some number ∧
      encodePoint number = [number.toUInt8] := by
  decide +kernel

theorem readBytes_copied {byte : UInt8} (notQuote : byte ≠ quote)
    (notControl : ¬byte < 0x20) (notBackslash : byte ≠ backslash)
    (rest : Bytes) :
    readBytes (byte :: rest) =
      (readBytes rest).map fun read => (byte :: read.1, read.2) := by
  rw [readBytes.eq_def]
  simp only [if_neg notQuote, if_neg notControl, if_pos notBackslash]
  cases readBytes rest <;> rfl

theorem readBytes_letter {letter escaped : UInt8} (notU : letter ≠ letterU)
    (known : unescape letter = some escaped) (rest : Bytes) :
    readBytes (backslash :: letter :: rest) =
      (readBytes rest).map fun read => (escaped :: read.1, read.2) := by
  rw [readBytes.eq_def]
  dsimp only
  rw [if_neg (by decide), if_neg (by decide), if_neg (not_not.mpr rfl),
    if_pos notU, known]
  cases readBytes rest <;> rfl

theorem readBytes_unit {first second third fourth : UInt8} {unit : Nat}
    (value : hexValue4 first second third fourth = some unit)
    (small : unit < 32) (rest : Bytes) :
    readBytes (backslash :: letterU :: first :: second :: third :: fourth ::
        rest) =
      (readBytes rest).map fun read =>
        (encodePoint unit ++ read.1, read.2) := by
  have notLow : isLowSurrogate unit = false := by
    simp only [isLowSurrogate, Bool.and_eq_false_iff, decide_eq_false_iff_not]
    omega
  have notHigh : isHighSurrogate unit = false := by
    simp only [isHighSurrogate, Bool.and_eq_false_iff, decide_eq_false_iff_not]
    omega
  rw [readBytes.eq_def]
  dsimp only
  rw [if_neg (by decide), if_neg (by decide), if_neg (not_not.mpr rfl),
    if_neg (not_not.mpr rfl), value]
  cases readBytes rest <;> simp [notLow, notHigh]

/-- An escaped byte is read back. -/
theorem readBytes_escape (byte : UInt8) (rest : Bytes) :
    readBytes (escape byte ++ rest) =
      (readBytes rest).map fun read => (byte :: read.1, read.2) := by
  unfold escape
  split_ifs with same same same same same same same control
  iterate 7
    · subst same
      exact readBytes_letter (by decide) (by decide) rest
  · have small : byte.toNat < 32 := control
    obtain ⟨value, encoded⟩ := hexValue4_escape _ small
    rw [show byte.toNat.toUInt8 = byte by simp] at value encoded
    have read := readBytes_unit value small rest
    rw [encoded] at read
    exact read
  · exact readBytes_copied ‹_› control ‹_› rest

theorem readBytes_content (content rest : Bytes) :
    readBytes (content.flatMap escape ++ quote :: rest) =
      some (content, rest) := by
  induction content with
  | nil =>
      rw [List.flatMap_nil, List.nil_append, readBytes.eq_def]
      exact if_pos rfl
  | cons head tail ih =>
      rw [List.flatMap_cons, List.append_assoc, readBytes_escape, ih]
      rfl

/-- A string is read back. -/
theorem readString_writeString (text : String) (rest : Bytes) :
    ∃ body, writeString text ++ rest = quote :: body ∧
      readString body = some (text, rest) := by
  refine ⟨(encode text).flatMap escape ++ quote :: rest, ?_, ?_⟩
  · simp [writeString]
  · unfold readString
    rw [readBytes_content]
    simp [decode_encode]

/-! ## Numbers -/

/-- What follows a number does not belong to it. -/
def Follows (rest : Bytes) : Prop :=
  ∀ head ∈ rest.head?, isDigit head = false ∧ head ≠ point ∧ head ≠ 0x65 ∧
    head ≠ 0x45

theorem takeFraction_of_follows {rest : Bytes} (follows : Follows rest) :
    takeFraction rest = some ([], rest) := by
  cases rest with
  | nil => rfl
  | cons head tail =>
      have other := (follows head rfl).2.1
      simp [takeFraction, other]

theorem takeExponent_of_follows {rest : Bytes} (follows : Follows rest) :
    takeExponent rest = some ([], rest) := by
  cases rest with
  | nil => rfl
  | cons head tail =>
      obtain ⟨-, -, other, other'⟩ := follows head rfl
      simp [takeExponent, other, other']

/-- The byte of a digit. -/
def digitByte (digit : Nat) : UInt8 :=
  (Nat.digitChar digit).toNat.toUInt8

theorem digitByte_spec : ∀ digit < 10,
    isDigit (digitByte digit) = true ∧
      (digitByte digit - 0x30).toNat = digit ∧
      (0 < digit → digitByte digit ≠ 0x30) := by
  decide

theorem writeNat_of_lt {number : Nat} (small : number < 10) :
    writeNat number = [digitByte number] := by
  rw [writeNat, Nat.toDigits_of_lt_base small]
  rfl

theorem writeNat_of_le {number : Nat} (large : 10 ≤ number) :
    writeNat number =
      writeNat (number / 10) ++ [digitByte (number % 10)] := by
  rw [writeNat, Nat.toDigits_of_base_le (by omega) large, List.map_append]
  rfl

theorem natOf_append (digits : Bytes) (digit : UInt8) :
    natOf (digits ++ [digit]) = natOf digits * 10 + (digit - 0x30).toNat := by
  simp [natOf]

/-- The digits of a number stand for it. -/
theorem natOf_writeNat (number : Nat) : natOf (writeNat number) = number := by
  induction number using Nat.strongRecOn with
  | ind number ih =>
      by_cases small : number < 10
      · rw [writeNat_of_lt small]
        have value := (digitByte_spec number small).2.1
        simpa [natOf] using value
      · have value := (digitByte_spec (number % 10) (by omega)).2.1
        rw [writeNat_of_le (by omega), natOf_append, value, ih _ (by omega)]
        omega

theorem isDigit_of_mem_writeNat (number : Nat) :
    ∀ byte ∈ writeNat number, isDigit byte = true := by
  induction number using Nat.strongRecOn with
  | ind number ih =>
      by_cases small : number < 10
      · rw [writeNat_of_lt small]
        simpa using (digitByte_spec number small).1
      · have last := (digitByte_spec (number % 10) (by omega)).1
        have others := ih (number / 10) (by omega)
        rw [writeNat_of_le (by omega)]
        intro byte member
        rcases List.mem_append.mp member with member | member
        · exact others byte member
        · rw [List.mem_singleton.mp member]
          exact last

/-- Only zero starts with a zero. -/
theorem writeNat_head (number : Nat) :
    ∃ head tail, writeNat number = head :: tail ∧
      (number = 0 → tail = []) ∧ (0 < number → head ≠ 0x30) := by
  induction number using Nat.strongRecOn with
  | ind number ih =>
      by_cases small : number < 10
      · exact ⟨_, _, writeNat_of_lt small, fun _ => rfl,
          (digitByte_spec number small).2.2⟩
      · obtain ⟨head, tail, written, -, notZero⟩ :=
          ih (number / 10) (by omega)
        refine ⟨head, tail ++ [digitByte (number % 10)], ?_, by omega, ?_⟩
        · rw [writeNat_of_le (by omega), written]
          rfl
        · intro _
          exact notZero (by omega)

theorem span_of_follows {digits rest : Bytes}
    (areDigits : ∀ byte ∈ digits, isDigit byte = true)
    (follows : Follows rest) :
    (digits ++ rest).span isDigit = (digits, rest) := by
  have taken : rest.takeWhile isDigit = [] := by
    cases rest with
    | nil => rfl
    | cons head tail => simp [(follows head rfl).1]
  have dropped : rest.dropWhile isDigit = rest := by
    cases rest with
    | nil => rfl
    | cons head tail => simp [(follows head rfl).1]
  rw [List.span_eq_takeWhile_dropWhile, List.takeWhile_append_of_pos areDigits,
    List.dropWhile_append_of_pos areDigits, taken, dropped, List.append_nil]

/-- The digits of a number are taken. -/
theorem takeDigits_writeNat (number : Nat) {rest : Bytes}
    (follows : Follows rest) :
    takeDigits (writeNat number ++ rest) = (writeNat number, rest) := by
  obtain ⟨head, tail, written, zero, notZero⟩ := writeNat_head number
  have areDigits := isDigit_of_mem_writeNat number
  rw [written] at areDigits ⊢
  rw [List.cons_append, takeDigits]
  split
  · next isZero =>
      have isNil : tail = [] := by
        apply zero
        by_contra other
        exact notZero (Nat.pos_of_ne_zero other) isZero
      subst isNil
      rfl
  · exact span_of_follows areDigits follows

/-- What is read after the sign. -/
theorem readNumber_digits (floats : Floats) {number : Nat} {rest : Bytes}
    {signed : Int} {sign bytes : Bytes} (follows : Follows rest)
    (split : takeSign bytes = (sign, writeNat number ++ rest))
    (same : signed = if sign.isEmpty then (number : Int) else -(number : Int))
    (machine : isMachineInteger signed = true) :
    readNumber floats bytes = some (.integer signed, rest) := by
  obtain ⟨head, tail, written, -, -⟩ := writeNat_head number
  have taken := takeDigits_writeNat number follows
  have value := natOf_writeNat number
  rw [written] at taken value split
  unfold readNumber
  rw [split]
  dsimp only
  rw [taken]
  dsimp only
  rw [takeFraction_of_follows follows]
  dsimp only [Option.bind_eq_bind, Option.bind_some]
  rw [takeExponent_of_follows follows]
  dsimp only [Option.bind_eq_bind, Option.bind_some]
  rw [value, ← same, machine]
  rfl

theorem readNumber_writeNat (floats : Floats) {number : Nat} {rest : Bytes}
    (machine : isMachineInteger number = true) (follows : Follows rest) :
    readNumber floats (writeNat number ++ rest) =
      some (.integer number, rest) := by
  obtain ⟨head, tail, written, -, -⟩ := writeNat_head number
  have digit : isDigit head = true := by
    apply isDigit_of_mem_writeNat number
    rw [written]
    exact List.mem_cons_self
  have notMinus : head ≠ minus := by
    rintro rfl
    exact absurd digit (by decide)
  have unsigned : takeSign (writeNat number ++ rest) =
      ([], writeNat number ++ rest) := by
    rw [written]
    exact if_neg notMinus
  exact readNumber_digits floats follows unsigned rfl machine

/-- An integer is read back. -/
theorem readNumber_writeInt (floats : Floats) {number : Int} {rest : Bytes}
    (machine : isMachineInteger number = true) (follows : Follows rest) :
    readNumber floats (writeInt number ++ rest) =
      some (.integer number, rest) := by
  unfold writeInt
  split_ifs with negative
  · have same : number = -(number.natAbs : Int) := by omega
    exact readNumber_digits floats follows rfl same machine
  · have same : (number.natAbs : Int) = number := by omega
    rw [← same] at machine
    have read := readNumber_writeNat floats machine follows
    rw [same] at read
    exact read

/-! ## Documents -/

/-- A document without fractions or large integers, its members in the order of
their keys. -/
inductive IsPlain : Json → Prop where
  | null : IsPlain .null
  | boolean (value : Bool) : IsPlain (.boolean value)
  | integer {number : Int} (machine : isMachineInteger number = true) :
      IsPlain (.integer number)
  | string (text : String) : IsPlain (.string text)
  | array {items : List Json} (plain : ∀ item ∈ items, IsPlain item) :
      IsPlain (.array items)
  | object {members : List (String × Json)}
      (sorted : ofMembers members = .object members)
      (plain : ∀ member ∈ members, IsPlain member.2) :
      IsPlain (.object members)

theorem skipSpace_append {spaces : Bytes} {head : UInt8} (tail : Bytes)
    (areSpaces : ∀ byte ∈ spaces, isSpace byte = true)
    (notSpace : isSpace head = false) :
    skipSpace (spaces ++ head :: tail) = head :: tail := by
  rw [skipSpace, List.dropWhile_append_of_pos areSpaces,
    List.dropWhile_cons_of_neg (by simp [notSpace])]

theorem skipSpace_cons {head : UInt8} (tail : Bytes)
    (notSpace : isSpace head = false) :
    skipSpace (head :: tail) = head :: tail :=
  @skipSpace_append [] head tail (by simp) notSpace

theorem follows_cons {head : UInt8} (tail : Bytes)
    (other : isDigit head = false ∧ head ≠ point ∧ head ≠ 0x65 ∧
      head ≠ 0x45) :
    Follows (head :: tail) := by
  intro byte same
  cases same
  exact other

/-- What stands before an item does not go on a number either. -/
theorem follows_line (layout : Layout) (depth : Nat) {head : UInt8}
    (tail : Bytes) (other : isDigit head = false ∧ head ≠ point ∧ head ≠ 0x65 ∧
      head ≠ 0x45) :
    Follows (layout.line depth ++ head :: tail) := by
  intro byte same
  cases line : layout.line depth with
  | nil =>
      rw [line] at same
      cases same
      exact other
  | cons first rest =>
      rw [line] at same
      cases same
      have blank := layout.isSpace_line depth byte (by simp [line])
      have spaces : ∀ value < 256, isSpace value.toUInt8 = true →
          isDigit value.toUInt8 = false ∧ value.toUInt8 ≠ point ∧
            value.toUInt8 ≠ 0x65 ∧ value.toUInt8 ≠ 0x45 := by
        decide +kernel
      have this := spaces byte.toNat byte.toNat_lt
      rw [show byte.toNat.toUInt8 = byte by simp] at this
      exact this blank

theorem writeInt_head (number : Int) :
    ∃ head tail, writeInt number = head :: tail ∧
      (head = minus ∨ isDigit head = true) := by
  unfold writeInt
  split_ifs with negative
  · exact ⟨minus, _, rfl, .inl rfl⟩
  · obtain ⟨head, tail, written, -, -⟩ := writeNat_head number.natAbs
    refine ⟨head, tail, written, .inr ?_⟩
    apply isDigit_of_mem_writeNat number.natAbs
    rw [written]
    exact List.mem_cons_self

/-- The byte that a number starts with starts nothing else. -/
theorem number_head {head : UInt8} (start : head = minus ∨ isDigit head = true) :
    isSpace head = false ∧ head ≠ quote ∧ head ≠ leftBrace ∧
      head ≠ leftBracket ∧ head ≠ rightBracket ∧ head ≠ letterT ∧
      head ≠ letterF ∧ head ≠ letterN := by
  have checked : ∀ value < 256, (value.toUInt8 = minus ∨
      isDigit value.toUInt8 = true) →
      isSpace value.toUInt8 = false ∧ value.toUInt8 ≠ quote ∧
        value.toUInt8 ≠ leftBrace ∧ value.toUInt8 ≠ leftBracket ∧
        value.toUInt8 ≠ rightBracket ∧ value.toUInt8 ≠ letterT ∧
        value.toUInt8 ≠ letterF ∧ value.toUInt8 ≠ letterN := by
    decide +kernel
  have this := checked head.toNat head.toNat_lt
  rw [show head.toNat.toUInt8 = head by simp] at this
  exact this start

/-- The text of a value starts with neither a space nor a closing bracket. -/
theorem writeIn_head (layout : Layout) (floats : Floats) (depth : Nat)
    {json : Json}
    (plain : IsPlain json) :
    ∃ head tail, writeIn layout floats depth json = head :: tail ∧
      isSpace head = false ∧ head ≠ rightBracket := by
  cases plain with
  | null => exact ⟨letterN, _, rfl, rfl, by decide⟩
  | boolean value =>
      cases value
      · exact ⟨letterF, _, rfl, rfl, by decide⟩
      · exact ⟨letterT, _, rfl, rfl, by decide⟩
  | @integer number machine =>
      obtain ⟨head, tail, written, start⟩ := writeInt_head number
      have other := number_head start
      exact ⟨head, tail, written, other.1, other.2.2.2.2.1⟩
  | string text => exact ⟨quote, _, rfl, rfl, by decide⟩
  | @array items plain =>
      cases items
      · exact ⟨leftBracket, _, rfl, rfl, by decide⟩
      · exact ⟨leftBracket, _, rfl, rfl, by decide⟩
  | @object members sorted plain =>
      cases members
      · exact ⟨leftBrace, _, rfl, rfl, by decide⟩
      · exact ⟨leftBrace, _, rfl, rfl, by decide⟩

section Documents

variable {layout : Layout} {floats : Floats} {fuel depth : Nat}
  {spaces rest : Bytes}

/-- So much fuel is enough for values. -/
def ReadsValues (layout : Layout) (floats : Floats) (fuel : Nat) : Prop :=
  ∀ (json : Json) (depth : Nat) (spaces rest : Bytes), IsPlain json →
    (∀ byte ∈ spaces, isSpace byte = true) → Follows rest →
    2 * (writeIn layout floats depth json).length ≤ fuel →
    readValue floats fuel
        (spaces ++ (writeIn layout floats depth json ++ rest)) =
      some (json, rest)

/-- So much fuel is enough for the items of an array. -/
def ReadsItems (layout : Layout) (floats : Floats) (fuel : Nat) : Prop :=
  ∀ (items : List Json) (item : Json) (depth close : Nat)
      (spaces rest : Bytes),
    IsPlain item → (∀ other ∈ items, IsPlain other) →
    (∀ byte ∈ spaces, isSpace byte = true) →
    2 * ((writeIn layout floats depth item).length +
      (writeItemsIn layout floats depth items).length) + 1 ≤ fuel →
    readItems floats fuel (spaces ++ (writeIn layout floats depth item ++
        (writeItemsIn layout floats depth items ++
          (layout.line close ++ rightBracket :: rest)))) =
      some (item :: items, rest)

/-- So much fuel is enough for the members of an object. -/
def ReadsMembers (layout : Layout) (floats : Floats) (fuel : Nat) : Prop :=
  ∀ (members : List (String × Json)) (key : String) (value : Json)
      (depth close : Nat) (spaces rest : Bytes),
    IsPlain value → (∀ member ∈ members, IsPlain member.2) →
    (∀ byte ∈ spaces, isSpace byte = true) →
    2 * ((writeIn layout floats depth value).length +
      (writeMembersIn layout floats depth members).length) + 1 ≤ fuel →
    readMembers floats fuel (spaces ++ (writeString key ++
        (colon :: layout.afterColon ++ (writeIn layout floats depth value ++
          (writeMembersIn layout floats depth members ++
            (layout.line close ++ rightBrace :: rest)))))) =
      some ((key, value) :: members, rest)

theorem readsItems_succ (values : ReadsValues layout floats fuel)
    (others : ReadsItems layout floats fuel) :
    ReadsItems layout floats (fuel + 1) := by
  intro items item depth close spaces rest plain plains areSpaces enough
  rw [readItems]
  cases items with
  | nil =>
      have first := values item depth spaces
        (layout.line close ++ rightBracket :: rest) plain areSpaces
        (follows_line layout close rest (by decide)) (by omega)
      rw [writeItemsIn, List.nil_append, first]
      dsimp only [Option.bind_eq_bind, Option.bind_some]
      rw [skipSpace_append rest (layout.isSpace_line close) rfl]
      exact if_pos rfl
  | cons second items =>
      rw [writeItemsIn] at enough ⊢
      simp only [List.length_append, List.length_cons] at enough
      have first := values item depth spaces
        (comma :: layout.line depth ++
            writeIn layout floats depth second ++ writeItemsIn layout floats depth items ++
          (layout.line close ++ rightBracket :: rest)) plain
        areSpaces (follows_cons _ (by decide)) (by omega)
      have after := others items second depth close
        (layout.line depth) rest (plains second (by simp))
        (fun other member => plains other (by simp [member]))
        (layout.isSpace_line depth) (by omega)
      rw [first]
      dsimp only [Option.bind_eq_bind, Option.bind_some, List.cons_append]
      rw [skipSpace_cons _ rfl]
      dsimp only
      rw [if_neg (by decide), if_pos rfl]
      simp only [List.append_assoc] at after ⊢
      rw [after]
      rfl

theorem readsMembers_succ (values : ReadsValues layout floats fuel)
    (others : ReadsMembers layout floats fuel) :
    ReadsMembers layout floats (fuel + 1) := by
  intro members key value depth close spaces rest plain plains areSpaces enough
  rw [readMembers]
  cases members with
  | nil =>
      have first := values value depth layout.afterColon
        (layout.line close ++ rightBrace :: rest) plain
        layout.isSpace_afterColon (follows_line layout close rest (by decide))
        (by omega)
      obtain ⟨body, written, read⟩ := readString_writeString key
        (colon :: layout.afterColon ++ (writeIn layout floats depth value ++
          (layout.line close ++ rightBrace :: rest)))
      rw [writeMembersIn, List.nil_append, written,
        skipSpace_append _ areSpaces rfl]
      dsimp only
      rw [if_neg (not_not.mpr rfl), read]
      dsimp only [Option.bind_eq_bind, Option.bind_some, List.cons_append]
      rw [skipSpace_cons _ rfl]
      dsimp only
      rw [if_neg (not_not.mpr rfl), first]
      dsimp only [Option.bind_eq_bind, Option.bind_some]
      have closed := skipSpace_append rest (layout.isSpace_line close)
        (show isSpace rightBrace = false from rfl)
      rw [closed]
      exact if_pos rfl
  | cons member members =>
      obtain ⟨name, second⟩ := member
      rw [writeMembersIn] at enough ⊢
      simp only [List.length_append, List.length_cons] at enough
      have first := values value depth layout.afterColon
        (comma :: layout.line depth ++ writeString name ++
            colon :: layout.afterColon ++ writeIn layout floats depth second ++
            writeMembersIn layout floats depth members ++
          (layout.line close ++ rightBrace :: rest)) plain
        layout.isSpace_afterColon (follows_cons _ (by decide))
        (by omega)
      have after := others members name second depth close
        (layout.line depth) rest (plains (name, second) (by simp))
        (fun other member => plains other (by simp [member]))
        (layout.isSpace_line depth) (by omega)
      obtain ⟨body, written, read⟩ := readString_writeString key
        (colon :: layout.afterColon ++ (writeIn layout floats depth value ++
          (comma :: layout.line depth ++ writeString name ++
            colon :: layout.afterColon ++ writeIn layout floats depth second ++
            writeMembersIn layout floats depth members ++
          (layout.line close ++ rightBrace :: rest))))
      rw [written, skipSpace_append _ areSpaces rfl]
      dsimp only
      rw [if_neg (not_not.mpr rfl), read]
      dsimp only [Option.bind_eq_bind, Option.bind_some, List.cons_append]
      rw [skipSpace_cons _ rfl]
      dsimp only
      rw [if_neg (not_not.mpr rfl)]
      dsimp only [List.cons_append] at first
      rw [first]
      dsimp only [Option.bind_eq_bind, Option.bind_some]
      rw [skipSpace_cons _ rfl]
      dsimp only
      rw [if_neg (by decide), if_pos rfl]
      simp only [List.cons_append, List.append_assoc] at after ⊢
      rw [after]
      rfl

theorem takeWord_append (word : String) (rest : Bytes) :
    takeWord word (encode word ++ rest) = some rest := by
  simp [takeWord]

theorem readsValues_succ (items : ReadsItems layout floats fuel)
    (members : ReadsMembers layout floats fuel) : ReadsValues layout floats (fuel + 1) := by
  intro json depth spaces rest plain areSpaces follows enough
  obtain ⟨head, tail, written, notSpace, -⟩ := writeIn_head layout floats depth plain
  have skipped : skipSpace (spaces ++ (writeIn layout floats depth json ++ rest)) =
      writeIn layout floats depth json ++ rest := by
    rw [written, List.cons_append]
    exact skipSpace_append _ areSpaces notSpace
  rw [readValue, skipped]
  cases plain with
  | null =>
      have word := takeWord_append "null" rest
      simp only [writeIn]
      change (do
        return (Json.null, ← takeWord "null" (encode "null" ++ rest))) = _
      rw [word]
      rfl
  | boolean value =>
      cases value with
      | false =>
          have word := takeWord_append "false" rest
          change (do
            return (Json.boolean false,
              ← takeWord "false" (encode "false" ++ rest))) = _
          rw [word]
          rfl
      | true =>
          have word := takeWord_append "true" rest
          change (do
            return (Json.boolean true,
              ← takeWord "true" (encode "true" ++ rest))) = _
          rw [word]
          rfl
  | @integer number machine =>
      have read := readNumber_writeInt floats machine follows
      obtain ⟨start, others, text, first⟩ := writeInt_head number
      obtain ⟨-, notQuote, notBrace, notBracket, -, notT, notF, notN⟩ :=
        number_head first
      simp only [writeIn]
      rw [text, List.cons_append] at read ⊢
      dsimp only
      rw [if_neg notQuote, if_neg notBrace, if_neg notBracket, if_neg notT,
        if_neg notF, if_neg notN, read]
  | string text =>
      obtain ⟨body, start, read⟩ := readString_writeString text rest
      simp only [writeIn]
      rw [start]
      dsimp only
      rw [if_pos rfl, read]
      rfl
  | @array list plains =>
      cases list with
      | nil =>
          have line := skipSpace_cons rest
            (show isSpace rightBracket = false from rfl)
          simp only [writeIn, List.cons_append, List.nil_append]
          rw [if_neg (by decide), if_neg (by decide), if_pos trivial, line]
          exact if_pos rfl
      | cons item list =>
          have plainItem := plains item (by simp)
          obtain ⟨start, others, text, notBlank, notClosed⟩ :=
            writeIn_head layout floats (depth + 1) plainItem
          rw [writeIn] at enough ⊢
          simp only [List.length_append, List.length_cons] at enough
          have read := items list item (depth + 1) depth [] rest plainItem
            (fun other member => plains other (by simp [member])) (by simp)
            (by omega)
          have line := skipSpace_append (others ++
            (writeItemsIn layout floats (depth + 1) list ++
              (layout.line depth ++ rightBracket :: rest)))
            (layout.isSpace_line (depth + 1)) notBlank
          simp only [text, List.cons_append, List.append_assoc,
            List.nil_append] at read line ⊢
          rw [if_neg (by decide), if_neg (by decide), if_pos trivial, line]
          dsimp only
          rw [if_neg notClosed, read]
          rfl
  | @object list sorted plains =>
      cases list with
      | nil =>
          have line := skipSpace_cons rest
            (show isSpace rightBrace = false from rfl)
          simp only [writeIn, List.cons_append, List.nil_append]
          rw [if_neg (by decide), if_pos trivial, line]
          exact if_pos rfl
      | cons member list =>
          obtain ⟨key, value⟩ := member
          have plainValue := plains (key, value) (by simp)
          rw [writeIn] at enough ⊢
          simp only [List.length_append, List.length_cons] at enough
          have read := members list key value (depth + 1) depth [] rest
            plainValue (fun other member => plains other (by simp [member]))
            (by simp) (by omega)
          obtain ⟨body, text, -⟩ := readString_writeString key
            (colon :: layout.afterColon ++ (writeIn layout floats (depth + 1) value ++
              (writeMembersIn layout floats (depth + 1) list ++
                (layout.line depth ++ rightBrace :: rest))))
          have line := skipSpace_append body
            (layout.isSpace_line (depth + 1))
            (show isSpace quote = false from rfl)
          simp only [List.cons_append, List.append_assoc, List.nil_append]
            at read line text ⊢
          rw [text] at read ⊢
          rw [if_neg (by decide), if_pos trivial, line]
          dsimp only
          rw [if_neg (by decide), read]
          change some (ofMembers _, rest) = _
          rw [sorted]

/-- Enough fuel reads back every plain document. -/
theorem reads (layout : Layout) (floats : Floats) (fuel : Nat) :
    ReadsValues layout floats fuel ∧ ReadsItems layout floats fuel ∧
      ReadsMembers layout floats fuel := by
  induction fuel with
  | zero =>
      refine ⟨?_, ?_, ?_⟩
      · intro json depth spaces rest plain _ _ enough
        obtain ⟨head, tail, written, -⟩ := writeIn_head layout floats depth plain
        rw [written, List.length_cons] at enough
        omega
      · intro items item depth close spaces rest _ _ _ enough
        omega
      · intro members key value depth close spaces rest _ _ _ enough
        omega
  | succ fuel ih =>
      obtain ⟨values, items, members⟩ := ih
      exact ⟨readsValues_succ items members, readsItems_succ values items,
        readsMembers_succ values members⟩

/-- The text of a plain document is read back, with what follows it. -/
theorem readValue_writeIn {json : Json} (plain : IsPlain json)
    (follows : Follows rest)
    (enough : 2 * (writeIn layout floats depth json).length ≤ fuel) :
    readValue floats fuel (writeIn layout floats depth json ++ rest) =
      some (json, rest) :=
  (reads layout floats fuel).1 json depth [] rest plain (by simp) follows enough

theorem readValue_write {json : Json} (plain : IsPlain json)
    (follows : Follows rest)
    (enough : 2 * (write floats depth json).length ≤ fuel) :
    readValue floats fuel (write floats depth json ++ rest) =
      some (json, rest) := by
  rw [← writeIn_indented] at enough ⊢
  exact readValue_writeIn plain follows enough

/-- A stream that starts with the text of a plain document gives it. -/
theorem readFirst_write {json : Json} (plain : IsPlain json)
    (follows : Follows rest) :
    readFirst floats (write floats depth json ++ rest) = some json := by
  rw [readFirst, readValue_write plain follows (by rw [List.length_append]; omega)]
  rfl

/-- A text that starts with the text of a plain document is that document if
only spaces follow, and no document otherwise. -/
theorem parse_write {json : Json} (plain : IsPlain json)
    (follows : Follows rest) :
    parse floats (write floats depth json ++ rest) =
      if skipSpace rest = [] then some json else none := by
  rw [parse, readValue_write plain follows (by rw [List.length_append]; omega)]
  dsimp only [Option.bind_eq_bind, Option.bind_some]
  simp only [List.isEmpty_iff]
  rfl

/-- What is written on one line is parsed back. -/
theorem parse_writeCompact {json : Json} (plain : IsPlain json) :
    parse floats (writeCompact floats json) = some json := by
  have read : readValue floats (2 * (writeCompact floats json).length)
      (writeCompact floats json ++ []) = some (json, []) :=
    readValue_writeIn plain nofun (Nat.le_refl _)
  rw [List.append_nil] at read
  rw [parse, read]
  rfl

end Documents

/-! ## Ordered members -/

section Members

variable (map : Std.ExtTreeMap String Json) (key : String) (value : Json)

/-- The list of a map's entries is in the order of its keys. -/
theorem ofMembers_toList : ofMembers map.toList = .object map.toList := by
  rw [ofMembers, map.foldl_insert_toList]

theorem ofMembers_append :
    ofMembers (map.toList ++ [(key, value)]) =
      .object (map.insert key value).toList := by
  rw [ofMembers, List.foldl_append, map.foldl_insert_toList]
  rfl

theorem ofMembers_singleton :
    ofMembers [(key, value)] =
      .object ((∅ : Std.ExtTreeMap String Json).insert key value).toList :=
  rfl

theorem findMember_toList : Json.findMember map.toList key = map[key]? := by
  have sameLookup (members : List (String × Json)) :
      Json.findMember members key = members.lookup key := by
    induction members with
    | nil => rfl
    | cons head tail ih =>
        obtain ⟨name, found⟩ := head
        by_cases same : name = key
        · simp [same]
        · have other : (key == name) = false := by
            simpa using Ne.symm same
          simp [same, List.lookup_cons, other, ih]
  rw [sameLookup, map.lookup_toList]

theorem filter_toList :
    (map.toList.filter fun member => member.1 ≠ key) =
      (map.erase key).toList := by
  have same : map.erase key = map.filter fun name _ => decide (name ≠ key) := by
    apply Std.ExtTreeMap.ext_getElem?
    intro name
    rw [Std.ExtTreeMap.getElem?_erase, Std.ExtTreeMap.getElem?_filter']
    by_cases equal : name = key
    · simp [equal]
    · cases map[name]? <;> simp [equal, Ne.symm equal, Option.filter]
  rw [same, Std.ExtTreeMap.toList_filter]

variable {map key value}

theorem isPlain_object (plain : ∀ (name : String) found, map[name]? = some found →
    IsPlain found) :
    IsPlain (.object map.toList) := by
  refine .object (ofMembers_toList map) ?_
  rintro ⟨name, found⟩ member
  exact plain name found
    (Std.ExtTreeMap.mem_toList_iff_getElem?_eq_some.mp member)

/-- A document with ordered members is plain if its values are. -/
theorem isPlain_ofMembers {members : List (String × Json)}
    (plain : ∀ member ∈ members, IsPlain member.2) :
    IsPlain (ofMembers members) := by
  refine isPlain_object ?_
  have values (start : Std.ExtTreeMap String Json)
      (plainStart : ∀ (name : String) found, start[name]? = some found → IsPlain found) :
      ∀ (name : String) found, (members.foldl
        (fun map member => map.insert member.1 member.2) start)[name]? =
          some found → IsPlain found := by
    induction members generalizing start with
    | nil => exact plainStart
    | cons head tail ih =>
        refine ih (fun member inside => plain member (by simp [inside])) _ ?_
        intro name found present
        rw [Std.ExtTreeMap.getElem?_insert] at present
        split at present
        · cases present
          exact plain head (by simp)
        · exact plainStart name found present
  exact values ∅ (by simp)

end Members

/-! ## Lengths -/

section Lengths

variable {floats : Floats} {depth : Nat}

/-- The length of the lines of a member. -/
def memberLength (floats : Floats) (depth : Nat) (member : String × Json) :
    Nat :=
  (writeString member.1).length + (write floats depth member.2).length +
    4 * depth + 4

theorem length_writeMembers (members : List (String × Json)) :
    (writeMembers floats depth members).length =
      (members.map (memberLength floats depth)).sum := by
  induction members with
  | nil => rfl
  | cons head tail ih =>
      obtain ⟨key, value⟩ := head
      simp only [writeMembers, List.length_append, List.length_cons,
        List.length_nil, indentation, List.length_replicate, ih, List.map_cons,
        List.sum_cons, memberLength]
      omega

theorem length_write_object {members : List (String × Json)}
    (notEmpty : members ≠ []) :
    (write floats depth (.object members)).length =
      (members.map (memberLength floats (depth + 1))).sum + 4 * depth + 2 := by
  obtain ⟨⟨key, value⟩, tail, rfl⟩ := List.exists_cons_of_ne_nil notEmpty
  simp only [write, List.length_append, List.length_cons, List.length_nil,
    indentation, List.length_replicate, length_writeMembers, List.map_cons,
    List.sum_cons, memberLength]
  omega

/-- The length of the lines of all members but one. -/
def othersLength (floats : Floats) (depth : Nat)
    (map : Std.ExtTreeMap String Json) (key : String) : Nat :=
  ((map.erase key).toList.map (memberLength floats (depth + 1))).sum

theorem length_write_of_getElem? {map : Std.ExtTreeMap String Json}
    {key : String} {value : Json} (found : map[key]? = some value) :
    (write floats depth (.object map.toList)).length =
      (write floats (depth + 1) value).length +
        ((writeString key).length + 8 * depth + 10 +
          othersLength floats depth map key) := by
  have split := Std.ExtTreeMap.toList_perm_of_getElem? found
  have notEmpty : map.toList ≠ [] := by
    intro empty
    rw [empty] at split
    exact absurd split.nil_eq (by simp)
  rw [length_write_object notEmpty,
    (split.map (memberLength floats (depth + 1))).sum_nat]
  simp only [List.map_cons, List.sum_cons, memberLength, othersLength]
  omega

/-- Writing one member anew changes the length of the text by as much as the
length of the member's value. -/
theorem length_write_insert (floats : Floats) (depth : Nat)
    {map : Std.ExtTreeMap String Json} {key : String} {old : Json} (found : map[key]? = some old) (new : Json) :
    (write floats depth (.object (map.insert key new).toList)).length +
        (write floats (depth + 1) old).length =
      (write floats depth (.object map.toList)).length +
        (write floats (depth + 1) new).length := by
  have inserted : (map.insert key new)[key]? = some new := by simp
  have others : othersLength floats depth (map.insert key new) key =
      othersLength floats depth map key := by
    have same : (map.insert key new).erase key = map.erase key := by
      apply Std.ExtTreeMap.ext_getElem?
      intro name
      by_cases equal : key = name
      · simp [equal]
      · simp [Std.ExtTreeMap.getElem?_erase, Std.ExtTreeMap.getElem?_insert,
          equal]
    rw [othersLength, same, othersLength]
  rw [length_write_of_getElem? inserted, length_write_of_getElem? found, others]
  omega

/-- Writing a new member makes the text longer. -/
theorem length_write_insert_of_none (floats : Floats) (depth : Nat)
    {map : Std.ExtTreeMap String Json} {key : String} (absent : map[key]? = none) (new : Json) :
    (write floats depth (.object map.toList)).length ≤
      (write floats depth (.object (map.insert key new).toList)).length := by
  have inserted : (map.insert key new)[key]? = some new := by simp
  have same : (map.insert key new).erase key = map := by
    apply Std.ExtTreeMap.ext_getElem?
    intro name
    by_cases equal : key = name
    · subst equal
      simp [absent]
    · simp [Std.ExtTreeMap.getElem?_erase, Std.ExtTreeMap.getElem?_insert,
        equal]
  rw [length_write_of_getElem? inserted, othersLength, same]
  by_cases empty : map.toList = []
  · simp [empty, write]
    omega
  · rw [length_write_object empty]
    omega

end Lengths

end JsonText
