import Mathlib.Tactic.Common

/-!
# UTF-16

A character below 65536 is one unit; every other one is a pair of units from two
ranges in which no character lies.  A text is read back from its units.
-/

namespace AppExecFwk.Utf16

/-- The units of a character. -/
def encodeChar (character : Char) : List UInt16 :=
  if character.toNat < 0x10000 then [UInt16.ofNat character.toNat]
  else
    [UInt16.ofNat (0xD800 + (character.toNat - 0x10000) / 0x400),
      UInt16.ofNat (0xDC00 + (character.toNat - 0x10000) % 0x400)]

def encode (text : List Char) : List UInt16 :=
  text.flatMap encodeChar

/-- A unit that starts a pair takes the next unit with it. -/
def decode : List UInt16 → List Char
  | [] => []
  | [unit] => [Char.ofNat unit.toNat]
  | unit :: low :: rest =>
      if 0xD800 ≤ unit.toNat ∧ unit.toNat < 0xDC00 then
        Char.ofNat (0x10000 + (unit.toNat - 0xD800) * 0x400 +
          (low.toNat - 0xDC00)) :: decode rest
      else Char.ofNat unit.toNat :: decode (low :: rest)

/-- A unit that starts no pair is a character. -/
theorem decode_cons {unit : UInt16} (rest : List UInt16)
    (single : unit.toNat < 0xD800 ∨ 0xDC00 ≤ unit.toNat) :
    decode (unit :: rest) = Char.ofNat unit.toNat :: decode rest := by
  cases rest with
  | nil => rfl
  | cons low rest =>
      rw [decode, if_neg (by omega)]

theorem decode_encodeChar_append (character : Char) (rest : List UInt16) :
    decode (encodeChar character ++ rest) = character :: decode rest := by
  have valid := character.valid
  unfold UInt32.isValidChar Nat.isValidChar at valid
  change character.toNat < 0xD800 ∨ 0xDFFF < character.toNat ∧
    character.toNat < 0x110000 at valid
  unfold encodeChar
  by_cases small : character.toNat < 0x10000
  · have unit : (UInt16.ofNat character.toNat).toNat = character.toNat := by
      rw [UInt16.toNat_ofNat']
      omega
    rw [if_pos small, List.singleton_append, decode_cons rest (by omega), unit,
      Char.ofNat_toNat]
  · have high : (UInt16.ofNat (0xD800 +
        (character.toNat - 0x10000) / 0x400)).toNat =
        0xD800 + (character.toNat - 0x10000) / 0x400 := by
      rw [UInt16.toNat_ofNat']
      omega
    have low : (UInt16.ofNat (0xDC00 +
        (character.toNat - 0x10000) % 0x400)).toNat =
        0xDC00 + (character.toNat - 0x10000) % 0x400 := by
      rw [UInt16.toNat_ofNat']
      omega
    have whole : 0x10000 + (0xD800 + (character.toNat - 0x10000) / 0x400 -
        0xD800) * 0x400 + (0xDC00 + (character.toNat - 0x10000) % 0x400 -
        0xDC00) = character.toNat := by
      omega
    rw [if_neg small, List.cons_append, List.singleton_append, decode, high,
      low, if_pos (by omega), whole, Char.ofNat_toNat]

theorem decode_encode (text : List Char) : decode (encode text) = text := by
  induction text with
  | nil => rfl
  | cons character text induction =>
      unfold encode at induction ⊢
      rw [List.flatMap_cons, decode_encodeChar_append, induction]

end AppExecFwk.Utf16
