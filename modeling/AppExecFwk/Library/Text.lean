import Mathlib.Tactic.Common
import Mathlib.Data.List.TakeWhile

/-!
# Searching and cutting strings

The few string operations of the C++ standard library that a program translated
from C++ relies on, as functions on lists of characters.  A position is counted
in characters, and cutting past the end of a string reports the exception the
source would throw.
-/

namespace Text

/-- The position at which a pattern first occurs, counted from `position`. -/
def findFrom (pattern : List Char) : List Char → Nat → Option Nat
  | [], position => if pattern.isEmpty then some position else none
  | head :: tail, position =>
      if pattern.isPrefixOf (head :: tail) then some position
      else findFrom pattern tail (position + 1)

/-- `text.find(pattern)`. -/
def find (text pattern : String) : Option Nat :=
  findFrom pattern.toList text.toList 0

/-- `text.find(pattern) != npos`. -/
def contains (text pattern : String) : Bool :=
  (find text pattern).isSome

/-- `text.find(pattern, start)`. -/
def findAfter (text pattern : String) (start : Nat) : Option Nat :=
  findFrom pattern.toList (text.toList.drop start) start

/-- `text.substr(start)`; a start past the end throws `std::out_of_range`. -/
def substr (text : String) (start : Nat) : Option String :=
  if start ≤ text.toList.length then
    some (String.ofList (text.toList.drop start))
  else none

/-- `text.substr(0, length)`. -/
def takeChars (text : String) (length : Nat) : String :=
  String.ofList (text.toList.take length)

theorem findFrom_length {pattern text : List Char} {position : Nat}
    (found : (findFrom pattern text position).isSome = true) :
    pattern.length ≤ text.length := by
  induction text generalizing position with
  | nil =>
      unfold findFrom at found
      split at found
      · simp_all
      · cases found
  | cons head tail ih =>
      unfold findFrom at found
      split at found
      · rename_i isPrefix
        exact (List.isPrefixOf_iff_prefix.mp isPrefix).length_le
      · exact (ih found).trans (Nat.le_succ _)

/-- The positions are counted from `position` on. -/
theorem le_of_findFrom {pattern text : List Char} {position found : Nat}
    (located : findFrom pattern text position = some found) : position ≤ found := by
  induction text generalizing position with
  | nil =>
      unfold findFrom at located
      split at located <;> simp_all
  | cons head tail ih =>
      unfold findFrom at located
      split at located
      · exact (Option.some.inj located).le
      · exact (Nat.le_succ _).trans (ih located)

/-- `text.find(pattern) == 0` asks for a prefix. -/
theorem prefix_of_find {text pattern : String}
    (first : find text pattern = some 0) : pattern.toList <+: text.toList := by
  unfold find at first
  cases letters : text.toList with
  | nil =>
      rw [letters, findFrom] at first
      split at first
      · next empty => simp [List.isEmpty_iff.mp empty]
      · cases first
  | cons head tail =>
      rw [letters, findFrom] at first
      split at first
      · next isPrefix => exact List.isPrefixOf_iff_prefix.mp isPrefix
      · exact absurd (le_of_findFrom first) (Nat.not_succ_le_zero 0)

/-- A text is no shorter than what it contains. -/
theorem length_le_of_contains {text pattern : String}
    (found : contains text pattern = true) :
    pattern.toList.length ≤ text.toList.length :=
  findFrom_length found

theorem findFrom_isSome_iff {pattern text : List Char} {position : Nat} :
    (findFrom pattern text position).isSome = true ↔ pattern <:+: text := by
  induction text generalizing position with
  | nil =>
      cases pattern with
      | nil => simp [findFrom]
      | cons head tail => simp [findFrom]
  | cons head tail ih =>
      unfold findFrom
      rw [List.infix_cons_iff, ← List.isPrefixOf_iff_prefix]
      by_cases starts : pattern.isPrefixOf (head :: tail) = true
      · simp [starts]
      · rw [if_neg starts, ih]
        simp [starts]

/-- A text contains a pattern exactly if the pattern is a part of it. -/
theorem contains_iff_occurs {text pattern : String} :
    contains text pattern = true ↔ pattern.toList <:+: text.toList :=
  findFrom_isSome_iff

/-- `StrToInt(text, number)`: an optional minus and digits, all of the text, in
the range of the type. -/
def toInt32 (text : String) : Option Int32 :=
  match text.toList with
  | '-' :: digits => (digitsToNat digits).bind fun number =>
      inRange (-(number : Int))
  | digits => (digitsToNat digits).bind fun number => inRange number
where
  digitsToNat (digits : List Char) : Option Nat :=
    if digits ≠ [] ∧ digits.all Char.isDigit then
      some (Nat.ofDigitChars 10 digits 0)
    else none
  inRange (number : Int) : Option Int32 :=
    if Int32.minValue.toInt ≤ number ∧ number ≤ Int32.maxValue.toInt then
      some (Int32.ofInt number)
    else none

/-- `atoi(text)` of a number in the range of the type: blanks, a sign, and the
digits up to the first other letter. -/
def atoi (text : String) : Int32 :=
  match text.toList.dropWhile isBlank with
  | '-' :: digits => Int32.ofInt (-(leadingNumber digits : Int))
  | '+' :: digits => Int32.ofNat (leadingNumber digits)
  | digits => Int32.ofNat (leadingNumber digits)
where
  isBlank (letter : Char) : Bool :=
    letter = ' ' || ('\t' ≤ letter && letter ≤ '\r')
  leadingNumber (digits : List Char) : Nat :=
    Nat.ofDigitChars 10 (digits.takeWhile Char.isDigit) 0

/-- What stands after the last separator and what stands before it are
determined by the joined text. -/
theorem join_inj {separator : Char} {first second before after : List Char}
    (notInBefore : separator ∉ before) (notInAfter : separator ∉ after)
    (same : first ++ separator :: before = second ++ separator :: after) :
    first = second ∧ before = after := by
  have reversed := congrArg List.reverse same
  simp only [List.reverse_append, List.reverse_cons, List.append_assoc,
    List.singleton_append] at reversed
  have suffix {text rest : List Char} (absent : separator ∉ text) :
      (text.reverse ++ separator :: rest).takeWhile (· ≠ separator) =
        text.reverse := by
    rw [List.takeWhile_append_of_pos]
    · simp
    · intro letter member
      have : letter ≠ separator := by
        rintro rfl
        exact absent (List.mem_reverse.mp member)
      simpa using this
  have parts := congrArg (List.takeWhile (· ≠ separator)) reversed
  rw [suffix notInBefore, suffix notInAfter, List.reverse_inj] at parts
  subst parts
  exact ⟨List.append_cancel_right same, rfl⟩

theorem toList_toString_int32 (number : Int32) :
    (toString number).toList =
      if 0 ≤ number.toInt then Nat.toDigits 10 number.toInt.toNat
      else '-' :: Nat.toDigits 10 (-number.toInt).toNat := by
  have unfolded : toString number = number.toInt.repr := rfl
  rw [unfolded, Int.repr_eq_if]
  split <;> simp [Nat.toList_repr, String.toList_append]

/-- The number that a numeral stands for. -/
theorem atoi_toString {number : Int32} (notNegative : 0 ≤ number.toInt) :
    atoi (toString number) = number := by
  have digits : (toString number).toList =
      Nat.toDigits 10 number.toInt.toNat := by
    rw [toList_toString_int32, if_pos notNegative]
  have areDigits : ∀ letter ∈ Nat.toDigits 10 number.toInt.toNat,
      letter.isDigit = true :=
    fun letter member =>
      Nat.isDigit_of_mem_toDigits (by decide) (by decide) member
  have value : atoi.leadingNumber (Nat.toDigits 10 number.toInt.toNat) =
      number.toInt.toNat := by
    rw [atoi.leadingNumber, List.takeWhile_eq_self_iff.mpr areDigits,
      Nat.ofDigitChars_ten_toDigits]
  have result : Int32.ofNat number.toInt.toNat = number := by
    rw [← Int32.ofInt_eq_ofNat, Int.toNat_of_nonneg notNegative,
      Int32.ofInt_toInt]
  obtain ⟨head, tail, split⟩ :=
    List.exists_cons_of_ne_nil (Nat.toDigits_ne_nil
      (n := number.toInt.toNat) (b := 10))
  have isDigit : head.isDigit = true := areDigits head (by rw [split]; simp)
  have notBlank : atoi.isBlank head = false := by
    have large : 48 ≤ head.val.toNat := by
      simp only [Char.isDigit, Bool.and_eq_true, decide_eq_true_eq] at isDigit
      exact isDigit.1
    simp only [atoi.isBlank, Bool.or_eq_false_iff, Bool.and_eq_false_iff,
      decide_eq_false_iff_not]
    refine ⟨?_, .inr ?_⟩
    · rintro rfl
      exact absurd large (by decide)
    · intro small
      have : head.val.toNat ≤ 13 := small
      omega
  unfold atoi
  rw [digits]
  rw [split] at value ⊢
  rw [List.dropWhile_cons_of_neg (by simp [notBlank])]
  split
  · next same =>
      cases same
      exact absurd isDigit (by decide)
  · next same =>
      cases same
      exact absurd isDigit (by decide)
  · rw [value, result]

/-- A decimal numeral has no low line. -/
theorem underscore_notMem_toString (number : Int32) :
    '_' ∉ (toString number).toList := by
  rw [toList_toString_int32]
  split
  · exact Nat.underscore_not_in_toDigits
  · intro member
    rcases List.mem_cons.mp member with impossible | member
    · exact absurd impossible (by decide)
    · exact Nat.underscore_not_in_toDigits member

theorem toDigits_inj {first second : Nat}
    (same : Nat.toDigits 10 first = Nat.toDigits 10 second) :
    first = second := by
  rw [← Nat.ofDigitChars_ten_toDigits (n := first), same,
    Nat.ofDigitChars_ten_toDigits]

theorem minus_notMem_toDigits (number : Nat) :
    '-' ∉ Nat.toDigits 10 number := by
  intro member
  have digit := Nat.isDigit_of_mem_toDigits (by omega) (by omega) member
  exact absurd digit (by decide)

/-- Different numbers have different numerals. -/
theorem toString_int32_inj {first second : Int32}
    (same : toString first = toString second) : first = second := by
  have letters := congrArg String.toList same
  rw [toList_toString_int32, toList_toString_int32] at letters
  apply Int32.toInt_inj.mp
  split at letters <;> split at letters
  · have := toDigits_inj letters
    omega
  · have member : '-' ∈ Nat.toDigits 10 first.toInt.toNat := by
      rw [letters]; exact List.mem_cons_self
    exact absurd member (minus_notMem_toDigits _)
  · have member : '-' ∈ Nat.toDigits 10 second.toInt.toNat := by
      rw [← letters]; exact List.mem_cons_self
    exact absurd member (minus_notMem_toDigits _)
  · have := toDigits_inj (List.cons_inj_right _ |>.mp letters)
    omega

end Text

