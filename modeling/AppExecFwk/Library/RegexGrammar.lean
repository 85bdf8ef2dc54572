import AppExecFwk.Library.Regex
import Mathlib.Data.List.Basic

/-!
# Reading a regular expression

The ECMAScript grammar of the C++ standard library in the C locale.  What is
special in a pattern are the brackets, the quantifiers, the bar, the dot, the
assertions and the backslash; any other unit stands for itself.  The reader
throws where the pattern is malformed.  Names of collating elements are a
parameter.

In front of a pattern of one alternative, units that stand for themselves make a
pattern that matches these units and then the rest.
-/

namespace Regex

/-- The units that do not stand for themselves. -/
def syntaxUnits : List Char :=
  ['^', '$', '\\', '.', '*', '+', '?', '(', ')', '[', ']', '{', '}', '|']

def isSyntaxUnit (unit : Char) : Bool :=
  syntaxUnits.contains unit

def literal (unit : Char) : Regex :=
  one (· == unit)

/-- `regex_traits::lookup_classname`. -/
def lookupClassName (name : List Char) : Option (Char → Bool) :=
  [("alnum", Char.isAlphanum), ("alpha", Char.isAlpha),
    ("blank", fun unit => unit == ' ' || unit == '\t'),
    ("cntrl", fun unit => unit.toNat < 32 || unit.toNat == 127),
    ("digit", Char.isDigit), ("d", Char.isDigit),
    ("graph", fun unit => 32 < unit.toNat && unit.toNat < 127),
    ("lower", Char.isLower),
    ("print", fun unit => 32 ≤ unit.toNat && unit.toNat < 127),
    ("punct", fun unit =>
      32 < unit.toNat && unit.toNat < 127 && !unit.isAlphanum),
    ("space", isSpace), ("s", isSpace), ("upper", Char.isUpper),
    ("w", isWord),
    ("xdigit", fun unit =>
      unit.isDigit || ('a' ≤ unit && unit ≤ 'f') ||
        ('A' ≤ unit && unit ≤ 'F'))].lookup
      (String.ofList (name.map Char.toLower))
where
  isSpace (unit : Char) : Bool :=
    unit == ' ' || (9 ≤ unit.toNat && unit.toNat ≤ 13)

/-- A class that is named by one letter; the capital names its complement. -/
def classEscape (letter : Char) : Option (Char → Bool) :=
  if ['d', 's', 'w'].contains letter then lookupClassName [letter]
  else if ['D', 'S', 'W'].contains letter then
    (lookupClassName [letter]).map fun accepts unit => !accepts unit
  else none

def hexValue (digit : Char) : Option Nat :=
  if digit.isDigit then some (digit.toNat - '0'.toNat)
  else if 'a' ≤ digit ∧ digit ≤ 'f' then some (digit.toNat - 'a'.toNat + 10)
  else if 'A' ≤ digit ∧ digit ≤ 'F' then some (digit.toNat - 'A'.toNat + 10)
  else none

/-- A code of some hexadecimal digits; a unit is a byte. -/
def readHex (count : Nat) (text : List Char) : Option (Char × List Char) := do
  if text.length < count then none
  else
    let digits ← (text.take count).mapM hexValue
    let code := digits.foldl (fun code digit => 16 * code + digit) 0
    return (Char.ofNat (code % 256), text.drop count)

/-- What stands behind a backslash for a unit. -/
def readCharacterEscape : List Char → Option (Char × List Char)
  | [] => none
  | 't' :: rest => some ('\t', rest)
  | 'n' :: rest => some ('\n', rest)
  | 'v' :: rest => some (Char.ofNat 11, rest)
  | 'f' :: rest => some (Char.ofNat 12, rest)
  | 'r' :: rest => some ('\r', rest)
  | 'c' :: letter :: rest =>
      if letter.isAlpha then some (Char.ofNat (letter.toNat % 32), rest)
      else none
  | ['c'] => none
  | 'x' :: rest => readHex 2 rest
  | 'u' :: rest => readHex 4 rest
  | unit :: rest => some (unit, rest)

/-- A number in decimal digits. -/
def readNumber (text : List Char) : Option (Nat × List Char) :=
  let (digits, rest) := text.span Char.isDigit
  if digits.isEmpty then none
  else
    some (digits.foldl (fun number digit =>
      10 * number + (digit.toNat - '0'.toNat)) 0, rest)

/-- A digit behind a backslash: the null unit, or a group that was captured. -/
def readDecimalEscape (text : List Char) : Option (Regex × List Char) := do
  let (number, rest) ← readNumber text
  if text.head? = some '0' then
    if rest = text.tail then return (literal (Char.ofNat 0), rest) else none
  else return (backReference number, rest)

/-- The name up to the mark and a closing bracket. -/
def readName (mark : Char) : List Char → Option (List Char × List Char)
  | [] => none
  | unit :: rest =>
      if unit = mark ∧ rest.head? = some ']' then some ([], rest.tail)
      else (readName mark rest).map fun (name, rest) => (unit :: name, rest)

/-- A member of a bracket expression. -/
inductive ClassAtom where
  | unit (value : Char)
  | units (accepts : Char → Bool)

def ClassAtom.accepts : ClassAtom → Char → Bool
  | unit value => (· == value)
  | units accepts => accepts

section

variable (lookupCollateName : List Char → Option Char)

def readClassAtom : List Char → Option (ClassAtom × List Char)
  | [] => none
  | '\\' :: 'b' :: rest => some (.unit (Char.ofNat 8), rest)
  | '\\' :: letter :: rest =>
      match classEscape letter with
      | some accepts => some (.units accepts, rest)
      | none =>
          if letter = '0' ∧ !(rest.head?.any Char.isDigit) then
            some (.unit (Char.ofNat 0), rest)
          else if letter.isDigit then none
          else (readCharacterEscape (letter :: rest)).map fun (unit, rest) =>
            (.unit unit, rest)
  | ['\\'] => none
  | '[' :: ':' :: rest => do
      let (name, rest) ← readName ':' rest
      let accepts ← lookupClassName name
      return (.units accepts, rest)
  | '[' :: '.' :: rest => do
      let (name, rest) ← readName '.' rest
      let unit ← lookupCollateName name
      return (.unit unit, rest)
  | '[' :: '=' :: rest => do
      -- In the C locale a unit is equivalent to itself only.
      let (name, rest) ← readName '=' rest
      let unit ← lookupCollateName name
      return (.units (· == unit), rest)
  | unit :: rest => some (.unit unit, rest)

/-- The members of a bracket expression and what follows it. -/
def readClassRanges : Nat → List Char →
    Option (List (Char → Bool) × List Char)
  | 0, _ => none
  | _ + 1, ']' :: rest => some ([], rest)
  | fuel + 1, text => do
      let (atom, rest) ← readClassAtom lookupCollateName text
      if rest.head? = some '-' ∧ rest.tail.head? ≠ some ']' then
        let (last, rest) ← readClassAtom lookupCollateName rest.tail
        match atom, last with
        | .unit first, .unit last =>
            if last < first then none
            else
              let (ranges, rest) ← readClassRanges fuel rest
              return ((fun unit => first ≤ unit && unit ≤ last) :: ranges, rest)
        | _, _ => none
      else
        let (ranges, rest) ← readClassRanges fuel rest
        return (atom.accepts :: ranges, rest)

/-- A bracket expression behind its opening bracket. -/
def readClass (text : List Char) : Option (Regex × List Char) := do
  let isNegated := decide (text.head? = some '^')
  let members := if isNegated then text.tail else text
  let (ranges, rest) ←
    readClassRanges lookupCollateName (members.length + 1) members
  return (one fun unit => ranges.any (· unit) != isNegated, rest)

/-- A part of an alternative without brackets, and whether it may be repeated. -/
def readSyntax (unit : Char) (rest : List Char) :
    Option (Regex × Bool × List Char) :=
  match unit with
  | '^' => some (textStart, false, rest)
  | '$' => some (textEnd, false, rest)
  | '.' => some (one fun unit => unit != '\n' && unit != '\r', true, rest)
  | '[' => (readClass lookupCollateName rest).map fun (regex, rest) =>
      (regex, true, rest)
  | '\\' =>
      match rest with
      | [] => none
      | 'b' :: rest => some (wordBoundary true, false, rest)
      | 'B' :: rest => some (wordBoundary false, false, rest)
      | letter :: rest =>
          match classEscape letter with
          | some accepts => some (one accepts, true, rest)
          | none =>
              if letter.isDigit then
                (readDecimalEscape (letter :: rest)).map fun (regex, rest) =>
                  (regex, true, rest)
              else
                (readCharacterEscape (letter :: rest)).map fun (unit, rest) =>
                  (literal unit, true, rest)
  -- A quantifier repeats nothing here, and a closing bracket closes nothing.
  | _ => none

/-- The bounds of a quantifier in braces, behind the opening one. -/
def readBounds (text : List Char) : Option (Nat × Option Nat × List Char) := do
  let (least, rest) ← readNumber text
  match rest with
  | '}' :: rest => return (least, some least, rest)
  | ',' :: '}' :: rest => return (least, none, rest)
  | ',' :: rest =>
      let (most, rest) ← readNumber rest
      if rest.head? = some '}' ∧ least ≤ most then
        return (least, some most, rest.tail)
      else none
  | _ => none

/-- The bounds that follow, if there is a quantifier. -/
def readQuantifier : List Char → Option (Option (Nat × Option Nat) × List Char)
  | '*' :: rest => some (some (0, none), rest)
  | '+' :: rest => some (some (1, none), rest)
  | '?' :: rest => some (some (0, some 1), rest)
  | '{' :: rest =>
      (readBounds rest).map fun (least, most, rest) => (some (least, most), rest)
  | text => some (none, text)

/-- The part with the quantifier that follows it.  A quantifier with a question
mark is satisfied with little. -/
def quantify (regex : Regex) (groups : List Nat) (text : List Char) :
    Option (Regex × List Char) := do
  let (bounds, rest) ← readQuantifier text
  match bounds with
  | none => return (regex, rest)
  | some (least, most) =>
      if rest.head? = some '?' then
        return (loop regex least most false groups, rest.tail)
      else return (loop regex least most true groups, rest)

/-- The alternatives of a pattern. -/
structure Alternatives where
  first : Regex
  others : List Regex := []

namespace Alternatives

def regex (alternatives : Alternatives) : Regex :=
  alternatives.others.foldl alt alternatives.first

/-- A part in front of the first alternative. -/
def prepend (part : Regex) (alternatives : Alternatives) : Alternatives :=
  { alternatives with first := seq part alternatives.first }

/-- One more alternative, in front of the others. -/
def precede (alternatives : Alternatives) : Alternatives where
  first := empty
  others := alternatives.first :: alternatives.others

end Alternatives

/-- What an opening bracket opens. -/
inductive GroupKind where
  | capturing
  | nonCapturing
  | lookahead (expected : Bool)

/-- The kind of a group, behind its opening bracket. -/
def readGroupKind : List Char → Option (GroupKind × List Char)
  | '?' :: ':' :: rest => some (.nonCapturing, rest)
  | '?' :: '=' :: rest => some (.lookahead true, rest)
  | '?' :: '!' :: rest => some (.lookahead false, rest)
  | '?' :: _ => none
  | text => some (.capturing, text)

/-- The groups that an opening bracket counts. -/
def GroupKind.count : GroupKind → Nat
  | capturing => 1
  | nonCapturing | lookahead _ => 0

/-- The group that was opened when `groups` groups were, with the groups inside
it. -/
def GroupKind.close (kind : GroupKind) (inner : Regex) (groups after : Nat)
    (text : List Char) : Option (Regex × List Char) :=
  let inside := List.range' (groups + 1) (after - groups)
  match kind with
  | capturing => quantify (group (some (groups + 1)) inner) inside text
  | nonCapturing => quantify (group none inner) inside text
  | lookahead expected => some (Regex.lookahead expected inner, text)

/-- The alternatives up to a closing bracket or the end, the number of groups
that are opened by then, and what follows. -/
def readDisjunction : Nat → Nat → List Char →
    Option (Alternatives × Nat × List Char)
  | 0, _, _ => none
  | _ + 1, groups, [] => some ({ first := empty }, groups, [])
  | fuel + 1, groups, unit :: rest =>
      if unit = ')' then some ({ first := empty }, groups, unit :: rest)
      else if unit = '|' then do
        let (alternatives, groups, rest) ← readDisjunction fuel groups rest
        return (alternatives.precede, groups, rest)
      else if unit = '(' then do
        let (kind, rest) ← readGroupKind rest
        let (inner, after, rest) ←
          readDisjunction fuel (groups + kind.count) rest
        if rest.head? = some ')' then
          let (part, rest) ← kind.close inner.regex groups after rest.tail
          let (alternatives, groups, rest) ← readDisjunction fuel after rest
          return (alternatives.prepend part, groups, rest)
        else none
      else if isSyntaxUnit unit then do
        let (part, isAtom, rest) ← readSyntax lookupCollateName unit rest
        let (part, rest) ← if isAtom then quantify part [] rest
          else some (part, rest)
        let (alternatives, groups, rest) ← readDisjunction fuel groups rest
        return (alternatives.prepend part, groups, rest)
      else do
        let (part, rest) ← quantify (literal unit) [] rest
        let (alternatives, groups, rest) ← readDisjunction fuel groups rest
        return (alternatives.prepend part, groups, rest)

/-- The groups that are referred to. -/
def references : Regex → List Nat
  | backReference index => [index]
  | lookahead _ inner | group _ inner | loop inner _ _ _ _ => inner.references
  | seq first second | alt first second => first.references ++ second.references
  | empty | one _ | textStart | textEnd | wordBoundary _ => []

/-- The alternatives of a whole pattern.  A group that is referred to has to be
there. -/
def read (text : List Char) : Option Alternatives := do
  let (alternatives, groups, rest) ←
    readDisjunction lookupCollateName (text.length + 1) 0 text
  if rest.isEmpty && alternatives.regex.references.all (· ≤ groups) then
    return alternatives
  else none

/-- `regex_match(text, pattern)`; false where the pattern is malformed. -/
def matchesAll (pattern text : List Char) : Bool :=
  (read lookupCollateName pattern).any fun alternatives =>
    alternatives.regex.accepts text

end

/-! ## Units that stand for themselves -/

section Literals

variable {lookupCollateName : List Char → Option Char}

/-- A quantifier comes first. -/
def isQuantified (text : List Char) : Bool :=
  text.head?.any fun unit => ['*', '+', '?', '{'].contains unit

theorem readQuantifier_of_bare {text : List Char}
    (bare : isQuantified text = false) :
    readQuantifier text = some (none, text) := by
  unfold readQuantifier
  split
  all_goals first | rfl | exact absurd bare (by simp [isQuantified])

/-- A quantifier needs something in front of it. -/
theorem bare_of_readDisjunction {fuel groups : Nat} {text : List Char}
    (wellFormed : (readDisjunction lookupCollateName fuel groups text).isSome =
      true) : isQuantified text = false := by
  rw [Bool.eq_false_iff]
  intro quantified
  cases fuel with
  | zero => cases wellFormed
  | succ fuel =>
      cases text with
      | nil => cases quantified
      | cons unit rest =>
          simp only [isQuantified, List.head?_cons, Option.any_some,
            List.contains_eq_mem, decide_eq_true_eq, List.mem_cons,
            List.not_mem_nil, or_false] at quantified
          rcases quantified with rfl | rfl | rfl | rfl
          all_goals
            simp [readDisjunction, isSyntaxUnit, syntaxUnits, readSyntax]
              at wellFormed

/-- A unit that stands for itself is read as such. -/
theorem readDisjunction_cons {fuel groups : Nat} {unit : Char}
    {rest : List Char} (plain : isSyntaxUnit unit = false)
    (bare : isQuantified rest = false) :
    readDisjunction lookupCollateName (fuel + 1) groups (unit :: rest) =
      (readDisjunction lookupCollateName fuel groups rest).map
        fun (alternatives, groups, rest) =>
          (alternatives.prepend (literal unit), groups, rest) := by
  have other : unit ≠ ')' ∧ unit ≠ '|' ∧ unit ≠ '(' := by
    refine ⟨?_, ?_, ?_⟩
    all_goals
      rintro rfl
      exact absurd plain (by decide)
  rw [readDisjunction, if_neg other.1, if_neg other.2.1, if_neg other.2.2,
    plain, if_neg Bool.false_ne_true, quantify, readQuantifier_of_bare bare]
  simp only [Option.pure_def, Option.bind_eq_bind, Option.bind_some]
  cases readDisjunction lookupCollateName fuel groups rest <;> rfl

/-- The units and then the pattern. -/
def literals (units : List Char) (regex : Regex) : Regex :=
  units.foldr (fun unit rest => seq (literal unit) rest) regex

theorem references_literals (units : List Char) (regex : Regex) :
    (literals units regex).references = regex.references := by
  induction units with
  | nil => rfl
  | cons unit rest ih => exact ih

theorem readDisjunction_append {units : List Char}
    (plain : units.all (!isSyntaxUnit ·) = true) {fuel groups : Nat}
    {text : List Char} (bare : isQuantified text = false) :
    readDisjunction lookupCollateName (units.length + fuel) groups
        (units ++ text) =
      (readDisjunction lookupCollateName fuel groups text).map
        fun (alternatives, groups, rest) =>
          ({ alternatives with first := literals units alternatives.first },
            groups, rest) := by
  induction units with
  | nil =>
      rw [List.length_nil, Nat.zero_add, List.nil_append]
      cases readDisjunction lookupCollateName fuel groups text <;> rfl
  | cons unit rest ih =>
      rw [List.all_cons, Bool.and_eq_true, Bool.not_eq_true'] at plain
      have bareRest : isQuantified (rest ++ text) = false := by
        cases rest with
        | nil => exact bare
        | cons second others =>
            have ordinary := (Bool.and_eq_true_iff.mp plain.2).1
            rw [Bool.not_eq_true', Bool.eq_false_iff] at ordinary
            rw [Bool.eq_false_iff]
            intro quantified
            apply ordinary
            simp only [isQuantified, List.cons_append, List.head?_cons,
              Option.any_some, List.contains_eq_mem, decide_eq_true_eq,
              List.mem_cons, List.not_mem_nil, or_false] at quantified
            rcases quantified with rfl | rfl | rfl | rfl <;> rfl
      rw [List.cons_append, List.length_cons, Nat.succ_add,
        readDisjunction_cons plain.1 bareRest, ih plain.2, Option.map_map]
      rfl

/-- Units in front of a pattern of one alternative are read as such. -/
theorem read_append {units text : List Char} {regex : Regex}
    (plain : units.all (!isSyntaxUnit ·) = true)
    (alone : read lookupCollateName text = some { first := regex }) :
    read lookupCollateName (units ++ text) =
      some { first := literals units regex } := by
  unfold read at alone ⊢
  cases found : readDisjunction lookupCollateName (text.length + 1) 0 text with
  | none =>
      rw [found] at alone
      cases alone
  | some outcome =>
      have bare := @bare_of_readDisjunction lookupCollateName (text.length + 1) 0
        text (by rw [found]; rfl)
      have both := @readDisjunction_append lookupCollateName units plain
        (text.length + 1) 0 text bare
      rw [found] at alone both
      rw [← Nat.add_assoc, ← List.length_append] at both
      obtain ⟨alternatives, groups, rest⟩ := outcome
      simp only [Option.pure_def, Option.bind_eq_bind, Option.bind_some] at alone
      split at alone
      · next complete =>
          cases alone
          rw [both]
          simp only [Option.pure_def, Option.map_some, Option.bind_eq_bind,
            Option.bind_some]
          rw [if_pos]
          simpa [Alternatives.regex, references_literals] using complete
      · cases alone

/-- The units come first in the text. -/
theorem run_literals {units : List Char} {regex : Regex} {place : Place}
    {next : Place → Option Place}
    (found : ((literals units regex).run place next).isSome = true) :
    units <+: place.after ∧
      (regex.run (place.advance units.length) next).isSome = true := by
  induction units generalizing place with
  | nil => exact ⟨List.nil_prefix, found⟩
  | cons unit rest ih =>
      change ((literal unit).run place fun later =>
        (literals rest regex).run later next).isSome = true at found
      rw [literal, run] at found
      split at found
      · next first =>
          obtain ⟨prefixed, later⟩ := ih found
          rw [Place.advance_advance, Nat.add_comm] at later
          refine ⟨?_, later⟩
          change rest <+: place.after.drop 1 at prefixed
          cases after : place.after with
          | nil => simp [after] at first
          | cons head tail =>
              rw [after, List.head?_cons, Option.any_some, beq_iff_eq] at first
              rw [after, List.drop_one, List.tail_cons] at prefixed
              rw [first]
              exact List.cons_prefix_cons.mpr ⟨rfl, prefixed⟩
      · cases found

end Literals

/-! ## The units of strings -/

/-- The units of a `std::string` are its bytes. -/
def units (text : String) : List Char :=
  text.toUTF8.data.toList.map fun byte => Char.ofNat byte.toNat

theorem units_append (first second : String) :
    units (first ++ second) = units first ++ units second := by
  simp [units, String.toByteArray_append]

theorem unit_injective :
    Function.Injective fun byte : UInt8 => Char.ofNat byte.toNat := by
  have code (byte : UInt8) : (Char.ofNat byte.toNat).toNat = byte.toNat := by
    have small : byte.toNat < 2 ^ 8 := byte.toNat_lt
    have valid : byte.toNat.isValidChar := .inl (by omega)
    rw [Char.ofNat, dif_pos valid]
    rfl
  intro first second same
  have numbers := congrArg Char.toNat same
  dsimp only at numbers
  rw [code, code] at numbers
  exact UInt8.toNat_inj.mp numbers

/-- A prefix of the units that are a string leaves a string. -/
theorem exists_of_units {text start : String} {rest : List Char}
    (split : units text = units start ++ rest) :
    ∃ later, text = start ++ later ∧ units later = rest := by
  obtain ⟨bytes, remaining, whole, first, last⟩ :=
    List.map_eq_append_iff.mp split
  have same := List.map_injective_iff.mpr unit_injective first
  subst same
  have encoded : start.toList.utf8Encode ++ remaining.toByteArray =
      text.toList.utf8Encode := by
    rw [String.utf8Encode_toList, String.utf8Encode_toList]
    apply ByteArray.ext
    apply Array.toList_inj.mp
    simpa using whole.symm
  obtain ⟨letters, joined⟩ :=
    List.isPrefix_of_utf8Encode_append_eq_utf8Encode _ encoded
  have same : text = start ++ String.ofList letters := by
    apply String.toList_inj.mp
    rw [String.toList_append, String.toList_ofList, joined]
  refine ⟨String.ofList letters, same, ?_⟩
  rw [same, units_append] at split
  exact List.append_cancel_left split

end Regex
