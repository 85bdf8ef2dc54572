import Mathlib.Algebra.Group.Int.Defs
import AppExecFwk.Library.Json

/-!
# The text of a JSON document

A document is written as UTF-8 text, with every member and item on a line of its
own, indented by four spaces a level, or all on one line, and is read back from
such text.  How a
number with a fraction is written and read depends on the conversions between
floating point and text, which are a parameter.

Whatever follows the text of an object, reading the text returns the object and
what follows.
-/

namespace JsonText

/-- A text as it stands in a file. -/
abbrev Bytes := List UInt8

/-- How a number with a fraction is written and read. -/
structure Floats where
  write : Rat → Bytes
  read : Bytes → Rat

def quote : UInt8 := 0x22
def backslash : UInt8 := 0x5C
def slash : UInt8 := 0x2F
def leftBrace : UInt8 := 0x7B
def rightBrace : UInt8 := 0x7D
def leftBracket : UInt8 := 0x5B
def rightBracket : UInt8 := 0x5D
def comma : UInt8 := 0x2C
def colon : UInt8 := 0x3A
def space : UInt8 := 0x20
def newline : UInt8 := 0x0A
def minus : UInt8 := 0x2D
def point : UInt8 := 0x2E

def letterB : UInt8 := 0x62
def letterF : UInt8 := 0x66
def letterN : UInt8 := 0x6E
def letterR : UInt8 := 0x72
def letterT : UInt8 := 0x74
def letterU : UInt8 := 0x75

/-- The UTF-8 encoding of a text. -/
def encode (text : String) : Bytes :=
  text.toUTF8.data.toList

/-- The text that is encoded, if it is one. -/
def decode (bytes : Bytes) : Option String :=
  String.fromUTF8? ⟨bytes.toArray⟩

theorem decode_encode (text : String) : decode (encode text) = some text := by
  have same : (⟨(encode text).toArray⟩ : ByteArray) = text.toByteArray := by
    simp [encode]
  unfold decode String.fromUTF8?
  rw [same, dif_pos text.isValidUTF8]
  rfl

/-! ## Writing -/

def hexDigit (value : UInt8) : UInt8 :=
  if value < 10 then 0x30 + value else 0x57 + value

/-- Quotes, backslashes and control characters are escaped; every other byte is
copied. -/
def escape (byte : UInt8) : Bytes :=
  if byte = quote then [backslash, quote]
  else if byte = backslash then [backslash, backslash]
  else if byte = 0x08 then [backslash, letterB]
  else if byte = 0x09 then [backslash, letterT]
  else if byte = newline then [backslash, letterN]
  else if byte = 0x0C then [backslash, letterF]
  else if byte = 0x0D then [backslash, letterR]
  else if byte < 0x20 then
    [backslash, letterU, 0x30, 0x30, hexDigit (byte / 16), hexDigit (byte % 16)]
  else [byte]

def writeString (text : String) : Bytes :=
  quote :: (encode text).flatMap escape ++ [quote]

/-- The digits of a number. -/
def writeNat (number : Nat) : Bytes :=
  (Nat.toDigits 10 number).map fun digit => digit.toNat.toUInt8

def writeInt (number : Int) : Bytes :=
  if number < 0 then minus :: writeNat number.natAbs
  else writeNat number.natAbs

def indentation (depth : Nat) : Bytes :=
  List.replicate (4 * depth) space

section Writing

variable (floats : Floats)

mutual

/-- The text of a value inside a document, `depth` levels deep. -/
def write (depth : Nat) : Json → Bytes
  | .null => encode "null"
  | .boolean true => encode "true"
  | .boolean false => encode "false"
  | .integer number => writeInt number
  | .fraction number => floats.write number
  | .string text => writeString text
  | .array [] => [leftBracket, rightBracket]
  | .array (item :: rest) =>
      leftBracket :: newline :: indentation (depth + 1) ++
        write (depth + 1) item ++ writeItems (depth + 1) rest ++
        newline :: indentation depth ++ [rightBracket]
  | .object [] => [leftBrace, rightBrace]
  | .object ((key, value) :: rest) =>
      leftBrace :: newline :: indentation (depth + 1) ++ writeString key ++
        [colon, space] ++ write (depth + 1) value ++
        writeMembers (depth + 1) rest ++
        newline :: indentation depth ++ [rightBrace]

/-- The items after the first one. -/
def writeItems (depth : Nat) : List Json → Bytes
  | [] => []
  | item :: rest =>
      comma :: newline :: indentation depth ++ write depth item ++
        writeItems depth rest

/-- The members after the first one. -/
def writeMembers (depth : Nat) : List (String × Json) → Bytes
  | [] => []
  | (key, value) :: rest =>
      comma :: newline :: indentation depth ++ writeString key ++
        [colon, space] ++ write depth value ++ writeMembers depth rest

end

end Writing

/-! ## Layouts -/

def isSpace (byte : UInt8) : Bool :=
  byte = space || byte = newline || byte = 0x09 || byte = 0x0D

/-- What stands before an item, so many levels deep, and after a colon: only
spaces. -/
structure Layout where
  line : Nat → Bytes
  afterColon : Bytes
  isSpace_line : ∀ depth, ∀ byte ∈ line depth, isSpace byte = true
  isSpace_afterColon : ∀ byte ∈ afterColon, isSpace byte = true

/-- The start of a line. -/
theorem isSpace_of_mem_line (depth : Nat) :
    ∀ byte ∈ newline :: indentation depth, isSpace byte = true := by
  intro byte member
  rcases List.mem_cons.mp member with rfl | member
  · rfl
  · rw [List.eq_of_mem_replicate member]
    rfl

/-- Every member and item on a line of its own. -/
def Layout.indented : Layout where
  line depth := newline :: indentation depth
  afterColon := [space]
  isSpace_line := isSpace_of_mem_line
  isSpace_afterColon := List.forall_mem_singleton.mpr rfl

/-- Everything on one line, without a space. -/
def Layout.compact : Layout where
  line _ := []
  afterColon := []
  isSpace_line _ _ member := nomatch member
  isSpace_afterColon _ member := nomatch member

section Layouts

variable (layout : Layout) (floats : Floats)

mutual

/-- The text of a value in a layout, `depth` levels deep. -/
def writeIn (depth : Nat) : Json → Bytes
  | .null => encode "null"
  | .boolean true => encode "true"
  | .boolean false => encode "false"
  | .integer number => writeInt number
  | .fraction number => floats.write number
  | .string text => writeString text
  | .array [] => [leftBracket, rightBracket]
  | .array (item :: rest) =>
      leftBracket :: layout.line (depth + 1) ++ writeIn (depth + 1) item ++
        writeItemsIn (depth + 1) rest ++ layout.line depth ++ [rightBracket]
  | .object [] => [leftBrace, rightBrace]
  | .object ((key, value) :: rest) =>
      leftBrace :: layout.line (depth + 1) ++ writeString key ++
        colon :: layout.afterColon ++ writeIn (depth + 1) value ++
        writeMembersIn (depth + 1) rest ++ layout.line depth ++ [rightBrace]

/-- The items after the first one. -/
def writeItemsIn (depth : Nat) : List Json → Bytes
  | [] => []
  | item :: rest =>
      comma :: layout.line depth ++ writeIn depth item ++
        writeItemsIn depth rest

/-- The members after the first one. -/
def writeMembersIn (depth : Nat) : List (String × Json) → Bytes
  | [] => []
  | (key, value) :: rest =>
      comma :: layout.line depth ++ writeString key ++
        colon :: layout.afterColon ++ writeIn depth value ++
        writeMembersIn depth rest

end

end Layouts

mutual

theorem writeIn_indented (floats : Floats) (depth : Nat) :
    ∀ json, writeIn .indented floats depth json = write floats depth json
  | .null => by rw [writeIn, write]
  | .boolean true => by rw [writeIn, write]
  | .boolean false => by rw [writeIn, write]
  | .integer _ => by rw [writeIn, write]
  | .fraction _ => by rw [writeIn, write]
  | .string _ => by rw [writeIn, write]
  | .array [] => by rw [writeIn, write]
  | .array (item :: rest) => by
      rw [writeIn, write, writeIn_indented floats (depth + 1) item,
        writeItemsIn_indented floats (depth + 1) rest]
      simp [Layout.indented]
  | .object [] => by rw [writeIn, write]
  | .object ((key, value) :: rest) => by
      rw [writeIn, write, writeIn_indented floats (depth + 1) value,
        writeMembersIn_indented floats (depth + 1) rest]
      simp [Layout.indented]

theorem writeItemsIn_indented (floats : Floats) (depth : Nat) :
    ∀ items, writeItemsIn .indented floats depth items =
      writeItems floats depth items
  | [] => by rw [writeItemsIn, writeItems]
  | item :: rest => by
      rw [writeItemsIn, writeItems, writeIn_indented floats depth item,
        writeItemsIn_indented floats depth rest]
      simp [Layout.indented]

theorem writeMembersIn_indented (floats : Floats) (depth : Nat) :
    ∀ members, writeMembersIn .indented floats depth members =
      writeMembers floats depth members
  | [] => by rw [writeMembersIn, writeMembers]
  | (key, value) :: rest => by
      rw [writeMembersIn, writeMembers, writeIn_indented floats depth value,
        writeMembersIn_indented floats depth rest]
      simp [Layout.indented]

end

/-- `json.dump()`: the text of a document on one line. -/
def writeCompact (floats : Floats) (json : Json) : Bytes :=
  writeIn .compact floats 0 json

/-! ## Reading -/

def skipSpace (bytes : Bytes) : Bytes :=
  bytes.dropWhile isSpace

def isDigit (byte : UInt8) : Bool :=
  0x30 ≤ byte && byte ≤ 0x39

def hexValue (byte : UInt8) : Option Nat :=
  if isDigit byte then some (byte - 0x30).toNat
  else if 0x61 ≤ byte && byte ≤ 0x66 then some (byte - 0x57).toNat
  else if 0x41 ≤ byte && byte ≤ 0x46 then some (byte - 0x37).toNat
  else none

/-- The four digits of an escaped code unit. -/
def hexValue4 (first second third fourth : UInt8) : Option Nat := do
  return (((← hexValue first) * 16 + (← hexValue second)) * 16 +
    (← hexValue third)) * 16 + (← hexValue fourth)

/-- The escapes of one letter. -/
def unescape (byte : UInt8) : Option UInt8 :=
  if byte = quote then some quote
  else if byte = backslash then some backslash
  else if byte = slash then some slash
  else if byte = letterB then some 0x08
  else if byte = letterF then some 0x0C
  else if byte = letterN then some newline
  else if byte = letterR then some 0x0D
  else if byte = letterT then some 0x09
  else none

def isHighSurrogate (unit : Nat) : Bool :=
  0xD800 ≤ unit && unit ≤ 0xDBFF

def isLowSurrogate (unit : Nat) : Bool :=
  0xDC00 ≤ unit && unit ≤ 0xDFFF

def encodePoint (point : Nat) : Bytes :=
  String.utf8EncodeChar (Char.ofNat point)

/-- The bytes of a string up to its closing quote, and what follows. -/
def readBytes : Bytes → Option (Bytes × Bytes)
  | [] => none
  | byte :: rest =>
      if byte = quote then some ([], rest)
      else if byte < 0x20 then none
      else if byte ≠ backslash then do
        let (others, after) ← readBytes rest
        return (byte :: others, after)
      else
        match rest with
        | [] => none
        | letter :: rest =>
            if letter ≠ letterU then do
              let escaped ← unescape letter
              let (others, after) ← readBytes rest
              return (escaped :: others, after)
            else
              match rest with
              | first :: second :: third :: fourth :: rest => do
                  let unit ← hexValue4 first second third fourth
                  if isLowSurrogate unit then none
                  else if isHighSurrogate unit then
                    match rest with
                    | slash' :: letter' :: first' :: second' :: third' ::
                        fourth' :: rest => do
                        if slash' ≠ backslash || letter' ≠ letterU then none
                        else
                          let low ← hexValue4 first' second' third' fourth'
                          if isLowSurrogate low then do
                            let (others, after) ← readBytes rest
                            return (encodePoint (0x10000 +
                              (unit - 0xD800) * 0x400 + (low - 0xDC00)) ++
                                others, after)
                          else none
                    | _ => none
                  else do
                    let (others, after) ← readBytes rest
                    return (encodePoint unit ++ others, after)
              | _ => none

/-- A string after its opening quote. -/
def readString (bytes : Bytes) : Option (String × Bytes) := do
  let (content, after) ← readBytes bytes
  return (← decode content, after)

/-- The number that digits stand for. -/
def natOf (digits : Bytes) : Nat :=
  digits.foldl (fun number digit => number * 10 + (digit - 0x30).toNat) 0

/-- The digits before the point; a leading zero stands alone. -/
def takeDigits (bytes : Bytes) : Bytes × Bytes :=
  match bytes with
  | [] => ([], [])
  | digit :: rest =>
      if digit = 0x30 then ([digit], rest) else (digit :: rest).span isDigit

/-- The point and the digits after it, if there are any. -/
def takeFraction (bytes : Bytes) : Option (Bytes × Bytes) :=
  match bytes with
  | [] => some ([], [])
  | head :: rest =>
      if head = point then
        match rest.span isDigit with
        | ([], _) => none
        | (digits, after) => some (head :: digits, after)
      else some ([], head :: rest)

/-- The exponent, if there is one. -/
def takeExponent (bytes : Bytes) : Option (Bytes × Bytes) :=
  match bytes with
  | [] => some ([], [])
  | head :: rest =>
      if head = 0x65 || head = 0x45 then
        let (sign, rest) :=
          match rest with
          | [] => ([], [])
          | sign :: digits =>
              if sign = minus || sign = 0x2B then ([sign], digits)
              else ([], sign :: digits)
        match rest.span isDigit with
        | ([], _) => none
        | (digits, after) => some (head :: sign ++ digits, after)
      else some ([], head :: rest)

/-- The integers that are kept as such. -/
def isMachineInteger (number : Int) : Bool :=
  -2 ^ 63 ≤ number && number < 2 ^ 64

/-- The sign of a negative number. -/
def takeSign (bytes : Bytes) : Bytes × Bytes :=
  match bytes with
  | [] => ([], [])
  | head :: rest => if head = minus then ([head], rest) else ([], head :: rest)

def readNumber (floats : Floats) (bytes : Bytes) : Option (Json × Bytes) :=
  let (sign, rest) := takeSign bytes
  match takeDigits rest with
  | ([], _) => none
  | (digits, rest) => do
      let (fraction, rest) ← takeFraction rest
      let (exponent, rest) ← takeExponent rest
      let number : Int :=
        if sign.isEmpty then natOf digits else -(natOf digits : Int)
      if fraction.isEmpty && exponent.isEmpty && isMachineInteger number then
        return (.integer number, rest)
      else
        return (.fraction (floats.read (sign ++ digits ++ fraction ++ exponent)),
          rest)

/-- What follows a word. -/
def takeWord (word : String) (bytes : Bytes) : Option Bytes :=
  if (encode word).isPrefixOf bytes then
    some (bytes.drop (encode word).length)
  else none

/-- The object with some members; the last one under a key counts. -/
def ofMembers (members : List (String × Json)) : Json :=
  .object (members.foldl
    (fun map member => map.insert member.1 member.2)
    (∅ : Std.ExtTreeMap String Json)).toList

/-- A document with the members of an object in the order of their keys. -/
def inOrder : Json → Json
  | .object members => ofMembers members
  | json => json

/-- `json[key] = value`; what is neither an object nor null throws. -/
def setMember (key : String) (value : Json) : Json → Option Json
  | .object members => some (ofMembers (members ++ [(key, value)]))
  | .null => some (ofMembers [(key, value)])
  | _ => none

/-- `json.items()`: the values and their keys. -/
def items : Json → List (String × Json)
  | .object members => members
  | .array list => list.mapIdx fun index value => (toString index, value)
  | .null => []
  | json => [("", json)]

section Reading

variable (floats : Floats)

mutual

/-- The value at the start of a text, and what follows it.  The fuel bounds the
number of values. -/
def readValue : Nat → Bytes → Option (Json × Bytes)
  | 0, _ => none
  | fuel + 1, bytes =>
      match skipSpace bytes with
      | [] => none
      | head :: rest =>
          if head = quote then do
            let (text, rest) ← readString rest
            return (.string text, rest)
          else if head = leftBrace then
            match skipSpace rest with
            | [] => none
            | next :: after =>
                if next = rightBrace then return (.object [], after)
                else do
                  let (members, rest) ← readMembers fuel (next :: after)
                  return (ofMembers members, rest)
          else if head = leftBracket then
            match skipSpace rest with
            | [] => none
            | next :: after =>
                if next = rightBracket then return (.array [], after)
                else do
                  let (items, rest) ← readItems fuel (next :: after)
                  return (.array items, rest)
          else if head = letterT then do
            return (.boolean true, ← takeWord "true" (head :: rest))
          else if head = letterF then do
            return (.boolean false, ← takeWord "false" (head :: rest))
          else if head = letterN then do
            return (.null, ← takeWord "null" (head :: rest))
          else readNumber floats (head :: rest)

/-- The items of an array that is not empty, up to its closing bracket. -/
def readItems : Nat → Bytes → Option (List Json × Bytes)
  | 0, _ => none
  | fuel + 1, bytes => do
      let (item, rest) ← readValue fuel bytes
      match skipSpace rest with
      | [] => none
      | next :: after =>
          if next = rightBracket then return ([item], after)
          else if next = comma then do
            let (items, rest) ← readItems fuel after
            return (item :: items, rest)
          else none

/-- The members of an object that is not empty, up to its closing brace. -/
def readMembers : Nat → Bytes → Option (List (String × Json) × Bytes)
  | 0, _ => none
  | fuel + 1, bytes =>
      match skipSpace bytes with
      | [] => none
      | head :: rest =>
          if head ≠ quote then none
          else do
            let (key, rest) ← readString rest
            match skipSpace rest with
            | [] => none
            | next :: after =>
                if next ≠ colon then none
                else do
                  let (value, rest) ← readValue fuel after
                  match skipSpace rest with
                  | [] => none
                  | next :: after =>
                      if next = rightBrace then return ([(key, value)], after)
                      else if next = comma then do
                        let (members, rest) ← readMembers fuel after
                        return ((key, value) :: members, rest)
                      else none

end

/-- `stream >> json`: the first value of a stream, whatever follows it. -/
def readFirst (bytes : Bytes) : Option Json :=
  (readValue floats (2 * bytes.length) bytes).map (·.1)

/-- `json::parse`: the value of the whole text. -/
def parse (bytes : Bytes) : Option Json := do
  let (json, rest) ← readValue floats (2 * bytes.length) bytes
  if (skipSpace rest).isEmpty then return json else none

end Reading

end JsonText
