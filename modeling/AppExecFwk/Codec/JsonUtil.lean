import AppExecFwk.Info.ErrCode
import AppExecFwk.Library.Json

/-!
# Reading members of a document

Every record reads its members with `getValueIfFindKey`, which reports a
missing or mistyped member through a result variable instead of throwing.  Some
records use a variable of their own, others one of the two variables that all
decodes of a thread share: `ProfileReader::parseResult` and
`Profile::parseResult`.  A variable that already holds an error stops all
further reads through it.
-/

namespace AppExecFwk

/-- The result variables a decode can write: the two shared ones, and the one
of the record that is being read. -/
structure ParseResults where
  reader : ErrCode := ErrCode.ok
  profile : ErrCode := ErrCode.ok
  here : ErrCode := ErrCode.ok
  deriving DecidableEq

/-- One of the result variables. -/
inductive ResultVar where
  | reader
  | profile
  | here

namespace ResultVar

def read : ResultVar → ParseResults → ErrCode
  | reader, results => results.reader
  | profile, results => results.profile
  | here, results => results.here

def write : ResultVar → ErrCode → ParseResults → ParseResults
  | reader, code, results => { results with reader := code }
  | profile, code, results => { results with profile := code }
  | here, code, results => { results with here := code }

end ResultVar

/-- A decoder of a record. -/
abbrev Decode (α : Type) := Decoder ParseResults α

/-- Decode with a fresh result variable of the record's own. -/
def withLocal {α : Type} (decode : Decode α) : Decode α :=
  fun results =>
    let (value, after) := decode { results with here := ErrCode.ok }
    (value, { after with here := results.here })

/-- Decode with a fresh result variable and return it with the value. -/
def withResult {α : Type} (decode : Decode α) : Decode (ErrCode × α) :=
  withLocal fun results =>
    match decode results with
    | (.ok value, after) => (.ok (after.here, value), after)
    | (.error exception, after) => (.error exception, after)

/-- Read a result variable and reset it. -/
def takeResult (parseResult : ResultVar) : Decode ErrCode :=
  fun results =>
    (.ok (parseResult.read results), parseResult.write ErrCode.ok results)

/-- The type a member is expected to have. -/
inductive JsonType where
  | boolean
  | number
  | object
  | array
  | string

/-- The type the items of an array are expected to have. -/
inductive ArrayType where
  | number
  | object
  | string
  | notArray

def JsonType.admits : JsonType → Json → Bool
  | boolean, json => json.isBoolean
  | number, json => json.isNumber
  | object, json => json.isObject
  | array, json => json.isArray
  | string, json => json.isString

def ArrayType.admits : ArrayType → Json → Bool
  | number, json => json.isNumber
  | object, json => json.isObject
  | string, json => json.isString
  | notArray, _ => false

/-- What a member turns out to be: nothing to read, an error to report, or a
value to convert. -/
inductive Member where
  | skip
  | error (code : ErrCode)
  | value (json : Json)

/-- An empty array leaves the data as it is, and so does a wrong item type
expected of the array as a whole. -/
def checkArrayType (items : List Json) (arrayType : ArrayType) : Member :=
  match items, arrayType with
  | [], _ => .skip
  | _, .notArray => .skip
  | _, _ =>
      if items.all arrayType.admits then .value (.array items)
      else .error ErrCode.parseProfilePropTypeError

/-- Look a member up and check its type. -/
def findMember (json : Json) (key : String) (jsonType : JsonType)
    (isNecessary : Bool) (arrayType : ArrayType) : Member :=
  match json.find? key with
  | none =>
      if isNecessary then .error ErrCode.parseProfileMissingProp else .skip
  | some found =>
      if !jsonType.admits found then .error ErrCode.parseProfilePropTypeError
      else
        match jsonType, found with
        | .array, .array items => checkArrayType items arrayType
        | _, _ => .value found

/-- Read a member into `data`, unless the result variable holds an error. -/
def getValueIfFindKey {α : Type} (get : Json → Decode α) (json : Json)
    (key : String) (data : α) (jsonType : JsonType) (isNecessary : Bool)
    (parseResult : ResultVar) (arrayType : ArrayType) : Decode α :=
  fun results =>
    if parseResult.read results ≠ ErrCode.ok then (.ok data, results)
    else
      match findMember json key jsonType isNecessary arrayType with
      | .skip => (.ok data, results)
      | .error code => (.ok data, parseResult.write code results)
      | .value found => get found results

/-- `json.at(key)`, which throws where the key is missing. -/
def atKey (json : Json) (key : String) : Decode Json :=
  match json with
  | .object members =>
      match Json.findMember members key with
      | some found => Decoder.ok found
      | none => Decoder.throw .outOfRange
  | _ => Decoder.throw .typeError

/-! ## The conversions of the document library -/

def getString : Json → Decode String
  | .string value => Decoder.ok value
  | _ => Decoder.throw .typeError

def getBool : Json → Decode Bool
  | .boolean value => Decoder.ok value
  | _ => Decoder.throw .typeError

/-- The integer an arithmetic conversion starts from; a fraction is cut. -/
def getInteger : Json → Decode Int
  | .integer value => Decoder.ok value
  | .fraction value => Decoder.ok (value.num.tdiv value.den)
  | .boolean value => Decoder.ok (if value then 1 else 0)
  | _ => Decoder.throw .typeError

/-- The conversion to the library's own integer type and to an enumeration
takes no truth value. -/
def getNumber : Json → Decode Int
  | .integer value => Decoder.ok value
  | .fraction value => Decoder.ok (value.num.tdiv value.den)
  | _ => Decoder.throw .typeError

def getInt32 (json : Json) : Decode Int32 := do
  return Int32.ofInt (← getInteger json)

def getUInt32 (json : Json) : Decode UInt32 := do
  return UInt32.ofInt (← getInteger json)

/-- A signed integer that is assigned to an unsigned member. -/
def getInt32AsUInt32 (json : Json) : Decode UInt32 := do
  return (← getInt32 json).toUInt32

def getInt64 (json : Json) : Decode Int64 := do
  return Int64.ofInt (← getNumber json)

/-- An enumeration is read as its underlying integer and cast. -/
def getEnum {α : Type} (cast : Int32 → α) (json : Json) : Decode α := do
  return cast (Int32.ofInt (← getNumber json))

def getVector {α : Type} (get : Json → Decode α) : Json → Decode (List α)
  | .array items => Decoder.all get items
  | _ => Decoder.throw .typeError

/-- A map is read in the order of the keys; a key that is there stays. -/
def getMap {α : Type} (get : Json → Decode α) :
    Json → Decode (Std.ExtTreeMap String α)
  | .object members => do
      let entries ← Decoder.all (fun member => do
        return (member.1, ← get member.2)) members
      return entries.foldl (fun map entry => map.insertIfNew entry.1 entry.2) ∅
  | _ => Decoder.throw .typeError

/-! ## Members by the type they are read as -/

section Members

variable (parseResult : ResultVar) (json : Json) (key : String)

def readString (data : String) (isNecessary : Bool := false) : Decode String :=
  getValueIfFindKey getString json key data .string isNecessary parseResult
    .notArray

def readBool (data : Bool) (isNecessary : Bool := false) : Decode Bool :=
  getValueIfFindKey getBool json key data .boolean isNecessary parseResult
    .notArray

def readInt32 (data : Int32) (isNecessary : Bool := false) : Decode Int32 :=
  getValueIfFindKey getInt32 json key data .number isNecessary parseResult
    .notArray

def readUInt32 (data : UInt32) (isNecessary : Bool := false) :
    Decode UInt32 :=
  getValueIfFindKey getUInt32 json key data .number isNecessary parseResult
    .notArray

def readInt32AsUInt32 (data : UInt32) (isNecessary : Bool := false) :
    Decode UInt32 :=
  getValueIfFindKey getInt32AsUInt32 json key data .number isNecessary
    parseResult .notArray

def readInt64 (data : Int64) (isNecessary : Bool := false) : Decode Int64 :=
  getValueIfFindKey getInt64 json key data .number isNecessary parseResult
    .notArray

def readEnum {α : Type} (cast : Int32 → α) (data : α)
    (isNecessary : Bool := false) : Decode α :=
  getValueIfFindKey (getEnum cast) json key data .number isNecessary
    parseResult .notArray

def readStrings (data : List String) (isNecessary : Bool := false) :
    Decode (List String) :=
  getValueIfFindKey (getVector getString) json key data .array isNecessary
    parseResult .string

def readInt32s (data : List Int32) (isNecessary : Bool := false) :
    Decode (List Int32) :=
  getValueIfFindKey (getVector getInt32) json key data .array isNecessary
    parseResult .number

def readObjects {α : Type} (get : Json → Decode α) (data : List α)
    (isNecessary : Bool := false) : Decode (List α) :=
  getValueIfFindKey (getVector get) json key data .array isNecessary
    parseResult .object

def readObject {α : Type} (get : Json → Decode α) (data : α)
    (isNecessary : Bool := false) : Decode α :=
  getValueIfFindKey get json key data .object isNecessary parseResult
    .notArray

def readMap {α : Type} (get : Json → Decode α)
    (data : Std.ExtTreeMap String α) (isNecessary : Bool := false) :
    Decode (Std.ExtTreeMap String α) :=
  getValueIfFindKey (getMap get) json key data .object isNecessary parseResult
    .notArray

end Members

end AppExecFwk
