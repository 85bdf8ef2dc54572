import AppExecFwk.Codec.JsonUtil
import AppExecFwk.Info.Base
import AppExecFwk.Library.OrderedMap

/-!
# Decoders that undo an encoder

A record is written and read back by two hand-written functions.  This file
states that one undoes the other, proves it for the conversions of the document
library, and gives the rule with which it is proved for a record: each member
that is found under its key is read back as it was written.
-/

namespace AppExecFwk

/-- The decoder returns what the encoder was given and keeps the result
variables, provided that the shared one holds no error. -/
class RoundTrip {α : Type} (get : Json → Decode α)
    (put : outParam (α → Json)) : Prop where
  get_put : ∀ value results, results.reader = ErrCode.ok →
    get (put value) results = (.ok value, results)

theorem uint32_ofInt_toNat (value : UInt32) :
    UInt32.ofInt value.toNat = value := by
  apply UInt32.toNat.inj
  have bound := value.toNat_lt
  change ((value.toNat : Int) % 2 ^ 32).toNat % 2 ^ 32 = value.toNat
  omega

/-- An enumerator is written as its underlying integer. -/
def putEnum {α : Type} (value : α → Int32) (enumerator : α) : Json :=
  .integer (value enumerator).toInt

namespace RoundTrip

instance : RoundTrip getString .string where
  get_put := by intros; rfl

instance : RoundTrip getBool .boolean where
  get_put := by intros; rfl

instance : RoundTrip getInt32 (fun value => .integer value.toInt) where
  get_put := by
    intro value results _
    simp [getInt32, getInteger, bind, Decoder.bind, Decoder.ok]

instance : RoundTrip getUInt32 (fun value => .integer value.toNat) where
  get_put := by
    intro value results _
    simp [getUInt32, getInteger, bind, Decoder.bind, Decoder.ok,
      uint32_ofInt_toNat]

instance : RoundTrip getInt32AsUInt32 (fun value => .integer value.toNat) where
  get_put := by
    intro value results _
    have cast : (Int32.ofInt value.toNat).toUInt32 = value := by
      rw [Int32.ofInt_eq_ofNat, Int32.toUInt32_ofNat']
      simp
    simp [getInt32AsUInt32, getInt32, getInteger, bind, Decoder.bind,
      Decoder.ok, cast]

instance : RoundTrip getInt64 (fun value => .integer value.toInt) where
  get_put := by
    intro value results _
    simp [getInt64, getNumber, bind, Decoder.bind, Decoder.ok]

/-- A cast from the underlying integer undoes the cast to it. -/
theorem getEnum_put {α : Type} {cast : Int32 → α} {value : α → Int32}
    (cast_value : ∀ enumerator, cast (value enumerator) = enumerator) :
    RoundTrip (getEnum cast) (putEnum value) where
  get_put := by
    intro enumerator results _
    simp [getEnum, getNumber, bind, Decoder.bind, Decoder.ok,
      putEnum, cast_value]

instance : RoundTrip (getEnum AppType.mk) (putEnum AppType.value) :=
  getEnum_put fun _ => rfl

instance : RoundTrip (getEnum AbilityType.mk) (putEnum AbilityType.value) :=
  getEnum_put fun _ => rfl

instance : RoundTrip (getEnum ExtensionAbilityType.mk) (putEnum ExtensionAbilityType.value) :=
  getEnum_put fun _ => rfl

instance : RoundTrip (getEnum DisplayOrientation.mk) (putEnum DisplayOrientation.value) :=
  getEnum_put fun _ => rfl

instance : RoundTrip (getEnum LaunchMode.mk) (putEnum LaunchMode.value) :=
  getEnum_put fun _ => rfl

instance : RoundTrip (getEnum ModuleColorMode.mk) (putEnum ModuleColorMode.value) :=
  getEnum_put fun _ => rfl

instance : RoundTrip (getEnum ModuleType.mk) (putEnum ModuleType.value) :=
  getEnum_put fun _ => rfl

instance : RoundTrip (getEnum FormType.mk) (putEnum FormType.value) :=
  getEnum_put fun _ => rfl

instance : RoundTrip (getEnum FormsColorMode.mk) (putEnum FormsColorMode.value) :=
  getEnum_put fun _ => rfl

instance {α : Type} {get : Json → Decode α} {put : α → Json}
    [item : RoundTrip get put] : RoundTrip (getVector get) (.ofList put) where
  get_put := by
    intro items results clean
    have decoded : Decoder.all get (items.map put) results =
        (.ok (items.map id), results) :=
      Decoder.all_map_of_ok fun entry _ => item.get_put entry results clean
    simpa [getVector, Json.ofList] using decoded

end RoundTrip

/-- A map is read back with every value as the decoder of the values keeps
it. -/
theorem getMap_ofMap {α : Type} {get : Json → Decode α} {put : α → Json}
    {kept : α → α} {results : ParseResults}
    (decoded : ∀ value, get (put value) results = (.ok (kept value), results))
    (map : Std.ExtTreeMap String α) :
    getMap get (.ofMap put map) results =
      (.ok (map.map fun _ value => kept value), results) := by
  have entries : Decoder.all
      (fun member : String × Json => do return (member.1, ← get member.2))
      (map.toList.map fun entry => (entry.1, put entry.2)) results =
      (.ok (map.toList.map fun entry => (entry.1, kept entry.2)), results) := by
    refine Decoder.all_map_of_ok fun entry _ => ?_
    rw [Decoder.bind_apply_of_ok (decoded entry.2)]
    rfl
  have listed : (map.map fun _ value => kept value).toList =
      map.toList.map fun entry => (entry.1, kept entry.2) :=
    Std.ExtTreeMap.toList_map
  simp only [getMap, Json.ofMap]
  rw [Decoder.bind_apply_of_ok entries, ← listed,
    Std.ExtTreeMap.foldl_insertIfNew_toList]
  rfl

instance {α : Type} {get : Json → Decode α} {put : α → Json}
    [value : RoundTrip get put] : RoundTrip (getMap get) (.ofMap put) where
  get_put := by
    intro map results clean
    have kept : ∀ entry, get (put entry) results = (.ok (id entry), results) :=
      fun entry => value.get_put entry results clean
    simpa using getMap_ofMap kept map

/-- A record: its encoder writes an object, which its decoder reads back. -/
class RecordRoundTrip {α : Type} (get : Json → Decode α)
    (put : outParam (α → Json)) : Prop extends RoundTrip get put where
  isObject : ∀ value, (put value).isObject = true

/-- Under the types given to `getValueIfFindKey` a member is read back as it
was written, if `data` is what it held before. -/
class MemberRoundTrip {α : Type} (get : Json → Decode α)
    (put : outParam (α → Json)) (jsonType : JsonType) (arrayType : ArrayType)
    (data : α) : Prop where
  read_put : ∀ value results {key : String} {json : Json} {isNecessary : Bool}
      {parseResult : ResultVar},
    results.reader = ErrCode.ok → parseResult.read results = ErrCode.ok →
    json.find? key = some (put value) →
    getValueIfFindKey get json key data jsonType isNecessary parseResult
      arrayType results = (.ok value, results)

/-- A member whose type is right is converted. -/
theorem getValueIfFindKey_of_value {α : Type} {get : Json → Decode α}
    {json found : Json} {key : String} {data value : α} {jsonType : JsonType}
    {isNecessary : Bool} {parseResult : ResultVar} {arrayType : ArrayType}
    {results after : ParseResults}
    (unset : parseResult.read results = ErrCode.ok)
    (isValue : findMember json key jsonType isNecessary arrayType =
      .value found)
    (got : get found results = (.ok value, after)) :
    getValueIfFindKey get json key data jsonType isNecessary parseResult
      arrayType results = (.ok value, after) := by
  simp [getValueIfFindKey, unset, isValue, got]

namespace MemberRoundTrip

variable {α : Type} {get : Json → Decode α} {put : α → Json} {data : α}

/-- A member that is not an array is converted once its type is checked. -/
theorem of_admits [member : RoundTrip get put] {jsonType : JsonType}
    (admits : ∀ value, jsonType.admits (put value) = true)
    (notArray : jsonType ≠ .array) :
    MemberRoundTrip get put jsonType .notArray data where
  read_put := by
    intro value results key json isNecessary parseResult clean unset found
    have isValue : findMember json key jsonType isNecessary .notArray =
        .value (put value) := by
      simp only [findMember, found, admits]
      cases jsonType <;> simp_all
    exact getValueIfFindKey_of_value unset isValue
      (member.get_put value results clean)

/-- A list is converted once its items are checked; an empty one is not read
at all. -/
theorem of_items [item : RoundTrip get put] {arrayType : ArrayType}
    (admits : ∀ value, arrayType.admits (put value) = true)
    (isArray : arrayType ≠ .notArray) :
    MemberRoundTrip (getVector get) (.ofList put) .array arrayType [] where
  read_put := by
    intro items results key json isNecessary parseResult clean unset found
    cases items with
    | nil =>
        simp [getValueIfFindKey, unset, findMember, found, Json.ofList,
          JsonType.admits, Json.isArray, checkArrayType]
    | cons head tail =>
        have checked : checkArrayType ((head :: tail).map put) arrayType =
            .value (.ofList put (head :: tail)) := by
          cases arrayType <;> simp_all [checkArrayType, Json.ofList]
        have isValue : findMember json key .array isNecessary arrayType =
            .value (.ofList put (head :: tail)) := by
          simpa [findMember, found, Json.ofList, JsonType.admits,
            Json.isArray] using checked
        have decoded := (inferInstance : RoundTrip (getVector get)
          (.ofList put)).get_put (head :: tail) results clean
        exact getValueIfFindKey_of_value unset isValue decoded

instance {data : String} :
    MemberRoundTrip getString .string .string .notArray data :=
  of_admits (fun _ => rfl) nofun

instance {data : Bool} :
    MemberRoundTrip getBool .boolean .boolean .notArray data :=
  of_admits (fun _ => rfl) nofun

instance {data : Int32} : MemberRoundTrip getInt32 (fun value => .integer value.toInt)
    .number .notArray data :=
  of_admits (fun _ => rfl) nofun

instance {data : UInt32} : MemberRoundTrip getUInt32 (fun value => .integer value.toNat)
    .number .notArray data :=
  of_admits (fun _ => rfl) nofun

instance {data : UInt32} : MemberRoundTrip getInt32AsUInt32
    (fun value => .integer value.toNat) .number .notArray data :=
  of_admits (fun _ => rfl) nofun

instance {data : Int64} : MemberRoundTrip getInt64 (fun value => .integer value.toInt)
    .number .notArray data :=
  of_admits (fun _ => rfl) nofun

instance {cast : Int32 → α} {value : α → Int32}
    [RoundTrip (getEnum cast) (putEnum value)] :
    MemberRoundTrip (getEnum cast) (putEnum value) .number .notArray data :=
  of_admits (fun _ => rfl) nofun

instance : MemberRoundTrip (getVector getString) (.ofList .string) .array
    .string [] :=
  of_items (fun _ => rfl) nofun

instance : MemberRoundTrip (getVector getInt32)
    (.ofList fun value => .integer value.toInt) .array .number [] :=
  of_items (fun _ => rfl) nofun

instance [record : RecordRoundTrip get put] :
    MemberRoundTrip get put .object .notArray data :=
  of_admits record.isObject nofun

instance [record : RecordRoundTrip get put] :
    MemberRoundTrip (getVector get) (.ofList put) .array .object [] :=
  of_items record.isObject nofun

instance [RoundTrip get put] {map : Std.ExtTreeMap String α} :
    MemberRoundTrip (getMap get) (.ofMap put) .object .notArray map :=
  of_admits (fun _ => rfl) nofun

end MemberRoundTrip

section Rules

variable {α β : Type} {get : Json → Decode α} {put : α → Json}
  {results : ParseResults} {json : Json} {key : String} {value : α}
  {next : α → Decode β} {outcome : Except JsonException β × ParseResults}

/-- A member is read back as it was written, and decoding goes on. -/
theorem read_then {parseResult : ResultVar} {isNecessary : Bool}
    {jsonType : JsonType} {arrayType : ArrayType} {data : α}
    [member : MemberRoundTrip get put jsonType arrayType data]
    (clean : results.reader = ErrCode.ok)
    (unset : parseResult.read results = ErrCode.ok)
    (found : json.find? key = some (put value))
    (rest : next value results = outcome) :
    (getValueIfFindKey get json key data jsonType isNecessary parseResult
      arrayType >>= next) results = outcome := by
  rw [Decoder.bind_apply_of_ok
    (member.read_put value results clean unset found), rest]

/-- A member that was not written keeps what it held before. -/
theorem absent_then {parseResult : ResultVar} {jsonType : JsonType}
    {arrayType : ArrayType} (absent : json.find? key = none)
    (rest : next value results = outcome) :
    (getValueIfFindKey get json key value jsonType false parseResult
      arrayType >>= next) results = outcome := by
  have kept : getValueIfFindKey get json key value jsonType false parseResult
      arrayType results = (.ok value, results) := by
    simp [getValueIfFindKey, findMember, absent]
  rw [Decoder.bind_apply_of_ok kept, rest]

/-- A member that has to be there is read back as it was written. -/
theorem atKey_then [member : RoundTrip get put]
    (clean : results.reader = ErrCode.ok)
    (found : json.find? key = some (put value))
    (rest : next value results = outcome) :
    (atKey json key >>= fun stored => get stored >>= next) results =
      outcome := by
  have looked : atKey json key results = (.ok (put value), results) := by
    cases json with
    | object members =>
        rw [Json.find?_object] at found
        simp [atKey, found, Decoder.ok]
    | _ => simp [Json.find?] at found
  rw [Decoder.bind_apply_of_ok looked,
    Decoder.bind_apply_of_ok (member.get_put value results clean), rest]

/-- A record with its own result variable starts with a clean one. -/
theorem withLocal_of_ok {decode : Decode α} {value : α}
    (decoded : decode { results with here := ErrCode.ok } =
      (.ok value, { results with here := ErrCode.ok })) :
    withLocal decode results = (.ok value, results) := by
  simp [withLocal, decoded]

/-- What is read with a variable of its own reports no error. -/
theorem withResult_then {decode : Decode α}
    {next : ErrCode × α → Decode β}
    (decoded : decode { results with here := ErrCode.ok } =
      (.ok value, { results with here := ErrCode.ok }))
    (rest : next (ErrCode.ok, value) results = outcome) :
    (withResult decode >>= next) results = outcome := by
  have kept : withResult decode results = (.ok (ErrCode.ok, value), results) :=
    withLocal_of_ok (by simp [decoded])
  rw [Decoder.bind_apply_of_ok kept, rest]

theorem takeResult_then {next : ErrCode → Decode β}
    (clean : results.reader = ErrCode.ok)
    (rest : next ErrCode.ok results = outcome) :
    (takeResult .reader >>= next) results = outcome := by
  have taken : takeResult .reader results = (.ok ErrCode.ok, results) := by
    cases results
    simp_all [takeResult, ResultVar.read, ResultVar.write]
  rw [Decoder.bind_apply_of_ok taken, rest]

end Rules

end AppExecFwk
