import AppExecFwk.Codec.TwoDocuments
import AppExecFwk.Library.JsonOrder

/-!
# Records read back from documents in order

The document of a record reaches another process as text, and its objects come
back with their members in the order of the keys.  A record whose decoder uses
result variables of its own is read back from such a document whatever the
shared variables hold.
-/

namespace AppExecFwk

open JsonText

variable {α β : Type}

/-- The decoder returns what the encoder was given, from the document in
order. -/
class ReadsBack (get : Json → Decode α) (put : outParam (α → Json)) :
    Prop where
  get_put : ∀ value results,
    get (normalize (put value)) results = (.ok value, results)

/-- The encoder writes an object whose members have distinct keys. -/
class WritesRecord (put : α → Json) : Prop where
  isObject : ∀ value, (put value).isObject = true
  isWritable : ∀ value, IsWritable (put value)

/-- A member that is read through the record's own variable is read back, if
`data` is what it held before. -/
class MemberReadsBack (get : Json → Decode α) (put : outParam (α → Json))
    (jsonType : JsonType) (arrayType : ArrayType) (data : α) : Prop where
  read_put : ∀ value results {key : String} {json : Json} {isNecessary : Bool},
    results.here = ErrCode.ok →
    json.find? key = some (normalize (put value)) →
    getValueIfFindKey get json key data jsonType isNecessary .here arrayType
      results = (.ok value, results)

/-- The kind of a document does not depend on the order of its members. -/
theorem admits_normalize (jsonType : JsonType) (json : Json) :
    jsonType.admits (normalize json) = jsonType.admits json := by
  cases json with
  | array items =>
      rw [normalize_array]
      cases jsonType <;> rfl
  | object members =>
      rw [normalize_object]
      cases jsonType <;> rfl
  | _ => rfl

theorem admits_item_normalize (arrayType : ArrayType) (json : Json) :
    arrayType.admits (normalize json) = arrayType.admits json := by
  cases arrayType with
  | number => exact admits_normalize .number json
  | object => exact admits_normalize .object json
  | string => exact admits_normalize .string json
  | notArray => rfl

namespace ReadsBack

variable {get : Json → Decode α} {put : α → Json}

/-- A conversion that neither reads nor writes a result variable. -/
theorem of_roundTrip [member : RoundTrip get put]
    (inOrder : ∀ value, normalize (put value) = put value)
    (pure : ∀ json, ∃ outcome, ∀ results, get json results =
      (outcome, results)) : ReadsBack get put where
  get_put value results := by
    obtain ⟨outcome, converted⟩ := pure (put value)
    have readBack := member.get_put value {} rfl
    rw [converted, Prod.mk.injEq] at readBack
    rw [inOrder, converted, readBack.1]

instance : ReadsBack getString .string :=
  of_roundTrip (fun _ => rfl)
    fun json => by cases json <;> exact ⟨_, fun _ => rfl⟩

instance : ReadsBack getBool .boolean :=
  of_roundTrip (fun _ => rfl)
    fun json => by cases json <;> exact ⟨_, fun _ => rfl⟩

instance : ReadsBack getInt32 (fun value => .integer value.toInt) :=
  of_roundTrip (fun _ => rfl)
    fun json => by cases json <;> exact ⟨_, fun _ => rfl⟩

instance : ReadsBack getUInt32 (fun value => .integer value.toNat) :=
  of_roundTrip (fun _ => rfl)
    fun json => by cases json <;> exact ⟨_, fun _ => rfl⟩

instance : ReadsBack getInt32AsUInt32 (fun value => .integer value.toNat) :=
  of_roundTrip (fun _ => rfl)
    fun json => by cases json <;> exact ⟨_, fun _ => rfl⟩

instance : ReadsBack getInt64 (fun value => .integer value.toInt) :=
  of_roundTrip (fun _ => rfl)
    fun json => by cases json <;> exact ⟨_, fun _ => rfl⟩

instance {cast : Int32 → α} {value : α → Int32}
    [RoundTrip (getEnum cast) (putEnum value)] :
    ReadsBack (getEnum cast) (putEnum value) :=
  of_roundTrip (fun _ => rfl)
    fun json => by cases json <;> exact ⟨_, fun _ => rfl⟩

instance [item : ReadsBack get put] :
    ReadsBack (getVector get) (.ofList put) where
  get_put items results := by
    have decoded : Decoder.all get (items.map (normalize ∘ put)) results =
        (.ok (items.map id), results) :=
      Decoder.all_map_of_ok fun entry _ => item.get_put entry results
    rw [Json.ofList, normalize_array, List.map_map]
    simpa [getVector] using decoded

instance [value : ReadsBack get put] :
    ReadsBack (getMap get) (.ofMap put) where
  get_put map results := by
    have kept : ∀ entry, get (normalize (put entry)) results =
        (.ok (id entry), results) :=
      fun entry => value.get_put entry results
    rw [normalize_ofMap]
    simpa using @getMap_ofMap _ _ (fun value => normalize (put value)) id _
      kept map

end ReadsBack

namespace MemberReadsBack

variable {get : Json → Decode α} {put : α → Json} {data : α}

/-- A member that is not an array is converted once its type is checked. -/
theorem of_admits [member : ReadsBack get put] {jsonType : JsonType}
    (admits : ∀ value, jsonType.admits (put value) = true)
    (notArray : jsonType ≠ .array) :
    MemberReadsBack get put jsonType .notArray data where
  read_put := by
    intro value results key json isNecessary unset found
    have isValue : findMember json key jsonType isNecessary .notArray =
        .value (normalize (put value)) := by
      simp only [findMember, found, admits_normalize, admits]
      cases jsonType <;> simp_all
    exact getValueIfFindKey_of_value unset isValue
      (member.get_put value results)

/-- A list is converted once its items are checked; an empty one is not read
at all. -/
theorem of_items [item : ReadsBack get put] {arrayType : ArrayType}
    (admits : ∀ value, arrayType.admits (put value) = true)
    (isArray : arrayType ≠ .notArray) :
    MemberReadsBack (getVector get) (.ofList put) .array arrayType [] where
  read_put := by
    intro items results key json isNecessary unset found
    rw [Json.ofList, normalize_array, List.map_map] at found
    cases items with
    | nil =>
        simp [getValueIfFindKey, ResultVar.read, unset, findMember, found,
          JsonType.admits, Json.isArray, checkArrayType]
    | cons head tail =>
        have checked : checkArrayType
            ((head :: tail).map (normalize ∘ put)) arrayType =
              .value (.array ((head :: tail).map (normalize ∘ put))) := by
          cases arrayType <;>
            simp_all [checkArrayType, admits_item_normalize]
        have isValue : findMember json key .array isNecessary arrayType =
            .value (.array ((head :: tail).map (normalize ∘ put))) := by
          simpa [findMember, found, JsonType.admits, Json.isArray] using checked
        have decoded : getVector get (normalize (.ofList put (head :: tail)))
            results = (.ok (head :: tail), results) :=
          ReadsBack.get_put _ results
        rw [Json.ofList, normalize_array, List.map_map] at decoded
        exact getValueIfFindKey_of_value unset isValue decoded

instance {data : String} :
    MemberReadsBack getString .string .string .notArray data :=
  of_admits (fun _ => rfl) nofun

instance {data : Bool} :
    MemberReadsBack getBool .boolean .boolean .notArray data :=
  of_admits (fun _ => rfl) nofun

instance {data : Int32} : MemberReadsBack getInt32
    (fun value => .integer value.toInt) .number .notArray data :=
  of_admits (fun _ => rfl) nofun

instance {data : UInt32} : MemberReadsBack getUInt32
    (fun value => .integer value.toNat) .number .notArray data :=
  of_admits (fun _ => rfl) nofun

instance {data : UInt32} : MemberReadsBack getInt32AsUInt32
    (fun value => .integer value.toNat) .number .notArray data :=
  of_admits (fun _ => rfl) nofun

instance {data : Int64} : MemberReadsBack getInt64
    (fun value => .integer value.toInt) .number .notArray data :=
  of_admits (fun _ => rfl) nofun

instance {cast : Int32 → α} {value : α → Int32}
    [RoundTrip (getEnum cast) (putEnum value)] :
    MemberReadsBack (getEnum cast) (putEnum value) .number .notArray data :=
  of_admits (fun _ => rfl) nofun

instance : MemberReadsBack (getVector getString) (.ofList .string) .array
    .string [] :=
  of_items (fun _ => rfl) nofun

instance : MemberReadsBack (getVector getInt32)
    (.ofList fun value => .integer value.toInt) .array .number [] :=
  of_items (fun _ => rfl) nofun

instance [ReadsBack get put] [record : WritesRecord put] :
    MemberReadsBack get put .object .notArray data :=
  of_admits record.isObject nofun

instance [ReadsBack get put] [record : WritesRecord put] :
    MemberReadsBack (getVector get) (.ofList put) .array .object [] :=
  of_items record.isObject nofun

instance [ReadsBack get put] {map : Std.ExtTreeMap String α} :
    MemberReadsBack (getMap get) (.ofMap put) .object .notArray map :=
  of_admits (fun _ => rfl) nofun

end MemberReadsBack

section Rules

variable {get : Json → Decode α} {put : α → Json} {results : ParseResults}
  {json : Json} {key : String} {value : α} {next : α → Decode β}
  {outcome : Except JsonException β × ParseResults}

/-- A member is read back from the document in order, and decoding goes on. -/
theorem readBack_then {isNecessary : Bool} {jsonType : JsonType}
    {arrayType : ArrayType} {data : α}
    [member : MemberReadsBack get put jsonType arrayType data]
    (writable : IsWritable json) (unset : results.here = ErrCode.ok)
    (stored : json.find? key = some (put value))
    (rest : next value results = outcome) :
    (getValueIfFindKey get (normalize json) key data jsonType isNecessary .here
      arrayType >>= next) results = outcome := by
  have found : (normalize json).find? key = some (normalize (put value)) := by
    rw [find?_normalize writable, stored]
    rfl
  rw [Decoder.bind_apply_of_ok (member.read_put value results unset found),
    rest]

/-- A member that was not written keeps what it held before. -/
theorem readBack_absent {jsonType : JsonType} {arrayType : ArrayType}
    (writable : IsWritable json) (absent : json.find? key = none)
    (rest : next value results = outcome) :
    (getValueIfFindKey get (normalize json) key value jsonType false .here
      arrayType >>= next) results = outcome := by
  refine absent_then ?_ rest
  rw [find?_normalize writable, absent]
  rfl

end Rules

/-! ## What can be written -/

section Writable

@[simp]
theorem isWritable_string (text : String) : IsWritable (.string text) :=
  .string text

@[simp]
theorem isWritable_boolean (value : Bool) : IsWritable (.boolean value) :=
  .boolean value

@[simp]
theorem isWritable_int32 (value : Int32) :
    IsWritable (.integer value.toInt) := by
  refine .integer ?_
  have lower := value.le_toInt
  have upper := value.toInt_lt
  simp only [isMachineInteger, Bool.and_eq_true, decide_eq_true_eq]
  omega

@[simp]
theorem isWritable_int64 (value : Int64) :
    IsWritable (.integer value.toInt) := by
  refine .integer ?_
  have lower := value.le_toInt
  have upper := value.toInt_lt
  simp only [isMachineInteger, Bool.and_eq_true, decide_eq_true_eq]
  omega

@[simp]
theorem isWritable_uint32 (value : UInt32) :
    IsWritable (.integer value.toNat) := by
  refine .integer ?_
  have upper := value.toNat_lt
  simp only [isMachineInteger, Bool.and_eq_true, decide_eq_true_eq]
  omega

attribute [simp] isWritable_ofList isWritable_ofMap

end Writable

end AppExecFwk
