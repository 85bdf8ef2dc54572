import AppExecFwk.Codec.BundleCodec
import AppExecFwk.Codec.ReadBack

/-!
# Bundle information across a process boundary

Bundle information is sent to another process as the text of its document.  No
two members of a record share a key, so the text is parsed back to the document
and every member is read back.  The length of the text is sent in 32 bits.
-/

namespace AppExecFwk

open JsonText

/-! ## The records in order -/

@[simp]
theorem CustomizeData.isWritable_toJson (info : CustomizeData) :
    IsWritable info.toJson := by
  refine .object ?_ ?_
  · simp only [List.map_cons, List.map_nil]
    decide +kernel
  · simp

instance : WritesRecord CustomizeData.toJson where
  isObject _ := rfl
  isWritable := CustomizeData.isWritable_toJson

instance : ReadsBack CustomizeData.fromJson CustomizeData.toJson where
  get_put info results := by
    have writable := info.isWritable_toJson
    apply withLocal_of_ok
    dsimp only
    repeat refine readBack_then writable rfl rfl ?_
    rfl

@[simp]
theorem MetaData.isWritable_toJson (info : MetaData) :
    IsWritable info.toJson := by
  refine .object ?_ ?_
  · simp only [List.map_cons, List.map_nil]
    decide +kernel
  · simp

instance : WritesRecord MetaData.toJson where
  isObject _ := rfl
  isWritable := MetaData.isWritable_toJson

instance : ReadsBack MetaData.fromJson MetaData.toJson where
  get_put info results := by
    have writable := info.isWritable_toJson
    apply withLocal_of_ok
    dsimp only
    repeat refine readBack_then writable rfl rfl ?_
    rfl

@[simp]
theorem Metadata.isWritable_toJson (info : Metadata) :
    IsWritable info.toJson := by
  refine .object ?_ ?_
  · simp only [List.map_cons, List.map_nil]
    decide +kernel
  · simp

instance : WritesRecord Metadata.toJson where
  isObject _ := rfl
  isWritable := Metadata.isWritable_toJson

instance : ReadsBack Metadata.fromJson Metadata.toJson where
  get_put info results := by
    have writable := info.isWritable_toJson
    apply withLocal_of_ok
    dsimp only
    repeat refine readBack_then writable rfl rfl ?_
    rfl

@[simp]
theorem ModuleInfo.isWritable_toJson (info : ModuleInfo) :
    IsWritable info.toJson := by
  refine .object ?_ ?_
  · simp only [List.map_cons, List.map_nil]
    decide +kernel
  · simp

instance : WritesRecord ModuleInfo.toJson where
  isObject _ := rfl
  isWritable := ModuleInfo.isWritable_toJson

instance : ReadsBack ModuleInfo.fromJson ModuleInfo.toJson where
  get_put info results := by
    have writable := info.isWritable_toJson
    apply withLocal_of_ok
    dsimp only
    repeat refine readBack_then writable rfl rfl ?_
    rfl

@[simp]
theorem ApplicationInfo.isWritable_toJson (info : ApplicationInfo) :
    IsWritable info.toJson := by
  refine .object ?_ ?_
  · simp only [List.map_cons, List.map_nil]
    decide +kernel
  · simp

instance : WritesRecord ApplicationInfo.toJson where
  isObject _ := rfl
  isWritable := ApplicationInfo.isWritable_toJson

instance : ReadsBack ApplicationInfo.fromJson ApplicationInfo.toJson where
  get_put info results := by
    have writable := info.isWritable_toJson
    apply withLocal_of_ok
    dsimp only
    repeat refine readBack_then writable rfl rfl ?_
    rfl

@[simp]
theorem AbilityInfo.isWritable_toJson (info : AbilityInfo) :
    IsWritable info.toJson := by
  refine .object ?_ ?_
  · simp only [List.map_cons, List.map_nil]
    decide +kernel
  · simp

instance : WritesRecord AbilityInfo.toJson where
  isObject _ := rfl
  isWritable := AbilityInfo.isWritable_toJson

instance : ReadsBack AbilityInfo.fromJson AbilityInfo.toJson where
  get_put info results := by
    have writable := info.isWritable_toJson
    apply withLocal_of_ok
    dsimp only
    repeat refine readBack_then writable rfl rfl ?_
    rfl

@[simp]
theorem ExtensionAbilityInfo.isWritable_toJson (info : ExtensionAbilityInfo) :
    IsWritable info.toJson := by
  refine .object ?_ ?_
  · simp only [List.map_cons, List.map_nil]
    decide +kernel
  · simp

instance : WritesRecord ExtensionAbilityInfo.toJson where
  isObject _ := rfl
  isWritable := ExtensionAbilityInfo.isWritable_toJson

instance :
    ReadsBack ExtensionAbilityInfo.fromJson ExtensionAbilityInfo.toJson where
  get_put info results := by
    have writable := info.isWritable_toJson
    apply withLocal_of_ok
    dsimp only
    repeat refine readBack_then writable rfl rfl ?_
    rfl

@[simp]
theorem RequestPermissionUsedScene.isWritable_toJson
    (info : RequestPermissionUsedScene) :
    IsWritable info.toJson := by
  refine .object ?_ ?_
  · simp only [List.map_cons, List.map_nil]
    decide +kernel
  · simp

instance : WritesRecord RequestPermissionUsedScene.toJson where
  isObject _ := rfl
  isWritable := RequestPermissionUsedScene.isWritable_toJson

instance :
    ReadsBack RequestPermissionUsedScene.fromJson RequestPermissionUsedScene.toJson where
  get_put info results := by
    have writable := info.isWritable_toJson
    apply withLocal_of_ok
    dsimp only
    repeat
      first
        | refine readBack_then writable rfl rfl ?_
        | refine readBack_absent writable rfl ?_
    rfl

@[simp]
theorem RequestPermission.isWritable_toJson (info : RequestPermission) :
    IsWritable info.toJson := by
  refine .object ?_ ?_
  · simp only [List.map_cons, List.map_nil]
    decide +kernel
  · simp

instance : WritesRecord RequestPermission.toJson where
  isObject _ := rfl
  isWritable := RequestPermission.isWritable_toJson

instance : ReadsBack RequestPermission.fromJson RequestPermission.toJson where
  get_put info results := by
    have writable := info.isWritable_toJson
    apply withLocal_of_ok
    dsimp only
    repeat refine readBack_then writable rfl rfl ?_
    rfl

@[simp]
theorem HapModuleInfo.isWritable_toJson (info : HapModuleInfo) :
    IsWritable info.toJson := by
  refine .object ?_ ?_
  · simp only [List.map_cons, List.map_nil]
    decide +kernel
  · simp

instance : WritesRecord HapModuleInfo.toJson where
  isObject _ := rfl
  isWritable := HapModuleInfo.isWritable_toJson

instance : ReadsBack HapModuleInfo.fromJson HapModuleInfo.toJson where
  get_put info results := by
    have writable := info.isWritable_toJson
    apply withLocal_of_ok
    dsimp only
    repeat refine readBack_then writable rfl rfl ?_
    rfl

@[simp]
theorem BundleInfo.isWritable_toJson (info : BundleInfo) :
    IsWritable info.toJson := by
  refine .object ?_ ?_
  · simp only [List.map_cons, List.map_nil]
    decide +kernel
  · simp

instance : WritesRecord BundleInfo.toJson where
  isObject _ := rfl
  isWritable := BundleInfo.isWritable_toJson

instance : ReadsBack BundleInfo.fromJson BundleInfo.toJson where
  get_put info results := by
    have writable := info.isWritable_toJson
    apply withLocal_of_ok
    dsimp only
    repeat refine readBack_then writable rfl rfl ?_
    rfl

/-! ## The parcel -/

/-- What is written into a message parcel. -/
inductive ParcelItem where
  | uint32 (value : UInt32)
  | rawData (bytes : Bytes)

/-- A message parcel returns what was written into it, in that order; raw data
are returned under the length with which they were written. -/
structure MessageParcel (σ : Type) where
  items : σ → List ParcelItem
  writeUint32 : UInt32 → σ → Bool × σ
  writeRawData : Bytes → σ → Bool × σ
  readUint32 : σ → UInt32 × σ
  readRawData : Nat → σ → Option Bytes × σ
  writeUint32_spec : ∀ value state, (writeUint32 value state).1 = true ∧
    items (writeUint32 value state).2 = items state ++ [.uint32 value]
  writeRawData_spec : ∀ bytes state, (writeRawData bytes state).1 = true ∧
    items (writeRawData bytes state).2 = items state ++ [.rawData bytes]
  readUint32_spec : ∀ value rest state, items state = .uint32 value :: rest →
    (readUint32 state).1 = value ∧ items (readUint32 state).2 = rest
  readRawData_spec : ∀ bytes rest length state,
    items state = .rawData bytes :: rest →
      (readRawData length state).1 =
        if length = bytes.length then some bytes else none

/-- A parcel that is the list of what was written. -/
def MessageParcel.ofList : MessageParcel (List ParcelItem) where
  items := id
  writeUint32 value state := (true, state ++ [.uint32 value])
  writeRawData bytes state := (true, state ++ [.rawData bytes])
  readUint32 state :=
    match state with
    | .uint32 value :: rest => (value, rest)
    | _ => (0, state)
  readRawData length state :=
    match state with
    | .rawData bytes :: rest =>
        (if length = bytes.length then some bytes else none, rest)
    | _ => (none, state)
  writeUint32_spec _ _ := ⟨rfl, rfl⟩
  writeRawData_spec _ _ := ⟨rfl, rfl⟩
  readUint32_spec value rest state same := by
    change state = _ at same
    subst same
    exact ⟨rfl, rfl⟩
  readRawData_spec bytes rest length state same := by
    change state = _ at same
    subst same
    rfl

namespace BundleInfo

variable {σ : Type} (parcel : MessageParcel σ) (floats : Floats)

/-- The text of the document, which keeps its members in order. -/
def text (info : BundleInfo) : Bytes :=
  writeCompact floats (normalize info.toJson)

/-- The text is sent with the zero byte at its end. -/
def marshalling (info : BundleInfo) (state : σ) : Bool × σ :=
  let str := info.text floats
  let (written, state) :=
    parcel.writeUint32 (UInt32.ofNat (str.length + 1)) state
  if !written then (false, state)
  else
    let (written, state) := parcel.writeRawData (str ++ [0]) state
    if !written then (false, state) else (true, state)

def readFromParcel (state : σ) : Decode (Option BundleInfo) :=
  let (length, state) := parcel.readUint32 state
  if length = 0 then return none
  else
    match (parcel.readRawData length.toNat state).1 with
    | none => return none
    | some data =>
        -- the text ends at the first zero byte
        match parse floats (data.takeWhile (· ≠ 0)) with
        | none => return none
        | some jsonObject => do
            return some (← fromJson jsonObject)

/-- A failure to read gives a null pointer. -/
def unmarshalling (state : σ) : Decode (Option BundleInfo) :=
  readFromParcel parcel floats state

/-- The text is parsed back up to its zero byte. -/
theorem parse_text (info : BundleInfo) :
    parse floats ((info.text floats ++ [0]).takeWhile (· ≠ 0)) =
      some (normalize info.toJson) := by
  have plain := isPlain_normalize info.isWritable_toJson
  have notZero : ∀ byte ∈ info.text floats, byte ≠ 0 := by
    unfold text writeCompact
    exact notZero_of_mem_writeIn plain 0
  have whole : (info.text floats ++ [0]).takeWhile (· ≠ 0) =
      info.text floats := by
    rw [List.takeWhile_append_of_pos fun byte member => by
      simpa using notZero byte member]
    simp
  rw [whole, text]
  exact parse_writeCompact plain

variable {parcel floats}

/-- What is sent into an empty parcel. -/
theorem items_marshalling (info : BundleInfo) {start : σ}
    (isEmpty : parcel.items start = []) :
    (info.marshalling parcel floats start).1 = true ∧
      parcel.items (info.marshalling parcel floats start).2 =
        [.uint32 (UInt32.ofNat ((info.text floats).length + 1)),
          .rawData (info.text floats ++ [0])] := by
  obtain ⟨lengthWritten, lengthItems⟩ := parcel.writeUint32_spec
    (UInt32.ofNat ((info.text floats).length + 1)) start
  obtain ⟨dataWritten, dataItems⟩ := parcel.writeRawData_spec
    (info.text floats ++ [0]) (parcel.writeUint32
      (UInt32.ofNat ((info.text floats).length + 1)) start).2
  rw [lengthItems, isEmpty] at dataItems
  simp only [marshalling, lengthWritten, dataWritten, Bool.not_true,
    Bool.false_eq_true, if_false]
  exact ⟨trivial, dataItems⟩

/-- What is read from a parcel with a length and a text. -/
theorem unmarshalling_of_items (info : BundleInfo) {sent : σ}
    {length : UInt32} (items : parcel.items sent =
      [.uint32 length, .rawData (info.text floats ++ [0])])
    (results : ParseResults) :
    unmarshalling parcel floats sent results =
      (.ok (if length.toNat = (info.text floats).length + 1 then some info
        else none), results) := by
  obtain ⟨lengthRead, left⟩ := parcel.readUint32_spec _ _ sent items
  have dataRead := parcel.readRawData_spec _ _ length.toNat _ left
  rw [List.length_append, List.length_singleton] at dataRead
  unfold unmarshalling readFromParcel
  simp only [lengthRead, dataRead]
  by_cases fits : length.toNat = (info.text floats).length + 1
  · have notZero : length ≠ 0 := by
      rintro rfl
      simp at fits
    have decoded : fromJson (normalize info.toJson) results =
        (.ok info, results) := ReadsBack.get_put info results
    rw [if_neg notZero, if_pos fits, if_pos fits]
    simp only [parse_text]
    rw [Decoder.bind_apply_of_ok decoded]
    rfl
  · rw [if_neg fits, if_neg fits]
    split <;> rfl

/-- Every document that is sent has distinct keys in every record, sending it
succeeds, and it is received exactly if its length fits into 32 bits. -/
theorem crossing_iff (parcel : MessageParcel σ) (floats : Floats)
    (info : BundleInfo) (start : σ) (isEmpty : parcel.items start = [])
    (results : ParseResults) :
    IsWritable info.toJson ∧
    (info.marshalling parcel floats start).1 = true ∧
    (unmarshalling parcel floats (info.marshalling parcel floats start).2
        results = (.ok (some info), results) ↔
      (info.text floats).length + 1 < 2 ^ 32) := by
  obtain ⟨written, items⟩ := @items_marshalling σ parcel floats info start
    isEmpty
  refine ⟨info.isWritable_toJson, written, ?_⟩
  rw [unmarshalling_of_items info items, UInt32.toNat_ofNat']
  constructor
  · intro received
    by_contra large
    rw [if_neg (by omega)] at received
    cases received
  · intro small
    rw [if_pos (Nat.mod_eq_of_lt small)]

theorem crossing_iff_empty :
    IsWritable (toJson {}) ∧
    (marshalling .ofList ⟨fun _ => [], fun _ => 0⟩ {} []).1 = true ∧
    (unmarshalling .ofList ⟨fun _ => [], fun _ => 0⟩
        (marshalling .ofList ⟨fun _ => [], fun _ => 0⟩ {} []).2 {} =
          (.ok (some {}), {}) ↔
      (text ⟨fun _ => [], fun _ => 0⟩ {}).length + 1 < 2 ^ 32) :=
  crossing_iff .ofList ⟨fun _ => [], fun _ => 0⟩ {} [] rfl {}

/-- The text is at least as long as the description. -/
theorem length_description_le (info : BundleInfo) :
    info.description.toList.length ≤ (info.text floats).length := by
  have stored : info.toJson.find? "description" =
      some (.string info.description) := rfl
  have found : (normalize info.toJson).find? "description" =
      some (.string info.description) := by
    rw [find?_normalize info.isWritable_toJson, stored]
    rfl
  have inText := @length_le_writeIn_of_find? .compact floats 0 _ _ _ found
  have characters := length_le_writeString info.description
  rw [writeIn] at inText
  unfold text writeCompact
  omega

/-- A description of that many letters is sent, but nothing is received. -/
theorem longDescription_lost :
    (marshalling .ofList ⟨fun _ => [], fun _ => 0⟩
      { description := .ofList (List.replicate (2 ^ 32) 'a') } []).1 = true ∧
    unmarshalling .ofList ⟨fun _ => [], fun _ => 0⟩
      (marshalling .ofList ⟨fun _ => [], fun _ => 0⟩
        { description := .ofList (List.replicate (2 ^ 32) 'a') } []).2 {} =
      (.ok none, {}) := by
  have lost (letters : List Char) (long : 2 ^ 32 ≤ letters.length) :
      (marshalling .ofList ⟨fun _ => [], fun _ => 0⟩
        { description := .ofList letters } []).1 = true ∧
      unmarshalling .ofList ⟨fun _ => [], fun _ => 0⟩
        (marshalling .ofList ⟨fun _ => [], fun _ => 0⟩
          { description := .ofList letters } []).2 {} = (.ok none, {}) := by
    obtain ⟨written, items⟩ := @items_marshalling _ .ofList
      ⟨fun _ => [], fun _ => 0⟩ { description := .ofList letters } [] rfl
    refine ⟨written, ?_⟩
    have atLeast := @length_description_le ⟨fun _ => [], fun _ => 0⟩
      { description := .ofList letters }
    rw [String.toList_ofList] at atLeast
    rw [unmarshalling_of_items _ items, UInt32.toNat_ofNat', if_neg (by omega)]
  exact lost _ (by rw [List.length_replicate])

end BundleInfo


end AppExecFwk
