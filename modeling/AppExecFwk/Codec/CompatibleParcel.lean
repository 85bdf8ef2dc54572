import AppExecFwk.Codec.CompatibleInfo

/-!
# Compatible information in a parcel

Each record is written into a parcel by its own list of writes and read by its
own list of reads.  Strings travel in UTF-16.  The writer sends the size of a
list cast to 32 bits and that many items; the reader refuses a size above a
limit and an empty string in a list.
-/

namespace AppExecFwk

open ChannelProgram

/-- The most permissions, device capabilities and modules that are read. -/
def maxLimitSize : Int32 := 4

/-- The most device types that are read. -/
def maxDeviceTypeSize : Int32 := 50

/-! ## The parcel -/

/-- A conversion of strings to 16-bit strings and back loses nothing. -/
structure StringConversion (υ : Type) where
  str8ToStr16 : String → υ
  str16ToStr8 : υ → String
  str16ToStr8_str8ToStr16 : ∀ text, str16ToStr8 (str8ToStr16 text) = text

/-- What is written into a parcel; an object is written as a mark and what its
own `Marshalling` writes. -/
inductive ParcelValue (υ : Type) where
  | string16 (value : υ)
  | int32 (value : Int32)
  | uint32 (value : UInt32)
  | bool (value : Bool)
  | parcelable

/-- A parcel returns the values written into it, in that order.  `readInt32`
says whether there is an integer; `readInt32Value` returns one in any case. -/
structure Parcel (σ υ : Type) extends StringConversion υ where
  values : σ → List (ParcelValue υ)
  writeString16 : υ → σ → Bool × σ
  writeInt32 : Int32 → σ → Bool × σ
  writeUint32 : UInt32 → σ → Bool × σ
  writeBool : Bool → σ → Bool × σ
  writeParcelable : (σ → Bool × σ) → σ → Bool × σ
  readString16 : σ → υ × σ
  readInt32 : σ → Option Int32 × σ
  readInt32Value : σ → Int32 × σ
  readUint32 : σ → UInt32 × σ
  readBool : σ → Bool × σ
  readParcelable : {α : Type} → (σ → Option α × σ) → σ → Option α × σ
  writeString16_spec : ∀ value state, (writeString16 value state).1 = true ∧
    values (writeString16 value state).2 = values state ++ [.string16 value]
  writeInt32_spec : ∀ value state, (writeInt32 value state).1 = true ∧
    values (writeInt32 value state).2 = values state ++ [.int32 value]
  writeUint32_spec : ∀ value state, (writeUint32 value state).1 = true ∧
    values (writeUint32 value state).2 = values state ++ [.uint32 value]
  writeBool_spec : ∀ value state, (writeBool value state).1 = true ∧
    values (writeBool value state).2 = values state ++ [.bool value]
  writeParcelable_spec : ∀ marshalling added,
    (∀ state, (marshalling state).1 = true ∧
      values (marshalling state).2 = values state ++ added) →
    ∀ state, (writeParcelable marshalling state).1 = true ∧
      values (writeParcelable marshalling state).2 =
        values state ++ .parcelable :: added
  readString16_spec : ∀ value rest state,
    values state = .string16 value :: rest →
      (readString16 state).1 = value ∧ values (readString16 state).2 = rest
  readInt32_spec : ∀ value rest state, values state = .int32 value :: rest →
    (readInt32 state).1 = some value ∧ values (readInt32 state).2 = rest
  readInt32Value_spec : ∀ value rest state,
    values state = .int32 value :: rest →
      (readInt32Value state).1 = value ∧ values (readInt32Value state).2 = rest
  readUint32_spec : ∀ value rest state, values state = .uint32 value :: rest →
    (readUint32 state).1 = value ∧ values (readUint32 state).2 = rest
  readBool_spec : ∀ value rest state, values state = .bool value :: rest →
    (readBool state).1 = value ∧ values (readBool state).2 = rest
  readParcelable_spec : ∀ {α : Type} (unmarshalling : σ → Option α × σ) taken
    value, (∀ state rest, values state = taken ++ rest →
      (unmarshalling state).1 = some value ∧
        values (unmarshalling state).2 = rest) →
    ∀ state rest, values state = .parcelable :: taken ++ rest →
      (readParcelable unmarshalling state).1 = some value ∧
        values (readParcelable unmarshalling state).2 = rest
  readParcelable_some : ∀ {α : Type} (unmarshalling : σ → Option α × σ) state
    value, (readParcelable unmarshalling state).1 = some value →
      ∃ other, (unmarshalling other).1 = some value

/-- The conversion to the units of UTF-16 and back. -/
def StringConversion.utf16 : StringConversion (List UInt16) where
  str8ToStr16 text := Utf16.encode text.toList
  str16ToStr8 units := .ofList (Utf16.decode units)
  str16ToStr8_str8ToStr16 text := by
    rw [Utf16.decode_encode, String.ofList_toList]

/-- A parcel that is the list of what was written. -/
def Parcel.ofList :
    Parcel (List (ParcelValue (List UInt16))) (List UInt16) where
  toStringConversion := .utf16
  values := id
  writeString16 value state := (true, state ++ [.string16 value])
  writeInt32 value state := (true, state ++ [.int32 value])
  writeUint32 value state := (true, state ++ [.uint32 value])
  writeBool value state := (true, state ++ [.bool value])
  writeParcelable marshalling state := marshalling (state ++ [.parcelable])
  readString16 state :=
    match state with
    | .string16 value :: rest => (value, rest)
    | _ => ([], state)
  readInt32 state :=
    match state with
    | .int32 value :: rest => (some value, rest)
    | _ => (none, state)
  readInt32Value state :=
    match state with
    | .int32 value :: rest => (value, rest)
    | _ => (0, state)
  readUint32 state :=
    match state with
    | .uint32 value :: rest => (value, rest)
    | _ => (0, state)
  readBool state :=
    match state with
    | .bool value :: rest => (value, rest)
    | _ => (false, state)
  readParcelable unmarshalling state :=
    match state with
    | .parcelable :: rest => unmarshalling rest
    | _ => (none, state)
  writeString16_spec _ _ := ⟨rfl, rfl⟩
  writeInt32_spec _ _ := ⟨rfl, rfl⟩
  writeUint32_spec _ _ := ⟨rfl, rfl⟩
  writeBool_spec _ _ := ⟨rfl, rfl⟩
  writeParcelable_spec marshalling added adds state := by
    obtain ⟨succeeds, holds⟩ := adds (state ++ [.parcelable])
    refine ⟨succeeds, ?_⟩
    rw [holds]
    simp
  readString16_spec value rest state same := by
    change state = _ at same
    subst same
    exact ⟨rfl, rfl⟩
  readInt32_spec value rest state same := by
    change state = _ at same
    subst same
    exact ⟨rfl, rfl⟩
  readInt32Value_spec value rest state same := by
    change state = _ at same
    subst same
    exact ⟨rfl, rfl⟩
  readUint32_spec value rest state same := by
    change state = _ at same
    subst same
    exact ⟨rfl, rfl⟩
  readBool_spec value rest state same := by
    change state = _ at same
    subst same
    exact ⟨rfl, rfl⟩
  readParcelable_spec unmarshalling taken value takes state rest same := by
    change state = _ at same
    subst same
    exact takes (taken ++ rest) rest rfl
  readParcelable_some unmarshalling state value returned := by
    split at returned
    · exact ⟨_, returned⟩
    · cases returned

namespace Parcel

variable {σ υ α : Type} (parcel : Parcel σ υ)

/-! ## Single values and lists -/

def writeString (text : String) : ChannelProgram σ Unit :=
  ofFlag (parcel.writeString16 (parcel.str8ToStr16 text))

def readString : ChannelProgram σ String := do
  let text ← ofTotal parcel.readString16
  return parcel.str16ToStr8 text

/-- Writes the size of a list, cast to 32 bits, and that many of its items. -/
def writeList (write : α → ChannelProgram σ Unit) (items : List α) :
    ChannelProgram σ Unit := do
  let size := Int32.ofNat items.length
  ofFlag (parcel.writeInt32 size)
  writeEach write (items.take size.toInt.toNat)

/-- Reads a size, which is refused above the limit, and that many items. -/
def readList (limit : Int32) (read : ChannelProgram σ α) :
    ChannelProgram σ (List α) := do
  let size ← ofFunction parcel.readInt32
  if limit < size then failure else readEach read size.toInt.toNat

/-- Reads an item of a list of strings, which must not be empty. -/
def readItem : ChannelProgram σ String := do
  let text ← parcel.readString
  if text = "" then failure else return text

def writeModuleInfo (info : ModuleInfo) : ChannelProgram σ Unit := do
  parcel.writeString info.moduleName
  parcel.writeString info.moduleSourceDir

def readModuleInfo : ChannelProgram σ ModuleInfo := do
  let moduleName ← parcel.readString
  let moduleSourceDir ← parcel.readString
  if moduleName = "" ∨ moduleSourceDir = "" then failure
  else return { moduleName, moduleSourceDir }

end Parcel

/-! ## The records -/

variable {σ υ : Type} (parcel : Parcel σ υ)

def CompatibleApplicationInfo.marshalling (info : CompatibleApplicationInfo) :
    ChannelProgram σ Unit := do
  parcel.writeString info.name
  parcel.writeString info.icon
  parcel.writeString info.label
  parcel.writeString info.description
  parcel.writeString info.cpuAbi
  parcel.writeString info.process
  ofFlag (parcel.writeBool info.systemApp)
  ofFlag (parcel.writeInt32 info.supportedModes)
  ofFlag (parcel.writeInt32 info.iconId)
  ofFlag (parcel.writeInt32 info.descriptionId)
  ofFlag (parcel.writeInt32 info.labelId)
  ofFlag (parcel.writeBool info.isCompressNativeLibs)
  parcel.writeList parcel.writeString info.permissions
  parcel.writeList parcel.writeModuleInfo info.moduleInfos
  ofFlag (parcel.writeBool info.enabled)
  ofFlag (parcel.writeBool info.debug)

def CompatibleApplicationInfo.readFromParcel :
    ChannelProgram σ CompatibleApplicationInfo := do
  let name ← parcel.readString
  let icon ← parcel.readString
  let label ← parcel.readString
  let description ← parcel.readString
  let cpuAbi ← parcel.readString
  let process ← parcel.readString
  let systemApp ← ofTotal parcel.readBool
  let supportedModes ← ofTotal parcel.readInt32Value
  let iconId ← ofTotal parcel.readInt32Value
  let descriptionId ← ofTotal parcel.readInt32Value
  let labelId ← ofTotal parcel.readInt32Value
  let isCompressNativeLibs ← ofTotal parcel.readBool
  let permissions ← parcel.readList maxLimitSize parcel.readItem
  let moduleInfos ← parcel.readList maxLimitSize parcel.readModuleInfo
  let enabled ← ofTotal parcel.readBool
  let debug ← ofTotal parcel.readBool
  return {
    name, icon, label, description, cpuAbi, process, systemApp, supportedModes,
    iconId, descriptionId, labelId, isCompressNativeLibs, permissions,
    moduleInfos, enabled, debug }

/-- A failure to read gives a null pointer. -/
def CompatibleApplicationInfo.unmarshalling (state : σ) :
    Option CompatibleApplicationInfo × σ :=
  (CompatibleApplicationInfo.readFromParcel parcel).apply state

/-- The subkind is not written. -/
def CompatibleAbilityInfo.marshalling (info : CompatibleAbilityInfo) :
    ChannelProgram σ Unit := do
  parcel.writeString info.package
  parcel.writeString info.name
  parcel.writeString info.originalClassName
  parcel.writeString info.label
  parcel.writeString info.description
  parcel.writeString info.iconPath
  parcel.writeString info.uri
  parcel.writeString info.moduleName
  parcel.writeString info.process
  parcel.writeString info.targetAbility
  parcel.writeString info.appName
  parcel.writeString info.privacyUrl
  parcel.writeString info.privacyName
  parcel.writeString info.downloadUrl
  parcel.writeString info.versionName
  ofFlag (parcel.writeUint32 info.backgroundModes)
  ofFlag (parcel.writeUint32 info.packageSize)
  ofFlag (parcel.writeBool info.visible)
  ofFlag (parcel.writeBool info.formEnabled)
  ofFlag (parcel.writeBool info.multiUserShared)
  ofFlag (parcel.writeInt32 info.type.value)
  ofFlag (parcel.writeInt32 info.orientation.value)
  ofFlag (parcel.writeInt32 info.launchMode.value)
  parcel.writeList parcel.writeString info.permissions
  parcel.writeList parcel.writeString info.deviceTypes
  parcel.writeList parcel.writeString info.deviceCapabilities
  ofFlag (parcel.writeBool info.supportPipMode)
  ofFlag (parcel.writeBool info.grantPermission)
  parcel.writeString info.readPermission
  parcel.writeString info.writePermission
  parcel.writeString info.uriPermissionMode
  parcel.writeString info.uriPermissionPath
  ofFlag (parcel.writeBool info.directLaunch)
  parcel.writeString info.bundleName
  parcel.writeString info.className
  parcel.writeString info.deviceId
  ofFlag (parcel.writeParcelable
    (info.applicationInfo.marshalling parcel).toFlag)
  ofFlag (parcel.writeInt32 info.formEntity.toInt32)
  ofFlag (parcel.writeInt32 info.minFormHeight)
  ofFlag (parcel.writeInt32 info.defaultFormHeight)
  ofFlag (parcel.writeInt32 info.minFormWidth)
  ofFlag (parcel.writeInt32 info.defaultFormWidth)
  ofFlag (parcel.writeInt32 info.iconId)
  ofFlag (parcel.writeInt32 info.descriptionId)
  ofFlag (parcel.writeInt32 info.labelId)
  ofFlag (parcel.writeBool info.enabled)

/-- The subkind is not read. -/
def CompatibleAbilityInfo.readFromParcel :
    ChannelProgram σ CompatibleAbilityInfo := do
  let package ← parcel.readString
  let name ← parcel.readString
  let originalClassName ← parcel.readString
  let label ← parcel.readString
  let description ← parcel.readString
  let iconPath ← parcel.readString
  let uri ← parcel.readString
  let moduleName ← parcel.readString
  let process ← parcel.readString
  let targetAbility ← parcel.readString
  let appName ← parcel.readString
  let privacyUrl ← parcel.readString
  let privacyName ← parcel.readString
  let downloadUrl ← parcel.readString
  let versionName ← parcel.readString
  let backgroundModes ← ofTotal parcel.readUint32
  let packageSize ← ofTotal parcel.readUint32
  let visible ← ofTotal parcel.readBool
  let formEnabled ← ofTotal parcel.readBool
  let multiUserShared ← ofTotal parcel.readBool
  let typeData ← ofFunction parcel.readInt32
  let orientationData ← ofFunction parcel.readInt32
  let launchModeData ← ofFunction parcel.readInt32
  let permissions ← parcel.readList maxLimitSize parcel.readItem
  let deviceTypes ← parcel.readList maxDeviceTypeSize parcel.readItem
  let deviceCapabilities ← parcel.readList maxLimitSize parcel.readItem
  let supportPipMode ← ofTotal parcel.readBool
  let grantPermission ← ofTotal parcel.readBool
  let readPermission ← parcel.readString
  let writePermission ← parcel.readString
  let uriPermissionMode ← parcel.readString
  let uriPermissionPath ← parcel.readString
  let directLaunch ← ofTotal parcel.readBool
  let bundleName ← parcel.readString
  let className ← parcel.readString
  let deviceId ← parcel.readString
  let applicationInfo ← ofFunction
    (parcel.readParcelable (CompatibleApplicationInfo.unmarshalling parcel))
  let formEntity ← ofTotal parcel.readInt32Value
  let minFormHeight ← ofTotal parcel.readInt32Value
  let defaultFormHeight ← ofTotal parcel.readInt32Value
  let minFormWidth ← ofTotal parcel.readInt32Value
  let defaultFormWidth ← ofTotal parcel.readInt32Value
  let iconId ← ofTotal parcel.readInt32Value
  let descriptionId ← ofTotal parcel.readInt32Value
  let labelId ← ofTotal parcel.readInt32Value
  let enabled ← ofTotal parcel.readBool
  return {
    package, name, originalClassName, label, description, iconPath, uri,
    moduleName, process, targetAbility, appName, privacyUrl, privacyName,
    downloadUrl, versionName, backgroundModes, packageSize, visible,
    formEnabled, multiUserShared, type := ⟨typeData⟩,
    orientation := ⟨orientationData⟩, launchMode := ⟨launchModeData⟩,
    permissions, deviceTypes, deviceCapabilities, supportPipMode,
    grantPermission, readPermission, writePermission, uriPermissionMode,
    uriPermissionPath, directLaunch, bundleName, className, deviceId,
    applicationInfo, formEntity := formEntity.toUInt32, minFormHeight,
    defaultFormHeight, minFormWidth, defaultFormWidth, iconId, descriptionId,
    labelId, enabled }

/-- A failure to read gives a null pointer. -/
def CompatibleAbilityInfo.unmarshalling (state : σ) :
    Option CompatibleAbilityInfo × σ :=
  (CompatibleAbilityInfo.readFromParcel parcel).apply state

end AppExecFwk
