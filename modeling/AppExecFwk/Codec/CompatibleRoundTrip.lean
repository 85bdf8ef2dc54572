import AppExecFwk.Codec.CompatibleParcel

/-!
# What the compatible form keeps

Writer and reader agree on every member but the subkind of the ability, which
neither of them knows.  The reader takes lists within its limits only, and the
conversion back puts the flag `debug` of the application in the place of
`enabled`.
-/

namespace AppExecFwk

open ChannelProgram

/-! ## Equal members -/

/-- The members that the compatible form has too are equal. -/
@[mk_iff]
structure ApplicationInfo.SharesMembers (first second : ApplicationInfo) :
    Prop where
  name : first.name = second.name
  icon : first.icon = second.icon
  label : first.label = second.label
  description : first.description = second.description
  cpuAbi : first.cpuAbi = second.cpuAbi
  process : first.process = second.process
  isCompressNativeLibs :
    first.isCompressNativeLibs = second.isCompressNativeLibs
  iconId : first.iconId = second.iconId
  labelId : first.labelId = second.labelId
  descriptionId : first.descriptionId = second.descriptionId
  isSystemApp : first.isSystemApp = second.isSystemApp
  permissions : first.permissions = second.permissions
  moduleInfos : first.moduleInfos = second.moduleInfos
  supportedModes : first.supportedModes = second.supportedModes
  enabled : first.enabled = second.enabled
  debug : first.debug = second.debug

/-- The members that the compatible form has too are equal. -/
@[mk_iff]
structure CompleteAbilityInfo.SharesMembers
    (first second : CompleteAbilityInfo) : Prop where
  package : first.package = second.package
  name : first.name = second.name
  label : first.label = second.label
  description : first.description = second.description
  iconPath : first.iconPath = second.iconPath
  uri : first.uri = second.uri
  moduleName : first.moduleName = second.moduleName
  process : first.process = second.process
  targetAbility : first.targetAbility = second.targetAbility
  appName : first.appName = second.appName
  privacyUrl : first.privacyUrl = second.privacyUrl
  privacyName : first.privacyName = second.privacyName
  downloadUrl : first.downloadUrl = second.downloadUrl
  versionName : first.versionName = second.versionName
  backgroundModes : first.backgroundModes = second.backgroundModes
  packageSize : first.packageSize = second.packageSize
  visible : first.visible = second.visible
  formEnabled : first.formEnabled = second.formEnabled
  multiUserShared : first.multiUserShared = second.multiUserShared
  type : first.type = second.type
  subType : first.subType = second.subType
  orientation : first.orientation = second.orientation
  launchMode : first.launchMode = second.launchMode
  permissions : first.permissions = second.permissions
  deviceTypes : first.deviceTypes = second.deviceTypes
  deviceCapabilities : first.deviceCapabilities = second.deviceCapabilities
  supportPipMode : first.supportPipMode = second.supportPipMode
  grantPermission : first.grantPermission = second.grantPermission
  readPermission : first.readPermission = second.readPermission
  writePermission : first.writePermission = second.writePermission
  uriPermissionMode : first.uriPermissionMode = second.uriPermissionMode
  uriPermissionPath : first.uriPermissionPath = second.uriPermissionPath
  directLaunch : first.directLaunch = second.directLaunch
  bundleName : first.bundleName = second.bundleName
  className : first.className = second.className
  originalClassName : first.originalClassName = second.originalClassName
  deviceId : first.deviceId = second.deviceId
  applicationInfo : first.applicationInfo.SharesMembers second.applicationInfo
  formEntity : first.formEntity = second.formEntity
  minFormHeight : first.minFormHeight = second.minFormHeight
  defaultFormHeight : first.defaultFormHeight = second.defaultFormHeight
  minFormWidth : first.minFormWidth = second.minFormWidth
  defaultFormWidth : first.defaultFormWidth = second.defaultFormWidth
  iconId : first.iconId = second.iconId
  labelId : first.labelId = second.labelId
  descriptionId : first.descriptionId = second.descriptionId
  enabled : first.enabled = second.enabled

/-- The conversion copies every member of the compatible form. -/
theorem ApplicationInfo.sharesMembers_iff_convert
    {first second : ApplicationInfo} :
    first.SharesMembers second ↔
      first.convertToCompatibleApplicationInfo =
        second.convertToCompatibleApplicationInfo := by
  rw [sharesMembers_iff]
  exact (CompatibleApplicationInfo.mk.injEq ..).to_iff.symm

theorem CompleteAbilityInfo.sharesMembers_iff_convert
    {first second : CompleteAbilityInfo} :
    first.SharesMembers second ↔
      first.convertToCompatiableAbilityInfo =
        second.convertToCompatiableAbilityInfo := by
  rw [sharesMembers_iff, ApplicationInfo.sharesMembers_iff_convert]
  exact (CompatibleAbilityInfo.mk.injEq ..).to_iff.symm

/-- The conversion back keeps all members but two flags of the application. -/
theorem CompatibleAbilityInfo.convert_convertToAbilityInfo
    (info : CompatibleAbilityInfo) (abilityInfo : CompleteAbilityInfo) :
    (info.convertToAbilityInfo abilityInfo).convertToCompatiableAbilityInfo =
      { info with
        applicationInfo :=
          { info.applicationInfo with
            enabled := info.applicationInfo.debug
            debug := false } } := rfl

/-! ## Single values and lists -/

namespace Parcel

variable {σ υ α : Type} (parcel : Parcel σ υ)

theorem handsOver_string (text : String) :
    HandsOver parcel.values (parcel.writeString text) parcel.readString
      text := by
  have sent : HandsOver parcel.values
      (ofFlag (parcel.writeString16 (parcel.str8ToStr16 text)))
      (ofTotal parcel.readString16) (parcel.str8ToStr16 text) :=
    ⟨_, .ofFlag (parcel.writeString16_spec _),
      .ofTotal (parcel.readString16_spec _)⟩
  refine sent.last ?_
  rw [parcel.str16ToStr8_str8ToStr16]

theorem handsOver_bool (value : Bool) :
    HandsOver parcel.values (ofFlag (parcel.writeBool value))
      (ofTotal parcel.readBool) value :=
  ⟨_, .ofFlag (parcel.writeBool_spec value),
    .ofTotal (parcel.readBool_spec value)⟩

theorem handsOver_uint32 (value : UInt32) :
    HandsOver parcel.values (ofFlag (parcel.writeUint32 value))
      (ofTotal parcel.readUint32) value :=
  ⟨_, .ofFlag (parcel.writeUint32_spec value),
    .ofTotal (parcel.readUint32_spec value)⟩

theorem handsOver_int32Value (value : Int32) :
    HandsOver parcel.values (ofFlag (parcel.writeInt32 value))
      (ofTotal parcel.readInt32Value) value :=
  ⟨_, .ofFlag (parcel.writeInt32_spec value),
    .ofTotal (parcel.readInt32Value_spec value)⟩

theorem handsOver_int32 (value : Int32) :
    HandsOver parcel.values (ofFlag (parcel.writeInt32 value))
      (ofFunction parcel.readInt32) value :=
  ⟨_, .ofFlag (parcel.writeInt32_spec value),
    fun state rest same => parcel.readInt32_spec value rest state same⟩

/-- A list within the limit is sent with its whole length. -/
theorem handsOver_list {limit : Int32} {write : α → ChannelProgram σ Unit}
    {read : ChannelProgram σ α} {items : List α}
    (fits : (items.length : Int) ≤ limit.toInt)
    (handsOver : ∀ item ∈ items,
      HandsOver parcel.values (write item) read item) :
    HandsOver parcel.values (parcel.writeList write items)
      (parcel.readList limit read) items := by
  have bound : limit.toInt < 2 ^ 31 := limit.toInt_lt
  have whole : (Int32.ofNat items.length).toInt = items.length :=
    Int32.toInt_ofNat_of_lt (by omega)
  unfold writeList readList
  refine (parcel.handsOver_int32 _).bind ?_
  have below : ¬ limit < Int32.ofNat items.length := by
    rw [Int32.lt_iff_toInt_lt, whole]
    omega
  rw [if_neg below, whole, Int.toNat_natCast, List.take_length]
  exact .each handsOver

theorem handsOver_item {text : String} (isNonempty : text ≠ "") :
    HandsOver parcel.values (parcel.writeString text) parcel.readItem
      text := by
  unfold readItem
  refine (parcel.handsOver_string text).last ?_
  rw [if_neg isNonempty]

theorem handsOver_moduleInfo {info : ModuleInfo}
    (hasName : info.moduleName ≠ "") (hasDir : info.moduleSourceDir ≠ "") :
    HandsOver parcel.values (parcel.writeModuleInfo info)
      parcel.readModuleInfo info := by
  unfold writeModuleInfo readModuleInfo
  refine (parcel.handsOver_string _).bind ?_
  refine (parcel.handsOver_string _).last ?_
  rw [if_neg (by simp [hasName, hasDir])]

/-- No list above the limit is read. -/
theorem yields_list {limit : Int32} {read : ChannelProgram σ α}
    {good : α → Prop} (one : Yields read good) :
    Yields (parcel.readList limit read) fun items =>
      items.length ≤ limit.toInt.toNat ∧ ∀ item ∈ items, good item := by
  unfold readList
  refine .bind_any fun size => ?_
  by_cases above : limit < size
  · rw [if_pos above]
    exact .failure
  · rw [if_neg above]
    rw [Int32.lt_iff_toInt_lt] at above
    intro state items returned
    obtain ⟨length, areGood⟩ := one.each size.toInt.toNat state items returned
    exact ⟨by omega, areGood⟩

theorem yields_item : Yields parcel.readItem fun text => text ≠ "" := by
  unfold readItem
  refine .bind_any fun text => ?_
  by_cases isEmpty : text = ""
  · rw [if_pos isEmpty]
    exact .failure
  · rw [if_neg isEmpty]
    exact .pure isEmpty

theorem yields_moduleInfo : Yields parcel.readModuleInfo fun info =>
    info.moduleName ≠ "" ∧ info.moduleSourceDir ≠ "" := by
  unfold readModuleInfo
  refine .bind_any fun moduleName => .bind_any fun moduleSourceDir => ?_
  by_cases isEmpty : moduleName = "" ∨ moduleSourceDir = ""
  · rw [if_pos isEmpty]
    exact .failure
  · rw [if_neg isEmpty]
    exact .pure (not_or.mp isEmpty)

end Parcel

/-! ## What the reader takes -/

/-- A list of no more than that many strings, none of them empty. -/
def AreItems (limit : Nat) (items : List String) : Prop :=
  items.length ≤ limit ∧ "" ∉ items

/-- A list of no more than that many modules, each with a name and a source
directory. -/
def AreModules (limit : Nat) (infos : List ModuleInfo) : Prop :=
  infos.length ≤ limit ∧
    ∀ info ∈ infos, info.moduleName ≠ "" ∧ info.moduleSourceDir ≠ ""

structure CompatibleApplicationInfo.IsReadable
    (info : CompatibleApplicationInfo) : Prop where
  permissions : AreItems 4 info.permissions
  moduleInfos : AreModules 4 info.moduleInfos

structure CompatibleAbilityInfo.IsReadable (info : CompatibleAbilityInfo) :
    Prop where
  permissions : AreItems 4 info.permissions
  deviceTypes : AreItems 50 info.deviceTypes
  deviceCapabilities : AreItems 4 info.deviceCapabilities
  applicationInfo : info.applicationInfo.IsReadable

variable {σ υ : Type} (parcel : Parcel σ υ)

theorem AreItems.handsOver {limit : Int32} {count : Nat} {items : List String}
    (areItems : AreItems count items) (same : limit.toInt = count) :
    HandsOver parcel.values (parcel.writeList parcel.writeString items)
      (parcel.readList limit parcel.readItem) items := by
  have length := areItems.1
  refine parcel.handsOver_list (by omega) fun text member => ?_
  refine parcel.handsOver_item ?_
  rintro rfl
  exact areItems.2 member

theorem AreModules.handsOver {limit : Int32} {count : Nat}
    {infos : List ModuleInfo} (areModules : AreModules count infos)
    (same : limit.toInt = count) :
    HandsOver parcel.values (parcel.writeList parcel.writeModuleInfo infos)
      (parcel.readList limit parcel.readModuleInfo) infos := by
  have length := areModules.1
  refine parcel.handsOver_list (by omega) fun info member => ?_
  obtain ⟨hasName, hasDir⟩ := areModules.2 info member
  exact parcel.handsOver_moduleInfo hasName hasDir

theorem yields_areItems (limit : Int32) :
    Yields (parcel.readList limit parcel.readItem)
      (AreItems limit.toInt.toNat) := by
  intro state items returned
  obtain ⟨length, areNonempty⟩ :=
    parcel.yields_list parcel.yields_item state items returned
  exact ⟨length, fun member => areNonempty "" member rfl⟩

theorem CompatibleApplicationInfo.handsOver
    {info : CompatibleApplicationInfo} (readable : info.IsReadable) :
    HandsOver parcel.values (info.marshalling parcel) (readFromParcel parcel)
      info := by
  unfold marshalling readFromParcel
  iterate 6 refine (parcel.handsOver_string _).bind ?_
  refine (parcel.handsOver_bool _).bind ?_
  iterate 4 refine (parcel.handsOver_int32Value _).bind ?_
  refine (parcel.handsOver_bool _).bind ?_
  refine (readable.permissions.handsOver parcel rfl).bind ?_
  refine (readable.moduleInfos.handsOver parcel rfl).bind ?_
  refine (parcel.handsOver_bool _).bind ?_
  exact (parcel.handsOver_bool _).last rfl

theorem CompatibleApplicationInfo.yields_isReadable :
    Yields (readFromParcel parcel) IsReadable := by
  unfold readFromParcel
  iterate 12 refine .bind_any fun _ => ?_
  refine (yields_areItems parcel _).bind fun permissions areItems => ?_
  refine (parcel.yields_list parcel.yields_moduleInfo).bind
    fun moduleInfos areModules => ?_
  iterate 2 refine .bind_any fun _ => ?_
  exact .pure ⟨areItems, areModules⟩

/-- The application is handed over as an object. -/
theorem Parcel.handsOver_applicationInfo {info : CompatibleApplicationInfo}
    (readable : info.IsReadable) :
    HandsOver parcel.values
      (ofFlag (parcel.writeParcelable (info.marshalling parcel).toFlag))
      (ofFunction (parcel.readParcelable
        (CompatibleApplicationInfo.unmarshalling parcel))) info := by
  obtain ⟨sent, added, taken⟩ := info.handsOver parcel readable
  refine ⟨.parcelable :: sent, .ofFlag ?_, ?_⟩
  · exact parcel.writeParcelable_spec _ sent added.toFlag
  · intro state rest same
    exact parcel.readParcelable_spec
      (CompatibleApplicationInfo.unmarshalling parcel) sent info taken state
      rest same

theorem Parcel.yields_applicationInfo :
    Yields (ofFunction (parcel.readParcelable
        (CompatibleApplicationInfo.unmarshalling parcel)))
      CompatibleApplicationInfo.IsReadable := by
  intro state info returned
  obtain ⟨other, read⟩ := parcel.readParcelable_some _ state info returned
  exact CompatibleApplicationInfo.yields_isReadable parcel other info read

/-- All members but the subkind are handed over. -/
theorem CompatibleAbilityInfo.handsOver {info : CompatibleAbilityInfo}
    (readable : info.IsReadable) :
    HandsOver parcel.values (info.marshalling parcel) (readFromParcel parcel)
      { info with subType := .unspecified } := by
  unfold marshalling readFromParcel
  iterate 15 refine (parcel.handsOver_string _).bind ?_
  iterate 2 refine (parcel.handsOver_uint32 _).bind ?_
  iterate 3 refine (parcel.handsOver_bool _).bind ?_
  iterate 3 refine (parcel.handsOver_int32 _).bind ?_
  refine (readable.permissions.handsOver parcel rfl).bind ?_
  refine (readable.deviceTypes.handsOver parcel rfl).bind ?_
  refine (readable.deviceCapabilities.handsOver parcel rfl).bind ?_
  iterate 2 refine (parcel.handsOver_bool _).bind ?_
  iterate 4 refine (parcel.handsOver_string _).bind ?_
  refine (parcel.handsOver_bool _).bind ?_
  iterate 3 refine (parcel.handsOver_string _).bind ?_
  refine (parcel.handsOver_applicationInfo readable.applicationInfo).bind ?_
  iterate 8 refine (parcel.handsOver_int32Value _).bind ?_
  exact (parcel.handsOver_bool _).last rfl

theorem CompatibleAbilityInfo.yields_isReadable :
    Yields (readFromParcel parcel) IsReadable := by
  unfold readFromParcel
  iterate 23 refine .bind_any fun _ => ?_
  refine (yields_areItems parcel _).bind fun permissions arePermissions => ?_
  refine (yields_areItems parcel _).bind fun deviceTypes areTypes => ?_
  refine (yields_areItems parcel _).bind fun capabilities areCapabilities => ?_
  iterate 10 refine .bind_any fun _ => ?_
  refine parcel.yields_applicationInfo.bind fun application readable => ?_
  iterate 9 refine .bind_any fun _ => ?_
  exact .pure ⟨arePermissions, areTypes, areCapabilities, readable⟩

/-! ## There and back -/

namespace CompleteAbilityInfo

/-- Converts the information, sends and receives it, and converts it back into
`abilityInfo`. -/
def crossing (info abilityInfo : CompleteAbilityInfo) (start : σ) :
    Option CompleteAbilityInfo :=
  let (written, sent) :=
    (info.convertToCompatiableAbilityInfo.marshalling parcel).toFlag start
  if !written then none
  else
    match (CompatibleAbilityInfo.unmarshalling parcel sent).1 with
    | none => none
    | some received => some (received.convertToAbilityInfo abilityInfo)

/-- The information comes back with every member that both forms have. -/
def LosesNothing (info abilityInfo : CompleteAbilityInfo) (start : σ) : Prop :=
  ∃ result, info.crossing parcel abilityInfo start = some result ∧
    result.SharesMembers info

/-- The subkind and the two flags of the application have the values they come
back with, and the reader takes all lists. -/
structure IsKept (info : CompleteAbilityInfo) : Prop where
  subType : info.subType = .unspecified
  enabled : info.applicationInfo.enabled = false
  debug : info.applicationInfo.debug = false
  permissions : AreItems 4 info.permissions
  deviceTypes : AreItems 50 info.deviceTypes
  deviceCapabilities : AreItems 4 info.deviceCapabilities
  applicationPermissions : AreItems 4 info.applicationInfo.permissions
  moduleInfos : AreModules 4 info.applicationInfo.moduleInfos

variable {parcel}

/-- What comes back if the reader takes all lists. -/
theorem crossing_of_isReadable {info : CompleteAbilityInfo}
    (readable : info.convertToCompatiableAbilityInfo.IsReadable)
    (abilityInfo : CompleteAbilityInfo) {start : σ}
    (isEmpty : parcel.values start = []) :
    info.crossing parcel abilityInfo start =
      some (({ info.convertToCompatiableAbilityInfo with
        subType := .unspecified } : CompatibleAbilityInfo).convertToAbilityInfo
          abilityInfo) := by
  obtain ⟨written, received⟩ :=
    (CompatibleAbilityInfo.handsOver parcel readable).apply_of_empty isEmpty
  unfold crossing toFlag
  dsimp only
  rw [written]
  change (match (CompatibleAbilityInfo.unmarshalling parcel _).1 with
    | none => none
    | some received => some (received.convertToAbilityInfo abilityInfo)) = _
  unfold CompatibleAbilityInfo.unmarshalling
  rw [received]

/-- Whatever comes back was taken by the reader. -/
theorem exists_of_crossing {info abilityInfo result : CompleteAbilityInfo}
    {start : σ} (back : info.crossing parcel abilityInfo start = some result) :
    ∃ received : CompatibleAbilityInfo, received.IsReadable ∧
      result = received.convertToAbilityInfo abilityInfo := by
  unfold crossing at back
  dsimp only at back
  split at back
  · cases back
  · split at back
    · cases back
    · rename_i received read
      cases back
      exact ⟨received,
        CompatibleAbilityInfo.yields_isReadable parcel _ received read, rfl⟩

theorem IsKept.isReadable {info : CompleteAbilityInfo} (kept : info.IsKept) :
    info.convertToCompatiableAbilityInfo.IsReadable :=
  ⟨kept.permissions, kept.deviceTypes, kept.deviceCapabilities,
    kept.applicationPermissions, kept.moduleInfos⟩

theorem losesNothing_of_isKept {info : CompleteAbilityInfo}
    (kept : info.IsKept) (abilityInfo : CompleteAbilityInfo) {start : σ}
    (isEmpty : parcel.values start = []) :
    info.LosesNothing parcel abilityInfo start := by
  refine ⟨_, crossing_of_isReadable kept.isReadable abilityInfo isEmpty, ?_⟩
  rw [sharesMembers_iff_convert,
    CompatibleAbilityInfo.convert_convertToAbilityInfo]
  have subType : info.convertToCompatiableAbilityInfo.subType =
    .unspecified := kept.subType
  have enabled : info.convertToCompatiableAbilityInfo.applicationInfo.enabled =
    false := kept.enabled
  have debug : info.convertToCompatiableAbilityInfo.applicationInfo.debug =
    false := kept.debug
  generalize info.convertToCompatiableAbilityInfo = received at subType enabled debug ⊢
  have application : { received.applicationInfo with
      enabled := received.applicationInfo.debug, debug := false } =
        received.applicationInfo := by
    cases known : received.applicationInfo
    rw [known] at enabled debug
    cases enabled
    cases debug
    rfl
  rw [application, ← subType]

/-- The reader has taken the lists, so everything was read as it was written,
and the members that are lost must have had the values they come back with. -/
theorem isKept_of_losesNothing {info abilityInfo : CompleteAbilityInfo}
    {start : σ} (isEmpty : parcel.values start = [])
    (losesNothing : info.LosesNothing parcel abilityInfo start) :
    info.IsKept := by
  obtain ⟨result, back, shares⟩ := losesNothing
  have readable : info.convertToCompatiableAbilityInfo.IsReadable := by
    obtain ⟨received, taken, rfl⟩ := exists_of_crossing back
    have lists := sharesMembers_iff_convert.mp shares
    rw [CompatibleAbilityInfo.convert_convertToAbilityInfo] at lists
    rw [← lists]
    exact ⟨taken.permissions, taken.deviceTypes, taken.deviceCapabilities,
      taken.applicationInfo.permissions, taken.applicationInfo.moduleInfos⟩
  rw [crossing_of_isReadable readable abilityInfo isEmpty] at back
  cases back
  have isDebug : info.applicationInfo.debug = info.applicationInfo.enabled :=
    shares.applicationInfo.enabled
  have notDebug : false = info.applicationInfo.debug :=
    shares.applicationInfo.debug
  exact {
    subType := shares.subType.symm
    enabled := by rw [← isDebug, ← notDebug]
    debug := notDebug.symm
    permissions := readable.permissions
    deviceTypes := readable.deviceTypes
    deviceCapabilities := readable.deviceCapabilities
    applicationPermissions := readable.applicationInfo.permissions
    moduleInfos := readable.applicationInfo.moduleInfos }

/-- Nothing is lost exactly if the lists are taken, the subkind is unspecified
and the application is neither enabled nor in debug mode. -/
theorem losesNothing_iff (parcel : Parcel σ υ)
    (info abilityInfo : CompleteAbilityInfo) (start : σ)
    (isEmpty : parcel.values start = []) :
    info.LosesNothing parcel abilityInfo start ↔ info.IsKept :=
  ⟨isKept_of_losesNothing isEmpty,
    fun kept => losesNothing_of_isKept kept abilityInfo isEmpty⟩

theorem losesNothing_oneOfEach :
    LosesNothing Parcel.ofList
      { name := "Main", permissions := ["camera"], deviceTypes := ["phone"],
        applicationInfo := { moduleInfos := [⟨"entry", "/data/entry"⟩] } }
      {} [] :=
  (losesNothing_iff Parcel.ofList _ {} [] rfl).mpr {
    subType := rfl
    enabled := rfl
    debug := rfl
    permissions := ⟨by decide, by decide⟩
    deviceTypes := ⟨by decide, by decide⟩
    deviceCapabilities := ⟨by decide, by decide⟩
    applicationPermissions := ⟨by decide, by decide⟩
    moduleInfos := ⟨by decide, by simp⟩ }

/-- An application that is enabled comes back disabled. -/
theorem not_losesNothing_enabled :
    ¬ LosesNothing Parcel.ofList { applicationInfo := { enabled := true } }
      {} [] := by
  intro losesNothing
  have kept := isKept_of_losesNothing rfl losesNothing
  cases kept.enabled

end CompleteAbilityInfo

end AppExecFwk
