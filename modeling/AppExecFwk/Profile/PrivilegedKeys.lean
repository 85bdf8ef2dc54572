import AppExecFwk.Codec.TwoDocuments
import AppExecFwk.Library.OrderedMap
import AppExecFwk.Profile.BundleProfile
import AppExecFwk.Profile.ModuleProfile

/-!
# The privileged keys of a profile

Some settings are meant for preinstalled system applications only: whether the
application is kept alive, runs once for all users, can be removed, has user
data that can be cleared and is accessible, the priorities of abilities and
extensions, and the permissions that a module defines.  Two documents that
differ in these members only decode to profiles that differ in these settings
only.
-/

namespace AppExecFwk

open Decoder

/-- The privileged settings of an application. -/
def privilegedSettings : List String :=
  ["keepAlive", "singleton", "userDataClearable", "removable", "accessible"]

def eraseSettings : Json → Json :=
  Json.eraseMembers privilegedSettings

def erasePriority : Json → Json :=
  Json.eraseMembers ["priority"]

/-- The scopes of the defined permissions, which are read through a shared
result variable, are typed. -/
def arePermissionsTyped (json : Json) (key : String) : Bool :=
  isTyped json key .array .object &&
    (itemsAt json key).all (isTyped · "availableScope" .array .string)

theorem quiet_definePermission {json : Json}
    (typed : isTyped json "availableScope" .array .string = true) :
    Quiet (DefinePermission.fromJson json) := by
  apply QuietOutside.withLocal
  iterate 3 refine quietOutside_read.bind fun _ => ?_
  refine (quiet_read typed fun found _ =>
    QuietOn.quiet found).outside.bind fun _ => ?_
  iterate 6 refine quietOutside_read.bind fun _ => ?_
  exact .pure _

theorem quiet_readPermissions {parseResult : ResultVar} {json : Json}
    {key : String} {data : List DefinePermission}
    (typed : arePermissionsTyped json key = true) :
    Quiet (readObjects parseResult json key DefinePermission.fromJson data) := by
  simp only [arePermissionsTyped, Bool.and_eq_true, List.all_eq_true] at typed
  refine quiet_read typed.1 fun found present admitted => ?_
  refine quiet_getVector admitted fun item member _ => ?_
  refine quiet_definePermission (typed.2 item ?_)
  simpa [itemsAt, present] using member

/-- What two documents have under keys that erasing leaves alone. -/
theorem find?_same {json json' : Json} {keys : List String}
    (erased : json.eraseMembers keys = json'.eraseMembers keys) {key : String}
    (isPublic : key ∉ keys) : json.find? key = json'.find? key := by
  have found := congrArg (·.find? key) erased
  simpa [Json.find?_eraseMembers, isPublic] using found

theorem map_eq_of_forall₂ {α β : Type} {change : α → β} {items items' : List α}
    (related : List.Forall₂ (fun item item' => change item = change item')
      items items') : items.map change = items'.map change := by
  induction related with
  | nil => rfl
  | cons head _ ih => rw [List.map_cons, List.map_cons, head, ih]

namespace ProfileReader

def eraseModule (json : Json) : Json :=
  (json.eraseMembers ["defPermissions", "definePermissions"]).changeMembers
    ["abilities"] (Json.changeItems erasePriority)

/-- The document without its privileged members. -/
def ConfigJson.erasePrivileged (json : Json) : Json :=
  ((json.changeMembers ["app"] eraseSettings).changeMembers ["deviceConfig"]
    (Json.changeValues eraseSettings)).changeMembers ["module"] eraseModule

def App.arePrivilegedTyped (json : Json) : Bool :=
  isTyped json "singleton" .boolean && isTyped json "removable" .boolean &&
    isTyped json "userDataClearable" .boolean

def Device.arePrivilegedTyped (json : Json) : Bool :=
  isTyped json "keepAlive" .boolean

def Ability.arePrivilegedTyped (json : Json) : Bool :=
  isTyped json "priority" .number

def Module.arePrivilegedTyped (json : Json) : Bool :=
  (itemsAt json "abilities").all Ability.arePrivilegedTyped &&
    arePermissionsTyped json "defPermissions" &&
    arePermissionsTyped json "definePermissions"

/-- The privileged members of the document have the types they are read as. -/
structure ConfigJson.PrivilegedTyped (json : Json) : Prop where
  app : ∀ {app}, json.find? "app" = some app → App.arePrivilegedTyped app = true
  device : ∀ {config}, json.find? "deviceConfig" = some config →
    ∀ key device, config.find? key = some device →
      Device.arePrivilegedTyped device = true
  module : ∀ {module}, json.find? "module" = some module →
    Module.arePrivilegedTyped module = true

/-! The profile without its privileged settings. -/

def App.public (app : App) : App :=
  { app with
    singleton := false
    removable := (false, true)
    userDataClearable := true }

def Device.public (device : Device) : Device :=
  { device with keepAlive := false }

def DeviceConfig.public (config : DeviceConfig) : DeviceConfig where
  defaultDevice := config.defaultDevice.public
  phone := config.phone.public
  tablet := config.tablet.public
  tv := config.tv.public
  car := config.car.public
  wearable := config.wearable.public
  liteWearable := config.liteWearable.public
  smartVision := config.smartVision.public

def Ability.public (ability : Ability) : Ability :=
  { ability with priority := 0 }

def Module.public (module : Module) : Module :=
  { module with
    abilities := module.abilities.map Ability.public
    defPermissions := []
    definePermissions := [] }

def ConfigJson.public (configJson : ConfigJson) : ConfigJson where
  app := configJson.app.public
  deveicConfig := configJson.deveicConfig.public
  module := configJson.module.public

section Agreement

variable {json json' : Json}

theorem isObject_eraseModule (json : Json) :
    (eraseModule json).isObject = json.isObject := by
  simp [eraseModule]

theorem App.agree (erased : eraseSettings json = eraseSettings json')
    (typed : App.arePrivilegedTyped json = true)
    (typed' : App.arePrivilegedTyped json' = true) :
    Agree (fun app app' => app.public = app'.public) (App.fromJson json)
      (App.fromJson json') := by
  simp only [App.arePrivilegedTyped, Bool.and_eq_true] at typed typed'
  obtain ⟨⟨singleton, removable⟩, clearable⟩ := typed
  obtain ⟨⟨singleton', removable'⟩, clearable'⟩ := typed'
  have same {key : String} (isPublic : key ∉ privilegedSettings) :=
    find?_same erased isPublic
  iterate 5
    refine Agree.bind_same (agree_read (same (by decide))) fun _ => ?_
  refine (agree_read_typed singleton singleton').bind fun _ _ _ => ?_
  iterate 2
    refine Agree.bind_same (agree_read (same (by decide))) fun _ => ?_
  refine (agree_read_typed removable removable').bind fun _ _ _ => ?_
  refine (agree_read_typed clearable clearable').bind fun _ _ _ => ?_
  refine Agree.bind_same (agree_read (same (by decide))) fun _ => ?_
  exact .pure rfl

theorem Device.agree (erased : eraseSettings json = eraseSettings json')
    (typed : Device.arePrivilegedTyped json = true)
    (typed' : Device.arePrivilegedTyped json' = true) :
    Agree (fun device device' => device.public = device'.public)
      (Device.fromJson json) (Device.fromJson json') := by
  have same {key : String} (isPublic : key ∉ privilegedSettings) :=
    find?_same erased isPublic
  iterate 2
    refine Agree.bind_same (agree_read (same (by decide))) fun _ => ?_
  refine (agree_read_typed typed typed').bind fun _ _ _ => ?_
  iterate 6
    refine Agree.bind_same (agree_read (same (by decide))) fun _ => ?_
  exact .pure rfl

/-- The devices of two documents are read in turn. -/
theorem DeviceConfig.agree
    (erased : json.changeValues eraseSettings =
      json'.changeValues eraseSettings)
    (typed : ∀ key device, json.find? key = some device →
      Device.arePrivilegedTyped device = true)
    (typed' : ∀ key device, json'.find? key = some device →
      Device.arePrivilegedTyped device = true) :
    Agree (fun config config' => config.public = config'.public)
      (DeviceConfig.fromJson json) (DeviceConfig.fromJson json') := by
  have device (key : String) (data : Device) :
      Agree (fun device device' => device.public = device'.public)
        (readObject .reader json key Device.fromJson data)
        (readObject .reader json' key Device.fromJson data) := by
    have found := congrArg (·.find? key) erased
    simp only [Json.find?_changeValues] at found
    refine agree_readObject (Json.isObject_eraseMembers _) found rfl ?_
    intro device device' present present' same
    exact Device.agree same (typed _ _ present) (typed' _ _ present')
  refine (device _ _).bind fun _ _ defaultDevice => ?_
  refine (device _ _).bind fun _ _ phone => ?_
  refine (device _ _).bind fun _ _ tablet => ?_
  refine (device _ _).bind fun _ _ tv => ?_
  refine (device _ _).bind fun _ _ car => ?_
  refine (device _ _).bind fun _ _ wearable => ?_
  refine (device _ _).bind fun _ _ liteWearable => ?_
  refine (device _ _).bind fun _ _ smartVision => ?_
  refine .pure ?_
  simp only [DeviceConfig.public, defaultDevice, phone, tablet, tv, car,
    wearable, liteWearable, smartVision]

theorem Ability.agree (erased : erasePriority json = erasePriority json')
    (typed : Ability.arePrivilegedTyped json = true)
    (typed' : Ability.arePrivilegedTyped json' = true) :
    Agree (fun ability ability' => ability.public = ability'.public)
      (Ability.fromJson json) (Ability.fromJson json') := by
  have same {key : String} (isPublic : key ∉ ["priority"]) :=
    find?_same erased isPublic
  iterate 12
    refine Agree.bind_same (agree_read (same (by decide))) fun _ => ?_
  refine (agree_read_typed typed typed').bind fun _ _ _ => ?_
  iterate 30
    refine Agree.bind_same (agree_read (same (by decide))) fun _ => ?_
  exact .pure rfl

theorem Module.agree (erased : eraseModule json = eraseModule json')
    (typed : Module.arePrivilegedTyped json = true)
    (typed' : Module.arePrivilegedTyped json' = true) :
    Agree (fun module module' => module.public = module'.public)
      (Module.fromJson json) (Module.fromJson json') := by
  simp only [Module.arePrivilegedTyped, Bool.and_eq_true, List.all_eq_true]
    at typed typed'
  obtain ⟨⟨abilities, defPermissions⟩, definePermissions⟩ := typed
  obtain ⟨⟨abilities', defPermissions'⟩, definePermissions'⟩ := typed'
  have found (key : String) := congrArg (·.find? key) erased
  simp only [eraseModule, Json.find?_changeMembers, Json.find?_eraseMembers]
    at found
  have same {key : String} (notChanged : key ∉ ["abilities"])
      (isPublic : key ∉ ["defPermissions", "definePermissions"]) :
      json.find? key = json'.find? key := by
    simpa [notChanged, isPublic] using found key
  have sameAbilities : (json.find? "abilities").map
        (Json.changeItems erasePriority) =
      (json'.find? "abilities").map (Json.changeItems erasePriority) := by
    simpa using found "abilities"
  iterate 10
    refine Agree.bind_same
      (agree_read (same (by decide) (by decide))) fun _ => ?_
  refine (agree_readObjects (Json.isObject_eraseMembers _) sameAbilities
    .nil fun item member item' member' equal => Ability.agree equal
      (abilities item member) (abilities' item' member')).bind
    fun _ _ abilities => ?_
  iterate 3
    refine Agree.bind_same
      (agree_read (same (by decide) (by decide))) fun _ => ?_
  refine ((quiet_readPermissions defPermissions).agree
    (quiet_readPermissions defPermissions')).bind fun _ _ _ => ?_
  refine Agree.bind_same
    (agree_read (same (by decide) (by decide))) fun _ => ?_
  refine ((quiet_readPermissions definePermissions).agree
    (quiet_readPermissions definePermissions')).bind fun _ _ _ => ?_
  iterate 3
    refine Agree.bind_same
      (agree_read (same (by decide) (by decide))) fun _ => ?_
  refine .pure ?_
  simp only [Module.public, map_eq_of_forall₂ abilities]

/-- Documents that differ in privileged members decode to profiles that differ
in privileged settings. -/
theorem ConfigJson.agree
    (erased : ConfigJson.erasePrivileged json =
      ConfigJson.erasePrivileged json')
    (typed : ConfigJson.PrivilegedTyped json)
    (typed' : ConfigJson.PrivilegedTyped json') :
    Agree (fun profile profile' => profile.public = profile'.public)
      (ConfigJson.fromJson json) (ConfigJson.fromJson json') := by
  have found (key : String) := congrArg (·.find? key) erased
  simp only [ConfigJson.erasePrivileged, Json.find?_changeMembers] at found
  have sameApp : (json.find? "app").map eraseSettings =
      (json'.find? "app").map eraseSettings := by
    simpa using found "app"
  have sameConfig : (json.find? "deviceConfig").map
        (Json.changeValues eraseSettings) =
      (json'.find? "deviceConfig").map (Json.changeValues eraseSettings) := by
    simpa using found "deviceConfig"
  have sameModule : (json.find? "module").map eraseModule =
      (json'.find? "module").map eraseModule := by
    simpa using found "module"
  have app (data : App) :
      Agree (fun app app' => app.public = app'.public)
        (readObject .reader json "app" App.fromJson data true)
        (readObject .reader json' "app" App.fromJson data true) :=
    agree_readObject (Json.isObject_eraseMembers _) sameApp rfl
      fun _ _ present present' equal =>
        App.agree equal (typed.app present) (typed'.app present')
  have config (data : DeviceConfig) :
      Agree (fun config config' => config.public = config'.public)
        (readObject .reader json "deviceConfig" DeviceConfig.fromJson data true)
        (readObject .reader json' "deviceConfig" DeviceConfig.fromJson data
          true) :=
    agree_readObject (Json.isObject_changeValues _) sameConfig rfl
      fun _ _ present present' equal => DeviceConfig.agree equal
        (typed.device present) (typed'.device present')
  have module (data : Module) :
      Agree (fun module module' => module.public = module'.public)
        (readObject .reader json "module" Module.fromJson data true)
        (readObject .reader json' "module" Module.fromJson data true) :=
    agree_readObject isObject_eraseModule sameModule rfl
      fun _ _ present present' equal =>
        Module.agree equal (typed.module present) (typed'.module present')
  refine (app _).bind fun _ _ app => ?_
  refine (config _).bind fun _ _ config => ?_
  refine (module _).bind fun _ _ module => ?_
  refine .pure ?_
  simp only [ConfigJson.public, app, config, module]

end Agreement

end ProfileReader

namespace Profile

def eraseModule (json : Json) : Json :=
  (json.eraseMembers ["definePermissions"]).changeMembers
    ["abilities", "extensionAbilities"] (Json.changeItems erasePriority)

/-- The types of a device that the application block may have settings for. -/
def deviceTypes : List String :=
  ["phone", "tablet", "tv", "wearable", "liteWearable", "car", "smartVision",
    "router"]

def eraseApp (json : Json) : Json :=
  (eraseSettings json).changeMembers deviceTypes eraseSettings

/-- The document without its privileged members. -/
def ModuleJson.erasePrivileged (json : Json) : Json :=
  (json.changeMembers ["app"] eraseApp).changeMembers ["module"] eraseModule

/-- The privileged settings of the application or of a device. -/
def areSettingsTyped (json : Json) : Bool :=
  privilegedSettings.all (isTyped json · .boolean)

def arePrioritiesTyped (json : Json) (key : String) : Bool :=
  (itemsAt json key).all (isTyped · "priority" .number)

/-- The privileged members of the document have the types they are read as. -/
structure ModuleJson.PrivilegedTyped (json : Json) : Prop where
  app : ∀ {app}, json.find? "app" = some app → areSettingsTyped app = true
  device : ∀ {app}, json.find? "app" = some app → ∀ key ∈ deviceTypes,
    ∀ device, app.find? key = some device → areSettingsTyped device = true
  abilities : ∀ {module}, json.find? "module" = some module →
    arePrioritiesTyped module "abilities" = true
  extensions : ∀ {module}, json.find? "module" = some module →
    arePrioritiesTyped module "extensionAbilities" = true
  permissions : ∀ {module}, json.find? "module" = some module →
    arePermissionsTyped module "definePermissions" = true

/-! The profile without its privileged settings. -/

def DeviceConfig.public (config : DeviceConfig) : DeviceConfig :=
  { config with
    keepAlive := (false, false)
    removable := (false, true)
    singleton := (false, false)
    userDataClearable := (false, true)
    accessible := (false, true) }

def Ability.public (ability : Ability) : Ability :=
  { ability with priority := 0 }

def Extension.public (extension : Extension) : Extension :=
  { extension with priority := 0 }

def App.public (app : App) : App :=
  { app with
    keepAlive := false
    removable := (false, true)
    singleton := false
    userDataClearable := true
    accessible := false
    deviceConfigs := app.deviceConfigs.map fun _ config => config.public }

def Module.public (module : Module) : Module :=
  { module with
    abilities := module.abilities.map Ability.public
    extensionAbilities := module.extensionAbilities.map Extension.public
    definePermissions := [] }

def ModuleJson.public (moduleJson : ModuleJson) : ModuleJson where
  app := moduleJson.app.public
  module := moduleJson.module.public

section Agreement

variable {json json' : Json}

theorem isObject_eraseApp (json : Json) :
    (eraseApp json).isObject = json.isObject := by
  simp [eraseApp, eraseSettings]

theorem isObject_eraseModule (json : Json) :
    (eraseModule json).isObject = json.isObject := by
  simp [eraseModule]

theorem isTyped_of_areSettingsTyped (typed : areSettingsTyped json = true)
    {key : String} (member : key ∈ privilegedSettings) :
    isTyped json key .boolean = true :=
  List.all_eq_true.mp typed key member

theorem DeviceConfig.agree (erased : eraseSettings json = eraseSettings json')
    (typed : areSettingsTyped json = true)
    (typed' : areSettingsTyped json' = true) :
    Agree (fun config config' => config.public = config'.public)
      (DeviceConfig.fromJson json) (DeviceConfig.fromJson json') := by
  have same {key : String} (isPublic : key ∉ privilegedSettings) :=
    find?_same erased isPublic
  have typedRead {key : String} (member : key ∈ privilegedSettings)
      (data : Bool) :
      Agree (fun _ _ => True) (readBool .profile json key data)
        (readBool .profile json' key data) :=
    agree_read_typed (isTyped_of_areSettingsTyped typed member)
      (isTyped_of_areSettingsTyped typed' member)
  refine Agree.bind_same (agree_read (same (by decide))) fun _ => ?_
  refine Agree.bind_same (agree_read (same (by decide))) fun _ => ?_
  iterate 5
    refine (typedRead (by decide) _).bind fun _ _ _ => ?_
  refine .pure ?_
  simp only [DeviceConfig.public, same (by decide : "minAPIVersion" ∉ _),
    same (by decide : "distributedNotificationEnabled" ∉ _)]

/-- A device that one of the documents lists is listed by the other one. -/
theorem agree_readDeviceConfig {key : String}
    {deviceConfigs deviceConfigs' : StringMap DeviceConfig}
    (member : key ∈ deviceTypes) (erased : eraseApp json = eraseApp json')
    (typed : ∀ device, json.find? key = some device →
      areSettingsTyped device = true)
    (typed' : ∀ device, json'.find? key = some device →
      areSettingsTyped device = true)
    (before : deviceConfigs.map (fun _ config => config.public) =
      deviceConfigs'.map fun _ config => config.public) :
    Agree
      (fun configs configs' =>
        configs.map (fun _ config => config.public) =
          configs'.map fun _ config => config.public)
      (readDeviceConfig json key deviceConfigs)
      (readDeviceConfig json' key deviceConfigs') := by
  have isPublic : key ∉ privilegedSettings :=
    (by decide : ∀ key ∈ deviceTypes, key ∉ privilegedSettings) key member
  have found := congrArg (·.find? key) erased
  simp only [eraseApp, eraseSettings, Json.find?_changeMembers, member,
    if_true, Json.find?_eraseMembers, isPublic, if_false] at found
  have listed : (json.find? key).isNone = (json'.find? key).isNone := by
    have counted := congrArg Option.isNone found
    simpa using counted
  unfold readDeviceConfig
  rw [listed]
  split
  · exact .pure before
  · have device : Agree (fun config config' => config.public = config'.public)
        (readObject .profile json key DeviceConfig.fromJson {})
        (readObject .profile json' key DeviceConfig.fromJson {}) :=
      agree_readObject (Json.isObject_eraseMembers _) found rfl
        fun _ _ present present' equal => DeviceConfig.agree equal
          (typed _ present) (typed' _ present')
    refine device.bind fun config config' equal => .pure ?_
    rw [Std.ExtTreeMap.map_insert, Std.ExtTreeMap.map_insert, before, equal]

theorem App.agree (erased : eraseApp json = eraseApp json')
    (typed : areSettingsTyped json = true)
    (typed' : areSettingsTyped json' = true)
    (devices : ∀ key ∈ deviceTypes, ∀ device, json.find? key = some device →
      areSettingsTyped device = true)
    (devices' : ∀ key ∈ deviceTypes, ∀ device, json'.find? key = some device →
      areSettingsTyped device = true) :
    Agree (fun app app' => app.public = app'.public) (App.fromJson json)
      (App.fromJson json') := by
  have same {key : String} (notDevice : key ∉ deviceTypes)
      (isPublic : key ∉ privilegedSettings) :
      json.find? key = json'.find? key := by
    have found := congrArg (·.find? key) erased
    simpa only [eraseApp, eraseSettings, Json.find?_changeMembers, notDevice,
      if_false, Json.find?_eraseMembers, isPublic] using found
  have typedRead {key : String} (member : key ∈ privilegedSettings)
      (data : Bool) :
      Agree (fun _ _ => True) (readBool .profile json key data)
        (readBool .profile json' key data) :=
    agree_read_typed (isTyped_of_areSettingsTyped typed member)
      (isTyped_of_areSettingsTyped typed' member)
  have device {key : String} (member : key ∈ deviceTypes)
      {configs configs' : StringMap DeviceConfig}
      (before : configs.map (fun _ config => config.public) =
        configs'.map fun _ config => config.public) :=
    agree_readDeviceConfig member erased (devices key member)
      (devices' key member) before
  iterate 17
    refine Agree.bind_same
      (agree_read (same (by decide) (by decide))) fun _ => ?_
  refine (typedRead (by decide) _).bind fun _ _ _ => ?_
  refine Agree.bind_same
    (agree_read (same (by decide) (by decide))) fun _ => ?_
  iterate 4
    refine (typedRead (by decide) _).bind fun _ _ _ => ?_
  refine (device (by decide) rfl).bind fun _ _ phone => ?_
  refine (device (by decide) phone).bind fun _ _ tablet => ?_
  refine (device (by decide) tablet).bind fun _ _ tv => ?_
  refine (device (by decide) tv).bind fun _ _ wearable => ?_
  refine (device (by decide) wearable).bind fun _ _ liteWearable => ?_
  refine (device (by decide) liteWearable).bind fun _ _ car => ?_
  refine (device (by decide) car).bind fun _ _ smartVision => ?_
  refine (device (by decide) smartVision).bind fun _ _ router => ?_
  refine .pure ?_
  simp only [App.public, router]

theorem Ability.agree (erased : erasePriority json = erasePriority json')
    (typed : isTyped json "priority" .number = true)
    (typed' : isTyped json' "priority" .number = true) :
    Agree (fun ability ability' => ability.public = ability'.public)
      (Ability.fromJson json) (Ability.fromJson json') := by
  have same {key : String} (isPublic : key ∉ ["priority"]) :=
    find?_same erased isPublic
  iterate 9
    refine Agree.bind_same (agree_read (same (by decide))) fun _ => ?_
  refine (agree_read_typed typed typed').bind fun _ _ _ => ?_
  iterate 11
    refine Agree.bind_same (agree_read (same (by decide))) fun _ => ?_
  exact .pure rfl

theorem Extension.agree (erased : erasePriority json = erasePriority json')
    (typed : isTyped json "priority" .number = true)
    (typed' : isTyped json' "priority" .number = true) :
    Agree (fun extension extension' => extension.public = extension'.public)
      (Extension.fromJson json) (Extension.fromJson json') := by
  have same {key : String} (isPublic : key ∉ ["priority"]) :=
    find?_same erased isPublic
  iterate 8
    refine Agree.bind_same (agree_read (same (by decide))) fun _ => ?_
  refine (agree_read_typed typed typed').bind fun _ _ _ => ?_
  iterate 8
    refine Agree.bind_same (agree_read (same (by decide))) fun _ => ?_
  exact .pure rfl

theorem Module.agree (erased : eraseModule json = eraseModule json')
    (abilities : arePrioritiesTyped json "abilities" = true)
    (abilities' : arePrioritiesTyped json' "abilities" = true)
    (extensions : arePrioritiesTyped json "extensionAbilities" = true)
    (extensions' : arePrioritiesTyped json' "extensionAbilities" = true)
    (permissions : arePermissionsTyped json "definePermissions" = true)
    (permissions' : arePermissionsTyped json' "definePermissions" = true) :
    Agree (fun module module' => module.public = module'.public)
      (Module.fromJson json) (Module.fromJson json') := by
  have found (key : String) := congrArg (·.find? key) erased
  simp only [eraseModule, Json.find?_changeMembers, Json.find?_eraseMembers]
    at found
  have same {key : String}
      (notChanged : key ∉ ["abilities", "extensionAbilities"])
      (isPublic : key ∉ ["definePermissions"]) :
      json.find? key = json'.find? key := by
    simpa only [notChanged, isPublic, if_false] using found key
  have sameAbilities : (json.find? "abilities").map
        (Json.changeItems erasePriority) =
      (json'.find? "abilities").map (Json.changeItems erasePriority) := by
    simpa using found "abilities"
  have sameExtensions : (json.find? "extensionAbilities").map
        (Json.changeItems erasePriority) =
      (json'.find? "extensionAbilities").map
        (Json.changeItems erasePriority) := by
    simpa using found "extensionAbilities"
  simp only [arePrioritiesTyped, List.all_eq_true]
    at abilities abilities' extensions extensions'
  iterate 14
    refine Agree.bind_same
      (agree_read (same (by decide) (by decide))) fun _ => ?_
  refine (agree_readObjects (Json.isObject_eraseMembers _) sameAbilities
    .nil fun item member item' member' equal => Ability.agree equal
      (abilities item member) (abilities' item' member')).bind
    fun _ _ abilities => ?_
  refine (agree_readObjects (Json.isObject_eraseMembers _) sameExtensions
    .nil fun item member item' member' equal => Extension.agree equal
      (extensions item member) (extensions' item' member')).bind
    fun _ _ extensions => ?_
  refine Agree.bind_same
    (agree_read (same (by decide) (by decide))) fun _ => ?_
  refine ((quiet_readPermissions permissions).agree
    (quiet_readPermissions permissions')).bind fun _ _ _ => ?_
  refine Agree.bind_same
    (agree_read (same (by decide) (by decide))) fun _ => ?_
  refine .pure ?_
  simp only [Module.public, map_eq_of_forall₂ abilities,
    map_eq_of_forall₂ extensions]

/-- Documents that differ in privileged members decode to profiles that differ
in privileged settings. -/
theorem ModuleJson.agree
    (erased : ModuleJson.erasePrivileged json =
      ModuleJson.erasePrivileged json')
    (typed : ModuleJson.PrivilegedTyped json)
    (typed' : ModuleJson.PrivilegedTyped json') :
    Agree (fun profile profile' => profile.public = profile'.public)
      (ModuleJson.fromJson json) (ModuleJson.fromJson json') := by
  have found (key : String) := congrArg (·.find? key) erased
  simp only [ModuleJson.erasePrivileged, Json.find?_changeMembers] at found
  have sameApp : (json.find? "app").map eraseApp =
      (json'.find? "app").map eraseApp := by
    simpa using found "app"
  have sameModule : (json.find? "module").map eraseModule =
      (json'.find? "module").map eraseModule := by
    simpa using found "module"
  have app (data : App) :
      Agree (fun app app' => app.public = app'.public)
        (readObject .profile json "app" App.fromJson data true)
        (readObject .profile json' "app" App.fromJson data true) :=
    agree_readObject isObject_eraseApp sameApp rfl
      fun _ _ present present' equal =>
        App.agree equal (typed.app present) (typed'.app present')
          (typed.device present) (typed'.device present')
  have module (data : Module) :
      Agree (fun module module' => module.public = module'.public)
        (readObject .profile json "module" Module.fromJson data true)
        (readObject .profile json' "module" Module.fromJson data true) :=
    agree_readObject isObject_eraseModule sameModule rfl
      fun _ _ present present' equal => Module.agree equal
        (typed.abilities present) (typed'.abilities present')
        (typed.extensions present) (typed'.extensions present')
        (typed.permissions present) (typed'.permissions present')
  refine (app _).bind fun _ _ app => ?_
  refine (module _).bind fun _ _ module => ?_
  refine .pure ?_
  simp only [ModuleJson.public, app, module]

end Agreement

end Profile

end AppExecFwk
