import AppExecFwk.Codec.ResultVariables
import AppExecFwk.Codec.RoundTrip

/-!
# Forms, common events and shortcuts as documents

Forms and common events are decoded with `at`, which throws where a member is
missing.
-/

namespace AppExecFwk

variable {condition : ParseResults → Prop}

def FormCustomizeData.toJson (info : FormCustomizeData) : Json :=
  .object [
    ("name", .string info.name),
    ("value", .string info.value)]

def FormCustomizeData.fromJson (json : Json) : Decode FormCustomizeData := do
  let info : FormCustomizeData := {}
  let name ← getString (← atKey json "name")
  let value ← getString (← atKey json "value")
  return { info with name, value }

instance :
    RecordRoundTrip FormCustomizeData.fromJson FormCustomizeData.toJson where
  isObject _ := rfl
  get_put info results clean := by
    repeat refine atKey_then clean rfl ?_
    rfl

instance : PreservesAll condition FormCustomizeData.fromJson where
  preserves json := by
    repeat
      refine (Preserves.atKey _ _).bind fun _ =>
        (PreservesAll.preserves _).bind fun _ => ?_
    exact Preserves.pure _

def FormWindow.toJson (info : FormWindow) : Json :=
  .object [
    ("designWidth", .integer info.designWidth.toInt),
    ("autoDesignWidth", .boolean info.autoDesignWidth)]

def FormWindow.fromJson (json : Json) : Decode FormWindow := do
  let info : FormWindow := {}
  let designWidth ← getInt32 (← atKey json "designWidth")
  let autoDesignWidth ← getBool (← atKey json "autoDesignWidth")
  return { info with designWidth, autoDesignWidth }

instance : RecordRoundTrip FormWindow.fromJson FormWindow.toJson where
  isObject _ := rfl
  get_put info results clean := by
    repeat refine atKey_then clean rfl ?_
    rfl

instance : PreservesAll condition FormWindow.fromJson where
  preserves json := by
    repeat
      refine (Preserves.atKey _ _).bind fun _ =>
        (PreservesAll.preserves _).bind fun _ => ?_
    exact Preserves.pure _

def FormInfo.toJson (info : FormInfo) : Json :=
  .object [
    ("name", .string info.name),
    ("package", .string info.package),
    ("bundleName", .string info.bundleName),
    ("moduleName", .string info.moduleName),
    ("abilityName", .string info.abilityName),
    ("description", .string info.description),
    ("relatedBundleName", .string info.relatedBundleName),
    ("jsComponentName", .string info.jsComponentName),
    ("deepLink", .string info.deepLink),
    ("src", .string info.src),
    ("formConfigAbility", .string info.formConfigAbility),
    ("scheduledUpdateTime", .string info.scheduledUpdateTime),
    ("originalBundleName", .string info.originalBundleName),
    ("descriptionId", .integer info.descriptionId.toInt),
    ("updateDuration", .integer info.updateDuration.toInt),
    ("defaultDimension", .integer info.defaultDimension.toInt),
    ("defaultFlag", .boolean info.defaultFlag),
    ("formVisibleNotify", .boolean info.formVisibleNotify),
    ("updateEnabled", .boolean info.updateEnabled),
    ("type", .integer info.type.value.toInt),
    ("colorMode", .integer info.colorMode.value.toInt),
    ("supportDimensions", .ofList (.integer ·.toInt) info.supportDimensions),
    ("customizeData", .ofList FormCustomizeData.toJson info.customizeDatas),
    ("landscapeLayouts", .ofList .string info.landscapeLayouts),
    ("portraitLayouts", .ofList .string info.portraitLayouts),
    ("window", info.window.toJson)]

def FormInfo.fromJson (json : Json) : Decode FormInfo := do
  let info : FormInfo := {}
  let bundleName ← getString (← atKey json "bundleName")
  let package ← getString (← atKey json "package")
  let moduleName ← getString (← atKey json "moduleName")
  let abilityName ← getString (← atKey json "abilityName")
  let name ← getString (← atKey json "name")
  let description ← getString (← atKey json "description")
  let relatedBundleName ← getString (← atKey json "relatedBundleName")
  let jsComponentName ← getString (← atKey json "jsComponentName")
  let deepLink ← getString (← atKey json "deepLink")
  let formConfigAbility ← getString (← atKey json "formConfigAbility")
  let scheduledUpdateTime ← getString (← atKey json "scheduledUpdateTime")
  let src ← getString (← atKey json "src")
  let originalBundleName ← getString (← atKey json "originalBundleName")
  let descriptionId ← getInt32 (← atKey json "descriptionId")
  let updateDuration ← getInt32 (← atKey json "updateDuration")
  let defaultDimension ← getInt32 (← atKey json "defaultDimension")
  let defaultFlag ← getBool (← atKey json "defaultFlag")
  let formVisibleNotify ← getBool (← atKey json "formVisibleNotify")
  let updateEnabled ← getBool (← atKey json "updateEnabled")
  let type ← getEnum FormType.mk (← atKey json "type")
  let colorMode ← getEnum FormsColorMode.mk (← atKey json "colorMode")
  let supportDimensions ← getVector getInt32 (← atKey json "supportDimensions")
  let customizeDatas ← getVector FormCustomizeData.fromJson (← atKey json
    "customizeData")
  let landscapeLayouts ← getVector getString (← atKey json "landscapeLayouts")
  let portraitLayouts ← getVector getString (← atKey json "portraitLayouts")
  let window ← FormWindow.fromJson (← atKey json "window")
  return { info with
    bundleName, package, moduleName, abilityName, name, description,
    relatedBundleName, jsComponentName, deepLink, formConfigAbility,
    scheduledUpdateTime, src, originalBundleName, descriptionId,
    updateDuration, defaultDimension, defaultFlag, formVisibleNotify,
    updateEnabled, type, colorMode, supportDimensions, customizeDatas,
    landscapeLayouts, portraitLayouts, window }

instance : RecordRoundTrip FormInfo.fromJson FormInfo.toJson where
  isObject _ := rfl
  get_put info results clean := by
    repeat refine atKey_then clean rfl ?_
    rfl

instance : PreservesAll condition FormInfo.fromJson where
  preserves json := by
    repeat
      refine (Preserves.atKey _ _).bind fun _ =>
        (PreservesAll.preserves _).bind fun _ => ?_
    exact Preserves.pure _

def CommonEventInfo.toJson (info : CommonEventInfo) : Json :=
  .object [
    ("name", .string info.name),
    ("bundleName", .string info.bundleName),
    ("uid", .integer info.uid.toInt),
    ("permission", .string info.permission),
    ("data", .ofList .string info.data),
    ("type", .ofList .string info.type),
    ("events", .ofList .string info.events)]

def CommonEventInfo.fromJson (json : Json) : Decode CommonEventInfo := do
  let info : CommonEventInfo := {}
  let name ← getString (← atKey json "name")
  let bundleName ← getString (← atKey json "bundleName")
  let uid ← getInt32 (← atKey json "uid")
  let permission ← getString (← atKey json "permission")
  let data ← getVector getString (← atKey json "data")
  let type ← getVector getString (← atKey json "type")
  let events ← getVector getString (← atKey json "events")
  return { info with name, bundleName, uid, permission, data, type, events }

instance : RecordRoundTrip CommonEventInfo.fromJson CommonEventInfo.toJson where
  isObject _ := rfl
  get_put info results clean := by
    repeat refine atKey_then clean rfl ?_
    rfl

instance : PreservesAll condition CommonEventInfo.fromJson where
  preserves json := by
    repeat
      refine (Preserves.atKey _ _).bind fun _ =>
        (PreservesAll.preserves _).bind fun _ => ?_
    exact Preserves.pure _

def ShortcutIntent.toJson (info : ShortcutIntent) : Json :=
  .object [
    ("targetBundle", .string info.targetBundle),
    ("targetClass", .string info.targetClass)]

def ShortcutIntent.fromJson (json : Json) :
    Decode ShortcutIntent := withLocal do
  let info : ShortcutIntent := {}
  let targetBundle ← readString .here json "targetBundle" info.targetBundle
  let targetClass ← readString .here json "targetClass" info.targetClass
  return { info with targetBundle, targetClass }

instance : RecordRoundTrip ShortcutIntent.fromJson ShortcutIntent.toJson where
  isObject _ := rfl
  get_put info results clean := by
    apply withLocal_of_ok
    dsimp only
    repeat refine read_then clean rfl rfl ?_
    rfl

instance [Unaffected condition .here] :
    PreservesAll condition ShortcutIntent.fromJson where
  preserves json := by
    apply Preserves.withLocal
    repeat refine Preserves.read.bind fun _ => ?_
    exact Preserves.pure _

def ShortcutInfo.toJson (info : ShortcutInfo) : Json :=
  .object [
    ("id", .string info.id),
    ("bundleName", .string info.bundleName),
    ("hostAbility", .string info.hostAbility),
    ("icon", .string info.icon),
    ("label", .string info.label),
    ("disableMessage", .string info.disableMessage),
    ("isStatic", .boolean info.isStatic),
    ("isHomeShortcut", .boolean info.isHomeShortcut),
    ("isEnables", .boolean info.isEnables),
    ("intents", .ofList ShortcutIntent.toJson info.intents),
    ("iconId", .integer info.iconId.toInt),
    ("labelId", .integer info.labelId.toInt)]

def ShortcutInfo.fromJson (json : Json) : Decode ShortcutInfo := withLocal do
  let info : ShortcutInfo := {}
  let id ← readString .here json "id" info.id
  let bundleName ← readString .here json "bundleName" info.bundleName
  let hostAbility ← readString .here json "hostAbility" info.hostAbility
  let icon ← readString .here json "icon" info.icon
  let label ← readString .here json "label" info.label
  let disableMessage ← readString .here json "disableMessage"
    info.disableMessage
  let isStatic ← readBool .here json "isStatic" info.isStatic
  let isHomeShortcut ← readBool .here json "isHomeShortcut" info.isHomeShortcut
  let isEnables ← readBool .here json "isEnables" info.isEnables
  let intents ← readObjects .here json "intents" ShortcutIntent.fromJson
    info.intents
  let iconId ← readInt32 .here json "iconId" info.iconId
  let labelId ← readInt32 .here json "labelId" info.labelId
  return { info with
    id, bundleName, hostAbility, icon, label, disableMessage, isStatic,
    isHomeShortcut, isEnables, intents, iconId, labelId }

instance : RecordRoundTrip ShortcutInfo.fromJson ShortcutInfo.toJson where
  isObject _ := rfl
  get_put info results clean := by
    apply withLocal_of_ok
    dsimp only
    repeat refine read_then clean rfl rfl ?_
    rfl

instance [Unaffected condition .here] :
    PreservesAll condition ShortcutInfo.fromJson where
  preserves json := by
    apply Preserves.withLocal
    repeat refine Preserves.read.bind fun _ => ?_
    exact Preserves.pure _

end AppExecFwk
