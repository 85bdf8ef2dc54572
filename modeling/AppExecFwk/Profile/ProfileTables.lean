import AppExecFwk.Info.InnerBundleInfo

/-!
# What both profile conversions look up

The two conversions of a decoded profile into a bundle information object are
written apart.  They check the bundle name the same way, choose the native
libraries the same way and look the same words up in their tables.
-/

namespace AppExecFwk

/-- What a conversion asks of the package and of the device: whether the package
has a directory, the list of binary interfaces, the type of the device, and how
a text is split. -/
structure Platform where
  isDirExist : String → Bool
  getAbiList : String
  getDeviceType : String
  splitStr : String → String → Bool → Bool → List String

def minBundleName : Nat := 7

def maxBundleName : Nat := 255

/-- A letter that no bundle name may have. -/
def isBadBundleNameChar (c : Char) : Bool :=
  c < '.' || c = '/' || ('9' < c && c < 'A') || ('Z' < c && c < '_') ||
    c = '\x60' || 'z' < c

def checkBundleNameIsValid (bundleName : String) : Bool :=
  if bundleName.isEmpty then false
  else if bundleName.utf8ByteSize < minBundleName ||
      maxBundleName < bundleName.utf8ByteSize then false
  else
    match bundleName.toList with
    | [] => false
    | head :: tail =>
        if head < 'A' || ('Z' < head && head < 'a') || 'z' < head then false
        else !(head :: tail).any isBadBundleNameChar

/-- The types of a module that are known. -/
def moduleTypeSet : List String :=
  ["entry", "feature", "har"]

/-- The flag of every mode in which an ability runs in the background. -/
def backgroundModeMap : List (String × UInt32) :=
  [("dataTransfer", 1), ("audioPlayback", 2), ("audioRecording", 4),
    ("location", 8), ("bluetoothInteraction", 16),
    ("multiDeviceConnection", 32), ("wifiInteraction", 64), ("voip", 128),
    ("taskKeeping", 256), ("pictureInPicture", 512), ("screenFetch", 1024)]

/-- The flags of the words that are in the table. -/
def flagsOf (table : List (String × UInt32)) (words : List String) : UInt32 :=
  words.foldl (fun flags word => flags ||| (table.lookup word).getD 0) 0

/-- The directory of the libraries for each binary interface, in the order of
the map. -/
def abiMap : List (String × String) :=
  [("arm64-v8a", "arm64"), ("armeabi", "arm"), ("armeabi-v7a", "arm"),
    ("x86", "x86"), ("x86_64", "x86_64")]

/-- The path of the native libraries and the binary interface they are for. -/
def nativeLibrary (platform : Platform) : String × String :=
  let abis := platform.getAbiList
  let isDefault := abis = "default"
  if !platform.isDirExist "libs/" then
    let targetAbi :=
      if isDefault then "armeabi-v7a"
      else
        ((abiMap.find? fun item => Text.find abis item.1 = some 0).map
          (·.1)).getD "armeabi-v7a"
    ("", targetAbi)
  else
    let targetAbi :=
      if platform.isDirExist "libs/armeabi-v7a/" then "armeabi-v7a"
      else "armeabi"
    let found :=
      if isDefault then none
      else
        (platform.splitStr abis "," false false).find? fun abi =>
          (abiMap.lookup abi).isSome &&
            platform.isDirExist ("libs/" ++ abi ++ "/")
    match found with
    | none => ("libs/" ++ "arm", targetAbi)
    | some abi => ("libs/" ++ (abiMap.lookup abi).getD "", abi)

def intentActionHome : String := "action.system.home"

def intentEntityHome : String := "entity.system.home"

def flagHomeIntentFromSystem : String := "flag.home.intent.from.system"

/-- An ability with such a skill starts the application. -/
def Skill.isHome (skill : Skill) : Bool :=
  skill.actions.contains intentActionHome &&
    skill.entities.contains intentEntityHome

/-- An ability with such a skill is the launcher of the system. -/
def Skill.isLauncher (skill : Skill) : Bool :=
  skill.entities.contains flagHomeIntentFromSystem

/-- The key of an ability or extension. -/
def abilityKey (bundleName package name : String) : String :=
  bundleName ++ "." ++ package ++ "." ++ name

namespace InnerBundleInfo

section Insertion

variable (info : InnerBundleInfo)

/-! A key that is there keeps its value. -/

def insertInnerModuleInfo (modulePackage : String)
    (innerModuleInfo : InnerModuleInfo) : InnerBundleInfo :=
  { info with
    innerModuleInfos :=
      info.innerModuleInfos.insertIfNew modulePackage innerModuleInfo }

def insertAbilitiesInfo (key : String) (abilityInfo : AbilityInfo) :
    InnerBundleInfo :=
  { info with
    baseAbilityInfos := info.baseAbilityInfos.insertIfNew key abilityInfo }

def insertExtensionInfo (key : String) (extensionInfo : ExtensionAbilityInfo) :
    InnerBundleInfo :=
  { info with
    baseExtensionInfos :=
      info.baseExtensionInfos.insertIfNew key extensionInfo }

def insertSkillInfo (key : String) (skills : List Skill) : InnerBundleInfo :=
  { info with skillInfos := info.skillInfos.insertIfNew key skills }

def insertExtensionSkillInfo (key : String) (skills : List Skill) :
    InnerBundleInfo :=
  { info with
    extensionSkillInfos := info.extensionSkillInfos.insertIfNew key skills }

def insertFormInfos (keyName : String) (formInfos : List FormInfo) :
    InnerBundleInfo :=
  { info with formInfos := info.formInfos.insertIfNew keyName formInfos }

def insertCommonEvents (keyName : String) (commonEvents : CommonEventInfo) :
    InnerBundleInfo :=
  { info with
    commonEvents := info.commonEvents.insertIfNew keyName commonEvents }

def insertShortcutInfos (keyName : String) (shortcutInfos : ShortcutInfo) :
    InnerBundleInfo :=
  { info with
    shortcutInfos := info.shortcutInfos.insertIfNew keyName shortcutInfos }

end Insertion

def setBaseApplicationInfo (info : InnerBundleInfo)
    (applicationInfo : ApplicationInfo) : InnerBundleInfo :=
  { info with baseApplicationInfo := applicationInfo }

def setBaseBundleInfo (info : InnerBundleInfo) (bundleInfo : BundleInfo) :
    InnerBundleInfo :=
  { info with baseBundleInfo := bundleInfo }

end InnerBundleInfo

end AppExecFwk
