import AppExecFwk.Codec.BundleCodec
import AppExecFwk.Info.InnerBundleInfo
import AppExecFwk.Library.JsonText

/-!
# The bundle state storage

The state of a bundle for a user, which abilities are disabled and whether the
bundle is, is kept in a file of its own: one JSON object with one member for
each bundle and user.  Every call opens the file, reads what it needs and, to
change an entry, writes the whole object again.

A call that throws, as reading a text that is no document does, ends the
process; its result is `none`.
-/

namespace AppExecFwk

open JsonText

/-- The content of the file, if it can be opened. -/
abbrev StateFile := Option Bytes

/-- `static_cast<int>(file.tellg())` at the end of the file. -/
def lengthOf (content : Bytes) : Int32 :=
  Int32.ofNat content.length

/-- `file << text` with the position at the start: what lies behind the text
stays. -/
def overwrite (content text : Bytes) : Bytes :=
  text ++ content.drop text.length

/-- The information of every bundle and user that was loaded. -/
abbrev StateInfos := StringMap (Std.ExtTreeMap Int32 BundleUserInfo)

namespace StateInfos

/-- The information of one bundle for one user. -/
def find? (infos : StateInfos) (bundleName : String) (userId : Int32) :
    Option BundleUserInfo :=
  infos[bundleName]?.bind fun users => users[userId]?

end StateInfos

namespace BundleStateStorage

/-- `BundleUserInfo` to a document. -/
def documentOf (info : BundleUserInfo) : Json :=
  inOrder info.toJson

/-- `json.get<BundleUserInfo>()`. -/
def getBundleUserInfo (json : Json) : Option BundleUserInfo :=
  (BundleUserInfo.fromJson json {}).1.toOption

section Methods

variable (floats : Floats) (splitStr : String → String → Bool → Bool →
  List String)

def keyToNameAndUserId (key : String) : Option (String × Int32) :=
  match splitStr key "_" false true with
  | [bundleName, userId] => some (bundleName, Text.atoi userId)
  | _ => none

/-- One item of the document. -/
def loadItem (infos : StateInfos) (item : String × Json) : Option StateInfos :=
  match keyToNameAndUserId splitStr item.1 with
  | none => some infos
  | some (bundleName, userId) => do
      let bundleUserInfo ← getBundleUserInfo item.2
      match infos[bundleName]? with
      | none =>
          return infos.insertIfNew bundleName
            ((∅ : Std.ExtTreeMap Int32 BundleUserInfo).insertIfNew userId
              bundleUserInfo)
      | some users =>
          return infos.insert bundleName (users.insert userId bundleUserInfo)

/-- Whether the data is loaded, and what is. -/
def loadAllBundleStateDataFromJson (jParse : Option Json) (infos : StateInfos) :
    Option (Bool × StateInfos) :=
  match jParse with
  | none => return (false, infos)
  | some json => do
      let infos ← (items json).foldlM (loadItem splitStr) infos
      return (!infos.isEmpty, infos)

def loadAllBundleStateData (file : StateFile) (infos : StateInfos) :
    Option (Bool × StateInfos) :=
  match file with
  | none => return (false, infos)
  | some content =>
      if lengthOf content ≤ 0 then return (false, infos)
      else loadAllBundleStateDataFromJson splitStr (parse floats content) infos

/-- The document as `file << std::setw(DUMP_INDENT) << json` writes it. -/
def dump (json : Json) : Bytes :=
  write floats 0 json

def saveBundleStateStorage (bundleName : String) (userId : Int32)
    (bundleUserInfo : BundleUserInfo) (file : StateFile) :
    Option (Bool × StateFile) :=
  if bundleName.isEmpty || userId < 0 then return (false, file)
  else
    let appName := nameAndUserIdToKey bundleName userId
    match file with
    | none => return (false, none)
    | some content =>
        if lengthOf content = 0 then do
          let appRoot ← setMember appName (documentOf bundleUserInfo) .null
          return (true, some (content ++ dump floats appRoot ++ [newline]))
        else do
          let jsonFile ← readFirst floats content
          let jsonFile ← setMember appName (documentOf bundleUserInfo) jsonFile
          return (true,
            some (overwrite content (dump floats jsonFile ++ [newline])))

/-- The information that is returned, if the call succeeds. -/
def getBundleStateStorage (bundleName : String) (userId : Int32)
    (file : StateFile) : Option (Option BundleUserInfo) :=
  if bundleName.isEmpty || userId < 0 then return none
  else
    match file with
    | none => return none
    | some content =>
        if lengthOf content = 0 then return none
        else do
          -- the document is taken for the information, not its entry
          let jsonFile ← readFirst floats content
          return some (← getBundleUserInfo jsonFile)

def deleteBundleState (bundleName : String) (userId : Int32)
    (file : StateFile) : Option (Bool × StateFile) :=
  if bundleName.isEmpty || userId < 0 then return (false, file)
  else
    let appName := nameAndUserIdToKey bundleName userId
    match file with
    | none => return (false, none)
    | some content =>
        if lengthOf content = 0 then return (true, file)
        else do
          let jParse ← readFirst floats content
          match jParse with
          | .object members =>
              if (Json.findMember members appName).isNone then
                return (true, file)
              else
                let others := members.filter fun member => member.1 ≠ appName
                if others.isEmpty then return (true, some [])
                else return (true, some (dump floats (.object others)))
          | _ => return (true, file)

end Methods

end BundleStateStorage

end AppExecFwk
