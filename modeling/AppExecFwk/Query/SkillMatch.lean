import AppExecFwk.Info.InnerBundleInfo

/-!
# Matching a want with a skill

A want that names no ability is answered by the abilities one of whose skills
matches its action, its entities, its uri and its type.  The regular expressions
of the C++ library are a parameter: `regexMatch regex text` is
`regex_match(text, regex)`, and false where the library throws.
-/

namespace AppExecFwk

/-- The ability a want names. -/
structure ElementName where
  bundleName : String := ""
  moduleName : String := ""
  abilityName : String := ""

/-- What the queries read of a want. -/
structure QueryWant where
  element : ElementName := {}
  action : String := ""
  entities : List String := []
  uri : String := ""
  type : String := ""

/-- A parameter to match is there. -/
def QueryWant.hasParam (want : QueryWant) : Bool :=
  !(want.action = "" && want.entities.isEmpty && want.uri = "" &&
    want.type = "")

namespace Skill

def schemeSeparator : String := "://"
def portSeparator : String := ":"
def pathSeparator : String := "/"
def typeWildcard : String := "*/*"

section

variable (skill : Skill)

def matchAction (action : String) : Bool :=
  if skill.actions.isEmpty then false
  else if action = "" then true
  else skill.actions.contains action

def matchEntities (paramEntities : List String) : Bool :=
  if paramEntities.isEmpty then true
  else if skill.entities.isEmpty then false
  else paramEntities.all skill.entities.contains

end

/-- `back() == '*'`. -/
def endsWithWildcard (type : String) : Bool :=
  type.toList.getLast? = some '*'

/-- `substr(0, length() - 1)`. -/
def withoutLast (type : String) : String :=
  String.ofList type.toList.dropLast

/-- `text.find(prefix) == 0`. -/
def startsWithText (text start : String) : Bool :=
  Text.find text start = some 0

def matchType (type skillUriType : String) : Bool :=
  if skillUriType = "" then false
  else if type = typeWildcard || skillUriType = typeWildcard then true
  else if endsWithWildcard type then
    startsWithText skillUriType (withoutLast type)
  else if endsWithWildcard skillUriType then
    startsWithText type (withoutLast skillUriType)
  else type = skillUriType

variable (regexMatch : String → String → Bool)

def matchUri (uriString : String) (skillUri : SkillUri) : Bool :=
  if skillUri.scheme = "" then uriString = ""
  else if skillUri.host = "" then uriString = skillUri.scheme
  else
    let authority := skillUri.scheme ++ schemeSeparator ++ skillUri.host ++
      if skillUri.port ≠ "" then portSeparator ++ skillUri.port else ""
    if skillUri.path = "" && skillUri.pathStartWith = "" &&
        skillUri.pathRegex = "" then
      uriString = authority
    else
      let skillUriString := authority ++ pathSeparator
      -- One of the three has to match.
      (skillUri.path ≠ "" && uriString = skillUriString ++ skillUri.path) ||
        (skillUri.pathStartWith ≠ "" &&
          startsWithText uriString (skillUriString ++ skillUri.pathStartWith)) ||
        (skillUri.pathRegex ≠ "" &&
          regexMatch (skillUriString ++ skillUri.pathRegex) uriString)

variable (skill : Skill)

def matchUriAndType (uriString type : String) : Bool :=
  if uriString = "" && type = "" then
    skill.uris.isEmpty ||
      skill.uris.any fun skillUri => skillUri.scheme = "" && skillUri.type = ""
  else if skill.uris.isEmpty then false
  else if uriString ≠ "" && type = "" then
    skill.uris.any fun skillUri =>
      matchUri regexMatch uriString skillUri && skillUri.type = ""
  else if uriString = "" && type ≠ "" then
    skill.uris.any fun skillUri =>
      skillUri.scheme = "" && matchType type skillUri.type
  else
    skill.uris.any fun skillUri =>
      matchUri regexMatch uriString skillUri && matchType type skillUri.type

/-- `Skill::Match`. -/
def matchWant (want : QueryWant) : Bool :=
  skill.matchAction want.action && skill.matchEntities want.entities &&
    skill.matchUriAndType regexMatch want.uri want.type

def matchLauncher (want : QueryWant) : Bool :=
  skill.matchAction want.action && skill.matchEntities want.entities

end Skill

end AppExecFwk
