import AppExecFwk.Codec.InnerBundleInfoCodec

/-!
# Loading the stored entries

At start every entry of the storage is decoded in turn; an entry that is no
document, or whose decode reports an error, is deleted.  `FromJson` resets the
shared result variable before it reads the last members of a record, so a
mistyped one of these leaves an error behind for the decode that follows.
-/

namespace AppExecFwk

/-- A member that is there has the type it is read as. -/
def isTyped (json : Json) (key : String) (jsonType : JsonType)
    (arrayType : ArrayType := .notArray) : Bool :=
  match findMember json key jsonType false arrayType with
  | .error _ => false
  | _ => true

/-- The items of an array; another document has none. -/
def itemsOf : Json → List Json
  | .array items => items
  | _ => []

/-- The items of the array under a key. -/
def itemsAt (json : Json) (key : String) : List Json :=
  (json.find? key).elim [] itemsOf

/-- The values of the object under a key. -/
def valuesAt (json : Json) (key : String) : List Json :=
  match json.find? key with
  | some (.object members) => members.map (·.2)
  | _ => []

theorem not_error_of_isTyped {json : Json} {key : String} {jsonType : JsonType}
    {arrayType : ArrayType} (typed : isTyped json key jsonType arrayType = true)
    (code : ErrCode) :
    findMember json key jsonType false arrayType ≠ .error code := by
  intro isError
  simp [isTyped, isError] at typed

/-- An array that is read is read item by item. -/
theorem eq_itemsAt_of_findMember {json found : Json} {key : String}
    {isNecessary : Bool} {arrayType : ArrayType}
    (isValue : findMember json key .array isNecessary arrayType =
      .value found) :
    found = .array (itemsAt json key) := by
  unfold findMember at isValue
  split at isValue
  · split at isValue <;> cases isValue
  · next stored present =>
      split at isValue
      · cases isValue
      · cases stored with
        | array items =>
            simp only [checkArrayType] at isValue
            split at isValue
            · cases isValue
            · cases isValue
            · split at isValue
              · cases isValue
                simp [itemsAt, present, itemsOf]
              · cases isValue
        | _ => simp_all [JsonType.admits, Json.isArray]

/-- What is read is what stands under the key. -/
theorem find?_eq_of_findMember {json found : Json} {key : String}
    {isNecessary : Bool}
    (isValue : findMember json key .object isNecessary .notArray =
      .value found) :
    json.find? key = some found := by
  unfold findMember at isValue
  split at isValue
  · split at isValue <;> cases isValue
  · next stored present =>
      split at isValue
      · cases isValue
      · simp_all

/-- An object that is read is read value by value. -/
theorem mem_valuesAt_of_findMember {json : Json} {key : String}
    {isNecessary : Bool} {members : List (String × Json)}
    (isValue : findMember json key .object isNecessary .notArray =
      .value (.object members)) {member : String × Json}
    (inMembers : member ∈ members) : member.2 ∈ valuesAt json key := by
  simp only [valuesAt, find?_eq_of_findMember isValue]
  exact List.mem_map_of_mem inMembers

section LateMembers

/-- Every member of a uri pattern is a text. -/
def SkillUri.isTyped (json : Json) : Bool :=
  ["scheme", "host", "port", "path", "pathStartWith", "pathRegx", "pathRegex",
    "type"].all (AppExecFwk.isTyped json · .string)

/-- The members of a skill have the types they are read as. -/
def Skill.isTyped (json : Json) : Bool :=
  AppExecFwk.isTyped json "actions" .array .string &&
  AppExecFwk.isTyped json "entities" .array .string &&
  AppExecFwk.isTyped json "uris" .array .object &&
  (itemsAt json "uris").all SkillUri.isTyped

/-- Every member of the information about a sandbox application is a number. -/
def SandboxAppPersistentInfo.isTyped (json : Json) : Bool :=
  ["accessTokenId", "appIndex", "userId"].all
    (AppExecFwk.isTyped json · .number)

/-- The members that a record reads after it has reset the shared variable
have the types they are read as. -/
def InnerBundleInfo.isTailTyped (json : Json) : Bool :=
  (valuesAt json "extensionSkillInfos").all
    (fun skills => (itemsOf skills).all Skill.isTyped) &&
  isTyped json "appIndex" .number &&
  isTyped json "isSandboxApp" .boolean &&
  isTyped json "sandboxPersistentInfo" .array .object &&
  (itemsAt json "sandboxPersistentInfo").all SandboxAppPersistentInfo.isTyped

variable {json : Json}

/-- A typed member of a scalar type leaves the shared variable alone. -/
theorem Preserves.read_of_isTyped {α : Type} {get : Json → Decode α}
    [PreservesAll ReaderClean get] {key : String} {data : α}
    {jsonType : JsonType} {arrayType : ArrayType}
    (typed : isTyped json key jsonType arrayType = true) :
    Preserves ReaderClean (getValueIfFindKey get json key data jsonType false
      .reader arrayType) :=
  read_of_typed (not_error_of_isTyped typed) fun found _ =>
    PreservesAll.preserves found

/-- A typed list leaves the shared variable alone if its items do. -/
theorem Preserves.readObjects_of_isTyped {α : Type} {get : Json → Decode α}
    {key : String} {data : List α}
    (typed : isTyped json key .array .object = true)
    (items : ∀ item ∈ itemsAt json key, Preserves ReaderClean (get item)) :
    Preserves ReaderClean (readObjects .reader json key get data) := by
  refine read_of_typed (not_error_of_isTyped typed) fun found isValue => ?_
  rw [eq_itemsAt_of_findMember isValue]
  refine Preserves.getVector fun list same item member => ?_
  cases same
  exact items item member

theorem SkillUri.preserves_of_isTyped (typed : SkillUri.isTyped json = true) :
    Preserves ReaderClean (SkillUri.fromJson json) := by
  simp only [SkillUri.isTyped, List.all_cons, List.all_nil,
    Bool.and_eq_true] at typed
  obtain ⟨scheme, host, port, path, start, regx, regex, type, -⟩ := typed
  refine (Preserves.read_of_isTyped scheme).bind fun _ => ?_
  refine (Preserves.read_of_isTyped host).bind fun _ => ?_
  refine (Preserves.read_of_isTyped port).bind fun _ => ?_
  refine (Preserves.read_of_isTyped path).bind fun _ => ?_
  refine (Preserves.read_of_isTyped start).bind fun _ => ?_
  refine (Preserves.read_of_isTyped regx).bind fun _ => ?_
  refine (Preserves.read_of_isTyped regex).bind fun _ => ?_
  refine (Preserves.read_of_isTyped type).bind fun _ => ?_
  exact Preserves.pure _

theorem Skill.preserves_of_isTyped (typed : Skill.isTyped json = true) :
    Preserves ReaderClean (Skill.fromJson json) := by
  simp only [Skill.isTyped, Bool.and_eq_true, List.all_eq_true] at typed
  obtain ⟨⟨⟨actions, entities⟩, uris⟩, items⟩ := typed
  refine (Preserves.read_of_isTyped actions).bind fun _ => ?_
  refine (Preserves.read_of_isTyped entities).bind fun _ => ?_
  refine (Preserves.readObjects_of_isTyped uris fun item member =>
    SkillUri.preserves_of_isTyped (items item member)).bind fun _ => ?_
  exact Preserves.pure _

theorem SandboxAppPersistentInfo.preserves_of_isTyped
    (typed : SandboxAppPersistentInfo.isTyped json = true) :
    Preserves ReaderClean (SandboxAppPersistentInfo.fromJson json) := by
  simp only [SandboxAppPersistentInfo.isTyped, List.all_cons, List.all_nil,
    Bool.and_eq_true] at typed
  obtain ⟨accessTokenId, appIndex, userId, -⟩ := typed
  refine (Preserves.read_of_isTyped accessTokenId).bind fun _ => ?_
  refine (Preserves.read_of_isTyped appIndex).bind fun _ => ?_
  refine (Preserves.read_of_isTyped userId).bind fun _ => ?_
  exact Preserves.pure _

/-- Lists of skills under the keys of a map. -/
theorem Skill.preserves_readMap {key : String} {data : StringMap (List Skill)}
    (typed : ∀ skills ∈ valuesAt json key, ∀ skill ∈ itemsOf skills,
      Skill.isTyped skill = true) :
    Preserves ReaderClean (readMap .here json key (getVector Skill.fromJson)
      data) := by
  refine Preserves.read_of fun found isValue => ?_
  refine Preserves.getMap fun members same member inMembers => ?_
  subst same
  have listed := mem_valuesAt_of_findMember isValue inMembers
  refine Preserves.getVector fun skills isArray skill inSkills => ?_
  refine Skill.preserves_of_isTyped (typed _ listed skill ?_)
  simpa [isArray, itemsOf] using inSkills

/-- A decode of a record whose last members are well typed leaves no error in
the shared variable, whatever it found there. -/
theorem InnerBundleInfo.establishes_of_isTailTyped
    (typed : InnerBundleInfo.isTailTyped json = true) :
    Establishes ReaderClean (InnerBundleInfo.fromJson json) := by
  simp only [InnerBundleInfo.isTailTyped, Bool.and_eq_true,
    List.all_eq_true] at typed
  obtain ⟨⟨⟨⟨skills, appIndex⟩, isSandboxApp⟩, sandbox⟩, items⟩ := typed
  -- everything before the reset is overwritten by it
  iterate 19 refine Establishes.bind fun _ => ?_
  refine Establishes.takeReader fun _ => ?_
  refine Preserves.bind (Preserves.withResult ?extensions) fun _ => ?_
  case extensions =>
    refine Preserves.read.bind fun _ => ?_
    refine Preserves.read.bind fun _ => ?_
    refine Preserves.read.bind fun _ => ?_
    refine (Skill.preserves_readMap skills).bind fun _ => ?_
    refine Preserves.read.bind fun _ => ?_
    exact Preserves.pure _
  refine (Preserves.read_of_isTyped appIndex).bind fun _ => ?_
  refine (Preserves.read_of_isTyped isSandboxApp).bind fun _ => ?_
  refine (Preserves.readObjects_of_isTyped sandbox fun item member =>
    SandboxAppPersistentInfo.preserves_of_isTyped
      (items item member)).bind fun _ => ?_
  exact Preserves.pure _

end LateMembers

instance : PreservesAll ProfileClean InnerBundleInfo.fromJson where
  preserves json := by
    iterate 18 refine Preserves.read.bind fun _ => ?_
    refine Preserves.bind (Preserves.withResult Preserves.read) fun _ => ?_
    refine Preserves.takeResult.bind fun _ => ?_
    refine Preserves.bind (Preserves.withResult ?extensions) fun _ => ?_
    case extensions =>
      iterate 5 refine Preserves.read.bind fun _ => ?_
      exact Preserves.pure _
    iterate 3 refine Preserves.read.bind fun _ => ?_
    exact Preserves.pure _

/-- Records that were written are read back one after another as they were,
up to what lives only in memory. -/
theorem InnerBundleInfo.fromJson_toJson_all (infos : List InnerBundleInfo) :
    Decoder.all InnerBundleInfo.fromJson (infos.map InnerBundleInfo.toJson) {} =
      (.ok (infos.map fun info => (ErrCode.ok, info.persisted)), {}) :=
  Decoder.all_map_of_ok fun info _ =>
    InnerBundleInfo.fromJson_toJson info {} rfl

/-- An entry of the storage; a text that is no document has no value. -/
structure Entry where
  key : String
  value : Option Json

/-- Decode one entry; it is deleted if that fails. -/
def saveEntry (entry : Entry) : Decode (Option InnerBundleInfo) :=
  match entry.value with
  | none => return none
  | some json => do
      let (result, innerBundleInfo) ← InnerBundleInfo.fromJson json
      if result ≠ ErrCode.ok then
        return none
      return some innerBundleInfo

/-- Decode every entry in turn; what becomes of a decoded record whose
installation was interrupted is not part of the decoding. -/
def saveEntries (allEntries : List Entry) :
    Decode (List (Option InnerBundleInfo)) :=
  Decoder.all saveEntry allEntries

end AppExecFwk
