import AppExecFwk.Codec.JsonUtil

/-!
# What a decode does to the result variables

A condition on the result variables is preserved by every read through a
variable that it does not depend on.  The rules below carry such a condition
through a decoder, member by member; only decodes that end are considered, as
an exception ends the process.
-/

namespace AppExecFwk

/-- The condition holds after the decode if it held before. -/
def Preserves {α : Type} (condition : ParseResults → Prop)
    (decode : Decode α) : Prop :=
  ∀ results value after, condition results →
    decode results = (.ok value, after) → condition after

/-- The condition holds after the decode, whatever held before. -/
def Establishes {α : Type} (condition : ParseResults → Prop)
    (decode : Decode α) : Prop :=
  ∀ results value after, decode results = (.ok value, after) → condition after

/-- The condition does not depend on the variable. -/
class Unaffected (condition : ParseResults → Prop) (parseResult : ResultVar) :
    Prop where
  write : ∀ results code, condition results →
    condition (parseResult.write code results)

/-- The decoder preserves the condition on every document. -/
class PreservesAll {α : Type} (condition : ParseResults → Prop)
    (get : Json → Decode α) : Prop where
  preserves : ∀ json, Preserves condition (get json)

/-- No decode has left an error in the variable of the profile reader. -/
def ReaderClean (results : ParseResults) : Prop :=
  results.reader = ErrCode.ok

/-- No decode has left an error in the variable of the module profile. -/
def ProfileClean (results : ParseResults) : Prop :=
  results.profile = ErrCode.ok

instance : Unaffected ReaderClean .here := ⟨fun _ _ clean => clean⟩

instance : Unaffected ReaderClean .profile := ⟨fun _ _ clean => clean⟩

instance : Unaffected ProfileClean .here := ⟨fun _ _ clean => clean⟩

instance : Unaffected ProfileClean .reader := ⟨fun _ _ clean => clean⟩

variable {α β : Type} {condition : ParseResults → Prop} {get : Json → Decode α}

/-- What a sequence of two decodes that ends went through. -/
theorem bind_eq_ok {decode : Decode α} {next : α → Decode β}
    {results after : ParseResults} {value : β}
    (ended : (decode >>= next) results = (.ok value, after)) :
    ∃ first between, decode results = (.ok first, between) ∧
      next first between = (.ok value, after) := by
  change Decoder.bind decode next results = (.ok value, after) at ended
  unfold Decoder.bind at ended
  split at ended
  case h_1 first between decoded => exact ⟨first, between, decoded, ended⟩
  case h_2 => cases ended

namespace Preserves

theorem pure (value : α) : Preserves condition (pure value) := by
  intro results _ after holds ended
  cases ended
  exact holds

theorem bind {decode : Decode α} {next : α → Decode β}
    (first : Preserves condition decode)
    (rest : ∀ value, Preserves condition (next value)) :
    Preserves condition (decode >>= next) := by
  intro results value after holds ended
  obtain ⟨read, between, decoded, continued⟩ := bind_eq_ok ended
  exact rest read _ _ _ (first _ _ _ holds decoded) continued

theorem withLocal [own : Unaffected condition .here] {decode : Decode α}
    (body : Preserves condition decode) :
    Preserves condition (withLocal decode) := by
  intro results value after holds ended
  simp only [AppExecFwk.withLocal, Prod.mk.injEq] at ended
  obtain ⟨decoded, rfl⟩ := ended
  apply own.write
  exact body _ value _ (own.write results ErrCode.ok holds)
    (Prod.ext decoded rfl)

theorem withResult [own : Unaffected condition .here] {decode : Decode α}
    (body : Preserves condition decode) :
    Preserves condition (withResult decode) := by
  apply withLocal
  intro results value after holds ended
  dsimp only at ended
  split at ended
  case h_1 read between decoded =>
    cases ended
    exact body _ _ _ holds decoded
  case h_2 => cases ended

theorem takeResult {parseResult : ResultVar}
    [own : Unaffected condition parseResult] :
    Preserves condition (takeResult parseResult) := by
  intro results value after holds ended
  cases ended
  exact own.write results ErrCode.ok holds

theorem atKey (json : Json) (key : String) :
    Preserves condition (atKey json key) := by
  intro results value after holds ended
  cases json with
  | object members =>
      cases found : Json.findMember members key with
      | none =>
          simp only [AppExecFwk.atKey, found] at ended
          cases ended
      | some stored =>
          simp only [AppExecFwk.atKey, found] at ended
          cases ended
          exact holds
  | _ => cases ended

theorem all {γ : Type} {decode : γ → Decode α} {items : List γ}
    (each : ∀ item ∈ items, Preserves condition (decode item)) :
    Preserves condition (Decoder.all decode items) := by
  induction items with
  | nil => exact pure []
  | cons head tail ih =>
      have first := each head (by simp)
      have others := ih fun item member => each item (by simp [member])
      exact first.bind fun _ => others.bind fun _ => pure _

/-- A read through a variable that does not matter. -/
theorem read_of {json : Json} {key : String} {data : α} {jsonType : JsonType}
    {isNecessary : Bool} {parseResult : ResultVar} {arrayType : ArrayType}
    [own : Unaffected condition parseResult]
    (converted : ∀ found,
      findMember json key jsonType isNecessary arrayType = .value found →
        Preserves condition (get found)) :
    Preserves condition (getValueIfFindKey get json key data jsonType
      isNecessary parseResult arrayType) := by
  intro results value after holds ended
  unfold getValueIfFindKey at ended
  split at ended
  · cases ended
    exact holds
  · split at ended
    case h_1 =>
      cases ended
      exact holds
    case h_2 code _ =>
      cases ended
      exact own.write results code holds
    case h_3 found isValue =>
      exact converted found isValue _ _ _ holds ended

theorem read [PreservesAll condition get] {json : Json} {key : String}
    {data : α} {jsonType : JsonType} {isNecessary : Bool}
    {parseResult : ResultVar} {arrayType : ArrayType}
    [Unaffected condition parseResult] :
    Preserves condition (getValueIfFindKey get json key data jsonType
      isNecessary parseResult arrayType) :=
  read_of fun found _ => PreservesAll.preserves found

/-- A read of a member that has the right type or is not there. -/
theorem read_of_typed {json : Json} {key : String} {data : α}
    {jsonType : JsonType} {isNecessary : Bool} {parseResult : ResultVar}
    {arrayType : ArrayType}
    (typed : ∀ code,
      findMember json key jsonType isNecessary arrayType ≠ .error code)
    (converted : ∀ found,
      findMember json key jsonType isNecessary arrayType = .value found →
        Preserves condition (get found)) :
    Preserves condition (getValueIfFindKey get json key data jsonType
      isNecessary parseResult arrayType) := by
  intro results value after holds ended
  unfold getValueIfFindKey at ended
  split at ended
  · cases ended
    exact holds
  · split at ended
    case h_1 =>
      cases ended
      exact holds
    case h_2 code isError => exact absurd isError (typed code)
    case h_3 found isValue =>
      exact converted found isValue _ _ _ holds ended

/-- The conversions of the document library write no variable. -/
theorem getInteger (json : Json) : Preserves condition (getInteger json) := by
  intro results value after holds ended
  cases json <;> cases ended <;> exact holds

theorem getNumber (json : Json) : Preserves condition (getNumber json) := by
  intro results value after holds ended
  cases json <;> cases ended <;> exact holds

end Preserves

instance : PreservesAll condition getString where
  preserves json := by
    intro results value after holds ended
    cases json <;> cases ended
    exact holds

instance : PreservesAll condition getBool where
  preserves json := by
    intro results value after holds ended
    cases json <;> cases ended
    exact holds

instance : PreservesAll condition getInt32 :=
  ⟨fun json => (Preserves.getInteger json).bind fun _ => .pure _⟩

instance : PreservesAll condition getUInt32 :=
  ⟨fun json => (Preserves.getInteger json).bind fun _ => .pure _⟩

instance : PreservesAll condition getInt64 :=
  ⟨fun json => (Preserves.getNumber json).bind fun _ => .pure _⟩

instance : PreservesAll condition getInt32AsUInt32 :=
  ⟨fun json => (PreservesAll.preserves json).bind fun _ => .pure _⟩

instance {cast : Int32 → α} : PreservesAll condition (getEnum cast) :=
  ⟨fun json => (Preserves.getNumber json).bind fun _ => .pure _⟩

theorem Preserves.getVector {json : Json}
    (items : ∀ list, json = .array list → ∀ item ∈ list,
      Preserves condition (get item)) :
    Preserves condition (getVector get json) := by
  cases json with
  | array list => exact .all (items list rfl)
  | _ =>
      intro results value after _ ended
      cases ended

theorem Preserves.getMap {json : Json}
    (members : ∀ list, json = .object list → ∀ member ∈ list,
      Preserves condition (get member.2)) :
    Preserves condition (getMap get json) := by
  cases json with
  | object list =>
      refine (Preserves.all fun member inList => ?_).bind fun _ => .pure _
      exact (members list rfl member inList).bind fun _ => .pure _
  | _ =>
      intro results value after _ ended
      cases ended

instance [PreservesAll condition get] :
    PreservesAll condition (getVector get) :=
  ⟨fun _ => .getVector fun _ _ item _ => PreservesAll.preserves item⟩

instance [PreservesAll condition get] : PreservesAll condition (getMap get) :=
  ⟨fun _ => .getMap fun _ _ member _ => PreservesAll.preserves member.2⟩

namespace Establishes

theorem preserves {decode : Decode α}
    (established : Establishes condition decode) :
    Preserves condition decode :=
  fun _ _ _ _ ended => established _ _ _ ended

/-- What comes first does not matter. -/
theorem bind {decode : Decode α} {next : α → Decode β}
    (rest : ∀ value, Establishes condition (next value)) :
    Establishes condition (decode >>= next) := by
  intro results value after ended
  obtain ⟨read, between, _, continued⟩ := bind_eq_ok ended
  exact rest read _ _ _ continued

/-- A reset variable is clean as long as nothing else writes it. -/
theorem takeReader {next : ErrCode → Decode β}
    (rest : ∀ code, Preserves ReaderClean (next code)) :
    Establishes ReaderClean (AppExecFwk.takeResult .reader >>= next) := by
  intro results value after ended
  obtain ⟨code, between, taken, continued⟩ := bind_eq_ok ended
  cases taken
  exact rest _ _ _ _ (by rfl) continued

theorem takeProfile {next : ErrCode → Decode β}
    (rest : ∀ code, Preserves ProfileClean (next code)) :
    Establishes ProfileClean (AppExecFwk.takeResult .profile >>= next) := by
  intro results value after ended
  obtain ⟨code, between, taken, continued⟩ := bind_eq_ok ended
  cases taken
  exact rest _ _ _ _ (by rfl) continued

end Establishes

end AppExecFwk
