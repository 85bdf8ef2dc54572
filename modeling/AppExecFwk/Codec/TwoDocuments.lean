import AppExecFwk.Codec.StoredEntries
import AppExecFwk.Library.TwoRuns

/-!
# Reading two documents

When two documents are alike, reads of a member they share return the same
value and leave the same result variables.  A member in which they differ does
no harm either, if it is typed: reading it writes no result variable and throws
nothing, so only the value that is read can differ.
-/

namespace AppExecFwk

open Decoder

variable {α β : Type}

/-- The decode returns a value and leaves every result variable alone. -/
def Quiet (decode : Decode α) : Prop :=
  ∀ results, ∃ value, decode results = (.ok value, results)

/-- The decode returns a value and leaves the shared result variables alone. -/
def QuietOutside (decode : Decode α) : Prop :=
  ∀ results, ∃ value after, decode results = (.ok value, after) ∧
    after.reader = results.reader ∧ after.profile = results.profile

/-- The type check lets the value through. -/
def Admitted (jsonType : JsonType) (arrayType : ArrayType) (found : Json) :
    Prop :=
  jsonType.admits found = true ∧
    (jsonType = .array → (itemsOf found).all arrayType.admits = true)

/-- Every value that the type check lets through is converted quietly. -/
class QuietOn (get : Json → Decode α) (jsonType : JsonType)
    (arrayType : ArrayType) : Prop where
  quiet : ∀ found, Admitted jsonType arrayType found → Quiet (get found)

theorem checkArrayType_eq_value {items : List Json} {arrayType : ArrayType}
    {found : Json} (isValue : checkArrayType items arrayType = .value found) :
    found = .array items ∧ items.all arrayType.admits = true := by
  unfold checkArrayType at isValue
  split at isValue
  · cases isValue
  · cases isValue
  · split at isValue
    · next all =>
        cases isValue
        exact ⟨rfl, all⟩
    · cases isValue

/-- What is read stands under the key and has the type it is read as. -/
theorem findMember_eq_value {json found : Json} {key : String}
    {jsonType : JsonType} {isNecessary : Bool} {arrayType : ArrayType}
    (isValue : findMember json key jsonType isNecessary arrayType =
      .value found) :
    json.find? key = some found ∧ Admitted jsonType arrayType found := by
  unfold findMember at isValue
  split at isValue
  · split at isValue <;> cases isValue
  · next stored present =>
      split at isValue
      · cases isValue
      · next admits =>
          replace admits : jsonType.admits stored = true := by
            simpa using admits
          split at isValue
          · next items =>
              obtain ⟨rfl, all⟩ := checkArrayType_eq_value isValue
              exact ⟨present, admits, fun _ => all⟩
          · next notArray =>
              cases isValue
              refine ⟨present, admits, fun isArray => ?_⟩
              subst isArray
              cases found with
              | array items => exact absurd rfl (notArray items rfl)
              | _ => cases admits

theorem Quiet.pure (value : α) : Quiet (pure value : Decode α) :=
  fun _ => ⟨value, rfl⟩

theorem Quiet.bind {decode : Decode α} {next : α → Decode β}
    (first : Quiet decode) (rest : ∀ value, Quiet (next value)) :
    Quiet (decode >>= next) := by
  intro results
  obtain ⟨value, decoded⟩ := first results
  obtain ⟨last, continued⟩ := rest value results
  exact ⟨last, by rw [bind_apply_of_ok decoded, continued]⟩

theorem Quiet.all {γ : Type} {decode : γ → Decode α} {items : List γ}
    (each : ∀ item ∈ items, Quiet (decode item)) :
    Quiet (Decoder.all decode items) := by
  induction items with
  | nil => exact .pure []
  | cons head tail ih =>
      have first := each head (by simp)
      have others := ih fun item member => each item (by simp [member])
      exact first.bind fun _ => others.bind fun _ => .pure _

/-- A decode with a variable of its own writes no other one. -/
theorem QuietOutside.withLocal {decode : Decode α}
    (body : QuietOutside decode) : Quiet (withLocal decode) := by
  intro results
  obtain ⟨value, after, decoded, reader, profile⟩ :=
    body { results with here := ErrCode.ok }
  refine ⟨value, ?_⟩
  simp only [AppExecFwk.withLocal, decoded]
  cases after
  simp_all

theorem QuietOutside.pure (value : α) :
    QuietOutside (pure value : Decode α) :=
  fun results => ⟨value, results, rfl, rfl, rfl⟩

theorem QuietOutside.bind {decode : Decode α} {next : α → Decode β}
    (first : QuietOutside decode) (rest : ∀ value, QuietOutside (next value)) :
    QuietOutside (decode >>= next) := by
  intro results
  obtain ⟨value, between, decoded, reader, profile⟩ := first results
  obtain ⟨last, after, continued, reader', profile'⟩ := rest value between
  refine ⟨last, after, ?_, reader'.trans reader, profile'.trans profile⟩
  rw [bind_apply_of_ok decoded, continued]

theorem quiet_getInteger {json : Json} (number : json.isNumber = true) :
    Quiet (getInteger json) := by
  intro results
  cases json with
  | integer value => exact ⟨_, rfl⟩
  | fraction value => exact ⟨_, rfl⟩
  | _ => cases number

theorem quiet_getString {json : Json} (string : json.isString = true) :
    Quiet (getString json) := by
  intro results
  cases json with
  | string value => exact ⟨_, rfl⟩
  | _ => cases string

instance : QuietOn getString .string .notArray where
  quiet _ admitted := quiet_getString admitted.1

instance : QuietOn getBool .boolean .notArray where
  quiet found admitted results := by
    cases found with
    | boolean value => exact ⟨value, rfl⟩
    | _ => cases admitted.1

instance : QuietOn getInt32 .number .notArray where
  quiet _ admitted := (quiet_getInteger admitted.1).bind fun _ => .pure _

theorem quiet_getVector {get : Json → Decode α} {arrayType : ArrayType}
    {found : Json} (admitted : Admitted .array arrayType found)
    (items : ∀ item ∈ itemsOf found, arrayType.admits item = true →
      Quiet (get item)) : Quiet (getVector get found) := by
  cases found with
  | array list =>
      have all := List.all_eq_true.mp (admitted.2 rfl)
      exact .all fun item member => items item member (all item member)
  | _ => cases admitted.1

instance : QuietOn (getVector getString) .array .string where
  quiet _ admitted :=
    quiet_getVector admitted fun _ _ string => quiet_getString string

section Reads

variable {get : Json → Decode α} {json : Json} {key : String} {data : α}
  {jsonType : JsonType} {arrayType : ArrayType}

/-- Reading a typed member writes no result variable. -/
theorem quiet_read {parseResult : ResultVar}
    (typed : isTyped json key jsonType arrayType = true)
    (converted : ∀ found, json.find? key = some found →
      Admitted jsonType arrayType found → Quiet (get found)) :
    Quiet (getValueIfFindKey get json key data jsonType false parseResult
      arrayType) := by
  intro results
  unfold getValueIfFindKey
  split
  · exact ⟨data, rfl⟩
  · split
    · exact ⟨data, rfl⟩
    · next code isError => exact absurd isError (not_error_of_isTyped typed code)
    · next found isValue =>
        obtain ⟨present, admitted⟩ := findMember_eq_value isValue
        exact converted found present admitted results

theorem Quiet.outside {decode : Decode α} (quiet : Quiet decode) :
    QuietOutside decode := by
  intro results
  obtain ⟨value, decoded⟩ := quiet results
  exact ⟨value, results, decoded, rfl, rfl⟩

/-- A read through the variable of the record writes no other one, whether the
member is typed or not. -/
theorem quietOutside_read [own : QuietOn get jsonType arrayType]
    {isNecessary : Bool} :
    QuietOutside (getValueIfFindKey get json key data jsonType isNecessary
      .here arrayType) := by
  intro results
  unfold getValueIfFindKey
  split
  · exact ⟨data, results, rfl, rfl, rfl⟩
  · split
    · exact ⟨data, results, rfl, rfl, rfl⟩
    · exact ⟨data, _, rfl, rfl, rfl⟩
    · next found isValue =>
        have admitted := (findMember_eq_value isValue).2
        obtain ⟨value, decoded⟩ := own.quiet found admitted results
        exact ⟨value, results, decoded, rfl, rfl⟩

end Reads

section Agreement

variable {get : Json → Decode α} {json json' : Json} {key : String} {data : α}
  {jsonType : JsonType} {isNecessary : Bool} {parseResult : ResultVar}
  {arrayType : ArrayType}

/-- A member that the documents share is read the same. -/
theorem agree_read (same : json.find? key = json'.find? key) :
    Agree Eq
      (getValueIfFindKey get json key data jsonType isNecessary parseResult
        arrayType)
      (getValueIfFindKey get json' key data jsonType isNecessary parseResult
        arrayType) := by
  have alike : findMember json key jsonType isNecessary arrayType =
      findMember json' key jsonType isNecessary arrayType := by
    unfold findMember
    rw [same]
  unfold getValueIfFindKey
  rw [alike]
  exact .refl _

/-- Quiet decodes have the same effect, whatever values they return. -/
theorem Quiet.agree {first : Decode α} {second : Decode β}
    (quiet : Quiet first) (quiet' : Quiet second) :
    Agree (fun _ _ => True) first second := by
  intro results
  obtain ⟨value, decoded⟩ := quiet results
  obtain ⟨value', decoded'⟩ := quiet' results
  rw [decoded, decoded']
  exact .values results trivial

/-- Members in which the documents differ are read to the same effect, if both
of them are typed. -/
theorem agree_read_typed [own : QuietOn get jsonType arrayType]
    (typed : isTyped json key jsonType arrayType = true)
    (typed' : isTyped json' key jsonType arrayType = true) :
    Agree (fun _ _ => True)
      (getValueIfFindKey get json key data jsonType false parseResult
        arrayType)
      (getValueIfFindKey get json' key data jsonType false parseResult
        arrayType) :=
  (quiet_read typed fun found _ => own.quiet found).agree
    (quiet_read typed' fun found _ => own.quiet found)

/-- Members of the same kind, with values that are related. -/
inductive MembersAlike (alike : Json → Json → Prop) : Member → Member → Prop
  | skip : MembersAlike alike .skip .skip
  | error (code : ErrCode) : MembersAlike alike (.error code) (.error code)
  | values {found found' : Json} (values : alike found found') :
      MembersAlike alike (.value found) (.value found')

variable {related : α → α → Prop} {alike : Json → Json → Prop}

theorem agree_read_alike
    (members : MembersAlike alike
      (findMember json key jsonType isNecessary arrayType)
      (findMember json' key jsonType isNecessary arrayType))
    (same : related data data)
    (agree : ∀ found found', alike found found' →
      Agree related (get found) (get found')) :
    Agree related
      (getValueIfFindKey get json key data jsonType isNecessary parseResult
        arrayType)
      (getValueIfFindKey get json' key data jsonType isNecessary parseResult
        arrayType) := by
  intro results
  unfold getValueIfFindKey
  split
  · exact .values results same
  · generalize findMember json key jsonType isNecessary arrayType = member
      at members
    generalize findMember json' key jsonType isNecessary arrayType = member'
      at members
    cases members with
    | skip => exact .values results same
    | error code => exact .values _ same
    | values values => exact agree _ _ values results

/-- What stands under a key of both documents: nothing, or values that one
change makes equal. -/
theorem find?_alike {change : Json → Json}
    (changed : (json.find? key).map change = (json'.find? key).map change) :
    (json.find? key = none ∧ json'.find? key = none) ∨
      ∃ found found', json.find? key = some found ∧
        json'.find? key = some found' ∧ change found = change found' := by
  cases present : json.find? key with
  | none =>
      cases present' : json'.find? key with
      | none => exact .inl ⟨rfl, rfl⟩
      | some found' => simp [present, present'] at changed
  | some found =>
      cases present' : json'.find? key with
      | none => simp [present, present'] at changed
      | some found' =>
          refine .inr ⟨found, found', rfl, rfl, ?_⟩
          simpa [present, present'] using changed

/-- Objects that erasing makes equal are read with related outcomes. -/
theorem agree_readObject {erase : Json → Json}
    (isObject_erase : ∀ json, (erase json).isObject = json.isObject)
    (erased : (json.find? key).map erase = (json'.find? key).map erase)
    (same : related data data)
    (agree : ∀ found found', json.find? key = some found →
      json'.find? key = some found' → erase found = erase found' →
        Agree related (get found) (get found')) :
    Agree related (readObject parseResult json key get data isNecessary)
      (readObject parseResult json' key get data isNecessary) := by
  refine @agree_read_alike _ _ _ _ _ _ _ _ _ _ _
    (fun found found' => json.find? key = some found ∧
      json'.find? key = some found' ∧ erase found = erase found') ?_ same
    fun found found' both => agree found found' both.1 both.2.1 both.2.2
  unfold findMember
  obtain ⟨absent, absent'⟩ | ⟨found, found', present, present', equal⟩ :=
    find?_alike erased
  · rw [absent, absent']
    cases isNecessary
    · exact .skip
    · exact .error _
  · have objects : found.isObject = found'.isObject := by
      rw [← isObject_erase found, equal, isObject_erase]
    rw [present, present']
    simp only [JsonType.admits, ← objects]
    by_cases isObject : found.isObject = true
    · simp only [isObject]
      exact .values ⟨rfl, rfl, equal⟩
    · simp only [isObject]
      exact .error _

theorem isObject_all_of_map {erase : Json → Json} {items items' : List Json}
    (isObject_erase : ∀ json, (erase json).isObject = json.isObject)
    (erased : items.map erase = items'.map erase) :
    items.all Json.isObject = items'.all Json.isObject := by
  have counted (list : List Json) :
      (list.map erase).all Json.isObject = list.all Json.isObject := by
    rw [List.all_map]
    exact congrArg (list.all ·) (funext isObject_erase)
  rw [← counted items, erased, counted]

theorem eq_array_of_isArray {found : Json} (isArray : found.isArray = true) :
    ∃ items, found = .array items := by
  cases found with
  | array items => exact ⟨items, rfl⟩
  | _ => cases isArray

theorem checkArrayType_alike {erase : Json → Json} {items items' : List Json}
    (isObject_erase : ∀ json, (erase json).isObject = json.isObject)
    (erased : items.map erase = items'.map erase) :
    MembersAlike (fun found found' => found = .array items ∧
        found' = .array items' ∧ items.map erase = items'.map erase)
      (checkArrayType items .object) (checkArrayType items' .object) := by
  have all := isObject_all_of_map isObject_erase erased
  cases items with
  | nil =>
      obtain rfl : items' = [] := by simpa using erased.symm
      exact .skip
  | cons head tail =>
      cases items' with
      | nil => cases erased
      | cons head' tail' =>
          change MembersAlike _
            (if (head :: tail).all Json.isObject then _ else _)
            (if (head' :: tail').all Json.isObject then _ else _)
          rw [← all]
          cases (head :: tail).all Json.isObject
          · exact .error _
          · exact .values ⟨rfl, rfl, erased⟩

/-- Items that erasing makes equal are related in pairs. -/
theorem forall₂_of_map {erase : Json → Json} {pair : Json → Json → Prop}
    {items items' : List Json} (erased : items.map erase = items'.map erase)
    (each : ∀ item ∈ items, ∀ item' ∈ items', erase item = erase item' →
      pair item item') : List.Forall₂ pair items items' := by
  induction items generalizing items' with
  | nil =>
      obtain rfl : items' = [] := by simpa using erased.symm
      exact .nil
  | cons head tail ih =>
      cases items' with
      | nil => cases erased
      | cons head' tail' =>
          obtain ⟨first, others⟩ : erase head = erase head' ∧
              tail.map erase = tail'.map erase := by
            simpa using erased
          refine .cons (each head (by simp) head' (by simp) first) ?_
          exact ih others fun item member item' member' =>
            each item (by simp [member]) item' (by simp [member'])

/-- Lists of objects that erasing makes equal are read with related
outcomes. -/
theorem agree_readObjects {erase : Json → Json} {data : List α}
    (isObject_erase : ∀ json, (erase json).isObject = json.isObject)
    (erased : (json.find? key).map (Json.changeItems erase) =
      (json'.find? key).map (Json.changeItems erase))
    (same : List.Forall₂ related data data)
    (agree : ∀ item ∈ itemsAt json key, ∀ item' ∈ itemsAt json' key,
      erase item = erase item' → Agree related (get item) (get item')) :
    Agree (List.Forall₂ related)
      (readObjects parseResult json key get data isNecessary)
      (readObjects parseResult json' key get data isNecessary) := by
  refine @agree_read_alike _ _ _ _ _ _ _ _ _ _ _
    (fun found found' => found = .array (itemsAt json key) ∧
      found' = .array (itemsAt json' key) ∧
      (itemsAt json key).map erase = (itemsAt json' key).map erase) ?_ same
    ?_
  · unfold findMember
    obtain ⟨absent, absent'⟩ | ⟨found, found', present, present', equal⟩ :=
      find?_alike erased
    · rw [absent, absent']
      cases isNecessary
      · exact .skip
      · exact .error _
    · have arrays : found.isArray = found'.isArray := by
        rw [← Json.isArray_changeItems erase found, equal,
          Json.isArray_changeItems]
      rw [present, present']
      simp only [JsonType.admits, ← arrays]
      by_cases isArray : found.isArray = true
      · simp only [isArray]
        obtain ⟨items, rfl⟩ := eq_array_of_isArray isArray
        obtain ⟨items', rfl⟩ := eq_array_of_isArray (arrays ▸ isArray)
        have mapped : items.map erase = items'.map erase := by
          simpa [Json.changeItems] using equal
        simp only [itemsAt, present, present', Option.elim, itemsOf]
        exact checkArrayType_alike isObject_erase mapped
      · simp only [isArray]
        exact .error _
  · rintro found found' ⟨rfl, rfl, equal⟩
    exact .all (forall₂_of_map equal agree)

end Agreement

end AppExecFwk
