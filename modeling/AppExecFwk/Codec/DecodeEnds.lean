import AppExecFwk.Codec.ResultVariables

/-!
# Documents on which a decode ends

A mistyped member is reported through a result variable, but what stands inside
a member is converted without a check, and a conversion throws.  A record is
described by its members in the order in which they are read: a decode ends
without an exception exactly if every member that it comes to has an inside that
can be converted.
-/

namespace AppExecFwk

variable {α β : Type}

/-- The decode ends without an exception. -/
def Ends (decode : Decode α) (results : ParseResults) : Prop :=
  ∃ value after, decode results = (.ok value, after)

theorem ends_pure (value : α) (results : ParseResults) :
    Ends (pure value) results :=
  ⟨value, results, rfl⟩

theorem ends_bind_iff {decode : Decode α} {next : α → Decode β}
    {results : ParseResults} :
    Ends (decode >>= next) results ↔
      ∃ value after, decode results = (.ok value, after) ∧
        Ends (next value) after := by
  constructor
  · rintro ⟨value, after, ended⟩
    obtain ⟨first, between, decoded, continued⟩ := bind_eq_ok ended
    exact ⟨first, between, decoded, value, after, continued⟩
  · rintro ⟨first, between, decoded, value, after, continued⟩
    exact ⟨value, after, (Decoder.bind_apply_of_ok decoded).trans continued⟩

/-- What follows ends whatever it is given. -/
theorem ends_bind_of_next {decode : Decode α} {next : α → Decode β}
    {results : ParseResults}
    (follows : ∀ value after, decode results = (.ok value, after) →
      Ends (next value) after) :
    Ends (decode >>= next) results ↔ Ends decode results := by
  rw [ends_bind_iff]
  constructor
  · rintro ⟨value, after, decoded, _⟩
    exact ⟨value, after, decoded⟩
  · rintro ⟨value, after, decoded⟩
    exact ⟨value, after, decoded, follows value after decoded⟩

/-- What comes first ends, and what follows depends on nothing that it does. -/
theorem ends_bind_of_first {decode : Decode α} {next : α → Decode β}
    {results : ParseResults} {condition : Prop} (first : Ends decode results)
    (rest : ∀ value after, Ends (next value) after ↔ condition) :
    Ends (decode >>= next) results ↔ condition := by
  rw [ends_bind_iff]
  constructor
  · rintro ⟨value, after, _, ends⟩
    exact (rest value after).mp ends
  · intro holds
    obtain ⟨value, after, decoded⟩ := first
    exact ⟨value, after, decoded, (rest value after).mpr holds⟩

theorem ends_withLocal_iff {decode : Decode α} {results : ParseResults} :
    Ends (withLocal decode) results ↔
      Ends decode { results with here := ErrCode.ok } := by
  unfold Ends withLocal
  constructor
  · rintro ⟨value, after, ended⟩
    simp only [Prod.mk.injEq] at ended
    exact ⟨value, _, Prod.ext ended.1 rfl⟩
  · rintro ⟨value, after, ended⟩
    exact ⟨value, _, by rw [ended]⟩

theorem ends_withResult_iff {decode : Decode α} {results : ParseResults} :
    Ends (withResult decode) results ↔
      Ends decode { results with here := ErrCode.ok } := by
  unfold withResult
  rw [ends_withLocal_iff]
  unfold Ends
  constructor
  · rintro ⟨value, after, ended⟩
    dsimp only at ended
    split at ended
    · next first between decoded => exact ⟨first, between, decoded⟩
    · cases ended
  · rintro ⟨value, after, decoded⟩
    dsimp only
    rw [decoded]
    exact ⟨_, _, rfl⟩

/-- The conversion ends exactly on the documents that fit. -/
class EndsIff (get : Json → Decode α) (fits : outParam (Json → Bool)) :
    Prop where
  ends_iff : ∀ json results, Ends (get json) results ↔ fits json = true

/-- The conversion throws on no document. -/
class NeverThrows (get : Json → Decode α) : Prop where
  ends : ∀ json results, Ends (get json) results

instance {get : Json → Decode α} [NeverThrows get] : EndsIff get (fun _ => true) where
  ends_iff json results := iff_of_true (NeverThrows.ends json results) rfl

/-! ## The conversions of the document library -/

/-- A number, or a truth value that is taken for one. -/
def isArithmetic (json : Json) : Bool :=
  json.isNumber || json.isBoolean

/-- An array of items that fit. -/
def arrayOf (fits : Json → Bool) : Json → Bool
  | .array items => items.all fits
  | _ => false

/-- An object of values that fit. -/
def objectOf (fits : Json → Bool) : Json → Bool
  | .object members => members.all fun member => fits member.2
  | _ => false

theorem not_ends_throw (exception : JsonException) (results : ParseResults) :
    ¬Ends (Decoder.throw exception : Decode α) results := by
  rintro ⟨value, after, ended⟩
  cases ended

instance : EndsIff getString Json.isString where
  ends_iff json results := by
    cases json with
    | string text => exact iff_of_true (ends_pure text results) rfl
    | _ => exact iff_of_false (not_ends_throw _ _) Bool.false_ne_true

instance : EndsIff getBool Json.isBoolean where
  ends_iff json results := by
    cases json with
    | boolean value => exact iff_of_true (ends_pure value results) rfl
    | _ => exact iff_of_false (not_ends_throw _ _) Bool.false_ne_true

instance : EndsIff getInteger isArithmetic where
  ends_iff json results := by
    cases json with
    | integer value => exact iff_of_true (ends_pure _ results) rfl
    | fraction value => exact iff_of_true (ends_pure _ results) rfl
    | boolean value => exact iff_of_true (ends_pure _ results) rfl
    | _ => exact iff_of_false (not_ends_throw _ _) Bool.false_ne_true

instance : EndsIff getNumber Json.isNumber where
  ends_iff json results := by
    cases json with
    | integer value => exact iff_of_true (ends_pure _ results) rfl
    | fraction value => exact iff_of_true (ends_pure _ results) rfl
    | _ => exact iff_of_false (not_ends_throw _ _) Bool.false_ne_true

/-- A conversion of what was converted. -/
theorem EndsIff.map {get : Json → Decode α} {fits : Json → Bool}
    [converts : EndsIff get fits] (change : α → β) :
    EndsIff (fun json => get json >>= fun value => pure (change value))
      fits where
  ends_iff json results := by
    rw [ends_bind_of_next fun value after _ => ends_pure _ after]
    exact converts.ends_iff json results

instance : EndsIff getInt32 isArithmetic := EndsIff.map Int32.ofInt

instance : EndsIff getUInt32 isArithmetic := EndsIff.map UInt32.ofInt

instance : EndsIff getInt64 Json.isNumber := EndsIff.map Int64.ofInt

instance : EndsIff getInt32AsUInt32 isArithmetic := EndsIff.map Int32.toUInt32

instance {cast : Int32 → α} : EndsIff (getEnum cast) Json.isNumber :=
  EndsIff.map fun value => cast (Int32.ofInt value)

/-- A list is decoded exactly if every item is. -/
theorem ends_all_iff {γ : Type} {decode : γ → Decode α} {fits : γ → Bool}
    (converts : ∀ item results, Ends (decode item) results ↔ fits item = true)
    (items : List γ) (results : ParseResults) :
    Ends (Decoder.all decode items) results ↔ items.all fits = true := by
  induction items generalizing results with
  | nil => exact iff_of_true (ends_pure [] results) rfl
  | cons head tail ih =>
      rw [Decoder.all, ends_bind_iff, List.all_cons, Bool.and_eq_true,
        ← converts head results]
      constructor
      · rintro ⟨value, after, decoded, others⟩
        rw [ends_bind_of_next fun _ _ _ => ends_pure _ _, ih] at others
        exact ⟨⟨value, after, decoded⟩, others⟩
      · rintro ⟨⟨value, after, decoded⟩, others⟩
        refine ⟨value, after, decoded, ?_⟩
        rw [ends_bind_of_next fun _ _ _ => ends_pure _ _, ih]
        exact others

instance {get : Json → Decode α} {fits : Json → Bool}
    [converts : EndsIff get fits] : EndsIff (getVector get) (arrayOf fits) where
  ends_iff json results := by
    cases json with
    | array items => exact ends_all_iff converts.ends_iff items results
    | _ => exact iff_of_false (not_ends_throw _ _) Bool.false_ne_true

instance {get : Json → Decode α} {fits : Json → Bool}
    [converts : EndsIff get fits] : EndsIff (getMap get) (objectOf fits) where
  ends_iff json results := by
    cases json with
    | object members =>
        change Ends (Decoder.all _ members >>= _) results ↔ _
        rw [ends_bind_of_next fun _ _ _ => ends_pure _ _]
        refine ends_all_iff (fun member results => ?_) members results
        rw [ends_bind_of_next fun _ _ _ => ends_pure _ _]
        exact converts.ends_iff member.2 results
    | _ => exact iff_of_false (not_ends_throw _ _) Bool.false_ne_true

/-! ## Members -/

/-- A member of a record as it is read: what the value has to be, whether it is
read through a variable of the record's own, which insides can be converted,
and which are converted without an error that is left in the shared
variable. -/
structure RecordMember where
  key : String
  jsonType : JsonType
  isNecessary : Bool := false
  arrayType : ArrayType := .notArray
  isOwn : Bool := true
  fits : Json → Bool
  clean : Json → Bool := fun _ => true

namespace RecordMember

def find (member : RecordMember) (json : Json) : Member :=
  findMember json member.key member.jsonType member.isNecessary
    member.arrayType

variable (key : String) (isNecessary : Bool := false)

def text : RecordMember where
  key
  jsonType := .string
  isNecessary
  fits := Json.isString

def flag : RecordMember where
  key
  jsonType := .boolean
  isNecessary
  fits := Json.isBoolean

def number : RecordMember where
  key
  jsonType := .number
  isNecessary
  fits := isArithmetic

def integer : RecordMember where
  key
  jsonType := .number
  isNecessary
  fits := Json.isNumber

def texts : RecordMember where
  key
  jsonType := .array
  isNecessary
  arrayType := .string
  fits := arrayOf Json.isString

def numbers : RecordMember where
  key
  jsonType := .array
  isNecessary
  arrayType := .number
  fits := arrayOf isArithmetic

def objects (fits : Json → Bool := fun _ => true) : RecordMember where
  key
  jsonType := .array
  arrayType := .object
  fits := arrayOf fits

def object (fits : Json → Bool := fun _ => true)
    (isNecessary : Bool := false) : RecordMember where
  key
  jsonType := .object
  isNecessary
  fits

def map (fits : Json → Bool := fun _ => true)
    (isNecessary : Bool := false) : RecordMember where
  key
  jsonType := .object
  isNecessary
  fits := objectOf fits

/-- The member is read through the variable of the profile reader. -/
def shared (member : RecordMember) : RecordMember :=
  { member with isOwn := false }

end RecordMember

/-- The members that are read, with their values: the first error ends the
reading. -/
def membersRead (json : Json) : List RecordMember → List (RecordMember × Json)
  | [] => []
  | member :: rest =>
      match member.find json with
      | .skip => membersRead json rest
      | .error _ => []
      | .value found =>
          (member, found) ::
            if member.isOwn || member.clean found then membersRead json rest
            else []

/-- Every member that is read can be converted. -/
def membersFit (json : Json) (members : List RecordMember) : Bool :=
  (membersRead json members).all fun read => read.1.fits read.2

variable {get : Json → Decode α} {fits : Json → Bool}
  {parseResult : ResultVar} {json : Json}

/-- Read through the variable, the decode comes to the members and ends if they
fit, provided that what it reads otherwise does. -/
structure EndsOn (parseResult : ResultVar) (json : Json)
    (members : List RecordMember) (others : Bool) (decode : Decode α) :
    Prop where
  blocked : ∀ results, parseResult.read results ≠ ErrCode.ok →
    (Ends decode results ↔ others = true)
  unblocked : ∀ results, parseResult.read results = ErrCode.ok →
    (Ends decode results ↔ membersFit json members = true ∧ others = true)

theorem EndsOn.of_ends {decode : Decode α} {others : Bool}
    (ends : ∀ results, Ends decode results ↔ others = true) :
    EndsOn parseResult json [] others decode where
  blocked results _ := ends results
  unblocked results _ := by
    rw [ends results]
    simp [membersFit, membersRead]

theorem ResultVar.read_write (parseResult : ResultVar) (code : ErrCode)
    (results : ParseResults) :
    parseResult.read (parseResult.write code results) = code := by
  cases parseResult <;> rfl

/-- A member that is looked up is only reported with an error. -/
theorem RecordMember.find_error {member : RecordMember} {code : ErrCode}
    (reported : member.find json = .error code) : code ≠ ErrCode.ok := by
  unfold find findMember checkArrayType at reported
  have missing : ErrCode.parseProfileMissingProp ≠ ErrCode.ok := by decide
  have mistyped : ErrCode.parseProfilePropTypeError ≠ ErrCode.ok := by decide
  repeat' split at reported
  all_goals first
    | (cases reported; assumption)
    | cases reported

/-- The next member of a record. -/
theorem EndsOn.read_of {member : RecordMember} {members : List RecordMember}
    {others : Bool} {data : α} {next : α → Decode β}
    (converts : ∀ found results, member.find json = .value found →
      parseResult.read results = ErrCode.ok →
        (Ends (get found) results ↔ member.fits found = true))
    (leaves : ∀ found results value after, member.find json = .value found →
      parseResult.read results = ErrCode.ok →
        get found results = (.ok value, after) →
          (parseResult.read after = ErrCode.ok ↔
            (member.isOwn || member.clean found) = true))
    (rest : ∀ value, EndsOn parseResult json members others (next value)) :
    EndsOn parseResult json (member :: members) others
      (getValueIfFindKey get json member.key data member.jsonType
        member.isNecessary parseResult member.arrayType >>= next) where
  blocked results dirty := by
    have skipped : getValueIfFindKey get json member.key data member.jsonType
        member.isNecessary parseResult member.arrayType results =
          (.ok data, results) :=
      if_pos dirty
    rw [← (rest data).blocked results dirty]
    unfold Ends
    rw [Decoder.bind_apply_of_ok skipped]
  unblocked results clean := by
    have looked : getValueIfFindKey get json member.key data member.jsonType
        member.isNecessary parseResult member.arrayType results =
          match member.find json with
          | .skip => (.ok data, results)
          | .error code => (.ok data, parseResult.write code results)
          | .value found => get found results :=
      if_neg (not_not.mpr clean)
    unfold membersFit membersRead
    cases found : member.find json with
    | skip =>
        rw [found] at looked
        unfold Ends
        rw [Decoder.bind_apply_of_ok looked]
        exact (rest data).unblocked results clean
    | error code =>
        rw [found] at looked
        unfold Ends
        rw [Decoder.bind_apply_of_ok looked]
        have dirty : parseResult.read (parseResult.write code results) ≠
            ErrCode.ok := by
          rw [ResultVar.read_write]
          exact RecordMember.find_error found
        have ends := (rest data).blocked _ dirty
        simp only [List.all_nil, true_and]
        exact ends
    | value value =>
        rw [found] at looked
        dsimp only at looked ⊢
        rw [ends_bind_iff, looked, List.all_cons, Bool.and_eq_true, and_assoc,
          ← converts value results found clean]
        have continued {first : α} {after : ParseResults}
            (decoded : get value results = (.ok first, after)) :
            Ends (next first) after ↔
              (if member.isOwn || member.clean value then
                  membersRead json members
                else []).all (fun read => read.1.fits read.2) = true ∧
                others = true := by
          have left := leaves value results first after found clean decoded
          cases isClean : member.isOwn || member.clean value with
          | true => exact (rest first).unblocked after (left.mpr isClean)
          | false =>
              rw [isClean] at left
              simp [(rest first).blocked after (by simpa using left)]
        constructor
        · rintro ⟨first, after, decoded, ends⟩
          exact ⟨⟨first, after, decoded⟩, (continued decoded).mp ends⟩
        · rintro ⟨⟨first, after, decoded⟩, fit⟩
          exact ⟨first, after, decoded, (continued decoded).mpr fit⟩

/-- The variable of the record that is read holds the code. -/
def HereIs (code : ErrCode) (results : ParseResults) : Prop :=
  results.here = code

/-- The shared variable of the profile reader holds the code. -/
def ReaderIs (code : ErrCode) (results : ParseResults) : Prop :=
  results.reader = code

instance {code : ErrCode} : Unaffected (ReaderIs code) .here :=
  ⟨fun _ _ same => same⟩

instance {code : ErrCode} : Unaffected (HereIs code) .reader :=
  ⟨fun _ _ same => same⟩

/-- A record with a variable of its own leaves the one around it alone. -/
theorem Preserves.withLocal_here {decode : Decode α} {code : ErrCode} :
    Preserves (HereIs code) (AppExecFwk.withLocal decode) := by
  intro results value after same ended
  simp only [AppExecFwk.withLocal, Prod.mk.injEq] at ended
  obtain ⟨_, rfl⟩ := ended
  exact same

/-- The next member of a record that is read through its own variable. -/
theorem EndsOn.here [converts : EndsIff get fits]
    [keeps : ∀ code, PreservesAll (HereIs code) get] {member : RecordMember}
    {members : List RecordMember} {others : Bool} {data : α}
    {next : α → Decode β} (sameFits : member.fits = fits)
    (isOwn : member.isOwn = true)
    (rest : ∀ value, EndsOn .here json members others (next value)) :
    EndsOn .here json (member :: members) others
      (getValueIfFindKey get json member.key data member.jsonType
        member.isNecessary .here member.arrayType >>= next) := by
  refine EndsOn.read_of (fun found results _ _ => ?_)
    (fun found results value after _ clean decoded => ?_) rest
  · rw [sameFits]
    exact converts.ends_iff found results
  · rw [isOwn, Bool.true_or]
    exact iff_of_true
      ((keeps ErrCode.ok).preserves found results value after clean decoded) rfl

/-- A record with a variable of its own ends exactly if its members fit. -/
theorem EndsOn.ends_withLocal_iff {members : List RecordMember}
    {decode : Decode α} (body : EndsOn .here json members true decode)
    (results : ParseResults) :
    Ends (withLocal decode) results ↔ membersFit json members = true := by
  rw [AppExecFwk.ends_withLocal_iff, body.unblocked _ rfl]
  simp

theorem EndsOn.ends_withResult_iff {members : List RecordMember}
    {decode : Decode α} (body : EndsOn .here json members true decode)
    (results : ParseResults) :
    Ends (withResult decode) results ↔ membersFit json members = true := by
  rw [AppExecFwk.ends_withResult_iff, body.unblocked _ rfl]
  simp

/-! ## What is left in the shared variable -/

/-- A decode that ends leaves no error in the shared variable: `here` tells
whether the record's own variable holds none. -/
def leavesClean (json : Json) : List RecordMember → Bool → Bool
  | [], _ => true
  | member :: rest, here =>
      if member.isOwn && !here then leavesClean json rest here
      else
        match member.find json with
        | .skip => leavesClean json rest here
        | .error _ => member.isOwn && leavesClean json rest false
        | .value found => member.clean found && leavesClean json rest here

/-- The decode reads the members and leaves in the shared variable what they
leave there; an error that is there already stays. -/
def Leaves (json : Json) (members : List RecordMember)
    (decode : Decode α) : Prop :=
  ∀ results value after here, (results.here = ErrCode.ok ↔ here = true) →
    decode results = (.ok value, after) →
      (after.reader = ErrCode.ok ↔
        results.reader = ErrCode.ok ∧ leavesClean json members here = true)

/-- A conversion that ends leaves the shared variable without an error exactly
on the clean documents. -/
class LeavesReader (get : Json → Decode α) (clean : outParam (Json → Bool)) :
    Prop where
  leaves : ∀ json results value after, get json results = (.ok value, after) →
    (after.reader = ErrCode.ok ↔
      results.reader = ErrCode.ok ∧ clean json = true)

instance (priority := high) [keeps : ∀ code,
    PreservesAll (ReaderIs code) get] : LeavesReader get (fun _ => true) where
  leaves json results value after decoded := by
    have same : after.reader = results.reader :=
      (keeps results.reader).preserves json results value after rfl decoded
    rw [same]
    simp

/-- A list leaves the variable without an error if every item does. -/
theorem leaves_all {γ : Type} {decode : γ → Decode α} {clean : γ → Bool}
    (leaves : ∀ item results value after,
      decode item results = (.ok value, after) →
        (after.reader = ErrCode.ok ↔
          results.reader = ErrCode.ok ∧ clean item = true))
    {items : List γ} {results after : ParseResults} {values : List α}
    (decoded : Decoder.all decode items results = (.ok values, after)) :
    after.reader = ErrCode.ok ↔
      results.reader = ErrCode.ok ∧ items.all clean = true := by
  induction items generalizing results values with
  | nil =>
      cases decoded
      simp
  | cons head tail ih =>
      obtain ⟨first, between, one, continued⟩ := bind_eq_ok decoded
      obtain ⟨others, last, rest, done⟩ := bind_eq_ok continued
      cases done
      rw [ih rest, leaves head results first between one, List.all_cons,
        Bool.and_eq_true, and_assoc]

instance {clean : Json → Bool} [own : LeavesReader get clean] :
    LeavesReader (getVector get) (arrayOf clean) where
  leaves json results value after decoded := by
    cases json with
    | array items => exact leaves_all own.leaves decoded
    | _ => cases decoded

instance {clean : Json → Bool} [own : LeavesReader get clean] :
    LeavesReader (getMap get) (objectOf clean) where
  leaves json results value after decoded := by
    cases json with
    | object members =>
        obtain ⟨entries, between, read, done⟩ := bind_eq_ok decoded
        cases done
        refine leaves_all (fun member results entry after decoded => ?_) read
        obtain ⟨first, last, one, done⟩ := bind_eq_ok decoded
        cases done
        exact own.leaves member.2 results _ _ one
    | _ => cases decoded

/-- The next member of a record that is read through the shared variable. -/
theorem EndsOn.reader [converts : EndsIff get fits] {clean : Json → Bool}
    [leaves : LeavesReader get clean] {member : RecordMember}
    {members : List RecordMember} {others : Bool} {data : α}
    {next : α → Decode β} (isShared : member.isOwn = false)
    (sameFits : member.fits = fits)
    (sameClean : member.clean = clean)
    (rest : ∀ value, EndsOn .reader json members others (next value)) :
    EndsOn .reader json (member :: members) others
      (getValueIfFindKey get json member.key data member.jsonType
        member.isNecessary .reader member.arrayType >>= next) := by
  refine EndsOn.read_of (fun found results _ _ => ?_)
    (fun found results value after _ isOk decoded => ?_) rest
  · rw [sameFits]
    exact converts.ends_iff found results
  · have left := leaves.leaves found results value after decoded
    rw [isShared, Bool.false_or, sameClean]
    exact left.trans (and_iff_right isOk)

/-- A variable of the record's own does not change what is read through the
shared one. -/
theorem EndsOn.withLocal_reader {members : List RecordMember} {others : Bool}
    {decode : Decode α} (body : EndsOn .reader json members others decode) :
    EndsOn .reader json members others (withLocal decode) where
  blocked results dirty := by
    rw [AppExecFwk.ends_withLocal_iff]
    exact body.blocked _ dirty
  unblocked results isOk := by
    rw [AppExecFwk.ends_withLocal_iff]
    exact body.unblocked _ isOk

/-- Items that are converted in turn fit: what one of them leaves in the shared
variable lets the others pass. -/
def fitInTurn (fits clean : Json → Bool) : List Json → Bool
  | [] => true
  | head :: rest =>
      fits head && (!clean head || fitInTurn fits clean rest)

/-- A map of values that are converted in turn. -/
def objectInTurn (fits clean : Json → Bool) : Json → Bool
  | .object members => fitInTurn fits clean (members.map (·.2))
  | _ => false

/-- A conversion that reads through the shared variable: it throws nothing
while an error stands there. -/
class EndsShared (get : Json → Decode α) (fits : outParam (Json → Bool)) :
    Prop where
  blocked : ∀ json results, results.reader ≠ ErrCode.ok →
    Ends (get json) results
  unblocked : ∀ json results, results.reader = ErrCode.ok →
    (Ends (get json) results ↔ fits json = true)

section InTurn

variable {clean : Json → Bool} [converts : EndsShared get fits]
  [leaves : LeavesReader get clean]

include converts leaves in
/-- The values of a map, one after another. -/
theorem ends_values_blocked (members : List (String × Json))
    (results : ParseResults) (dirty : results.reader ≠ ErrCode.ok) :
    Ends (Decoder.all (fun member => do return (member.1, ← get member.2))
      members) results := by
  induction members generalizing results with
  | nil => exact ends_pure [] results
  | cons head tail ih =>
      obtain ⟨value, after, decoded⟩ := converts.blocked head.2 results dirty
      have left := leaves.leaves head.2 results value after decoded
      rw [Decoder.all, ends_bind_iff]
      refine ⟨(head.1, value), after, Decoder.bind_apply_of_ok decoded, ?_⟩
      rw [ends_bind_of_next fun _ _ _ => ends_pure _ _]
      exact ih after fun isOk => dirty (left.mp isOk).1

theorem ends_values_iff (members : List (String × Json))
    (results : ParseResults) (isOk : results.reader = ErrCode.ok) :
    Ends (Decoder.all (fun member => do return (member.1, ← get member.2))
      members) results ↔
        fitInTurn fits clean (members.map (·.2)) = true := by
  induction members generalizing results with
  | nil => exact iff_of_true (ends_pure [] results) rfl
  | cons head tail ih =>
      rw [Decoder.all, ends_bind_iff, List.map_cons, fitInTurn,
        Bool.and_eq_true, ← converts.unblocked head.2 results isOk]
      have continued {value : α} {after : ParseResults}
          (decoded : get head.2 results = (.ok value, after)) :
          Ends (Decoder.all (fun member => do
            return (member.1, ← get member.2)) tail) after ↔
              (!clean head.2 || fitInTurn fits clean (tail.map (·.2))) =
                true := by
        have left := leaves.leaves head.2 results value after decoded
        cases isClean : clean head.2 with
        | true =>
            rw [ih after (left.mpr ⟨isOk, isClean⟩)]
            simp
        | false =>
            have dirty : after.reader ≠ ErrCode.ok := by simp [left, isClean]
            simp [ends_values_blocked tail after dirty]
      constructor
      · rintro ⟨pair, after, ended, others⟩
        obtain ⟨value, between, decoded, done⟩ := bind_eq_ok ended
        cases done
        rw [ends_bind_of_next fun _ _ _ => ends_pure _ _] at others
        exact ⟨⟨value, _, decoded⟩, (continued decoded).mp others⟩
      · rintro ⟨⟨value, after, decoded⟩, others⟩
        refine ⟨(head.1, value), after, Decoder.bind_apply_of_ok decoded, ?_⟩
        rw [ends_bind_of_next fun _ _ _ => ends_pure _ _]
        exact (continued decoded).mpr others

/-- The next member is a map of records that read through the shared
variable. -/
theorem EndsOn.reader_map {member : RecordMember}
    {members : List RecordMember} {others : Bool}
    {data : Std.ExtTreeMap String α}
    {next : Std.ExtTreeMap String α → Decode β}
    (isShared : member.isOwn = false)
    (sameFits : member.fits = objectInTurn fits clean)
    (sameClean : member.clean = objectOf clean)
    (rest : ∀ value, EndsOn .reader json members others (next value)) :
    EndsOn .reader json (member :: members) others
      (getValueIfFindKey (getMap get) json member.key data member.jsonType
        member.isNecessary .reader member.arrayType >>= next) := by
  refine EndsOn.read_of (fun found results _ isOk => ?_)
    (fun found results value after _ isOk decoded => ?_) rest
  · rw [sameFits]
    cases found with
    | object values =>
        change Ends (Decoder.all _ values >>= _) results ↔ _
        rw [ends_bind_of_next fun _ _ _ => ends_pure _ _]
        exact ends_values_iff values results isOk
    | _ => exact iff_of_false (not_ends_throw _ _) Bool.false_ne_true
  · have left := LeavesReader.leaves found results value after decoded
    rw [isShared, Bool.false_or, sameClean]
    exact left.trans (and_iff_right isOk)

end InTurn

namespace Leaves

theorem pure (value : α) : Leaves json [] (pure value) := by
  intro results _ after here _ ended
  cases ended
  simp [leavesClean]

/-- A record with a variable of its own starts with a fresh one. -/
theorem withLocal {members : List RecordMember} {decode : Decode α}
    (body : Leaves json members decode) {results after : ParseResults}
    {value : α} (decoded : withLocal decode results = (.ok value, after)) :
    after.reader = ErrCode.ok ↔
      results.reader = ErrCode.ok ∧ leavesClean json members true = true := by
  simp only [AppExecFwk.withLocal, Prod.mk.injEq] at decoded
  obtain ⟨ended, rfl⟩ := decoded
  have whole : decode { results with here := ErrCode.ok } =
      (.ok value, (decode { results with here := ErrCode.ok }).2) :=
    Prod.ext ended rfl
  have left := body _ value _ true (by simp) whole
  exact left

/-- The next member of a record that is read through its own variable. -/
theorem own {clean : Json → Bool} [leaves : LeavesReader get clean]
    [keeps : ∀ code, PreservesAll (HereIs code) get] {member : RecordMember}
    {members : List RecordMember} {data : α} {next : α → Decode β}
    (isOwn : member.isOwn = true) (sameClean : member.clean = clean)
    (rest : ∀ value, Leaves json members (next value)) :
    Leaves json (member :: members)
      (getValueIfFindKey get json member.key data member.jsonType
        member.isNecessary .here member.arrayType >>= next) := by
  intro results value after here state ended
  obtain ⟨first, between, read, continued⟩ := bind_eq_ok ended
  unfold getValueIfFindKey at read
  unfold leavesClean
  simp only [isOwn, Bool.true_and]
  split at read
  · next blocked =>
      cases read
      have isFalse : here = false := by
        simpa using fun isTrue => blocked (state.mpr isTrue)
      rw [if_pos (by simp [isFalse])]
      exact rest _ _ _ _ _ state continued
  · next open_ =>
      have isTrue : here = true := state.mp (not_not.mp open_)
      rw [if_neg (by simp [isTrue])]
      change (match member.find json with
        | .skip => _
        | .error code => _
        | .value found => _) = _ at read
      cases found : member.find json with
      | skip =>
          rw [found] at read
          cases read
          exact rest _ _ _ _ _ state continued
      | error code =>
          rw [found] at read
          cases read
          have isError := RecordMember.find_error found
          have dirty : ((ResultVar.here.write code results).here =
              ErrCode.ok ↔ false = true) :=
            iff_of_false isError Bool.false_ne_true
          have left := rest _ _ _ _ false dirty continued
          exact left
      | value value =>
          rw [found] at read
          dsimp only at read ⊢
          have same : between.here = results.here :=
            (keeps results.here).preserves value results first between rfl read
          rw [rest first _ _ _ here (by rw [same]; exact state) continued,
            leaves.leaves value results first between read, sameClean,
            Bool.and_eq_true, and_assoc]

/-- The next member of a record that is read through the shared variable. -/
theorem shared {clean : Json → Bool} [leaves : LeavesReader get clean]
    [keeps : ∀ code, PreservesAll (HereIs code) get] {member : RecordMember}
    {members : List RecordMember} {data : α} {next : α → Decode β}
    (isShared : member.isOwn = false) (sameClean : member.clean = clean)
    (rest : ∀ value, Leaves json members (next value)) :
    Leaves json (member :: members)
      (getValueIfFindKey get json member.key data member.jsonType
        member.isNecessary .reader member.arrayType >>= next) := by
  intro results value after here state ended
  obtain ⟨first, between, read, continued⟩ := bind_eq_ok ended
  unfold getValueIfFindKey at read
  unfold leavesClean
  simp only [isShared, Bool.false_and]
  split at read
  · next blocked =>
      cases read
      have isError : results.reader ≠ ErrCode.ok := blocked
      rw [rest _ _ _ _ here state continued]
      simp [isError]
  · next open_ =>
      have isOk : results.reader = ErrCode.ok := not_not.mp open_
      change (match member.find json with
        | .skip => _
        | .error code => _
        | .value found => _) = _ at read
      cases found : member.find json with
      | skip =>
          rw [found] at read
          cases read
          exact rest _ _ _ _ _ state continued
      | error code =>
          rw [found] at read
          cases read
          have isError := RecordMember.find_error found
          rw [rest _ (ResultVar.reader.write code results) _ _ here state
            continued]
          simp [ResultVar.write, isError]
      | value value =>
          rw [found] at read
          dsimp only at read ⊢
          have same : between.here = results.here :=
            (keeps results.here).preserves value results first between rfl read
          rw [rest first _ _ _ here (by rw [same]; exact state) continued,
            leaves.leaves value results first between read, sameClean]
          simp [and_assoc]

end Leaves

theorem leavesClean_map_shared (json : Json) (members : List RecordMember)
    (here : Bool) :
    leavesClean json (members.map .shared) here =
      leavesClean json (members.map .shared) true := by
  induction members with
  | nil => rfl
  | cons head rest ih =>
      simp only [List.map_cons, leavesClean, RecordMember.shared,
        Bool.false_and, Bool.false_eq_true, if_false]
      rw [ih]

/-- A record without a variable of its own. -/
theorem Leaves.of_shared {members : List RecordMember} {decode : Decode α}
    (body : Leaves json (members.map .shared) decode)
    {results after : ParseResults} {value : α}
    (decoded : decode results = (.ok value, after)) :
    after.reader = ErrCode.ok ↔ results.reader = ErrCode.ok ∧
      leavesClean json (members.map .shared) true = true := by
  have left := body results value after (decide (results.here = ErrCode.ok))
    (by simp) decoded
  rw [leavesClean_map_shared] at left
  exact left

theorem Leaves.leavesReader {members : List RecordMember}
    (body : ∀ json, Leaves json (members.map .shared) (get json)) :
    LeavesReader get (leavesClean · (members.map .shared) true) where
  leaves json _ _ _ decoded := (body json).of_shared decoded

/-- A decode with a variable of its own that is given back as its result. -/
theorem Leaves.withResult {members : List RecordMember} {decode : Decode α}
    (body : Leaves json members decode) {results after : ParseResults}
    {value : ErrCode × α}
    (decoded : withResult decode results = (.ok value, after)) :
    after.reader = ErrCode.ok ↔
      results.reader = ErrCode.ok ∧ leavesClean json members true = true := by
  simp only [AppExecFwk.withResult, AppExecFwk.withLocal,
    Prod.mk.injEq] at decoded
  obtain ⟨ended, rfl⟩ := decoded
  split at ended
  · next first between decoded =>
      have left := body _ first between true (by simp) decoded
      simpa using left
  · cases ended

/-! ## Records that throw on no document -/

/-- What is found with the type can be converted. -/
class FitsWhenFound (jsonType : JsonType) (arrayType : ArrayType)
    (fits : Json → Bool) : Prop where
  fits_of_find : ∀ json key isNecessary found,
    findMember json key jsonType isNecessary arrayType = .value found →
      fits found = true

/-- A value that is found has the type that is asked for. -/
theorem admits_of_findMember {key : String} {jsonType : JsonType}
    {isNecessary : Bool} {arrayType : ArrayType} {found : Json}
    (isValue : findMember json key jsonType isNecessary arrayType =
      .value found) :
    jsonType.admits found = true ∧
      ∀ items, jsonType = .array → found = .array items →
        items.all arrayType.admits = true := by
  unfold findMember at isValue
  split at isValue
  · split at isValue <;> cases isValue
  · next stored present =>
      split at isValue
      · cases isValue
      · next admitted =>
          rw [Bool.not_eq_true, Bool.not_eq_false'] at admitted
          split at isValue
          · next items =>
              unfold checkArrayType at isValue
              split at isValue
              · cases isValue
              · cases isValue
              · split at isValue
                · next typed =>
                    cases isValue
                    refine ⟨rfl, fun list _ same => ?_⟩
                    cases same
                    exact typed
                · cases isValue
          · next notArray =>
              cases isValue
              refine ⟨admitted, fun items isArray same => ?_⟩
              exact absurd same (notArray items isArray)

instance : FitsWhenFound .string .notArray Json.isString where
  fits_of_find _ _ _ _ isValue := (admits_of_findMember isValue).1

instance : FitsWhenFound .boolean .notArray Json.isBoolean where
  fits_of_find _ _ _ _ isValue := (admits_of_findMember isValue).1

instance : FitsWhenFound .number .notArray isArithmetic where
  fits_of_find _ _ _ found isValue := by
    have isNumber : found.isNumber = true := (admits_of_findMember isValue).1
    simp [isArithmetic, isNumber]

instance : FitsWhenFound .number .notArray Json.isNumber where
  fits_of_find _ _ _ _ isValue := (admits_of_findMember isValue).1

instance : FitsWhenFound .object .notArray (fun _ => true) where
  fits_of_find _ _ _ _ _ := rfl

instance : FitsWhenFound .object .notArray (objectOf fun _ => true) where
  fits_of_find _ _ _ found isValue := by
    have isObject : found.isObject = true := (admits_of_findMember isValue).1
    cases found with
    | object members => simp [objectOf]
    | _ => cases isObject

/-- The items of an array that is found have their type. -/
theorem exists_items_of_findMember {key : String} {isNecessary : Bool}
    {arrayType : ArrayType} {found : Json}
    (isValue : findMember json key .array isNecessary arrayType =
      .value found) :
    ∃ items, found = .array items ∧ items.all arrayType.admits = true := by
  obtain ⟨isArray, typed⟩ := admits_of_findMember isValue
  cases found with
  | array items => exact ⟨items, rfl, typed items rfl rfl⟩
  | _ => cases isArray

instance : FitsWhenFound .array .string (arrayOf Json.isString) where
  fits_of_find _ _ _ found isValue := by
    obtain ⟨items, rfl, typed⟩ := exists_items_of_findMember isValue
    exact typed

instance : FitsWhenFound .array .number (arrayOf isArithmetic) where
  fits_of_find _ _ _ found isValue := by
    obtain ⟨items, rfl, typed⟩ := exists_items_of_findMember isValue
    rw [List.all_eq_true] at typed
    refine List.all_eq_true.mpr fun item member => ?_
    have isNumber : item.isNumber = true := typed item member
    simp [isArithmetic, isNumber]

instance : FitsWhenFound .array .object (arrayOf fun _ => true) where
  fits_of_find _ _ _ found isValue := by
    obtain ⟨items, rfl, typed⟩ := exists_items_of_findMember isValue
    simp [arrayOf]

/-- A read of what can be converted whenever it is found. -/
theorem ends_read [converts : EndsIff get fits] {key : String}
    {jsonType : JsonType} {arrayType : ArrayType} {isNecessary : Bool}
    [typed : FitsWhenFound jsonType arrayType fits] {data : α}
    (results : ParseResults) :
    Ends (getValueIfFindKey get json key data jsonType isNecessary parseResult
      arrayType) results := by
  unfold Ends getValueIfFindKey
  split
  · exact ⟨_, _, rfl⟩
  · cases found : findMember json key jsonType isNecessary arrayType with
    | skip => exact ⟨_, _, rfl⟩
    | error code => exact ⟨_, _, rfl⟩
    | value value =>
        exact (converts.ends_iff value results).mpr
          (typed.fits_of_find _ _ _ _ found)

/-- The next member is one that can be converted whenever it is found. -/
theorem ends_read_quiet [EndsIff get fits] {key : String}
    {jsonType : JsonType} {arrayType : ArrayType} {isNecessary : Bool}
    [FitsWhenFound jsonType arrayType fits] {data : α} {next : α → Decode β}
    (rest : ∀ value results, Ends (next value) results)
    (results : ParseResults) :
    Ends (getValueIfFindKey get json key data jsonType isNecessary parseResult
      arrayType >>= next) results := by
  rw [ends_bind_of_next fun value after _ => rest value after]
  exact ends_read results

/-! ## Records that are read with `at` -/

/-- Every member is there and can be converted. -/
def strictFit (json : Json) (members : List (String × (Json → Bool))) : Bool :=
  members.all fun member => (json.find? member.1).any member.2

theorem ends_atKey_iff {key : String} {next : Json → Decode β}
    {results : ParseResults} :
    Ends (atKey json key >>= next) results ↔
      ∃ found, json.find? key = some found ∧ Ends (next found) results := by
  have thrown (exception : JsonException) :
      ¬Ends (Decoder.throw exception >>= next) results := by
    rw [ends_bind_iff]
    rintro ⟨_, _, ended, _⟩
    cases ended
  cases json with
  | object members =>
      cases found : Json.findMember members key with
      | none => simpa [atKey, Json.find?, found] using thrown _
      | some value =>
          have read : atKey (.object members) key results =
              (.ok value, results) := by
            simp only [atKey, found]
            rfl
          simp only [Json.find?, found]
          unfold Ends
          rw [Decoder.bind_apply_of_ok read]
          simp
  | _ => simpa [atKey, Json.find?] using thrown _

/-- The next member of a record that is read with `at`. -/
theorem ends_strict [converts : EndsIff get fits] {key : String}
    {members : List (String × (Json → Bool))} {next : α → Decode β}
    (rest : ∀ value results, Ends (next value) results ↔
      strictFit json members = true) (results : ParseResults) :
    Ends (atKey json key >>= fun found => get found >>= next) results ↔
      strictFit json ((key, fits) :: members) = true := by
  rw [ends_atKey_iff, strictFit, List.all_cons, Bool.and_eq_true]
  change _ ↔ _ ∧ strictFit json members = true
  constructor
  · rintro ⟨found, stored, ends⟩
    obtain ⟨value, after, decoded, continued⟩ := ends_bind_iff.mp ends
    refine ⟨?_, (rest value after).mp continued⟩
    rw [stored]
    exact (converts.ends_iff found results).mp ⟨value, after, decoded⟩
  · rintro ⟨fit, others⟩
    obtain ⟨found, stored, converted⟩ := (Option.any_eq_true _ _).mp fit
    refine ⟨found, stored, ?_⟩
    rw [ends_bind_of_next fun value after _ => (rest value after).mpr others]
    exact (converts.ends_iff found results).mpr converted

end AppExecFwk
