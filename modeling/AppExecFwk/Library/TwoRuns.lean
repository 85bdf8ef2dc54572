import AppExecFwk.Library.Json

/-!
# Two runs of a decoder

Two decodes agree if they leave the same state whatever state they start in,
and either throw the same exception or return related values.  The rules carry
the agreement through a decoder step by step, as a law about two documents that
are alike but not equal needs it.

Such documents come of one another by erasing or changing members, so the rules
for looking a member up in a changed document are here too.
-/

namespace Decoder

variable {σ α β γ δ : Type}

/-- Outcomes that are related: both exceptions, or both values. -/
inductive Outcomes (related : α → β → Prop) :
    Except JsonException α × σ → Except JsonException β × σ → Prop
  | values {value : α} {other : β} (state : σ) (values : related value other) :
      Outcomes related (.ok value, state) (.ok other, state)
  | exceptions (exception : JsonException) (state : σ) :
      Outcomes related (.error exception, state) (.error exception, state)

/-- The two decodes have related outcomes from every state. -/
def Agree (related : α → β → Prop) (first : Decoder σ α)
    (second : Decoder σ β) : Prop :=
  ∀ state, Outcomes related (first state) (second state)

namespace Agree

variable {related : α → β → Prop}

theorem refl (decoder : Decoder σ α) : Agree Eq decoder decoder := by
  intro state
  cases decoded : decoder state with
  | mk outcome after =>
      cases outcome with
      | ok value => exact .values after rfl
      | error exception => exact .exceptions exception after

theorem mono {weaker : α → β → Prop} {first : Decoder σ α}
    {second : Decoder σ β} (agree : Agree related first second)
    (weaken : ∀ value other, related value other → weaker value other) :
    Agree weaker first second := by
  intro state
  have outcomes := agree state
  generalize first state = begun at outcomes
  generalize second state = begun' at outcomes
  cases outcomes with
  | values after values => exact .values after (weaken _ _ values)
  | exceptions exception after => exact .exceptions exception after

theorem pure {value : α} {other : β} (values : related value other) :
    Agree related (pure value : Decoder σ α) (pure other) :=
  fun state => .values state values

theorem bind {follow : γ → δ → Prop} {first : Decoder σ α}
    {second : Decoder σ β} {next : α → Decoder σ γ} {other : β → Decoder σ δ}
    (agree : Agree related first second)
    (rest : ∀ value value', related value value' →
      Agree follow (next value) (other value')) :
    Agree follow (first >>= next) (second >>= other) := by
  intro state
  change Outcomes follow (Decoder.bind first next state)
    (Decoder.bind second other state)
  unfold Decoder.bind
  have outcomes := agree state
  generalize first state = begun at outcomes
  generalize second state = begun' at outcomes
  cases outcomes with
  | values after values => exact rest _ _ values after
  | exceptions exception after => exact .exceptions exception after

/-- Two decodes that return the same value. -/
theorem bind_same {follow : γ → δ → Prop} {first second : Decoder σ α}
    {next : α → Decoder σ γ} {other : α → Decoder σ δ}
    (agree : Agree Eq first second)
    (rest : ∀ value, Agree follow (next value) (other value)) :
    Agree follow (first >>= next) (second >>= other) :=
  agree.bind fun value _ same => same ▸ rest value

/-- Lists whose items are decoded with related outcomes. -/
theorem all {decode : γ → Decoder σ α} {decode' : δ → Decoder σ β}
    {items : List γ} {items' : List δ}
    (each : List.Forall₂
      (fun item item' => Agree related (decode item) (decode' item'))
      items items') :
    Agree (List.Forall₂ related) (Decoder.all decode items)
      (Decoder.all decode' items') := by
  induction each with
  | nil => exact pure .nil
  | cons head _ ih =>
      refine head.bind fun value value' values => ?_
      refine ih.bind fun rest rest' others => ?_
      exact pure (.cons values others)

/-- Decodes that agree end in the same state, and one of them in an exception
only if the other one does. -/
theorem eq_of_eq {first second : Decoder σ α} (agree : Agree Eq first second) :
    first = second := by
  funext state
  have outcomes := agree state
  generalize first state = begun at outcomes ⊢
  generalize second state = begun' at outcomes ⊢
  cases outcomes with
  | values after values => rw [values]
  | exceptions exception after => rfl

end Agree

end Decoder

namespace Json

/-- The document without the members under some keys. -/
def eraseMembers (keys : List String) : Json → Json
  | .object members => .object (members.filter fun member => member.1 ∉ keys)
  | json => json

/-- The document with the values under some keys changed. -/
def changeMembers (keys : List String) (change : Json → Json) : Json → Json
  | .object members => .object (members.map fun member =>
      if member.1 ∈ keys then (member.1, change member.2) else member)
  | json => json

/-- The document with every value changed. -/
def changeValues (change : Json → Json) : Json → Json
  | .object members => .object (members.map fun member =>
      (member.1, change member.2))
  | json => json

/-- The document with every item changed. -/
def changeItems (change : Json → Json) : Json → Json
  | .array items => .array (items.map change)
  | json => json

theorem find?_eraseMembers (keys : List String) (json : Json) (key : String) :
    (eraseMembers keys json).find? key =
      if key ∈ keys then none else json.find? key := by
  cases json with
  | object members =>
      simp only [eraseMembers, find?_object]
      induction members with
      | nil => simp
      | cons member rest ih =>
          obtain ⟨name, value⟩ := member
          by_cases erased : name ∈ keys
          · by_cases same : name = key
            · subst same
              simpa [List.filter_cons, erased] using ih
            · simpa [List.filter_cons, erased, same] using ih
          · by_cases same : name = key
            · subst same
              simp [erased]
            · simpa [List.filter_cons, erased, same] using ih
  | _ => simp [eraseMembers, find?]

theorem find?_changeMembers (keys : List String) (change : Json → Json)
    (json : Json) (key : String) :
    (changeMembers keys change json).find? key =
      if key ∈ keys then (json.find? key).map change
      else json.find? key := by
  cases json with
  | object members =>
      simp only [changeMembers, find?_object]
      induction members with
      | nil => simp
      | cons member rest ih =>
          obtain ⟨name, value⟩ := member
          by_cases same : name = key
          · subst same
            by_cases changed : name ∈ keys <;>
              simp [changed]
          · by_cases changed : name ∈ keys <;>
              simpa [changed, same] using ih
  | _ => simp [changeMembers, find?]

theorem find?_changeValues (change : Json → Json) (json : Json)
    (key : String) :
    (changeValues change json).find? key = (json.find? key).map change := by
  cases json with
  | object members =>
      simp only [changeValues, find?_object]
      induction members with
      | nil => simp
      | cons member rest ih =>
          obtain ⟨name, value⟩ := member
          by_cases same : name = key <;> simp [same, ih]
  | _ => simp [changeValues, find?]

@[simp]
theorem isObject_eraseMembers (keys : List String) (json : Json) :
    (eraseMembers keys json).isObject = json.isObject := by
  cases json <;> rfl

@[simp]
theorem isObject_changeMembers (keys : List String) (change : Json → Json)
    (json : Json) : (changeMembers keys change json).isObject =
      json.isObject := by
  cases json <;> rfl

@[simp]
theorem isObject_changeValues (change : Json → Json) (json : Json) :
    (changeValues change json).isObject = json.isObject := by
  cases json <;> rfl

@[simp]
theorem isArray_changeItems (change : Json → Json) (json : Json) :
    (changeItems change json).isArray = json.isArray := by
  cases json <;> rfl

end Json
