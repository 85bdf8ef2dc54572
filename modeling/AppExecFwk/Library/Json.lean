import Mathlib.Tactic.Common

/-!
# JSON values

The values of a JSON document, and a decoder of documents that may throw and
that keeps a state of its own.  An object lists its members under distinct
keys; a number is an integer or a fraction.
-/

inductive Json where
  | null
  | boolean (value : Bool)
  | integer (value : Int)
  | fraction (value : Rat)
  | string (value : String)
  | array (items : List Json)
  | object (members : List (String × Json))

namespace Json

/-- The value under a key of a list of members. -/
def findMember : List (String × Json) → String → Option Json
  | [], _ => none
  | (name, value) :: rest, key =>
      if name = key then some value else findMember rest key

/-- The value under a key; only an object has one. -/
def find? : Json → String → Option Json
  | .object members, key => findMember members key
  | _, _ => none

def isBoolean : Json → Bool
  | .boolean _ => true
  | _ => false

def isNumber : Json → Bool
  | .integer _ | .fraction _ => true
  | _ => false

def isString : Json → Bool
  | .string _ => true
  | _ => false

def isArray : Json → Bool
  | .array _ => true
  | _ => false

def isObject : Json → Bool
  | .object _ => true
  | _ => false

/-- A document of a list, written item by item. -/
def ofList {α : Type} (toJson : α → Json) (items : List α) : Json :=
  .array (items.map toJson)

/-- A document of a map, written in the order of its keys. -/
def ofMap {α : Type} (toJson : α → Json) (map : Std.ExtTreeMap String α) :
    Json :=
  .object (map.toList.map fun entry => (entry.1, toJson entry.2))

@[simp]
theorem findMember_nil (key : String) : findMember [] key = none :=
  rfl

@[simp]
theorem findMember_cons (name : String) (value : Json)
    (rest : List (String × Json)) (key : String) :
    findMember ((name, value) :: rest) key =
      if name = key then some value else findMember rest key :=
  rfl

@[simp]
theorem find?_object (members : List (String × Json)) (key : String) :
    find? (.object members) key = findMember members key :=
  rfl

end Json

/-- What a decoder throws: a value of another type than asked for, or a key
that is not there. -/
inductive JsonException where
  | typeError
  | outOfRange
  deriving DecidableEq

/-- A decoder: it returns a value or throws, and either way leaves a state. -/
abbrev Decoder (σ α : Type) :=
  σ → Except JsonException α × σ

namespace Decoder

variable {σ α β : Type}

/-- Return a value and keep the state. -/
def ok (value : α) : Decoder σ α :=
  fun state => (.ok value, state)

/-- Give up with an exception; the state stays as it was left. -/
def throw (exception : JsonException) : Decoder σ α :=
  fun state => (.error exception, state)

/-- Decode one thing and go on with it. -/
def bind (decoder : Decoder σ α) (next : α → Decoder σ β) : Decoder σ β :=
  fun state =>
    match decoder state with
    | (.ok value, after) => next value after
    | (.error exception, after) => (.error exception, after)

instance : Monad (Decoder σ) where
  pure := ok
  bind := bind

@[simp]
theorem pure_apply (value : α) (state : σ) :
    (pure value : Decoder σ α) state = (.ok value, state) :=
  rfl

theorem bind_apply_of_ok {decoder : Decoder σ α} {next : α → Decoder σ β}
    {state after : σ} {value : α} (decoded : decoder state = (.ok value, after)) :
    (decoder >>= next) state = next value after := by
  change bind decoder next state = next value after
  simp only [bind, decoded]

/-- Decode every item of a list. -/
def all (decode : α → Decoder σ β) : List α → Decoder σ (List β)
  | [] => pure []
  | item :: rest => do
      let first ← decode item
      let others ← all decode rest
      return first :: others

/-- Every item decoded in turn, as long as each one keeps the state. -/
theorem all_map_of_ok {γ : Type} {decode : α → Decoder σ β} {encode : γ → α}
    {value : γ → β} {state : σ} {items : List γ}
    (decoded : ∀ item ∈ items,
      decode (encode item) state = (.ok (value item), state)) :
    all decode (items.map encode) state = (.ok (items.map value), state) := by
  induction items with
  | nil => rfl
  | cons head tail ih =>
      have first := decoded head (by simp)
      have others := ih fun item member => decoded item (by simp [member])
      simp only [List.map_cons, all]
      rw [bind_apply_of_ok first, bind_apply_of_ok others]
      rfl

end Decoder
