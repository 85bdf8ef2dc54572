import Mathlib.Data.String.Basic
import AppExecFwk.Library.JsonRoundTrip

/-!
# Documents with their members in order

An object keeps its members in the order of their keys, however it was made.  A
document whose objects have distinct keys keeps its contents when it is brought
into this order, and is then written and parsed back as it is.
-/

namespace JsonText

/-- A document without fractions or large integers; no two members of an object
share a key. -/
inductive IsWritable : Json → Prop where
  | null : IsWritable .null
  | boolean (value : Bool) : IsWritable (.boolean value)
  | integer {number : Int} (machine : isMachineInteger number = true) :
      IsWritable (.integer number)
  | string (text : String) : IsWritable (.string text)
  | array {items : List Json} (writable : ∀ item ∈ items, IsWritable item) :
      IsWritable (.array items)
  | object {members : List (String × Json)}
      (distinct : (members.map (·.1)).Nodup)
      (writable : ∀ member ∈ members, IsWritable member.2) :
      IsWritable (.object members)

mutual

/-- The document with the members of every object in order. -/
def normalize : Json → Json
  | .array items => .array (normalizeItems items)
  | .object members => ofMembers (normalizeMembers members)
  | .null => .null
  | .boolean value => .boolean value
  | .integer number => .integer number
  | .fraction number => .fraction number
  | .string text => .string text

def normalizeItems : List Json → List Json
  | [] => []
  | item :: rest => normalize item :: normalizeItems rest

def normalizeMembers : List (String × Json) → List (String × Json)
  | [] => []
  | (key, value) :: rest => (key, normalize value) :: normalizeMembers rest

end

theorem normalizeItems_eq_map (items : List Json) :
    normalizeItems items = items.map normalize := by
  induction items with
  | nil => rfl
  | cons head tail ih => rw [normalizeItems, ih, List.map_cons]

theorem normalizeMembers_eq_map (members : List (String × Json)) :
    normalizeMembers members =
      members.map fun member => (member.1, normalize member.2) := by
  induction members with
  | nil => rfl
  | cons head tail ih =>
      obtain ⟨key, value⟩ := head
      rw [normalizeMembers, ih, List.map_cons]

@[simp]
theorem normalize_array (items : List Json) :
    normalize (.array items) = .array (items.map normalize) := by
  rw [normalize, normalizeItems_eq_map]

theorem normalize_object (members : List (String × Json)) :
    normalize (.object members) =
      ofMembers (members.map fun member => (member.1, normalize member.2)) := by
  rw [normalize, normalizeMembers_eq_map]

/-- Brought into order, a writable document is written and parsed back. -/
theorem isPlain_normalize {json : Json} (writable : IsWritable json) :
    IsPlain (normalize json) := by
  induction writable with
  | null => exact .null
  | boolean value => exact .boolean value
  | integer machine => exact .integer machine
  | string text => exact .string text
  | array _ ih =>
      rw [normalize_array]
      refine .array fun item member => ?_
      obtain ⟨source, inItems, rfl⟩ := List.mem_map.mp member
      exact ih source inItems
  | object _ _ ih =>
      rw [normalize_object]
      refine isPlain_ofMembers fun member inMembers => ?_
      obtain ⟨source, inSource, rfl⟩ := List.mem_map.mp inMembers
      exact ih source inSource

theorem findMember_eq_none {members : List (String × Json)} {key : String}
    (absent : key ∉ members.map (·.1)) : Json.findMember members key = none := by
  induction members with
  | nil => rfl
  | cons head tail ih =>
      obtain ⟨name, value⟩ := head
      simp only [List.map_cons, List.mem_cons, not_or] at absent
      rw [Json.findMember_cons, if_neg (Ne.symm absent.1), ih absent.2]

/-- Under distinct keys the order does not matter. -/
theorem find?_ofMembers {members : List (String × Json)}
    (distinct : (members.map (·.1)).Nodup) (key : String) :
    (ofMembers members).find? key = Json.findMember members key := by
  have looked (start : Std.ExtTreeMap String Json) :
      (members.foldl (fun map member => map.insert member.1 member.2)
        start)[key]? = (Json.findMember members key).or start[key]? := by
    induction members generalizing start with
    | nil => simp
    | cons head tail ih =>
        obtain ⟨name, value⟩ := head
        rw [List.map_cons, List.nodup_cons] at distinct
        rw [List.foldl_cons, ih distinct.2, Json.findMember_cons,
          Std.ExtTreeMap.getElem?_insert]
        by_cases same : name = key
        · subst same
          simp [findMember_eq_none distinct.1]
        · simp [same]
  rw [ofMembers, Json.find?_object, findMember_toList, looked]
  simp

theorem findMember_map (change : Json → Json) (members : List (String × Json))
    (key : String) :
    Json.findMember (members.map fun member => (member.1, change member.2))
      key = (Json.findMember members key).map change := by
  induction members with
  | nil => rfl
  | cons head tail ih =>
      obtain ⟨name, value⟩ := head
      rw [List.map_cons, Json.findMember_cons, Json.findMember_cons, ih]
      split <;> rfl

/-- Under every key stands what stood there. -/
theorem find?_normalize {json : Json} (writable : IsWritable json)
    (key : String) :
    (normalize json).find? key = (json.find? key).map normalize := by
  cases writable with
  | @object members distinct _ =>
      have sameKeys : ((members.map fun member =>
          (member.1, normalize member.2)).map (·.1)).Nodup := by
        simpa [List.map_map, Function.comp_def] using distinct
      rw [normalize_object, find?_ofMembers sameKeys, findMember_map,
        Json.find?_object]
  | @array items _ =>
      rw [normalize_array]
      rfl
  | _ => rfl

/-- The document of a map is in order. -/
theorem normalize_ofMap {α : Type} (put : α → Json)
    (map : Std.ExtTreeMap String α) :
    normalize (.ofMap put map) =
      .ofMap (fun value => normalize (put value)) map := by
  have listed : (map.map fun _ value => normalize (put value)).toList =
      map.toList.map fun entry => (entry.1, normalize (put entry.2)) :=
    Std.ExtTreeMap.toList_map
  rw [Json.ofMap, normalize_object, List.map_map, Json.ofMap]
  change ofMembers (map.toList.map fun entry =>
    (entry.1, normalize (put entry.2))) = _
  rw [← listed, ofMembers_toList]

theorem isWritable_ofList {α : Type} {put : α → Json}
    (writable : ∀ value, IsWritable (put value)) (items : List α) :
    IsWritable (.ofList put items) := by
  refine .array fun item member => ?_
  obtain ⟨value, _, rfl⟩ := List.mem_map.mp member
  exact writable value

theorem isWritable_ofMap {α : Type} {put : α → Json}
    (writable : ∀ value, IsWritable (put value))
    (map : Std.ExtTreeMap String α) : IsWritable (.ofMap put map) := by
  refine .object ?_ fun member inMembers => ?_
  · have keys : (map.toList.map fun entry =>
        (entry.1, put entry.2)).map (·.1) = map.keys := by
      rw [List.map_map, ← Std.ExtTreeMap.map_fst_toList_eq_keys]
      rfl
    rw [keys]
    exact Std.ExtTreeMap.nodup_keys
  · obtain ⟨entry, _, rfl⟩ := List.mem_map.mp inMembers
    exact writable entry.2

/-! ## The bytes of a text -/

section NotZero

theorem notZero_of_mem_writeString (text : String) :
    ∀ byte ∈ writeString text, byte ≠ 0 := by
  have escaped : ∀ value < 256, 0 ∉ escape value.toUInt8 := by
    decide +kernel
  intro byte member
  rw [writeString, List.mem_append, List.mem_cons, List.mem_flatMap] at member
  rcases member with (rfl | ⟨source, _, inEscape⟩) | inEnd
  · decide
  · have this := escaped source.toNat source.toNat_lt
    rw [show source.toNat.toUInt8 = source by simp] at this
    exact ne_of_mem_of_not_mem inEscape this
  · rw [List.mem_singleton.mp inEnd]
    decide

theorem notZero_of_mem_writeInt (number : Int) :
    ∀ byte ∈ writeInt number, byte ≠ 0 := by
  have digits : ∀ byte ∈ writeNat number.natAbs, byte ≠ 0 := by
    rintro byte member rfl
    exact absurd (isDigit_of_mem_writeNat _ _ member) (by decide)
  intro byte member
  rw [writeInt] at member
  split_ifs at member
  · rcases List.mem_cons.mp member with rfl | inDigits
    · decide
    · exact digits byte inDigits
  · exact digits byte member

variable {layout : Layout} {floats : Floats}

theorem notZero_of_mem_line (depth : Nat) :
    ∀ byte ∈ layout.line depth, byte ≠ 0 := by
  rintro byte member rfl
  exact absurd (layout.isSpace_line depth 0 member) (by decide)

theorem notZero_of_mem_afterColon : ∀ byte ∈ layout.afterColon, byte ≠ 0 := by
  rintro byte member rfl
  exact absurd (layout.isSpace_afterColon 0 member) (by decide)

theorem notZero_of_mem_writeItemsIn {depth : Nat} {items : List Json}
    (each : ∀ item ∈ items, ∀ byte ∈ writeIn layout floats depth item,
      byte ≠ 0) :
    ∀ byte ∈ writeItemsIn layout floats depth items, byte ≠ 0 := by
  induction items with
  | nil => simp [writeItemsIn]
  | cons head tail ih =>
      intro byte member
      simp only [writeItemsIn, List.mem_append, List.mem_cons] at member
      rcases member with ((rfl | inLine) | inHead) | inTail
      · decide
      · exact notZero_of_mem_line depth byte inLine
      · exact each head (by simp) byte inHead
      · exact ih (fun item inside => each item (by simp [inside])) byte inTail

theorem notZero_of_mem_writeMembersIn {depth : Nat}
    {members : List (String × Json)}
    (each : ∀ member ∈ members,
      ∀ byte ∈ writeIn layout floats depth member.2, byte ≠ 0) :
    ∀ byte ∈ writeMembersIn layout floats depth members, byte ≠ 0 := by
  induction members with
  | nil => simp [writeMembersIn]
  | cons head tail ih =>
      obtain ⟨key, value⟩ := head
      intro byte member
      simp only [writeMembersIn, List.mem_append, List.mem_cons] at member
      rcases member with
        ((((rfl | inLine) | inKey) | rfl | inGap) | inValue) | inTail
      · decide
      · exact notZero_of_mem_line depth byte inLine
      · exact notZero_of_mem_writeString key byte inKey
      · decide
      · exact notZero_of_mem_afterColon byte inGap
      · exact each (key, value) (by simp) byte inValue
      · exact ih (fun other inside => each other (by simp [inside])) byte
          inTail

/-- The text of a document holds no zero byte. -/
theorem notZero_of_mem_writeIn {json : Json} (plain : IsPlain json)
    (depth : Nat) : ∀ byte ∈ writeIn layout floats depth json, byte ≠ 0 := by
  have zeroFree : ∀ word ∈ ["null", "true", "false"], 0 ∉ encode word := by
    decide +kernel
  have words : ∀ word ∈ ["null", "true", "false"], ∀ byte ∈ encode word,
      byte ≠ 0 :=
    fun word isWord byte member =>
      ne_of_mem_of_not_mem member (zeroFree word isWord)
  induction plain generalizing depth with
  | null =>
      rw [writeIn]
      exact words "null" (by simp)
  | boolean value =>
      cases value with
      | true =>
          rw [writeIn]
          exact words "true" (by simp)
      | false =>
          rw [writeIn]
          exact words "false" (by simp)
  | integer _ =>
      rw [writeIn]
      exact notZero_of_mem_writeInt _
  | string text =>
      rw [writeIn]
      exact notZero_of_mem_writeString text
  | @array items _ ih =>
      cases items with
      | nil =>
          rw [writeIn, List.forall_mem_cons, List.forall_mem_singleton]
          exact ⟨by decide, by decide⟩
      | cons head tail =>
          intro byte member
          simp only [writeIn, List.mem_append, List.mem_cons, List.not_mem_nil,
            or_false] at member
          rcases member with
            ((((rfl | inLine) | inHead) | inTail) | inEnd) | rfl
          · decide
          · exact notZero_of_mem_line _ byte inLine
          · exact ih head (by simp) _ byte inHead
          · exact notZero_of_mem_writeItemsIn
              (fun item inside => ih item (by simp [inside]) _) byte inTail
          · exact notZero_of_mem_line _ byte inEnd
          · decide
  | @object members _ _ ih =>
      cases members with
      | nil =>
          rw [writeIn, List.forall_mem_cons, List.forall_mem_singleton]
          exact ⟨by decide, by decide⟩
      | cons head tail =>
          obtain ⟨key, value⟩ := head
          intro byte member
          simp only [writeIn, List.mem_append, List.mem_cons, List.not_mem_nil,
            or_false] at member
          rcases member with
            ((((((rfl | inLine) | inKey) | rfl | inGap) | inValue) | inTail) |
              inEnd) | rfl
          · decide
          · exact notZero_of_mem_line _ byte inLine
          · exact notZero_of_mem_writeString key byte inKey
          · decide
          · exact notZero_of_mem_afterColon byte inGap
          · exact ih (key, value) (by simp) _ byte inValue
          · exact notZero_of_mem_writeMembersIn
              (fun other inside => ih other (by simp [inside]) _) byte inTail
          · exact notZero_of_mem_line _ byte inEnd
          · decide

end NotZero

/-! ## How long a text is at least -/

section AtLeast

variable {layout : Layout} {floats : Floats}

theorem length_le_writeMembersIn {depth : Nat} {members : List (String × Json)}
    {member : String × Json} (inMembers : member ∈ members) :
    (writeIn layout floats depth member.2).length ≤
      (writeMembersIn layout floats depth members).length := by
  induction members with
  | nil => cases inMembers
  | cons head tail ih =>
      obtain ⟨key, value⟩ := head
      simp only [writeMembersIn, List.length_append]
      rcases List.mem_cons.mp inMembers with rfl | inTail
      · dsimp only
        omega
      · have others := ih inTail
        omega

/-- The text of an object is as long as that of each of its values. -/
theorem length_le_writeIn_object {depth : Nat} {members : List (String × Json)}
    {member : String × Json} (inMembers : member ∈ members) :
    (writeIn layout floats (depth + 1) member.2).length ≤
      (writeIn layout floats depth (.object members)).length := by
  cases members with
  | nil => cases inMembers
  | cons head tail =>
      obtain ⟨key, value⟩ := head
      simp only [writeIn, List.length_append]
      rcases List.mem_cons.mp inMembers with rfl | inTail
      · dsimp only
        omega
      · have others := @length_le_writeMembersIn layout floats (depth + 1) _ _
          inTail
        omega

theorem mem_of_findMember {members : List (String × Json)} {key : String}
    {value : Json} (found : Json.findMember members key = some value) :
    (key, value) ∈ members := by
  induction members with
  | nil => cases found
  | cons head tail ih =>
      obtain ⟨name, first⟩ := head
      rw [Json.findMember_cons] at found
      split at found
      · next same =>
          cases found
          exact List.mem_cons.mpr (.inl (by rw [same]))
      · exact List.mem_cons.mpr (.inr (ih found))

theorem length_le_writeIn_of_find? {depth : Nat} {json value : Json}
    {key : String} (found : json.find? key = some value) :
    (writeIn layout floats (depth + 1) value).length ≤
      (writeIn layout floats depth json).length := by
  cases json with
  | object members =>
      exact @length_le_writeIn_object layout floats depth members (key, value)
        (mem_of_findMember found)
  | _ => cases found

/-- Every character of a text takes a byte. -/
theorem length_le_writeString (text : String) :
    text.toList.length ≤ (writeString text).length := by
  have characters (list : List Char) :
      list.length ≤ String.utf8Len list := by
    induction list with
    | nil => simp
    | cons head tail ih =>
        have positive := head.utf8Size_pos
        simp only [List.length_cons, String.utf8Len_cons]
        omega
  have bytes : String.utf8Len text.toList = (encode text).length := by
    rw [← String.utf8ByteSize_ofList, String.ofList_toList]
    simp [encode]
  have escaped (list : Bytes) : list.length ≤ (list.flatMap escape).length := by
    induction list with
    | nil => simp
    | cons head tail ih =>
        have one : ∀ value < 256, 1 ≤ (escape value.toUInt8).length := by
          decide +kernel
        have this := one head.toNat head.toNat_lt
        rw [show head.toNat.toUInt8 = head by simp] at this
        simp only [List.flatMap_cons, List.length_append, List.length_cons]
        omega
  have first := characters text.toList
  have second := escaped (encode text)
  simp only [writeString, List.length_append, List.length_cons]
  omega

end AtLeast

end JsonText
