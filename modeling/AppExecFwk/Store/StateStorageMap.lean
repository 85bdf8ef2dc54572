import AppExecFwk.Library.JsonRoundTrip
import AppExecFwk.Profile.ProfileTables
import AppExecFwk.Store.BundleStateStorage
import Mathlib.Data.List.Induction

/-!
# The bundle state storage as a map

After any calls the storage should load what was saved last for each bundle and
user and not deleted since, and return it when asked for one of them.  It does
as long as no bundle name contains the separator of the keys, no save makes the
text of the document more than one byte shorter, the file does not outgrow the
type of its length, and nothing but the default information is asked for.
-/

namespace AppExecFwk

open JsonText BundleStateStorage

/-- A name that the check of bundle names admits. -/
structure BundleName where
  name : String
  valid : checkBundleNameIsValid name = true

/-- A text that splitting and trimming leave alone. -/
def IsWord (text : String) : Prop :=
  text ≠ "" ∧ ∀ letter ∈ text.toList, letter ≠ '_' ∧ letter ≠ ' '

/-- `SplitStr` returns the parts between the separators. -/
structure SplitsAtUnderline
    (splitStr : String → String → Bool → Bool → List String) : Prop where
  words : ∀ first second, IsWord first → IsWord second →
    splitStr (first ++ "_" ++ second) "_" false true = [first, second]
  parts : ∀ text, ∀ part ∈ splitStr text "_" false true, '_' ∉ part.toList

/-- What was saved and not deleted, under the key of the bundle and the user. -/
abbrev SavedInfos := StringMap BundleUserInfo

/-- The calls that use the storage. -/
inductive StateCall where
  | save (bundle : BundleName) (userId : Int32) (info : BundleUserInfo)
  | get (bundle : BundleName) (userId : Int32)
  | delete (bundle : BundleName) (userId : Int32)

/-- A valid bundle name is a word if it has no separator. -/
theorem BundleName.isWord (bundle : BundleName)
    (noSeparator : '_' ∉ bundle.name.toList) : IsWord bundle.name := by
  have valid := bundle.valid
  unfold checkBundleNameIsValid at valid
  split_ifs at valid with isEmpty
  split at valid
  · cases valid
  · next head tail letters =>
      split_ifs at valid
      rw [← letters, Bool.not_eq_true', List.any_eq_false] at valid
      refine ⟨?_, ?_⟩
      · rintro empty
        rw [empty] at isEmpty
        exact isEmpty rfl
      · intro letter member
        refine ⟨?_, ?_⟩
        · rintro rfl
          exact noSeparator member
        · rintro rfl
          exact valid ' ' member (by decide)

theorem BundleName.isEmpty_eq_false (bundle : BundleName) :
    bundle.name.isEmpty = false := by
  by_contra isEmpty
  have valid := bundle.valid
  rw [checkBundleNameIsValid, if_pos (by simpa using isEmpty)] at valid
  cases valid

/-! ## Documents -/

section Documents

variable {floats : Floats} {saved : SavedInfos}

/-- The document with what was saved. -/
def document (saved : SavedInfos) : Std.ExtTreeMap String Json :=
  saved.map fun _ info => documentOf info

/-- Its text in the file. -/
def documentText (floats : Floats) (saved : SavedInfos) : Bytes :=
  dump floats (.object (document saved).toList)

/-- The text of one entry's value. -/
def infoText (floats : Floats) (info : BundleUserInfo) : Bytes :=
  write floats 1 (documentOf info)

theorem isPlain_documentOf (info : BundleUserInfo) :
    IsPlain (documentOf info) := by
  refine isPlain_ofMembers ?_
  intro member inside
  simp only [List.mem_cons, List.not_mem_nil, or_false] at inside
  rcases inside with rfl | rfl | rfl
  · refine .integer ?_
    have low := info.userId.le_toInt
    have high := info.userId.toInt_lt
    simp only [isMachineInteger, Bool.and_eq_true, decide_eq_true_eq]
    omega
  · exact .boolean _
  · refine .array ?_
    intro item member
    obtain ⟨text, -, rfl⟩ := List.mem_map.mp member
    exact .string text

/-- The information is read back from its document. -/
theorem getBundleUserInfo_documentOf (info : BundleUserInfo) :
    getBundleUserInfo (documentOf info) = some info := by
  have find (key : String) :
      (documentOf info).find? key =
        ((((∅ : Std.ExtTreeMap String Json).insert "userId"
          (.integer info.userId.toInt)).insert "enabled"
            (.boolean info.enabled)).insert "disabledAbilities"
              (.ofList .string info.disabledAbilities))[key]? :=
    findMember_toList _ key
  have userId : (documentOf info).find? "userId" =
      some (.integer info.userId.toInt) := by
    rw [find]
    simp only [Std.ExtTreeMap.getElem?_insert]
    rfl
  have enabled : (documentOf info).find? "enabled" =
      some (.boolean info.enabled) := by
    rw [find]
    simp only [Std.ExtTreeMap.getElem?_insert]
    rfl
  have disabledAbilities : (documentOf info).find? "disabledAbilities" =
      some (.ofList .string info.disabledAbilities) := by
    rw [find]
    simp only [Std.ExtTreeMap.getElem?_insert]
    rfl
  have decoded : BundleUserInfo.fromJson (documentOf info) {} =
      (.ok info, {}) := by
    apply withLocal_of_ok
    dsimp only
    refine read_then rfl rfl userId ?_
    refine read_then rfl rfl enabled ?_
    refine read_then rfl rfl disabledAbilities ?_
    rfl
  rw [getBundleUserInfo, decoded]
  rfl

theorem isPlain_document (saved : SavedInfos) :
    IsPlain (.object (document saved).toList) := by
  refine isPlain_object ?_
  intro name found present
  rw [document, Std.ExtTreeMap.getElem?_map] at present
  obtain ⟨info, -, rfl⟩ := Option.map_eq_some_iff.mp present
  exact isPlain_documentOf info

theorem document_insert (saved : SavedInfos) (key : String)
    (info : BundleUserInfo) :
    document (saved.insert key info) =
      (document saved).insert key (documentOf info) :=
  saved.map_insert key info _

theorem document_erase (saved : SavedInfos) (key : String) :
    document (saved.erase key) = (document saved).erase key := by
  apply Std.ExtTreeMap.ext_getElem?
  intro name
  simp only [document, Std.ExtTreeMap.getElem?_map,
    Std.ExtTreeMap.getElem?_erase]
  split <;> rfl

theorem document_empty : document ∅ = ∅ := by
  apply Std.ExtTreeMap.ext_getElem?
  intro name
  simp [document]

/-- The text of a document ends with its closing brace. -/
theorem documentText_eq (floats : Floats) (saved : SavedInfos) :
    ∃ before, documentText floats saved = before ++ [rightBrace] := by
  unfold documentText dump
  cases (document saved).toList with
  | nil => exact ⟨[leftBrace], rfl⟩
  | cons head tail =>
      obtain ⟨key, value⟩ := head
      exact ⟨_, rfl⟩

/-- Every key is that of a bundle whose name has no separator, and of a user. -/
def Keyed (saved : SavedInfos) : Prop :=
  ∀ key ∈ saved, ∃ bundleName userId, IsWord bundleName ∧
    0 ≤ userId.toInt ∧ key = nameAndUserIdToKey bundleName userId

theorem Keyed.insert (keyed : Keyed saved) {bundleName : String}
    {userId : Int32} (word : IsWord bundleName) (isUser : 0 ≤ userId.toInt)
    (info : BundleUserInfo) :
    Keyed (saved.insert (nameAndUserIdToKey bundleName userId) info) := by
  intro key member
  rw [Std.ExtTreeMap.mem_insert] at member
  rcases member with same | member
  · exact ⟨bundleName, userId, word, isUser,
      (Std.LawfulEqCmp.eq_of_compare same).symm⟩
  · exact keyed key member

theorem Keyed.erase (keyed : Keyed saved) (key : String) :
    Keyed (saved.erase key) :=
  fun other member => keyed other (Std.ExtTreeMap.mem_of_mem_erase member)

/-- The document has no member that is one of the information's. -/
theorem getBundleUserInfo_document (keyed : Keyed saved) :
    getBundleUserInfo (.object (document saved).toList) = some {} := by
  have absent {key : String} (noSeparator : '_' ∉ key.toList) :
      (Json.object (document saved).toList).find? key = none := by
    rw [Json.find?_object, findMember_toList, document,
      Std.ExtTreeMap.getElem?_map, Option.map_eq_none_iff]
    apply Std.ExtTreeMap.getElem?_eq_none
    intro member
    obtain ⟨bundleName, userId, -, -, same⟩ := keyed key member
    apply noSeparator
    rw [same]
    simp [nameAndUserIdToKey, String.toList_append]
  have decoded : BundleUserInfo.fromJson (.object (document saved).toList) {} =
      (.ok {}, {}) := by
    apply withLocal_of_ok
    dsimp only
    refine absent_then (absent (by decide)) ?_
    refine absent_then (absent (by decide)) ?_
    refine absent_then (absent (by decide)) ?_
    rfl
  rw [getBundleUserInfo, decoded]
  rfl

/-! ## Loading -/

variable {splitStr : String → String → Bool → Bool → List String}

theorem isWord_toString {userId : Int32} (isUser : 0 ≤ userId.toInt) :
    IsWord (toString userId) := by
  have digits : (toString userId).toList =
      Nat.toDigits 10 userId.toInt.toNat := by
    rw [Text.toList_toString_int32, if_pos isUser]
  refine ⟨?_, ?_⟩
  · rintro empty
    rw [empty] at digits
    exact Nat.toDigits_ne_nil digits.symm
  · intro letter member
    rw [digits] at member
    have isDigit := Nat.isDigit_of_mem_toDigits (by decide) (by decide) member
    refine ⟨?_, ?_⟩
    · rintro rfl
      exact absurd isDigit (by decide)
    · rintro rfl
      exact absurd isDigit (by decide)

/-- The key is split into the name and the user that it was made of. -/
theorem keyToNameAndUserId_of_word (splits : SplitsAtUnderline splitStr)
    {bundleName : String} {userId : Int32} (word : IsWord bundleName)
    (isUser : 0 ≤ userId.toInt) :
    keyToNameAndUserId splitStr (nameAndUserIdToKey bundleName userId) =
      some (bundleName, userId) := by
  rw [keyToNameAndUserId, nameAndUserIdToKey,
    splits.words bundleName _ word (isWord_toString isUser)]
  dsimp only
  rw [Text.atoi_toString isUser]

theorem StateInfos.find?_insert (infos : StateInfos) (name : String)
    (users : Std.ExtTreeMap Int32 BundleUserInfo) (bundleName : String)
    (userId : Int32) :
    StateInfos.find? (infos.insert name users) bundleName userId =
      if bundleName = name then users[userId]?
      else infos.find? bundleName userId := by
  rw [StateInfos.find?, StateInfos.find?, Std.ExtTreeMap.getElem?_insert]
  by_cases same : name = bundleName
  · simp [same]
  · simp [same, Ne.symm same]

/-- One item that was saved is loaded under its bundle and its user. -/
theorem loadItem_find? (splits : SplitsAtUnderline splitStr)
    (infos : StateInfos) {name : String} {user : Int32} (word : IsWord name)
    (isUser : 0 ≤ user.toInt) (info : BundleUserInfo) :
    ∃ loaded, loadItem splitStr infos
        (nameAndUserIdToKey name user, documentOf info) = some loaded ∧
      ∀ bundleName userId, loaded.find? bundleName userId =
        if bundleName = name ∧ userId = user then some info
        else infos.find? bundleName userId := by
  unfold loadItem
  rw [keyToNameAndUserId_of_word splits word isUser]
  dsimp only
  rw [getBundleUserInfo_documentOf]
  dsimp only [Option.bind_eq_bind, Option.bind_some]
  cases present : infos[name]? with
  | none =>
      rw [Std.ExtTreeMap.insertIfNew_of_none present,
        Std.ExtTreeMap.insertIfNew_of_none (by simp)]
      refine ⟨_, rfl, ?_⟩
      intro bundleName userId
      rw [StateInfos.find?_insert, StateInfos.find?]
      by_cases same : bundleName = name
      · subst same
        by_cases sameUser : userId = user
        · simp [sameUser]
        · simp [present, sameUser, Ne.symm sameUser]
      · simp [same]
  | some users =>
      refine ⟨_, rfl, ?_⟩
      intro bundleName userId
      rw [StateInfos.find?_insert, StateInfos.find?]
      by_cases same : bundleName = name
      · subst same
        by_cases sameUser : userId = user
        · simp [sameUser]
        · simp [present, sameUser, Ne.symm sameUser,
            Std.ExtTreeMap.getElem?_insert]
      · simp [same]

/-- The items that were saved are loaded, each under its key. -/
theorem foldlM_loadItem_find? (splits : SplitsAtUnderline splitStr)
    (entries : List (String × BundleUserInfo)) (infos : StateInfos)
    (keyed : ∀ entry ∈ entries, ∃ bundleName userId, IsWord bundleName ∧
      0 ≤ userId.toInt ∧ entry.1 = nameAndUserIdToKey bundleName userId)
    (distinct : entries.Pairwise fun first second => first.1 ≠ second.1) :
    ∃ loaded, (entries.map fun entry =>
        (entry.1, documentOf entry.2)).foldlM (loadItem splitStr) infos =
          some loaded ∧
      ∀ bundleName userId, loaded.find? bundleName userId =
        (entries.lookup (nameAndUserIdToKey bundleName userId)).or
          (infos.find? bundleName userId) := by
  induction entries generalizing infos with
  | nil => exact ⟨infos, rfl, fun _ _ => rfl⟩
  | cons head tail ih =>
      obtain ⟨key, info⟩ := head
      obtain ⟨name, user, word, isUser, same⟩ := keyed (key, info) (by simp)
      dsimp only at same
      subst same
      rw [List.pairwise_cons] at distinct
      obtain ⟨apart, distinct⟩ := distinct
      obtain ⟨between, first, found⟩ :=
        loadItem_find? splits infos word isUser info
      obtain ⟨loaded, rest, others⟩ := ih between
        (fun entry member => keyed entry (by simp [member])) distinct
      refine ⟨loaded, ?_, ?_⟩
      · rw [List.map_cons, List.foldlM_cons, first]
        exact rest
      · intro bundleName userId
        rw [others, found, List.lookup_cons]
        by_cases equal : bundleName = name ∧ userId = user
        · obtain ⟨rfl, rfl⟩ := equal
          have absent : tail.lookup
              (nameAndUserIdToKey bundleName userId) = none := by
            rw [List.lookup_eq_none_iff]
            intro entry member
            simpa using apart entry member
          simp [absent]
        · have other : (nameAndUserIdToKey bundleName userId ==
              nameAndUserIdToKey name user) = false := by
            rw [beq_eq_false_iff_ne]
            exact fun same => equal (nameAndUserIdToKey_inj same)
          rw [if_neg equal, other]

/-- The document with what was saved is loaded as what was saved. -/
theorem loadAllBundleStateDataFromJson_document
    (splits : SplitsAtUnderline splitStr) (keyed : Keyed saved) :
    ∃ loaded infos, loadAllBundleStateDataFromJson splitStr
        (some (.object (document saved).toList)) ∅ = some (loaded, infos) ∧
      ∀ bundleName userId, infos.find? bundleName userId =
        saved[nameAndUserIdToKey bundleName userId]? := by
  have entries : (document saved).toList =
      saved.toList.map fun entry => (entry.1, documentOf entry.2) :=
    Std.ExtTreeMap.toList_map
  have keys : ∀ entry ∈ saved.toList, entry.1 ∈ saved := by
    intro entry member
    rw [Std.ExtTreeMap.mem_iff_isSome_getElem?,
      Std.ExtTreeMap.mem_toList_iff_getElem?_eq_some.mp member]
    rfl
  obtain ⟨infos, loaded, found⟩ := foldlM_loadItem_find? splits saved.toList ∅
    (fun entry member => keyed entry.1 (keys entry member))
    (saved.distinct_keys_toList.imp fun apart same =>
      apart (by rw [same]; exact Std.ReflCmp.compare_self))
  refine ⟨!infos.isEmpty, infos, ?_, ?_⟩
  · unfold loadAllBundleStateDataFromJson
    dsimp only [items]
    rw [entries, loaded]
    rfl
  · intro bundleName userId
    rw [found, saved.lookup_toList]
    simp [StateInfos.find?]

/-- No name has a separator. -/
def NamesSplit (infos : StateInfos) : Prop :=
  ∀ name ∈ infos, '_' ∉ name.toList

theorem loadItem_namesSplit (splits : SplitsAtUnderline splitStr)
    {infos loaded : StateInfos} {item : String × Json}
    (names : NamesSplit infos)
    (done : loadItem splitStr infos item = some loaded) :
    NamesSplit loaded := by
  unfold loadItem at done
  split at done
  · cases done
    exact names
  · next name user key =>
      have noSeparator : '_' ∉ name.toList := by
        unfold keyToNameAndUserId at key
        split at key
        · next first second parts =>
            cases key
            exact splits.parts item.1 name (by rw [parts]; simp)
        · cases key
      have inserted (users : Std.ExtTreeMap Int32 BundleUserInfo) :
          NamesSplit (infos.insert name users) := by
        intro other member
        rw [Std.ExtTreeMap.mem_insert] at member
        rcases member with same | member
        · rw [← Std.LawfulEqCmp.eq_of_compare same]
          exact noSeparator
        · exact names other member
      cases decoded : getBundleUserInfo item.2 with
      | none =>
          rw [decoded] at done
          cases done
      | some info =>
          rw [decoded] at done
          dsimp only [Option.bind_eq_bind, Option.bind_some] at done
          split at done
          · next absent =>
              rw [Std.ExtTreeMap.insertIfNew_of_none absent] at done
              cases done
              exact inserted _
          · cases done
            exact inserted _

/-- Whatever the file holds, no name with a separator is loaded. -/
theorem loadAllBundleStateData_namesSplit (splits : SplitsAtUnderline splitStr)
    {file : StateFile} {loaded : Bool} {infos : StateInfos}
    (done : loadAllBundleStateData floats splitStr file ∅ =
      some (loaded, infos)) :
    NamesSplit infos := by
  have empty : NamesSplit ∅ := fun name member => by simp at member
  have folded (list : List (String × Json)) (start : StateInfos)
      (names : NamesSplit start) :
      ∀ infos, list.foldlM (loadItem splitStr) start = some infos →
        NamesSplit infos := by
    induction list generalizing start with
    | nil =>
        intro infos done
        cases done
        exact names
    | cons head tail ih =>
        intro infos done
        rw [List.foldlM_cons] at done
        obtain ⟨between, first, rest⟩ := Option.bind_eq_some_iff.mp done
        exact ih between (loadItem_namesSplit splits names first) infos rest
  unfold loadAllBundleStateData at done
  split at done
  · cases done
    exact empty
  · split_ifs at done
    · cases done
      exact empty
    · unfold loadAllBundleStateDataFromJson at done
      split at done
      · cases done
        exact empty
      · obtain ⟨result, first, rest⟩ := Option.bind_eq_some_iff.mp done
        cases rest
        exact folded _ ∅ empty _ first

/-! ## Single calls -/

/-- What is loaded from the file is what was saved. -/
def Loads (floats : Floats)
    (splitStr : String → String → Bool → Bool → List String)
    (file : StateFile) (saved : SavedInfos) : Prop :=
  ∃ loaded infos, loadAllBundleStateData floats splitStr file ∅ =
      some (loaded, infos) ∧
    ∀ bundleName userId, infos.find? bundleName userId =
      saved[nameAndUserIdToKey bundleName userId]?

/-- A file of this length is not taken for an empty one. -/
def Fits (length : Nat) : Prop :=
  0 < Int32.ofNat length

/-- The file is empty or has the text of the document and spaces behind it. -/
inductive Holds (floats : Floats) : StateFile → SavedInfos → Prop where
  | nothing : Holds floats (some []) ∅
  | written {saved : SavedInfos} {blank : Bytes} (notEmpty : saved ≠ ∅)
      (keyed : Keyed saved) (isBlank : skipSpace blank = [])
      (fits : Fits (documentText floats saved ++ blank).length) :
      Holds floats (some (documentText floats saved ++ blank)) saved

theorem Holds.keyed {file : StateFile} (holds : Holds floats file saved) :
    Keyed saved := by
  cases holds with
  | nothing =>
      intro key member
      simp at member
  | written notEmpty keyed isBlank fits => exact keyed

theorem Fits.lengthOf_ne {content : Bytes} (fits : Fits content.length) :
    lengthOf content ≠ 0 := by
  intro zero
  rw [lengthOf] at zero
  rw [Fits, zero] at fits
  exact absurd fits (by decide)

theorem fits_iff {content : Bytes} :
    Fits content.length ↔ ¬lengthOf content ≤ 0 := by
  rw [Fits, lengthOf, Int32.not_le]

theorem follows_of_blank {blank : Bytes} (isBlank : skipSpace blank = []) :
    Follows blank := by
  cases blank with
  | nil =>
      intro head member
      cases member
  | cons head tail =>
      apply follows_cons
      have space : isSpace head = true :=
        List.dropWhile_eq_nil_iff.mp isBlank head (by simp)
      simp only [isSpace, Bool.or_eq_true, decide_eq_true_eq] at space
      rcases space with ((rfl | rfl) | rfl) | rfl <;> decide

/-- A file that holds what was saved loads it. -/
theorem Holds.loads (splits : SplitsAtUnderline splitStr) {file : StateFile}
    (holds : Holds floats file saved) : Loads floats splitStr file saved := by
  cases holds with
  | nothing =>
      refine ⟨false, ∅, rfl, ?_⟩
      intro bundleName userId
      simp [StateInfos.find?]
  | @written _ blank notEmpty keyed isBlank fits =>
      obtain ⟨loaded, infos, done, found⟩ :=
        loadAllBundleStateDataFromJson_document splits keyed
      refine ⟨loaded, infos, ?_, found⟩
      have parsed : parse floats (documentText floats saved ++ blank) =
          some (.object (document saved).toList) := by
        rw [documentText, dump, parse_write (isPlain_document saved)
          (follows_of_blank isBlank), if_pos isBlank]
      unfold loadAllBundleStateData
      dsimp only
      rw [if_neg (fits_iff.mp fits), parsed, done]

theorem readFirst_documentText (floats : Floats) (saved : SavedInfos)
    {blank : Bytes} (follows : Follows blank) :
    readFirst floats (documentText floats saved ++ blank) =
      some (.object (document saved).toList) :=
  readFirst_write (isPlain_document saved) follows

/-- The end of a text is blank if it lies behind the closing brace. -/
theorem skipSpace_drop {content blank : Bytes} (isBlank : skipSpace blank = [])
    (length : Nat) :
    skipSpace ((content ++ [rightBrace] ++ blank).drop length) = [] ↔
      (content ++ [rightBrace]).length ≤ length := by
  have spaces := List.dropWhile_eq_nil_iff.mp isBlank
  rw [skipSpace, List.dropWhile_eq_nil_iff]
  constructor
  · intro allSpaces
    by_contra short
    have inside : rightBrace ∈
        (content ++ [rightBrace] ++ blank).drop length := by
      rw [List.append_assoc, List.drop_append_of_le_length]
      · simp
      · simp only [List.length_append, List.length_cons, List.length_nil]
          at short
        omega
    exact absurd (allSpaces _ inside) (by decide)
  · intro long byte member
    rw [List.drop_append, List.drop_eq_nil_of_le long, List.nil_append]
      at member
    exact spaces byte (List.mem_of_mem_drop member)

/-- How the length of the document's text changes with one entry. -/
theorem length_documentText_insert (key : String) (info : BundleUserInfo) :
    (documentText floats saved).length ≤
        (documentText floats (saved.insert key info)).length + 1 ↔
      ∀ old, saved[key]? = some old →
        (infoText floats old).length ≤ (infoText floats info).length + 1 := by
  rw [documentText, documentText, document_insert]
  have value : (document saved)[key]? = saved[key]?.map documentOf :=
    Std.ExtTreeMap.getElem?_map
  cases present : saved[key]? with
  | none =>
      rw [present, Option.map_none] at value
      have longer := length_write_insert_of_none floats 0 value
        (documentOf info)
      simp only [dump, reduceCtorEq, false_implies, implies_true, iff_true]
      omega
  | some old =>
      rw [present, Option.map_some] at value
      have change := length_write_insert floats 0 value (documentOf info)
      simp only [Nat.zero_add] at change
      simp only [dump, Option.some.injEq, forall_eq', infoText]
      omega

/-- A save writes the document with the new entry; what is left of the old file
behind it is blank if the old document was not longer. -/
theorem Holds.save {file : StateFile} (holds : Holds floats file saved)
    (bundle : BundleName) {userId : Int32} (isUser : ¬userId < 0)
    (info : BundleUserInfo) :
    ∃ rest, saveBundleStateStorage floats bundle.name userId info file =
        some (true, some (documentText floats
          (saved.insert (nameAndUserIdToKey bundle.name userId) info) ++
            newline :: rest)) ∧
      (documentText floats
          (saved.insert (nameAndUserIdToKey bundle.name userId) info) ++
            newline :: rest).length =
        max (file.getD []).length ((documentText floats
          (saved.insert (nameAndUserIdToKey bundle.name userId) info)).length +
            1) ∧
      (skipSpace rest = [] ↔
        ∀ old, saved[nameAndUserIdToKey bundle.name userId]? = some old →
          (infoText floats old).length ≤
            (infoText floats info).length + 1) := by
  have args : (bundle.name.isEmpty || decide (userId < 0)) = false := by
    simp [bundle.isEmpty_eq_false, isUser]
  unfold saveBundleStateStorage
  rw [args]
  cases holds with
  | nothing =>
      refine ⟨[], ?_, ?_, ?_⟩
      · have zero : lengthOf [] = 0 := rfl
        dsimp only [Bool.false_eq_true, if_false]
        rw [if_neg Bool.false_ne_true, if_pos zero]
        dsimp only [setMember, Option.bind_eq_bind, Option.bind_some]
        rw [ofMembers_singleton, documentText, document_insert, document_empty]
        rfl
      · simp
      · simp [skipSpace]
  | @written _ blank notEmpty keyed isBlank fits =>
      have read := readFirst_documentText floats saved
        (follows_of_blank isBlank)
      obtain ⟨before, ends⟩ := documentText_eq floats saved
      refine ⟨(documentText floats saved ++ blank).drop
        ((documentText floats (saved.insert
          (nameAndUserIdToKey bundle.name userId) info)).length + 1),
        ?_, ?_, ?_⟩
      · rw [if_neg Bool.false_ne_true]
        dsimp only
        rw [if_neg fits.lengthOf_ne, read]
        dsimp only [setMember, Option.bind_eq_bind, Option.bind_some]
        rw [ofMembers_append, ← document_insert, overwrite]
        simp [documentText]
      · simp only [List.length_append, List.length_cons, List.length_drop,
          Option.getD_some]
        omega
      · rw [← length_documentText_insert, ends, skipSpace_drop isBlank]

theorem Holds.get {file : StateFile} (holds : Holds floats file saved)
    (bundle : BundleName) {userId : Int32} {info : BundleUserInfo}
    (present : saved[nameAndUserIdToKey bundle.name userId]? = some info) :
    getBundleStateStorage floats bundle.name userId file = some (some {}) := by
  cases holds with
  | nothing => simp at present
  | @written _ blank notEmpty keyed isBlank fits =>
      have member : nameAndUserIdToKey bundle.name userId ∈ saved := by
        rw [Std.ExtTreeMap.mem_iff_isSome_getElem?, present]
        rfl
      obtain ⟨name, user, -, isUser, same⟩ := keyed _ member
      obtain ⟨-, rfl⟩ := nameAndUserIdToKey_inj same
      have notNegative : ¬userId < 0 := by
        rw [Int32.lt_iff_toInt_lt]
        exact Int.not_lt.mpr isUser
      have read := readFirst_documentText floats saved
        (follows_of_blank isBlank)
      unfold getBundleStateStorage
      rw [bundle.isEmpty_eq_false, if_neg (by simpa using notNegative)]
      dsimp only
      rw [if_neg fits.lengthOf_ne, read]
      dsimp only [Option.bind_eq_bind, Option.bind_some]
      rw [getBundleUserInfo_document keyed]
      rfl

theorem Holds.get_returns {file : StateFile} (holds : Holds floats file saved)
    (bundle : BundleName) (userId : Int32) :
    ∃ result, getBundleStateStorage floats bundle.name userId file =
      some result := by
  unfold getBundleStateStorage
  cases holds with
  | nothing =>
      split_ifs
      · exact ⟨_, rfl⟩
      · exact ⟨_, rfl⟩
  | @written _ blank notEmpty keyed isBlank fits =>
      have read := readFirst_documentText floats saved
        (follows_of_blank isBlank)
      split_ifs
      · exact ⟨_, rfl⟩
      · dsimp only
        rw [if_neg fits.lengthOf_ne, read]
        dsimp only [Option.bind_eq_bind, Option.bind_some]
        rw [getBundleUserInfo_document keyed]
        exact ⟨_, rfl⟩

/-- A deletion keeps the file, empties it, or writes the document without the
entry. -/
theorem Holds.delete {file : StateFile} (holds : Holds floats file saved)
    (bundle : BundleName) {userId : Int32} (isUser : ¬userId < 0) :
    let others := saved.erase (nameAndUserIdToKey bundle.name userId)
    ∃ after, deleteBundleState floats bundle.name userId file =
        some (true, after) ∧
      ((after = file ∧ others = saved) ∨ (after = some [] ∧ others = ∅) ∨
        (after = some (documentText floats others) ∧ others ≠ ∅ ∧
          nameAndUserIdToKey bundle.name userId ∈ saved)) := by
  intro others
  have args : (bundle.name.isEmpty || decide (userId < 0)) = false := by
    simp [bundle.isEmpty_eq_false, isUser]
  unfold deleteBundleState
  rw [args, if_neg Bool.false_ne_true]
  cases holds with
  | nothing => exact ⟨some [], rfl, .inl ⟨rfl, by simp [others]⟩⟩
  | @written _ blank notEmpty keyed isBlank fits =>
      have read := readFirst_documentText floats saved
        (follows_of_blank isBlank)
      have value : (document saved)[nameAndUserIdToKey bundle.name userId]? =
          saved[nameAndUserIdToKey bundle.name userId]?.map documentOf :=
        Std.ExtTreeMap.getElem?_map
      dsimp only
      rw [if_neg fits.lengthOf_ne, read]
      dsimp only [Option.bind_eq_bind, Option.bind_some]
      rw [findMember_toList, value, filter_toList, ← document_erase]
      cases present : saved[nameAndUserIdToKey bundle.name userId]? with
      | none =>
          refine ⟨_, rfl, .inl ⟨rfl, ?_⟩⟩
          rw [Std.ExtTreeMap.erase_eq_self_iff]
          exact present
      | some info =>
          have member : nameAndUserIdToKey bundle.name userId ∈ saved := by
            rw [Std.ExtTreeMap.mem_iff_isSome_getElem?, present]
            rfl
          have emptyIff : (document others).toList.isEmpty = true ↔
              others = ∅ := by
            rw [Std.ExtTreeMap.isEmpty_toList, Std.ExtTreeMap.isEmpty_iff,
              document, Std.ExtTreeMap.map_eq_empty_iff]
          rw [if_neg (by simp)]
          by_cases empty : others = ∅
          · rw [if_pos (emptyIff.mpr empty)]
            exact ⟨_, rfl, .inr (.inl ⟨rfl, empty⟩)⟩
          · rw [if_neg (mt emptyIff.mp empty)]
            exact ⟨_, rfl, .inr (.inr ⟨rfl, empty, member⟩)⟩

/-! ## Runs -/

/-- The file after a call. -/
def StateCall.perform (floats : Floats) (file : StateFile) :
    StateCall → Option StateFile
  | .save bundle userId info =>
      (saveBundleStateStorage floats bundle.name userId info file).map (·.2)
  | .get bundle userId =>
      (getBundleStateStorage floats bundle.name userId file).map fun _ => file
  | .delete bundle userId =>
      (deleteBundleState floats bundle.name userId file).map (·.2)

/-- What is saved after a call; the storage has no negative users. -/
def StateCall.record (saved : SavedInfos) : StateCall → SavedInfos
  | .save bundle userId info =>
      if userId < 0 then saved
      else saved.insert (nameAndUserIdToKey bundle.name userId) info
  | .get _ _ => saved
  | .delete bundle userId =>
      if userId < 0 then saved
      else saved.erase (nameAndUserIdToKey bundle.name userId)

/-- The file after some calls, from an empty one. -/
def fileAfter (floats : Floats) (calls : List StateCall) : Option StateFile :=
  calls.foldlM (fun file call => call.perform floats file) (some [])

/-- What was saved last by some calls and not deleted. -/
def savedAfter (calls : List StateCall) : SavedInfos :=
  calls.foldl (fun saved call => call.record saved) ∅

/-- Before and after every call all that is saved can be loaded, and every call
for an entry that is saved returns its value. -/
structure ActsAsMap (floats : Floats)
    (splitStr : String → String → Bool → Bool → List String)
    (calls : List StateCall) : Prop where
  loads : ∀ done, done <+: calls → ∃ file, fileAfter floats done = some file ∧
    Loads floats splitStr file (savedAfter done)
  gets : ∀ done bundle userId info, done ++ [.get bundle userId] <+: calls →
    (savedAfter done)[nameAndUserIdToKey bundle.name userId]? = some info →
    ∃ file, fileAfter floats done = some file ∧
      getBundleStateStorage floats bundle.name userId file = some (some info)

/-- The call keeps to what the storage can do. -/
def StateCall.Safe (floats : Floats) (file : StateFile) (saved : SavedInfos) :
    StateCall → Prop
  | .save bundle userId info => ¬userId < 0 →
      let key := nameAndUserIdToKey bundle.name userId
      '_' ∉ bundle.name.toList ∧
        (∀ old, saved[key]? = some old →
          (infoText floats old).length ≤ (infoText floats info).length + 1) ∧
        Fits (max (file.getD []).length
          ((documentText floats (saved.insert key info)).length + 1))
  | .get bundle userId => ∀ info,
      saved[nameAndUserIdToKey bundle.name userId]? = some info → info = {}
  | .delete bundle userId => ¬userId < 0 →
      let key := nameAndUserIdToKey bundle.name userId
      key ∈ saved → saved.erase key ≠ ∅ →
        Fits (documentText floats (saved.erase key)).length

/-- A safe call leaves a file that holds what is saved then. -/
theorem Holds.perform {file : StateFile} (holds : Holds floats file saved)
    (call : StateCall) (safe : call.Safe floats file saved) :
    ∃ after, call.perform floats file = some after ∧
      Holds floats after (call.record saved) := by
  cases call with
  | save bundle userId info =>
      by_cases negative : userId < 0
      · refine ⟨file, ?_, ?_⟩
        · simp [StateCall.perform, saveBundleStateStorage, negative]
        · rw [StateCall.record, if_pos negative]
          exact holds
      · obtain ⟨noSeparator, shorter, fits⟩ := safe negative
        obtain ⟨rest, done, length, blankIff⟩ :=
          holds.save bundle negative info
        refine ⟨_, by rw [StateCall.perform, done]; rfl, ?_⟩
        rw [StateCall.record, if_neg negative]
        have isUser : 0 ≤ userId.toInt := by
          rw [Int32.lt_iff_toInt_lt] at negative
          exact Int.not_lt.mp negative
        refine .written ?_ ?_ ?_ ?_
        · exact Std.ExtTreeMap.insert_ne_empty
        · exact holds.keyed.insert (bundle.isWord noSeparator) isUser info
        · exact blankIff.mpr shorter
        · rw [length]
          exact fits
  | get bundle userId =>
      obtain ⟨result, done⟩ := holds.get_returns bundle userId
      exact ⟨file, by rw [StateCall.perform, done]; rfl, holds⟩
  | delete bundle userId =>
      by_cases negative : userId < 0
      · refine ⟨file, ?_, ?_⟩
        · simp [StateCall.perform, deleteBundleState, negative]
        · rw [StateCall.record, if_pos negative]
          exact holds
      · obtain ⟨after, done, kept | emptied | written⟩ :=
          holds.delete bundle negative
        · obtain ⟨rfl, same⟩ := kept
          refine ⟨after, by rw [StateCall.perform, done]; rfl, ?_⟩
          rw [StateCall.record, if_neg negative, same]
          exact holds
        · obtain ⟨rfl, empty⟩ := emptied
          refine ⟨some [], by rw [StateCall.perform, done]; rfl, ?_⟩
          rw [StateCall.record, if_neg negative, empty]
          exact .nothing
        · obtain ⟨rfl, notEmpty, member⟩ := written
          refine ⟨_, by rw [StateCall.perform, done]; rfl, ?_⟩
          rw [StateCall.record, if_neg negative]
          have fits := safe negative member notEmpty
          rw [← List.append_nil (documentText floats _)] at fits ⊢
          exact .written notEmpty (holds.keyed.erase _) rfl fits

/-- An entry that is loaded has a name without a separator, and is loaded from
a file that is not taken for an empty one and has one document. -/
theorem Loads.of_entry (splits : SplitsAtUnderline splitStr) {content : Bytes}
    (loads : Loads floats splitStr (some content) saved) {bundleName : String}
    {userId : Int32}
    (present : nameAndUserIdToKey bundleName userId ∈ saved) :
    '_' ∉ bundleName.toList ∧ Fits content.length ∧
      parse floats content ≠ none := by
  obtain ⟨loaded, infos, done, found⟩ := loads
  have here := found bundleName userId
  rw [Std.ExtTreeMap.mem_iff_isSome_getElem?, ← here] at present
  have member : bundleName ∈ infos := by
    by_contra absent
    rw [StateInfos.find?, Std.ExtTreeMap.getElem?_eq_none absent] at present
    cases present
  have notEmpty : infos ≠ ∅ := by
    rintro rfl
    simp at member
  refine ⟨loadAllBundleStateData_namesSplit splits done bundleName member,
    ?_, ?_⟩
  · rw [fits_iff]
    intro empty
    unfold loadAllBundleStateData at done
    dsimp only at done
    rw [if_pos empty] at done
    cases done
    exact notEmpty rfl
  · intro discarded
    unfold loadAllBundleStateData at done
    dsimp only at done
    rw [discarded] at done
    split_ifs at done
    · cases done
      exact notEmpty rfl
    · cases done
      exact notEmpty rfl

/-- A call after which everything is loaded was safe. -/
theorem Holds.safe (splits : SplitsAtUnderline splitStr) {file : StateFile}
    (holds : Holds floats file saved) {call : StateCall} {after : StateFile}
    (done : call.perform floats file = some after)
    (loads : Loads floats splitStr after (call.record saved))
    (gets : ∀ bundle userId info, call = .get bundle userId →
      saved[nameAndUserIdToKey bundle.name userId]? = some info →
      getBundleStateStorage floats bundle.name userId file =
        some (some info)) :
    call.Safe floats file saved := by
  cases call with
  | save bundle userId info =>
      intro negative
      obtain ⟨rest, saves, length, blankIff⟩ := holds.save bundle negative info
      rw [StateCall.perform, saves] at done
      cases done
      rw [StateCall.record, if_neg negative] at loads
      obtain ⟨noSeparator, fits, parsed⟩ :=
        loads.of_entry splits Std.ExtTreeMap.mem_insert_self
      refine ⟨noSeparator, ?_, ?_⟩
      · rw [← blankIff]
        by_contra notBlank
        apply parsed
        have follows : Follows (newline :: rest) := follows_cons _ (by decide)
        rw [documentText, dump, parse_write (isPlain_document _) follows]
        exact if_neg notBlank
      · rw [← length]
        exact fits
  | get bundle userId =>
      intro info present
      have returned := gets bundle userId info rfl present
      rw [holds.get bundle present] at returned
      cases returned
      rfl
  | delete bundle userId =>
      intro negative key member notEmpty
      obtain ⟨other, deletes, kept | emptied | written⟩ :=
        holds.delete bundle negative
      · exfalso
        have absent := Std.ExtTreeMap.erase_eq_self_iff.mp kept.2
        rw [Std.ExtTreeMap.mem_iff_isSome_getElem?, absent] at member
        cases member
      · exact absurd emptied.2 notEmpty
      · obtain ⟨rfl, -, -⟩ := written
        rw [StateCall.perform, deletes] at done
        cases done
        rw [StateCall.record, if_neg negative] at loads
        obtain ⟨other, isOther⟩ : ∃ other, other ∈ saved.erase
            (nameAndUserIdToKey bundle.name userId) := by
          by_contra none
          apply notEmpty
          rw [Std.ExtTreeMap.eq_empty_iff_forall_not_mem]
          exact fun other isOther => none ⟨other, isOther⟩
        obtain ⟨name, user, -, -, rfl⟩ := (holds.keyed.erase _) other isOther
        exact (loads.of_entry splits isOther).2.1

theorem fileAfter_append (calls : List StateCall) (call : StateCall) :
    fileAfter floats (calls ++ [call]) =
      (fileAfter floats calls).bind fun file => call.perform floats file := by
  simp [fileAfter, List.foldlM_append]

theorem savedAfter_append (calls : List StateCall) (call : StateCall) :
    savedAfter (calls ++ [call]) = call.record (savedAfter calls) := by
  rw [savedAfter, List.foldl_append]
  rfl

/-- Every call keeps to what the storage can do. -/
def AllSafe (floats : Floats) (calls : List StateCall) : Prop :=
  ∀ done call, done ++ [call] <+: calls →
    ∀ file, fileAfter floats done = some file →
      call.Safe floats file (savedAfter done)

/-- After safe calls the file holds what is saved. -/
theorem AllSafe.holds {calls : List StateCall} (safe : AllSafe floats calls) :
    ∃ file, fileAfter floats calls = some file ∧
      Holds floats file (savedAfter calls) := by
  induction calls using List.reverseRecOn with
  | nil => exact ⟨some [], rfl, .nothing⟩
  | append_singleton calls call ih =>
      obtain ⟨file, after, holds⟩ := ih fun done other isPrefix =>
        safe done other (isPrefix.trans (List.prefix_append _ _))
      obtain ⟨next, performed, holdsNext⟩ :=
        holds.perform call (safe calls call List.prefix_rfl file after)
      refine ⟨next, ?_, ?_⟩
      · rw [fileAfter_append, after]
        exact performed
      · rw [savedAfter_append]
        exact holdsNext

/-- Calls that the storage answers like a map were safe. -/
theorem ActsAsMap.allSafe (splits : SplitsAtUnderline splitStr)
    {calls : List StateCall} (acts : ActsAsMap floats splitStr calls)
    {done : List StateCall} (isPrefix : done <+: calls) :
    AllSafe floats done := by
  induction done using List.reverseRecOn with
  | nil =>
      intro done call isPrefix
      simp at isPrefix
  | append_singleton done call ih =>
      have earlier := ih ((List.prefix_append _ _).trans isPrefix)
      obtain ⟨file, after, holds⟩ := earlier.holds
      intro first other inside
      rcases List.prefix_concat_iff.mp inside with same | inside
      · obtain ⟨rfl, rfl⟩ : first = done ∧ other = call := by
          simpa using same
        intro before reached
        rw [after] at reached
        cases reached
        obtain ⟨next, reached, loads⟩ := acts.loads _ isPrefix
        rw [fileAfter_append, after] at reached
        rw [savedAfter_append] at loads
        refine holds.safe splits reached loads ?_
        rintro bundle userId info rfl present
        obtain ⟨same, reached, returned⟩ :=
          acts.gets first bundle userId info isPrefix present
        rw [after] at reached
        cases reached
        exact returned
      · exact earlier first other inside

end Documents

/-- The storage acts as a map exactly through safe calls. -/
theorem stateStorage_actsAsMap_iff (floats : Floats)
    {splitStr : String → String → Bool → Bool → List String}
    (splits : SplitsAtUnderline splitStr) (calls : List StateCall) :
    ActsAsMap floats splitStr calls ↔ AllSafe floats calls := by
  constructor
  · intro acts
    exact acts.allSafe splits List.prefix_rfl
  · intro safe
    have prefixSafe {done : List StateCall} (isPrefix : done <+: calls) :
        AllSafe floats done := fun first call inside =>
      safe first call (inside.trans isPrefix)
    constructor
    · intro done isPrefix
      obtain ⟨file, after, holds⟩ := (prefixSafe isPrefix).holds
      exact ⟨file, after, holds.loads splits⟩
    · intro done bundle userId info isPrefix present
      have earlier := (List.prefix_append _ _).trans isPrefix
      obtain ⟨file, after, holds⟩ := (prefixSafe earlier).holds
      refine ⟨file, after, ?_⟩
      rw [holds.get bundle present,
        safe done (.get bundle userId) isPrefix file after info present]

/-! ## Some runs -/

/-- The letters between the separators. -/
def splitLetters (separator : Char) : List Char → List (List Char)
  | [] => [[]]
  | letter :: rest =>
      match splitLetters separator rest with
      | [] => [[]]
      | part :: parts =>
          if letter = separator then [] :: part :: parts
          else (letter :: part) :: parts

/-- The letters without the blanks around them. -/
def trimLetters (letters : List Char) : List Char :=
  ((letters.dropWhile (· = ' ')).reverse.dropWhile (· = ' ')).reverse

/-- `SplitStr` with a separator of one letter. -/
def splitAtLetter (text separator : String) (canEmpty needTrim : Bool) :
    List String :=
  match separator.toList with
  | [letter] =>
      let trim := if needTrim then trimLetters else id
      (((splitLetters letter (trim text.toList)).map trim).filter fun part =>
        canEmpty || !part.isEmpty).map String.ofList
  | _ => [text]

theorem splitLetters_of_notMem {separator : Char} {letters : List Char}
    (notMem : separator ∉ letters) :
    splitLetters separator letters = [letters] := by
  induction letters with
  | nil => rfl
  | cons head tail ih =>
      rw [List.mem_cons, not_or] at notMem
      rw [splitLetters, ih notMem.2]
      exact if_neg (Ne.symm notMem.1)

theorem splitLetters_append {separator : Char} {first second : List Char}
    (notInFirst : separator ∉ first) (notInSecond : separator ∉ second) :
    splitLetters separator (first ++ separator :: second) =
      [first, second] := by
  induction first with
  | nil =>
      rw [List.nil_append, splitLetters, splitLetters_of_notMem notInSecond]
      exact if_pos rfl
  | cons head tail ih =>
      rw [List.mem_cons, not_or] at notInFirst
      rw [List.cons_append, splitLetters, ih notInFirst.2]
      exact if_neg (Ne.symm notInFirst.1)

theorem notMem_of_mem_splitLetters {separator : Char} {letters part : List Char}
    (member : part ∈ splitLetters separator letters) : separator ∉ part := by
  induction letters generalizing part with
  | nil =>
      rw [splitLetters, List.mem_singleton] at member
      simp [member]
  | cons head tail ih =>
      rw [splitLetters] at member
      split at member
      · rw [List.mem_singleton] at member
        simp [member]
      · next first parts same =>
          have others : ∀ other ∈ first :: parts, separator ∉ other := by
            intro other inside
            exact ih (by rw [same]; exact inside)
          split_ifs at member with isSeparator
          · rcases List.mem_cons.mp member with rfl | member
            · exact List.not_mem_nil
            · exact others part member
          · rcases List.mem_cons.mp member with rfl | member
            · rw [List.mem_cons, not_or]
              exact ⟨Ne.symm isSeparator, others first (by simp)⟩
            · exact others part (by simp [member])

theorem trimLetters_of_notMem {letters : List Char} (notMem : ' ' ∉ letters) :
    trimLetters letters = letters := by
  have keep {list : List Char} (notMem : ' ' ∉ list) :
      list.dropWhile (fun letter => decide (letter = ' ')) = list := by
    cases list with
    | nil => rfl
    | cons head tail =>
        rw [List.mem_cons, not_or] at notMem
        simp [Ne.symm notMem.1]
  rw [trimLetters, keep notMem, keep (by simpa using notMem),
    List.reverse_reverse]

theorem mem_of_mem_trimLetters {letter : Char} {letters : List Char}
    (member : letter ∈ trimLetters letters) : letter ∈ letters := by
  rw [trimLetters, List.mem_reverse] at member
  have inside := (List.dropWhile_suffix _).mem member
  rw [List.mem_reverse] at inside
  exact (List.dropWhile_suffix _).mem inside

/-- Splitting at a letter is what is expected of `SplitStr`. -/
theorem splitAtLetter_splits : SplitsAtUnderline splitAtLetter where
  words first second firstWord secondWord := by
    have noBlank {word : String} (isWord : IsWord word) : ' ' ∉ word.toList :=
      fun member => (isWord.2 ' ' member).2 rfl
    have noSeparator {word : String} (isWord : IsWord word) :
        '_' ∉ word.toList :=
      fun member => (isWord.2 '_' member).1 rfl
    have letters : (first ++ "_" ++ second).toList =
        first.toList ++ '_' :: second.toList := by
      simp [String.toList_append]
    have whole : ' ' ∉ (first ++ "_" ++ second).toList := by
      rw [letters]
      simp [noBlank firstWord, noBlank secondWord]
    change ((((splitLetters '_' (trimLetters
      (first ++ "_" ++ second).toList)).map trimLetters).filter fun part =>
        false || !part.isEmpty).map String.ofList) = [first, second]
    rw [trimLetters_of_notMem whole, letters,
      splitLetters_append (noSeparator firstWord) (noSeparator secondWord)]
    simp [trimLetters_of_notMem (noBlank firstWord),
      trimLetters_of_notMem (noBlank secondWord), firstWord.1, secondWord.1]
  parts text part member := by
    change part ∈ ((((splitLetters '_' (trimLetters
      text.toList)).map trimLetters).filter fun part =>
        false || !part.isEmpty).map String.ofList) at member
    obtain ⟨trimmed, inside, rfl⟩ := List.mem_map.mp member
    obtain ⟨letters, isPart, rfl⟩ :=
      List.mem_map.mp (List.mem_filter.mp inside).1
    rw [String.toList_ofList]
    intro separator
    exact notMem_of_mem_splitLetters isPart (mem_of_mem_trimLetters separator)

/-- No number with a fraction is written here. -/
def noFloats : Floats where
  write _ := []
  read _ := 0

def music : BundleName := ⟨"com.example.music", by decide +kernel⟩

def underlined : BundleName := ⟨"com.example_music", by decide +kernel⟩

/-- A bundle that is disabled for a user is disabled and has an ability
disabled. -/
def disabledInfo : BundleUserInfo :=
  { userId := 100, enabled := false, disabledAbilities := ["Player"] }

theorem stateStorage_actsAsMap_iff_music :
    ActsAsMap noFloats splitAtLetter
        [.save music 100 disabledInfo, .delete music 100] ↔
      AllSafe noFloats [.save music 100 disabledInfo, .delete music 100] :=
  stateStorage_actsAsMap_iff noFloats splitAtLetter_splits _

/-- A saved entry is returned as the default one, a shorter entry makes the file
unreadable, and a name with the separator is not loaded. -/
theorem stateStorage_not_actsAsMap :
    ¬ActsAsMap noFloats splitAtLetter
        [.save music 100 disabledInfo, .get music 100] ∧
      ¬ActsAsMap noFloats splitAtLetter
        [.save music 100 disabledInfo, .save music 100 {}] ∧
      ¬ActsAsMap noFloats splitAtLetter [.save underlined 100 {}] := by
  refine ⟨?_, ?_, ?_⟩
  · intro acts
    obtain ⟨file, after, returned⟩ := acts.gets [.save music 100 disabledInfo]
      music 100 disabledInfo List.prefix_rfl (by decide +kernel)
    have computed : ((fileAfter noFloats [.save music 100 disabledInfo]).bind
        fun file => getBundleStateStorage noFloats music.name 100 file) =
          some (some {}) := by
      decide +kernel
    rw [after, Option.bind_some, returned] at computed
    exact absurd computed (by decide)
  · intro acts
    obtain ⟨file, after, loaded, infos, done, found⟩ :=
      acts.loads _ List.prefix_rfl
    have computed : ((fileAfter noFloats
        [.save music 100 disabledInfo, .save music 100 {}]).bind fun file =>
          (loadAllBundleStateData noFloats splitAtLetter file ∅).map
            fun result => result.2.find? music.name 100) = some none := by
      decide +kernel
    rw [after, Option.bind_some, done, Option.map_some, found] at computed
    exact absurd computed (by decide +kernel)
  · intro acts
    obtain ⟨file, after, loaded, infos, done, found⟩ :=
      acts.loads _ List.prefix_rfl
    have computed : ((fileAfter noFloats [.save underlined 100 {}]).bind
        fun file => (loadAllBundleStateData noFloats splitAtLetter file ∅).map
          fun result => result.2.find? underlined.name 100) = some none := by
      decide +kernel
    rw [after, Option.bind_some, done, Option.map_some, found] at computed
    exact absurd computed (by decide +kernel)

end AppExecFwk
