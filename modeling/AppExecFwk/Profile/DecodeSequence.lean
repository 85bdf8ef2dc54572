import AppExecFwk.Profile.BundleProfile
import AppExecFwk.Profile.ModuleProfile

/-!
# Documents decoded one after another

A thread of the service decodes stored entries and profiles one after another
and hands the shared result variables from each decode to the next.  The
outcome of a decode depends on its own document alone as long as no document
before it left an error in one of them.
-/

namespace AppExecFwk

/-- A document to decode. -/
inductive Document where
  | storedEntry (entry : Entry)
  | configJson (source : Option Json)
  | moduleJson (source : Option Json)

/-- What comes of a decode that ends. -/
inductive DecodeOutcome where
  | storedEntry (loaded : Option InnerBundleInfo)
  | profile (result : ErrCode) (innerBundleInfo : InnerBundleInfo)

/-- How decoded profiles are made into bundle information objects. -/
structure ProfileConversions where
  fromConfigJson : ProfileReader.ConfigJson → InnerBundleInfo →
    Bool × InnerBundleInfo
  fromModuleJson : Profile.ModuleJson → InnerBundleInfo →
    Bool × InnerBundleInfo

section Decoding

variable (conversions : ProfileConversions)

def Document.decode : Document → Decode DecodeOutcome
  | storedEntry entry => do
      return .storedEntry (← saveEntry entry)
  | configJson source => do
      let (result, innerBundleInfo) ←
        BundleProfile.transformTo conversions.fromConfigJson source {}
      return .profile result innerBundleInfo
  | moduleJson source => do
      let (result, innerBundleInfo) ←
        ModuleProfile.transformTo conversions.fromModuleJson source {}
      return .profile result innerBundleInfo

/-- Decode in turn and hand the shared variables on; an exception that a decode
throws ends the process. -/
def decodeSequence :
    List Document → ParseResults → List (Except JsonException DecodeOutcome)
  | [], _ => []
  | document :: rest, results =>
      match document.decode conversions
          { results with here := ErrCode.ok } with
      | (.ok outcome, after) => .ok outcome :: decodeSequence rest after
      | (.error exception, _) => [.error exception]

/-- The outcome of a document that nothing was decoded before. -/
def Document.decodeAlone (document : Document) :
    Except JsonException DecodeOutcome :=
  (document.decode conversions {}).1

/-- The outcomes of a process that the first exception ends. -/
def untilException :
    List (Except JsonException DecodeOutcome) →
      List (Except JsonException DecodeOutcome)
  | [] => []
  | .ok outcome :: rest => .ok outcome :: untilException rest
  | .error exception :: _ => [.error exception]

end Decoding

/-- The members that are read through the shared variable of the profile reader
and that nothing resets it after have the types they are read as.  Decoding a
`config.json` ends with a reset. -/
def Document.isShareTyped : Document → Bool
  | storedEntry entry => entry.value.all InnerBundleInfo.isTailTyped
  | configJson _ => true
  | moduleJson source => source.all Profile.ModuleJson.isTyped

section Independence

variable {conversions : ProfileConversions}

theorem saveEntry_preserves_readerClean {entry : Entry}
    (typed : entry.value.all InnerBundleInfo.isTailTyped = true) :
    Preserves ReaderClean (saveEntry entry) := by
  unfold saveEntry
  split
  · exact Preserves.pure _
  · next json present =>
      have tail : InnerBundleInfo.isTailTyped json = true := by
        simpa [present] using typed
      refine Preserves.bind
        (InnerBundleInfo.establishes_of_isTailTyped tail).preserves fun _ => ?_
      dsimp only
      split <;> exact Preserves.pure _

theorem saveEntry_preserves_profileClean (entry : Entry) :
    Preserves ProfileClean (saveEntry entry) := by
  unfold saveEntry
  split
  · exact Preserves.pure _
  · refine Preserves.bind (PreservesAll.preserves _) fun _ => ?_
    dsimp only
    split <;> exact Preserves.pure _

/-- A profile that was decoded is converted without any result variable. -/
theorem preserves_conversion {condition : ParseResults → Prop}
    {rejected converted : Prop} [Decidable rejected] [Decidable converted]
    (first second third : ErrCode × InnerBundleInfo) :
    Preserves condition
      (if rejected then pure first
        else if converted then pure second else pure third :
          Decode (ErrCode × InnerBundleInfo)) := by
  split
  · exact Preserves.pure _
  · split <;> exact Preserves.pure _

theorem bundleProfile_preserves {condition : ParseResults → Prop}
    [Unaffected condition .reader] [Unaffected condition .here]
    (source : Option Json) (innerBundleInfo : InnerBundleInfo) :
    Preserves condition (BundleProfile.transformTo conversions.fromConfigJson
      source innerBundleInfo) := by
  unfold BundleProfile.transformTo
  split
  · exact Preserves.pure _
  · refine Preserves.bind (PreservesAll.preserves _) fun _ => ?_
    refine Preserves.takeResult.bind fun _ => ?_
    exact preserves_conversion _ _ _

theorem bundleProfile_preserves_readerClean (source : Option Json)
    (innerBundleInfo : InnerBundleInfo) :
    Preserves ReaderClean (BundleProfile.transformTo
      conversions.fromConfigJson source innerBundleInfo) := by
  unfold BundleProfile.transformTo
  split
  · exact Preserves.pure _
  · refine Establishes.preserves (Establishes.bind fun _ => ?_)
    exact Establishes.takeReader fun _ => preserves_conversion _ _ _

theorem moduleProfile_preserves_readerClean {source : Option Json}
    (typed : source.all Profile.ModuleJson.isTyped = true)
    (innerBundleInfo : InnerBundleInfo) :
    Preserves ReaderClean (ModuleProfile.transformTo
      conversions.fromModuleJson source innerBundleInfo) := by
  unfold ModuleProfile.transformTo
  split
  · exact Preserves.pure _
  · next json =>
      refine Preserves.bind
        (Profile.ModuleJson.preserves_of_isTyped typed) fun _ => ?_
      refine Preserves.takeResult.bind fun _ => ?_
      exact preserves_conversion _ _ _

theorem moduleProfile_preserves_profileClean (source : Option Json)
    (innerBundleInfo : InnerBundleInfo) :
    Preserves ProfileClean (ModuleProfile.transformTo
      conversions.fromModuleJson source innerBundleInfo) := by
  unfold ModuleProfile.transformTo
  split
  · exact Preserves.pure _
  · refine Establishes.preserves (Establishes.bind fun _ => ?_)
    exact Establishes.takeProfile fun _ => preserves_conversion _ _ _

theorem Document.decode_preserves_readerClean {document : Document}
    (typed : document.isShareTyped = true) :
    Preserves ReaderClean (document.decode conversions) := by
  cases document with
  | storedEntry entry =>
      exact (saveEntry_preserves_readerClean typed).bind fun _ =>
        Preserves.pure _
  | configJson source =>
      exact (bundleProfile_preserves_readerClean source {}).bind fun _ =>
        Preserves.pure _
  | moduleJson source =>
      exact (moduleProfile_preserves_readerClean typed {}).bind fun _ =>
        Preserves.pure _

theorem Document.decode_preserves_profileClean (document : Document) :
    Preserves ProfileClean (document.decode conversions) := by
  cases document with
  | storedEntry entry =>
      exact (saveEntry_preserves_profileClean entry).bind fun _ =>
        Preserves.pure _
  | configJson source =>
      exact (bundleProfile_preserves source {}).bind fun _ => Preserves.pure _
  | moduleJson source =>
      exact (moduleProfile_preserves_profileClean source {}).bind fun _ =>
        Preserves.pure _

/-- The shared variables of a thread that no decode has left an error in. -/
theorem eq_initial_of_clean {results : ParseResults}
    (reader : ReaderClean results) (profile : ProfileClean results) :
    { results with here := ErrCode.ok } = ({} : ParseResults) := by
  cases results
  simp_all [ReaderClean, ProfileClean]

theorem decodeSequence_of_clean (documents : List Document)
    (results : ParseResults) (reader : ReaderClean results)
    (profile : ProfileClean results)
    (typed : ∀ document ∈ documents.dropLast, document.isShareTyped = true) :
    decodeSequence conversions documents results =
      untilException (documents.map (Document.decodeAlone conversions)) := by
  induction documents generalizing results with
  | nil => rfl
  | cons document rest ih =>
      simp only [decodeSequence, eq_initial_of_clean reader profile,
        List.map_cons]
      cases decoded : document.decode conversions {} with
      | mk outcome after =>
          cases outcome with
          | error exception =>
              simp [Document.decodeAlone, decoded, untilException]
          | ok outcome =>
              simp only [Document.decodeAlone, decoded, untilException,
                List.cons.injEq, true_and]
              cases rest with
              | nil => rfl
              | cons next others =>
                  have own : document.isShareTyped = true :=
                    typed document (by simp)
                  refine ih after ?_ ?_ fun other member =>
                    typed other (by simp_all)
                  · exact Document.decode_preserves_readerClean own {} outcome
                      after rfl decoded
                  · exact Document.decode_preserves_profileClean document {}
                      outcome after rfl decoded

/-- Every outcome of a sequence of decodes is that of its own document, if
the documents that others follow read well typed members through the shared
variable. -/
theorem decodeSequence_eq_alone (documents : List Document)
    (typed : ∀ document ∈ documents.dropLast, document.isShareTyped = true) :
    decodeSequence conversions documents {} =
      untilException (documents.map (Document.decodeAlone conversions)) :=
  decodeSequence_of_clean documents {} rfl rfl typed

end Independence

/-- Conversions that refuse every profile. -/
def refuseProfiles : ProfileConversions where
  fromConfigJson _ innerBundleInfo := (false, innerBundleInfo)
  fromModuleJson _ innerBundleInfo := (false, innerBundleInfo)

/-- A record whose application index is a text. -/
def mistypedEntry : Document :=
  .storedEntry ⟨"mistyped", some (.object [("appIndex", .string "1")])⟩

/-- A record as it was stored. -/
def storedEntry (innerBundleInfo : InnerBundleInfo) : Document :=
  .storedEntry ⟨innerBundleInfo.getBundleName, some innerBundleInfo.toJson⟩

theorem decodeSequence_eq_alone_stored :
    decodeSequence refuseProfiles [storedEntry {}, mistypedEntry] {} =
      untilException ([storedEntry {}, mistypedEntry].map
        (Document.decodeAlone refuseProfiles)) :=
  decodeSequence_eq_alone _ (by
    intro document member
    obtain rfl : document = storedEntry {} := by simpa using member
    rfl)

/-- The mistyped record leaves an error behind that has the next one deleted,
although its own decode succeeds. -/
theorem decodeSequence_mistyped_not_alone :
    ¬∀ conversions documents, decodeSequence conversions documents {} =
      untilException (documents.map (Document.decodeAlone conversions)) := by
  intro alone
  have both := alone refuseProfiles [mistypedEntry, storedEntry {}]
  have deleted : decodeSequence refuseProfiles [mistypedEntry, storedEntry {}]
      {} = [.ok (.storedEntry none), .ok (.storedEntry none)] := by
    rfl
  have kept : untilException ([mistypedEntry, storedEntry {}].map
      (Document.decodeAlone refuseProfiles)) =
      [.ok (.storedEntry none),
        .ok (.storedEntry (some ({} : InnerBundleInfo).persisted))] := by
    rfl
  rw [deleted, kept] at both
  cases both

end AppExecFwk
