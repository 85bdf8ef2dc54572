import AppExecFwk.Library.RegexGrammar
import AppExecFwk.Query.SkillMatch

/-!
# The uris of a skill

A skill declares uris by a scheme, a host, a port and a path, a start of the path
or a pattern of the path.  With a pattern, the scheme, the host and the port
become part of the regular expression.  What is special there is special in them
as well, and a bar in the pattern makes them part of its first alternative only.
-/

namespace AppExecFwk

/-- `std::regex` on the bytes of two strings. -/
def regexMatch (lookupCollateName : List Char → Option Char)
    (pattern text : String) : Bool :=
  Regex.matchesAll lookupCollateName (Regex.units pattern) (Regex.units text)

namespace SkillUri

variable (skillUri : SkillUri)

/-- The scheme, the host and the port as they stand in a uri. -/
def authority : String :=
  skillUri.scheme ++ Skill.schemeSeparator ++ skillUri.host ++
    if skillUri.port ≠ "" then Skill.portSeparator ++ skillUri.port else ""

def hasPath : Bool :=
  skillUri.path ≠ "" || skillUri.pathStartWith ≠ "" || skillUri.pathRegex ≠ ""

variable (lookupCollateName : List Char → Option Char)

/-- The path is declared in one of the three ways. -/
def DeclaresPath (path : String) : Prop :=
  (skillUri.path ≠ "" ∧ path = skillUri.path) ∨
    (skillUri.pathStartWith ≠ "" ∧
      skillUri.pathStartWith.toList <+: path.toList) ∨
    (skillUri.pathRegex ≠ "" ∧
      regexMatch lookupCollateName skillUri.pathRegex path = true)

/-- The uri is literally of the declared scheme, host and port and has a declared
path.  Without a scheme no uri is declared, and without a host only the
scheme. -/
def Declares (uri : String) : Prop :=
  if skillUri.scheme = "" then uri = ""
  else if skillUri.host = "" then uri = skillUri.scheme
  else if skillUri.hasPath then
    ∃ path, uri = skillUri.authority ++ Skill.pathSeparator ++ path ∧
      skillUri.DeclaresPath lookupCollateName path
  else uri = skillUri.authority

/-- The text that is compiled to a regular expression. -/
def assembledPattern : String :=
  skillUri.authority ++ Skill.pathSeparator ++ skillUri.pathRegex

/-- No unit of the scheme, the host and the port is special. -/
def HasPlainAuthority : Prop :=
  (Regex.units skillUri.scheme).all (!Regex.isSyntaxUnit ·) = true ∧
    (Regex.units skillUri.host).all (!Regex.isSyntaxUnit ·) = true ∧
    (Regex.units skillUri.port).all (!Regex.isSyntaxUnit ·) = true

/-- The pattern of the path is one alternative on its own, and does not look for
the start of the path ahead. -/
def HasClosedPattern : Prop :=
  ∃ regex, Regex.read lookupCollateName (Regex.units skillUri.pathRegex) =
      some { first := regex } ∧
    regex.looksStartFree = true

/-- The pattern is not reached, or it matches nothing, or the rest of the uri
takes no part in it. -/
def HasSafePattern : Prop :=
  skillUri.scheme = "" ∨ skillUri.host = "" ∨ skillUri.pathRegex = "" ∨
    (∀ uri, regexMatch lookupCollateName skillUri.assembledPattern uri =
      false) ∨
    (skillUri.HasPlainAuthority ∧ skillUri.HasClosedPattern lookupCollateName)

variable {skillUri lookupCollateName}

theorem HasPlainAuthority.authority (plain : skillUri.HasPlainAuthority) :
    (Regex.units (skillUri.authority ++ Skill.pathSeparator)).all
      (!Regex.isSyntaxUnit ·) = true := by
  obtain ⟨scheme, host, port⟩ := plain
  have separators :
      (Regex.units Skill.schemeSeparator).all (!Regex.isSyntaxUnit ·) = true ∧
        (Regex.units Skill.portSeparator).all (!Regex.isSyntaxUnit ·) = true ∧
        (Regex.units Skill.pathSeparator).all (!Regex.isSyntaxUnit ·) =
          true := by
    decide +kernel
  obtain ⟨schemeSeparator, portSeparator, pathSeparator⟩ := separators
  unfold SkillUri.authority
  split
  · simp only [Regex.units_append, List.all_append, scheme, host, port,
      schemeSeparator, portSeparator, pathSeparator, Bool.and_self]
  · simp only [Regex.units_append, List.all_append, scheme, host,
      schemeSeparator, pathSeparator, Bool.and_self, Bool.and_true,
      Bool.true_and]
    rfl

/-- Behind a plain authority the pattern is matched as it stands. -/
theorem exists_path_of_regexMatch (plain : skillUri.HasPlainAuthority)
    (closed : skillUri.HasClosedPattern lookupCollateName) {uri : String}
    (found : regexMatch lookupCollateName skillUri.assembledPattern uri =
      true) :
    ∃ path, uri = skillUri.authority ++ Skill.pathSeparator ++ path ∧
      regexMatch lookupCollateName skillUri.pathRegex path = true := by
  obtain ⟨regex, alone, looks⟩ := closed
  have start := plain.authority
  unfold regexMatch Regex.matchesAll assembledPattern at found
  rw [Regex.units_append, Regex.read_append start alone, Option.any_some]
    at found
  obtain ⟨⟨rest, split⟩, later⟩ := Regex.run_literals found
  obtain ⟨path, same, units⟩ := Regex.exists_of_units split.symm
  refine ⟨path, same, ?_⟩
  unfold regexMatch Regex.matchesAll
  rw [alone, Option.any_some, units]
  -- The pattern is matched behind a slash, which is no letter of a word.
  have slash : Regex.units Skill.pathSeparator = ['/'] := by
    decide +kernel
  have last : (Regex.units (skillUri.authority ++ Skill.pathSeparator)).reverse =
      '/' :: (Regex.units skillUri.authority).reverse := by
    rw [Regex.units_append, slash, List.reverse_append]
    rfl
  have apart : Regex.touchesWord
      ('/' :: (Regex.units skillUri.authority).reverse) = false :=
    rfl
  have place : (Regex.Place.advance { before := [], after := Regex.units uri }
      (Regex.units (skillUri.authority ++ Skill.pathSeparator)).length) =
        { before := '/' :: (Regex.units skillUri.authority).reverse
          after := rest } := by
    change Regex.Place.mk _ _ _ = _
    rw [← split, List.take_left, List.drop_left, last, List.append_nil]
  rw [place] at later
  exact Regex.accepts_of_run apart (List.cons_ne_nil _ _) looks later

/-- Of a safe pattern only declared uris are accepted. -/
theorem matchUri_sound (safe : skillUri.HasSafePattern lookupCollateName)
    (uri : String)
    (accepted : Skill.matchUri (regexMatch lookupCollateName) uri skillUri =
      true) : skillUri.Declares lookupCollateName uri := by
  unfold Skill.matchUri at accepted
  unfold Declares
  by_cases scheme : skillUri.scheme = ""
  · rw [if_pos scheme] at accepted ⊢
    exact of_decide_eq_true accepted
  rw [if_neg scheme] at accepted ⊢
  by_cases host : skillUri.host = ""
  · rw [if_pos host] at accepted ⊢
    exact of_decide_eq_true accepted
  rw [if_neg host] at accepted ⊢
  change (if _ then decide (uri = skillUri.authority) else _) = true at accepted
  by_cases hasPath : skillUri.hasPath = true
  · rw [if_pos hasPath]
    have declared : ¬(skillUri.path = "" && skillUri.pathStartWith = "" &&
        skillUri.pathRegex = "") = true := by
      simpa [SkillUri.hasPath, or_assoc, imp_iff_not_or] using hasPath
    rw [if_neg declared, Bool.or_eq_true, Bool.or_eq_true] at accepted
    rcases accepted with (path | start) | pattern
    · obtain ⟨named, same⟩ := Bool.and_eq_true_iff.mp path
      exact ⟨_, of_decide_eq_true same, .inl ⟨of_decide_eq_true named, rfl⟩⟩
    · obtain ⟨named, begins⟩ := Bool.and_eq_true_iff.mp start
      obtain ⟨rest, joined⟩ := Text.prefix_of_find (of_decide_eq_true begins)
      refine ⟨skillUri.pathStartWith ++ String.ofList rest, ?_,
        .inr (.inl ⟨of_decide_eq_true named, ?_⟩)⟩
      · apply String.toList_inj.mp
        rw [← joined]
        simp [SkillUri.authority, String.toList_append]
      · rw [String.toList_append]
        exact List.prefix_append _ _
    · obtain ⟨named, found⟩ := Bool.and_eq_true_iff.mp pattern
      have named := of_decide_eq_true named
      rcases safe with absent | absent | absent | nothing | ⟨plain, closed⟩
      · exact absurd absent scheme
      · exact absurd absent host
      · exact absurd absent named
      · have refused := nothing uri
        rw [SkillUri.assembledPattern] at refused
        exact absurd (found.symm.trans refused) Bool.noConfusion
      · obtain ⟨path, same, matched⟩ :=
          exists_path_of_regexMatch plain closed found
        exact ⟨path, same, .inr (.inr ⟨named, matched⟩)⟩
  · rw [if_neg hasPath]
    have undeclared : (skillUri.path = "" && skillUri.pathStartWith = "" &&
        skillUri.pathRegex = "") = true := by
      simpa [SkillUri.hasPath, and_assoc] using hasPath
    rw [if_pos undeclared] at accepted
    exact of_decide_eq_true accepted

/-- The host has no dot. -/
def localMusic : SkillUri where
  scheme := "https"
  host := "localhost"
  port := "8080"
  pathRegex := "music/[0-9]+(\\.mp3)?"

theorem matchUri_sound_localMusic :
    Skill.matchUri (regexMatch fun _ => none)
        "https://localhost:8080/music/42.mp3" localMusic = true ∧
      localMusic.Declares (fun _ => none)
        "https://localhost:8080/music/42.mp3" := by
  have accepted : Skill.matchUri (regexMatch fun _ => none)
      "https://localhost:8080/music/42.mp3" localMusic = true := by
    decide +kernel
  have closed : (Regex.read (fun _ => none)
      (Regex.units localMusic.pathRegex)).any (fun pattern =>
        pattern.others.isEmpty && pattern.first.looksStartFree) = true := by
    decide +kernel
  refine ⟨accepted, matchUri_sound ?_ _ accepted⟩
  refine .inr (.inr (.inr (.inr ⟨by unfold HasPlainAuthority; decide +kernel,
    ?_⟩)))
  obtain ⟨⟨regex, others⟩, read, pattern⟩ := (Option.any_eq_true _ _).mp closed
  obtain ⟨alone, looks⟩ := Bool.and_eq_true_iff.mp pattern
  obtain rfl : others = [] := List.isEmpty_iff.mp alone
  exact ⟨regex, read, looks⟩

/-- The dots of the host stand for any unit. -/
def exampleMusic : SkillUri where
  scheme := "https"
  host := "www.example.com"
  pathRegex := "music"

theorem matchUri_unsound :
    ¬∀ lookupCollateName skillUri uri,
      Skill.matchUri (regexMatch lookupCollateName) uri skillUri = true →
        skillUri.Declares lookupCollateName uri := by
  intro sound
  have accepted : Skill.matchUri (regexMatch fun _ => none)
      "https://www-example.com/music" exampleMusic = true := by
    decide +kernel
  obtain ⟨path, same, -⟩ := sound _ _ _ accepted
  have start : exampleMusic.authority.toList <+:
      "https://www-example.com/music".toList := by
    rw [same, String.toList_append, String.toList_append, List.append_assoc]
    exact List.prefix_append _ _
  revert start
  decide +kernel

end SkillUri

end AppExecFwk
