import Mathlib.Tactic.Common

/-!
# Regular expressions

The regular expressions of ECMAScript, as the C++ standard library has them, and
their matching by backtracking.  The units of a text are characters.  A pattern
is matched at a place in a text, and what follows the pattern is a continuation
that accepts or refuses the place behind it; the first way of matching that is
accepted is taken.

A pattern is matched in a text just as it is matched in what follows a prefix of
the text, if the prefix ends in no letter of a word.  Only the start of the text
is seen there no more.
-/

/-- A pattern.  Groups are numbered by their opening brackets. -/
inductive Regex where
  | empty
  | one (accepts : Char → Bool)
  | textStart
  | textEnd
  | wordBoundary (expected : Bool)
  | lookahead (expected : Bool) (inner : Regex)
  | backReference (index : Nat)
  | seq (first second : Regex)
  | alt (first second : Regex)
  | group (index : Option Nat) (inner : Regex)
  | loop (inner : Regex) (least : Nat) (most : Option Nat) (isGreedy : Bool)
      (groups : List Nat)

namespace Regex

/-- A place in a text, with the units before it, the nearest first, and what the
groups have captured. -/
structure Place where
  before : List Char
  after : List Char
  captures : Nat → Option (List Char) := fun _ => none

namespace Place

variable (place : Place)

def advance (count : Nat) : Place :=
  { place with
    before := (place.after.take count).reverse ++ place.before
    after := place.after.drop count }

theorem advance_advance (first second : Nat) :
    (place.advance first).advance second = place.advance (first + second) := by
  simp [advance, List.take_add]

/-- The group has captured what lies between two places. -/
def capture (index : Option Nat) (start : Place) : Place :=
  match index with
  | none => place
  | some index =>
      { place with
        captures := Function.update place.captures index (some
          (start.after.take (start.after.length - place.after.length))) }

/-- The captures of the groups in a loop are lost with every round. -/
def forget (groups : List Nat) : Place :=
  { place with
    captures := fun index =>
      if groups.contains index then none else place.captures index }

end Place

/-- A letter of a word in the C locale. -/
def isWord (unit : Char) : Bool :=
  unit.isAlphanum || unit == '_'

/-- The nearest unit is a letter of a word. -/
def touchesWord (units : List Char) : Bool :=
  units.head?.any isWord

/-- Rounds of a loop.  After the least number of rounds each one has to consume
something, so that there are no more of them than units and required rounds. -/
def runLoop (round : Place → (Place → Option Place) → Option Place)
    (groups : List Nat) (isGreedy : Bool) :
    Nat → Nat → Option Nat → Place → (Place → Option Place) → Option Place
  | 0, _, _, _, _ => none
  | fuel + 1, least, most, place, next =>
      if most = some 0 then next place
      else
        let again := round (place.forget groups) fun later =>
          if least = 0 ∧ later.after.length = place.after.length then none
          else runLoop round groups isGreedy fuel (least - 1) (most.map (· - 1))
            later next
        if 0 < least then again
        else if isGreedy then again.or (next place)
        else (next place).or again

/-- The place that the continuation accepts first. -/
def run : Regex → Place → (Place → Option Place) → Option Place
  | empty, place, next => next place
  | one accepts, place, next =>
      if place.after.head?.any accepts then next (place.advance 1) else none
  | textStart, place, next => if place.before.isEmpty then next place else none
  | textEnd, place, next => if place.after.isEmpty then next place else none
  | wordBoundary expected, place, next =>
      if (touchesWord place.before != touchesWord place.after) = expected then
        next place
      else none
  | lookahead expected inner, place, next =>
      match inner.run place some with
      | none => if expected then none else next place
      | some later =>
          if expected then next { place with captures := later.captures }
          else none
  | backReference index, place, next =>
      match place.captures index with
      | none => next place
      | some text =>
          if text.isPrefixOf place.after then next (place.advance text.length)
          else none
  | seq first second, place, next =>
      first.run place fun later => second.run later next
  | alt first second, place, next =>
      (first.run place next).or (second.run place next)
  | group index inner, place, next =>
      inner.run place fun later => next (later.capture index place)
  | loop inner least most isGreedy groups, place, next =>
      runLoop inner.run groups isGreedy (place.after.length + least + 1) least
        most place next

/-- The end of the text is accepted. -/
def atEnd (place : Place) : Option Place :=
  if place.after.isEmpty then some place else none

/-- The pattern matches the text as a whole. -/
def accepts (regex : Regex) (text : List Char) : Bool :=
  (regex.run { before := [], after := text } atEnd).isSome

/-- The pattern does not ask for the start of the text. -/
def isStartFree : Regex → Bool
  | textStart => false
  | lookahead _ inner | group _ inner | loop inner _ _ _ _ => inner.isStartFree
  | seq first second | alt first second =>
      first.isStartFree && second.isStartFree
  | empty | one _ | textEnd | wordBoundary _ | backReference _ => true

/-- The pattern asks for the start of the text only outside of lookaheads. -/
def looksStartFree : Regex → Bool
  | lookahead _ inner => inner.isStartFree
  | group _ inner | loop inner _ _ _ _ => inner.looksStartFree
  | seq first second | alt first second =>
      first.looksStartFree && second.looksStartFree
  | empty | one _ | textStart | textEnd | wordBoundary _ | backReference _ =>
      true

theorem looksStartFree_of_isStartFree {regex : Regex}
    (free : regex.isStartFree = true) : regex.looksStartFree = true := by
  induction regex with
  | lookahead _ inner _ => exact free
  | group _ inner ih => exact ih free
  | loop inner _ _ _ _ ih => exact ih free
  | seq first second ih ih' =>
      obtain ⟨left, right⟩ := Bool.and_eq_true_iff.mp free
      exact Bool.and_eq_true_iff.mpr ⟨ih left, ih' right⟩
  | alt first second ih ih' =>
      obtain ⟨left, right⟩ := Bool.and_eq_true_iff.mp free
      exact Bool.and_eq_true_iff.mpr ⟨ih left, ih' right⟩
  | empty | one | textStart | textEnd | wordBoundary | backReference => rfl

/-- The same place in a text without a prefix, of which the units are given from
the last one on. -/
structure IsBehind (gone : List Char) (place alone : Place) : Prop where
  before : place.before = alone.before ++ gone
  after : place.after = alone.after
  captures : place.captures = alone.captures

namespace IsBehind

variable {gone : List Char} {place alone start start' : Place}

theorem advance (behind : IsBehind gone place alone) (count : Nat) :
    IsBehind gone (place.advance count) (alone.advance count) where
  before := by
    simp only [Place.advance, behind.before, behind.after, List.append_assoc]
  after := by simp only [Place.advance, behind.after]
  captures := behind.captures

theorem capture (behind : IsBehind gone place alone)
    (started : IsBehind gone start start') (index : Option Nat) :
    IsBehind gone (place.capture index start) (alone.capture index start') := by
  cases index with
  | none => exact behind
  | some index =>
      exact {
        before := behind.before
        after := behind.after
        captures := by
          simp only [Place.capture, behind.captures, behind.after,
            started.after] }

theorem forget (behind : IsBehind gone place alone) (groups : List Nat) :
    IsBehind gone (place.forget groups) (alone.forget groups) where
  before := behind.before
  after := behind.after
  captures := by simp only [Place.forget, behind.captures]

theorem touchesWord_before (behind : IsBehind gone place alone)
    (apart : touchesWord gone = false) :
    touchesWord place.before = touchesWord alone.before := by
  rw [behind.before]
  cases alone.before with
  | nil => exact apart
  | cons unit rest => rfl

end IsBehind

/-- A relation of outcomes that does not mind alternatives. -/
structure IsKept (related : Option Place → Option Place → Prop) : Prop where
  none : related none none
  or : ∀ {first first' second second'}, related first first' →
    related second second' → related (first.or second) (first'.or second')

/-- Both fail, or both end at the same place. -/
theorem isKept_rel (gone : List Char) : IsKept (Option.Rel (IsBehind gone)) where
  none := .none
  or := by
    intro first first' second second' ends ends'
    cases ends with
    | none => exact ends'
    | some behind => exact .some behind

/-- The second succeeds if the first does. -/
theorem isKept_isSome : IsKept fun outcome outcome' =>
    outcome.isSome = true → outcome'.isSome = true where
  none := id
  or := by
    intro first first' second second' ends ends' found
    rw [Option.isSome_or, Bool.or_eq_true] at found ⊢
    exact found.imp ends ends'

section Related

variable {gone : List Char} {related : Option Place → Option Place → Prop}

/-- The continuations are related at the same place. -/
def AreRelated (gone : List Char)
    (related : Option Place → Option Place → Prop)
    (next next' : Place → Option Place) : Prop :=
  ∀ {place alone}, IsBehind gone place alone →
    related (next place) (next' alone)

theorem runLoop_related (kept : IsKept related)
    {round : Place → (Place → Option Place) → Option Place}
    (step : ∀ {place alone next next'}, IsBehind gone place alone →
      AreRelated gone related next next' →
        related (round place next) (round alone next'))
    (groups : List Nat) (isGreedy : Bool) (fuel least : Nat) (most : Option Nat)
    {place alone : Place} (behind : IsBehind gone place alone)
    {next next' : Place → Option Place}
    (continued : AreRelated gone related next next') :
    related (runLoop round groups isGreedy fuel least most place next)
      (runLoop round groups isGreedy fuel least most alone next') := by
  induction fuel generalizing least most place alone with
  | zero => exact kept.none
  | succ fuel ih =>
      unfold runLoop
      split
      · exact continued behind
      · have rounds : AreRelated gone related
            (fun later =>
              if least = 0 ∧ later.after.length = place.after.length then none
              else runLoop round groups isGreedy fuel (least - 1)
                (most.map (· - 1)) later next)
            (fun later =>
              if least = 0 ∧ later.after.length = alone.after.length then none
              else runLoop round groups isGreedy fuel (least - 1)
                (most.map (· - 1)) later next') := by
          intro later later' behind'
          dsimp only
          rw [behind.after, behind'.after]
          split
          · exact kept.none
          · exact ih _ _ behind'
        have again := step (behind.forget groups) rounds
        split
        · exact again
        · split
          · exact kept.or again (continued behind)
          · exact kept.or (continued behind) again

/-- A pattern is matched as in the text without the prefix, if it does not ask
for the start of the text or failing there is all the same. -/
theorem run_related (apart : touchesWord gone = false) (prefixed : gone ≠ [])
    {regex : Regex} (looks : regex.looksStartFree = true)
    (kept : IsKept related)
    (free : regex.isStartFree = true ∨ ∀ outcome, related none outcome)
    {place alone : Place} (behind : IsBehind gone place alone)
    {next next' : Place → Option Place}
    (continued : AreRelated gone related next next') :
    related (regex.run place next) (regex.run alone next') := by
  induction regex generalizing related place alone next next' with
  | empty => exact continued behind
  | one accepts =>
      unfold run
      rw [behind.after]
      split
      · exact continued (behind.advance 1)
      · exact kept.none
  | textStart =>
      obtain impossible | failing := free
      · cases impossible
      · have notThere : place.before.isEmpty = false := by
          rw [behind.before]
          simp [prefixed]
        unfold run
        rw [notThere, if_neg Bool.false_ne_true]
        exact failing _
  | textEnd =>
      unfold run
      rw [behind.after]
      split
      · exact continued behind
      · exact kept.none
  | wordBoundary expected =>
      unfold run
      rw [behind.after, behind.touchesWord_before apart]
      split
      · exact continued behind
      · exact kept.none
  | lookahead expected inner ih =>
      -- The lookahead itself ends at the same place in both texts.
      have same : Option.Rel (IsBehind gone) (inner.run place some)
          (inner.run alone some) :=
        ih (looksStartFree_of_isStartFree looks) (isKept_rel gone) (.inl looks)
          behind fun behind => .some behind
      unfold run
      generalize inner.run place some = ended at same ⊢
      generalize inner.run alone some = ended' at same ⊢
      cases same with
      | none =>
          dsimp only
          split
          · exact kept.none
          · exact continued behind
      | some ended =>
          dsimp only
          split
          · exact continued { behind with captures := ended.captures }
          · exact kept.none
  | backReference index =>
      unfold run
      rw [behind.captures, behind.after]
      split
      · exact continued behind
      · split
        · exact continued (behind.advance _)
        · exact kept.none
  | seq first second ih ih' =>
      obtain ⟨left, right⟩ := Bool.and_eq_true_iff.mp looks
      have parts := free.imp_left Bool.and_eq_true_iff.mp
      apply ih left kept (parts.imp_left And.left) behind
      intro place alone behind
      exact ih' right kept (parts.imp_left And.right) behind continued
  | alt first second ih ih' =>
      obtain ⟨left, right⟩ := Bool.and_eq_true_iff.mp looks
      have parts := free.imp_left Bool.and_eq_true_iff.mp
      exact kept.or (ih left kept (parts.imp_left And.left) behind continued)
        (ih' right kept (parts.imp_left And.right) behind continued)
  | group index inner ih =>
      apply ih looks kept free behind
      intro later later' behind'
      exact continued (behind'.capture behind index)
  | loop inner least most isGreedy groups ih =>
      unfold run
      rw [behind.after]
      apply runLoop_related kept _ _ _ _ _ _ behind continued
      intro place alone next next' behind continued
      exact ih looks kept free behind continued

end Related

/-- What is accepted behind a prefix is accepted alone. -/
theorem accepts_of_run {regex : Regex} {gone text : List Char}
    (apart : touchesWord gone = false) (prefixed : gone ≠ [])
    (looks : regex.looksStartFree = true)
    (found : (regex.run { before := gone, after := text } atEnd).isSome = true) :
    regex.accepts text = true := by
  have continued : AreRelated gone (fun outcome outcome' =>
      outcome.isSome = true → outcome'.isSome = true) atEnd atEnd := by
    intro place alone behind
    unfold atEnd
    rw [behind.after]
    split <;> simp
  have behind : IsBehind gone { before := gone, after := text }
      { before := [], after := text } :=
    ⟨rfl, rfl, rfl⟩
  exact run_related apart prefixed looks isKept_isSome
    (.inr fun _ impossible => by cases impossible) behind continued found

end Regex
