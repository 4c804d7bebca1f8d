import Packrat.Leaf
import Packrat.Proofs.Text.Offsets

/-!
# What is relied on in a pattern language

What an expression means, and what of that a language of patterns keeps to when expressions
are put together: it finds what is leftmost; a group means what the expression in it means;
and the sign for the start of a text takes nothing but holds only there.  A pattern is put
into a group behind that sign, so what is found is what the expression takes at the start.

An expression may close a group that it did not open.  It is not well formed then, but what
it is put into may be.
-/

namespace Packrat

/-- What expressions mean: which of them are well formed, which of them are small enough,
and which part of the rest of a text one of them takes, given the characters before. -/
structure PatternMeaning where
  valid : String → Prop
  fits : String → Prop
  takes : String → List Char → List Char → Option (List Char)

namespace PatternMeaning

/-- An expression in a group. -/
def group (expression : String) : String := "(?:" ++ expression ++ ")"

/-- Where some characters start and stop in a text, with others before them. -/
def ends (before found : List Char) : Nat × Nat :=
  (Text.byteLength before, Text.byteLength (before ++ found))

/-- The ends of what is taken first, going on from place to place. -/
def search (takes : List Char → List Char → Option (List Char)) (before : List Char) :
    List Char → Option (Nat × Nat)
  | [] => (takes before []).map (ends before)
  | c :: rest =>
    ((takes before (c :: rest)).map (ends before)).or (search takes (before ++ [c]) rest)

section Search

variable {takes : List Char → List Char → Option (List Char)} {before rest : List Char}

theorem search_eq_none (never : ∀ before rest, before ≠ [] → takes before rest = none)
    (notFirst : before ≠ []) : search takes before rest = none := by
  induction rest generalizing before with
  | nil => rw [search, never _ _ notFirst, Option.map_none]
  | cons c rest induction =>
      rw [search, never _ _ notFirst, Option.map_none, Option.none_or]
      exact induction (List.append_ne_nil_of_right_ne_nil before (List.cons_ne_nil c []))

/-- What is only taken at the start of a text is looked for there alone. -/
theorem search_start (never : ∀ before rest, before ≠ [] → takes before rest = none)
    (text : List Char) : search takes [] text = (takes [] text).map (ends []) := by
  cases text with
  | nil => rfl
  | cons c rest =>
      have later : search takes [c] rest = none := search_eq_none never (List.cons_ne_nil c [])
      rw [search, List.nil_append, later, Option.or_none]

variable (within : ∀ before rest found, takes before rest = some found → found <+: rest)

include within

theorem exists_of_takes {place : Nat × Nat}
    (isFound : (takes before rest).map (ends before) = some place) :
    ∃ skipped found after, rest = skipped ++ found ++ after ∧
      place = ends (before ++ skipped) found := by
  obtain ⟨found, taken, rfl⟩ := Option.map_eq_some_iff.mp isFound
  obtain ⟨after, whole⟩ := within _ _ _ taken
  exact ⟨[], found, after, whole.symm, by rw [List.append_nil]⟩

/-- A search finds whole characters. -/
theorem exists_of_search {place : Nat × Nat} (isFound : search takes before rest = some place) :
    ∃ skipped found after, rest = skipped ++ found ++ after ∧
      place = ends (before ++ skipped) found := by
  induction rest generalizing before with
  | nil => exact exists_of_takes within isFound
  | cons c rest induction =>
      rcases Option.or_eq_some_iff.mp isFound with here | ⟨_, later⟩
      · exact exists_of_takes within here
      · obtain ⟨skipped, found, after, rfl, rfl⟩ := induction later
        exact ⟨c :: skipped, found, after, rfl, by rw [List.append_assoc, List.singleton_append]⟩

end Search

variable (meaning : PatternMeaning)

/-- Something in front of an expression is well formed, and what follows it closes a group
that is not open. -/
def Overcloses (expression : String) : Prop :=
  ∃ first rest, expression = first ++ ")" ++ rest ∧ meaning.valid first ∧
    ¬meaning.valid (first ++ ")")

/-- A group that an expression is put into is closed behind it: the expression is well formed,
and does not take in what would close the group. -/
structure Enclosable (expression : String) : Prop where
  valid : meaning.valid expression
  leaves : ¬meaning.valid (expression ++ ")")

end PatternMeaning

/-- A language keeps to what expressions mean. -/
structure PatternLanguage.Follows (language : PatternLanguage) (meaning : PatternMeaning) :
    Prop where
  compiles : ∀ expression,
    (language.compile? expression).isSome ↔ meaning.valid expression ∧ meaning.fits expression
  leftmost : ∀ expression finder, language.compile? expression = some finder →
    ∀ text, finder.find? text = PatternMeaning.search (meaning.takes expression) [] text
  within : ∀ expression before rest found,
    meaning.takes expression before rest = some found → found <+: rest
  /-- Nothing makes up for a parenthesis that closes nothing. -/
  stray : ∀ first rest, meaning.valid first → ¬meaning.valid (first ++ ")") →
    ¬meaning.valid (first ++ ")" ++ rest)
  valid_group : ∀ expression, ¬meaning.Overcloses expression →
    (meaning.valid (PatternMeaning.group expression) ↔ meaning.Enclosable expression)
  valid_start : ∀ expression, meaning.valid ("^" ++ PatternMeaning.group expression) ↔
    meaning.valid (PatternMeaning.group expression)
  takes_group : ∀ expression, meaning.Enclosable expression →
    meaning.takes (PatternMeaning.group expression) = meaning.takes expression
  takes_start : ∀ expression, meaning.Enclosable expression → ∀ before rest,
    meaning.takes ("^" ++ PatternMeaning.group expression) before rest =
      if before = [] then meaning.takes (PatternMeaning.group expression) before rest else none

namespace PatternLanguage.Follows

open PatternMeaning

variable {language : PatternLanguage} {meaning : PatternMeaning}
  (follows : language.Follows meaning) {expression : String}

theorem anchored_eq (expression : String) :
    Literal.anchored expression = "^" ++ group expression := by
  rw [Literal.anchored, group, ← String.append_assoc, ← String.append_assoc]
  rfl

include follows

theorem not_valid_of_overcloses (overcloses : meaning.Overcloses expression) :
    ¬meaning.valid expression := by
  obtain ⟨first, rest, rfl, isValid, stray⟩ := overcloses
  exact follows.stray first rest isValid stray

/-- A pattern that closes no group but its own is compiled as it would be alone, if the group
that it is put in is closed behind it. -/
theorem isSome_compile?_anchored (straight : ¬meaning.Overcloses expression) :
    (language.compile? (Literal.anchored expression)).isSome ↔
      meaning.Enclosable expression ∧ meaning.fits (Literal.anchored expression) := by
  rw [follows.compiles, anchored_eq, follows.valid_start, follows.valid_group _ straight]

/-- What is found of a pattern is what the expression takes at the start. -/
theorem find?_anchored {finder : Finder}
    (compiled : language.compile? (Literal.anchored expression) = some finder)
    (enclosable : meaning.Enclosable expression) (text : List Char) :
    finder.find? text = (meaning.takes expression [] text).map (ends []) := by
  have start := follows.takes_start expression enclosable
  rw [follows.takes_group expression enclosable, ← anchored_eq] at start
  have never : ∀ before rest, before ≠ [] →
      meaning.takes (Literal.anchored expression) before rest = none := fun before rest notFirst =>
    (start before rest).trans (if_neg notFirst)
  rw [follows.leftmost _ finder compiled, search_start never, start, if_pos rfl]

end PatternLanguage.Follows

end Packrat
