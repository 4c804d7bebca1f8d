import Packrat.Region

/-!
# Diagnostics

A diagnostic is a message about a problem in some source, for people to read.  Its
highlights are regions of the source with a note on each, kept in the order in which
they start; those that start together stay in the order in which they were added.
-/

namespace Packrat

/-- How grave the problem is. -/
inductive Level where
  | error
  | help
  | info
deriving DecidableEq

/-- The level as it is written in messages. -/
def Level.name : Level → String
  | error => "error"
  | help => "help"
  | info => "info"

/-- A region that is shown in any case, and what is to be said about it. -/
structure Highlight where
  region : Region
  note : String
deriving DecidableEq

/-- The identity of a source among the `Sources` that are shown. -/
structure SourceId where
  number : Nat
deriving DecidableEq

/-- A message about a problem. -/
structure Diagnostic where
  /-- The source that the problem is in. -/
  source : Option SourceId
  /-- Where the problem begins. -/
  location : Option Caret
  highlights : List Highlight
  level : Level
  text : String

namespace Diagnostic

/-- An error with nothing but a message. -/
def ofText (text : String) : Diagnostic := ⟨none, none, [], .error, text⟩

/-- Whether a highlight starts at a caret or before it. -/
def startsBy (caret : Caret) (h : Highlight) : Bool := h.region.start ≤ caret

-- Semireducible, so that the highlights of a given diagnostic can be decided.
/-- The place of the first highlight that starts after a caret, in the part from `low` to
`high` of a list in order, found by halving the part; if there is none, it is `high`. -/
@[semireducible] def placeAfter (caret : Caret) (highlights : List Highlight) (low high : Nat)
    (inList : high ≤ highlights.length) : Nat :=
  if notEmpty : low < high then
    let middle := (low + high) / 2
    have listed : middle < highlights.length := by omega
    if startsBy caret highlights[middle] then
      placeAfter caret highlights (middle + 1) high inList
    else placeAfter caret highlights low middle (Nat.le_of_lt listed)
  else low
termination_by high - low

/-- Puts a highlight after all that start no later. -/
def insertHighlight (added : Highlight) (highlights : List Highlight) : List Highlight :=
  highlights.insertIdx
    (placeAfter added.region.start highlights 0 highlights.length (Nat.le_refl _)) added

/-- Adds a highlight. -/
def highlight (d : Diagnostic) (region : Region) (note : String) : Diagnostic :=
  { d with highlights := insertHighlight ⟨region, note⟩ d.highlights }

/-- The message in one line, without the highlights. -/
def display (d : Diagnostic) : String :=
  match d.location with
  | some location => d.level.name ++ " " ++ location.display ++ ": " ++ d.text
  | none => d.level.name ++ ": " ++ d.text

end Diagnostic

end Packrat
