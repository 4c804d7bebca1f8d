import Packrat.Text.CaseFolding
import Packrat.Text.Category
import Packrat.Text.Property
import Packrat.Text.Script

/-!
# Regular expressions

The expressions that patterns are written in, once read.  Groups and flags have done
their work by then: what is left is which characters are matched, in which order the
ways to match are tried, and what is asked about the surroundings of a place.
-/

namespace Packrat

/-- A class of characters. -/
inductive CharClass where
  | empty
  /-- The code points from one to another, both included. -/
  | range (low high : Nat)
  | set (members : CharSet)
  /-- The characters of some general categories. -/
  | categories (names : List String)
  | script (name : String)
  | union (left right : CharClass)
  | intersection (left right : CharClass)
  | difference (left right : CharClass)
  | symmetricDifference (left right : CharClass)
  | complement (of : CharClass)
  /-- The characters that differ from a member in case at most. -/
  | ignoringCase (of : CharClass)
  /-- The same, but only for ASCII letters. -/
  | ignoringAsciiCase (of : CharClass)

namespace CharClass

/-- The ASCII letter that differs from `c` in case, if `c` is one. -/
def asciiVariant? (c : Char) : Option Char :=
  if 'a' ≤ c ∧ c ≤ 'z' then some (Char.ofNat (c.toNat - 32))
  else if 'A' ≤ c ∧ c ≤ 'Z' then some (Char.ofNat (c.toNat + 32))
  else none

def contains : CharClass → Char → Bool
  | empty, _ => false
  | range low high, c => low ≤ c.toNat && c.toNat ≤ high
  | set members, c => members.contains c
  | categories names, c => names.contains (category c)
  | script name, c => Packrat.script c == name
  | union left right, c => left.contains c || right.contains c
  | intersection left right, c => left.contains c && right.contains c
  | difference left right, c => left.contains c && !right.contains c
  | symmetricDifference left right, c => left.contains c != right.contains c
  | complement inner, c => !inner.contains c
  | ignoringCase inner, c => (caseVariants c).any inner.contains
  | ignoringAsciiCase inner, c => inner.contains c || (asciiVariant? c).any inner.contains

/-- The class of one character. -/
def single (c : Char) : CharClass := range c.toNat c.toNat

/-- Every character. -/
def any : CharClass := complement empty

/-- The union of a list of classes. -/
def ofList : List CharClass → CharClass
  | [] => empty
  | first :: rest => rest.foldl union first

/-- Decimal digits of all scripts. -/
def digits : CharClass := categories ["Nd"]

/-- White space of all scripts. -/
def blanks : CharClass := set whiteSpace

/-- What words are made of: letters, marks, decimal digits, connecting punctuation and
the two joiners. -/
def words : CharClass :=
  ofList [set alphabetic, categories ["Mn", "Mc", "Me", "Nd", "Pc"], range 0x200C 0x200D]

def asciiDigits : CharClass := range 0x30 0x39

def asciiBlanks : CharClass := ofList [range 9 13, range 32 32]

def asciiWords : CharClass :=
  ofList [range 0x30 0x39, range 0x41 0x5A, range 0x5F 0x5F, range 0x61 0x7A]

end CharClass

/-- The ends that a word boundary looks at. -/
inductive WordEdge where
  | boundary
  | inner
  | start
  | stop
  | halfStart
  | halfStop

/-- Something that is asked about a place between two characters. -/
inductive Look where
  | textStart
  | textStop
  | lineStart
  | lineStop
  /-- Line ends where a carriage return before a line feed belongs to it. -/
  | returnLineStart
  | returnLineStop
  | word (edge : WordEdge) (members : CharClass)

/-- What surrounds a place: the characters before and after it. -/
structure Surroundings where
  before : Option Char
  after : Option Char

/-- Whether the answer to a look is yes. -/
def Look.holds (s : Surroundings) : Look → Bool
  | textStart => s.before.isNone
  | textStop => s.after.isNone
  | lineStart => s.before.isNone || s.before == some '\n'
  | lineStop => s.after.isNone || s.after == some '\n'
  | returnLineStart =>
    s.before.isNone || s.before == some '\n' ||
      (s.before == some '\r' && s.after != some '\n')
  | returnLineStop =>
    s.after.isNone || s.after == some '\r' ||
      (s.after == some '\n' && s.before != some '\r')
  | word edge members =>
    let before := s.before.any members.contains
    let after := s.after.any members.contains
    match edge with
    | .boundary => before != after
    | .inner => before == after
    | .start => !before && after
    | .stop => before && !after
    | .halfStart => !before
    | .halfStop => !after

/-- A regular expression. -/
inductive Regex where
  | empty
  | one (members : CharClass)
  | look (look : Look)
  | seq (first second : Regex)
  /-- Either of two; the first is tried first. -/
  | alt (first second : Regex)
  /-- At least `least` and at most `most` times, as many as possible first if `greedy`. -/
  | iterate (body : Regex) (least : Nat) (most : Option Nat) (greedy : Bool)

namespace Regex

/-- The least number of characters that the expression matches. -/
def shortest : Regex → Nat
  | empty => 0
  | one _ => 1
  | look _ => 0
  | seq first second => first.shortest + second.shortest
  | alt first second => min first.shortest second.shortest
  | iterate body least _ _ => body.shortest * least

/-- Whether the expression matches at the start of the text only. -/
def isAnchored : Regex → Bool
  | look .textStart => true
  | seq first second => first.isAnchored || (first.shortest == 0 && second.isAnchored)
  | alt first second => first.isAnchored && second.isAnchored
  | iterate body least _ _ => 0 < least && body.isAnchored
  | _ => false

/-- Matches each of a list in turn. -/
def ofSequence : List Regex → Regex
  | [] => empty
  | first :: rest => rest.foldl seq first

/-- Matches one of a list, the first that fits. -/
def ofChoices : List Regex → Regex
  | [] => empty
  | [only] => only
  | first :: rest => alt first (ofChoices rest)

end Regex

end Packrat
