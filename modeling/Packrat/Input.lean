import Packrat.PatternLanguage
import Packrat.Value

/-!
# Inputs

What is parsed: a text, whose items are its characters, or a list of tokens, which may
be values of any sort.  Positions run from zero to the length, which is the end.
-/

namespace Packrat

/-- What a grammar can match: the characters of texts, with patterns of some language, or
tokens. -/
inductive InputKind where
  | ofText (language : PatternLanguage)
  | tokens

/-- Something to parse. -/
inductive Input (ω : Type) where
  | text (text : Text)
  | tokens (items : Array (Value ω))

namespace Input

variable {ω : Type}

/-- How many items there are. -/
def length : Input ω → Nat
  | text t => t.length
  | tokens items => items.size

def isEmpty (input : Input ω) : Bool := input.length == 0

/-- The item at a position, if it is before the end. -/
def item? : Input ω → Nat → Option (Value ω)
  | text t, position => t.chars[position]?.map Value.char
  | tokens items, position => items[position]?

/-- Whether a position is at the end, or past it. -/
def isEnd (input : Input ω) (position : Nat) : Bool := input.length ≤ position

/-- The items between two positions as they are shown to people.  Positions past the
end are at the end. -/
def excerpt [Printable ω] : Input ω → Nat → Nat → String
  | text t, start, stop => quoteChars (t.slice start stop)
  | tokens items, start, stop =>
    let stop := min stop items.size
    (Value.list (items.extract (min start stop) stop).toList).print

/-- Where a position is, for people.  Tokens all stand on one line. -/
def caret : Input ω → Nat → Caret
  | text t, position => Caret.locate t.chars.toList position
  | tokens items, position => ⟨0, UInt32.ofNat (min position items.size)⟩

end Input

end Packrat
