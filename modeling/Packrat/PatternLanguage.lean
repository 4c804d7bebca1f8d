import Packrat.Text

/-!
# Pattern languages

A pattern language says which texts are regular expressions, and finds what they match.
How it reads them is its own affair: a language is given by what it compiles expressions
to.
-/

namespace Packrat

/-- What an expression is compiled to. -/
structure Finder where
  /-- The leftmost match in a text, as the byte offsets of its two ends. -/
  find? : List Char → Option (Nat × Nat)
  /-- A match consists of whole characters of the text. -/
  whole : ∀ {text first last}, find? text = some (first, last) →
    ∃ before found after, text = before ++ found ++ after ∧
      first = Text.byteLength before ∧ last = Text.byteLength (before ++ found)

/-- A language of regular expressions. -/
structure PatternLanguage where
  /-- What an expression is compiled to, if it is well formed and not too large. -/
  compile? : String → Option Finder

end Packrat
