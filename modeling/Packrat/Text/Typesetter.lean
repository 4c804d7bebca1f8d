import Packrat.Text.Wrap

/-!
# Typesetters

Whoever shows text on a terminal has to know how many columns it takes and where to break
it.  Both change from one version of Unicode to the next, so they are data.
-/

namespace Packrat

/-- How text is measured and broken into lines. -/
structure Typesetter where
  /-- The columns that some characters take in a row. -/
  columns : List Char → Nat
  /-- The lines of a text that is broken to be so many columns wide. -/
  wrap : Nat → String → List String
  /-- Even of nothing there is one line. -/
  wrap_ne_nil : ∀ limit text, wrap limit text ≠ []

/-- Widths and line breaks as Unicode has them, and lines that are about equally full. -/
def Typesetter.standard : Typesetter := ⟨textWidth, Wrap.wrap, Wrap.wrap_ne_nil⟩

end Packrat
