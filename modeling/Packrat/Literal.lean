import Packrat.Text.Quoted

/-!
# Literals

Leaves that are written down as plain data.  The kind of input decides how they are
matched.
-/

namespace Packrat

/-- A leaf written as data. -/
inductive Literal where
  /-- Exactly this text. -/
  | text (content : String)
  /-- Text that this regular expression matches. -/
  | pattern (expression : String)
deriving DecidableEq

/-- The literal as it is written in messages. -/
def Literal.display : Literal → String
  | .text content => quote content
  | .pattern expression => "/" ++ expression ++ "/"

end Packrat
