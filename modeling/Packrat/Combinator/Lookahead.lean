import Packrat.Reference

/-!
# Lookahead

Parsers that look at what comes next and consume nothing.
-/

namespace Packrat

variable {ω ρ : Type}

/-- Matches nothing where a node matches. -/
def Matcher.ahead (node : NodeId) : Matcher ω ρ :=
  .ofAnswer node fun position m =>
    .done (m.andThen fun _ _ => .success (.point position) .unit)

/-- Matches nothing where a node does not match. -/
def Matcher.notAhead (child : Child) : Matcher ω ρ :=
  .ofAnswer child.id fun position m =>
    if m.isSuccess then .done (.failure ("unexpected " ++ child.description) (.point position))
    else .done (.success (.point position) .unit)

namespace Reference

/-- Nothing, where a parser would match. -/
def ahead (body : Reference ω ρ) : Reference ω ρ :=
  unary "check" true .named (fun child => .ahead child.id) body

/-- Nothing, where a parser would not match. -/
def notAhead (body : Reference ω ρ) : Reference ω ρ :=
  unary "not" true .named .notAhead body

end Reference

end Packrat
