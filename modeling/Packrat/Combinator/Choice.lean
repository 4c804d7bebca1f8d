import Packrat.Reference

/-!
# Choice

Alternatives are tried in order and the first that matches is taken.  If none does, the
failure that got furthest is reported, and of those the earliest.
-/

namespace Packrat

variable {ω ρ : Type}

/-- Tries the alternative that is due, or gives up with the best failure so far. -/
def Matcher.tryFrom (alternatives : List NodeId) (position : Nat) (memory : Memory ω) :
    Step ω ρ :=
  match alternatives[memory.turn]? with
  | some alternative => .call alternative position memory
  | none => .done (memory.aside.getD (.failure "no alternatives" (.point position)))

/-- Tries alternatives in order. -/
def Matcher.choice (alternatives : List NodeId) : Matcher ω ρ :=
  { start := fun _ position => tryFrom alternatives position (.start position)
    resume := fun _ position memory m =>
      if m.isSuccess then .done m
      else
        let best := match memory.aside with
          | some best => best.farther m
          | none => m
        tryFrom alternatives position { memory with turn := memory.turn + 1, aside := some best } }

/-- Takes what a node matches, changed by `wrap`, or matches nothing and gives
`default`. -/
def Matcher.optional (node : NodeId) (wrap : Value ω → Value ω) (default : Value ω) :
    Matcher ω ρ :=
  .ofAnswer node fun position m =>
    match m with
    | .success span value => .done (.success span (wrap value))
    | .failure .. => .done (.success (.point position) default)

namespace Reference

/-- The first of some alternatives that matches. -/
def choice (alternatives : List (Reference ω ρ)) : Reference ω ρ :=
  nary "alt" (!alternatives.isEmpty) (.between " | ")
    (fun children => .choice (children.map Child.id)) alternatives

/-- The first of two alternatives that matches. -/
def orElse (first second : Reference ω ρ) : Reference ω ρ := choice [first, second]

/-- A parser, if it matches: gives its value as present, or else nothing as absent. -/
def optional (body : Reference ω ρ) : Reference ω ρ :=
  unary "optional" true (.followedBy "?") (fun child => .optional child.id .present .absent) body

/-- A parser, if it matches: gives its value, or else `default`. -/
def optionalOr (default : Value ω) (body : Reference ω ρ) : Reference ω ρ :=
  unary "optional_or" false .named (fun child => .optional child.id id default) body

end Reference

end Packrat
