import Packrat.Combinator.Sequencing

/-!
# Transforming values

Parsers that change what another one produces.  A transformation is a function of the
caller, and it may reject a value, which fails the match as if the input did not fit.
-/

namespace Packrat

variable {ω ρ : Type}

/-- A function that changes a value that was matched at a span, or rejects it. -/
abbrev Transform (ω ρ : Type) := Value ω → Span → Act ω ρ (Option (Value ω))

/-- Passes what a node matches through a function.  A rejected value fails with
`message` where the node matched. -/
def Matcher.transform (node : NodeId) (message : String) (f : Transform ω ρ) : Matcher ω ρ :=
  .ofAnswer node fun _ m =>
    match m with
    | .success span value =>
      (f value span).toStep fun verdict =>
        match verdict with
        | some value => .done (.success span value)
        | none => .done (.failure message span)
    | .failure message span => .done (.failure message span)

/-- Replaces the message of a node's failures. -/
def Matcher.onFail (node : NodeId) (message : String) : Matcher ω ρ :=
  .ofAnswer node fun _ m =>
    match m with
    | .success span value => .done (.success span value)
    | .failure _ span => .done (.failure message span)

namespace Reference

/-- A parser whose values go through a function under some name. -/
def transform (name : String) (cacheable : Bool) (message : String) (f : Transform ω ρ)
    (body : Reference ω ρ) : Reference ω ρ :=
  unary name cacheable .named (fun child => .transform child.id message f) body

/-- Changes the values of a parser by a function that may put requests. -/
def mapAct (f : Value ω → Span → Act ω ρ (Value ω)) (body : Reference ω ρ) : Reference ω ρ :=
  transform "map" false rejected (fun value span => (f value span).map some) body

/-- Changes the values of a parser. -/
def map (f : Value ω → Value ω) (body : Reference ω ρ) : Reference ω ρ :=
  mapAct (fun value _ => .result (f value)) body

/-- Changes the values of a parser, knowing where they were matched. -/
def mapWithSpan (f : Value ω → Span → Value ω) (body : Reference ω ρ) : Reference ω ρ :=
  mapAct (fun value span => .result (f value span)) body

/-- Changes the values of a parser, or rejects them. -/
def tryMap (f : Value ω → Span → Option (Value ω)) (body : Reference ω ρ) : Reference ω ρ :=
  transform "try_map" false rejected (fun value span => .result (f value span)) body

/-- Gives `value` instead of what a parser gives. -/
def replace (value : Value ω) (body : Reference ω ρ) : Reference ω ρ :=
  transform "to" false rejected (fun _ _ => .result (some value)) body

/-- Fails with `message` on values that are not accepted. -/
def filter (message : String) (accepts : Value ω → Bool) (body : Reference ω ρ) :
    Reference ω ρ :=
  transform "filter" false message
    (fun value _ => .result (if accepts value then some value else none)) body

/-- Drops the value of a parser. -/
def discard (body : Reference ω ρ) : Reference ω ρ :=
  transform "discard" true rejected (fun _ _ => .result (some .unit)) body

/-- Replaces the message of a parser's failures. -/
def onFail (message : String) (body : Reference ω ρ) : Reference ω ρ :=
  unary "on_fail" false .named (fun child => .onFail child.id message) body

end Reference

end Packrat
