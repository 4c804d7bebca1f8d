import Packrat.Leaf

/-!
# Sequencing

Parsers that match one after the other, each where the one before it stopped.  Two
values can be put together by a function of the caller, which may also reject them;
then the match fails where the two have matched.
-/

namespace Packrat

variable {ω ρ : Type}

/-- What a match fails with when the caller's function does not accept it. -/
def rejected : String := "rejected"

/-- A function that puts two values together, or rejects them. -/
abbrev Combine (ω ρ : Type) := Value ω → Value ω → Act ω ρ (Option (Value ω))

/-- Matches one node and then another, and puts their values together. -/
def Matcher.pair (first second : NodeId) (combine : Combine ω ρ) : Matcher ω ρ :=
  { start := fun _ position => .call first position (.start position)
    resume := fun _ _ memory m =>
      match memory.values, m with
      | [], .success left a => .call second left.stop ⟨1, left, [a], none⟩
      | a :: _, .success right b =>
        let span := memory.span.join right
        (combine a b).toStep fun verdict =>
          match verdict with
          | some value => .done (.success span value)
          | none => .done (.failure rejected span)
      | _, .failure message span => .done (.failure message span) }

/-- Matches the part that is due, or is finished. -/
def Matcher.nextPart (parts : List NodeId) (memory : Memory ω) : Step ω ρ :=
  match parts[memory.turn]? with
  | some part => .call part memory.span.stop memory
  | none => .done (.success memory.span (.list memory.values.reverse))

/-- Matches parts in order and gives the list of their values. -/
def Matcher.sequence (parts : List NodeId) : Matcher ω ρ :=
  { start := fun _ position => nextPart parts (.start position)
    resume := fun _ _ memory m =>
      match m with
      | .success span value =>
        nextPart parts ⟨memory.turn + 1, memory.span.join span, value :: memory.values, none⟩
      | .failure message span => .done (.failure message span) }

/-- The kind of node that matches `count` parts in order. -/
def Blueprint.sequence (count : Nat) : Blueprint ω ρ :=
  ⟨"sequence", count, count != 0, .between " ",
    fun children => .sequence ((List.ofFn children).map Child.id)⟩

namespace Reference

/-- Two parsers in a row, with `combine` to put their values together or reject them. -/
def tryChain (combine : Combine ω ρ) (first second : Reference ω ρ) : Reference ω ρ :=
  binary "chain" false (.between " ") (fun a b => .pair a.id b.id combine) first second

/-- Two parsers in a row, with a function to put their values together. -/
def chain (combine : Value ω → Value ω → Value ω) (first second : Reference ω ρ) :
    Reference ω ρ :=
  tryChain (fun a b => .result (some (combine a b))) first second

/-- Two parsers in a row, giving the value of the second. -/
def keepSecond (first second : Reference ω ρ) : Reference ω ρ :=
  binary "then" true (.between " ")
    (fun a b => .pair a.id b.id fun _ value => .result (some value)) first second

/-- Two parsers in a row, giving the value of the first. -/
def keepFirst (first second : Reference ω ρ) : Reference ω ρ :=
  binary "skip" true (.between " ")
    (fun a b => .pair a.id b.id fun value _ => .result (some value)) first second

/-- A parser and then the end of the input, giving the parser's value. -/
def consume (body : Reference ω ρ) : Reference ω ρ :=
  binary "consume" true (.between " ")
    (fun a b => .pair a.id b.id fun value _ => .result (some value)) body endOfInput

end Reference

end Packrat
