import Packrat.Index
import Packrat.Input
import Packrat.Match

/-!
# Steps

A matcher never calls another one.  Where it needs to know how some node matches, it
hands back a `Step.call` with what it has to remember until the answer comes, and is
resumed with both.  Whoever drives the matching decides when and how often a node is
matched, and a matcher may go on calling forever.

A function of the caller may also put a request to the caller in the middle of a
match.  `Act` is such a function's result; a matcher passes its requests on.
-/

namespace Packrat

/-- What a caller's request is answered with: a value, or a message that says why there
is none. -/
abbrev Answer (ω : Type) := Except String (Value ω)

/-- What a matcher remembers while it waits for a call. -/
structure Memory (ω : Type) where
  /-- Which call is being waited for. -/
  turn : Nat
  /-- What has been matched so far. -/
  span : Span
  /-- The values matched so far, the last one first. -/
  values : List (Value ω)
  /-- A match that is set aside. -/
  aside : Option (Match (Value ω))

/-- Nothing to remember but that matching started at a position. -/
def Memory.start {ω : Type} (position : Nat) : Memory ω := ⟨0, .point position, [], none⟩

/-- One step of matching. -/
inductive Step (ω ρ : Type) where
  /-- The node has matched, or failed to. -/
  | done (result : Match (Value ω))
  /-- Match `node` at `position`, and then resume. -/
  | call (node : NodeId) (position : Nat) (memory : Memory ω)
  /-- Put `request` to the caller and carry on with `next`. -/
  | ask (request : ρ) (next : Answer ω → Step ω ρ)

/-- How a node matches an input at a position: its first step, and the step after each
call, given what was remembered and how the call went. -/
structure Matcher (ω ρ : Type) where
  start : Input ω → Nat → Step ω ρ
  resume : Input ω → Nat → Memory ω → Match (Value ω) → Step ω ρ

/-- What a caller's function does: give a result, perhaps after some requests. -/
inductive Act (ω ρ α : Type) where
  | result (value : α)
  | ask (request : ρ) (next : Answer ω → Act ω ρ α)

namespace Act

variable {ω ρ α β : Type}

/-- Carries on with `next` after the result. -/
def andThen : Act ω ρ α → (α → Act ω ρ β) → Act ω ρ β
  | result value, next => next value
  | ask request wait, next => ask request fun answer => (wait answer).andThen next

/-- Applies a function to the result. -/
def map (f : α → β) (act : Act ω ρ α) : Act ω ρ β := act.andThen fun value => result (f value)

/-- Turns an act into a step, given the step that follows its result. -/
def toStep : Act ω ρ α → (α → Step ω ρ) → Step ω ρ
  | result value, next => next value
  | ask request wait, next => .ask request fun answer => (wait answer).toStep next

end Act

namespace Matcher

variable {ω ρ : Type}

/-- A matcher that calls nothing. -/
def ofMatch (attempt : Input ω → Nat → Match (Value ω)) : Matcher ω ρ :=
  ⟨fun input position => .done (attempt input position), fun _ _ _ m => .done m⟩

/-- A matcher that calls one node where it starts and goes by the answer. -/
def ofAnswer (node : NodeId) (next : Nat → Match (Value ω) → Step ω ρ) : Matcher ω ρ :=
  ⟨fun _ position => .call node position (.start position),
    fun _ position _ m => next position m⟩

end Matcher

end Packrat
