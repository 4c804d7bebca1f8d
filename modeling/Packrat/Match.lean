import Packrat.Span

/-!
# Matches

Trying a parser at a position always gives a `Match`.  Not fitting the input is one of
its two cases and never an error of the engine.
-/

namespace Packrat

/-- The result of trying a parser at a position.  The span of a failure is where the
failure is anchored, as far as the parser got. -/
inductive Match (α : Type) where
  | success (span : Span) (value : α)
  | failure (message : String) (span : Span)
deriving DecidableEq

namespace Match

variable {α β : Type}

def isSuccess : Match α → Bool
  | success .. => true
  | failure .. => false

def isFailure (m : Match α) : Bool := !m.isSuccess

def span : Match α → Span
  | success span _ => span
  | failure _ span => span

/-- The value of a success. -/
def value? : Match α → Option α
  | success _ value => some value
  | failure .. => none

/-- The message of a failure. -/
def message? : Match α → Option String
  | success .. => none
  | failure message _ => some message

/-- Continues with `next` after a success and passes a failure along unchanged. -/
def andThen (m : Match α) (next : Span → α → Match β) : Match β :=
  match m with
  | success span value => next span value
  | failure message span => failure message span

/-- Replaces the value of a success and keeps its span. -/
def map (m : Match α) (f : Span → α → β) : Match β :=
  m.andThen fun span value => success span (f span value)

/-- Of two failures the one that got further into the input; a tie goes to the first,
which was tried earlier. -/
def farther (m later : Match α) : Match α :=
  if m.span.stop < later.span.stop then later else m

/-- The match as it is written in reports, given how a value is written. -/
def display (write : α → String) : Match α → String
  | success span value => "success " ++ span.display ++ ": " ++ write value
  | failure message span => "failure " ++ span.display ++ ": " ++ message

@[simp] theorem andThen_success (s : Span) (a : α) (next : Span → α → Match β) :
    (success s a).andThen next = next s a := rfl

@[simp] theorem andThen_failure (message : String) (s : Span) (next : Span → α → Match β) :
    (failure message s : Match α).andThen next = failure message s := rfl

@[simp] theorem span_map (m : Match α) (f : Span → α → β) : (m.map f).span = m.span := by
  cases m <;> rfl

end Match

end Packrat
