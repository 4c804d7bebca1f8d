import Packrat.Diagnostic
import Packrat.Input
import Packrat.Match

/-!
# Parse errors

Why a whole input did not parse: the failure's message and span, with the place and a
piece of the input put into people's terms.
-/

namespace Packrat

/-- A failure to parse a whole input. -/
structure ParseError where
  message : String
  /-- Where the failure is, in positions. -/
  span : Span
  /-- Where the failure starts, for people. -/
  location : Caret
  region : Region
  /-- The input at the failure, or the next item where the span is empty. -/
  excerpt : String
deriving DecidableEq

namespace ParseError

variable {ω : Type}

/-- Where the excerpt of a span stops: an empty span is shown by the item after it. -/
def excerptStop (input : Input ω) (span : Span) : Nat :=
  if span.isEmpty then min (span.stop + 1) input.length else span.stop

/-- The error for a failed match of an input. -/
def ofFailure [Printable ω] (message : String) (span : Span) (input : Input ω) : ParseError :=
  { message, span
    location := input.caret span.start
    region := .between (input.caret span.start) (input.caret span.stop)
    excerpt := input.excerpt span.start (excerptStop input span) }

/-- Whether nothing of the input is left at the failure. -/
def atEnd (e : ParseError) : Bool :=
  e.span.isEmpty && (e.excerpt == "" || e.excerpt == quote "" || e.excerpt == "[]")

/-- What stands at the failure, in words. -/
def found (e : ParseError) : String :=
  if e.atEnd then "found the end of the input" else "found " ++ e.excerpt

/-- The error as a diagnostic about a source. -/
def diagnostic (e : ParseError) (source : Option SourceId) : Diagnostic :=
  { Diagnostic.ofText e.message with source, location := some e.location }.highlight
    e.region e.found

/-- The error in one line. -/
def display (e : ParseError) : String := e.message ++ " at " ++ e.location.display

end ParseError

end Packrat
