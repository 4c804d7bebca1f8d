import Packrat.Combinator.Choice
import Packrat.Combinator.Lookahead
import Packrat.Combinator.Repetition
import Packrat.Combinator.Transform

/-!
# What the combinators mean

A `Plan` is what a node of the library's own does with its children, whatever the
children are.  Read directly, it says what the node matches when it is given what its
children match; there is no memory and nothing is resumed.
-/

namespace Packrat

variable {κ χ ω ρ : Type}

/-- What a function of the caller gives when its requests are answered by `reply`. -/
def Act.outcome {α : Type} (reply : ρ → Answer ω) : Act ω ρ α → α
  | .result value => value
  | .ask request next => (next (reply request)).outcome reply

/-- A success where a value was accepted, and a failure where it was rejected. -/
def Match.ofVerdict {α : Type} (message : String) (span : Span) : Option α → Match α
  | some value => .success span value
  | none => .failure message span

/-- What is done with children of some sort. -/
inductive Plan (κ ω ρ : Type) where
  | leaf (attempt : Input ω → Nat → Match (Value ω))
  | choice (alternatives : List κ)
  | optional (child : κ) (wrap : Value ω → Value ω) (default : Value ω)
  | ahead (child : κ)
  | notAhead (child : κ)
  | repeated (bounds : Bounds) (child : κ)
  | separated (bounds : Bounds) (item separator : κ)
  | pair (first second : κ) (combine : Combine ω ρ)
  | sequence (parts : List κ)
  | transform (child : κ) (message : String) (f : Transform ω ρ)
  | onFail (child : κ) (message : String)

namespace Plan

/-- The same plan for other children. -/
def map (f : κ → χ) : Plan κ ω ρ → Plan χ ω ρ
  | leaf attempt => leaf attempt
  | choice alternatives => choice (alternatives.map f)
  | optional child wrap default => optional (f child) wrap default
  | ahead child => ahead (f child)
  | notAhead child => notAhead (f child)
  | repeated bounds child => repeated bounds (f child)
  | separated bounds item separator => separated bounds (f item) (f separator)
  | pair first second combine => pair (f first) (f second) combine
  | sequence parts => sequence (parts.map f)
  | transform child message g => transform (f child) message g
  | onFail child message => onFail (f child) message

/-- The matcher that carries out a plan. -/
def matcher : Plan Child ω ρ → Matcher ω ρ
  | leaf attempt => .ofMatch attempt
  | choice alternatives => .choice (alternatives.map Child.id)
  | optional child wrap default => .optional child.id wrap default
  | ahead child => .ahead child.id
  | notAhead child => .notAhead child
  | repeated bounds child => .repeated bounds child
  | separated bounds item separator => .separated bounds item separator
  | pair first second combine => .pair first.id second.id combine
  | sequence parts => .sequence (parts.map Child.id)
  | transform child message f => .transform child.id message f
  | onFail child message => .onFail child.id message

end Plan

/-! ## Loops -/

section Loops

variable (answers : κ → Nat → Match (Value ω) → Prop)

/-- Of the failures so far and a later one the best: the one that got furthest, or the
earliest of those. -/
def Match.better : Option (Match (Value ω)) → Match (Value ω) → Match (Value ω)
  | some best, later => best.farther later
  | none, later => later

/-- The alternatives that are left are tried in order, after some failures. -/
inductive Chooses (position : Nat) :
    Option (Match (Value ω)) → List κ → Match (Value ω) → Prop where
  | exhausted (best : Option (Match (Value ω))) :
      Chooses position best []
        (best.getD (.failure "no alternatives" (.point position)))
  | taken {best : Option (Match (Value ω))} {alternative : κ} {rest : List κ}
      {answer : Match (Value ω)} :
      answers alternative position answer → answer.isSuccess = true →
      Chooses position best (alternative :: rest) answer
  | passed {best : Option (Match (Value ω))} {alternative : κ} {rest : List κ}
      {answer result : Match (Value ω)} :
      answers alternative position answer → answer.isSuccess = false →
      Chooses position (some (Match.better best answer)) rest result →
      Chooses position best (alternative :: rest) result

/-- The parts that are left are matched one after the other, after some have been. -/
inductive Follows : Span → List (Value ω) → List κ → Match (Value ω) → Prop where
  | finished (span : Span) (values : List (Value ω)) :
      Follows span values [] (.success span (.list values.reverse))
  | failed {span : Span} {values : List (Value ω)} {part : κ} {rest : List κ}
      {message : String} {place : Span} :
      answers part span.stop (.failure message place) →
      Follows span values (part :: rest) (.failure message place)
  | next {span nextSpan : Span} {values : List (Value ω)} {part : κ} {rest : List κ}
      {value : Value ω} {result : Match (Value ω)} :
      answers part span.stop (.success nextSpan value) →
      Follows (span.join nextSpan) (value :: values) rest result →
      Follows span values (part :: rest) result

/-- A child is matched as often as can be, after some times. -/
inductive Repeats (bounds : Bounds) (description : String) (child : κ) :
    Nat → List (Value ω) → Span → Match (Value ω) → Prop where
  | full {count : Nat} {values : List (Value ω)} {span : Span} :
      bounds.full count = true →
      Repeats bounds description child count values span
        (bounds.finish description count values span none)
  | failed {count : Nat} {values : List (Value ω)} {span failed : Span} {message : String} :
      bounds.full count = false →
      answers child span.stop (.failure message failed) →
      Repeats bounds description child count values span
        (bounds.finish description count values span (some failed))
  | empty {count : Nat} {values : List (Value ω)} {span next : Span} {value : Value ω} :
      bounds.full count = false →
      answers child span.stop (.success next value) → next.isEmpty = true →
      Repeats bounds description child count values span
        (bounds.finish description (count + 1) (value :: values) (span.join next) none)
  | again {count : Nat} {values : List (Value ω)} {span next : Span} {value : Value ω}
      {result : Match (Value ω)} :
      bounds.full count = false →
      answers child span.stop (.success next value) → next.isEmpty = false →
      Repeats bounds description child (count + 1) (value :: values) (span.join next) result →
      Repeats bounds description child count values span result

/-- Items follow with separators before them, after some items. -/
inductive Separates (bounds : Bounds) (description : String) (item separator : κ) :
    Nat → List (Value ω) → Span → Match (Value ω) → Prop where
  | full {count : Nat} {values : List (Value ω)} {span : Span} :
      bounds.full count = true →
      Separates bounds description item separator count values span
        (bounds.finish description count values span none)
  | noSeparator {count : Nat} {values : List (Value ω)} {span failed : Span}
      {message : String} :
      bounds.full count = false →
      answers separator span.stop (.failure message failed) →
      Separates bounds description item separator count values span
        (bounds.finish description count values span none)
  | noItem {count : Nat} {values : List (Value ω)} {span between failed : Span}
      {skipped : Value ω} {message : String} :
      bounds.full count = false →
      answers separator span.stop (.success between skipped) →
      answers item between.stop (.failure message failed) →
      Separates bounds description item separator count values span
        (bounds.finish description count values span (some failed))
  | empty {count : Nat} {values : List (Value ω)} {span between next : Span}
      {skipped value : Value ω} :
      bounds.full count = false →
      answers separator span.stop (.success between skipped) →
      answers item between.stop (.success next value) →
      (between.isEmpty && next.isEmpty) = true →
      Separates bounds description item separator count values span
        (bounds.finish description (count + 1) (value :: values) (span.join next) none)
  | again {count : Nat} {values : List (Value ω)} {span between next : Span}
      {skipped value : Value ω} {result : Match (Value ω)} :
      bounds.full count = false →
      answers separator span.stop (.success between skipped) →
      answers item between.stop (.success next value) →
      (between.isEmpty && next.isEmpty) = false →
      Separates bounds description item separator (count + 1) (value :: values)
        (span.join next) result →
      Separates bounds description item separator count values span result

end Loops

/-- What a plan gives at a position when `answers` says what the children give, and
`describe` how they are described in messages. -/
inductive Plan.Gives (input : Input ω) (reply : ρ → Answer ω) (describe : κ → String)
    (answers : κ → Nat → Match (Value ω) → Prop) (position : Nat) :
    Plan κ ω ρ → Match (Value ω) → Prop where
  | leaf (attempt : Input ω → Nat → Match (Value ω)) :
      Gives input reply describe answers position (.leaf attempt) (attempt input position)
  | choice {alternatives : List κ} {result : Match (Value ω)} :
      Chooses answers position none alternatives result →
      Gives input reply describe answers position (.choice alternatives) result
  | present {child : κ} {wrap : Value ω → Value ω} {default value : Value ω} {span : Span} :
      answers child position (.success span value) →
      Gives input reply describe answers position (.optional child wrap default)
        (.success span (wrap value))
  | absent {child : κ} {wrap : Value ω → Value ω} {default : Value ω} {message : String}
      {span : Span} :
      answers child position (.failure message span) →
      Gives input reply describe answers position (.optional child wrap default)
        (.success (.point position) default)
  | ahead {child : κ} {answer : Match (Value ω)} :
      answers child position answer →
      Gives input reply describe answers position (.ahead child)
        (answer.andThen fun _ _ => .success (.point position) .unit)
  | unexpected {child : κ} {answer : Match (Value ω)} :
      answers child position answer → answer.isSuccess = true →
      Gives input reply describe answers position (.notAhead child)
        (.failure ("unexpected " ++ describe child) (.point position))
  | notAhead {child : κ} {answer : Match (Value ω)} :
      answers child position answer → answer.isSuccess = false →
      Gives input reply describe answers position (.notAhead child)
        (.success (.point position) .unit)
  | repeated {bounds : Bounds} {child : κ} {result : Match (Value ω)} :
      Repeats answers bounds (describe child) child 0 [] (.point position) result →
      Gives input reply describe answers position (.repeated bounds child) result
  | noItems {bounds : Bounds} {item separator : κ} :
      bounds.full 0 = true →
      Gives input reply describe answers position (.separated bounds item separator)
        (bounds.finish (describe item) 0 [] (.point position) none)
  | noFirstItem {bounds : Bounds} {item separator : κ} {message : String} {failed : Span} :
      bounds.full 0 = false →
      answers item position (.failure message failed) →
      Gives input reply describe answers position (.separated bounds item separator)
        (bounds.finish (describe item) 0 [] (.point position) (some failed))
  | separated {bounds : Bounds} {item separator : κ} {span : Span} {value : Value ω}
      {result : Match (Value ω)} :
      bounds.full 0 = false →
      answers item position (.success span value) →
      Separates answers bounds (describe item) item separator 1 [value] span result →
      Gives input reply describe answers position (.separated bounds item separator) result
  | noFirst {first second : κ} {combine : Combine ω ρ} {message : String} {span : Span} :
      answers first position (.failure message span) →
      Gives input reply describe answers position (.pair first second combine)
        (.failure message span)
  | noSecond {first second : κ} {combine : Combine ω ρ} {left span : Span} {a : Value ω}
      {message : String} :
      answers first position (.success left a) →
      answers second left.stop (.failure message span) →
      Gives input reply describe answers position (.pair first second combine)
        (.failure message span)
  | pair {first second : κ} {combine : Combine ω ρ} {left right : Span} {a b : Value ω} :
      answers first position (.success left a) →
      answers second left.stop (.success right b) →
      Gives input reply describe answers position (.pair first second combine)
        (.ofVerdict rejected (left.join right) ((combine a b).outcome reply))
  | sequence {parts : List κ} {result : Match (Value ω)} :
      Follows answers (.point position) [] parts result →
      Gives input reply describe answers position (.sequence parts) result
  | transform {child : κ} {message : String} {f : Transform ω ρ} {span : Span}
      {value : Value ω} :
      answers child position (.success span value) →
      Gives input reply describe answers position (.transform child message f)
        (.ofVerdict message span ((f value span).outcome reply))
  | nothing {child : κ} {message : String} {f : Transform ω ρ} {reason : String}
      {span : Span} :
      answers child position (.failure reason span) →
      Gives input reply describe answers position (.transform child message f)
        (.failure reason span)
  | matched {child : κ} {message : String} {span : Span} {value : Value ω} :
      answers child position (.success span value) →
      Gives input reply describe answers position (.onFail child message)
        (.success span value)
  | onFail {child : κ} {message reason : String} {span : Span} :
      answers child position (.failure reason span) →
      Gives input reply describe answers position (.onFail child message)
        (.failure message span)

end Packrat
