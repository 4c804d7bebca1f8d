import Packrat.Pattern.Language
import Packrat.Reference

/-!
# Leaves

Parsers that look at the input directly.  Literal text and patterns are data until the
grammar they are resolved in says what kind of input it matches: a text matches them by
its characters, and tokens refuse them.
-/

namespace Packrat

namespace Reference

variable {ω ρ : Type}

/-- One item equal to `expected`, giving the item.  Items that look alike need not be
equal, so these leaves are not shared. -/
def item [BEq ω] [Printable ω] (expected : Value ω) : Reference ω ρ :=
  leaf "item" expected.print false fun input position =>
    match input.item? position with
    | some found =>
      if found == expected then .success (.between position (position + 1)) found
      else .failure ("expected " ++ expected.print) (.point position)
    | none => .failure ("expected " ++ expected.print) (.point position)

/-- One item that `accepts` holds of, giving the item.  The name is what a failure says
was expected. -/
def satisfy (name : String) (accepts : Value ω → Bool) : Reference ω ρ :=
  leaf "satisfy" name false fun input position =>
    match input.item? position with
    | some found =>
      if accepts found then .success (.between position (position + 1)) found
      else .failure ("expected " ++ name) (.point position)
    | none => .failure ("expected " ++ name) (.point position)

/-- Any one item, giving the item. -/
def any : Reference ω ρ :=
  leaf "any" "any" true fun input position =>
    match input.item? position with
    | some found => .success (.between position (position + 1)) found
    | none => .failure "unexpected end of input" (.point position)

/-- The end of the input. -/
def endOfInput : Reference ω ρ :=
  leaf "end" "end" true fun input position =>
    if input.isEnd position then .success (.point position) .unit
    else .failure "expected end of input" (.point position)

/-- Matches nothing, anywhere, and gives `value`. -/
def succeed (value : Value ω) : Reference ω ρ :=
  leaf "succeed" "succeed" false fun _ position => .success (.point position) value

/-- Fails, everywhere. -/
def fail (message : String) : Reference ω ρ :=
  leaf "fail" ("fail " ++ quote message) false fun _ position =>
    .failure message (.point position)

end Reference

/-- The characters that names are made of: those that can start a name besides the
underscore, and those that can be inside of one. -/
structure Lettering where
  starts : Char → Bool
  continues : Char → Bool

namespace Lettering

/-- Letters, and then letters, digits, marks and underscores. -/
def unicode : Lettering := ⟨identifierStart.contains, identifierContinue.contains⟩

/-- Whether a character can start an identifier. -/
def startsIdentifier (letters : Lettering) (c : Char) : Bool := c == '_' || letters.starts c

/-- Where the identifier ends that goes on at `position`, with `remaining` characters
left. -/
def identifierStop (letters : Lettering) (chars : Array Char) : Nat → Nat → Nat
  | 0, position => position
  | remaining + 1, position =>
    match chars[position]? with
    | some c =>
      if letters.continues c then identifierStop letters chars remaining (position + 1)
      else position
    | none => position

/-- The match of an identifier at a position, which gives its text. -/
def attempt {ω : Type} (letters : Lettering) (input : Input ω) (position : Nat) :
    Match (Value ω) :=
  match input with
  | .text t =>
    if t.chars[position]?.any letters.startsIdentifier then
      let stop :=
        letters.identifierStop t.chars (t.length - (position + 1)) (position + 1)
      .success (.between position stop) (.text (String.ofList (t.slice position stop)))
    else .failure "expected an identifier" (.point position)
  | .tokens _ => .failure "expected an identifier" (.point position)

end Lettering

/-- An identifier of a text. -/
def Reference.identifier {ω ρ : Type} : Reference ω ρ :=
  leaf "identifier" "identifier" true (Lettering.attempt .unicode)

namespace Literal

variable {ω : Type}

/-- The match of literal text at a position. -/
def attemptText (content : String) (input : Input ω) (position : Nat) : Match (Value ω) :=
  let chars := content.toList
  let stop := position + chars.length
  let found := match input with
    | .text t => t.between? position stop
    | .tokens _ => none
  if found = some chars then .success (.between position stop) (.text content)
  else .failure ("expected " ++ quote content) (.point position)

/-- The match of a pattern at a position: what is found in the text from there on, taken
alone. -/
def attemptPattern (expression : String) (finder : Finder) (input : Input ω)
    (position : Nat) : Match (Value ω) :=
  match input with
  | .text t =>
    let origin := t.byteOffset position
    match finder.find? (t.restFrom origin) with
    | some (first, last) =>
      .success (.between position (t.positionOf (origin + last)))
        (.text (String.ofList ((t.bytesBetween? (origin + first) (origin + last)).getD [])))
    | none => .failure ("expected /" ++ expression ++ "/") (.point position)
  | .tokens _ => .failure ("expected /" ++ expression ++ "/") (.point position)

/-- A pattern as it is compiled: in a group, behind the question whether the text starts
there. -/
def anchored (expression : String) : String := "^(?:" ++ expression ++ ")"

/-- How a literal is matched: the name of its leaf, and the match at each position; or
why it cannot be. -/
def attempt? (kind : InputKind) (l : Literal) :
    Except String (String × (Input ω → Nat → Match (Value ω))) :=
  match kind, l with
  | .tokens, _ => .error (l.display ++ " cannot be matched against this kind of input")
  | .ofText _, .text content => .ok ("literal", attemptText content)
  | .ofText language, .pattern expression =>
    match language.compile? (anchored expression) with
    | some finder => .ok ("pattern", attemptPattern expression finder)
    | none => .error ("invalid pattern /" ++ expression ++ "/: <regex error>")

/-- The kind of leaf that a literal stands for. -/
def blueprint? {ρ : Type} (kind : InputKind) (l : Literal) :
    Except String (Blueprint ω ρ) :=
  (attempt? kind l).map fun (name, attempt) =>
    ⟨name, 0, true, .label l.display, fun _ => .ofMatch attempt⟩

end Literal

end Packrat
