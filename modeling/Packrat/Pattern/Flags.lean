import Packrat.Pattern.NamedClass

/-!
# Flags and what is skipped

The flags that an expression can set for itself, and the blanks and comments that are
passed over where it asks for that.
-/

namespace Packrat.Pattern

/-- The flags in force at a place in an expression. -/
structure Flags where
  ignoreCase : Bool
  multiLine : Bool
  dotAll : Bool
  /-- Repetitions are reluctant unless marked, and not the other way round. -/
  swapGreed : Bool
  /-- Classes and boundaries know all scripts, and not ASCII alone. -/
  unicode : Bool
  /-- Blanks and comments in the expression mean nothing. -/
  extended : Bool
  /-- A carriage return before a line feed belongs to the line's end. -/
  returnLines : Bool

namespace Flags

/-- The flags at the start of an expression. -/
def start : Flags := ⟨false, false, false, false, true, false, false⟩

/-- Sets one flag, by its letter. -/
def set? (flags : Flags) (letter : Char) (on : Bool) : Option Flags :=
  match letter with
  | 'i' => some { flags with ignoreCase := on }
  | 'm' => some { flags with multiLine := on }
  | 's' => some { flags with dotAll := on }
  | 'U' => some { flags with swapGreed := on }
  | 'u' => some { flags with unicode := on }
  | 'x' => some { flags with extended := on }
  | 'R' => some { flags with returnLines := on }
  | _ => none

/-- A class with the variants in case that the flags ask for. -/
def fold (flags : Flags) (members : CharClass) : CharClass :=
  if flags.ignoreCase then
    if flags.unicode then .ignoringCase members else .ignoringAsciiCase members
  else members

/-- Without `unicode`, a class may hold ASCII characters only. -/
def admits (flags : Flags) (members : CharClass) : Bool :=
  flags.unicode ||
    !((List.range 128).any fun n => members.contains (Char.ofNat (n + 128)))

def digits (flags : Flags) : CharClass := if flags.unicode then .digits else .asciiDigits

def blanks (flags : Flags) : CharClass := if flags.unicode then .blanks else .asciiBlanks

def words (flags : Flags) : CharClass := if flags.unicode then .words else .asciiWords

/-- The classes behind `\d`, `\s` and `\w`, and behind the capital letters what those do
not hold. -/
def letterClass? (flags : Flags) (letter : Char) : Option CharClass :=
  match letter with
  | 'd' => some flags.digits
  | 's' => some flags.blanks
  | 'w' => some flags.words
  | 'D' => some (.complement flags.digits)
  | 'S' => some (.complement flags.blanks)
  | 'W' => some (.complement flags.words)
  | _ => none

end Flags

/-- Drops blanks and comments; `inComment` says that a comment has begun, which goes on
to the end of the line. -/
def skipBlanksFrom : Bool → List Char → List Char
  | _, [] => []
  | true, c :: rest => skipBlanksFrom (c != '\n') rest
  | false, c :: rest =>
    if c == '#' then skipBlanksFrom true rest
    else if whiteSpace.contains c then skipBlanksFrom false rest
    else c :: rest

/-- What is left after the blanks and comments that the flags pass over. -/
def skipBlanks (flags : Flags) (rest : List Char) : List Char :=
  if flags.extended then skipBlanksFrom false rest else rest

end Packrat.Pattern
