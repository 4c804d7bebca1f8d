import Packrat.Pattern.Bracket

/-!
# Reading expressions

A regular expression is read from left to right.  Open groups wait on a stack with the
alternatives and the flags from before them, and come off it at their closing
parenthesis.  An expression that is not well formed has no reading.
-/

namespace Packrat.Pattern

/-- A part of an expression that has been read. -/
structure Piece where
  regex : Regex
  /-- How deeply it is nested. -/
  depth : Nat
  /-- Whether a repetition may follow it.  Flags that stand alone cannot be repeated. -/
  repeatable : Bool

/-- What stands before an open group. -/
structure OpenGroup where
  pieces : List Piece
  choices : List Piece
  flags : Flags

/-- How far reading has come.  What was read last stands first in each list. -/
structure Reader where
  rest : List Char
  flags : Flags
  pieces : List Piece
  choices : List Piece
  groups : List OpenGroup
  /-- The names that groups have been given. -/
  names : List (List Char)

namespace Reader

/-- The deepest nesting that is read. -/
def depthLimit : Nat := 250

/-- The parts of one alternative as one piece. -/
def sequenceOf (pieces : List Piece) : Piece :=
  match pieces with
  | [] => ⟨.empty, 0, true⟩
  | [only] => only
  | _ =>
    ⟨.ofSequence (pieces.reverse.map Piece.regex), (pieces.map Piece.depth).foldl max 0 + 1, true⟩

/-- All alternatives as one piece. -/
def choiceOf (pieces choices : List Piece) : Piece :=
  match choices with
  | [] => sequenceOf pieces
  | _ =>
    let all := sequenceOf pieces :: choices
    ⟨.ofChoices (all.reverse.map Piece.regex), (all.map Piece.depth).foldl max 0 + 1, true⟩

def push (r : Reader) (regex : Regex) (rest : List Char) : Reader :=
  { r with rest, pieces := ⟨regex, 0, true⟩ :: r.pieces }

/-- A question about the place, as the flags have it. -/
def lineStart (flags : Flags) : Look :=
  if flags.multiLine then if flags.returnLines then .returnLineStart else .lineStart
  else .textStart

def lineStop (flags : Flags) : Look :=
  if flags.multiLine then if flags.returnLines then .returnLineStop else .lineStop
  else .textStop

/-- The characters that a dot stands for. -/
def dot? (flags : Flags) : Option CharClass :=
  if !flags.unicode then none
  else if flags.dotAll then some .any
  else if flags.returnLines then some (.complement (.union (.single '\n') (.single '\r')))
  else some (.complement (.single '\n'))

def ofAtom? (flags : Flags) : Atom → Option Regex
  | .char c => some (.one (flags.fold (.single c)))
  | .members members => if flags.admits members then some (.one members) else none
  | .look look => some (.look look)

/-- Reads flags up to the colon or parenthesis after them, which is not read.  `seen`
holds the letters so far, and a hyphen for the one that turns flags off. -/
def readFlags (fuel : Nat) (rest seen : List Char) (flags : Flags) :
    Option (Flags × List Char × List Char) :=
  match fuel, rest with
  | 0, _ => none
  | _, [] => none
  | fuel + 1, c :: rest =>
    if c = ':' ∨ c = ')' then
      if seen.head? = some '-' then none else some (flags, seen, c :: rest)
    else if seen.contains c then none
    else if c = '-' then readFlags fuel rest (c :: seen) flags
    else do
      let flags ← flags.set? c (!seen.contains '-')
      readFlags fuel rest (c :: seen) flags

/-- Whether a character can stand in the name of a group. -/
def isNameChar (first : Bool) (c : Char) : Bool :=
  c == '_' || alphabetic.contains c ||
    (!first && (c == '.' || c == '[' || c == ']' || inCategoryGroup 'N' c))

/-- Opens a group whose inside starts at `rest`. -/
def openGroup (r : Reader) (flags : Flags) (rest : List Char) : Reader :=
  { r with
    rest
    flags
    pieces := []
    choices := []
    groups := ⟨r.pieces, r.choices, r.flags⟩ :: r.groups }

/-- Opens a group with a name. -/
def openNamed (r : Reader) (rest : List Char) : Option Reader :=
  let name := rest.takeWhile (· != '>')
  match name, rest.dropWhile (· != '>') with
  | first :: others, '>' :: after =>
    if isNameChar true first && others.all (isNameChar false) && !r.names.contains name then
      some { r.openGroup r.flags after with names := name :: r.names }
    else none
  | _, _ => none

/-- Reads what follows an opening parenthesis. -/
def readGroup (r : Reader) (rest : List Char) : Option Reader :=
  match skipBlanks r.flags rest with
  | '?' :: 'P' :: '<' :: rest => r.openNamed rest
  | '?' :: '=' :: _ => none
  | '?' :: '!' :: _ => none
  | '?' :: '<' :: '=' :: _ => none
  | '?' :: '<' :: '!' :: _ => none
  | '?' :: '<' :: rest => r.openNamed rest
  | '?' :: rest => do
    let (flags, seen, rest) ← readFlags (rest.length + 1) rest [] r.flags
    match rest with
    | ':' :: rest => some (r.openGroup flags rest)
    | ')' :: rest =>
      if seen.isEmpty then none
      else some { r with rest, flags, pieces := ⟨.empty, 0, false⟩ :: r.pieces }
    | _ => none
  | rest => some (r.openGroup r.flags rest)

/-- Closes the innermost group. -/
def closeGroup (r : Reader) (rest : List Char) : Option Reader :=
  match r.groups with
  | [] => none
  | group :: groups =>
    let inside := choiceOf r.pieces r.choices
    some { r with
      rest
      flags := group.flags
      pieces := ⟨inside.regex, inside.depth + 1, true⟩ :: group.pieces
      choices := group.choices
      groups }

/-- Repeats the last piece.  A question mark after the repetition makes it reluctant. -/
def repeatLast (r : Reader) (least : Nat) (most : Option Nat) (rest : List Char) :
    Option Reader :=
  match r.pieces with
  | [] => none
  | last :: pieces =>
    if last.repeatable then
      let (greedy, rest) := match rest with
        | '?' :: rest => (false, rest)
        | rest => (true, rest)
      let regex := Regex.iterate last.regex least most (greedy != r.flags.swapGreed)
      some { r with rest, pieces := ⟨regex, last.depth + 1, true⟩ :: pieces }
    else none

/-- The largest count that a repetition can be given. -/
def largestRepeat : Nat := 4294967295

/-- Reads a count, with blanks around it.  There may be no digits. -/
def readCount (flags : Flags) (rest : List Char) : Option (Option Nat × List Char) :=
  let rest := rest.dropWhile whiteSpace.contains
  let digits (fuel : Nat) (rest : List Char) : List Char × List Char :=
    fuel.fold (fun _ _ (read : List Char × List Char) =>
      match read.2 with
      | c :: rest => if c.isDigit then (c :: read.1, skipBlanks flags rest) else read
      | [] => read) ([], rest)
  let (read, rest) := digits rest.length rest
  let rest := rest.dropWhile whiteSpace.contains
  if read.isEmpty then some (none, rest)
  else
    let count := read.reverse.foldl (fun n c => 10 * n + (c.toNat - '0'.toNat)) 0
    if count ≤ largestRepeat then some (some count, rest) else none

/-- Reads a repetition in braces after the opening one. -/
def readCounted (r : Reader) (rest : List Char) : Option Reader := do
  guard ((r.pieces.head?.map Piece.repeatable).getD false)
  let (first?, rest) ← readCount r.flags (skipBlanks r.flags rest)
  let least ← first?
  match rest with
  | '\x7d' :: rest => r.repeatLast least (some least) (skipBlanks r.flags rest)
  | ',' :: rest =>
    match skipBlanks r.flags rest with
    | '\x7d' :: rest => r.repeatLast least none (skipBlanks r.flags rest)
    | rest =>
      let (second?, rest) ← readCount r.flags rest
      let most ← second?
      match rest with
      | '\x7d' :: rest =>
        if least ≤ most then r.repeatLast least (some most) (skipBlanks r.flags rest) else none
      | _ => none
  | _ => none

/-- Reads the next part of an expression. -/
def next (r : Reader) (c : Char) (rest : List Char) : Option Reader :=
  match c with
  | '(' => r.readGroup rest
  | ')' => r.closeGroup rest
  | '|' => some { r with rest, pieces := [], choices := sequenceOf r.pieces :: r.choices }
  | '[' => do
    let (item, rest) ← readClass r.flags rest
    return { r with rest, pieces := ⟨.one item.members, item.depth, true⟩ :: r.pieces }
  | '?' => r.repeatLast 0 (some 1) rest
  | '*' => r.repeatLast 0 none rest
  | '+' => r.repeatLast 1 none rest
  | '\x7b' => r.readCounted rest
  | '\\' => do
    let (atom, rest) ← readEscape r.flags rest
    let regex ← ofAtom? r.flags atom
    return r.push regex rest
  | '.' => (dot? r.flags).map fun members => r.push (.one members) rest
  | '^' => some (r.push (.look (lineStart r.flags)) rest)
  | '$' => some (r.push (.look (lineStop r.flags)) rest)
  | c => some (r.push (.one (r.flags.fold (.single c))) rest)

/-- Reads to the end. -/
def toEnd : Nat → Reader → Option Reader
  | 0, _ => none
  | fuel + 1, r =>
    match skipBlanks r.flags r.rest with
    | [] => some r
    | c :: rest => (r.next c rest).bind (toEnd fuel)

end Reader

/-- Reads an expression, if it is well formed. -/
def read? (expression : List Char) : Option Regex := do
  let r ← Reader.toEnd (expression.length + 1) ⟨expression, .start, [], [], [], []⟩
  let whole := Reader.choiceOf r.pieces r.choices
  if r.groups.isEmpty ∧ whole.depth ≤ Reader.depthLimit then some whole.regex else none

end Packrat.Pattern
