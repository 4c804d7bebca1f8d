import Packrat.Pattern.Flags

/-!
# Escapes

What may follow a backslash: a character that would mean something else without it, a
character by its number, a class, or a question about the place.  An escape that means
nothing is refused.
-/

namespace Packrat.Pattern

/-- What an escape stands for. -/
inductive Atom where
  | char (c : Char)
  | members (members : CharClass)
  | look (look : Look)

/-- The characters that mean something of their own in an expression. -/
def isMeta (c : Char) : Bool := "\\.+*?()|[]\x7b\x7d^$#&-~".toList.contains c

/-- The characters that a backslash may stand before without a meaning of its own. -/
def isEscapable (c : Char) : Bool :=
  isMeta c || (c.toNat < 128 && !c.isAlphanum && c != '<' && c != '>')

/-- The character that a number in hexadecimal denotes, if there is one. -/
def charOfHex? (digits : List Char) : Option Char :=
  let n := hexNumber digits
  if digits ≠ [] ∧ n < 0x110000 ∧ ¬(0xD800 ≤ n ∧ n < 0xE000) then some (Char.ofNat n) else none

/-- Reads `count` hexadecimal digits. -/
def readHexDigits (flags : Flags) : Nat → List Char → Option (List Char × List Char)
  | 0, rest => some ([], rest)
  | count + 1, rest =>
    match rest with
    | [] => none
    | c :: rest =>
      if (hexDigit? c).isSome then
        (readHexDigits flags count (skipBlanks flags rest)).map fun (digits, rest) =>
          (c :: digits, rest)
      else none

/-- Reads hexadecimal digits up to a closing brace, which `fuel` steps reach. -/
def readHexBraced (flags : Flags) : Nat → List Char → Option (List Char × List Char)
  | 0, _ => none
  | fuel + 1, rest =>
    match rest with
    | [] => none
    | '\x7d' :: rest => some ([], skipBlanks flags rest)
    | c :: rest =>
      if (hexDigit? c).isSome then
        (readHexBraced flags fuel (skipBlanks flags rest)).map fun (digits, rest) =>
          (c :: digits, rest)
      else none

/-- Reads the number of a character, in braces or with exactly `count` digits. -/
def readHex (flags : Flags) (count : Nat) (rest : List Char) : Option (Atom × List Char) :=
  let read := match skipBlanks flags rest with
    | '\x7b' :: rest =>
      readHexBraced flags (rest.length + 1) (skipBlanks flags rest)
    | rest => readHexDigits flags count rest
  read.bind fun (digits, rest) => do
    let c ← charOfHex? digits
    if flags.unicode || digits.length > 2 || c.toNat < 128 then some (.char c, rest) else none

/-- Reads a name up to a closing brace, which `fuel` steps reach. -/
def readBraced (flags : Flags) : Nat → List Char → Option (List Char × List Char)
  | 0, _ => none
  | fuel + 1, rest =>
    match rest with
    | [] => none
    | '\x7d' :: rest => some ([], rest)
    | c :: rest =>
      (readBraced flags fuel (skipBlanks flags rest)).map fun (name, rest) => (c :: name, rest)

/-- The text before and after the first place where `mark` stands. -/
def cutAt? (mark : List Char) : List Char → Option (List Char × List Char)
  | [] => none
  | c :: rest =>
    if mark.isPrefixOf (c :: rest) then some ([], (c :: rest).drop mark.length)
    else (cutAt? mark rest).map fun (before, after) => (c :: before, after)

/-- The class that stands in the braces of `\p`. -/
def bracedProperty? (name : List Char) : Option CharClass :=
  match cutAt? ['!', '='] name with
  | some (property, value) => (classValued? property value).map .complement
  | none =>
    match cutAt? [':'] name with
    | some (property, value) => classValued? property value
    | none =>
      match cutAt? ['='] name with
      | some (property, value) => classValued? property value
      | none => classNamed? name

/-- Reads a property after `\p` or `\P`. -/
def readProperty (flags : Flags) (negated : Bool) (rest : List Char) :
    Option (Atom × List Char) := do
  guard flags.unicode
  let (members?, rest) ← match skipBlanks flags rest with
    | [] => none
    | '\x7b' :: rest =>
      (readBraced flags (rest.length + 1) (skipBlanks flags rest)).map fun (name, rest) =>
        (bracedProperty? name, rest)
    | '\\' :: _ => none
    | c :: rest => some (classNamed? [c], skipBlanks flags rest)
  let members ← members?
  let folded := flags.fold members
  return (.members (if negated then .complement folded else folded), rest)

/-- The edges that a word boundary can be asked for by name. -/
def edgeNamed? (name : List Char) : Option WordEdge :=
  match String.ofList name with
  | "start" => some .start
  | "end" => some .stop
  | "start-half" => some .halfStart
  | "end-half" => some .halfStop
  | _ => none

/-- Reads what follows `\b`: a named edge in braces, or nothing. -/
def readBoundary (flags : Flags) (rest : List Char) : Option (Atom × List Char) :=
  let plain : Atom := .look (.word .boundary flags.words)
  let isNameChar (c : Char) : Bool := c.isAlpha || c == '-'
  match rest with
  | '\x7b' :: inner =>
    match skipBlanks flags inner with
    | [] => none
    | c :: inner =>
      if isNameChar c then do
        let (name, rest) ← readBraced flags (inner.length + 2) (c :: inner)
        guard (name.all isNameChar)
        let edge ← edgeNamed? name
        return (.look (.word edge flags.words), rest)
      else some (plain, rest)
  | _ => some (plain, rest)

/-- Reads what follows a backslash. -/
def readEscape (flags : Flags) (rest : List Char) : Option (Atom × List Char) :=
  match rest with
  | [] => none
  | c :: rest =>
    if c.isDigit then none
    else if c = 'x' then readHex flags 2 rest
    else if c = 'u' then readHex flags 4 rest
    else if c = 'U' then readHex flags 8 rest
    else if c = 'p' then readProperty flags false rest
    else if c = 'P' then readProperty flags true rest
    else if isEscapable c then some (.char c, rest)
    else
      match flags.letterClass? c with
      | some members => some (.members members, rest)
      | none =>
        match c with
        | 'a' => some (.char '\x07', rest)
        | 'f' => some (.char '\x0c', rest)
        | 't' => some (.char '\t', rest)
        | 'n' => some (.char '\n', rest)
        | 'r' => some (.char '\r', rest)
        | 'v' => some (.char '\x0b', rest)
        | 'A' => some (.look .textStart, rest)
        | 'z' => some (.look .textStop, rest)
        | 'b' => readBoundary flags rest
        | 'B' => some (.look (.word .inner flags.words), rest)
        | '<' => some (.look (.word .start flags.words), rest)
        | '>' => some (.look (.word .stop flags.words), rest)
        | _ => none

end Packrat.Pattern
