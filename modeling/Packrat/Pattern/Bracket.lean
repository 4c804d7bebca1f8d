import Packrat.Pattern.Escape

/-!
# Bracketed classes

A class in brackets is a union of characters, ranges, escapes, named ASCII classes and
further brackets.  Unions can be intersected (`&&`) and subtracted (`--`, `~~`), from
the left and without precedence.
-/

namespace Packrat.Pattern

/-- A class that has been read, and how deeply it is nested. -/
structure ClassItem where
  members : CharClass
  depth : Nat

/-- The operators between unions. -/
inductive ClassOperator where
  | intersection
  | difference
  | symmetricDifference

def ClassOperator.apply : ClassOperator → CharClass → CharClass → CharClass
  | intersection => .intersection
  | difference => .difference
  | symmetricDifference => .symmetricDifference

/-- What is waiting while a union is read: an operator for its right-hand side, or the
bracket around for the closing one. -/
inductive ClassFrame where
  | operator (operator : ClassOperator) (left : ClassItem)
  | bracket (outer : List ClassItem) (negated : Bool)

/-- The union of some items, the last of which was read last. -/
def unionOf (items : List ClassItem) : ClassItem :=
  match items with
  | [] => ⟨.empty, 0⟩
  | [only] => only
  | _ =>
    ⟨.ofList (items.reverse.map ClassItem.members), (items.map ClassItem.depth).foldl max 0 + 1⟩

/-- Applies the operator that waits for a right-hand side, if one does. -/
def applyWaiting (flags : Flags) (right : ClassItem) :
    List ClassFrame → ClassItem × List ClassFrame
  | .operator operator left :: stack =>
    (⟨operator.apply (flags.fold left.members) (flags.fold right.members),
      max left.depth right.depth + 1⟩, stack)
  | stack => (right, stack)

/-- Reads hyphens at the start of a class, which stand for themselves. -/
def readHyphens (flags : Flags) : Nat → List Char → List ClassItem → List Char × List ClassItem
  | fuel + 1, '-' :: rest, items =>
    readHyphens flags fuel (skipBlanks flags rest) (⟨.single '-', 0⟩ :: items)
  | _, rest, items => (rest, items)

/-- Reads what follows an opening bracket: whether the class is negated, and the
hyphens or the closing bracket that stand for themselves there. -/
def openBracket (flags : Flags) (rest : List Char) : List Char × Bool × List ClassItem :=
  let rest := skipBlanks flags rest
  let (rest, negated) := match rest with
    | '^' :: rest => (skipBlanks flags rest, true)
    | rest => (rest, false)
  let (rest, items) := readHyphens flags rest.length rest []
  match rest, items with
  | ']' :: rest, [] => (skipBlanks flags rest, negated, [⟨.single ']', 0⟩])
  | rest, items => (rest, negated, items)

/-- Reads a named ASCII class after its opening bracket. -/
def readAsciiClass? (rest : List Char) : Option (ClassItem × List Char) :=
  match rest with
  | ':' :: rest => do
    let (negated, rest) := match rest with
      | '^' :: rest => (true, rest)
      | rest => (false, rest)
    let name := rest.takeWhile (· != ':')
    match rest.dropWhile (· != ':') with
    | ':' :: ']' :: rest =>
      let members ← asciiClass? (String.ofList name)
      some (⟨if negated then .complement members else members, 0⟩, rest)
    | _ => none
  | _ => none

/-- Reads one character or escape in a class. -/
def readClassAtom (flags : Flags) (rest : List Char) : Option (Atom × List Char) :=
  match rest with
  | '\\' :: rest => readEscape flags rest
  | c :: rest => some (.char c, rest)
  | [] => none

/-- Reads a character, an escape or a range in a class. -/
def readRange (flags : Flags) (rest : List Char) : Option (ClassItem × List Char) := do
  let (first, rest) ← readClassAtom flags rest
  let rest := skipBlanks flags rest
  let afterHyphen := (skipBlanks flags (rest.drop 1)).head?
  if rest.head? = some '-' ∧ afterHyphen ≠ some ']' ∧ afterHyphen ≠ some '-' then
    let (last, rest) ← readClassAtom flags (skipBlanks flags (rest.drop 1))
    match first, last with
    | .char low, .char high =>
      if low.toNat ≤ high.toNat then some (⟨.range low.toNat high.toNat, 0⟩, rest) else none
    | _, _ => none
  else
    match first with
    | .char c => some (⟨.single c, 0⟩, rest)
    | .members members => some (⟨members, 0⟩, rest)
    | .look _ => none

/-- Closes a bracket around a union. -/
def closeBracket (flags : Flags) (negated : Bool) (item : ClassItem) : ClassItem :=
  let folded := flags.fold item.members
  ⟨if negated then .complement folded else folded, item.depth + 1⟩

/-- Reads the rest of a bracketed class, of which `items` and `stack` have been read. -/
def readClassFrom (flags : Flags) :
    Nat → List Char → List ClassItem → List ClassFrame → Option (ClassItem × List Char)
  | 0, _, _, _ => none
  | fuel + 1, rest, items, stack =>
    let operate (operator : ClassOperator) (rest : List Char) :
        Option (ClassItem × List Char) :=
      let (left, stack) := applyWaiting flags (unionOf items) stack
      readClassFrom flags fuel rest [] (.operator operator left :: stack)
    match skipBlanks flags rest with
    | [] => none
    | '[' :: rest =>
      match readAsciiClass? rest with
      | some (item, rest) => readClassFrom flags fuel rest (item :: items) stack
      | none =>
        let (rest, negated, inner) := openBracket flags rest
        readClassFrom flags fuel rest inner (.bracket items negated :: stack)
    | ']' :: rest =>
      match applyWaiting flags (unionOf items) stack with
      | (item, .bracket outer negated :: stack) =>
        let closed := closeBracket flags negated item
        if stack.isEmpty then some (closed, rest)
        else readClassFrom flags fuel rest (closed :: outer) stack
      | _ => none
    | '&' :: '&' :: rest => operate .intersection rest
    | '-' :: '-' :: rest => operate .difference rest
    | '~' :: '~' :: rest => operate .symmetricDifference rest
    | rest => do
      let (item, rest) ← readRange flags rest
      readClassFrom flags fuel rest (item :: items) stack

/-- Reads a bracketed class after its opening bracket. -/
def readClass (flags : Flags) (rest : List Char) : Option (ClassItem × List Char) := do
  let (rest', negated, items) := openBracket flags rest
  let (item, after) ←
    readClassFrom flags (rest.length + 1) rest' items [.bracket [] negated]
  if flags.admits item.members then some (item, after) else none

end Packrat.Pattern
