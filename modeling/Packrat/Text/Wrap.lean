import Packrat.Text
import Packrat.Text.LineBreak
import Packrat.Text.Width

/-!
# Wrapping

Breaks text into lines of a given width.  A line is cut into fragments, which stay
whole: words, the parts of words with hyphens, and slices of words that are too long for
a line.  Of all ways to put the fragments on lines the cheapest is taken, so lines come
out about equally full.  Blanks at the end of a line are dropped.

Control sequences of terminals take no room.
-/

namespace Packrat.Wrap

/-- Characters that are printed together: one that is shown, or a control sequence. -/
structure Printed where
  chars : List Char
  shown : Option Char

/-- Whether a character ends a control sequence. -/
def endsSequence (c : Char) : Bool := '@' ≤ c && c ≤ '~'

/-- A control sequence that has begun, up to its end, if it has one. -/
def sequenceFrom : List Char → List Char → Option (List Char × List Char)
  | _, [] => none
  | taken, c :: rest =>
    if endsSequence c then some ((c :: taken).reverse, rest) else sequenceFrom (c :: taken) rest

/-- What is printed first.  An escape takes what follows it along: a control sequence
that begins with a bracket, whole and not shown, or else one character. -/
def printedFirst (c : Char) (rest : List Char) : Printed × List Char :=
  if c ≠ '\x1b' then (⟨[c], some c⟩, rest)
  else
    match rest with
    | '[' :: body =>
      match sequenceFrom ['[', c] body with
      | some (chars, rest) => (⟨chars, none⟩, rest)
      | none => (⟨c :: '[' :: body, some c⟩, [])
    | other :: rest => (⟨[c, other], some c⟩, rest)
    | [] => (⟨[c], some c⟩, [])

/-- What is printed, given at most `fuel` characters. -/
def printedFrom : Nat → List Char → List Printed
  | 0, _ => []
  | _, [] => []
  | fuel + 1, c :: rest =>
    let (first, rest) := printedFirst c rest
    first :: printedFrom fuel rest

/-- What is printed, one after the other. -/
def printed (chars : List Char) : List Printed := printedFrom chars.length chars

/-- The columns of a character; control characters take none. -/
def columns (c : Char) : Nat :=
  if c < ' ' || ('\x7f' ≤ c && c < '\u00a0') then 0 else charWidth c

/-- The columns of what is printed together. -/
def Printed.width (p : Printed) : Nat := (p.shown.map columns).getD 0

/-- The columns of a piece of a line. -/
def width (chars : List Char) : Nat :=
  (printed chars).foldr (fun p total => p.width + total) 0

/-- A part of a line that stays whole, and the blanks after it. -/
structure Fragment where
  text : List Char
  width : Nat
  blanks : Nat

/-- A part of a line, with the blanks at its end apart. -/
def Fragment.ofChars (chars : List Char) : Fragment :=
  let text := (chars.reverse.dropWhile (· == ' ')).reverse
  ⟨text, Wrap.width text, chars.length - text.length⟩

/-- Whether a line is not broken after a character although the line breaking algorithm
would: hyphens have rules of their own. -/
def holdsOn (c : Char) : Bool := c == '-' || c == '\u00ad'

/-- How many shown characters come before each place between two words. -/
def wordEnds (shown : List Char) : List Nat :=
  let step := fun (ends, count) (piece : List Char) =>
    let count := count + piece.length
    (if piece.getLast?.any holdsOn then ends else count :: ends, count)
  ((LineBreak.pieces shown).foldl step ([], 0)).1.reverse.dropLast

/-- Cuts what is printed where so many characters have been shown, given how many have
been and the characters of the word so far. -/
def cutAt (ends : List Nat) (count : Nat) (word : List Char) : List Printed → List (List Char)
  | [] => if word.isEmpty then [] else [word]
  | p :: rest =>
    let after := count + (if p.shown.isSome then 1 else 0)
    match ends with
    | stop :: later =>
      if stop == count then word :: cutAt later after p.chars rest
      else cutAt ends after (word ++ p.chars) rest
    | [] => cutAt [] after (word ++ p.chars) rest

/-- The words of a line, each with the blanks after it. -/
def words (line : List Char) : List (List Char) :=
  let all := printed line
  cutAt (wordEnds (all.filterMap Printed.shown)) 0 [] all

/-- Whether a character is a letter or a digit, in the widest sense. -/
def isAlphanumeric (c : Char) : Bool := alphabetic.contains c || inCategoryGroup 'N' c

/-- Cuts a word after each hyphen that stands between letters or digits, given the part
so far in reverse. -/
def hyphenParts : List Char → List Char → List (List Char)
  | part, [] => [part.reverse]
  | part, c :: rest =>
    if c == '-' && part.head?.any isAlphanumeric && rest.head?.any isAlphanumeric then
      (c :: part).reverse :: hyphenParts [] rest
    else hyphenParts (c :: part) rest

/-- The parts of a word that may stand on different lines. -/
def Fragment.split (word : Fragment) : List Fragment :=
  let parts := hyphenParts [] word.text
  parts.dropLast.map (fun part => ⟨part, Wrap.width part, 0⟩) ++
    (parts.getLast?.map fun part => ⟨part, Wrap.width part, word.blanks⟩).toList

/-- Slices what is printed into pieces that are no wider than `limit`, if they can be,
given the slice so far and its width. -/
def slices (limit : Nat) (slice : List Char) (taken : Nat) :
    List Printed → List (List Char × Nat)
  | [] => [(slice, taken)]
  | p :: rest =>
    if p.shown.isSome && 0 < taken && limit < taken + p.width then
      (slice, taken) :: slices limit p.chars p.width rest
    else slices limit (slice ++ p.chars) (taken + p.width) rest

/-- Slices a fragment that is wider than a line. -/
def Fragment.slice (limit : Nat) (f : Fragment) : List Fragment :=
  if f.width ≤ limit then [f]
  else
    let parts := slices limit [] 0 (printed f.text)
    parts.dropLast.map (fun (text, width) => ⟨text, width, 0⟩) ++
      (parts.getLast?.map fun (text, width) => ⟨text, width, f.blanks⟩).toList

/-- The fragments of a line. -/
def fragments (limit : Nat) (line : List Char) : List Fragment :=
  ((words line).flatMap fun word => (Fragment.ofChars word).split).flatMap (Fragment.slice limit)

/-- What it costs to have so much text on one line of a given width.  Every line costs,
one that is too long costs for each column too many, and one that is not full by the
square of the gap; the last line only costs more where it is a single short fragment. -/
def lineCost (limit width : Nat) (last single : Bool) : Nat :=
  1000 +
    (if limit < width then 2500 * (width - limit)
    else if !last then (limit - width) * (limit - width)
    else if single && 4 * width < limit then 25
    else 0)

/-- The cheapest way to put the fragments before a place on lines: where its last line
starts, and what it costs. -/
structure Best where
  start : Nat
  cost : Nat

/-- The columns of each fragment and its blanks, added up. -/
def offsets (fragments : List Fragment) : Array Nat :=
  fragments.foldl (fun sums f => sums.push (sums.back?.getD 0 + f.width + f.blanks)) #[0]

/-- The cheapest way for a place, given those for the places before it.  Of equals the
one with the longest last line is taken. -/
def bestBefore (limit : Nat) (all : Array Fragment) (sums : Array Nat) (known : Array Best)
    (place : Nat) : Best :=
  let blanks := (all[place - 1]?.map Fragment.blanks).getD 0
  let candidate (start : Nat) : Best :=
    let width := sums.getD place 0 - sums.getD start 0 - blanks
    let before := (known[start]?.map Best.cost).getD 0
    ⟨start, before + lineCost limit width (place == all.size) (start + 1 == place)⟩
  (List.range place).foldl
    (fun best start =>
      let next := candidate start
      if start ≠ 0 ∧ best.cost ≤ next.cost then best else next)
    ⟨0, 0⟩

/-- The cheapest way for every place. -/
def bestWays (limit : Nat) (fragments : List Fragment) : Array Best :=
  let all := fragments.toArray
  let sums := offsets fragments
  (List.range all.size).foldl
    (fun known place => known.push (bestBefore limit all sums known (place + 1))) #[⟨0, 0⟩]

/-- The lines of the cheapest way for a place, given those after it. -/
def linesBefore (fragments : List Fragment) (ways : Array Best) :
    Nat → Nat → List (List Fragment) → List (List Fragment)
  | 0, _, lines => lines
  | fuel + 1, place, lines =>
    if place = 0 then lines
    else
      let start := (ways[place]?.map Best.start).getD 0
      linesBefore fragments ways fuel start
        (((fragments.drop start).take (place - start)) :: lines)

/-- Puts fragments on lines in the cheapest way. -/
def layOut (limit : Nat) (fragments : List Fragment) : List (List Fragment) :=
  linesBefore fragments (bestWays limit fragments) fragments.length fragments.length []

/-- The text of a line of fragments, without the blanks at its end. -/
def lineText : List Fragment → List Char
  | [] => []
  | [f] => f.text
  | f :: rest => f.text ++ List.replicate f.blanks ' ' ++ lineText rest

/-- Breaks a line of text. -/
def wrapLine (limit : Nat) (line : List Char) : List (List Char) :=
  if Text.byteLength line < limit then [(line.reverse.dropWhile (· == ' ')).reverse]
  else
    match layOut limit (fragments limit line) with
    | [] => [[]]
    | lines => lines.map lineText

/-- Breaks a text into lines that are at most so many columns wide, as far as that can
be. -/
def wrap (limit : Nat) (text : String) : List String :=
  let limit := max limit 1
  ((splitList '\n' text.toList).flatMap (wrapLine limit)).map String.ofList

theorem wrapLine_ne_nil (limit : Nat) (line : List Char) : wrapLine limit line ≠ [] := by
  unfold wrapLine
  split
  next => exact List.cons_ne_nil _ _
  next =>
    split
    next => exact List.cons_ne_nil _ _
    next lines => exact fun none => lines (List.map_eq_nil_iff.mp none)

/-- Even of nothing there is one line. -/
theorem wrap_ne_nil (limit : Nat) (text : String) : wrap limit text ≠ [] := by
  intro none
  have noLines := List.flatMap_eq_nil_iff.mp (List.map_eq_nil_iff.mp none)
  obtain ⟨piece, pieces, isSplit⟩ := List.exists_cons_of_ne_nil (splitList_ne_nil '\n' text.toList)
  exact wrapLine_ne_nil _ piece (noLines piece (isSplit ▸ List.mem_cons_self))

end Packrat.Wrap
