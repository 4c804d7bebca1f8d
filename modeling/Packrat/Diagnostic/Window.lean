import Packrat.Diagnostic
import Packrat.Text.Typesetter

/-!
# Windows

A window shows the lines of a source that highlights are on.  Under each line the
highlighted columns are marked, and where a highlight ends stands its note: beside the
marks if there is room, or else below them.

Lines and their characters are numbered by machine words, as they are in carets.
-/

namespace Packrat

/-- One row of a window. -/
inductive Row where
  /-- The upper edge, so many columns long, with a label at its end. -/
  | edge (length : Nat) (label : String)
  /-- A line of the source. -/
  | line (number : UInt32) (text : List Char)
  /-- Marks under columns of the line above, and perhaps a note beside them. -/
  | marks (left length : Nat) (note : Option String)
  /-- A note, or more of one. -/
  | note (indent : Nat) (text : String)

namespace Window

/-- The line that the first highlight starts on. -/
def firstLine (highlights : List Highlight) : UInt32 :=
  ((highlights.map fun h => h.region.start.line).min?).getD 0

/-- The line that the last highlight to end does so on. -/
def lastLine (highlights : List Highlight) : UInt32 :=
  ((highlights.map fun h => h.region.stop.line).max?).getD 0

/-- A line without the carriage return at its end. -/
def withoutReturn (line : List Char) : List Char :=
  if line.getLast? == some '\r' then line.dropLast else line

/-- The lines of a text.  A line feed ends a line, with a carriage return before it if
there is one; what follows the last line feed is a line unless it is empty. -/
def linesOf (text : List Char) : List (List Char) :=
  let pieces := splitList '\n' text
  pieces.dropLast.map withoutReturn ++ pieces.getLast?.toList.filter fun line => !line.isEmpty

/-- The lines that are shown, with their numbers.  A text has empty lines past its end. -/
def shownLines (highlights : List Highlight) (text : List Char) :
    List (UInt32 × List Char) :=
  let first := firstLine highlights
  let rest := (linesOf text).drop first.toNat
  (List.range (lastLine highlights - first + 1).toNat).map fun index =>
    (UInt32.ofNat index + first, rest[index]?.getD [])

/-- The columns that the characters of a line take between two places of the line.  Places
past its end count as blanks. -/
def columnsBetween (typesetter : Typesetter) (line : List Char) (start stop : UInt32) : Nat :=
  let start := min start stop
  typesetter.columns ((line.drop start.toNat).take (stop.toNat - start.toNat)) +
    (stop.toNat - (max (UInt32.ofNat line.length) start).toNat)

/-- The region of a whole line. -/
def lineRegion (number : UInt32) (line : List Char) : Region :=
  .between ⟨number, 0⟩ ⟨number, UInt32.ofNat line.length⟩

/-- What is marked on a line for a highlight: the columns before the marks, and how many
columns are marked, which is at least one. -/
def marksFor (typesetter : Typesetter) (line : List Char) (part : Region) : Nat × Nat :=
  (columnsBetween typesetter line 0 part.start.column,
    max (columnsBetween typesetter line part.start.column part.stop.column) 1)

/-- The width of the line numbers. -/
def gutterWidth (highlights : List Highlight) : Nat :=
  (lastLine highlights + 1).toNat.repr.length

/-- The columns that are left for the source; two stand between it and the numbers. -/
def codeWidth (highlights : List Highlight) (width : Nat) : Nat :=
  width - (gutterWidth highlights + 2)

/-- A note beside marks has at least so many columns. -/
def leastMargin : Nat := 20

/-- The rows of marks with a note that ends there, if one does, where `width` columns are
for the source. -/
def markRows (typesetter : Typesetter) (width left length : Nat) (note : Option String) :
    List Row :=
  match note with
  | none => [.marks left length none]
  | some note =>
    if leastMargin ≤ width - (left + length) then
      let indent := left + length + 1
      let lines := typesetter.wrap (width - indent) note
      .marks left length (some (lines.head (typesetter.wrap_ne_nil _ _))) ::
        lines.tail.map (.note indent)
    else .marks left length none :: (typesetter.wrap width note).map (.note 0)

/-- The rows under a line for one highlight: none if it is not on the line. -/
def highlightRows (typesetter : Typesetter) (width : Nat) (number : UInt32) (line : List Char)
    (h : Highlight) : List Row :=
  match h.region.intersection (lineRegion number line) with
  | none => []
  | some part =>
    let (left, length) := marksFor typesetter line part
    markRows typesetter width left length
      (if part.stop = h.region.stop then some h.note else none)

/-- The rows for a line of the source. -/
def lineRows (typesetter : Typesetter) (highlights : List Highlight) (width : Nat)
    (number : UInt32) (line : List Char) : List Row :=
  .line number line :: highlights.flatMap (highlightRows typesetter width number line)

/-- The rows of a window, `width` columns wide, on a text. -/
def rows (typesetter : Typesetter) (highlights : List Highlight) (text : List Char)
    (label : String) (width : Nat) : List Row :=
  let code := codeWidth highlights width
  .edge (code - (typesetter.columns label.toList + 1)) label ::
    (shownLines highlights text).flatMap fun (number, line) =>
      lineRows typesetter highlights code number line

end Window

end Packrat
