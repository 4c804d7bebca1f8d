import Packrat.Diagnostic.Source
import Packrat.Diagnostic.Style
import Packrat.Diagnostic.Window

/-!
# Fancy diagnostics

A diagnostic as a terminal shows it: the message, and a window on the source.
-/

namespace Packrat

/-- The characters that frames and marks are drawn with. -/
structure LineArt where
  vertical : Char
  horizontal : Char
  tee : Char
  up : Char

namespace LineArt

def unicode : LineArt := ⟨'│', '─', '┬', '↑'⟩

def ascii : LineArt := ⟨'|', '-', '+', '^'⟩

end LineArt

/-- A terminal that diagnostics are shown on. -/
structure Terminal where
  art : LineArt
  width : Nat
  coloured : Bool
  typesetter : Typesetter

namespace Terminal

/-- No terminal is taken to be narrower. -/
def leastWidth : Nat := 40

/-- A terminal of a width, or of the least one. -/
def new (art : LineArt) (width : Nat) (coloured : Bool) : Terminal :=
  ⟨art, max width leastWidth, coloured, .standard⟩

/-- A character a number of times. -/
def run (c : Char) (count : Nat) : String := String.ofList (List.replicate count c)

/-- What stands left of the source in a row: a line number or nothing, and a bar. -/
def gutter (t : Terminal) (width : Nat) (content : String) : List Signal :=
  Style.frame.paint
    (run ' ' (width - content.length) ++ content ++ String.singleton t.art.vertical ++ " ")

/-- A row of a window, as a line. -/
def row (t : Terminal) (gutterWidth : Nat) : Row → List Signal
  | .edge length label =>
    Style.frame.paint
        (run t.art.horizontal gutterWidth ++ String.singleton t.art.tee ++
          run t.art.horizontal length) ++
      [.text ((if label.isEmpty then "" else " " ++ label) ++ "\n")]
  | .line number text =>
    t.gutter gutterWidth (number + 1).toNat.repr ++ [.text (String.ofList text ++ "\n")]
  | .marks left length note =>
    t.gutter gutterWidth "" ++ .text (run ' ' left) :: Style.mark.paint (run t.art.up length) ++
      (match note with
        | some note => .text " " :: Style.note.paint note
        | none => []) ++ [.text "\n"]
  | .note indent text =>
    t.gutter gutterWidth "" ++ .text (run ' ' indent) :: Style.note.paint text ++ [.text "\n"]

/-- The window on the source of a diagnostic, if it has one and there is something to
point at. -/
def window (t : Terminal) (d : Diagnostic) (sources : Sources) : List Signal :=
  match d.source.bind sources.find? with
  | some source =>
    if d.highlights.isEmpty then []
    else
      (Window.rows t.typesetter d.highlights source.text.toList source.name t.width).flatMap
        (t.row (Window.gutterWidth d.highlights))
  | none => []

/-- The words of a message: its text, and where the problem is. -/
def words (d : Diagnostic) (sources : Sources) : String :=
  match sources.nameOf? d, d.location with
  | some name, some location => d.text ++ " (" ++ name ++ ":" ++ location.display ++ ")"
  | none, some location => d.text ++ " (" ++ location.display ++ ")"
  | _, none => d.text

/-- The message, with the level before its first line. -/
def message (t : Terminal) (d : Diagnostic) (sources : Sources) : List Signal :=
  let level := d.level.name ++ ": "
  let lines := t.typesetter.wrap (t.width - level.length) (words d sources)
  (Style.level d.level).paint level ++ .text (lines.headD "" ++ "\n") ::
    lines.tail.map fun line => .text (run ' ' level.length ++ line ++ "\n")

/-- All that a terminal is told of a diagnostic. -/
def signals (t : Terminal) (d : Diagnostic) (sources : Sources) : List Signal :=
  t.message d sources ++ t.window d sources

/-- All that is shown of a diagnostic. -/
def present (t : Terminal) (d : Diagnostic) (sources : Sources) : String :=
  String.join ((t.signals d sources).map (Signal.spell t.coloured))

end Terminal

end Packrat
