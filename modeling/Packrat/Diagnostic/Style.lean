import Packrat.Diagnostic

/-!
# Styles

How parts of a message look on a terminal.  A terminal is told when to change how text
looks and what text to show.  One with colours is told by control sequences between the
texts; elsewhere the texts stand alone.
-/

namespace Packrat

/-- The colours of a terminal that are made use of. -/
inductive Colour where
  | red
  | green
  | yellow
  | blue
  | cyan
deriving DecidableEq

/-- The number of a colour in control sequences. -/
def Colour.number : Colour → Nat
  | red => 1
  | green => 2
  | yellow => 3
  | blue => 4
  | cyan => 6

/-- How a text looks. -/
structure Style where
  bold : Bool
  dimmed : Bool
  colour : Option Colour
deriving DecidableEq

/-- What a terminal is told. -/
inductive Signal where
  /-- Text looks like this from here on. -/
  | style (style : Style)
  /-- Text looks as usual again. -/
  | plain
  | text (text : String)

namespace Style

/-- Line numbers and the frame of a window. -/
def frame : Style := ⟨false, true, none⟩

/-- What points at a highlight. -/
def mark : Style := ⟨true, false, some .yellow⟩

def note : Style := ⟨false, false, some .blue⟩

/-- The word for a level. -/
def level : Level → Style
  | .error => ⟨true, false, some .red⟩
  | .help => ⟨true, false, some .green⟩
  | .info => ⟨true, false, some .cyan⟩

/-- A control sequence that changes how text looks. -/
def control (code : Nat) : String := "\x1b[" ++ code.repr ++ "m"

/-- The control sequences that switch the style on. -/
def switchOn (style : Style) : String :=
  control 0 ++ (if style.bold then control 1 else "") ++
    (if style.dimmed then control 2 else "") ++
    match style.colour with
    | some colour => control (30 + colour.number)
    | none => ""

/-- A text in a style. -/
def paint (style : Style) (text : String) : List Signal := [.style style, .text text, .plain]

end Style

/-- What is sent to a terminal with colours or without. -/
def Signal.spell (coloured : Bool) : Signal → String
  | .style look => if coloured then look.switchOn else ""
  | .plain => if coloured then Style.control 0 else ""
  | .text shown => shown

end Packrat
