import Packrat.Diagnostic.Source

/-!
# Plain diagnostics

One line for each diagnostic, in words alone.
-/

namespace Packrat.Diagnostic

/-- The diagnostic in one line, with the name of its source and its location. -/
def plainLine (d : Diagnostic) (sources : Sources) : String :=
  let place := match sources.nameOf? d, d.location with
    | none, none => ": "
    | none, some location => " " ++ location.display ++ ": "
    | some name, none => ": " ++ name ++ " - "
    | some name, some location => ": " ++ name ++ ":" ++ location.display ++ " - "
  d.level.name ++ place ++ d.text ++ "\n"

end Packrat.Diagnostic
