import Packrat.Diagnostic

/-!
# Sources

The texts that diagnostics are about, each with the name that it is shown under.
-/

namespace Packrat

/-- A text and its name. -/
structure Source where
  name : String
  text : String

/-- The sources so far; a source's identity is its place. -/
structure Sources where
  all : Array Source

namespace Sources

def empty : Sources := ⟨#[]⟩

/-- Adds a source. -/
def add (sources : Sources) (name text : String) : SourceId × Sources :=
  (⟨sources.all.size⟩, ⟨sources.all.push ⟨name, text⟩⟩)

def find? (sources : Sources) (id : SourceId) : Option Source := sources.all[id.number]?

/-- The name of the source of a diagnostic, if it has one that is known. -/
def nameOf? (sources : Sources) (d : Diagnostic) : Option String :=
  (d.source.bind sources.find?).map Source.name

end Sources

end Packrat
