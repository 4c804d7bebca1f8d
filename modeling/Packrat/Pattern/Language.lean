import Packrat.Input
import Packrat.Pattern.Program

/-!
# The language of patterns

Expressions that are turned into programs are a language of patterns, and texts are
matched in that language unless another one is asked for.
-/

namespace Packrat

/-- A program finds the stretch of a text between the two ends of its match. -/
def Pattern.Program.finder (program : Program) : Finder where
  find? text := (program.find? text.toArray 0).map fun (first, last) =>
    let before := text.take first
    let found := (text.drop first).take (last - first)
    (Text.byteLength before, Text.byteLength (before ++ found))
  whole {text _ _} isFound := by
    obtain ⟨⟨first, last⟩, _, same⟩ := Option.map_eq_some_iff.mp isFound
    obtain ⟨rfl, rfl⟩ := Prod.mk.inj same
    refine ⟨_, _, (text.drop first).drop (last - first), ?_, rfl, rfl⟩
    rw [List.append_assoc, List.take_append_drop, List.take_append_drop]

/-- The expressions that can be turned into programs. -/
def Pattern.language : PatternLanguage :=
  ⟨fun expression => (program? expression.toList).map Program.finder⟩

/-- Texts, with the patterns that can be turned into programs. -/
def InputKind.text : InputKind := .ofText Pattern.language

end Packrat
