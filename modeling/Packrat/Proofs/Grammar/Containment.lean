import Packrat.Proofs.Grammar.Making
import Packrat.Proofs.Meaning

/-!
# Nodes that call only their children

The nodes that parsers of the library's own are resolved to call only their children,
which are slots of the grammar.  A grammar in which nothing else was resolved has only
such nodes.
-/

namespace Packrat

namespace Grammar

variable {ω ρ : Type} {named : String → Prop} {held : Nat → NodeId → Prop}

/-- Every node calls only its children. -/
def Contained (g : Grammar ω ρ) : Prop :=
  ∀ id node, g.slot? id = some (.ready node) → ∀ input position called,
    node.matcher.Calls input position called (node.matcher.start input position) →
    called ∈ node.children

/-- A node of the library's own calls only its children. -/
theorem calls_assembled (kind : Kind ω ρ) (g : Grammar ω ρ)
    (given : Vector NodeId kind.blueprint.arity) (input : Input ω) (position : Nat)
    (called : NodeId)
    (calls : (g.assembled kind.blueprint given).matcher.Calls input position called
      ((g.assembled kind.blueprint given).matcher.start input position)) :
    called ∈ (g.assembled kind.blueprint given).children := by
  have within : (kind.plan.map fun index =>
      (⟨given.get index, g.childDescription (given.get index)⟩ : Child)).matcher.Within
      (· ∈ given.toList) :=
    Plan.within_matcher
      (fun index => Vector.mem_toList_iff.mpr (Vector.getElem_mem index.isLt)) kind.plan
  exact within.calls (within.start input position) calls

theorem Contained.resolve {g : Grammar ω ρ} (contained : g.Contained) (tidy : g.Tidy)
    {rules : Rules ω ρ} {reference : Reference ω ρ}
    (closed : ∀ name, named name → (rules name).Own named held)
    (own : reference.Own named held) (place : Place) :
    (g.resolve rules place reference).2.Contained :=
  EachNode.resolve contained tidy (fun name isNamed => (closed name isNamed).madeOf) own.madeOf
    (fun kind _ g given => calls_assembled kind g given) place

end Grammar

end Packrat
