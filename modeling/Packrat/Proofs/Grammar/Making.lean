import Packrat.Proofs.Combinator.Kind
import Packrat.Proofs.Grammar.Tidy

/-!
# What the nodes of a grammar are made from

A parser that is written with nodes of some kinds only is resolved to nodes of these
kinds.  So what holds of every such node as it is made holds of every node of a grammar
in which nothing else was resolved.
-/

namespace Packrat

variable {ω ρ : Type}

/-- A parser that is written with nodes of these kinds, and refers to no rules and no
resolved nodes but these. -/
inductive Reference.MadeOf (kinds : Kind ω ρ → Prop) (named : String → Prop)
    (held : Nat → NodeId → Prop) : Reference ω ρ → Prop where
  | node {kind : Kind ω ρ} {children : Fin kind.arity → Reference ω ρ} :
      (∀ input, kind.Native input) → kinds kind →
      (∀ index, MadeOf kinds named held (children index)) →
      MadeOf kinds named held (.node kind.blueprint children)
  | literal {data : Literal} :
      (∀ language, kinds (.literal (.ofText language) data)) →
      MadeOf kinds named held (.literal data)
  | sequence {count : Nat} {parts : Fin count → Reference ω ρ} :
      kinds (.sequence count) → (∀ index, MadeOf kinds named held (parts index)) →
      MadeOf kinds named held (.sequence count parts)
  | rule {name : String} : named name → MadeOf kinds named held (.rule name)
  | delayed (label : Option String) {body : Reference ω ρ} :
      MadeOf kinds named held body → MadeOf kinds named held (.delayed label body)
  | handle {number : Nat} {id : NodeId} :
      held number id → MadeOf kinds named held (.handle number id)
  | parser (identity : Nat) {body : Reference ω ρ} :
      MadeOf kinds named held body → MadeOf kinds named held (.parser identity body)

/-- A parser of the library's own is made of any kinds of nodes. -/
theorem Reference.Own.madeOf {named : String → Prop} {held : Nat → NodeId → Prop}
    {reference : Reference ω ρ} (own : reference.Own named held) :
    reference.MadeOf (fun _ => True) named held := by
  induction own with
  | node kind native _ induction => exact .node native trivial induction
  | literal => exact .literal fun _ => trivial
  | sequence _ induction => exact .sequence trivial induction
  | rule isNamed => exact .rule isNamed
  | delayed label _ induction => exact .delayed label induction
  | handle isHeld => exact .handle isHeld
  | parser identity _ induction => exact .parser identity induction

/-- A node that is as the library makes those of a kind from some children. -/
structure Resolved.IsOf (node : Resolved ω ρ) (kind : Kind ω ρ)
    (given : Fin kind.arity → Child) : Prop where
  name : node.name = kind.name
  children : node.children = List.ofFn fun index => (given index).id
  matcher : node.matcher = (kind.plan.map given).matcher

namespace Grammar

theorem isOf_assembled (kind : Kind ω ρ) (g : Grammar ω ρ)
    (given : Vector NodeId kind.blueprint.arity) :
    (g.assembled kind.blueprint given).IsOf kind fun index =>
      ⟨given.get index, g.childDescription (given.get index)⟩ :=
  ⟨rfl, children_assembled g kind.blueprint given, rfl⟩

variable {kinds : Kind ω ρ → Prop} {named : String → Prop} {held : Nat → NodeId → Prop}
  {holds : Resolved ω ρ → Prop}

/-- Something holds of every node of a grammar. -/
def EachNode (holds : Resolved ω ρ → Prop) (g : Grammar ω ρ) : Prop :=
  ∀ id node, g.slot? id = some (.ready node) → holds node

/-- In a grammar for some kind of input, the errand is about parsers that are made of nodes
of these kinds. -/
def Errand.MadeOf (input : InputKind) (kinds : Kind ω ρ → Prop) (named : String → Prop)
    (held : Nat → NodeId → Prop) : Errand ω ρ → Prop
  | .written reference _ => reference.MadeOf kinds named held
  | .node _ blueprint children _ =>
    (∃ kind, kind.Native input ∧ kinds kind ∧ blueprint = kind.blueprint) ∧
      ∀ index, (children index).MadeOf kinds named held
  | .unfolding _ _ body => body.MadeOf kinds named held

theorem Errand.MadeOf.of_node {input : InputKind} {blueprint : Blueprint ω ρ}
    {children : Fin blueprint.arity → Reference ω ρ} {place : Place}
    (made : (Reference.node blueprint children).MadeOf kinds named held) :
    (Errand.node (some place) blueprint children place).MadeOf input kinds named held := by
  cases made with
  | node native isKind each => exact ⟨⟨_, native input, isKind, rfl⟩, each⟩

/-- What a literal is resolved to is made as the literal is. -/
theorem Errand.MadeOf.of_literal {input : InputKind} {data : Literal} {blueprint : Blueprint ω ρ}
    {children : Fin blueprint.arity → Reference ω ρ} {place : Place}
    (made : (Reference.literal data : Reference ω ρ).MadeOf kinds named held)
    (shape : data.blueprint? input = .ok blueprint) :
    (Errand.node none blueprint children place).MadeOf input kinds named held := by
  have isKind := Kind.blueprint_literal shape
  subst isKind
  cases made with
  | literal admitted =>
      cases input with
      | tokens => cases data <;> cases shape
      | ofText language =>
          exact ⟨⟨.literal (.ofText language) data, rfl, admitted language, rfl⟩,
            fun index => index.elim0⟩

theorem Errand.MadeOf.of_sequence {input : InputKind} {count : Nat}
    {parts : Fin count → Reference ω ρ} {place : Place}
    (made : (Reference.sequence count parts).MadeOf kinds named held) :
    (Errand.node none (.sequence count) parts place).MadeOf input kinds named held := by
  cases made with
  | sequence admitted each =>
      exact ⟨⟨.sequence count, trivial, admitted, (Kind.blueprint_sequence count).symm⟩, each⟩

theorem ready_of_fill {g : Grammar ω ρ} {slot id : NodeId} {content : Slot ω ρ}
    {node : Resolved ω ρ} (ready : (g.fill slot content).slot? id = some (.ready node)) :
    g.slot? id = some (.ready node) ∨ content = .ready node := by
  rw [slot?, fill, Array.getElem?_setIfInBounds] at ready
  split at ready
  next =>
    split at ready
    next => exact .inr (Option.some.inj ready)
    next => cases ready
  next => exact .inl ready

theorem ready_of_widened {g : Grammar ω ρ} {id : NodeId} {node : Resolved ω ρ}
    (ready : g.widened.slot? id = some (.ready node)) : g.slot? id = some (.ready node) := by
  rw [slot?_widened] at ready
  split at ready
  next => cases ready
  next => exact ready

namespace EachNode

theorem empty (number : Nat) (kind : InputKind) :
    (Grammar.empty number kind : Grammar ω ρ).EachNode holds := by
  intro id node impossible
  simp [slot?, Grammar.empty] at impossible

theorem of_slots {g g' : Grammar ω ρ} (each : g.EachNode holds)
    (slots : ∀ id node, g'.slot? id = some (.ready node) → g.slot? id = some (.ready node)) :
    g'.EachNode holds :=
  fun id node ready => each id node (slots id node ready)

theorem noteNode {g : Grammar ω ρ} (each : g.EachNode holds) (own : Option Place)
    (slot : NodeId) : (g.widened.noteNode own slot).EachNode holds := by
  apply each.of_slots
  intro id node ready
  rw [slot?, slots_noteNode] at ready
  exact ready_of_widened ready

theorem forward {g : Grammar ω ρ} (each : g.EachNode holds) (slot target : NodeId) :
    (g.fill slot (.forward target)).EachNode holds := by
  apply each.of_slots
  intro id node ready
  rcases ready_of_fill ready with old | impossible
  · exact old
  · cases impossible

theorem finish {g : Grammar ω ρ} (each : g.EachNode holds) (slot : NodeId)
    {blueprint : Blueprint ω ρ} {given : Vector NodeId blueprint.arity}
    (made : holds (g.assembled blueprint given)) :
    (g.finish slot blueprint given).2.EachNode holds := by
  rcases finish_cases g slot blueprint given with ⟨_, existing, _, _, whole⟩ | ⟨_, whole⟩
  · rw [whole]
    exact each.forward slot existing
  · rw [whole]
    intro id node ready
    rcases ready_of_fill ready with old | new
    · rw [slot?_share] at old
      exact each id node old
    · cases new
      exact made

end EachNode

theorem Resolves.eachNode {rules : Rules ω ρ} {errand : Errand ω ρ} {g g' : Grammar ω ρ}
    {result : Except ResolveError NodeId} (resolves : Resolves rules errand g result g')
    (closed : ∀ name, named name → (rules name).MadeOf kinds named held)
    (made : errand.MadeOf g.kind kinds named held)
    (holding : ∀ kind, kinds kind → ∀ g given, holds (assembled g kind.blueprint given))
    (each : g.EachNode holds) : g'.EachNode holds := by
  induction resolves with
  | known_node => exact each
  | new_node _ _ induction => exact induction (.of_node made) each
  | known_literal => exact each
  | refused_literal => exact each
  | new_literal _ shape _ induction | failed_literal _ shape _ induction =>
      exact induction (.of_literal made shape) each
  | known_sequence => exact each
  | new_sequence _ _ induction | failed_sequence _ _ induction =>
      exact induction (.of_sequence made) each
  | rule _ induction =>
      cases made with
      | rule isNamed => exact induction (closed _ isNamed) each
  | delayed _ induction =>
      cases made with
      | delayed _ inner => exact induction inner each
  | parser _ induction =>
      cases made with
      | parser _ inner => exact induction inner each
  | foreign_handle => exact each
  | own_handle => exact each
  | unknown_handle => exact each
  | no_slot_for_node => exact each
  | @failed_child _ _ _ _ _ _ _ _ _ failed _ _ _ begins _ _ steps fails =>
      apply fails (made.2 _)
      apply holds_after_steps (EachNode holds)
      · rw [begins]
        exact each.noteNode _ _
      · intro index
        exact steps ⟨index, Nat.lt_trans index.isLt failed.isLt⟩ index.isLt (made.2 _)
  | made _ _ begins _ _ steps =>
      obtain ⟨⟨kind, _, admitted, rfl⟩, children⟩ := made
      refine EachNode.finish ?_ _ (holding kind admitted _ _)
      apply holds_after_steps (EachNode holds)
      · rw [begins]
        exact each.noteNode _ _
      · exact fun index => steps index (children _)
  | known_thunk => exact each
  | no_slot_for_thunk => exact each
  | failed_body _ _ _ induction | circular _ _ _ _ induction =>
      exact induction made (each.of_slots fun _ _ => ready_of_widened)
  | unfolded _ _ _ _ induction =>
      exact (induction made (each.of_slots fun _ _ => ready_of_widened)).forward _ _

theorem EachNode.resolve {g : Grammar ω ρ} (each : g.EachNode holds) (tidy : g.Tidy)
    {rules : Rules ω ρ} {reference : Reference ω ρ}
    (closed : ∀ name, named name → (rules name).MadeOf kinds named held)
    (made : reference.MadeOf kinds named held)
    (holding : ∀ kind, kinds kind → ∀ g given, holds (assembled g kind.blueprint given))
    (place : Place) : (g.resolve rules place reference).2.EachNode holds := by
  rcases resolve_resolves rules g place reference with
    ⟨id, g', resolved, resolves⟩ | ⟨error, g', resolved, resolves⟩
  · rw [resolved]
    exact resolves.eachNode closed made holding each
  · rw [resolved]
    apply each.of_slots
    intro id node ready
    rw [slot?, (resolves.keeps tidy).1.slots_rollback] at ready
    exact ready

end Grammar

end Packrat
