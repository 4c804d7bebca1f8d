import Packrat.Proofs.Grammar.Meaning
import Packrat.Proofs.Grammar.WholeInput

/-!
# Where the library's own parsers lead to

Whatever genuine parsers share a grammar with them, the library's own parsers are resolved
to nodes of the library's kinds, and so are all their children: a node that is made for one
of them is of its kind, and so is one that is found by its key.
-/

namespace Packrat

variable {ω ρ : Type}

/-- All that is written in a program is genuine. -/
def Book.Genuine (book : Book ω ρ) : Prop :=
  (∀ name, (book.rules name).Genuine fun _ => True) ∧
    ∀ identity, (book.parsers identity).Genuine fun _ => True

namespace Reference.MadeOf

variable {kinds : Kind ω ρ → Prop} {rules : Rules ω ρ} {named : String → Prop}
  {held : Nat → NodeId → Prop} {reference body : Reference ω ρ}

theorem of_node {blueprint : Blueprint ω ρ} {children : Fin blueprint.arity → Reference ω ρ}
    (made : (Reference.node blueprint children).MadeOf kinds named held) :
    (∃ kind : Kind ω ρ, blueprint = kind.blueprint ∧ (∀ input, kind.Native input) ∧ kinds kind) ∧
      ∀ index, (children index).MadeOf kinds named held := by
  cases made with
  | node native isKind each => exact ⟨⟨_, rfl, native, isKind⟩, each⟩

theorem of_opens (closed : ∀ name, named name → (rules name).MadeOf kinds named held)
    (made : reference.MadeOf kinds named held) (opens : Opens rules reference body) :
    body.MadeOf kinds named held := by
  cases opens with
  | rule name =>
      cases made with
      | rule isNamed => exact closed name isNamed
  | delayed label =>
      cases made with
      | delayed _ inner => exact inner
  | parser identity =>
      cases made with
      | parser _ inner => exact inner

/-- What is resolved to a node of the library's kinds is read as one. -/
theorem exists_reads [BEq ω] [Printable ω] {input inputs : InputKind} {blueprint : Blueprint ω ρ}
    {children : Fin blueprint.arity → Reference ω ρ}
    (made : reference.MadeOf Kind.Stock named held)
    (builds : Builds input reference blueprint children) :
    ∃ (kind : Kind ω ρ) (parts : Fin kind.arity → Reference ω ρ),
      Reads inputs rules reference kind parts ∧ kind.Stock ∧
      ∀ index, (parts index).MadeOf Kind.Stock named held := by
  cases builds with
  | node blueprint children =>
      obtain ⟨⟨kind, rfl, native, stock⟩, each⟩ := made.of_node
      exact ⟨kind, children, .node kind children (native inputs), stock, each⟩
  | literal => exact ⟨_, _, .literal _, trivial, fun index => index.elim0⟩
  | sequence count parts =>
      cases made with
      | sequence stock each => exact ⟨.sequence count, parts, .sequence count parts, stock, each⟩

end Reference.MadeOf

namespace Grammar

variable {book : Book ω ρ} {ledger : Ledger ω ρ} {g : Grammar ω ρ}

/-- In a program that is genuine, nothing else is resolved. -/
theorem Continues.genuine (genuine : book.Genuine) {number : Nat} {kind : InputKind}
    (history : Continues book (.empty number kind) g) : Grown GenuineOnly g := by
  induction history with
  | here => exact .empty number kind
  | parser identity _ induction =>
      exact .resolve _ ⟨_, fun name _ => genuine.1 name, genuine.2 identity⟩ induction
  | consumer _ _ induction => exact .resolve _ (GenuineOnly.handle _ _).consume induction

/-- What passes for a node of a kind is one. -/
theorem PassesFor.isOf {node : Resolved ω ρ} {kind : Kind ω ρ} (passes : g.PassesFor node kind)
    (tidy : g.Tidy) (lettered : g.Lettered) (native : kind.Native g.kind) {id : NodeId}
    (ready : g.slot? id = some (.ready node)) : ∃ children, node.IsOf kind children := by
  rcases passes with isOf | ⟨key, given, hasKey, cacheable, spells⟩
  · exact isOf
  · obtain ⟨children, isOf, _⟩ := (lettered id node key ready hasKey).isOf
      (lettered.getLast?_ne tidy) native cacheable spells
    exact ⟨children, isOf⟩

variable [BEq ω] [Printable ω] {named : String → Prop} (sound : Sound book ledger g)
  (closed : ∀ name, named name →
    (book.rules name).MadeOf Kind.Stock named Reference.NoHandle)
  {id : NodeId} {reference : Reference ω ρ}
  (made : reference.MadeOf Kind.Stock named Reference.NoHandle)
  (stands : Stands book.rules ledger g id reference)

include sound closed made stands

/-- The library's own parsers are read as nodes of its kinds, and so are their children. -/
theorem Sound.exists_stock :
    ∃ (kind : Kind ω ρ) (parts : Fin kind.arity → Reference ω ρ),
      Reference.Reads g.kind book.rules reference kind parts ∧ kind.Stock ∧
      ∀ index, (parts index).MadeOf Kind.Stock named Reference.NoHandle := by
  induction stands with
  | made isMade =>
      obtain ⟨input, blueprint, children, builds⟩ := sound.accounts.written _ _ isMade
      exact made.exists_reads builds
  | opened opens _ induction =>
      obtain ⟨kind, parts, reads, stock, each⟩ := induction (made.of_opens closed opens)
      exact ⟨kind, parts, .opened opens reads, stock, each⟩
  | pending _ _ reserved _ => exact absurd reserved (sound.complete _)
  | handle =>
      cases made with
      | handle impossible => exact impossible.elim

/-- The library's own parsers lead to nodes in stock. -/
theorem Sound.inStock (lettered : g.Lettered) : g.InStock id := by
  refine ⟨fun id => ∃ reference : Reference ω ρ,
    reference.MadeOf Kind.Stock named Reference.NoHandle ∧
      Stands book.rules ledger g id reference, ?_, reference, made, stands⟩
  rintro id ⟨reference, made, stands⟩
  obtain ⟨kind, parts, reads, stock, each⟩ := sound.exists_stock closed made stands
  obtain ⟨node, ready, serves⟩ := sound.exists_serving stands reads
  obtain ⟨passes, ids, _, isChildren, _, standEach⟩ := serves kind parts reads
  obtain ⟨children, isOf⟩ := passes.isOf sound.tidy lettered reads.native ready
  refine ⟨node, kind, children, ready, stock, isOf, fun child isChild => ?_⟩
  rw [isChildren] at isChild
  obtain ⟨index, rfl⟩ := List.mem_ofFn.mp isChild
  exact ⟨parts index, each index, standEach index⟩

end Grammar

end Packrat
