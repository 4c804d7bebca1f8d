import Packrat.Proofs.Grammar.Stock
import Packrat.Proofs.Grammar.Undoing

/-!
# What keys say about nodes

A node with a key is of a kind that may be shared, and its key spells the kind's name and
the keys of its children.  So where nobody else's nodes go by the names of the library's,
whoever makes one of the library's nodes that may be shared ends with one of this kind,
whose children lead to where the ones that were given lead: the node itself, or the one
that is listed under its key.
-/

namespace Packrat

variable {ω ρ : Type}

namespace Reference

/-- A reference whose nodes are genuine, with no rules but these. -/
inductive Genuine (named : String → Prop) : Reference ω ρ → Prop where
  | node {blueprint : Blueprint ω ρ} {children : Fin blueprint.arity → Reference ω ρ} :
      (∀ input, blueprint.Genuine input) → (∀ index, Genuine named (children index)) →
      Genuine named (.node blueprint children)
  | literal (data : Literal) : Genuine named (.literal data)
  | sequence {count : Nat} {parts : Fin count → Reference ω ρ} :
      (∀ index, Genuine named (parts index)) → Genuine named (.sequence count parts)
  | rule {name : String} : named name → Genuine named (.rule name)
  | delayed (label : Option String) {body : Reference ω ρ} :
      Genuine named body → Genuine named (.delayed label body)
  | handle (number : Nat) (id : NodeId) : Genuine named (.handle number id)
  | parser (identity : Nat) {body : Reference ω ρ} :
      Genuine named body → Genuine named (.parser identity body)

/-- The library's own nodes are genuine. -/
theorem MadeOf.genuine {kinds : Kind ω ρ → Prop} {named : String → Prop}
    {held : Nat → NodeId → Prop} {reference : Reference ω ρ}
    (made : reference.MadeOf kinds named held) : reference.Genuine named := by
  induction made with
  | node native _ _ induction =>
      exact .node (fun input => Kind.blueprint_genuine _ (native input)) induction
  | literal => exact .literal _
  | sequence _ _ induction => exact .sequence induction
  | rule isNamed => exact .rule isNamed
  | delayed label _ induction => exact .delayed label induction
  | handle => exact .handle _ _
  | parser identity _ induction => exact .parser identity induction

end Reference

/-- A node that is as those of some sort are made from some children. -/
structure Resolved.MadeAs (node : Resolved ω ρ) (blueprint : Blueprint ω ρ)
    (given : Fin blueprint.arity → Child) : Prop where
  name : node.name = blueprint.name
  children : node.children = List.ofFn fun index => (given index).id
  matcher : node.matcher = blueprint.generate given

namespace Grammar

/-- In a grammar for some kind of input, the errand is about genuine parsers. -/
def Errand.Genuine (input : InputKind) (named : String → Prop) : Errand ω ρ → Prop
  | .written reference _ => reference.Genuine named
  | .node _ blueprint children _ =>
    blueprint.Genuine input ∧ ∀ index, (children index).Genuine named
  | .unfolding _ _ body => body.Genuine named

namespace Errand

theorem Genuine.of_node {input : InputKind} {named : String → Prop} {blueprint : Blueprint ω ρ}
    {children : Fin blueprint.arity → Reference ω ρ} {place : Place}
    (genuine : (Reference.node blueprint children).Genuine named) :
    (Errand.node (some place) blueprint children place).Genuine input named := by
  cases genuine with
  | node each parts => exact ⟨each input, parts⟩

theorem Genuine.of_literal {input : InputKind} {named : String → Prop} {data : Literal}
    {blueprint : Blueprint ω ρ} {children : Fin blueprint.arity → Reference ω ρ} {place : Place}
    (shape : data.blueprint? input = .ok blueprint) :
    (Errand.node none blueprint children place).Genuine input named := by
  have isKind := Kind.blueprint_literal shape
  subst isKind
  exact ⟨Kind.blueprint_genuine _ rfl, fun index => index.elim0⟩

theorem Genuine.of_sequence {input : InputKind} {named : String → Prop} {count : Nat}
    {parts : Fin count → Reference ω ρ} {place : Place}
    (genuine : (Reference.sequence count parts).Genuine named) :
    (Errand.node none (.sequence count) parts place).Genuine input named := by
  cases genuine with
  | sequence each =>
      refine ⟨?_, each⟩
      rw [← Kind.blueprint_sequence]
      exact Kind.blueprint_genuine _ trivial

theorem MadeOf.genuine {input : InputKind} {kinds : Kind ω ρ → Prop}
    {named : String → Prop} {held : Nat → NodeId → Prop} {errand : Errand ω ρ}
    (made : errand.MadeOf input kinds named held) : errand.Genuine input named := by
  cases errand with
  | written | unfolding => exact Reference.MadeOf.genuine made
  | node =>
      obtain ⟨⟨kind, native, _, rfl⟩, each⟩ := made
      exact ⟨kind.blueprint_genuine native, fun index => (each index).genuine⟩

end Errand

/-- A key spells what a node is. -/
def Letters (g : Grammar ω ρ) (node : Resolved ω ρ) (key : String) : Prop :=
  ∃ (blueprint : Blueprint ω ρ) (given : Fin blueprint.arity → Child),
    blueprint.Genuine g.kind ∧ blueprint.cacheable = true ∧ node.MadeAs blueprint given ∧
    g.Spells blueprint (fun index => (given index).id) key

/-- All keys of nodes spell what the nodes are. -/
def Lettered (g : Grammar ω ρ) : Prop :=
  ∀ id node key, g.slot? id = some (.ready node) → node.key = some key → g.Letters node key

section

variable {g g' : Grammar ω ρ}

theorem Letters.mono {node : Resolved ω ρ} {key : String} (letters : g.Letters node key)
    (sameKind : g'.kind = g.kind)
    (listed : ∀ key id, g.shared.find? key = some (g.follow id) →
      g'.shared.find? key = some (g'.follow id)) : g'.Letters node key := by
  obtain ⟨blueprint, given, genuine, cacheable, madeAs, spells⟩ := letters
  exact ⟨blueprint, given, sameKind ▸ genuine, cacheable, madeAs, spells.mono listed⟩

namespace Lettered

variable (lettered : g.Lettered)

include lettered

theorem of_slots (sameKind : g'.kind = g.kind)
    (ready : ∀ id node, g'.slot? id = some (.ready node) → g.slot? id = some (.ready node))
    (listed : ∀ key id, g.shared.find? key = some (g.follow id) →
      g'.shared.find? key = some (g'.follow id)) : g'.Lettered :=
  fun id node key isReady hasKey => (lettered id node key (ready id node isReady) hasKey).mono
    sameKind listed

theorem noteNode (tidy : g.Tidy) {own : Option Place} {slot : NodeId}
    (last : slot.number = g.size) (unknown : own.bind g.nodes.find? = none) :
    (g.widened.noteNode own slot).Lettered := by
  apply lettered.of_slots (Grows.noteNode last unknown).kind
  · intro id node ready
    rw [slot?, slots_noteNode] at ready
    exact ready_of_widened ready
  · exact (Grows.noteNode last unknown).listed tidy (tidy.noteNode last)

theorem noteThunk (tidy : g.Tidy) {thunk : Thunk} {label : Option String} {slot : NodeId}
    (last : slot.number = g.size) (unknown : g.thunks.find? thunk = none) :
    (g.widened.noteThunk thunk label slot).Lettered :=
  lettered.of_slots rfl (fun _ _ => ready_of_widened)
    ((Grows.noteThunk last unknown).listed tidy (tidy.noteThunk last))

theorem of_tables (sameKind : g'.kind = g.kind) (slots : g'.slots = g.slots)
    (shared : g'.shared = g.shared) : g'.Lettered := by
  apply lettered.of_slots sameKind
  · intro id node ready
    rw [slot?, slots] at ready
    exact ready
  · intro key id listed
    rw [shared, follow_congr slots]
    exact listed

section Reserved

variable {slot : NodeId} (tidy : g.Tidy) (reserved : g.slot? slot = some .reserved)

include tidy reserved

theorem forward {target : NodeId} (elsewhere : g.follow target ≠ slot) :
    (g.fill slot (.forward target)).Lettered := by
  have sameKind : (g.fill slot (.forward target)).kind = g.kind := rfl
  apply lettered.of_slots sameKind
  · intro id node ready
    rcases ready_of_fill ready with old | impossible
    · exact old
    · cases impossible
  · intro key id listed
    obtain ⟨node, ready, _⟩ := (tidy.shared key _).mp listed
    rw [tidy.acyclic.follow_fill_forward reserved elsewhere, if_neg]
    · exact listed
    · exact ne_reserved_of_ready reserved ready

theorem finish {blueprint : Blueprint ω ρ} (genuine : blueprint.Genuine g.kind)
    (given : Vector NodeId blueprint.arity) : (g.finish slot blueprint given).2.Lettered := by
  rcases finish_cases g slot blueprint given with
    ⟨key, existing, _, listed, whole⟩ | ⟨_, whole⟩
  · rw [whole]
    obtain ⟨node, ready, _⟩ := (tidy.shared key existing).mp listed
    apply lettered.forward tidy reserved
    exact follow_ne_reserved_of_ready reserved ready
  · have kept : ∀ key id, g.shared.find? key = some (g.follow id) →
        (g.finish slot blueprint given).2.shared.find? key =
          some ((g.finish slot blueprint given).2.follow id) := by
      intro key id listed
      rw [finish_keeps_shared g slot blueprint given key _ listed, whole,
        (tidy.acyclic.congr (slots_share g _ slot)).follow_fill_ready
          ((slot?_share g _ slot slot).trans reserved), follow_congr (slots_share g _ slot)]
    have sameKind : (g.finish slot blueprint given).2.kind = g.kind := by
      rw [whole]
      cases g.keyOf blueprint given <;> rfl
    intro id node key ready hasKey
    rw [whole] at ready
    rcases ready_of_fill ready with old | new
    · rw [slot?_share] at old
      exact (lettered id node key old hasKey).mono sameKind kept
    · cases new
      obtain ⟨cacheable, spells⟩ := spells_of_keyOf tidy hasKey
      exact ⟨blueprint, fun index => ⟨given.get index, g.childDescription (given.get index)⟩,
        sameKind ▸ genuine, cacheable, ⟨rfl, children_assembled g blueprint given, rfl⟩,
        spells.mono kept⟩

end Reserved

end Lettered

end

theorem Lettered.empty (number : Nat) (kind : InputKind) :
    (Grammar.empty number kind : Grammar ω ρ).Lettered := by
  intro id node key impossible
  simp [slot?, Grammar.empty] at impossible

theorem Resolves.lettered {named : String → Prop} {rules : Rules ω ρ} {errand : Errand ω ρ}
    {g g' : Grammar ω ρ} {result : Except ResolveError NodeId}
    (resolves : Resolves rules errand g result g')
    (closed : ∀ name, named name → (rules name).Genuine named)
    (genuine : errand.Genuine g.kind named) (tidy : g.Tidy) (lettered : g.Lettered) :
    g'.Lettered := by
  induction resolves with
  | known_node | known_literal | refused_literal | known_sequence | foreign_handle | own_handle
  | unknown_handle | no_slot_for_node | known_thunk | no_slot_for_thunk => exact lettered
  | new_node _ _ induction => exact induction (.of_node genuine) tidy lettered
  | new_literal _ shape _ induction | failed_literal _ shape _ induction =>
      have there := induction (.of_literal shape) tidy lettered
      exact there.of_tables rfl rfl rfl
  | new_sequence _ _ induction | failed_sequence _ _ induction =>
      have there := induction (.of_sequence genuine) tidy lettered
      exact there.of_tables rfl rfl rfl
  | rule _ induction =>
      cases genuine with
      | rule isNamed => exact induction (closed _ isNamed) tidy lettered
  | delayed _ induction =>
      cases genuine with
      | delayed _ inner => exact induction inner tidy lettered
  | parser _ induction =>
      cases genuine with
      | parser _ inner => exact induction inner tidy lettered
  | @failed_child g g' own blueprint children place slot states ids failed error unknown last
      begins resolved _ steps fails =>
      have tidyStart : (states 0).Tidy := begins ▸ tidy.noteNode last
      have here := kept_of_children (fun index => (states index).Lettered) tidyStart
        (begins ▸ lettered.noteNode tidy last unknown) (Nat.le_of_lt failed.isLt) resolved
        fun index before _ _ tidyHere => steps index before (genuine.2 _) tidyHere
      obtain ⟨_, tidyHere, _⟩ := settled_of_children tidyStart (Nat.le_of_lt failed.isLt) resolved
        (Nat.zero_le failed) (Nat.le_refl _)
      exact fails (genuine.2 _) tidyHere here
  | @made g own blueprint children place slot states ids given unknown last begins resolved _
      steps =>
      obtain ⟨isGenuine, parts⟩ := genuine
      have tidyStart : (states 0).Tidy := begins ▸ tidy.noteNode last
      have here := kept_of_children (fun index => (states index).Lettered) tidyStart
        (begins ▸ lettered.noteNode tidy last unknown) (Nat.le_refl _)
        (fun index _ => resolved index)
        fun index _ _ _ tidyHere => steps index (parts _) tidyHere
      obtain ⟨grows, tidyHere, reserved⟩ := reserved_after_children tidy last begins resolved
      have sameKind : (states 0).kind = g.kind := begins ▸ (Grows.noteNode last unknown).kind
      exact here.finish tidyHere reserved ((grows.kind.trans sameKind).symm ▸ isGenuine) given
  | failed_body unknown last _ induction | circular unknown last _ _ induction =>
      exact induction genuine (tidy.noteThunk last) (lettered.noteThunk tidy last unknown)
  | @unfolded g g' thunk label body slot target unknown last resolves elsewhere induction =>
      obtain ⟨_, tidyThen, reserved⟩ := reserved_after_body tidy last resolves
      have there := induction genuine (tidy.noteThunk last)
        (lettered.noteThunk tidy last unknown)
      exact there.forward tidyThen reserved elsewhere

theorem Lettered.resolve {g : Grammar ω ρ} (lettered : g.Lettered) (tidy : g.Tidy)
    {named : String → Prop} {rules : Rules ω ρ} {reference : Reference ω ρ}
    (closed : ∀ name, named name → (rules name).Genuine named)
    (genuine : reference.Genuine named) (place : Place) :
    (g.resolve rules place reference).2.Lettered := by
  rcases resolve_resolves rules g place reference with
    ⟨id, g', resolved, resolves⟩ | ⟨error, g', resolved, resolves⟩
  · rw [resolved]
    exact resolves.lettered closed genuine tidy lettered
  · rw [resolved]
    obtain ⟨grows, tidyThen, _⟩ := resolves.keeps tidy
    have slots := grows.slots_rollback
    apply lettered.of_slots (grows.grows_rollback tidy tidyThen).kind
    · intro id node ready
      rw [slot?, slots] at ready
      exact ready
    · intro key id listed
      rw [grows.shared_rollback tidy tidyThen, follow_congr slots]
      exact listed

/-! ## Grammars of genuine parsers -/

/-- Genuine parsers, under genuine rules. -/
def GenuineOnly (rules : Rules ω ρ) (reference : Reference ω ρ) : Prop :=
  ∃ named : String → Prop, (∀ name, named name → (rules name).Genuine named) ∧
    reference.Genuine named

section

variable {rules : Rules ω ρ} {reference : Reference ω ρ}

theorem StockOnly.genuine [BEq ω] [Printable ω] (stockOnly : StockOnly rules reference) :
    GenuineOnly rules reference := by
  obtain ⟨named, closed, made⟩ := stockOnly
  exact ⟨named, fun name isNamed => (closed name isNamed).genuine, made.genuine⟩

theorem GenuineOnly.parser (genuine : GenuineOnly rules reference) (identity : Nat) :
    GenuineOnly rules (.parser identity reference) := by
  obtain ⟨named, closed, isGenuine⟩ := genuine
  exact ⟨named, closed, .parser identity isGenuine⟩

theorem GenuineOnly.consume (genuine : GenuineOnly rules reference) :
    GenuineOnly rules (.consume reference) := by
  obtain ⟨named, closed, isGenuine⟩ := genuine
  refine ⟨named, closed, ?_⟩
  refine .node (fun _ => Kind.blueprint_genuine .consume trivial) fun index => ?_
  dsimp only
  split
  next => exact isGenuine
  next => exact .node (fun _ => Kind.blueprint_genuine .endOfInput trivial) nofun

theorem GenuineOnly.handle (number : Nat) (id : NodeId) :
    GenuineOnly rules (.handle number id) :=
  ⟨fun _ => False, fun _ impossible => impossible.elim, .handle number id⟩

theorem Grown.lettered {g : Grammar ω ρ} (grown : Grown GenuineOnly g) : g.Lettered := by
  induction grown with
  | empty number kind => exact .empty number kind
  | resolve place admitted earlier induction =>
      obtain ⟨named, closed, genuine⟩ := admitted
      exact induction.resolve earlier.tidy.1 closed genuine place

end

end Grammar

end Packrat
