import Packrat.Proofs.Grammar.Containment
import Packrat.Proofs.Grammar.Meaning
import Packrat.Proofs.Scheduler.Confinement

/-!
# Grammars that are well formed

Whatever has been resolved, in whatever order and with whatever success, no slot is left
reserved, every slot leads to a node, and all that is listed or called is a slot of the
grammar.  So a run from a parser of the library's own never comes to a node without a
matcher.
-/

namespace Packrat

namespace Grammar

variable {ω ρ : Type}

/-- Every grammar that comes of a sequence of resolutions of such references under such
rules, each of which may succeed or fail. -/
inductive Grown (admits : Rules ω ρ → Reference ω ρ → Prop) : Grammar ω ρ → Prop where
  | empty (number : Nat) (kind : InputKind) : Grown admits (.empty number kind)
  | resolve {g : Grammar ω ρ} {rules : Rules ω ρ} {reference : Reference ω ρ} (place : Place) :
      admits rules reference → Grown admits g →
      Grown admits (g.resolve rules place reference).2

/-- The order of a grammar between two resolutions. -/
structure WellFormed (g : Grammar ω ρ) : Prop where
  settled : ∀ id, g.slot? id ≠ some .reserved
  leads : ∀ id, id.number < g.size → ∃ count node,
    g.Ends count id (g.follow id) ∧ g.slot? (g.follow id) = some (.ready node)
  children : ∀ id node, g.slot? id = some (.ready node) →
    ∀ child ∈ node.children, child.number < g.size
  nodes : ∀ place id, g.nodes.find? place = some id → id.number < g.size
  thunks : ∀ thunk id, g.thunks.find? thunk = some id → id.number < g.size
  literals : ∀ l id, g.literals.find? l = some id → id.number < g.size
  sequences : ∀ place id, g.sequences.find? place = some id → id.number < g.size
  shared : ∀ key id, g.shared.find? key = some id →
    id.number < g.size ∧ ∃ node, g.slot? id = some (.ready node) ∧ node.key = some key
  keyed : ∀ id node key, g.slot? id = some (.ready node) → node.key = some key →
    g.shared.find? key = some id

theorem Tidy.wellFormed {g : Grammar ω ρ} (tidy : g.Tidy) (complete : g.Complete) :
    g.WellFormed where
  settled := complete
  leads id small := by
    obtain ⟨count, ends⟩ := tidy.acyclic.ends id
    obtain ⟨node, ready⟩ := complete.ready tidy small
    exact ⟨count, node, ends, ready⟩
  children := tidy.children
  nodes := tidy.nodes
  thunks := tidy.thunks
  literals := tidy.literals
  sequences := tidy.sequences
  shared key id listed := by
    obtain ⟨node, ready, hasKey⟩ := (tidy.shared key id).mp listed
    exact ⟨slot?_lt ready, node, ready, hasKey⟩
  keyed id node key ready hasKey := (tidy.shared key id).mpr ⟨node, ready, hasKey⟩

theorem Grown.tidy {admits : Rules ω ρ → Reference ω ρ → Prop} {g : Grammar ω ρ}
    (grown : Grown admits g) : g.Tidy ∧ g.Complete := by
  induction grown with
  | empty number kind => exact ⟨.empty number kind, .empty number kind⟩
  | resolve place _ _ induction => exact induction.1.resolve induction.2 _ place _

/-- Parsers of the library's own, under rules of the library's own, with any nodes that
are resolved already. -/
def OwnOnly (rules : Rules ω ρ) (reference : Reference ω ρ) : Prop :=
  ∃ named : String → Prop, (∀ name, named name → (rules name).Own named fun _ _ => True) ∧
    reference.Own named fun _ _ => True

theorem Grown.contained {g : Grammar ω ρ} (grown : Grown OwnOnly g) : g.Contained := by
  induction grown with
  | empty number kind =>
      intro id node impossible
      simp [slot?, Grammar.empty] at impossible
  | resolve place isOwn earlier induction =>
      obtain ⟨named, closed, own⟩ := isOwn
      exact induction.resolve earlier.tidy.1 closed own place

theorem matcher?_of_ready {g : Grammar ω ρ} {id : NodeId} {node : Resolved ω ρ}
    (ready : g.slot? (g.follow id) = some (.ready node)) :
    g.matcher? id = some node.matcher := by
  rw [matcher?, node?_of_ready ready]
  rfl

/-- In a grammar whose nodes call only their children, all slots have matchers and call
only slots. -/
theorem Contained.closed {g : Grammar ω ρ} (contained : g.Contained) (tidy : g.Tidy)
    (complete : g.Complete) : g.Closed fun id => id.number < g.size := by
  intro id small
  obtain ⟨node, ready⟩ := complete.ready tidy small
  refine ⟨node.matcher, matcher?_of_ready ready, ?_⟩
  intro input position called calls
  exact tidy.children _ _ ready called (contained _ _ ready input position called calls)

/-- The slots of the library's own parsers have matchers and call only such slots. -/
theorem Sound.closed {book : Book ω ρ} {ledger : Ledger ω ρ} {g : Grammar ω ρ}
    (sound : Sound book ledger g) {named : String → Prop}
    (closed : ∀ name, named name → (book.rules name).Own named Reference.NoHandle) :
    g.Closed fun id => ∃ reference : Reference ω ρ, reference.Own named Reference.NoHandle ∧
      Stands book.rules ledger g id reference := by
  intro id isOwn
  obtain ⟨reference, own, stands⟩ := isOwn
  obtain ⟨kind, children, reads⟩ := sound.exists_reads closed own stands
  obtain ⟨node, ready, serves⟩ := sound.exists_serving stands reads
  obtain ⟨_, ids, descriptions, _, alike, each⟩ := serves kind children reads
  refine ⟨node.matcher, matcher?_of_ready ready, ?_⟩
  intro input position called calls
  have within : (kind.plan.map fun index =>
      (⟨ids index, descriptions index⟩ : Child)).matcher.Within
      fun called => ∃ index, called = ids index :=
    Plan.within_matcher (fun index => ⟨index, rfl⟩) kind.plan
  obtain ⟨index, isChild⟩ := within.calls (within.start input position)
    ((alike.calls input position called).mp calls)
  rw [isChild]
  exact ⟨children index, own.of_reads closed reads index, each index⟩

/-- Every grammar that has come of resolutions is well formed.  So no run from a parser
of the library's own starts or calls a node without a matcher, whatever else has been
resolved; and in a grammar that has nothing but such parsers, no run does. -/
theorem resolutions_leave_well_formed :
    (∀ g : Grammar ω ρ, Grown (fun _ _ => True) g → g.WellFormed) ∧
    (∀ (book : Book ω ρ) (number : Nat) (kind : InputKind) (g later : Grammar ω ρ)
      (named : String → Prop) (identity : Nat) (id : NodeId),
      Continues book (.empty number kind) g →
      (∀ name, named name → (book.rules name).Own named Reference.NoHandle) →
      (book.parsers identity).Own named Reference.NoHandle →
      (g.resolve book.rules ⟨.parser identity, []⟩ (book.parsers identity)).1 = .ok id →
      Continues book
        (g.resolve book.rules ⟨.parser identity, []⟩ (book.parsers identity)).2 later →
      ∀ input memoize limit, Job.Grounded ⟨later, input, memoize, limit⟩ id) ∧
    ∀ g : Grammar ω ρ, Grown OwnOnly g → ∀ id : NodeId, id.number < g.size →
      ∀ input memoize limit, Job.Grounded ⟨g, input, memoize, limit⟩ id := by
  refine ⟨?_, ?_, ?_⟩
  · intro g grown
    exact grown.tidy.1.wellFormed grown.tidy.2
  · intro book number kind g later named identity id earlier closed own resolved afterwards
      input memoize limit
    obtain ⟨ledger, sound, _, _, stands⟩ := earlier.exists_stands resolved afterwards
    exact Job.grounded_of_closed sound.tidy.acyclic (sound.closed closed)
      ⟨book.parsers identity, own, stands⟩
  · intro g grown id small input memoize limit
    obtain ⟨tidy, complete⟩ := grown.tidy
    exact Job.grounded_of_closed tidy.acyclic (grown.contained.closed tidy complete) small

theorem trailing_leaves_well_formed :
    ((empty 0 .tokens).resolve trailing.rules ⟨.parser 0, []⟩ (trailing.parsers 0)).2.WellFormed ∧
    ∃ id, ((empty 0 .tokens).resolve trailing.rules ⟨.parser 0, []⟩
        (trailing.parsers 0)).1 = .ok id ∧
      ∀ memoize, Job.Grounded ⟨((empty 0 .tokens).resolve trailing.rules ⟨.parser 0, []⟩
        (trailing.parsers 0)).2, .tokens #[.unit], memoize, none⟩ id := by
  obtain ⟨wellFormed, amongOthers, alone⟩ := @resolutions_leave_well_formed Unit Empty
  obtain ⟨id, resolved⟩ := trailing_resolves
  refine ⟨wellFormed _ (.resolve _ trivial (.empty 0 .tokens)), id, resolved, ?_⟩
  intro memoize
  cases memoize with
  | true =>
      exact amongOthers trailing 0 .tokens _ _ (fun _ => True) 0 id .here
        (fun name _ => trailing_own name) (.rule trivial) resolved .here _ _ _
  | false =>
      have earlier : Continues trailing (.empty 0 .tokens) (.empty 0 .tokens) := .here
      obtain ⟨_, _, _, small, _⟩ := earlier.exists_stands resolved .here
      apply alone _ _ id small
      apply Grown.resolve _ _ (.empty 0 .tokens)
      exact ⟨fun _ => True, fun name _ => (Reference.Own.any.keepSecond (.rule trivial)).optional,
        .rule trivial⟩

end Grammar

end Packrat
