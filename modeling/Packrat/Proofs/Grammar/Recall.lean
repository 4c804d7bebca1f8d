import Packrat.Proofs.Grammar.Books

/-!
# References that have been resolved before

`known?` looks a reference up without resolving anything.  Whatever has been resolved is
known from then on, and to resolve what is known changes nothing.
-/

namespace Packrat

namespace Grammar

variable {ω ρ : Type}

/-- The slot of what is written at a place, if it has been resolved. -/
def known? (g : Grammar ω ρ) : Reference ω ρ → Place → Option NodeId
  | .node _ _, place => g.nodes.find? place
  | .literal l, _ => g.literals.find? l
  | .sequence _ _, place => g.sequences.find? place
  | .rule name, _ => g.thunks.find? (.rule name)
  | .delayed _ _, place => g.thunks.find? (.delayed place)
  | .handle number id, _ =>
    if number = g.number ∧ id.number < g.size then some (g.follow id) else none
  | .parser identity body, _ => g.known? body ⟨.parser identity, []⟩

/-- What is written at a place has been resolved, and stands for a slot. -/
def Knows (g : Grammar ω ρ) (reference : Reference ω ρ) (place : Place) (id : NodeId) : Prop :=
  ∃ there, g.known? reference place = some there ∧ g.follow there = id

/-! ## What is known stays known -/

theorem Grows.known? {g g' : Grammar ω ρ} (grows : g.Grows g') (tidy : g.Tidy)
    (tidyThen : g'.Tidy) {reference : Reference ω ρ} {place : Place} {id : NodeId}
    (known : g.known? reference place = some id) :
    ∃ there, g'.known? reference place = some there ∧ g'.follow there = g'.follow id := by
  induction reference generalizing place with
  | node => exact ⟨id, grows.nodes.kept _ _ known, rfl⟩
  | literal => exact ⟨id, grows.literals _ _ known, rfl⟩
  | sequence => exact ⟨id, grows.sequences _ _ known, rfl⟩
  | rule => exact ⟨id, grows.thunks.kept _ _ known, rfl⟩
  | delayed => exact ⟨id, grows.thunks.kept _ _ known, rfl⟩
  | handle number node =>
      rw [Grammar.known?] at known
      split at known
      next own =>
        cases known
        refine ⟨g'.follow node, ?_, ?_⟩
        · rw [Grammar.known?, grows.number]
          exact if_pos ⟨own.1, Nat.lt_of_lt_of_le own.2 grows.size⟩
        · rw [tidyThen.acyclic.follow_follow, grows.follow_follow tidy tidyThen]
      next => cases known
  | parser identity body induction => exact induction known

/-- What an errand was sent for is known now, and the answer is what it leads to. -/
def Errand.Recalled (g : Grammar ω ρ) (id : NodeId) : Errand ω ρ → Prop
  | .written reference place => g.Knows reference place (g.follow id)
  | .node own _ _ _ =>
    ∀ place, own = some place →
      ∃ there, g.nodes.find? place = some there ∧ g.follow there = g.follow id
  | .unfolding thunk _ _ =>
    ∃ there, g.thunks.find? thunk = some there ∧ g.follow there = g.follow id

theorem nodes_finish (g : Grammar ω ρ) (slot : NodeId) (blueprint : Blueprint ω ρ)
    (children : Vector NodeId blueprint.arity) :
    (g.finish slot blueprint children).2.nodes = g.nodes := by
  rcases finish_cases g slot blueprint children with ⟨_, _, _, _, whole⟩ | ⟨_, whole⟩
  all_goals rw [whole]
  · rfl
  · cases g.keyOf blueprint children <;> rfl

/-- A slot that is finished leads to the node that is given for it. -/
theorem Tidy.follow_finish {g : Grammar ω ρ} (tidy : g.Tidy) {slot : NodeId}
    (reserved : g.slot? slot = some .reserved) (blueprint : Blueprint ω ρ)
    (children : Vector NodeId blueprint.arity) :
    (g.finish slot blueprint children).2.follow slot =
      (g.finish slot blueprint children).2.follow (g.finish slot blueprint children).1 := by
  rcases finish_cases g slot blueprint children with
    ⟨key, existing, _, listed, whole⟩ | ⟨_, whole⟩
  all_goals rw [whole]
  obtain ⟨node, ready, _⟩ := (tidy.shared key existing).mp listed
  have elsewhere := follow_ne_reserved_of_ready reserved ready
  rw [tidy.acyclic.follow_fill_forward_target reserved elsewhere,
    tidy.acyclic.follow_fill_forward_self reserved elsewhere]

theorem Resolves.recalled {rules : Rules ω ρ} {errand : Errand ω ρ} {g g' : Grammar ω ρ}
    {result : Except ResolveError NodeId} (resolves : Resolves rules errand g result g')
    (tidy : g.Tidy) {id : NodeId} (succeeds : result = .ok id) : errand.Recalled g' id := by
  induction resolves generalizing id with
  | known_node known | known_literal known | known_sequence known | known_thunk known =>
      cases succeeds
      exact ⟨_, known, rfl⟩
  | new_node _ _ induction => exact induction tidy succeeds _ rfl
  | new_literal =>
      cases succeeds
      refine ⟨_, ?_, rfl⟩
      simp [known?, noteLiteral, Table.find?_insert]
  | new_sequence =>
      cases succeeds
      refine ⟨_, ?_, rfl⟩
      simp [known?, noteSequence, Table.find?_insert]
  | rule _ induction | delayed _ induction | parser _ induction =>
      exact induction tidy succeeds
  | @own_handle g handled place small =>
      cases succeeds
      exact ⟨_, if_pos ⟨rfl, small⟩, rfl⟩
  | @made g own blueprint children place slot states ids given unknown last begins resolved _ _ =>
      cases succeeds
      intro place isOwn
      obtain ⟨grows, tidyThen, reserved⟩ := reserved_after_children tidy last begins resolved
      refine ⟨slot, ?_, tidyThen.follow_finish reserved blueprint given⟩
      rw [nodes_finish]
      apply grows.nodes.kept
      rw [begins, isOwn]
      simp [noteNode, Table.find?_insert]
  | @unfolded g g' thunk label body slot target unknown last resolves elsewhere _ =>
      cases succeeds
      obtain ⟨grows, tidyThen, reserved⟩ := reserved_after_body tidy last resolves
      refine ⟨slot, grows.thunks.kept _ _ ?_, ?_⟩
      · simp [noteThunk, Table.find?_insert]
      · rw [tidyThen.acyclic.follow_fill_forward_self reserved elsewhere,
          tidyThen.acyclic.follow_fill_forward_target reserved elsewhere]
  | _ => cases succeeds

/-! ## Resolving what is known -/

theorem resolveAt_of_known {rule : String → Resolver ω ρ NodeId} {g : Grammar ω ρ}
    (recalls : ∀ name id, g.thunks.find? (.rule name) = some id →
      (rule name).run.run g = (.ok id, g))
    {reference : Reference ω ρ} {place : Place} {id : NodeId}
    (known : g.known? reference place = some id) :
    (resolveAt rule reference place).run.run g = (.ok id, g) := by
  induction reference generalizing place with
  | node blueprint children =>
      rw [resolveAt, run_resolveNode]
      simp only [Option.bind_some, show g.nodes.find? place = some id from known]
  | literal l =>
      rw [resolveAt, run_resolveLiteral, show g.literals.find? l = some id from known]
  | sequence count parts =>
      rw [run_resolveSequence, show g.sequences.find? place = some id from known]
  | rule name => exact recalls name id known
  | delayed label body =>
      rw [resolveAt, run_unfold, show g.thunks.find? (.delayed place) = some id from known]
  | handle number node =>
      rw [known?] at known
      split at known
      next own =>
        cases known
        rw [resolveAt, run_resolveHandle, if_neg (not_not_intro own.1), if_pos own.2]
      next => cases known
  | parser identity body induction => exact induction known

theorem resolveRule_of_known (rules : Rules ω ρ) {g : Grammar ω ρ} (free : Nat) {name : String}
    {id : NodeId} (known : g.thunks.find? (.rule name) = some id) :
    (resolveRule rules free name).run.run g = (.ok id, g) := by
  cases free <;> rw [resolveRule, run_unfold, known]

/-- What is known is not resolved again. -/
theorem Knows.resolve {g : Grammar ω ρ} {place : Place} {reference : Reference ω ρ} {id : NodeId}
    (knows : g.Knows reference place id) (rules : Rules ω ρ) :
    g.resolve rules place reference = (.ok id, g) := by
  obtain ⟨there, known, leads⟩ := knows
  rw [Grammar.resolve, resolveAt_of_known (fun name id => resolveRule_of_known rules _) known]
  simp only [leads]

theorem Tidy.knows_of_resolve {g : Grammar ω ρ} (tidy : g.Tidy) {rules : Rules ω ρ}
    {place : Place} {reference : Reference ω ρ} {id : NodeId}
    (found : (g.resolve rules place reference).1 = .ok id) :
    (g.resolve rules place reference).2.Knows reference place id := by
  rcases resolve_resolves rules g place reference with
    ⟨root, g', resolved, resolves⟩ | ⟨error, g', resolved, _⟩
  · rw [resolved] at found ⊢
    cases found
    exact resolves.recalled tidy rfl
  · rw [resolved] at found
    cases found

/-! ## Slots that stay as they are -/

section

variable {g g' : Grammar ω ρ} (grows : g.Grows g') (tidy : g.Tidy) (complete : g.Complete)
  (tidyThen : g'.Tidy) {id : NodeId} (small : id.number < g.size)

include grows tidy complete tidyThen small

/-- Where nothing is being resolved, slots lead to where they always will. -/
theorem Grows.follow_eq : g'.follow id = g.follow id := by
  obtain ⟨node, ready⟩ := complete.ready tidy small
  exact grows.follow_eq_of_ready tidy tidyThen ready

theorem Grows.slot?_follow_eq : g'.slot? (g'.follow id) = g.slot? (g.follow id) := by
  rw [grows.follow_eq tidy complete tidyThen small]
  exact grows.slot? (tidy.acyclic.follow_lt tidy.forwards small)

theorem Grows.node?_eq : g'.node? id = g.node? id := by
  obtain ⟨node, ready⟩ := complete.ready tidy small
  rw [node?_of_ready ready]
  apply node?_of_ready
  rw [grows.slot?_follow_eq tidy complete tidyThen small]
  exact ready

end

theorem Tidy.known?_lt {g : Grammar ω ρ} (tidy : g.Tidy) {reference : Reference ω ρ}
    {place : Place} {id : NodeId} (known : g.known? reference place = some id) :
    id.number < g.size := by
  induction reference generalizing place with
  | node => exact tidy.nodes _ _ known
  | literal => exact tidy.literals _ _ known
  | sequence => exact tidy.sequences _ _ known
  | rule => exact tidy.thunks _ _ known
  | delayed => exact tidy.thunks _ _ known
  | handle number node =>
      rw [known?] at known
      split at known
      next own =>
        cases known
        exact tidy.acyclic.follow_lt tidy.forwards own.2
      next => cases known
  | parser identity body induction => exact induction known

theorem Grows.knows {g g' : Grammar ω ρ} (grows : g.Grows g') (tidy : g.Tidy)
    (complete : g.Complete) (tidyThen : g'.Tidy) {reference : Reference ω ρ} {place : Place}
    {id : NodeId} (knows : g.Knows reference place id) : g'.Knows reference place id := by
  obtain ⟨there, known, rfl⟩ := knows
  obtain ⟨later, knownThen, leads⟩ := grows.known? tidy tidyThen known
  exact ⟨later, knownThen,
    leads.trans (grows.follow_eq tidy complete tidyThen (tidy.known?_lt known))⟩

/-- The handle of what is known is known, wherever it is written. -/
theorem Knows.handle {g : Grammar ω ρ} {reference : Reference ω ρ} {place : Place} {id : NodeId}
    (knows : g.Knows reference place id) (tidy : g.Tidy) (elsewhere : Place) :
    g.Knows (g.handle id) elsewhere id := by
  obtain ⟨there, known, rfl⟩ := knows
  have small := tidy.acyclic.follow_lt tidy.forwards (tidy.known?_lt known)
  have stays := tidy.acyclic.follow_follow there
  refine ⟨g.follow there, ?_, stays⟩
  rw [Grammar.handle, stays, known?, if_pos ⟨rfl, small⟩, stays]

end Grammar

end Packrat
