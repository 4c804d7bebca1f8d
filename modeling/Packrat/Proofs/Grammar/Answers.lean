import Packrat.Proofs.Grammar.Filling

/-!
# What references are resolved to

`Answers` says that a slot is what a reference is resolved to.  Once the slot leads to a
node, the node has a key exactly if the reference has a shape, and the key is the shape's.
The node is what it is, but what a reference's handles are for may yet be unknown; so
that a node without a key belongs to a reference without a shape is said of all states
that are to come.
-/

namespace Packrat

namespace Grammar

open Reference

variable {ω ρ : Type} {rules : Rules ω ρ} {exact : Prop} {ledger later : Ledger ω ρ}
  {g g' : Grammar ω ρ}

/-! ## Keys are the keys of shapes -/

/-- Every node with a key has the shape that the key is of. -/
def Spelled (g : Grammar ω ρ) : Prop :=
  ∀ id node key, g.slot? id = some (.ready node) → node.key = some key →
    ∃ shape, Shows g id shape ∧ shape.key = key

theorem Shows.of_follow (acyclic : g.Acyclic) {id : NodeId} {shape : Shape}
    (shows : Shows g (g.follow id) shape) : Shows g id shape := by
  cases shows with
  | leaf found keyed childless =>
      exact .leaf (acyclic.node?_follow id ▸ found) keyed childless
  | branch found keyed notLeaf isChildren each =>
      exact .branch (acyclic.node?_follow id ▸ found) keyed notLeaf isChildren each

namespace Spelled

theorem key_eq (spelled : g.Spelled) (acyclic : g.Acyclic) {id : NodeId} {node : Resolved ω ρ}
    (found : g.node? id = some node) {shape : Shape} (shows : Shows g id shape) :
    node.key = some shape.key := by
  have keyed : node.key ≠ none := by
    cases shows with
    | leaf otherFound keyed | branch otherFound keyed =>
        obtain rfl := Option.some.inj (found.symm.trans otherFound)
        exact keyed
  obtain ⟨key, hasKey⟩ := Option.ne_none_iff_exists'.mp keyed
  obtain ⟨other, otherShows, rfl⟩ := spelled _ _ _ (slot?_of_node? found) hasKey
  rw [hasKey, shows.unique (otherShows.of_follow acyclic)]

theorem of_remains (spelled : g.Spelled) (remains : g.Remains g')
    (only : ∀ id node, g'.slot? id = some (.ready node) → g.slot? id = some (.ready node)) :
    g'.Spelled := by
  intro id node key ready hasKey
  obtain ⟨shape, shows, isKey⟩ := spelled id node key (only id node ready) hasKey
  exact ⟨shape, remains.shows shows, isKey⟩

theorem finish (spelled : g.Spelled) (tidy : g.Tidy) {slot : NodeId}
    (reserved : g.slot? slot = some .reserved) (blueprint : Blueprint ω ρ)
    (given : Vector NodeId blueprint.arity) : (g.finish slot blueprint given).2.Spelled := by
  obtain ⟨fills, made, readyMade, isKey, new⟩ := tidy.finish_fills reserved blueprint given
  intro id node key ready hasKey
  by_cases same : id = slot
  · subst same
    rw [follow_of_ready ready] at readyMade new
    obtain rfl : node = made := by
      rw [ready] at readyMade
      cases readyMade
      rfl
    rcases new with old | rfl
    · rw [reserved] at old
      cases old
    · have found : (g.finish id blueprint given).2.node? id =
          some (g.assembled blueprint given) := by
        apply node?_of_ready
        rw [follow_of_ready ready]
        exact ready
      have whole := children_assembled g blueprint given
      rcases (spells_of_keyOf tidy (isKey.symm.trans hasKey)).2 with
        ⟨childless, rfl⟩ | ⟨notLeaf, keys, rfl, each⟩
      · rw [List.ofFn_eq_nil_iff.mpr childless] at whole
        refine ⟨_, .leaf found (by simp [hasKey]) whole, ?_⟩
        show leafKey blueprint.name (g.describe blueprint.name blueprint.describe given.toList) = _
        rw [show given.toList = [] from whole, describe_nil]
      · have shaped : ∀ index, ∃ shape, Shows g (given.get index) shape ∧
            shape.key = keys index := by
          intro index
          obtain ⟨child, readyChild, hasKey⟩ := (tidy.shared _ _).mp (each index)
          obtain ⟨shape, shows, isKey⟩ := spelled _ _ _ readyChild hasKey
          exact ⟨shape, shows.of_follow tidy.acyclic, isKey⟩
        choose shapes shows isKey using shaped
        refine ⟨_, .branch found (by simp [hasKey]) notLeaf whole fun index =>
          fills.shows (shows index), ?_⟩
        rw [Shape.key, funext isKey]
        rfl
  · rw [fills.others id same] at ready
    obtain ⟨shape, shows, isKey⟩ := spelled id node key ready hasKey
    exact ⟨shape, fills.shows shows, isKey⟩

end Spelled

/-! ## Answers -/

/-- A state that is to come, in which keys are those of what nodes were made for. -/
structure Future (rules : Rules ω ρ) (ledger : Ledger ω ρ) (g : Grammar ω ρ)
    (later : Ledger ω ρ) (g' : Grammar ω ρ) : Prop extends g.Remains g' where
  made : ∀ slot owner, ledger.made slot owner → later.made slot owner
  acyclic : g'.Acyclic
  spelled : g'.Spelled
  backs : ∀ slot owner node key, later.made slot owner → g'.node? slot = some node →
    node.key = some key → ∃ shape, Shaped rules g' owner shape ∧ shape.key = key

/-- A node is what a reference is resolved to: it has the key of the reference's shape. -/
structure Matches (rules : Rules ω ρ) (ledger : Ledger ω ρ) (g : Grammar ω ρ)
    (node : Resolved ω ρ) (reference : Reference ω ρ) : Prop where
  back : ∀ key, node.key = some key → ∃ shape, Shaped rules g reference shape ∧ shape.key = key
  forth : ∀ {last : Ledger ω ρ} {g' : Grammar ω ρ}, Future rules ledger g last g' →
    ∀ shape, Shaped rules g' reference shape → node.key = some shape.key

/-- A reference leads to what a slot is being made for, or to a handle for the slot. -/
def Awaits (rules : Rules ω ρ) (g : Grammar ω ρ) (owner : Reference ω ρ) (id : NodeId)
    (reference : Reference ω ρ) : Prop :=
  ∃ last, Returns rules reference last ∧
    (last = owner ∨
      ∃ other, last = .handle g.number other ∧ other.number < g.size ∧ g.follow other = g.follow id)

/-- A slot is what a reference is resolved to, for now. -/
inductive Answers (rules : Rules ω ρ) (exact : Prop) (ledger : Ledger ω ρ) (g : Grammar ω ρ)
    (id : NodeId) (reference : Reference ω ρ) : Prop where
  | settled {node : Resolved ω ρ} :
      g.slot? (g.follow id) = some (.ready node) → Lands rules reference →
      (node.key ≠ none → Sane rules reference) →
      (exact → Matches rules ledger g node reference) → Answers rules exact ledger g id reference
  | pending {owner : Reference ω ρ} :
      g.slot? (g.follow id) = some .reserved → ledger.made (g.follow id) owner →
      Awaits rules g owner id reference → Answers rules exact ledger g id reference

theorem Future.of_remains {middle : Grammar ω ρ} {between : Ledger ω ρ}
    (future : Future rules between middle later g') (remains : g.Remains middle)
    (made : ∀ slot owner, ledger.made slot owner → between.made slot owner) :
    Future rules ledger g later g' where
  toRemains := remains.trans future.toRemains
  made slot owner isMade := future.made slot owner (made slot owner isMade)
  acyclic := future.acyclic
  spelled := future.spelled
  backs := future.backs

theorem Matches.transfer {node : Resolved ω ρ} {reference : Reference ω ρ}
    (fits : Matches rules ledger g node reference) (remains : g.Remains g')
    (made : ∀ slot owner, ledger.made slot owner → later.made slot owner) :
    Matches rules later g' node reference where
  back key hasKey := by
    obtain ⟨shape, shaped, isKey⟩ := fits.back key hasKey
    exact ⟨shape, remains.shaped shaped, isKey⟩
  forth future shape shaped := fits.forth (future.of_remains remains made) shape shaped

namespace Awaits

variable {owner reference : Reference ω ρ} {id : NodeId}

/-- What is awaited has the shape of what awaits it. -/
theorem shaped (awaits : Awaits rules g owner id reference)
    (future : Future rules ledger g later g') (isMade : ledger.made (g.follow id) owner)
    {shape : Shape} (shaped : Shaped rules g' reference shape) : Shaped rules g' owner shape := by
  obtain ⟨last, returns, rfl | ⟨other, rfl, _, same⟩⟩ := awaits
  · exact shaped.of_returns returns
  · -- the handle's node has a key, so what its slot was made for has a shape
    obtain ⟨_, _, shows⟩ := (shaped.of_returns returns).of_handle
    have found : ∃ node, g'.node? other = some node := by
      cases shows with
      | leaf found | branch found => exact ⟨_, found⟩
    obtain ⟨node, found⟩ := found
    have hasKey := future.spelled.key_eq future.acyclic found shows
    have there : g'.node? (g.follow id) = some node := by
      rw [← found, ← future.acyclic.node?_follow other,
        ← future.acyclic.node?_follow (g.follow id), ← future.follow other, same]
    obtain ⟨made, shapedOwner, isKey⟩ := future.backs _ _ _ _ (future.made _ _ isMade) there hasKey
    rw [← Shape.key_injective isKey]
    exact shapedOwner

end Awaits

namespace Answers

variable {id other : NodeId} {reference body : Reference ω ρ}
  (answer : Answers rules exact ledger g id reference)

section

include answer

theorem of_ready {node : Resolved ω ρ} (ready : g.slot? (g.follow id) = some (.ready node)) :
    Lands rules reference ∧ (node.key ≠ none → Sane rules reference) ∧
      (exact → Matches rules ledger g node reference) := by
  cases answer with
  | settled otherReady lands sane fits =>
      rw [ready] at otherReady
      cases otherReady
      exact ⟨lands, sane, fits⟩
  | pending reserved =>
      rw [ready] at reserved
      cases reserved

theorem congr (same : g.follow id = g.follow other) :
    Answers rules exact ledger g other reference := by
  cases answer with
  | settled ready lands sane fits => exact .settled (same ▸ ready) lands sane fits
  | pending reserved isMade awaits =>
      unfold Awaits at awaits
      rw [same] at reserved isMade awaits
      exact .pending reserved isMade awaits

theorem of_returns (returns : Returns rules body reference) :
    Answers rules exact ledger g id body := by
  cases answer with
  | settled ready lands sane fits =>
      refine .settled ready (lands.of_returns returns)
        (fun keyed => (sane keyed).of_returns returns)
        fun isExact => ⟨fun key hasKey => ?_, fun future shape shaped => ?_⟩
      · obtain ⟨shape, shaped, isKey⟩ := (fits isExact).back key hasKey
        exact ⟨shape, shaped.returned returns, isKey⟩
      · exact (fits isExact).forth future shape (shaped.of_returns returns)
  | pending reserved isMade awaits =>
      obtain ⟨last, rest, ends⟩ := awaits
      exact .pending reserved isMade ⟨last, returns.trans rest, ends⟩

/-- An answer stays one while the slot that it is about is not filled. -/
theorem transfer (remains : g.Remains g')
    (made : ∀ slot owner, ledger.made slot owner → later.made slot owner)
    (still : g.slot? (g.follow id) = some .reserved → g'.slot? (g.follow id) = some .reserved) :
    Answers rules exact later g' id reference := by
  cases answer with
  | settled ready lands sane fits =>
      refine .settled ?_ lands sane fun isExact => (fits isExact).transfer remains made
      rw [remains.follow_eq ready]
      exact remains.ready _ _ ready
  | pending reserved isMade awaits =>
      have leads : g'.follow id = g.follow id := by
        rw [← remains.follow id]
        exact follow_of_reserved (still reserved)
      obtain ⟨last, returns, ends⟩ := awaits
      refine .pending (leads ▸ still reserved) (leads ▸ made _ _ isMade)
        ⟨last, returns, ends.imp_right ?_⟩
      rintro ⟨other, rfl, small, same⟩
      exact ⟨other, by rw [remains.number], Nat.lt_of_lt_of_le small remains.size,
        remains.follow_congr same⟩

end

/-- A handle is answered by the slot that it is for. -/
theorem of_handle (tidy : g.Tidy) (spelled : g.Spelled)
    (owned : ∀ slot, g.slot? slot = some .reserved → ∃ owner, ledger.made slot owner)
    (small : id.number < g.size) : Answers rules exact ledger g id (.handle g.number id) := by
  obtain ⟨slot, there⟩ := exists_slot? (tidy.acyclic.follow_lt tidy.forwards small)
  cases slot with
  | reserved =>
      obtain ⟨owner, isMade⟩ := owned _ there
      exact .pending there isMade ⟨_, .refl, .inr ⟨id, rfl, small, rfl⟩⟩
  | ready node =>
      refine .settled there (.handle _ _) (fun _ => .handle _ _)
        fun _ => ⟨fun key hasKey => ?_, fun future shape shaped => ?_⟩
      · obtain ⟨shape, shows, isKey⟩ := spelled _ _ _ there hasKey
        exact ⟨shape, .handle small (shows.of_follow tidy.acyclic), isKey⟩
      · exact future.spelled.key_eq future.acyclic (future.node? (node?_of_ready there))
          shaped.of_handle.2.2
  | forward target => exact absurd there (tidy.acyclic.slot?_follow id target)

/-- An answer stays one when a slot is filled with what it was made for. -/
theorem filled {slot : NodeId} (answer : Answers rules exact ledger g id reference)
    (fills : g.Fills slot g')
    (handled : ∀ id, id.number < g'.size →
      Answers rules exact ledger g' id (.handle g'.number id))
    (there : ∀ owner, ledger.made slot owner → Answers rules exact ledger g' slot owner) :
    Answers rules exact ledger g' id reference := by
  by_cases here : g.follow id = slot
  · have leads : ∀ other, g.follow other = g.follow id → g'.follow other = g'.follow id :=
      fun other same => fills.follow_congr same
    cases answer with
    | settled ready =>
        rw [here, fills.reserved] at ready
        cases ready
    | pending _ isMade awaits =>
        obtain ⟨last, returns, rfl | ⟨other, rfl, small, same⟩⟩ := awaits
        · apply ((there last (here ▸ isMade)).of_returns returns).congr
          apply leads
          rw [here, follow_of_reserved fills.reserved]
        · rw [← fills.number] at returns
          apply ((handled other (Nat.lt_of_lt_of_le small fills.size)).of_returns returns).congr
          exact leads other same
  · apply answer.transfer fills.toRemains fun _ _ isMade => isMade
    intro reserved
    rw [fills.others _ here]
    exact reserved

/-- A node that is made from its children's answers answers what it is built for. -/
theorem finish {slot : NodeId} (tidy : g.Tidy) (reserved : g.slot? slot = some .reserved)
    {blueprint : Blueprint ω ρ} {children : Fin blueprint.arity → Reference ω ρ}
    {given : Vector NodeId blueprint.arity}
    (builds : Builds g.kind reference blueprint children)
    (each : ∀ index, Answers rules exact ledger g (given.get index) (children index))
    (above : ∀ slot owner, g.slot? slot = some .reserved → ledger.made slot owner →
      Meets rules owner reference) :
    Answers rules exact ledger (g.finish slot blueprint given).2 slot reference := by
  obtain ⟨fills, node, ready, isKey, _⟩ := tidy.finish_fills reserved blueprint given
  have keyed : ∀ index key, g.shared.find? key = some (g.follow (given.get index)) →
      ∃ child, child.key = some key ∧ Sane rules (children index) ∧
        (exact → Matches rules ledger g child (children index)) := by
    intro index key listed
    obtain ⟨child, readyChild, hasKey⟩ := (tidy.shared _ _).mp listed
    obtain ⟨_, sane, fits⟩ := (each index).of_ready readyChild
    exact ⟨child, hasKey, sane (by simp [hasKey]), fits⟩
  refine .settled ready (.of_builds builds) ?_ fun isExact => ⟨fun key hasKey => ?_, ?_⟩
  · intro hasKey
    obtain ⟨key, hasKey⟩ := Option.ne_none_iff_exists'.mp hasKey
    apply Sane.of_builds builds
    intro index
    rcases (spells_of_keyOf tidy (isKey.symm.trans hasKey)).2 with ⟨leaf, _⟩ | ⟨_, keys, _, listed⟩
    · exact absurd index.isLt (by omega)
    · obtain ⟨_, _, sane, _⟩ := keyed index _ (listed index)
      exact sane
  · obtain ⟨cacheable, spells⟩ := spells_of_keyOf tidy (isKey.symm.trans hasKey)
    rw [← fills.kind] at builds
    rcases spells with ⟨leaf, rfl⟩ | ⟨notLeaf, keys, rfl, listed⟩
    · exact ⟨_, .leaf builds cacheable leaf, rfl⟩
    · have shaped : ∀ index, ∃ shape, Shaped rules g (children index) shape ∧
          shape.key = keys index := by
        intro index
        obtain ⟨child, hasKey, _, fits⟩ := keyed index _ (listed index)
        exact (fits isExact).back _ hasKey
      choose shapes shaped isKey using shaped
      refine ⟨_, .branch builds cacheable notLeaf fun index => fills.shaped (shaped index), ?_⟩
      rw [Shape.key, funext isKey]
  · intro last g' future shape shaped
    have further := future.of_remains fills.toRemains fun _ _ isMade => isMade
    rw [← fills.kind, ← future.kind] at builds
    obtain ⟨cacheable, ⟨leaf, rfl⟩ | ⟨notLeaf, shapes, rfl, shapedEach⟩⟩ := shaped.of_builds builds
    · rw [isKey]
      exact keyOf_of_spells tidy cacheable (.inl ⟨leaf, rfl⟩)
    · rw [isKey]
      refine keyOf_of_spells tidy cacheable (.inr ⟨notLeaf, _, rfl, fun index => ?_⟩)
      cases each index with
      | @settled child readyChild _ _ fits =>
          have hasKey := (fits isExact).forth further _ (shapedEach index)
          exact (tidy.shared _ _).mpr ⟨child, readyChild, hasKey⟩
      | pending reservedChild isMade awaits =>
          -- the child would have the shape of what is above it
          have shapedOwner := awaits.shaped further isMade (shapedEach index)
          obtain ⟨smaller, again, atMost⟩ :=
            shapedOwner.of_meets (above _ _ reservedChild isMade)
          rw [again.unique shaped] at atMost
          have := Shape.size_child_lt blueprint.name shapes index
          omega

end Answers

end Grammar

end Packrat
