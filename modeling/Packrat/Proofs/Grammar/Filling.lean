import Packrat.Proofs.Grammar.Sites

/-!
# Slots that are filled

A reserved slot is filled once, with a node or with a forward.  The nodes that were there
remain, other slots lead to where they have led, and what led to the slot leads to where
it leads now.
-/

namespace Packrat

namespace Grammar

open Reference

variable {ω ρ : Type} {g middle g' : Grammar ω ρ}

/-- Nodes that are there stay, and slots lead on from where they have led. -/
structure Remains (g g' : Grammar ω ρ) : Prop where
  number : g'.number = g.number
  kind : g'.kind = g.kind
  size : g.size ≤ g'.size
  ready : ∀ id node, g.slot? id = some (.ready node) → g'.slot? id = some (.ready node)
  follow : ∀ id, g'.follow (g.follow id) = g'.follow id

namespace Remains

theorem refl (acyclic : g.Acyclic) : g.Remains g :=
  ⟨rfl, rfl, Nat.le_refl _, fun _ _ ready => ready, acyclic.follow_follow⟩

theorem trans (first : g.Remains middle) (second : middle.Remains g') : g.Remains g' where
  number := second.number.trans first.number
  kind := second.kind.trans first.kind
  size := Nat.le_trans first.size second.size
  ready id node there := second.ready id node (first.ready id node there)
  follow id := by
    rw [← second.follow (g.follow id), first.follow, second.follow]

theorem of_slots (acyclic : g.Acyclic) (number : g'.number = g.number) (kind : g'.kind = g.kind)
    (slots : g'.slots = g.slots) : g.Remains g' where
  number := number
  kind := kind
  size := by rw [Grammar.size, Grammar.size, slots]
  ready id node there := by
    rw [slot?, slots]
    exact there
  follow id := by rw [follow_congr slots, follow_congr slots, acyclic.follow_follow]

theorem of_grows (grows : g.Grows g') (tidy : g.Tidy) (tidyThen : g'.Tidy) : g.Remains g' where
  number := grows.number
  kind := grows.kind
  size := grows.size
  ready _ _ there := grows.kept there
  follow := grows.follow_follow tidy tidyThen

variable (remains : g.Remains g')

include remains

theorem follow_eq {id : NodeId} {node : Resolved ω ρ}
    (ready : g.slot? (g.follow id) = some (.ready node)) : g'.follow id = g.follow id := by
  rw [← remains.follow id]
  exact follow_of_ready (remains.ready _ _ ready)

theorem follow_congr {id other : NodeId} (same : g.follow id = g.follow other) :
    g'.follow id = g'.follow other := by
  rw [← remains.follow id, ← remains.follow other, same]

theorem node? {id : NodeId} {node : Resolved ω ρ} (found : g.node? id = some node) :
    g'.node? id = some node := by
  obtain ready := slot?_of_node? found
  apply node?_of_ready
  rw [remains.follow_eq ready]
  exact remains.ready _ _ ready

theorem shows {id : NodeId} {shape : Shape} (shows : Shows g id shape) : Shows g' id shape := by
  induction shows with
  | leaf found keyed childless => exact .leaf (remains.node? found) keyed childless
  | branch found keyed notLeaf isChildren _ induction =>
      exact .branch (remains.node? found) keyed notLeaf isChildren induction

theorem shaped {rules : Rules ω ρ} {reference : Reference ω ρ} {shape : Shape}
    (shaped : Shaped rules g reference shape) : Shaped rules g' reference shape := by
  induction shaped with
  | leaf builds cacheable childless => exact .leaf (remains.kind ▸ builds) cacheable childless
  | branch builds cacheable notLeaf _ induction =>
      exact .branch (remains.kind ▸ builds) cacheable notLeaf induction
  | opened opens _ induction => exact .opened opens induction
  | handle small shows =>
      rw [← remains.number]
      exact .handle (Nat.lt_of_lt_of_le small remains.size) (remains.shows shows)

end Remains

/-- A slot that was reserved has been filled. -/
structure Fills (g : Grammar ω ρ) (slot : NodeId) (g' : Grammar ω ρ) : Prop
    extends g.Remains g' where
  reserved : g.slot? slot = some .reserved
  filled : g'.slot? slot ≠ some .reserved
  others : ∀ id, id ≠ slot → g'.slot? id = g.slot? id
  sites : ∀ site, g'.at? site = g.at? site
  unfoldings : g'.unfoldings = g.unfoldings

section

variable {slot : NodeId}

/-- The one slot that is filled held no node. -/
theorem ready_of_others (reserved : g.slot? slot = some .reserved)
    (others : ∀ id, id ≠ slot → g'.slot? id = g.slot? id) (id : NodeId) (node : Resolved ω ρ)
    (ready : g.slot? id = some (.ready node)) : g'.slot? id = some (.ready node) := by
  rw [others id]
  · exact ready
  · exact ne_reserved_of_ready reserved ready

variable (tidy : g.Tidy) (reserved : g.slot? slot = some .reserved)

include tidy reserved

theorem Fills.forward {target : NodeId} (elsewhere : g.follow target ≠ slot) :
    g.Fills slot (g.fill slot (.forward target)) := by
  have slots := slot?_fill (slot?_lt reserved) (.forward target)
  have follow := tidy.acyclic.follow_fill_forward reserved elsewhere
  have stays := tidy.acyclic.follow_follow
  have others : ∀ id, id ≠ slot → (g.fill slot (.forward target)).slot? id = g.slot? id := by
    intro id different
    rw [slots, if_neg different]
  refine ⟨⟨rfl, rfl, ?_, ready_of_others reserved others, ?_⟩, reserved, ?_, others,
    at?_fill g slot _, rfl⟩
  · rw [size_fill]
  · intro id
    rw [follow, follow, stays]
  · rw [slots, if_pos rfl]
    simp

theorem follow_share_fill (key : Option String) (node : Resolved ω ρ) (id : NodeId) :
    ((g.share key slot).fill slot (.ready node)).follow id = g.follow id := by
  have shares := slots_share g key slot
  have there : (g.share key slot).slot? slot = some .reserved :=
    (slot?_share g key slot slot).trans reserved
  rw [(tidy.acyclic.congr shares).follow_fill_ready there]
  exact Grammar.follow_congr shares id

theorem Fills.share_ready (key : Option String) (node : Resolved ω ρ) :
    g.Fills slot ((g.share key slot).fill slot (.ready node)) := by
  have follow := follow_share_fill tidy reserved key node
  have slots : ∀ id, ((g.share key slot).fill slot (.ready node)).slot? id =
      if id = slot then some (.ready node) else g.slot? id := by
    intro id
    rw [slot?_fill, slot?_share]
    rw [size_share]
    exact slot?_lt reserved
  have others : ∀ id, id ≠ slot →
      ((g.share key slot).fill slot (.ready node)).slot? id = g.slot? id := by
    intro id different
    rw [slots, if_neg different]
  refine ⟨⟨?_, ?_, ?_, ready_of_others reserved others, ?_⟩, reserved, ?_, others, ?_, ?_⟩
  · cases key <;> rfl
  · cases key <;> rfl
  · rw [size_fill, size_share]
  · intro id
    rw [follow, follow, tidy.acyclic.follow_follow]
  · rw [slots, if_pos rfl]
    simp
  · intro site
    cases key <;> cases site <;> rfl
  · cases key <;> rfl

theorem Tidy.finish_fills (blueprint : Blueprint ω ρ) (given : Vector NodeId blueprint.arity) :
    g.Fills slot (g.finish slot blueprint given).2 ∧
      ∃ node, (g.finish slot blueprint given).2.slot?
          ((g.finish slot blueprint given).2.follow slot) = some (.ready node) ∧
        node.key = g.keyOf blueprint given ∧
        (g.slot? ((g.finish slot blueprint given).2.follow slot) = some (.ready node) ∨
          node = g.assembled blueprint given) := by
  rcases finish_cases g slot blueprint given with
    ⟨key, existing, isKey, listed, whole⟩ | ⟨_, whole⟩
  all_goals rw [whole]
  · obtain ⟨node, ready, hasKey⟩ := (tidy.shared key existing).mp listed
    have stays := follow_of_ready ready
    have elsewhere := follow_ne_reserved_of_ready reserved ready
    have fills := Fills.forward tidy reserved elsewhere
    have leads : (g.fill slot (.forward existing)).follow slot = existing := by
      rw [tidy.acyclic.follow_fill_forward_self reserved elsewhere, stays]
    refine ⟨fills, node, ?_, hasKey.trans isKey.symm, .inl ?_⟩
    all_goals rw [leads]
    · exact fills.ready _ _ ready
    · exact ready
  · refine ⟨.share_ready tidy reserved _ _, g.assembled blueprint given, ?_, rfl, .inr rfl⟩
    rw [follow_share_fill tidy reserved, follow_of_reserved reserved, slot?_fill, if_pos rfl]
    rw [size_share]
    exact slot?_lt reserved

end

end Grammar

end Packrat
