import Packrat.Proofs.Grammar.Program
import Packrat.Proofs.Grammar.Recall

/-!
# What the tables of a grammar list

A `Site` is what one of the tables has an entry for.  The tables of nodes, of rules, of
literals and of sequences are one table of sites.
-/

namespace Packrat

open Reference

variable {ω ρ : Type}

/-- What a grammar notes the slot of. -/
inductive Site where
  | node (place : Place)
  | thunk (thunk : Thunk)
  | literal (data : Literal)
  | sequence (place : Place)
deriving DecidableEq

/-- A reference is what a site is noted for. -/
def Ledger.Names (ledger : Ledger ω ρ) : Site → Reference ω ρ → Prop
  | .node place, reference =>
    ledger.written place = some reference ∧
      ∃ blueprint children, reference = .node blueprint children
  | .thunk thunk, reference => ledger.Is thunk reference
  | .literal data, reference => reference = .literal data
  | .sequence place, reference =>
    ledger.written place = some reference ∧ ∃ count parts, reference = .sequence count parts

theorem Ledger.Names.unique {ledger : Ledger ω ρ} {site : Site} {reference other : Reference ω ρ}
    (names : ledger.Names site reference) (otherNames : ledger.Names site other) :
    reference = other := by
  cases site with
  | node | sequence => exact Option.some.inj (names.1.symm.trans otherNames.1)
  | thunk => exact Ledger.Is.unique names otherNames
  | literal => exact names.trans otherNames.symm

theorem Ledger.Names.mono {ledger later : Ledger ω ρ}
    (texts : ∀ origin reference, ledger.texts origin = some reference →
      later.texts origin = some reference)
    {site : Site} {reference : Reference ω ρ} (names : ledger.Names site reference) :
    later.Names site reference := by
  cases site with
  | node | sequence => exact ⟨Ledger.written_mono texts names.1, names.2⟩
  | thunk => exact Ledger.is_mono texts names
  | literal => exact names

namespace Grammar

/-- The slot that is noted for a site. -/
def at? (g : Grammar ω ρ) : Site → Option NodeId
  | .node place => g.nodes.find? place
  | .thunk thunk => g.thunks.find? thunk
  | .literal data => g.literals.find? data
  | .sequence place => g.sequences.find? place

theorem at?_noteNode (g : Grammar ω ρ) (own : Option Place) (slot : NodeId) (site : Site) :
    (g.widened.noteNode own slot).at? site =
      if own.map Site.node = some site then some slot else g.at? site := by
  cases own with
  | none => cases site <;> rfl
  | some place =>
      cases site with
      | node other =>
          show (g.nodes.insert place slot).find? other = _
          rw [Table.find?_insert]
          simp [at?, eq_comm]
      | _ => rfl

theorem at?_noteThunk (g : Grammar ω ρ) (thunk : Thunk) (label : Option String) (slot : NodeId)
    (site : Site) :
    (g.widened.noteThunk thunk label slot).at? site =
      if site = .thunk thunk then some slot else g.at? site := by
  cases site with
  | thunk other =>
      show (g.thunks.insert thunk slot).find? other = _
      rw [Table.find?_insert]
      simp [at?]
  | _ => rfl

theorem at?_noteLiteral (g : Grammar ω ρ) (data : Literal) (id : NodeId) (site : Site) :
    (g.noteLiteral data id).at? site =
      if site = .literal data then some id else g.at? site := by
  cases site with
  | literal other =>
      show (g.literals.insert data id).find? other = _
      rw [Table.find?_insert]
      simp [at?]
  | _ => rfl

theorem at?_noteSequence (g : Grammar ω ρ) (place : Place) (id : NodeId) (site : Site) :
    (g.noteSequence place id).at? site =
      if site = .sequence place then some id else g.at? site := by
  cases site with
  | sequence other =>
      show (g.sequences.insert place id).find? other = _
      rw [Table.find?_insert]
      simp [at?]
  | _ => rfl

theorem at?_fill (g : Grammar ω ρ) (slot : NodeId) (content : Slot ω ρ) (site : Site) :
    (g.fill slot content).at? site = g.at? site := by
  cases site <;> rfl

theorem at?_finish (g : Grammar ω ρ) (slot : NodeId) (blueprint : Blueprint ω ρ)
    (children : Vector NodeId blueprint.arity) (site : Site) :
    (g.finish slot blueprint children).2.at? site = g.at? site := by
  rcases finish_cases g slot blueprint children with ⟨_, _, _, _, whole⟩ | ⟨_, whole⟩
  all_goals rw [whole, at?_fill]
  cases g.keyOf blueprint children <;> cases site <;> rfl

theorem Grows.at? {g g' : Grammar ω ρ} (grows : g.Grows g') {site : Site} {id : NodeId}
    (found : g.at? site = some id) : g'.at? site = some id := by
  cases site with
  | node => exact grows.nodes.kept _ _ found
  | thunk => exact grows.thunks.kept _ _ found
  | literal => exact grows.literals _ _ found
  | sequence => exact grows.sequences _ _ found

/-! ## What has been resolved -/

/-- A site is noted for what is written at a place, or what is written there is a handle
for a slot that is there. -/
theorem known?_cases {g : Grammar ω ρ} {reference : Reference ω ρ} {place : Place} {id : NodeId}
    (known : g.known? reference place = some id) {ledger : Ledger ω ρ}
    (isWritten : ledger.written place = some reference) :
    (∃ site, ledger.Names site reference ∧ g.at? site = some id) ∨
    (∃ node, reference = .handle g.number node ∧ node.number < g.size) ∨
    ∃ identity body, reference = .parser identity body ∧
      g.known? body ⟨.parser identity, []⟩ = some id := by
  cases reference with
  | node blueprint children =>
      exact .inl ⟨.node place, ⟨isWritten, _, _, rfl⟩, known⟩
  | literal data => exact .inl ⟨.literal data, rfl, known⟩
  | sequence count parts => exact .inl ⟨.sequence place, ⟨isWritten, _, _, rfl⟩, known⟩
  | rule name => exact .inl ⟨.thunk (.rule name), rfl, known⟩
  | delayed label body => exact .inl ⟨.thunk (.delayed place), ⟨isWritten, _, _, rfl⟩, known⟩
  | handle number node =>
      rw [known?] at known
      split at known
      next own => exact .inr (.inl ⟨node, own.1 ▸ rfl, own.2⟩)
      next => cases known
  | parser identity body => exact .inr (.inr ⟨identity, body, rfl, known⟩)

/-- What is known stays known, where no site is forgotten. -/
theorem known?_mono {g g' : Grammar ω ρ} (number : g'.number = g.number) (size : g.size ≤ g'.size)
    (sites : ∀ site id, g.at? site = some id → ∃ there, g'.at? site = some there)
    {reference : Reference ω ρ} {place : Place} {id : NodeId}
    (known : g.known? reference place = some id) :
    ∃ there, g'.known? reference place = some there := by
  induction reference generalizing place with
  | node => exact sites (.node place) id known
  | literal data => exact sites (.literal data) id known
  | sequence => exact sites (.sequence place) id known
  | rule name => exact sites (.thunk (.rule name)) id known
  | delayed => exact sites (.thunk (.delayed place)) id known
  | handle other node =>
      rw [known?] at known
      split at known
      next own =>
        rw [known?, number]
        exact ⟨_, if_pos ⟨own.1, Nat.lt_of_lt_of_le own.2 size⟩⟩
      next => cases known
  | parser identity body induction => exact induction known

end Grammar

end Packrat
