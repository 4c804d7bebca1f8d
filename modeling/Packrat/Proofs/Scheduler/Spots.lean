import Packrat.Proofs.Scheduler.Extent
import Packrat.Proofs.Scheduler.Outcome
import Mathlib.Data.Finset.Prod
import Mathlib.Data.Fintype.Card

/-!
# How many spots there are

A run among stocked nodes comes only to spots whose node is in a slot of the grammar and
whose position is inside the input, so there are finitely many.  If results are kept, no
spot has two frames, and the number of spots bounds how many frames are ever opened.
-/

namespace Packrat

variable {ω ρ τ : Type}

def Slot.isReady : Slot ω ρ → Bool
  | ready _ => true
  | _ => false

/-- How many slots of a grammar hold a node. -/
def Grammar.nodeCount (g : Grammar ω ρ) : Nat :=
  ((Finset.range g.size).filter fun number => g.slots[number]?.any Slot.isReady).card

namespace Job

variable {job : Job ω ρ} {host : Host ω ρ τ} {allowed : NodeId → Prop} {most : Nat}

/-- How many spots there are in a job: one for each node and each position. -/
def spotCount (job : Job ω ρ) : Nat := job.grammar.nodeCount * (job.input.length + 1)

/-- The nodes that are allowed are there, and they make so many calls at most, of each
other. -/
structure Tame (job : Job ω ρ) (allowed : NodeId → Prop) (most : Nat) : Prop where
  ready : ∀ id, allowed id →
    ∃ node, job.grammar.slot? (job.grammar.follow id) = some (.ready node)
  bounded : job.Bounded allowed most

theorem Tame.card_le {spots : Finset Spot} {start : Nat} (tame : job.Tame allowed most)
    (covers : ∀ spot ∈ spots, job.Covers allowed start spot) : spots.card ≤ job.spotCount := by
  rw [spotCount, Grammar.nodeCount, ← Finset.card_range (job.input.length + 1),
    ← Finset.card_product]
  refine Finset.card_le_card_of_injOn (fun spot => (spot.node.number, spot.position)) ?_ ?_
  · intro spot member
    have covered := covers spot member
    obtain ⟨id, isAllowed, leads⟩ := covered.node
    obtain ⟨node, ready⟩ := tame.ready id isAllowed
    rw [leads] at ready
    have there : job.grammar.slots[spot.node.number]? = some (.ready node) := ready
    refine Finset.mem_coe.mpr (Finset.mem_product.mpr ⟨?_, ?_⟩)
    · refine Finset.mem_filter.mpr ⟨Finset.mem_range.mpr (Grammar.slot?_lt ready), ?_⟩
      rw [there]
      rfl
    · exact Finset.mem_range.mpr (Nat.lt_succ_of_le covered.stops)
  · rintro ⟨node, position⟩ _ ⟨otherNode, otherPosition⟩ _ same
    obtain ⟨number, samePosition⟩ := Prod.mk.inj same
    exact Spot.mk.injEq .. ▸ ⟨Index.ext number, samePosition⟩

/-- If results are kept, a run opens one frame for each spot at most. -/
theorem Visits.size_le_spotCount {root : NodeId} {position : Nat} {start world : τ}
    {history : List (Deed ω)} {machine : Machine ω}
    (visits : job.Visits host root position start history machine world)
    (keeps : job.memoize = true) (tame : job.Tame allowed most) (isAllowed : allowed root)
    (inside : position ≤ job.input.length) : machine.frames.size ≤ job.spotCount := by
  have orderly := visits.orderly
  have obeyed := visits.extent tame.bounded isAllowed inside
  have small := visits.size_le_capacity
  have found : ∀ index : Fin machine.frames.size,
      machine.frame? ⟨index, Nat.lt_of_lt_of_le index.isLt small⟩ = some machine.frames[index] :=
    fun index => Array.getElem?_eq_getElem index.isLt
  -- Each frame is listed under its spot, so no two of them have the same.
  have different : Function.Injective
      fun index : Fin machine.frames.size => machine.frames[index].spot := by
    intro index other same
    have listed := (orderly.listed _ _).mpr ⟨_, found index, rfl, .inl keeps⟩
    have otherListed := (orderly.listed _ _).mpr ⟨_, found other, rfl, .inl keeps⟩
    rw [show machine.frames[index].spot = machine.frames[other].spot from same,
      otherListed] at listed
    exact Fin.ext (congrArg Index.number (Option.some.inj listed)).symm
  rw [← Fintype.card_fin machine.frames.size, ← Finset.card_univ,
    ← Finset.card_image_of_injective _ different]
  apply tame.card_le
  intro spot member
  obtain ⟨index, _, rfl⟩ := Finset.mem_image.mp member
  exact obeyed.spots _ _ (found index)

end Job

theorem Grammar.Stocked.exists_tame [BEq ω] [Printable ω] {g : Grammar ω ρ}
    {allowed : NodeId → Prop} (stocked : g.Stocked allowed) (acyclic : g.Acyclic)
    (input : Input ω) (memoize : Bool) (limit : Option Nat) :
    ∃ most, Job.Tame ⟨g, input, memoize, limit⟩ allowed most := by
  obtain ⟨most, bounded⟩ := stocked.exists_bounded acyclic input memoize limit
  refine ⟨most, fun id isAllowed => ?_, bounded⟩
  obtain ⟨node, _, _, ready, _⟩ := stocked id isAllowed
  exact ⟨node, ready⟩

end Packrat
