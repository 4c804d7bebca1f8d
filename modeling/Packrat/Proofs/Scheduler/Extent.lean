import Packrat.Proofs.Combinator.Tiling
import Packrat.Proofs.Grammar.Stock
import Packrat.Proofs.Scheduler.Contract

/-!
# Runs inside the input

A run among stocked nodes stays between the position where it starts and the end of the
input, whichever frames are failed and whatever requests are answered with: this is a
contract that such runs keep to.
-/

namespace Packrat

variable {ω ρ τ : Type}

theorem Matcher.Runs.settle {matcher : Matcher ω ρ} {allowed : NodeId → Prop} {input : Input ω}
    {position calls : Nat} {step : Step ω ρ} (host : Host ω ρ τ) (world : τ)
    (runs : matcher.Runs allowed input position calls step) :
    matcher.Runs allowed input position calls (host.settle step world).1.toStep := by
  induction step generalizing world with
  | done result => exact runs
  | call node place memory => exact runs
  | ask request next induction =>
      cases runs with
      | ask each => exact induction _ _ (each _)

namespace Job

variable {job : Job ω ρ} {allowed : NodeId → Prop}

/-- A spot of an allowed node, from some position on and inside the input. -/
structure Covers (job : Job ω ρ) (allowed : NodeId → Prop) (start : Nat) (spot : Spot) :
    Prop where
  node : ∃ id, allowed id ∧ job.grammar.follow id = spot.node
  starts : start ≤ spot.position
  stops : spot.position ≤ job.input.length

/-- From a step on, the matcher of a spot makes so many calls at most. -/
abbrev Runs (job : Job ω ρ) (allowed : NodeId → Prop) (calls : Nat) (spot : Spot)
    (step : Step ω ρ) : Prop :=
  (job.grammar.matcherAt spot).Runs allowed job.input spot.position calls step

/-- The nodes that are allowed make so many calls at most, of each other. -/
def Bounded (job : Job ω ρ) (allowed : NodeId → Prop) (calls : Nat) : Prop :=
  ∀ id, allowed id → ∀ position, position ≤ job.input.length →
    job.Runs allowed calls (job.grammar.spot id position)
      ((job.grammar.matcherAt (job.grammar.spot id position)).start job.input position)

theorem Bounded.start {calls start : Nat} (bounded : job.Bounded allowed calls) {spot : Spot}
    (covers : job.Covers allowed start spot) (frame : FrameId) :
    job.Runs allowed calls spot (job.step spot (.start frame)) := by
  obtain ⟨id, isAllowed, leads⟩ := covers.node
  rw [step_start]
  have runs := bounded id isAllowed spot.position covers.stops
  rw [show job.grammar.spot id spot.position = spot by rw [Grammar.spot, leads]] at runs
  exact runs

theorem Covers.call {calls start : Nat} {spot : Spot} (covers : job.Covers allowed start spot)
    {node : NodeId} {position : Nat} {memory : Memory ω}
    (runs : job.Runs allowed calls spot (.call node position memory)) :
    job.Covers allowed start (job.grammar.spot node position) := by
  cases runs with
  | call isAllowed after before _ =>
      exact ⟨⟨node, isAllowed, rfl⟩, covers.starts.trans after, before⟩

theorem Runs.inside {calls : Nat} {spot : Spot} {result : Match (Value ω)}
    (runs : job.Runs allowed calls spot (.done result)) :
    result.Inside spot.position job.input.length := by
  cases runs with
  | done inside => exact inside

/-- What is called for is made ready by any answer inside the input, with a call less to
come. -/
theorem Runs.resume {calls : Nat} {spot : Spot} {node : NodeId} {position : Nat}
    {memory : Memory ω} (runs : job.Runs allowed calls spot (.call node position memory)) :
    ∃ fewer, calls = fewer + 1 ∧
      ∀ answer : Match (Value ω), answer.Inside position job.input.length →
        ∀ frame, job.Runs allowed fewer spot (job.step spot (.resume frame memory answer)) := by
  cases runs with
  | call _ _ _ each =>
      refine ⟨_, rfl, fun answer answered frame => ?_⟩
      rw [step_resume]
      exact each answer answered

/-- A run among nodes that make so many calls at most stays inside the input. -/
def extent (job : Job ω ρ) (allowed : NodeId → Prop) (start most : Nat)
    (bounded : job.Bounded allowed most) : job.Contract where
  spots := job.Covers allowed start
  results spot result := result.Inside spot.position job.input.length
  steps spot step := job.Covers allowed start spot ∧ job.Runs allowed most spot step
  moves spot move := job.Covers allowed start spot ∧ job.Runs allowed most spot move.toStep
  start spot frame covers := ⟨covers, bounded.start covers frame⟩
  done spot result goes := Runs.inside goes.2
  call spot node position memory goes := goes.1.call goes.2
  resume spot node position memory goes answer answered frame := by
    obtain ⟨fewer, isMost, each⟩ := Runs.resume goes.2
    exact ⟨goes.1, (each answer answered frame).mono (by omega)⟩

theorem extent_suits {start most : Nat} (bounded : job.Bounded allowed most)
    (host : Host ω ρ τ) : (job.extent allowed start most bounded).Suits host := by
  intro spot step world goes
  exact ⟨goes.1, goes.2.settle host world⟩

theorem Covers.leftRecursion {start : Nat} {spot : Spot} (covers : job.Covers allowed start spot) :
    (leftRecursion spot.position : Match (Value ω)).Inside spot.position job.input.length :=
  Match.inside_failure_point (Nat.le_refl _) covers.stops

/-- All that a run among stocked nodes comes to is inside the input. -/
theorem Visits.extent {host : Host ω ρ τ} {root : NodeId} {position most : Nat}
    {start world : τ} {history : List (Deed ω)} {machine : Machine ω}
    (visits : job.Visits host root position start history machine world)
    (bounded : job.Bounded allowed most) (isAllowed : allowed root)
    (inside : position ≤ job.input.length) :
    (job.extent allowed position most bounded).Obeyed machine := by
  obtain ⟨frame, first, begun, leads⟩ := visits
  refine leads.obeyed (extent_suits bounded host) ?_ (begin_orderly begun) (begin_obeyed begun ?_)
  · exact fun _ _ spot covers => covers.leftRecursion
  · exact ⟨⟨root, isAllowed, rfl⟩, Nat.le_refl position, inside⟩

end Job

theorem Grammar.Stocked.exists_bounded [BEq ω] [Printable ω] {g : Grammar ω ρ}
    {allowed : NodeId → Prop} (stocked : g.Stocked allowed) (acyclic : g.Acyclic) (input : Input ω)
    (memoize : Bool) (limit : Option Nat) :
    ∃ most, Job.Bounded ⟨g, input, memoize, limit⟩ allowed most :=
  stocked.exists_runs acyclic input

end Packrat
