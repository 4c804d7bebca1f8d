import Packrat.Proofs.Scheduler.Circles
import Packrat.Proofs.Scheduler.Soundness
import Mathlib.Data.Fintype.Prod

/-!
# Left recursion

A spot demands another one if its matcher calls it, with all calls before it answered as
they evaluate.  A spot is left-recursive if its demands lead to a spot that demands itself
in the end.  Among the library's own nodes this is the only thing that keeps a spot from
evaluating to something: there are finitely many spots, and each makes finitely many calls.
-/

namespace Packrat

variable {ω ρ τ : Type}

namespace Grammar

variable {g : Grammar ω ρ} {input : Input ω} {reply : ρ → Answer ω} {spot : Spot}

/-- The spots that a move leads to calls of. -/
inductive Needs (g : Grammar ω ρ) (input : Input ω) (reply : ρ → Answer ω) (spot : Spot) :
    Move ω → Spot → Prop where
  | next {node : NodeId} {position : Nat} {memory : Memory ω} :
      Needs g input reply spot (.call node position memory) (g.spot node position)
  | later {node : NodeId} {position : Nat} {memory : Memory ω} {answer : Match (Value ω)}
      {callee : Spot} :
      g.Comes input reply (g.spot node position) answer →
      Needs g input reply spot (g.response input reply spot memory answer) callee →
      Needs g input reply spot (.call node position memory) callee

/-- What is matched at a spot depends on another one. -/
def Demands (g : Grammar ω ρ) (input : Input ω) (reply : ρ → Answer ω) (spot callee : Spot) :
    Prop :=
  g.Needs input reply spot (g.opening input reply spot) callee

/-- The demands of a spot go round in a circle. -/
def LeftRecursive (g : Grammar ω ρ) (input : Input ω) (reply : ρ → Answer ω) (spot : Spot) :
    Prop :=
  ∃ inner, Relation.ReflTransGen (g.Demands input reply) spot inner ∧
    Relation.TransGen (g.Demands input reply) inner inner

/-- Whatever a move needs evaluates in fewer steps than the spot, if that does. -/
theorem Needs.comesWithin {depth : Nat} {move : Move ω} {callee : Spot}
    {result : Match (Value ω)} (needs : g.Needs input reply spot move callee)
    (yields : (g.matcherAt spot).Yields input reply spot.position
      (fun node position => g.ComesWithin input reply depth (g.spot node position))
      move result) :
    ∃ answer, g.ComesWithin input reply depth callee answer := by
  induction needs with
  | next =>
      cases yields with
      | call answered => exact ⟨_, answered⟩
  | later comes _ induction =>
      cases yields with
      | call answered rest =>
          rw [answered.comes.unique comes] at rest
          exact induction rest

theorem comesWithin_of_transGen {depth : Nat} {callee : Spot}
    (demands : Relation.TransGen (g.Demands input reply) spot callee)
    (comes : ∃ result, g.ComesWithin input reply (depth + 1) spot result) :
    ∃ answer, g.ComesWithin input reply depth callee answer := by
  induction demands with
  | single demand =>
      obtain ⟨_, within⟩ := comes
      exact demand.comesWithin within
  | tail _ demand induction =>
      obtain ⟨_, within⟩ := induction
      exact demand.comesWithin within.succ

/-- What evaluates to something is not left-recursive. -/
theorem Comes.not_leftRecursive {result : Match (Value ω)}
    (comes : g.Comes input reply spot result) : ¬g.LeftRecursive input reply spot := by
  rintro ⟨inner, path, circle⟩
  have goesRound : ∀ depth other, ¬g.ComesWithin input reply depth inner other := by
    intro depth
    induction depth with
    | zero => exact fun _ impossible => impossible
    | succ depth induction =>
        intro other within
        obtain ⟨answer, there⟩ := comesWithin_of_transGen circle ⟨other, within⟩
        exact induction answer there
  obtain ⟨depth, within⟩ := comes_iff_exists_depth.mp comes
  rcases Relation.reflTransGen_iff_eq_or_transGen.mp path with rfl | path
  · exact goesRound depth result within
  · obtain ⟨answer, there⟩ := comesWithin_of_transGen path ⟨result, within.succ⟩
    exact goesRound depth answer there

end Grammar

namespace Job

variable {job : Job ω ρ} {reply : ρ → Answer ω} {allowed : NodeId → Prop} {most calls : Nat}
  {spot callee : Spot}

theorem Runs.move {step : Step ω ρ} (runs : job.Runs allowed calls spot step)
    (reply : ρ → Answer ω) : job.Runs allowed calls spot (step.move reply).toStep := by
  have answers : (⟨fun request _ => (reply request, ()), fun _ _ => ()⟩ :
      Host ω ρ Unit).Answers reply := fun _ _ => rfl
  rw [← answers.settle step ()]
  exact runs.settle _ ()

/-- A call among stocked nodes is of a spot inside the input, and what is done with an
answer makes a call less. -/
theorem Runs.response {start : Nat} {node : NodeId} {position : Nat} {memory : Memory ω}
    (runs : job.Runs allowed calls spot (.call node position memory))
    (covers : job.Covers allowed start spot) (reply : ρ → Answer ω) :
    job.Covers allowed start (job.grammar.spot node position) ∧
      ∃ fewer, calls = fewer + 1 ∧
        ∀ answer : Match (Value ω), answer.Inside position job.input.length →
          job.Runs allowed fewer spot
            (job.grammar.response job.input reply spot memory answer).toStep := by
  obtain ⟨fewer, isCalls, each⟩ := runs.resume
  refine ⟨covers.call runs, fewer, isCalls, fun answer inside => ?_⟩
  rw [← step_resume_move spot ⟨0, capacity_pos⟩ memory answer]
  exact (each answer inside ⟨0, capacity_pos⟩).move reply

theorem Bounded.opening {start : Nat} (bounded : job.Bounded allowed most)
    (covers : job.Covers allowed start spot) (reply : ρ → Answer ω) :
    job.Runs allowed most spot (job.grammar.opening job.input reply spot).toStep := by
  rw [← step_start_move spot ⟨0, capacity_pos⟩]
  exact (bounded.start covers ⟨0, capacity_pos⟩).move reply

/-- What stocked nodes evaluate to is inside the input. -/
theorem Bounded.inside {start : Nat} (bounded : job.Bounded allowed most) {move : Move ω}
    {result : Match (Value ω)} (covers : job.Covers allowed start spot)
    (runs : job.Runs allowed calls spot move.toStep)
    (comes : job.grammar.Completes job.input reply spot move result) :
    result.Inside spot.position job.input.length := by
  induction comes generalizing calls with
  | done spot result => exact runs.inside
  | call _ _ callee rest =>
      obtain ⟨coversCallee, fewer, _, onward⟩ := runs.response covers reply
      exact rest covers (onward _ (callee coversCallee (bounded.opening coversCallee reply)))

theorem Bounded.comes_inside {start : Nat} (bounded : job.Bounded allowed most)
    (covers : job.Covers allowed start spot) {result : Match (Value ω)}
    (comes : job.Comes reply spot result) : result.Inside spot.position job.input.length :=
  bounded.inside covers (bounded.opening covers reply) comes

/-- Stocked nodes need only each other. -/
theorem Bounded.covers_needs {start : Nat} (bounded : job.Bounded allowed most) {move : Move ω}
    (covers : job.Covers allowed start spot) (runs : job.Runs allowed calls spot move.toStep)
    (needs : job.grammar.Needs job.input reply spot move callee) :
    job.Covers allowed start callee := by
  induction needs generalizing calls with
  | next => exact covers.call runs
  | later comes _ induction =>
      obtain ⟨coversCallee, fewer, _, onward⟩ := runs.response covers reply
      exact induction (onward _ (bounded.comes_inside coversCallee comes))

/-- A move whose needs evaluate comes to something, since it makes finitely many calls. -/
theorem Bounded.exists_completes {start : Nat} (bounded : job.Bounded allowed most)
    {move : Move ω} (covers : job.Covers allowed start spot)
    (runs : job.Runs allowed calls spot move.toStep)
    (each : ∀ callee, job.grammar.Needs job.input reply spot move callee →
      ∃ answer, job.Comes reply callee answer) :
    ∃ result, job.grammar.Completes job.input reply spot move result := by
  induction calls generalizing move with
  | zero =>
      cases move with
      | done result => exact ⟨result, .done spot result⟩
      | call node position memory =>
          obtain ⟨_, _, impossible, _⟩ := runs.response covers reply
          omega
  | succ calls induction =>
      cases move with
      | done result => exact ⟨result, .done spot result⟩
      | call node position memory =>
          obtain ⟨coversCallee, fewer, isCalls, onward⟩ := runs.response covers reply
          obtain rfl : fewer = calls := by omega
          obtain ⟨answer, comes⟩ := each _ .next
          obtain ⟨result, rest⟩ :=
            induction (onward answer (bounded.comes_inside coversCallee comes))
            fun callee needs => each callee (.later comes needs)
          exact ⟨result, .call comes rest⟩

theorem Tame.finite_covered {start : Nat} (tame : job.Tame allowed most) :
    Finite {spot // job.Covers allowed start spot} := by
  have small : ∀ spot, job.Covers allowed start spot →
      spot.node.number < job.grammar.size ∧ spot.position < job.input.length + 1 := by
    intro spot covers
    obtain ⟨id, isAllowed, leads⟩ := covers.node
    obtain ⟨node, ready⟩ := tame.ready id isAllowed
    exact ⟨leads ▸ Grammar.slot?_lt ready, Nat.lt_succ_of_le covers.stops⟩
  apply Finite.of_injective (β := Fin job.grammar.size × Fin (job.input.length + 1))
    fun spot => (⟨_, (small _ spot.2).1⟩, ⟨_, (small _ spot.2).2⟩)
  rintro ⟨⟨node, position⟩, _⟩ ⟨⟨otherNode, otherPosition⟩, _⟩ same
  obtain ⟨number, samePosition⟩ := Prod.mk.inj same
  exact Subtype.ext (Spot.mk.injEq .. ▸ ⟨Index.ext (Fin.mk.inj number), Fin.mk.inj samePosition⟩)

/-- A spot that evaluates to nothing demands another one of the kind. -/
theorem Tame.exists_demand {start : Nat} (tame : job.Tame allowed most)
    (covers : job.Covers allowed start spot) (stuck : ∀ result, ¬job.Comes reply spot result) :
    ∃ callee, job.grammar.Demands job.input reply spot callee ∧
      job.Covers allowed start callee ∧ ∀ result, ¬job.Comes reply callee result := by
  have runs := tame.bounded.opening covers reply
  by_contra none
  obtain ⟨result, comes⟩ := tame.bounded.exists_completes covers runs fun callee demand => by
    by_contra never
    exact none ⟨callee, demand, tame.bounded.covers_needs covers runs demand,
      fun answer comes => never ⟨answer, comes⟩⟩
  exact stuck result comes

/-- What is not left-recursive evaluates to something: otherwise there would always be a
spot to demand that does not, and there are only finitely many. -/
theorem Tame.exists_comes {start : Nat} (tame : job.Tame allowed most)
    (covers : job.Covers allowed start spot)
    (sound : ¬job.grammar.LeftRecursive job.input reply spot) :
    ∃ result, job.Comes reply spot result := by
  by_contra never
  have : Finite {spot // job.Covers allowed start spot} := tame.finite_covered
  obtain ⟨inner, path, circle⟩ := @exists_circle {spot // job.Covers allowed start spot}
    (fun caller callee => job.grammar.Demands job.input reply caller.1 callee.1) _
    (fun here => ∀ result, ¬job.Comes reply here.1 result)
    (fun here stuck => by
      obtain ⟨callee, demand, coversCallee, again⟩ := tame.exists_demand here.2 stuck
      exact ⟨⟨callee, coversCallee⟩, demand, again⟩)
    ⟨spot, covers⟩ fun result comes => never ⟨result, comes⟩
  exact sound ⟨inner.1, path.lift Subtype.val fun _ _ demand => demand,
    circle.lift Subtype.val fun _ _ demand => demand⟩

end Job

/-- A stocked node evaluates to something exactly if it is not left-recursive. -/
theorem Grammar.Stocked.exists_evaluates_iff [BEq ω] [Printable ω] {g : Grammar ω ρ}
    {allowed : NodeId → Prop} (stocked : g.Stocked allowed) (acyclic : g.Acyclic)
    {input : Input ω} {reply : ρ → Answer ω} {id : NodeId} (isAllowed : allowed id)
    {position : Nat} (inside : position ≤ input.length) :
    (∃ result, g.Evaluates input reply id position result) ↔
      ¬g.LeftRecursive input reply (g.spot id position) := by
  constructor
  · rintro ⟨result, evaluates⟩
    exact Comes.not_leftRecursive evaluates
  · intro sound
    obtain ⟨most, tame⟩ := stocked.exists_tame acyclic input true none
    have covers : Job.Covers ⟨g, input, true, none⟩ allowed 0 (g.spot id position) :=
      ⟨⟨id, isAllowed, rfl⟩, Nat.zero_le _, inside⟩
    exact tame.exists_comes covers sound

end Packrat
