import Packrat.Proofs.Combinator.Behaviour
import Packrat.Proofs.Grammar.Slots
import Packrat.Proofs.Scheduler.Contract

/-!
# Runs among nodes that have matchers

Nodes that have matchers and call only each other are `Closed`.  A run that starts at one
of them never comes to a node without a matcher, whatever requests are answered with and
whichever frames are failed.
-/

namespace Packrat

variable {ω ρ τ : Type}

/-- Nodes that have matchers and call only each other. -/
def Grammar.Closed (g : Grammar ω ρ) (allowed : NodeId → Prop) : Prop :=
  ∀ id, allowed id → ∃ matcher, g.matcher? id = some matcher ∧
    ∀ input position called, matcher.Calls input position called
      (matcher.start input position) → allowed called

theorem Grammar.Acyclic.matcher?_follow {g : Grammar ω ρ} (acyclic : g.Acyclic)
    (id : NodeId) : g.matcher? (g.follow id) = g.matcher? id := by
  rw [matcher?, matcher?, acyclic.node?_follow]

namespace Job

variable {job : Job ω ρ}

/-- No run from a node starts or calls a node that has no matcher. -/
def Grounded (job : Job ω ρ) (root : NodeId) : Prop :=
  ∀ (τ : Type) (host : Host ω ρ τ) (position : Nat) (start world : τ)
    (history : List (Deed ω)) (machine : Machine ω),
    job.Visits host root position start history machine world →
    (∀ id frame, machine.frame? id = some frame →
      (job.grammar.matcher? frame.spot.node).isSome = true) ∧
    ∀ task ∈ machine.queue, ∀ frame, machine.frame? task.frame = some frame →
      ∀ now node place memory,
        (job.settled host frame.spot task now).1 = .call node place memory →
        (job.grammar.matcher? node).isSome = true

/-- A step at a spot after which only some nodes are called. -/
def Confined (job : Job ω ρ) (allowed : NodeId → Prop) (spot : Spot) (step : Step ω ρ) : Prop :=
  ∃ matcher, job.grammar.matcher? spot.node = some matcher ∧
    ∀ called, matcher.Calls job.input spot.position called step → allowed called

theorem Confined.resume {allowed : NodeId → Prop} {spot : Spot} {node : NodeId}
    {position : Nat} {memory : Memory ω}
    (confined : job.Confined allowed spot (.call node position memory)) (frame : FrameId)
    (answer : Match (Value ω)) :
    job.Confined allowed spot (job.step spot (.resume frame memory answer)) := by
  obtain ⟨matcher, found, calls⟩ := confined
  refine ⟨matcher, found, ?_⟩
  intro called later
  apply calls called
  apply Matcher.Calls.later answer
  rw [step, found] at later
  exact later

/-- A run keeps to closed nodes. -/
def confinement (job : Job ω ρ) {allowed : NodeId → Prop} (acyclic : job.grammar.Acyclic)
    (closed : job.grammar.Closed allowed) : job.Contract where
  spots spot := ∃ id, allowed id ∧ job.grammar.follow id = spot.node
  results _ _ := True
  steps := job.Confined allowed
  moves spot move := ∀ node position memory, move = .call node position memory →
    allowed node ∧
      ∀ frame answer, job.Confined allowed spot (job.step spot (.resume frame memory answer))
  start spot frame isAllowed := by
    obtain ⟨id, isAllowed, leads⟩ := isAllowed
    obtain ⟨matcher, found, calls⟩ := closed id isAllowed
    have there : job.grammar.matcher? spot.node = some matcher := by
      rw [← leads, acyclic.matcher?_follow]
      exact found
    refine ⟨matcher, there, ?_⟩
    intro called starts
    apply calls job.input spot.position called
    rw [step, there] at starts
    exact starts
  done _ _ _ := trivial
  call _ node position memory goes := ⟨node, (goes node position memory rfl).1, rfl⟩
  resume _ node position memory goes answer _ frame :=
    (goes node position memory rfl).2 frame answer

theorem confinement_suits {allowed : NodeId → Prop} (acyclic : job.grammar.Acyclic)
    (closed : job.grammar.Closed allowed) (host : Host ω ρ τ) :
    (job.confinement acyclic closed).Suits host := by
  intro spot step world confined
  induction step generalizing world with
  | done result =>
      intro node position memory impossible
      cases impossible
  | call node position memory =>
      intro other place kept isCall
      cases isCall
      obtain ⟨matcher, found, calls⟩ := confined
      have goes : job.Confined allowed spot (.call node position memory) :=
        ⟨matcher, found, calls⟩
      exact ⟨calls node (.now position memory), fun frame answer => goes.resume frame answer⟩
  | ask request next induction =>
      obtain ⟨matcher, found, calls⟩ := confined
      apply induction (host.answer request world).1 (host.answer request world).2
      exact ⟨matcher, found, fun called later => calls called (.asked _ later)⟩

/-- No run from one of some closed nodes comes to a node without a matcher. -/
theorem grounded_of_closed {allowed : NodeId → Prop} (acyclic : job.grammar.Acyclic)
    (closed : job.grammar.Closed allowed) {root : NodeId} (isAllowed : allowed root) :
    job.Grounded root := by
  intro τ host position start world history machine visits
  obtain ⟨rootFrame, first, begun, leads⟩ := visits
  have obeyed : (job.confinement acyclic closed).Obeyed machine := by
    apply leads.obeyed (confinement_suits acyclic closed host) _ (begin_orderly begun)
    · exact begin_obeyed begun ⟨root, isAllowed, rfl⟩
    · intro _ _ _ _
      trivial
  constructor
  · intro id frame found
    obtain ⟨node, isNode, leadsTo⟩ := obeyed.spots id frame found
    obtain ⟨matcher, hasMatcher, _⟩ := closed node isNode
    rw [← leadsTo, acyclic.matcher?_follow, hasMatcher]
    rfl
  · intro task member frame found now node place memory calls
    have due := obeyed.tasks task member frame found
    obtain ⟨isNode, _⟩ := confinement_suits acyclic closed host _ _ _ due node place memory calls
    obtain ⟨matcher, hasMatcher, _⟩ := closed node isNode
    rw [hasMatcher]
    rfl

end Job

end Packrat
