import Packrat.Proofs.Grammar.Slots
import Packrat.Scheduler.Run

/-!
# Runs for different hosts

A run depends on its host by the answers that it gets, and on its grammar by the slots.  So
a run that ends for one host ends in the same way for another one that gives the same
answers, whatever the worlds of the two are.  The first host may have no answer to a
request; then it is lost, and nothing is said of the second one.
-/

namespace Packrat

variable {ω ρ τ σ : Type}

/-- Whatever the host is asked and told, this stays true of its world. -/
structure Host.Keeps (host : Host ω ρ τ) (always : τ → Prop) : Prop where
  answer : ∀ request world, always world → always (host.answer request world).2
  watch : ∀ event world, always world → always (host.watch event world)

/-- Whatever the job asks a host and tells it, this stays true of the host's world. -/
structure Job.Keeps (job : Job ω ρ) (host : Host ω ρ τ) (always : τ → Prop) : Prop where
  settle : ∀ spot task world, always world → always (host.settle (job.step spot task) world).2
  watch : ∀ event world, always world → always (host.watch event world)

/-- The second host answers as the first, as long as the worlds are related and the first
is not lost. -/
structure Host.Follows (host : Host ω ρ τ) (other : Host ω ρ σ) (lost : τ → Prop)
    (related : τ → σ → Prop) : Prop where
  keeps : host.Keeps lost
  answer : ∀ request world later, related world later → lost (host.answer request world).2 ∨
    (host.answer request world).1 = (other.answer request later).1 ∧
      related (host.answer request world).2 (other.answer request later).2
  watch : ∀ event another world later, related world later →
    related (host.watch event world) (other.watch another later)

/-- Two outcomes that are the same, in related worlds, unless the first host is lost. -/
def SameUnless {α : Type} (lost : τ → Prop) (related : τ → σ → Prop) (outcome : α × τ)
    (other : α × σ) : Prop :=
  lost outcome.2 ∨ outcome.1 = other.1 ∧ related outcome.2 other.2

variable {host : Host ω ρ τ} {other : Host ω ρ σ} {lost : τ → Prop} {related : τ → σ → Prop}
  {world : τ} {later : σ}

theorem Host.Keeps.settle (keeps : host.Keeps lost) (step : Step ω ρ) (isLost : lost world) :
    lost (host.settle step world).2 := by
  induction step generalizing world with
  | done | call => exact isLost
  | ask request next induction => exact induction _ (keeps.answer request world isLost)

theorem Host.Keeps.job (keeps : host.Keeps lost) (job : Job ω ρ) : job.Keeps host lost :=
  ⟨fun _ _ _ isLost => keeps.settle _ isLost, keeps.watch⟩

theorem Host.Follows.settle (follows : host.Follows other lost related) (step : Step ω ρ)
    (isRelated : related world later) :
    SameUnless lost related (host.settle step world) (other.settle step later) := by
  induction step generalizing world later with
  | done | call => exact .inr ⟨rfl, isRelated⟩
  | ask request next induction =>
      rcases follows.answer request world later isRelated with isLost | ⟨same, stillRelated⟩
      · exact .inl (follows.keeps.settle (next _) isLost)
      · simp only [Host.settle]
        rw [← same]
        exact induction _ stillRelated

/-! ## Matchers that ask for nothing -/

/-- The step puts no request. -/
def Step.Silent : Step ω ρ → Prop
  | .done _ => True
  | .call _ _ _ => True
  | .ask _ _ => False

/-- The matcher never puts a request. -/
structure Matcher.Silent (matcher : Matcher ω ρ) : Prop where
  start : ∀ input position, (matcher.start input position).Silent
  resume : ∀ input position memory answer,
    (matcher.resume input position memory answer).Silent

theorem Step.Silent.settle {step : Step ω ρ} (silent : step.Silent) (host : Host ω ρ τ)
    (world : τ) : (host.settle step world).2 = world := by
  cases step with
  | done | call => rfl
  | ask => exact silent.elim

/-- Where no matcher puts a request, a host's world only changes by what it is told. -/
theorem Job.keeps_of_silent {job : Job ω ρ}
    (silent : ∀ id matcher, job.grammar.matcher? id = some matcher → matcher.Silent)
    {always : τ → Prop} (watch : ∀ event world, always world → always (host.watch event world)) :
    job.Keeps host always := by
  refine ⟨fun spot task world isTrue => ?_, watch⟩
  have isSilent : (job.step spot task).Silent := by
    unfold Job.step
    cases task <;> dsimp only <;> split
    next matcher found => exact (silent _ matcher found).start _ _
    next => exact trivial
    next matcher found => exact (silent _ matcher found).resume _ _ _ _
    next => exact trivial
  rw [isSilent.settle host world]
  exact isTrue

namespace Job

/-- Two jobs that are the same but for what their grammars note. -/
structure Alike (job another : Job ω ρ) : Prop where
  slots : another.grammar.slots = job.grammar.slots
  input : another.input = job.input
  memoize : another.memoize = job.memoize
  limit : another.limit = job.limit

variable {job another : Job ω ρ} (alike : job.Alike another)

namespace Alike

include alike

theorem step (spot : Spot) (task : Task ω) : another.step spot task = job.step spot task := by
  have matcher? : another.grammar.matcher? spot.node = job.grammar.matcher? spot.node := by
    rw [Grammar.matcher?, Grammar.node?_congr alike.slots, Grammar.matcher?]
  cases task <;> simp only [Job.step, matcher?, alike.input]

theorem move (machine : Machine ω) (id : FrameId) (next : Move ω) :
    another.move machine id next = job.move machine id next := by
  cases next <;> simp only [Job.move, Grammar.follow_congr alike.slots, alike.memoize]

end Alike

section

variable {job : Job ω ρ} (keeps : job.Keeps host lost)

include keeps

theorem perform_keeps (machine : Machine ω) (task : Task ω) (isLost : lost world) :
    lost (job.perform host machine task world).2 := by
  unfold perform
  split
  next => exact isLost
  next => exact keeps.settle _ _ _ (keeps.watch _ _ isLost)

theorem turn_keeps (root : FrameId) (machine : Machine ω) (isLost : lost world) :
    lost (job.turn host root machine world).2 := by
  unfold turn
  split
  next task rest _ =>
    dsimp only
    split
    next => exact isLost
    next =>
      have after := perform_keeps keeps
        { machine with queue := rest, steps := machine.steps + 1 } task isLost
      revert after
      cases job.perform host { machine with queue := rest, steps := machine.steps + 1 } task
          world with
      | mk result world => cases result <;> exact id
  next =>
    split
    next => exact isLost
    next => split <;> exact isLost

theorem runFrom_keeps (root : FrameId) (fuel : Nat) (machine : Machine ω)
    (isLost : lost world) : lost (job.runFrom host root fuel machine world).2 := by
  induction fuel generalizing machine world with
  | zero => exact isLost
  | succ fuel induction =>
      have after := turn_keeps keeps root machine isLost
      rw [runFrom]
      revert after
      cases job.turn host root machine world with
      | mk progress world =>
          cases progress with
          | ended => exact id
          | running machine => exact induction machine

theorem run_keeps (fuel : Nat) (root : NodeId) (position : Nat)
    (isLost : lost world) : lost (job.run host fuel root position world).2 := by
  unfold run
  split
  next => exact isLost
  next frame machine _ =>
    have after := runFrom_keeps keeps frame fuel machine isLost
    revert after
    cases job.runFrom host frame fuel machine world with
    | mk result world => rcases result with _ | ⟨_ | _, _⟩ <;> exact id

end

namespace Alike

variable (follows : host.Follows other lost related)

include alike follows

theorem perform (machine : Machine ω) (task : Task ω) (isRelated : related world later) :
    SameUnless lost related (job.perform host machine task world)
      (another.perform other machine task later) := by
  unfold Job.perform
  split
  next => exact .inr ⟨rfl, isRelated⟩
  next frame _ =>
    rw [alike.step]
    rcases follows.settle (job.step frame.spot task) (follows.watch (job.event frame.spot task)
      (another.event frame.spot task) _ _ isRelated) with isLost | ⟨same, stillRelated⟩
    · exact .inl isLost
    · refine .inr ⟨?_, stillRelated⟩
      dsimp only
      rw [alike.move, same]

theorem turn (root : FrameId) (machine : Machine ω) (isRelated : related world later) :
    SameUnless lost related (job.turn host root machine world)
      (another.turn other root machine later) := by
  unfold Job.turn
  split
  next task rest _ =>
    dsimp only
    rw [alike.limit]
    split
    next => exact .inr ⟨rfl, isRelated⟩
    next =>
      have after := alike.perform follows
        { machine with queue := rest, steps := machine.steps + 1 } task isRelated
      revert after
      cases job.perform host { machine with queue := rest, steps := machine.steps + 1 } task
          world with
      | mk result world =>
          cases another.perform other { machine with queue := rest, steps := machine.steps + 1 }
              task later with
          | mk otherResult later =>
              rintro (isLost | ⟨same, stillRelated⟩)
              · cases result <;> exact .inl isLost
              · cases same
                cases result <;> exact .inr ⟨rfl, stillRelated⟩
  next =>
    rw [alike.memoize]
    split
    next => exact .inr ⟨rfl, isRelated⟩
    next => split <;> exact .inr ⟨rfl, isRelated⟩

/-- A run that ends ends in the same way for the second host. -/
theorem runFrom (root : FrameId) {fuel more : Nat} (enough : fuel ≤ more) (machine : Machine ω)
    (isRelated : related world later) {ended : Except Halt (Match (Value ω)) × Nat}
    (ends : (job.runFrom host root fuel machine world).1 = some ended) :
    SameUnless lost related (job.runFrom host root fuel machine world)
      (another.runFrom other root more machine later) := by
  induction fuel generalizing more machine world later with
  | zero => cases ends
  | succ fuel induction =>
      obtain ⟨more, rfl⟩ : ∃ less, more = less + 1 := ⟨more - 1, by omega⟩
      have after := alike.turn follows root machine isRelated
      rw [Job.runFrom, Job.runFrom]
      rw [Job.runFrom] at ends
      revert ends after
      cases job.turn host root machine world with
      | mk progress world =>
          cases another.turn other root machine later with
          | mk otherProgress later =>
              rintro ends (isLost | ⟨same, stillRelated⟩)
              · cases progress with
                | ended => exact .inl isLost
                | running machine =>
                    exact .inl (runFrom_keeps (follows.keeps.job job) root fuel machine isLost)
              · cases same
                cases progress with
                | ended => exact .inr ⟨rfl, stillRelated⟩
                | running machine => exact induction (by omega) machine stillRelated ends

/-- So does the match of a node. -/
theorem run (root : NodeId) (position : Nat) {fuel more : Nat} (enough : fuel ≤ more)
    (isRelated : related world later) {outcome : Outcome ω}
    (ends : (job.run host fuel root position world).1 = some outcome) :
    SameUnless lost related (job.run host fuel root position world)
      (another.run other more root position later) := by
  have begins : another.begin root position = job.begin root position := by
    rw [Job.begin, Grammar.follow_congr alike.slots, Job.begin]
  unfold Job.run at ends ⊢
  rw [begins]
  cases begun : job.begin root position with
  | none => exact .inr ⟨rfl, isRelated⟩
  | some opened =>
      obtain ⟨frame, machine⟩ := opened
      rw [begun] at ends
      dsimp only at ends ⊢
      cases ran : (job.runFrom host frame fuel machine world).1 with
      | none =>
          rw [show job.runFrom host frame fuel machine world =
            (none, (job.runFrom host frame fuel machine world).2) from Prod.ext ran rfl] at ends
          cases ends
      | some ended =>
          have after := alike.runFrom follows frame enough machine isRelated ran
          revert after
          cases job.runFrom host frame fuel machine world with
          | mk result world =>
              cases another.runFrom other frame more machine later with
              | mk otherResult later =>
                  rintro (isLost | ⟨same, stillRelated⟩)
                  · rcases result with _ | ⟨_ | _, _⟩ <;> exact .inl isLost
                  · cases same
                    rcases result with _ | ⟨_ | _, _⟩ <;> exact .inr ⟨rfl, stillRelated⟩

end Alike

end Job

end Packrat
