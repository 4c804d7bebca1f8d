import Packrat.Proofs.Combinator.Tiling
import Packrat.Proofs.Scheduler.Contract

/-!
# Where results come from

Every result that a frame has is the failure that a circle was broken with, or its
matcher came to it after calls that were answered with results of frames.  Those frames
are still there in the end, so the answers can be looked up in the machine that a run has
come to.
-/

namespace Packrat

variable {ω ρ τ : Type}

/-- Some frame at a spot has a match as its result. -/
def Machine.Answers (machine : Machine ω) (spot : Spot) (result : Match (Value ω)) : Prop :=
  ∃ id frame, machine.frame? id = some frame ∧ frame.spot = spot ∧ frame.result = some result

theorem Machine.Grows.answers {machine later : Machine ω} (grows : machine.Grows later)
    {id : FrameId} {frame : Frame ω} {result : Match (Value ω)}
    (found : machine.frame? id = some frame) (finished : frame.result = some result) :
    later.Answers frame.spot result := by
  obtain ⟨grown, there, same, kept⟩ := grows id frame found
  exact ⟨id, grown, there, same, kept result finished⟩

theorem Matcher.Reaches.settle {matcher : Matcher ω ρ} {input : Input ω} {position : Nat}
    {answers : NodeId → Nat → Match (Value ω) → Prop} {step : Step ω ρ} (host : Host ω ρ τ)
    (world : τ) (reaches : matcher.Reaches input position answers step) :
    matcher.Reaches input position answers (host.settle step world).1.toStep := by
  induction step generalizing world with
  | done result => exact reaches
  | call node place memory => exact reaches
  | ask request next induction => exact induction _ _ (.asked _ reaches)

namespace Job

variable {job : Job ω ρ} {host : Host ω ρ τ}

/-- A step that the matcher of a spot comes to when calls are answered with results of a
machine's frames. -/
def ReachedIn (job : Job ω ρ) (last : Machine ω) (spot : Spot) (step : Step ω ρ) : Prop :=
  (job.grammar.matcherAt spot).Reaches job.input spot.position
    (fun node position => last.Answers (job.grammar.spot node position)) step

/-- What a machine holds has come of the results of a later machine's frames. -/
structure Explained (job : Job ω ρ) (last machine : Machine ω) : Prop where
  pending : job.Prepared (fun _ => job.ReachedIn last) last.Answers machine
  results : ∀ id frame result, machine.frame? id = some frame → frame.result = some result →
    result = leftRecursion frame.spot.position ∨ job.ReachedIn last frame.spot (.done result)

theorem ReachedIn.start (last : Machine ω) (spot : Spot) (frame : FrameId) :
    job.ReachedIn last spot (job.step spot (.start frame)) := by
  rw [step_start]
  exact Matcher.Reaches.start

theorem ReachedIn.resume {last : Machine ω} {spot : Spot} {node : NodeId} {position : Nat}
    {memory : Memory ω} (reached : job.ReachedIn last spot (.call node position memory))
    {answer : Match (Value ω)} (answered : last.Answers (job.grammar.spot node position) answer)
    (frame : FrameId) : job.ReachedIn last spot (job.step spot (.resume frame memory answer)) := by
  rw [step_resume]
  exact Matcher.Reaches.answered reached answered

theorem Moved.explained {last machine next : Machine ω} {id : FrameId} {frame : Frame ω}
    {move : Move ω} (moved : job.Moved machine id move next)
    (orderly : machine.Orderly job.memoize [id]) (explained : job.Explained last machine)
    (found : machine.frame? id = some frame) (grows : next.Grows last)
    (reached : job.ReachedIn last frame.spot move.toStep) : job.Explained last next := by
  constructor
  · refine moved.prepared orderly explained.pending found ?_ ?_ ?_ ?_
    · intro other before result there finished
      exact (moved.grows.trans grows).answers there finished
    · rintro result rfl unfinished
      cases moved with
      | done =>
          obtain ⟨spot, outcome, waiters⟩ := frame
          cases unfinished
          have there := Machine.frame?_complete found job.memoize result id
          rw [if_pos rfl] at there
          have answered := grows.answers there rfl
          exact answered
    · rintro node position memory rfl answer answered
      exact reached.resume answered id
    · intro node position memory _ callee _
      exact .start last _ callee
  · intro other later result there finished
    rcases moved.frame_cases there with ⟨before, was, same, ⟨kept, _⟩ | ⟨rfl, _, _, rfl, new⟩⟩ |
      ⟨_, _, _, _, _, rfl⟩
    · rw [← same]
      exact explained.results other before result was (kept.symm.trans finished)
    · rw [finished] at new
      cases new
      rw [found] at was
      cases was
      rw [← same]
      exact .inr reached
    · cases finished

theorem Explained.cut {last machine : Machine ω} {stuck : FrameId} {frame : Frame ω}
    (explained : job.Explained last machine) (found : machine.frame? stuck = some frame)
    (unfinished : frame.result = none)
    (grows : (machine.complete job.memoize stuck (leftRecursion frame.spot.position)).Grows last) :
    job.Explained last
      (machine.complete job.memoize stuck (leftRecursion frame.spot.position)) := by
  obtain ⟨spot, outcome, waiters⟩ := frame
  cases unfinished
  constructor
  · refine explained.pending.complete found fun _ => ?_
    have there := Machine.frame?_complete found job.memoize (leftRecursion spot.position) stuck
    rw [if_pos rfl] at there
    have answered := grows.answers there rfl
    exact answered
  · intro other later result there finished
    rw [Machine.frame?_complete found] at there
    split at there
    next =>
      cases there
      cases finished
      exact .inl rfl
    next => exact explained.results other later result there finished

/-- Whatever a run has come to on its way is explained by the machine at the end. -/
theorem Leads.explained {root : FrameId} {first machine last : Machine ω} {start world : τ}
    {history : List (Deed ω)} (leads : job.Leads host root first start history machine world)
    (orderly : first.Orderly job.memoize []) (explained : job.Explained last first)
    (grows : machine.Grows last) : job.Explained last machine := by
  induction leads with
  | here => exact explained
  | @task _ machine _ _ _ _ rest earlier queue turned induction =>
      have orderlyThen := earlier.orderly orderly
      have held := orderlyThen.taken queue
      obtain ⟨frame, found⟩ := Machine.exists_frame? (held.known _ List.mem_cons_self)
      have moved := moved_of_turn queue found turned
      have taken : machine.Grows (machine.taken rest) := .refl machine
      have sofar := induction (taken.trans (moved.grows.trans grows))
      refine moved.explained held ⟨sofar.pending.taken queue, sofar.results⟩ found grows ?_
      apply Matcher.Reaches.settle
      apply sofar.pending.tasks _ _ frame found
      rw [queue]
      exact List.mem_cons_self
  | cut _ queue newest turned induction =>
      obtain ⟨_, _, frame, found, unfinished, rfl⟩ := failed_of_turn queue newest turned
      have sofar := induction ((Machine.Grows.complete _ _ _ _).trans grows)
      exact sofar.cut found unfinished grows

theorem Visits.explained {root : NodeId} {position : Nat} {start world : τ}
    {history : List (Deed ω)} {machine : Machine ω}
    (visits : job.Visits host root position start history machine world) :
    job.Explained machine machine := by
  obtain ⟨frame, first, begun, leads⟩ := visits
  refine leads.explained (begin_orderly begun) ⟨begin_prepared begun (.start _ _ _), ?_⟩ (.refl _)
  intro id own result there finished
  rw [frame?_begin begun] at there
  split at there
  next =>
    cases there
    cases finished
  next => cases there

end Job

end Packrat
