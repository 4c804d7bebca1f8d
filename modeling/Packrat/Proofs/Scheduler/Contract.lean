import Packrat.Proofs.Scheduler.Prepared

/-!
# What runs keep to

A `Contract` says which spots a run may come to, what may come of a spot, and which steps
may be taken there, so that steps that are allowed lead to nothing that is not.  A run
that starts at an allowed spot then keeps to it: results are allowed, and so is whatever
a continuation will do, be it a task or with a waiter.
-/

namespace Packrat

variable {ω ρ τ : Type}

namespace Job

variable {job : Job ω ρ} {host : Host ω ρ τ}

/-- What a run of a job may come to, with what makes it closed under the moves of runs. -/
structure Contract (job : Job ω ρ) where
  spots : Spot → Prop
  results : Spot → Match (Value ω) → Prop
  steps : Spot → Step ω ρ → Prop
  moves : Spot → Move ω → Prop
  start : ∀ spot frame, spots spot → steps spot (job.step spot (.start frame))
  done : ∀ spot result, moves spot (.done result) → results spot result
  call : ∀ spot node position memory, moves spot (.call node position memory) →
    spots (job.grammar.spot node position)
  resume : ∀ spot node position memory, moves spot (.call node position memory) →
    ∀ answer, results (job.grammar.spot node position) answer →
    ∀ frame, steps spot (job.step spot (.resume frame memory answer))

namespace Contract

variable {contract : job.Contract}

/-- The host makes nothing of a step that is allowed but a move that is. -/
def Suits (contract : job.Contract) (host : Host ω ρ τ) : Prop :=
  ∀ spot step world, contract.steps spot step → contract.moves spot (host.settle step world).1

/-- The step of a task is allowed at the spot of its frame. -/
def Due (contract : job.Contract) (machine : Machine ω) (task : Task ω) : Prop :=
  ∀ frame, machine.frame? task.frame = some frame →
    contract.steps frame.spot (job.step frame.spot task)

/-- All that a machine holds is allowed. -/
structure Obeyed (contract : job.Contract) (machine : Machine ω) : Prop where
  spots : ∀ id frame, machine.frame? id = some frame → contract.spots frame.spot
  results : ∀ id frame result, machine.frame? id = some frame → frame.result = some result →
    contract.results frame.spot result
  tasks : ∀ task ∈ machine.queue, contract.Due machine task
  waiters : ∀ id frame, machine.frame? id = some frame →
    ∀ waiter memory, (waiter, memory) ∈ frame.waiters →
      ∀ answer, contract.results frame.spot answer →
        contract.Due machine (.resume waiter memory answer)

theorem Obeyed.prepared {machine : Machine ω} (obeyed : contract.Obeyed machine) :
    job.Prepared (fun _ => contract.steps) contract.results machine :=
  ⟨obeyed.tasks, obeyed.waiters⟩

theorem Obeyed.taken {machine : Machine ω} (obeyed : contract.Obeyed machine)
    {task : Task ω} {rest : List (Task ω)} (queue : machine.queue = task :: rest) :
    contract.Obeyed (machine.taken rest) :=
  ⟨obeyed.spots, obeyed.results, (obeyed.prepared.taken queue).tasks, obeyed.waiters⟩

theorem Obeyed.complete {machine : Machine ω} {id : FrameId} {frame : Frame ω}
    {result : Match (Value ω)} (obeyed : contract.Obeyed machine)
    (found : machine.frame? id = some frame) (isAllowed : contract.results frame.spot result) :
    contract.Obeyed (machine.complete job.memoize id result) := by
  have prepared := obeyed.prepared.complete found fun _ => isAllowed
  have moved : job.Moved machine id (.done result) _ := .done result
  refine ⟨?_, ?_, prepared.tasks, prepared.waiters⟩
  · intro other later there
    rcases moved.frame_cases there with ⟨before, was, same, _⟩ | ⟨_, _, _, impossible, _⟩
    · rw [← same]
      exact obeyed.spots other before was
    · cases impossible
  · intro other later value there finished
    rcases moved.frame_cases there with ⟨before, was, same, ⟨kept, _⟩ | ⟨rfl, _, _, isDone, new⟩⟩ |
      ⟨_, _, _, impossible, _⟩
    · rw [← same]
      exact obeyed.results other before value was (kept.symm.trans finished)
    · cases isDone
      rw [finished] at new
      cases new
      rw [found] at was
      cases was
      rw [← same]
      exact isAllowed
    · cases impossible

end Contract

open Contract

variable {contract : job.Contract}

/-- A move that is allowed at the spot of its frame keeps to the contract. -/
theorem Moved.obeyed {machine next : Machine ω} {id : FrameId} {frame : Frame ω}
    {move : Move ω} (moved : job.Moved machine id move next)
    (orderly : machine.Orderly job.memoize [id]) (obeyed : contract.Obeyed machine)
    (found : machine.frame? id = some frame) (isAllowed : contract.moves frame.spot move) :
    contract.Obeyed next := by
  have called : ∀ {node position memory}, move = .call node position memory →
      contract.moves frame.spot (.call node position memory) := by
    rintro node position memory rfl
    exact isAllowed
  have done : ∀ result, move = .done result → contract.results frame.spot result := by
    rintro result rfl
    exact contract.done _ _ isAllowed
  have prepared := moved.prepared orderly obeyed.prepared found obeyed.results
    (fun result isDone _ => done result isDone)
    (fun _ _ _ isCall answer answered =>
      contract.resume _ _ _ _ (called isCall) answer answered id)
    (fun _ _ _ isCall callee _ =>
      contract.start _ callee (contract.call _ _ _ _ (called isCall)))
  refine ⟨?_, ?_, prepared.tasks, prepared.waiters⟩
  · intro other later there
    rcases moved.frame_cases there with ⟨before, was, same, _⟩ | ⟨_, _, _, isCall, _, rfl⟩
    · rw [← same]
      exact obeyed.spots other before was
    · exact contract.call _ _ _ _ (called isCall)
  · intro other later value there finished
    rcases moved.frame_cases there with
      ⟨before, was, same, ⟨kept, _⟩ | ⟨rfl, _, result, isDone, new⟩⟩ | ⟨_, _, _, _, _, rfl⟩
    · rw [← same]
      exact obeyed.results other before value was (kept.symm.trans finished)
    · rw [finished] at new
      cases new
      rw [found] at was
      cases was
      rw [← same]
      exact done value isDone
    · cases finished

/-- A task whose turn it is keeps to the contract. -/
theorem Contract.Obeyed.task {machine next : Machine ω} {root : FrameId} {task : Task ω}
    {rest : List (Task ω)} {world after : τ} (suits : contract.Suits host)
    (orderly : machine.Orderly job.memoize []) (obeyed : contract.Obeyed machine)
    (queue : machine.queue = task :: rest)
    (turned : job.turn host root machine world = (.running next, after)) :
    contract.Obeyed next := by
  have held := orderly.taken queue
  obtain ⟨frame, found⟩ := Machine.exists_frame? (held.known _ List.mem_cons_self)
  apply (moved_of_turn queue found turned).obeyed held (obeyed.taken queue) found
  apply suits
  apply obeyed.tasks task _ frame found
  rw [queue]
  exact List.mem_cons_self

/-- A run keeps to a contract, if it fails no frame or such failures are allowed. -/
theorem Leads.obeyed {root : FrameId} {first machine : Machine ω} {start world : τ}
    {history : List (Deed ω)} (suits : contract.Suits host)
    (leads : job.Leads host root first start history machine world)
    (failing : ∀ stuck, .cut stuck ∈ history → ∀ spot, contract.spots spot →
      contract.results spot (leftRecursion spot.position))
    (orderly : first.Orderly job.memoize []) (obeyed : contract.Obeyed first) :
    contract.Obeyed machine := by
  induction leads with
  | here => exact obeyed
  | task earlier queue turned induction =>
      have before := induction fun stuck member =>
        failing stuck (List.mem_append_left _ member)
      exact before.task suits (earlier.orderly orderly) queue turned
  | @cut _ _ _ _ _ stuck _ queue newest turned induction =>
      have before := induction fun other member =>
        failing other (List.mem_append_left _ member)
      obtain ⟨_, _, frame, found, _, rfl⟩ := failed_of_turn queue newest turned
      exact before.complete found
        (failing stuck (List.mem_append_right _ List.mem_cons_self) _
          (before.spots stuck frame found))

theorem begin_obeyed {root : NodeId} {position : Nat} {frame : FrameId} {first : Machine ω}
    (begun : job.begin root position = some (frame, first))
    (isAllowed : contract.spots (job.grammar.spot root position)) : contract.Obeyed first := by
  have prepared : job.Prepared (fun _ => contract.steps) contract.results first :=
    begin_prepared begun (contract.start _ frame isAllowed)
  refine ⟨?_, ?_, prepared.tasks, prepared.waiters⟩
  · intro id own there
    rw [frame?_begin begun] at there
    split at there
    next =>
      cases there
      exact isAllowed
    next => cases there
  · intro id own result there finished
    rw [frame?_begin begun] at there
    split at there
    next =>
      cases there
      cases finished
    next => cases there

end Job

end Packrat
