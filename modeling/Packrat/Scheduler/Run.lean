import Packrat.Scheduler.Machine

/-!
# Running the scheduler

A run takes tasks off the queue until the root's frame has a result.  When the queue is
empty before that, frames wait for each other in a circle, which is left recursion; the
newest unfinished frame is failed and the rest can go on.  A run may be given a limit of
tasks; it fails when it needs more.

The caller who runs the scheduler answers the requests of the caller's functions and may
watch the tasks; both may change a world of the caller's.
-/

namespace Packrat

/-- What a run is to do: match with a grammar on an input, keeping results or not, and
with at most so many tasks. -/
structure Job (ω ρ : Type) where
  grammar : Grammar ω ρ
  input : Input ω
  memoize : Bool
  limit : Option Nat

/-- Why a run gives up. -/
inductive Halt where
  | stepLimit
  | overflow
  | stalled
deriving DecidableEq

/-- What a run fails with when it gives up. -/
def Halt.message : Halt → String
  | stepLimit => "step limit exceeded"
  | overflow => "too many pending matches"
  | stalled => "parser stalled"

/-- A task as it is taken on. -/
structure Event (ω : Type) where
  frame : FrameId
  position : Nat
  description : Option String
  /-- The answer that a frame is resumed with. -/
  answer : Option (Match (Value ω))

/-- Who a run is for: answers requests and watches tasks, in a world of its own. -/
structure Host (ω ρ τ : Type) where
  answer : ρ → τ → Answer ω × τ
  watch : Event ω → τ → τ

/-- A step without requests. -/
inductive Move (ω : Type) where
  | done (result : Match (Value ω))
  | call (node : NodeId) (position : Nat) (memory : Memory ω)

/-- Has the host answer the requests of a step, until it is done or calls a node. -/
def Host.settle {ω ρ τ : Type} (host : Host ω ρ τ) : Step ω ρ → τ → Move ω × τ
  | .done result, world => (.done result, world)
  | .call node position memory, world => (.call node position memory, world)
  | .ask request next, world =>
    let (answer, world) := host.answer request world
    host.settle (next answer) world

namespace Job

variable {ω ρ τ : Type}

/-- The step that a task takes. -/
def step (job : Job ω ρ) (spot : Spot) : Task ω → Step ω ρ
  | .start _ =>
    match job.grammar.matcher? spot.node with
    | some matcher => matcher.start job.input spot.position
    | none => .done (.failure "unresolved parser" (.point spot.position))
  | .resume _ memory answer =>
    match job.grammar.matcher? spot.node with
    | some matcher => matcher.resume job.input spot.position memory answer
    | none => .done (.failure "unresolved parser" (.point spot.position))

/-- Makes the move of a frame.  A call waits for the frame of its spot, which is opened
if there is none; a frame that has its result answers at once. -/
def move (job : Job ω ρ) (machine : Machine ω) (id : FrameId) :
    Move ω → Except Halt (Machine ω)
  | .done result => .ok (machine.complete job.memoize id result)
  | .call node position memory =>
    let spot : Spot := ⟨job.grammar.follow node, position⟩
    match machine.table[spot]? with
    | some callee =>
      match machine.frames[callee.number]?.bind Frame.result with
      | some result => .ok (machine.push (.resume id memory result))
      | none => .ok (machine.wait callee id memory)
    | none =>
      match machine.enter spot with
      | none => .error .overflow
      | some (callee, machine) => .ok ((machine.wait callee id memory).push (.start callee))

/-- A task as a watcher is told of it. -/
def event (job : Job ω ρ) (spot : Spot) (task : Task ω) : Event ω :=
  { frame := task.frame
    position := spot.position
    description := job.grammar.description? spot.node
    answer := match task with
      | .start _ => none
      | .resume _ _ answer => some answer }

/-- Does one task. -/
def perform (job : Job ω ρ) (host : Host ω ρ τ) (machine : Machine ω) (task : Task ω)
    (world : τ) : Except Halt (Machine ω) × τ :=
  match machine.frames[task.frame.number]? with
  | none => (.ok machine, world)
  | some frame =>
    let world := host.watch (job.event frame.spot task) world
    let (next, world) := host.settle (job.step frame.spot task) world
    (job.move machine task.frame next, world)

/-- How far a run is: going on, or at its end with what it came to after how many
tasks. -/
inductive Progress (ω : Type) where
  | running (machine : Machine ω)
  | ended (result : Except Halt (Match (Value ω))) (steps : Nat)

/-- Takes a run one turn further: does the next task, or, when there is none, ends the
run or breaks a circle. -/
def turn (job : Job ω ρ) (host : Host ω ρ τ) (root : FrameId) (machine : Machine ω)
    (world : τ) : Progress ω × τ :=
  match machine.queue with
  | task :: rest =>
    let machine := { machine with queue := rest, steps := machine.steps + 1 }
    if job.limit.any (· < machine.steps) then (.ended (.error .stepLimit) machine.steps, world)
    else
      match job.perform host machine task world with
      | (.ok machine, world) => (.running machine, world)
      | (.error halt, world) => (.ended (.error halt) machine.steps, world)
  | [] =>
    match machine.frames[root.number]?.bind Frame.result with
    | some result => (.ended (.ok result) machine.steps, world)
    | none =>
      match machine.newestUnfinished? with
      | none => (.ended (.error .stalled) machine.steps, world)
      | some stuck =>
        let position := (machine.frames[stuck.number]?.map (·.spot.position)).getD 0
        (.running (machine.complete job.memoize stuck
          (.failure "left recursion" (.point position))), world)

/-- Takes a run to its end, if that comes within `fuel` turns. -/
def runFrom (job : Job ω ρ) (host : Host ω ρ τ) (root : FrameId) :
    Nat → Machine ω → τ → Option (Except Halt (Match (Value ω)) × Nat) × τ
  | 0, _, world => (none, world)
  | fuel + 1, machine, world =>
    match job.turn host root machine world with
    | (.ended result steps, world) => (some (result, steps), world)
    | (.running machine, world) => runFrom job host root fuel machine world

/-- The machine at the start of a run, with the root's frame to be started. -/
def begin (job : Job ω ρ) (root : NodeId) (position : Nat) :
    Option (FrameId × Machine ω) :=
  (Machine.idle.enter ⟨job.grammar.follow root, position⟩).map fun (frame, machine) =>
    (frame, machine.push (.start frame))

/-- What a run came to and how many tasks it took. -/
structure Outcome (ω : Type) where
  result : Match (Value ω)
  steps : Nat

/-- Matches a node at a position, if that ends within `fuel` turns. -/
def run (job : Job ω ρ) (host : Host ω ρ τ) (fuel : Nat) (root : NodeId) (position : Nat)
    (world : τ) : Option (Outcome ω) × τ :=
  let gaveUp (halt : Halt) : Match (Value ω) := .failure halt.message (.point position)
  match job.begin root position with
  | none => (some ⟨gaveUp .overflow, 0⟩, world)
  | some (frame, machine) =>
    match job.runFrom host frame fuel machine world with
    | (some (.ok result, steps), world) => (some ⟨result, steps⟩, world)
    | (some (.error halt, steps), world) => (some ⟨gaveUp halt, steps⟩, world)
    | (none, world) => (none, world)

end Job

end Packrat
