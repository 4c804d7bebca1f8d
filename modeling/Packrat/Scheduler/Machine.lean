import Packrat.Grammar
import Std.Data.HashMap

/-!
# The scheduler's machine

The work of matching one node at one position is a frame.  Whoever calls the same node
at the same position waits for the same frame, and what is to be done stands in a queue,
so matching needs no stack.  This module holds the state of a run and what starting,
answering, calling and finishing do to it.
-/

namespace Packrat

/-- A node to be matched at a position. -/
structure Spot where
  node : NodeId
  position : Nat
deriving DecidableEq

instance : Hashable Spot := ⟨fun spot => mixHash (hash spot.node) (hash spot.position)⟩

/-- The work of matching one node at one position. -/
structure Frame (ω : Type) where
  spot : Spot
  result : Option (Match (Value ω))
  /-- Who waits for the result, and what they remember. -/
  waiters : List (FrameId × Memory ω)

/-- Something to be done. -/
inductive Task (ω : Type) where
  /-- Take a frame's first step. -/
  | start (frame : FrameId)
  /-- Take a frame's next step, now that its call is answered. -/
  | resume (frame : FrameId) (memory : Memory ω) (answer : Match (Value ω))

/-- The frame that a task is for. -/
def Task.frame {ω : Type} : Task ω → FrameId
  | start frame => frame
  | resume frame _ _ => frame

/-- The state of a run. -/
structure Machine (ω : Type) where
  frames : Array (Frame ω)
  /-- The frame of each spot that is being matched or, if results are kept, has been. -/
  table : Std.HashMap Spot FrameId
  /-- What is to be done, the next thing first. -/
  queue : List (Task ω)
  /-- How many tasks have been taken on. -/
  steps : Nat

namespace Machine

variable {ω : Type}

/-- A machine with nothing to do. -/
def idle : Machine ω := ⟨#[], ∅, [], 0⟩

/-- Adds a task after all others. -/
def push (machine : Machine ω) (task : Task ω) : Machine ω :=
  { machine with queue := machine.queue ++ [task] }

/-- Opens a frame for a spot, if there is an index left for it. -/
def enter (machine : Machine ω) (spot : Spot) : Option (FrameId × Machine ω) :=
  (Index.next? machine.frames.size).map fun frame =>
    (frame,
      { machine with
        frames := machine.frames.push ⟨spot, none, []⟩
        table := machine.table.insert spot frame })

/-- Has a frame's result wake up whoever waits for it. -/
def wait (machine : Machine ω) (callee : FrameId) (waiter : FrameId) (memory : Memory ω) :
    Machine ω :=
  { machine with
    frames := machine.frames.modify callee.number fun frame =>
      { frame with waiters := frame.waiters ++ [(waiter, memory)] } }

/-- Gives a frame its result and wakes up whoever waits for it.  A frame that was failed
to break a cycle may finish once more; the first result is the one that counts.  Unless
results are kept, the spot is free again. -/
def complete (machine : Machine ω) (memoize : Bool) (id : FrameId) (result : Match (Value ω)) :
    Machine ω :=
  match machine.frames[id.number]? with
  | some ⟨spot, none, waiters⟩ =>
    { machine with
      frames := machine.frames.setIfInBounds id.number ⟨spot, some result, []⟩
      table := if memoize then machine.table else machine.table.erase spot
      queue := machine.queue ++
        waiters.map fun (waiter, memory) => .resume waiter memory result }
  | _ => machine

/-- The last of the first `count` frames that has no result. -/
def lastUnfinished? (machine : Machine ω) : Nat → Option FrameId
  | 0 => none
  | count + 1 =>
    if machine.frames[count]?.any fun frame => frame.result.isNone then Index.next? count
    else lastUnfinished? machine count

/-- The newest frame that has no result. -/
def newestUnfinished? (machine : Machine ω) : Option FrameId :=
  machine.lastUnfinished? machine.frames.size

end Machine

end Packrat
