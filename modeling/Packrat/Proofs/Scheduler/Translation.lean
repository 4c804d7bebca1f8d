import Packrat.Proofs.Combinator.Translation
import Packrat.Proofs.Scheduler.Outcome

/-!
# Runs further along the input

Two runs whose matchers take the same steps, in the second one a number of positions
further on, go through the same machines but for that: the same frames are opened, the same
tasks are done in the same order and the same frames are failed.  So they end after the same
number of tasks, with the same match further on.
-/

namespace Packrat

variable {ω ρ τ ι : Type}

def Spot.shift (k : Nat) (spot : Spot) : Spot := ⟨spot.node, spot.position + k⟩

theorem Spot.shift_inj {k : Nat} {spot other : Spot} :
    spot.shift k = other.shift k ↔ spot = other := by
  obtain ⟨node, position⟩ := spot
  obtain ⟨otherNode, otherPosition⟩ := other
  simp [shift]

def Frame.shift (k : Nat) (frame : Frame ω) : Frame ω :=
  ⟨frame.spot.shift k, frame.result.map (Match.shift k),
    frame.waiters.map fun (waiter, memory) => (waiter, memory.shift k)⟩

def Task.shift (k : Nat) : Task ω → Task ω
  | start frame => start frame
  | resume frame memory answer => resume frame (memory.shift k) (answer.shift k)

@[simp] theorem Task.frame_shift (k : Nat) (task : Task ω) : (task.shift k).frame = task.frame := by
  cases task <;> rfl

namespace Machine

/-- A machine that is like another one, with everything `k` positions further on. -/
structure Shifted (k : Nat) (machine moved : Machine ω) : Prop where
  frames : moved.frames = machine.frames.map (Frame.shift k)
  table : ∀ spot : Spot, moved.table[spot.shift k]? = machine.table[spot]?
  queue : moved.queue = machine.queue.map (Task.shift k)
  steps : moved.steps = machine.steps

namespace Shifted

variable {k : Nat} {machine moved : Machine ω} (shifted : machine.Shifted k moved)

include shifted

theorem frame? (id : FrameId) : moved.frame? id = (machine.frame? id).map (Frame.shift k) := by
  rw [Machine.frame?, Machine.frame?, shifted.frames, Array.getElem?_map]

theorem result? (id : FrameId) : moved.result? id = (machine.result? id).map (Match.shift k) := by
  rw [Machine.result?, Machine.result?, shifted.frame?]
  cases machine.frame? id <;> rfl

theorem size : moved.frames.size = machine.frames.size := by
  rw [shifted.frames, Array.size_map]

theorem taken (rest : List (Task ω)) :
    (machine.taken rest).Shifted k (moved.taken (rest.map (Task.shift k))) :=
  ⟨shifted.frames, shifted.table, rfl, congrArg (· + 1) shifted.steps⟩

theorem push (task : Task ω) : (machine.push task).Shifted k (moved.push (task.shift k)) := by
  refine ⟨shifted.frames, shifted.table, ?_, shifted.steps⟩
  rw [queue_push, queue_push, shifted.queue, List.map_append, List.map_singleton]

theorem wait (callee waiter : FrameId) (memory : Memory ω) :
    (machine.wait callee waiter memory).Shifted k (moved.wait callee waiter (memory.shift k)) := by
  refine ⟨?_, shifted.table, shifted.queue, shifted.steps⟩
  apply Array.ext_getElem?
  intro index
  simp only [Machine.wait, shifted.frames, Array.getElem?_modify, Array.getElem?_map]
  split
  next =>
    cases machine.frames[index]? with
    | none => rfl
    | some frame => simp [Frame.shift]
  next => rfl

theorem enter_none {spot : Spot} (full : machine.enter spot = none) :
    moved.enter (spot.shift k) = none := by
  rw [enter_eq_none_iff] at full ⊢
  rw [shifted.size]
  exact full

theorem enter_some {spot : Spot} {id : FrameId} {opened : Machine ω}
    (entered : machine.enter spot = some (id, opened)) :
    ∃ openedThere, moved.enter (spot.shift k) = some (id, openedThere) ∧
      opened.Shifted k openedThere := by
  obtain ⟨last, rfl⟩ := enter_eq_some entered
  have next : Index.next? moved.frames.size = some id :=
    Index.next?_eq_some_iff.mpr (last.trans shifted.size.symm)
  refine ⟨{ moved with
    frames := moved.frames.push ⟨spot.shift k, none, []⟩
    table := moved.table.insert (spot.shift k) id }, ?_, ?_, ?_, shifted.queue, shifted.steps⟩
  · rw [enter, next]
    rfl
  · simp [shifted.frames, Frame.shift]
  · intro other
    have sameKey : (spot.shift k == other.shift k) = (spot == other) := by
      rw [Bool.eq_iff_iff, beq_iff_eq, beq_iff_eq, Spot.shift_inj]
    simp only [Std.HashMap.getElem?_insert, sameKey, shifted.table]

theorem complete (memoize : Bool) (id : FrameId) (result : Match (Value ω)) :
    (machine.complete memoize id result).Shifted k
      (moved.complete memoize id (result.shift k)) := by
  have there := shifted.frame? id
  cases found : machine.frame? id with
  | none =>
      rw [found] at there
      rw [Machine.complete, show machine.frames[id.number]? = none from found, Machine.complete,
        show moved.frames[id.number]? = none from there]
      exact shifted
  | some frame =>
      obtain ⟨spot, outcome, waiters⟩ := frame
      rw [found] at there
      cases outcome with
      | some first =>
          rw [complete_of_finished found rfl, complete_of_finished there rfl]
          exact shifted
      | none =>
          rw [complete_of_unfinished found, complete_of_unfinished there]
          refine ⟨?_, ?_, ?_, shifted.steps⟩
          · simp [shifted.frames, Frame.shift, Array.map_setIfInBounds]
          · intro other
            have sameKey : (spot.shift k == other.shift k) = (spot == other) := by
              rw [Bool.eq_iff_iff, beq_iff_eq, beq_iff_eq, Spot.shift_inj]
            cases memoize with
            | true => exact shifted.table other
            | false =>
                simp only [Bool.false_eq_true, if_false, Std.HashMap.getElem?_erase, sameKey,
                  shifted.table]
          · simp [shifted.queue, Task.shift]

theorem lastUnfinished? (count : Nat) :
    moved.lastUnfinished? count = machine.lastUnfinished? count := by
  induction count with
  | zero => rfl
  | succ count induction =>
      have same : (moved.frames[count]?.any fun frame => frame.result.isNone) =
          machine.frames[count]?.any fun frame => frame.result.isNone := by
        rw [shifted.frames, Array.getElem?_map]
        cases machine.frames[count]? with
        | none => rfl
        | some frame => simp [Frame.shift]
      rw [Machine.lastUnfinished?, Machine.lastUnfinished?, same, induction]

theorem newestUnfinished? : moved.newestUnfinished? = machine.newestUnfinished? := by
  rw [Machine.newestUnfinished?, Machine.newestUnfinished?, shifted.size,
    shifted.lastUnfinished?]

end Shifted

end Machine

namespace Job

/-- What a run came to, `k` positions further on. -/
def Outcome.shift (k : Nat) (outcome : Outcome ω) : Outcome ω :=
  ⟨outcome.result.shift k, outcome.steps⟩

/-- Two runs are as far, the second one `k` positions further on. -/
inductive Progress.Shifted (k : Nat) : Progress ω → Progress ω → Prop where
  | running {machine moved : Machine ω} :
      machine.Shifted k moved → Shifted k (.running machine) (.running moved)
  | ended (ending : Except Halt (Match (Value ω))) (steps : Nat) :
      Shifted k (.ended ending steps) (.ended (ending.map (Match.shift k)) steps)

/-- Two jobs that differ in the input: what the matchers do on the first they do on the
second, where it is `k` positions further on. -/
structure Travels (k : Nat) (job far : Job ω ρ) : Prop where
  grammar : far.grammar = job.grammar
  memoize : far.memoize = job.memoize
  limit : far.limit = job.limit
  matchers : ∀ spot, (job.grammar.matcherAt spot).Travels k job.input far.input

namespace Travels

variable {k : Nat} {job far : Job ω ρ} (travels : job.Travels k far) {host : Host ω ρ τ}
  {guest : Host ω ρ ι} {reply : ρ → Answer ω}

include travels

theorem step (spot : Spot) (task : Task ω) :
    far.step (spot.shift k) (task.shift k) = (job.step spot task).shift k := by
  have sameMatcher : far.grammar.matcherAt (spot.shift k) = job.grammar.matcherAt spot := by
    rw [travels.grammar]
    rfl
  cases task with
  | start frame =>
      rw [Task.shift, step_start, step_start, sameMatcher]
      exact (travels.matchers spot).start spot.position
  | resume frame memory answer =>
      rw [Task.shift, step_resume, step_resume, sameMatcher]
      exact (travels.matchers spot).resume spot.position memory answer

theorem settled (answers : host.Answers reply) (guestAnswers : guest.Answers reply) (spot : Spot)
    (task : Task ω) (world : τ) (elsewhere : ι) :
    (far.settled guest (spot.shift k) (task.shift k) elsewhere).1 =
      (job.settled host spot task world).1.shift k := by
  rw [Job.settled, Job.settled, guestAnswers.settle, answers.settle, travels.step,
    Step.move_shift]

theorem moved {machine moved : Machine ω} (shifted : machine.Shifted k moved) {id : FrameId}
    {move : Move ω} {next : Machine ω} (made : job.Moved machine id move next) :
    ∃ nextThere, far.Moved moved id (move.shift k) nextThere ∧ next.Shifted k nextThere := by
  have known : ∀ node position,
      moved.table[(⟨far.grammar.follow node, position + k⟩ : Spot)]? =
        machine.table[(⟨job.grammar.follow node, position⟩ : Spot)]? := by
    intro node position
    rw [travels.grammar]
    exact shifted.table ⟨job.grammar.follow node, position⟩
  cases made with
  | done result =>
      refine ⟨_, .done (result.shift k), ?_⟩
      rw [travels.memoize]
      exact shifted.complete job.memoize id result
  | @answered node position memory callee result listed finished =>
      have finishedThere := shifted.result? callee
      rw [finished] at finishedThere
      exact ⟨_, .answered ((known node position).trans listed) finishedThere,
        shifted.push (.resume id memory result)⟩
  | @waiting node position memory callee listed unfinished =>
      have unfinishedThere := shifted.result? callee
      rw [unfinished] at unfinishedThere
      exact ⟨_, .waiting ((known node position).trans listed) unfinishedThere,
        shifted.wait callee id memory⟩
  | @opened node position memory callee opened unlisted entered =>
      obtain ⟨openedThere, enteredThere, shiftedThen⟩ := shifted.enter_some entered
      rw [← travels.grammar] at enteredThere
      exact ⟨_, .opened ((known node position).trans unlisted) enteredThere,
        (shiftedThen.wait callee id memory).push (.start callee)⟩

theorem halted {machine moved : Machine ω} (shifted : machine.Shifted k moved) {id : FrameId}
    {move : Move ω} {halt : Halt} (stopped : job.move machine id move = .error halt) :
    far.move moved id (move.shift k) = .error halt := by
  obtain ⟨rfl, node, position, memory, rfl, unlisted, full⟩ := move_eq_error_iff.mp stopped
  refine move_eq_error_iff.mpr ⟨rfl, node, position + k, memory.shift k, rfl, ?_, ?_⟩
  · rw [travels.grammar]
    exact (shifted.table ⟨job.grammar.follow node, position⟩).trans unlisted
  · rw [travels.grammar]
    exact shifted.enter_none full

/-- Two runs that are as far take the same turn. -/
theorem turn (answers : host.Answers reply) (guestAnswers : guest.Answers reply)
    {machine moved : Machine ω} (shifted : machine.Shifted k moved) (root : FrameId) (world : τ)
    (elsewhere : ι) :
    Progress.Shifted k (job.turn host root machine world).1
      (far.turn guest root moved elsewhere).1 := by
  cases queue : machine.queue with
  | cons task rest =>
      have queueThere : moved.queue = task.shift k :: rest.map (Task.shift k) := by
        rw [shifted.queue, queue, List.map_cons]
      have taken := shifted.taken rest
      have limits :
          far.limit.any (· < moved.steps + 1) = job.limit.any (· < machine.steps + 1) := by
        rw [travels.limit, shifted.steps]
      by_cases limited : job.limit.any (· < machine.steps + 1) = true
      · rw [turn_over queue limited, turn_over queueThere (limits.trans limited), shifted.steps]
        exact .ended _ _
      · have within := Bool.eq_false_iff.mpr limited
        have withinThere := limits.trans within
        have there := shifted.frame? task.frame
        rw [← Task.frame_shift k task] at there
        cases found : machine.frame? task.frame with
        | none =>
            rw [Task.frame_shift, found] at there
            rw [turn_missing queue within found, turn_missing queueThere withinThere]
            · exact .running taken
            · rw [Task.frame_shift]
              exact there
        | some frame =>
            rw [Task.frame_shift, found, ← Task.frame_shift k task] at there
            have sameMove := travels.settled answers guestAnswers frame.spot task world elsewhere
            cases made : job.move (machine.taken rest) task.frame
                (job.settled host frame.spot task world).1 with
            | error halt =>
                have stopped := travels.halted taken made
                rw [← sameMove, ← Task.frame_shift k task] at stopped
                rw [turn_halt queue within found made,
                  turn_halt queueThere withinThere there stopped, shifted.steps]
                exact .ended _ _
            | ok next =>
                obtain ⟨nextThere, moved, shiftedThen⟩ :=
                  travels.moved taken (move_eq_ok_iff.mp made)
                rw [← sameMove, ← Task.frame_shift k task] at moved
                rw [turn_task queue within found (move_eq_ok_iff.mp made),
                  turn_task queueThere withinThere there moved]
                exact .running shiftedThen
  | nil =>
      have queueThere : moved.queue = [] := by rw [shifted.queue, queue, List.map_nil]
      have rootThere := shifted.result? root
      cases finished : machine.result? root with
      | some result =>
          rw [finished] at rootThere
          rw [turn_finished queue finished, turn_finished queueThere rootThere, shifted.steps]
          exact .ended (.ok result) _
      | none =>
          rw [finished] at rootThere
          have newestThere := shifted.newestUnfinished?
          cases newest : machine.newestUnfinished? with
          | none =>
              rw [newest] at newestThere
              rw [turn_stalled queue finished newest, turn_stalled queueThere rootThere newestThere,
                shifted.steps]
              exact .ended (.error .stalled) _
          | some stuck =>
              rw [newest] at newestThere
              obtain ⟨frame, found, _⟩ := Machine.newestUnfinished?_eq_some newest
              have there := shifted.frame? stuck
              rw [found] at there
              rw [turn_cut queue finished newest found,
                turn_cut queueThere rootThere newestThere there, travels.memoize]
              exact .running (shifted.complete job.memoize stuck (leftRecursion _))

/-- Two runs that are as far come to the same, the second one further on. -/
theorem runFrom (answers : host.Answers reply) (guestAnswers : guest.Answers reply)
    (root : FrameId) (fuel : Nat) {machine moved : Machine ω} (shifted : machine.Shifted k moved)
    (world : τ) (elsewhere : ι) :
    (far.runFrom guest root fuel moved elsewhere).1 =
      (job.runFrom host root fuel machine world).1.map fun (ending, steps) =>
        (ending.map (Match.shift k), steps) := by
  induction fuel generalizing machine moved world elsewhere with
  | zero => rfl
  | succ fuel induction =>
      have sameTurn := travels.turn answers guestAnswers shifted root world elsewhere
      rw [Job.runFrom, Job.runFrom]
      revert sameTurn
      cases job.turn host root machine world with
      | mk progress after =>
          cases far.turn guest root moved elsewhere with
          | mk progressThere afterThere =>
              intro sameTurn
              cases sameTurn with
              | running shiftedThen => exact induction shiftedThen after afterThere
              | ended ending steps => rfl

/-- Two jobs that are the same but for where they are on the input come to the same after
as many tasks. -/
theorem run (answers : host.Answers reply) (guestAnswers : guest.Answers reply) (fuel : Nat)
    (root : NodeId) (position : Nat) (world : τ) (elsewhere : ι) :
    (far.run guest fuel root (position + k) elsewhere).1 =
      (job.run host fuel root position world).1.map (Outcome.shift k) := by
  have idle : (Machine.idle : Machine ω).Shifted k .idle :=
    ⟨by simp [Machine.idle], fun _ => by simp [Machine.idle], rfl, rfl⟩
  obtain ⟨frame, first, begun⟩ := job.exists_begin root position
  obtain ⟨opened, entered, rfl⟩ := exists_enter_of_begin begun
  obtain ⟨openedThere, enteredThere, shifted⟩ := idle.enter_some entered
  have begunThere : far.begin root (position + k) =
      some (frame, openedThere.push (.start frame)) := by
    rw [begin, travels.grammar]
    exact congrArg (Option.map _) enteredThere
  have sameEnd : (far.runFrom guest frame fuel (openedThere.push (.start frame)) elsewhere).1 = _ :=
    travels.runFrom answers guestAnswers frame fuel (shifted.push (.start frame)) world elsewhere
  rw [Job.run, Job.run, begun, begunThere]
  simp only
  revert sameEnd
  cases job.runFrom host frame fuel (opened.push (.start frame)) world with
  | mk ending after =>
      cases far.runFrom guest frame fuel (openedThere.push (.start frame)) elsewhere with
      | mk endingThere afterThere =>
          intro sameEnd
          obtain rfl : endingThere = _ := sameEnd
          cases ending with
          | none => rfl
          | some ending =>
              obtain ⟨halt | result, steps⟩ := ending
              · rfl
              · rfl

end Travels

end Job

end Packrat
