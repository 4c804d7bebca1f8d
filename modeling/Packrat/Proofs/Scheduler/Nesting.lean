import Packrat.Proofs.Scheduler.Confinement
import Packrat.Proofs.Scheduler.Outcome

/-!
# Runs inside of runs

A node that calls another one before all else has the other one's run inside its own.  As
long as the inner node has no match, the two runs are in step: the wider one has the
caller's frame before all others, and beyond that the same frames, the same tasks and the
same frames to fail.  Then the match is handed to the caller.
-/

namespace Packrat

variable {ω ρ τ ι : Type}

/-- The next index, which is the first one after the last. -/
def Index.after {arena : Arena} (index : Index arena) : Index arena := .ofNat (index.number + 1)

theorem Index.number_after {arena : Arena} {index : Index arena}
    (room : index.number + 1 < capacity) : index.after.number = index.number + 1 :=
  Nat.mod_eq_of_lt room

/-- The frame that every run begins with. -/
def rootFrame : FrameId := ⟨0, capacity_pos⟩

/-- A frame in the wider run, where the caller waits for the first one, before all others
that do. -/
def Frame.nested (memory : Memory ω) (number : Nat) (frame : Frame ω) : Frame ω :=
  { frame with
    waiters := (if number = 0 then [(rootFrame, memory)] else []) ++
      frame.waiters.map fun (waiter, memory) => (waiter.after, memory) }

def Task.nested : Task ω → Task ω
  | start frame => start frame.after
  | resume frame memory answer => resume frame.after memory answer

@[simp] theorem Task.frame_nested (task : Task ω) : task.nested.frame = task.frame.after := by
  cases task <;> rfl

namespace Machine

/-- The wider machine has a frame for the caller, who remembers something and waits for the
first frame of the other machine, and beyond that has what the other machine has. -/
structure Nested (caller : Spot) (memory : Memory ω) (machine wide : Machine ω) : Prop where
  room : wide.frames.size ≤ capacity
  size : wide.frames.size = machine.frames.size + 1
  first : wide.frames[0]? = some ⟨caller, none, []⟩
  frames : ∀ number : Nat,
    wide.frames[number + 1]? = (machine.frames[number]?).map (Frame.nested memory number)
  table : ∀ spot, spot ≠ caller → wide.table[spot]? = (machine.table[spot]?).map Index.after
  queue : wide.queue = machine.queue.map Task.nested

/-- A match is on its way to the caller. -/
structure Handed (memory : Memory ω) (result : Match (Value ω)) (wide : Machine ω) : Prop where
  unfinished : wide.result? rootFrame = none
  task : .resume rootFrame memory result ∈ wide.queue

/-- A wider run is as far as the run inside it: in step with it, or about to tell the caller
what the match was. -/
inductive Follows (caller : Spot) (memory : Memory ω) (machine wide : Machine ω) : Prop where
  | nested : machine.Nested caller memory wide → Follows caller memory machine wide
  | handed (result : Match (Value ω)) : machine.result? rootFrame = some result →
      wide.Handed memory result → Follows caller memory machine wide

namespace Nested

variable {caller : Spot} {memory : Memory ω} {machine wide : Machine ω}
  (nested : machine.Nested caller memory wide)

include nested

theorem number_after {id : FrameId} (known : id.number < machine.frames.size) :
    id.after.number = id.number + 1 := by
  have := nested.room
  have := nested.size
  exact Index.number_after (by omega)

theorem frame? {id : FrameId} {frame : Frame ω} (found : machine.frame? id = some frame) :
    wide.frame? id.after = some (frame.nested memory id.number) := by
  rw [Machine.frame?, nested.number_after (frame?_lt found), nested.frames,
    show machine.frames[id.number]? = some frame from found]
  rfl

theorem result? {id : FrameId} (known : id.number < machine.frames.size) :
    wide.result? id.after = machine.result? id := by
  obtain ⟨frame, found⟩ := exists_frame? known
  rw [result?_eq found, result?_eq (nested.frame? found)]
  rfl

theorem frame?_rootFrame : wide.frame? rootFrame = some ⟨caller, none, []⟩ := nested.first

/-- The caller would not wait if the first frame had a match. -/
theorem unfinished {memoize : Bool} {held : List FrameId} (orderly : wide.Orderly memoize held) :
    machine.result? rootFrame = none := by
  cases isFrame : machine.frame? rootFrame with
  | none =>
      rw [Machine.result?, isFrame]
      rfl
  | some frame =>
      rw [result?_eq isFrame]
      by_contra finished
      have noWaiters := orderly.quiet _ _ (nested.frame? isFrame) finished
      cases noWaiters

theorem taken (rest : List (Task ω)) :
    (machine.taken rest).Nested caller memory (wide.taken (rest.map Task.nested)) :=
  ⟨nested.room, nested.size, nested.first, nested.frames, nested.table, rfl⟩

theorem push (task : Task ω) :
    (machine.push task).Nested caller memory (wide.push task.nested) := by
  refine ⟨nested.room, nested.size, nested.first, nested.frames, nested.table, ?_⟩
  rw [queue_push, queue_push, nested.queue, List.map_append, List.map_singleton]

theorem wait {callee : FrameId} (known : callee.number < machine.frames.size) (waiter : FrameId)
    (kept : Memory ω) :
    (machine.wait callee waiter kept).Nested caller memory
      (wide.wait callee.after waiter.after kept) := by
  have number := nested.number_after known
  refine ⟨?_, ?_, ?_, ?_, nested.table, nested.queue⟩
  · rw [size_wait]
    exact nested.room
  · rw [size_wait, size_wait]
    exact nested.size
  · rw [Machine.wait, Array.getElem?_modify, if_neg (by omega)]
    exact nested.first
  · intro other
    rw [Machine.wait, Machine.wait, Array.getElem?_modify, Array.getElem?_modify, nested.frames,
      number]
    by_cases same : callee.number = other
    · rw [if_pos (congrArg (· + 1) same), if_pos same]
      cases machine.frames[other]? with
      | none => rfl
      | some frame => simp [Frame.nested]
    · rw [if_neg (fun equal => same (Nat.succ_inj.mp equal)), if_neg same]

theorem enter {spot : Spot} {id : FrameId} {opened : Machine ω}
    (begun : 0 < machine.frames.size) (entered : machine.enter spot = some (id, opened)) :
    capacity ≤ wide.frames.size ∨
      ∃ openedThere, wide.enter spot = some (id.after, openedThere) ∧
        opened.Nested caller memory openedThere := by
  rcases Nat.lt_or_ge wide.frames.size capacity with space | full
  · obtain ⟨last, rfl⟩ := enter_eq_some entered
    have size := nested.size
    have number : id.after.number = wide.frames.size := by
      rw [Index.number_after (by omega), last, size]
    refine .inr ⟨{ wide with
      frames := wide.frames.push ⟨spot, none, []⟩
      table := wide.table.insert spot id.after }, ?_, ?_, ?_, ?_, ?_, ?_, nested.queue⟩
    · rw [Machine.enter, Index.next?_eq_some_iff.mpr number]
      rfl
    · simp only [Array.size_push]
      omega
    · simp only [Array.size_push, size]
    · rw [Array.getElem?_push, if_neg (by omega)]
      exact nested.first
    · intro other
      simp only [Array.getElem?_push, nested.frames, size, Nat.add_right_cancel_iff]
      split
      next same =>
        rw [Option.map_some, Frame.nested, if_neg (by omega)]
        rfl
      next => rfl
    · intro other different
      simp only [Std.HashMap.getElem?_insert, nested.table other different]
      split <;> rfl
  · exact .inl full

/-- Any frame but the first is finished in step. -/
theorem complete {id : FrameId} {frame : Frame ω} (found : machine.frame? id = some frame)
    (notFirst : id ≠ rootFrame) (result : Match (Value ω)) :
    (machine.complete true id result).Nested caller memory
      (wide.complete true id.after result) := by
  have there := nested.frame? found
  have number := nested.number_after (frame?_lt found)
  have later : id.number ≠ 0 := Index.ne_iff.mp notFirst
  obtain ⟨spot, outcome, waiters⟩ := frame
  cases outcome with
  | some first =>
      rw [complete_of_finished found rfl, complete_of_finished there rfl]
      exact nested
  | none =>
      simp only [Frame.nested, if_neg later, List.nil_append] at there
      rw [complete_of_unfinished found, complete_of_unfinished there]
      refine ⟨?_, ?_, ?_, ?_, nested.table, ?_⟩
      · rw [Array.size_setIfInBounds]
        exact nested.room
      · rw [Array.size_setIfInBounds, Array.size_setIfInBounds]
        exact nested.size
      · rw [Array.getElem?_setIfInBounds_ne (by omega)]
        exact nested.first
      · intro other
        rw [number, Array.getElem?_setIfInBounds, Array.getElem?_setIfInBounds, nested.frames,
          nested.size]
        by_cases same : id.number = other
        · subst same
          simp [Frame.nested, later, frame?_lt found]
        · rw [if_neg (fun equal => same (Nat.succ_inj.mp equal)), if_neg same]
      · simp [nested.queue, Task.nested]

/-- The match of the first frame is handed to the caller. -/
theorem complete_first (found : machine.result? rootFrame = none)
    (begun : 0 < machine.frames.size) (result : Match (Value ω)) :
    (wide.complete true rootFrame.after result).Handed memory result := by
  obtain ⟨⟨spot, outcome, waiters⟩, isFirst⟩ := @exists_frame? _ machine rootFrame begun
  rw [result?_eq isFirst] at found
  cases found
  have there := nested.frame? isFirst
  have number := nested.number_after (frame?_lt isFirst)
  constructor
  · have different : rootFrame ≠ rootFrame.after := Index.ne_iff.mpr (by rw [number]; omega)
    rw [Machine.result?, frame?_complete there, if_neg different, nested.frame?_rootFrame]
    rfl
  · rw [queue_complete there]
    exact List.mem_append_right _ List.mem_cons_self

theorem lastUnfinished? {count : Nat} (among : count ≤ machine.frames.size) :
    wide.lastUnfinished? (count + 1) =
      some (((machine.lastUnfinished? count).map Index.after).getD rootFrame) := by
  induction count with
  | zero =>
      simp only [Machine.lastUnfinished?, nested.first]
      exact Index.next?_eq_some_iff.mpr rfl
  | succ count induction =>
      have same : (wide.frames[count + 1]?.any fun frame => frame.result.isNone) =
          machine.frames[count]?.any fun frame => frame.result.isNone := by
        rw [nested.frames]
        cases machine.frames[count]? <;> rfl
      simp only [Machine.lastUnfinished?, same]
      split
      next =>
        have room := nested.room
        have size := nested.size
        have here : (Index.next? count : Option FrameId) = some ⟨count, by omega⟩ :=
          Index.next?_eq_some_iff.mpr rfl
        rw [here]
        exact Index.next?_eq_some_iff.mpr (Index.number_after (by simp only; omega))
      next => exact induction (by omega)

/-- The newest frame without a result is the same one. -/
theorem newestUnfinished? {stuck : FrameId} (newest : machine.newestUnfinished? = some stuck) :
    wide.newestUnfinished? = some stuck.after := by
  rw [Machine.newestUnfinished?, nested.size, nested.lastUnfinished? (Nat.le_refl _),
    show machine.lastUnfinished? machine.frames.size = some stuck from newest]
  rfl

end Nested

end Machine

namespace Job

/-- A job whose runs have the runs of another one inside them: it matches the same input with
the same matchers, as far as the nodes of the other job go, and has a node beyond these. -/
structure Nests (wide job : Job ω ρ) (allowed : NodeId → Prop) (caller : NodeId) : Prop where
  input : wide.input = job.input
  memoize : job.memoize = true ∧ wide.memoize = true
  limit : job.limit = none ∧ wide.limit = none
  acyclic : job.grammar.Acyclic
  closed : job.grammar.Closed allowed
  follow : ∀ id, allowed id → wide.grammar.follow id = job.grammar.follow id
  matcher : ∀ id, allowed id →
    wide.grammar.matcher? (job.grammar.follow id) = job.grammar.matcher? (job.grammar.follow id)
  apart : ∀ id, allowed id → wide.grammar.follow caller ≠ job.grammar.follow id

namespace Nests

variable {wide job : Job ω ρ} {allowed : NodeId → Prop} {caller root : NodeId}
  (nests : wide.Nests job allowed caller) {host : Host ω ρ τ} {guest : Host ω ρ ι}
  {reply : ρ → Answer ω} {position : Nat} {memory : Memory ω} {machine wideMachine : Machine ω}

include nests

theorem spot {id : NodeId} (isAllowed : allowed id) (position : Nat) :
    wide.grammar.spot id position = job.grammar.spot id position := by
  rw [Grammar.spot, nests.follow id isAllowed, Grammar.spot]

theorem spot_ne {id : NodeId} (isAllowed : allowed id) (position place : Nat) :
    job.grammar.spot id place ≠ wide.grammar.spot caller position := by
  intro same
  exact nests.apart id isAllowed (congrArg Spot.node same).symm

/-- A move among the nodes of the job is made in both machines, unless there is no index
left for a frame. -/
theorem moved {id : FrameId} {move : Move ω} {next : Machine ω}
    (nested : machine.Nested (wide.grammar.spot caller position) memory wideMachine)
    (orderly : machine.Orderly true [id]) (unfinished : machine.result? rootFrame = none)
    (made : job.Moved machine id move next)
    (goes : ∀ node place kept, move = .call node place kept → allowed node) :
    capacity ≤ wideMachine.frames.size ∨ ∃ nextThere,
      wide.Moved wideMachine id.after move nextThere ∧
        next.Follows (wide.grammar.spot caller position) memory nextThere := by
  have known := orderly.known id List.mem_cons_self
  have begun : 0 < machine.frames.size := Nat.zero_lt_of_lt known
  have listed : ∀ {node} place, allowed node →
      wideMachine.table[(⟨wide.grammar.follow node, place⟩ : Spot)]? =
        (machine.table[(⟨job.grammar.follow node, place⟩ : Spot)]?).map Index.after := by
    intro node place isAllowed
    rw [nests.follow _ isAllowed]
    exact nested.table _ (nests.spot_ne isAllowed position place)
  cases made with
  | done result =>
      obtain ⟨frame, found⟩ := Machine.exists_frame? known
      refine .inr ⟨_, .done result, ?_⟩
      rw [nests.memoize.1, nests.memoize.2]
      by_cases isFirst : id = rootFrame
      · subst isFirst
        refine .handed result ?_ (nested.complete_first unfinished begun result)
        obtain ⟨spot, outcome, waiters⟩ := frame
        rw [Machine.result?_eq found] at unfinished
        cases unfinished
        rw [Machine.result?, Machine.frame?_complete found, if_pos rfl]
        rfl
      · exact .nested (nested.complete found isFirst result)
  | @answered node place kept callee result isListed finished =>
      have isAllowed := goes node place kept rfl
      obtain ⟨_, there, _⟩ := (orderly.listed _ _).mp isListed
      have listedThere := listed place isAllowed
      rw [isListed] at listedThere
      exact .inr ⟨_, .answered listedThere
        ((nested.result? (Machine.frame?_lt there)).trans finished),
        .nested (nested.push (.resume id kept result))⟩
  | @waiting node place kept callee isListed noResult =>
      have isAllowed := goes node place kept rfl
      obtain ⟨_, there, _⟩ := (orderly.listed _ _).mp isListed
      have listedThere := listed place isAllowed
      rw [isListed] at listedThere
      exact .inr ⟨_, .waiting listedThere
        ((nested.result? (Machine.frame?_lt there)).trans noResult),
        .nested (nested.wait (Machine.frame?_lt there) id kept)⟩
  | @opened node place kept callee opened unlisted entered =>
      have isAllowed := goes node place kept rfl
      rcases nested.enter begun entered with
        full | ⟨openedThere, enteredThere, nestedThen⟩
      · exact .inl full
      · have listedThere := listed place isAllowed
        rw [unlisted] at listedThere
        rw [← nests.follow node isAllowed] at enteredThere
        have isLast : callee.number < opened.frames.size := by
          rw [Machine.size_enter entered, (Machine.enter_eq_some entered).1]
          omega
        exact .inr ⟨_, .opened listedThere enteredThere,
          .nested ((nestedThen.wait isLast id kept).push (.start callee))⟩

theorem step {spot : Spot} (isSpot : ∃ id, allowed id ∧ job.grammar.follow id = spot.node)
    (task : Task ω) : wide.step spot task.nested = job.step spot task := by
  obtain ⟨id, isAllowed, leads⟩ := isSpot
  have same := nests.matcher id isAllowed
  rw [leads] at same
  cases task <;> simp only [Task.nested, Job.step, same, nests.input]

/-- A task is done in both runs, unless there is no index left for a frame. -/
theorem task {task : Task ω} {rest : List (Task ω)} {next : Machine ω} {world after : τ}
    (answers : host.Answers reply) (guestAnswers : guest.Answers reply)
    (nested : machine.Nested (wide.grammar.spot caller position) memory wideMachine)
    (orderly : machine.Orderly true []) (unfinished : machine.result? rootFrame = none)
    (obeyed : (job.confinement nests.acyclic nests.closed).Obeyed machine)
    (queue : machine.queue = task :: rest)
    (turned : job.turn host rootFrame machine world = (.running next, after)) (elsewhere : ι) :
    capacity ≤ wideMachine.frames.size ∨ ∃ nextThere later,
      wide.turn guest rootFrame wideMachine elsewhere = (.running nextThere, later) ∧
        next.Follows (wide.grammar.spot caller position) memory nextThere := by
  have held := orderly.taken queue
  obtain ⟨frame, found⟩ := Machine.exists_frame? (held.known _ List.mem_cons_self)
  have made := moved_of_turn queue found turned
  have due := obeyed.tasks task (queue ▸ List.mem_cons_self) frame found
  have goes : ∀ node place kept, (job.settled host frame.spot task world).1 =
      .call node place kept → allowed node := fun node place kept calls =>
    (confinement_suits nests.acyclic nests.closed host frame.spot _ _ due node place kept calls).1
  refine (nests.moved (nested.taken rest) held unfinished made goes).imp_right ?_
  rintro ⟨nextThere, madeThere, follows⟩
  have sameMove : (wide.settled guest frame.spot task.nested elsewhere).1 =
      (job.settled host frame.spot task world).1 := by
    rw [Job.settled, Job.settled, guestAnswers.settle, answers.settle,
      nests.step (obeyed.spots _ frame found)]
  rw [← sameMove, ← Task.frame_nested] at madeThere
  have foundThere := nested.frame? found
  rw [← Task.frame_nested] at foundThere
  have queueThere : wideMachine.queue = task.nested :: rest.map Task.nested := by
    rw [nested.queue, queue, List.map_cons]
  refine ⟨nextThere, _, turn_task queueThere ?_ foundThere madeThere, follows⟩
  rw [nests.limit.2]
  rfl

/-- A frame is failed in both runs. -/
theorem cut {stuck : FrameId} {next : Machine ω} {world after : τ}
    (nested : machine.Nested (wide.grammar.spot caller position) memory wideMachine)
    (unfinished : machine.result? rootFrame = none) (queue : machine.queue = [])
    (newest : machine.newestUnfinished? = some stuck)
    (turned : job.turn host rootFrame machine world = (.running next, after)) (elsewhere : ι) :
    ∃ nextThere,
      wide.turn guest rootFrame wideMachine elsewhere = (.running nextThere, elsewhere) ∧
        next.Follows (wide.grammar.spot caller position) memory nextThere := by
  obtain ⟨_, _, frame, found, noResult, rfl⟩ := failed_of_turn queue newest turned
  have callerUnfinished : wideMachine.result? rootFrame = none := by
    rw [Machine.result?, nested.frame?_rootFrame]
    rfl
  have queueThere : wideMachine.queue = [] := by rw [nested.queue, queue, List.map_nil]
  refine ⟨_, turn_cut queueThere callerUnfinished (nested.newestUnfinished? newest)
    (nested.frame? found) elsewhere, ?_⟩
  rw [nests.memoize.1, nests.memoize.2]
  by_cases isFirst : stuck = rootFrame
  · subst isFirst
    refine .handed (leftRecursion frame.spot.position) ?_
      (nested.complete_first unfinished (Nat.zero_lt_of_lt (Machine.frame?_lt found)) _)
    obtain ⟨spot, outcome, waiters⟩ := frame
    cases noResult
    rw [Machine.result?, Machine.frame?_complete found, if_pos rfl]
    rfl
  · exact .nested (nested.complete found isFirst _)

end Nests

theorem begin_rootFrame {job : Job ω ρ} {root : NodeId} {position : Nat} {frame : FrameId}
    {first : Machine ω} (begun : job.begin root position = some (frame, first)) :
    frame = rootFrame := by
  obtain ⟨opened, entered, _⟩ := exists_enter_of_begin begun
  exact Index.ext (Machine.enter_eq_some entered).1

theorem table_begin {job : Job ω ρ} {root : NodeId} {position : Nat} {frame : FrameId}
    {first : Machine ω} (begun : job.begin root position = some (frame, first)) (spot : Spot) :
    first.table[spot]? = if spot = job.grammar.spot root position then some frame else none := by
  obtain ⟨opened, entered, rfl⟩ := exists_enter_of_begin begun
  have empty : (Machine.idle : Machine ω).table[spot]? = none := Std.HashMap.getElem?_empty
  rw [Machine.table_push, Machine.table_enter entered, empty]
  rfl

namespace Nests

variable {wide job : Job ω ρ} {allowed : NodeId → Prop} {caller root node : NodeId}
  (nests : wide.Nests job allowed caller) {host : Host ω ρ τ} {guest : Host ω ρ ι}
  {reply : ρ → Answer ω} {position : Nat} {memory : Memory ω}

include nests

/-- The caller's first step leads to where the other run begins. -/
theorem begin {place : Nat} (isAllowed : allowed root)
    (calls : ((wide.grammar.matcherAt (wide.grammar.spot caller position)).start wide.input
      position).move reply = .call node place memory)
    (leads : wide.grammar.follow node = job.grammar.follow root)
    (guestAnswers : guest.Answers reply) {first : Machine ω}
    (begun : job.begin root place = some (rootFrame, first)) (elsewhere : ι) :
    ∃ history wideMachine later, wide.Visits guest caller position elsewhere history
      wideMachine later ∧ first.Nested (wide.grammar.spot caller position) memory wideMachine := by
  obtain ⟨callerFrame, start, begunThere⟩ := wide.exists_begin caller position
  obtain rfl := begin_rootFrame begunThere
  have isFrame := frame?_begin begunThere rootFrame
  rw [if_pos rfl] at isFrame
  have size := size_begin begunThere
  have queue := queue_begin begunThere
  have unlisted : start.table[(⟨wide.grammar.follow node, place⟩ : Spot)]? = none := by
    rw [leads, table_begin begunThere]
    exact if_neg (nests.spot_ne isAllowed position place)
  cases entered : (start.taken []).enter ⟨wide.grammar.follow node, place⟩ with
  | none =>
      have full := Machine.enter_eq_none_iff.mp entered
      rw [Machine.frames_taken, size] at full
      exact absurd full (by decide)
  | some opening =>
      obtain ⟨callee, opened⟩ := opening
      obtain rfl : callee = rootFrame.after := Index.ext (by
        rw [(Machine.enter_eq_some entered).1, Machine.frames_taken, size,
          Index.number_after (by decide)]
        rfl)
      have made : wide.Moved (start.taken []) rootFrame (.call node place memory) _ :=
        .opened unlisted entered
      have sameMove : (wide.settled guest (wide.grammar.spot caller position) (.start rootFrame)
          elsewhere).1 = .call node place memory := by
        rw [Job.settled, guestAnswers.settle, step_start]
        exact calls
      rw [← sameMove] at made
      have turned := @turn_task _ _ _ wide guest rootFrame _ _ _ _ _ _ queue
        (by rw [nests.limit.2]; rfl) isFrame made
      refine ⟨_, _, _, ⟨rootFrame, start, begunThere, .task .here queue turned⟩, ?_⟩
      have sizeThen : ((opened.wait rootFrame.after rootFrame memory).push
          (.start rootFrame.after)).frames.size = 2 := by
        rw [Machine.frames_push, Machine.size_wait, Machine.size_enter entered,
          Machine.frames_taken, size]
      have callee : rootFrame.after.number = 1 := Index.number_after (by decide)
      constructor
      · rw [sizeThen]
        decide
      · rw [sizeThen, size_begin begun]
      · have notCallee : rootFrame ≠ rootFrame.after := Index.ne_iff.mpr (by rw [callee]; decide)
        exact (Machine.frame?_opened entered _ _ _ rootFrame).trans
          ((if_neg notCallee).trans isFrame)
      · intro number
        rcases Nat.eq_zero_or_pos number with rfl | later
        · have opens := Machine.frame?_opened entered rootFrame memory (.start rootFrame.after)
            rootFrame.after
          have begins := frame?_begin begun rootFrame
          rw [Machine.frame?, callee, if_pos rfl, leads] at opens
          rw [Machine.frame?, if_pos rfl] at begins
          rw [opens, show first.frames[0]? = _ from begins]
          rfl
        · rw [Array.getElem?_eq_none (by rw [sizeThen]; omega),
            Array.getElem?_eq_none (by rw [size_begin begun]; omega)]
          rfl
      · intro spot different
        rw [Machine.table_push, Machine.table_wait, Machine.table_enter entered,
          Machine.table_taken, table_begin begunThere, if_neg different, leads,
          table_begin begun]
        show (if spot = job.grammar.spot root place then _ else _) = _
        split <;> rfl
      · rw [Machine.queue_push, Machine.queue_wait, Machine.queue_enter entered,
          queue_begin begun]
        rfl

/-- Wherever the inner run has come, the wider one comes as well, unless all indices are used
up before. -/
theorem follows {place : Nat} (isAllowed : allowed root)
    (calls : ((wide.grammar.matcherAt (wide.grammar.spot caller position)).start wide.input
      position).move reply = .call node place memory)
    (same : wide.grammar.follow node = job.grammar.follow root)
    (answers : host.Answers reply) (guestAnswers : guest.Answers reply) {start world : τ}
    {history : List (Deed ω)} {machine : Machine ω}
    (visits : job.Visits host root place start history machine world) (elsewhere : ι) :
    ∃ historyThere wideMachine later,
      wide.Visits guest caller position elsewhere historyThere wideMachine later ∧
        (capacity ≤ wideMachine.frames.size ∨
          machine.Follows (wide.grammar.spot caller position) memory wideMachine) := by
  obtain ⟨frame, first, begun, leads⟩ := visits
  obtain rfl := begin_rootFrame begun
  induction leads with
  | here =>
      obtain ⟨historyThere, wideMachine, later, visitsThere, nested⟩ :=
        nests.begin isAllowed calls same guestAnswers begun elsewhere
      exact ⟨historyThere, wideMachine, later, visitsThere, .inr (.nested nested)⟩
  | @task history machine next world after task rest earlier queue turned induction =>
      obtain ⟨historyThere, wideMachine, later, visitsThere, full | nested |
        ⟨result, finished, handed⟩⟩ := induction
      · exact ⟨historyThere, wideMachine, later, visitsThere, .inl full⟩
      · have orderly := earlier.orderly (begin_orderly begun)
        rw [nests.memoize.1] at orderly
        have obeyed : (job.confinement nests.acyclic nests.closed).Obeyed machine :=
          earlier.obeyed (confinement_suits nests.acyclic nests.closed host)
            (fun _ _ _ _ => trivial) (begin_orderly begun)
            (begin_obeyed begun ⟨root, isAllowed, rfl⟩)
        have unfinished := nested.unfinished visitsThere.orderly
        rcases nests.task answers guestAnswers nested orderly unfinished obeyed queue turned later
          with
          full | ⟨nextThere, afterThere, turnedThere, followsThen⟩
        · exact ⟨historyThere, wideMachine, later, visitsThere, .inl full⟩
        · obtain ⟨callerFrame, start, begunThere, leadsThere⟩ := visitsThere
          obtain rfl := begin_rootFrame begunThere
          have queueThere : wideMachine.queue = task.nested :: rest.map Task.nested := by
            rw [nested.queue, queue, List.map_cons]
          exact ⟨_, nextThere, afterThere,
            ⟨_, start, begunThere, leadsThere.task queueThere turnedThere⟩, .inr followsThen⟩
      · obtain ⟨move, moved⟩ :=
          exists_moved_of_turn (earlier.orderly (begin_orderly begun)) queue turned
        exact ⟨historyThere, wideMachine, later, visitsThere,
          .inr (.handed result (moved.grows.result? finished) handed)⟩
  | @cut history machine next world after stuck earlier queue newest turned induction =>
      obtain ⟨historyThere, wideMachine, later, visitsThere, full | nested |
        ⟨result, finished, handed⟩⟩ := induction
      · exact ⟨historyThere, wideMachine, later, visitsThere, .inl full⟩
      · have unfinished := nested.unfinished visitsThere.orderly
        obtain ⟨nextThere, turnedThere, followsThen⟩ :=
          nests.cut nested unfinished queue newest turned later
        obtain ⟨callerFrame, start, begunThere, leadsThere⟩ := visitsThere
        obtain rfl := begin_rootFrame begunThere
        have queueThere : wideMachine.queue = [] := by rw [nested.queue, queue, List.map_nil]
        exact ⟨_, nextThere, later, ⟨_, start, begunThere,
          leadsThere.cut queueThere (nested.newestUnfinished? newest) turnedThere⟩,
          .inr followsThen⟩
      · obtain ⟨noResult, _⟩ := cut_of_turn queue newest turned
        rw [finished] at noResult
        cases noResult

end Nests

end Job

end Packrat
