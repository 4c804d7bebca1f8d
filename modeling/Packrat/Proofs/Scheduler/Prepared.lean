import Packrat.Proofs.Evaluation
import Packrat.Proofs.Scheduler.Continuations

/-!
# What continuations will do

A continuation that is pending does something when its turn comes.  `Prepared` says what
that is, for a task and for a waiter that is woken with any answer its call may have.
What is said may depend on the frame, so that it can be something that gets less with
every move of the frame.  Every operation of a machine keeps it.
-/

namespace Packrat

variable {ω ρ τ : Type}

namespace Job

variable {job : Job ω ρ} {host : Host ω ρ τ}

/-- Where the frames of a machine come from that a move of a frame leads to.  A frame
that was there has the result that it had and all its waiters, or is the one whose result
the move is; any other one is opened by the move and has its only waiter. -/
theorem Moved.frame_cases {machine next : Machine ω} {id other : FrameId} {move : Move ω}
    {later : Frame ω} (moved : job.Moved machine id move next)
    (found : next.frame? other = some later) :
    (∃ before, machine.frame? other = some before ∧ before.spot = later.spot ∧
      (later.result = before.result ∧ before.waiters ⊆ later.waiters ∨
        other = id ∧ before.result = none ∧
          ∃ result, move = .done result ∧ later.result = some result)) ∨
    ∃ node position memory, move = .call node position memory ∧
      other.number = machine.frames.size ∧
      later = ⟨job.grammar.spot node position, none, [(id, memory)]⟩ := by
  have same : machine.frame? other = some later →
      ∃ before, machine.frame? other = some before ∧ before.spot = later.spot ∧
        (later.result = before.result ∧ before.waiters ⊆ later.waiters ∨
          other = id ∧ before.result = none ∧
            ∃ result, move = .done result ∧ later.result = some result) :=
    fun there => ⟨later, there, rfl, .inl ⟨rfl, fun _ member => member⟩⟩
  cases moved with
  | done result =>
      rcases machine.complete_eq_or_unfinished job.memoize id result with unchanged |
        ⟨spot, waiters, present⟩
      · rw [unchanged] at found
        exact .inl (same found)
      · rw [Machine.frame?_complete present] at found
        split at found
        next isId =>
          cases found
          exact .inl ⟨⟨spot, none, waiters⟩, isId ▸ present, rfl,
            .inr ⟨isId, rfl, result, rfl, rfl⟩⟩
        next => exact .inl (same found)
  | answered => exact .inl (same found)
  | waiting =>
      rw [Machine.frame?_wait] at found
      split at found
      next =>
        obtain ⟨before, was, rfl⟩ := Option.map_eq_some_iff.mp found
        exact .inl ⟨before, was, rfl, .inl ⟨rfl, List.subset_append_left _ _⟩⟩
      next => exact .inl (same found)
  | @opened node position memory callee opened unknown entered =>
      rw [Machine.frame?_opened entered] at found
      split at found
      next isCallee =>
        cases found
        have last := (Machine.enter_eq_some entered).1
        exact .inr ⟨node, position, memory, rfl, isCallee ▸ last, rfl⟩
      next => exact .inl (same found)

/-- What a task will do is due of its frame. -/
def DueIn (job : Job ω ρ) (due : FrameId → Spot → Step ω ρ → Prop) (machine : Machine ω)
    (task : Task ω) : Prop :=
  ∀ frame, machine.frame? task.frame = some frame →
    due task.frame frame.spot (job.step frame.spot task)

/-- What the tasks and the waiters of a machine will do is due of their frames, if calls
are answered as they may be. -/
structure Prepared (job : Job ω ρ) (due : FrameId → Spot → Step ω ρ → Prop)
    (answers : Spot → Match (Value ω) → Prop) (machine : Machine ω) : Prop where
  tasks : ∀ task ∈ machine.queue, job.DueIn due machine task
  waiters : ∀ id frame, machine.frame? id = some frame →
    ∀ waiter memory, (waiter, memory) ∈ frame.waiters →
      ∀ answer, answers frame.spot answer → job.DueIn due machine (.resume waiter memory answer)

variable {due dueThen : FrameId → Spot → Step ω ρ → Prop}
  {answers : Spot → Match (Value ω) → Prop}

/-- Frames keep their spots, so what is due in a machine is due in one whose frames are
the same up to results and waiters. -/
theorem DueIn.of_spots {machine later : Machine ω} {task : Task ω}
    (isDue : job.DueIn due machine task)
    (spots : ∀ frame, later.frame? task.frame = some frame →
      ∃ before, machine.frame? task.frame = some before ∧ before.spot = frame.spot) :
    job.DueIn due later task := by
  intro frame found
  obtain ⟨before, there, same⟩ := spots frame found
  rw [← same]
  exact isDue before there

namespace Prepared

variable {machine : Machine ω}

/-- What is due of other frames than the pending ones does not matter. -/
theorem mono (prepared : job.Prepared due answers machine)
    (weaker : ∀ id ∈ machine.pending, ∀ spot step, due id spot step → dueThen id spot step) :
    job.Prepared dueThen answers machine where
  tasks task member frame found :=
    weaker _ (Machine.mem_pending_of_task member) _ _ (prepared.tasks task member frame found)
  waiters id frame found waiter memory member answer answered own there :=
    weaker _ (Machine.mem_pending_of_waiter found member) _ _
      (prepared.waiters id frame found waiter memory member answer answered own there)

theorem taken (prepared : job.Prepared due answers machine) {task : Task ω}
    {rest : List (Task ω)} (queue : machine.queue = task :: rest) :
    job.Prepared due answers (machine.taken rest) := by
  constructor
  · intro other member
    apply prepared.tasks other
    rw [queue]
    exact List.mem_cons_of_mem task member
  · exact prepared.waiters

theorem push (prepared : job.Prepared due answers machine) {task : Task ω}
    (isDue : job.DueIn due machine task) : job.Prepared due answers (machine.push task) := by
  constructor
  · intro other member
    rcases List.mem_append.mp member with old | new
    · exact prepared.tasks other old
    · obtain rfl := List.mem_singleton.mp new
      exact isDue
  · exact prepared.waiters

theorem wait (prepared : job.Prepared due answers machine) {callee waiter : FrameId}
    {memory : Memory ω} {frame : Frame ω} (found : machine.frame? callee = some frame)
    (isDue : ∀ answer, answers frame.spot answer →
      job.DueIn due machine (.resume waiter memory answer)) :
    job.Prepared due answers (machine.wait callee waiter memory) := by
  have weaken : ∀ task, job.DueIn due machine task →
      job.DueIn due (machine.wait callee waiter memory) task := by
    intro task was
    apply was.of_spots
    intro later there
    rw [Machine.frame?_wait] at there
    split at there
    next =>
      obtain ⟨before, here, rfl⟩ := Option.map_eq_some_iff.mp there
      exact ⟨before, here, rfl⟩
    next => exact ⟨later, there, rfl⟩
  constructor
  · intro task member
    exact weaken task (prepared.tasks task member)
  · intro id later there other kept member answer answered
    rw [Machine.frame?_wait] at there
    split at there
    next same =>
      subst same
      rw [found] at there
      cases there
      rcases List.mem_append.mp member with already | new
      · exact weaken _ (prepared.waiters id frame found other kept already answer answered)
      · cases List.mem_singleton.mp new
        exact weaken _ (isDue answer answered)
    next => exact weaken _ (prepared.waiters id later there other kept member answer answered)

theorem enter {held : List FrameId} {opened : Machine ω} {spot : Spot} {id : FrameId}
    (prepared : job.Prepared due answers machine) (orderly : machine.Orderly job.memoize held)
    (entered : machine.enter spot = some (id, opened)) : job.Prepared due answers opened := by
  have pending : ∀ other ∈ machine.pending, ∀ frame, opened.frame? other = some frame →
      ∃ before, machine.frame? other = some before ∧ before.spot = frame.spot := by
    intro other member frame there
    have small := orderly.known other (List.mem_append_right _ member)
    rw [Machine.frame?_enter entered, if_neg] at there
    · exact ⟨frame, there, rfl⟩
    · rintro rfl
      have := (Machine.enter_eq_some entered).1
      omega
  constructor
  · intro task member
    rw [Machine.queue_enter entered] at member
    exact (prepared.tasks task member).of_spots
      (pending task.frame (Machine.mem_pending_of_task member))
  · intro other frame there waiter memory member answer answered
    rw [Machine.frame?_enter entered] at there
    split at there
    next =>
      cases there
      cases member
    next =>
      exact (prepared.waiters other frame there waiter memory member answer answered).of_spots
        (pending waiter (Machine.mem_pending_of_waiter there member))

theorem complete {id : FrameId} {frame : Frame ω} {result : Match (Value ω)}
    (prepared : job.Prepared due answers machine) (found : machine.frame? id = some frame)
    (answered : frame.result = none → answers frame.spot result) :
    job.Prepared due answers (machine.complete job.memoize id result) := by
  obtain ⟨spot, outcome, waiters⟩ := frame
  cases outcome with
  | some first =>
      rw [Machine.complete_of_finished found rfl]
      exact prepared
  | none =>
      have spots : ∀ other later,
          (machine.complete job.memoize id result).frame? other = some later →
          ∃ before, machine.frame? other = some before ∧ before.spot = later.spot := by
        intro other later there
        rw [Machine.frame?_complete found] at there
        split at there
        next same =>
          subst same
          cases there
          exact ⟨_, found, rfl⟩
        next => exact ⟨later, there, rfl⟩
      constructor
      · intro task member
        rw [Machine.queue_complete found] at member
        rcases List.mem_append.mp member with old | woken
        · exact (prepared.tasks task old).of_spots (spots task.frame)
        · obtain ⟨⟨waiter, memory⟩, waits, rfl⟩ := List.mem_map.mp woken
          exact (prepared.waiters id _ found waiter memory waits result (answered rfl)).of_spots
            (spots waiter)
      · intro other later there waiter memory member answer isAnswer
        rw [Machine.frame?_complete found] at there
        split at there
        next =>
          cases there
          cases member
        next =>
          exact (prepared.waiters other later there waiter memory member answer
            isAnswer).of_spots (spots waiter)

end Prepared

/-- A move after which what it calls for is due keeps a machine prepared. -/
theorem Moved.prepared {machine next : Machine ω} {id : FrameId} {frame : Frame ω}
    {move : Move ω} (moved : job.Moved machine id move next)
    (orderly : machine.Orderly job.memoize [id]) (prepared : job.Prepared due answers machine)
    (found : machine.frame? id = some frame)
    (finished : ∀ other before result, machine.frame? other = some before →
      before.result = some result → answers before.spot result)
    (done : ∀ result, move = .done result → frame.result = none → answers frame.spot result)
    (resume : ∀ node position memory, move = .call node position memory →
      ∀ answer, answers (job.grammar.spot node position) answer →
        due id frame.spot (job.step frame.spot (.resume id memory answer)))
    (start : ∀ node position memory, move = .call node position memory →
      ∀ callee : FrameId, callee.number = machine.frames.size →
        due callee (job.grammar.spot node position)
          (job.step (job.grammar.spot node position) (.start callee))) :
    job.Prepared due answers next := by
  have dueHere : ∀ {node position memory}, move = .call node position memory →
      ∀ answer, answers (job.grammar.spot node position) answer →
        job.DueIn due machine (.resume id memory answer) := by
    intro node position memory isCall answer answered own there
    have same : machine.frame? id = some own := there
    rw [found] at same
    cases same
    exact resume node position memory isCall answer answered
  cases moved with
  | done result => exact prepared.complete found (done result rfl)
  | @answered node position memory callee result known hasResult =>
      obtain ⟨calleeFrame, there, hasSpot, _⟩ := (orderly.listed _ _).mp known
      have isResult : calleeFrame.result = some result :=
        (Machine.result?_eq there).symm.trans hasResult
      have answered := finished _ _ _ there isResult
      rw [hasSpot] at answered
      exact prepared.push (dueHere rfl _ answered)
  | waiting known unfinished =>
      obtain ⟨calleeFrame, there, hasSpot, _⟩ := (orderly.listed _ _).mp known
      apply prepared.wait there
      intro answer answered
      rw [hasSpot] at answered
      exact dueHere rfl answer answered
  | @opened node position memory callee opened unknown entered =>
      have last := (Machine.enter_eq_some entered).1
      have there := Machine.frame?_enter entered callee
      rw [if_pos rfl] at there
      have waiting : job.Prepared due answers (opened.wait callee id memory) := by
        apply (prepared.enter orderly entered).wait there
        intro answer answered
        apply (dueHere rfl answer answered).of_spots
        intro later same
        have old : id ≠ callee := by
          rintro rfl
          have := orderly.known id List.mem_cons_self
          omega
        have before := (Machine.frame?_enter entered id).symm.trans same
        rw [if_neg old] at before
        exact ⟨later, before, rfl⟩
      apply waiting.push
      intro calleeFrame isFrame
      rw [show (Task.start callee : Task ω).frame = callee from rfl, Machine.frame?_wait,
        if_pos rfl, there] at isFrame
      cases isFrame
      exact start node position memory rfl callee last

section Begin

variable {root : NodeId} {position : Nat} {frame : FrameId} {first : Machine ω}
  (begun : job.begin root position = some (frame, first))

include begun

/-- A run begins with the root's frame. -/
theorem frame?_begin (id : FrameId) :
    first.frame? id =
      if id = frame then some ⟨job.grammar.spot root position, none, []⟩ else none := by
  obtain ⟨opened, entered, rfl⟩ := exists_enter_of_begin begun
  rw [Machine.frame?_push, Machine.frame?_enter entered]
  rfl

theorem size_begin : first.frames.size = 1 := by
  obtain ⟨opened, entered, rfl⟩ := exists_enter_of_begin begun
  exact Machine.size_enter entered

theorem queue_begin : first.queue = [.start frame] := by
  obtain ⟨opened, entered, rfl⟩ := exists_enter_of_begin begun
  rw [Machine.queue_push, Machine.queue_enter entered]
  rfl

theorem pending_begin : first.pending.Perm [frame] := by
  obtain ⟨opened, entered, rfl⟩ := exists_enter_of_begin begun
  have pushed := Machine.pending_push opened (.start frame)
  rw [Machine.pending_enter entered] at pushed
  exact pushed

theorem begin_prepared
    (start : due frame (job.grammar.spot root position)
      (job.step (job.grammar.spot root position) (.start frame))) :
    job.Prepared due answers first := by
  constructor
  · intro task member own there
    rw [queue_begin begun, List.mem_singleton] at member
    subst member
    rw [show (Task.start frame : Task ω).frame = frame from rfl, frame?_begin begun,
      if_pos rfl] at there
    cases there
    exact start
  · intro id own there waiter memory member
    rw [frame?_begin begun] at there
    split at there
    next =>
      cases there
      cases member
    next => cases there

end Begin

/-- The root's frame is there from beginning to end. -/
theorem Leads.root_frame {root : NodeId} {position : Nat} {frame : FrameId}
    {first machine : Machine ω} {start world : τ} {history : List (Deed ω)}
    (begun : job.begin root position = some (frame, first))
    (leads : job.Leads host frame first start history machine world) :
    ∃ own, machine.frame? frame = some own ∧ own.spot = job.grammar.spot root position := by
  have there := frame?_begin begun frame
  rw [if_pos rfl] at there
  obtain ⟨grown, found, same, _⟩ := leads.grows (begin_orderly begun) frame _ there
  exact ⟨grown, found, same⟩

end Job

end Packrat
