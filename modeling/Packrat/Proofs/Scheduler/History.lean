import Packrat.Proofs.Scheduler.Machine
import Packrat.Scheduler.Run

/-!
# Histories of runs

A run goes from machine to machine.  `Moved` says everything that the move of a frame
can do to a machine, and `Leads` says which machines a run reaches and what it has done
until then: the tasks it took on, and the frames it failed because nothing else was left
to do.
-/

namespace Packrat

/-- What one turn of a run does. -/
inductive Deed (ω : Type) where
  /-- It takes on a task. -/
  | task (task : Task ω)
  /-- There is no task, and it fails the newest frame without a result. -/
  | cut (stuck : FrameId)

/-- No frame is failed to break a circle. -/
def Uncut {ω : Type} (history : List (Deed ω)) : Prop := ∀ stuck, Deed.cut stuck ∉ history

theorem Uncut.append {ω : Type} {history more : List (Deed ω)} (uncut : Uncut history)
    (moreUncut : Uncut more) : Uncut (history ++ more) := by
  intro stuck member
  rcases List.mem_append.mp member with early | late
  · exact uncut stuck early
  · exact moreUncut stuck late

theorem Uncut.task {ω : Type} (task : Task ω) : Uncut [.task task] := by
  intro stuck member
  cases List.mem_singleton.mp member

/-- The machine after its next task is taken off the queue. -/
def Machine.taken {ω : Type} (machine : Machine ω) (rest : List (Task ω)) : Machine ω :=
  { machine with queue := rest, steps := machine.steps + 1 }

namespace Machine

variable {ω : Type}

@[simp] theorem frame?_taken (machine : Machine ω) (rest : List (Task ω)) (id : FrameId) :
    (machine.taken rest).frame? id = machine.frame? id := rfl

@[simp] theorem frames_taken (machine : Machine ω) (rest : List (Task ω)) :
    (machine.taken rest).frames = machine.frames := rfl

@[simp] theorem table_taken (machine : Machine ω) (rest : List (Task ω)) :
    (machine.taken rest).table = machine.table := rfl

@[simp] theorem queue_taken (machine : Machine ω) (rest : List (Task ω)) :
    (machine.taken rest).queue = rest := rfl

theorem pending_taken {machine : Machine ω} {task : Task ω} {rest : List (Task ω)}
    (queue : machine.queue = task :: rest) :
    machine.pending = task.frame :: (machine.taken rest).pending := by
  simp [pending, queue]

end Machine

namespace Job

variable {ω ρ τ : Type}

/-- Everything that the move of a frame can do to a machine. -/
inductive Moved (job : Job ω ρ) (machine : Machine ω) (id : FrameId) :
    Move ω → Machine ω → Prop where
  | done (result : Match (Value ω)) :
      Moved job machine id (.done result) (machine.complete job.memoize id result)
  | answered {node : NodeId} {position : Nat} {memory : Memory ω} {callee : FrameId}
      {result : Match (Value ω)} :
      machine.table[(⟨job.grammar.follow node, position⟩ : Spot)]? = some callee →
      machine.result? callee = some result →
      Moved job machine id (.call node position memory)
        (machine.push (.resume id memory result))
  | waiting {node : NodeId} {position : Nat} {memory : Memory ω} {callee : FrameId} :
      machine.table[(⟨job.grammar.follow node, position⟩ : Spot)]? = some callee →
      machine.result? callee = none →
      Moved job machine id (.call node position memory) (machine.wait callee id memory)
  | opened {node : NodeId} {position : Nat} {memory : Memory ω} {callee : FrameId}
      {opened : Machine ω} :
      machine.table[(⟨job.grammar.follow node, position⟩ : Spot)]? = none →
      machine.enter ⟨job.grammar.follow node, position⟩ = some (callee, opened) →
      Moved job machine id (.call node position memory)
        ((opened.wait callee id memory).push (.start callee))

theorem move_eq_ok_iff {job : Job ω ρ} {machine next : Machine ω} {id : FrameId}
    {move : Move ω} :
    job.move machine id move = .ok next ↔ job.Moved machine id move next := by
  constructor
  · intro moved
    cases move with
    | done result =>
        cases moved
        exact .done result
    | call node position memory =>
        simp only [Job.move] at moved
        split at moved
        next callee known =>
          split at moved
          next result finished =>
            cases moved
            exact .answered known finished
          next unfinished =>
            cases moved
            exact .waiting known unfinished
        next unknown =>
          split at moved
          next => cases moved
          next callee opened entered =>
            cases moved
            exact .opened unknown entered
  · intro moved
    cases moved with
    | done result => rfl
    | answered known finished =>
        simp only [Job.move, known]
        rw [show (machine.frames[_]?.bind Frame.result) = _ from finished]
    | waiting known unfinished =>
        simp only [Job.move, known]
        rw [show (machine.frames[_]?.bind Frame.result) = _ from unfinished]
    | opened unknown entered => simp only [Job.move, unknown, entered]

/-- The move that a task comes to, and the host's world after it. -/
def settled (job : Job ω ρ) (host : Host ω ρ τ) (spot : Spot) (task : Task ω) (world : τ) :
    Move ω × τ :=
  host.settle (job.step spot task) (host.watch (job.event spot task) world)

theorem perform_eq (job : Job ω ρ) (host : Host ω ρ τ) (machine : Machine ω)
    (task : Task ω) (world : τ) {frame : Frame ω}
    (found : machine.frame? task.frame = some frame) :
    job.perform host machine task world =
      (job.move machine task.frame (job.settled host frame.spot task world).1,
        (job.settled host frame.spot task world).2) := by
  unfold perform
  rw [show machine.frames[task.frame.number]? = _ from found]
  rfl

theorem turn_task {job : Job ω ρ} {host : Host ω ρ τ} {root : FrameId}
    {machine next : Machine ω} {world : τ} {task : Task ω} {rest : List (Task ω)}
    {frame : Frame ω} (queue : machine.queue = task :: rest)
    (withinLimit : job.limit.any (· < machine.steps + 1) = false)
    (found : machine.frame? task.frame = some frame)
    (moved : job.Moved (machine.taken rest) task.frame
      (job.settled host frame.spot task world).1 next) :
    job.turn host root machine world =
      (.running next, (job.settled host frame.spot task world).2) := by
  have performed := perform_eq job host (machine.taken rest) task world found
  rw [move_eq_ok_iff.mpr moved] at performed
  unfold turn
  rw [queue]
  simp only [withinLimit, Bool.false_eq_true, if_false]
  rw [show job.perform host { machine with queue := rest, steps := machine.steps + 1 } task
    world = _ from performed]

/-- The task that is one too many is not taken on. -/
theorem turn_over {job : Job ω ρ} {host : Host ω ρ τ} {root : FrameId} {machine : Machine ω}
    {task : Task ω} {rest : List (Task ω)} (queue : machine.queue = task :: rest)
    (limited : job.limit.any (· < machine.steps + 1) = true) (world : τ) :
    job.turn host root machine world =
      (.ended (.error .stepLimit) (machine.steps + 1), world) := by
  unfold turn
  rw [queue]
  simp only [limited, if_true]

/-- A task of no frame changes nothing. -/
theorem turn_missing {job : Job ω ρ} {host : Host ω ρ τ} {root : FrameId} {machine : Machine ω}
    {task : Task ω} {rest : List (Task ω)} (queue : machine.queue = task :: rest)
    (withinLimit : job.limit.any (· < machine.steps + 1) = false)
    (missing : machine.frame? task.frame = none) (world : τ) :
    job.turn host root machine world = (.running (machine.taken rest), world) := by
  unfold turn
  rw [queue]
  simp only [withinLimit, Bool.false_eq_true, if_false, perform,
    show machine.frames[task.frame.number]? = none from missing]
  rfl

/-- A task whose move cannot be made is the end of the run. -/
theorem turn_halt {job : Job ω ρ} {host : Host ω ρ τ} {root : FrameId}
    {machine : Machine ω} {world : τ} {task : Task ω} {rest : List (Task ω)}
    {frame : Frame ω} {halt : Halt} (queue : machine.queue = task :: rest)
    (withinLimit : job.limit.any (· < machine.steps + 1) = false)
    (found : machine.frame? task.frame = some frame)
    (stopped : job.move (machine.taken rest) task.frame
      (job.settled host frame.spot task world).1 = .error halt) :
    job.turn host root machine world =
      (.ended (.error halt) (machine.steps + 1), (job.settled host frame.spot task world).2) := by
  have performed := perform_eq job host (machine.taken rest) task world found
  rw [stopped] at performed
  unfold turn
  rw [queue]
  simp only [withinLimit, Bool.false_eq_true, if_false]
  rw [show job.perform host { machine with queue := rest, steps := machine.steps + 1 } task
    world = _ from performed]

/-- A turn that goes on after taking on a task has made a move of the task's frame. -/
theorem moved_of_turn {job : Job ω ρ} {host : Host ω ρ τ} {root : FrameId}
    {machine next : Machine ω} {world after : τ} {task : Task ω} {rest : List (Task ω)}
    {frame : Frame ω} (queue : machine.queue = task :: rest)
    (found : machine.frame? task.frame = some frame)
    (turned : job.turn host root machine world = (.running next, after)) :
    job.Moved (machine.taken rest) task.frame
      (job.settled host frame.spot task world).1 next := by
  have performed := perform_eq job host (machine.taken rest) task world found
  unfold turn at turned
  rw [queue] at turned
  simp only at turned
  split at turned
  next => cases turned
  next =>
    rw [show job.perform host { machine with queue := rest, steps := machine.steps + 1 }
      task world = _ from performed] at turned
    cases moved : job.move (machine.taken rest) task.frame
        (job.settled host frame.spot task world).1 with
    | error halt =>
        rw [moved] at turned
        cases turned
    | ok reached =>
        rw [moved] at turned
        cases turned
        exact move_eq_ok_iff.mp moved

/-- What a frame at a position is failed with to break a circle. -/
def leftRecursion (position : Nat) : Match (Value ω) :=
  .failure "left recursion" (.point position)

/-- A turn that goes on although there is no task has failed the newest frame without a
result. -/
theorem failed_of_turn {job : Job ω ρ} {host : Host ω ρ τ} {root stuck : FrameId}
    {machine next : Machine ω} {world after : τ} (queue : machine.queue = [])
    (newest : machine.newestUnfinished? = some stuck)
    (turned : job.turn host root machine world = (.running next, after)) :
    machine.result? root = none ∧ after = world ∧
      ∃ frame, machine.frame? stuck = some frame ∧ frame.result = none ∧
        next = machine.complete job.memoize stuck (leftRecursion frame.spot.position) := by
  obtain ⟨frame, found, noResult⟩ := Machine.newestUnfinished?_eq_some newest
  unfold turn at turned
  rw [queue] at turned
  simp only at turned
  split at turned
  next => cases turned
  next unfinished =>
    rw [newest] at turned
    simp only [show machine.frames[stuck.number]? = some frame from found] at turned
    cases turned
    exact ⟨unfinished, rfl, frame, found, noResult, rfl⟩

/-- Without a task, the newest frame without a result is failed. -/
theorem turn_cut {job : Job ω ρ} {host : Host ω ρ τ} {root stuck : FrameId}
    {machine : Machine ω} {frame : Frame ω} (queue : machine.queue = [])
    (unfinished : machine.result? root = none) (newest : machine.newestUnfinished? = some stuck)
    (found : machine.frame? stuck = some frame) (world : τ) :
    job.turn host root machine world =
      (.running (machine.complete job.memoize stuck (leftRecursion frame.spot.position)),
        world) := by
  unfold turn
  rw [queue]
  simp only
  rw [show machine.frames[root.number]?.bind Frame.result = none from unfinished, newest]
  simp only [show machine.frames[stuck.number]? = some frame from found]
  rfl

/-- A run is stuck for good where nothing is left to do and no frame is unfinished. -/
theorem turn_stalled {job : Job ω ρ} {host : Host ω ρ τ} {root : FrameId} {machine : Machine ω}
    (queue : machine.queue = []) (unfinished : machine.result? root = none)
    (noneLeft : machine.newestUnfinished? = none) (world : τ) :
    job.turn host root machine world = (.ended (.error .stalled) machine.steps, world) := by
  unfold turn
  rw [queue]
  simp only
  rw [show machine.frames[root.number]?.bind Frame.result = none from unfinished, noneLeft]

theorem cut_of_turn {job : Job ω ρ} {host : Host ω ρ τ} {root stuck : FrameId}
    {machine next : Machine ω} {world after : τ} (queue : machine.queue = [])
    (newest : machine.newestUnfinished? = some stuck)
    (turned : job.turn host root machine world = (.running next, after)) :
    machine.result? root = none ∧ ∃ failure, next = machine.complete job.memoize stuck failure := by
  obtain ⟨unfinished, _, frame, _, _, whole⟩ := failed_of_turn queue newest turned
  exact ⟨unfinished, _, whole⟩

/-- The only move that cannot be made is a call of a spot that has no frame and for which
there is no index left. -/
theorem move_eq_error_iff {job : Job ω ρ} {machine : Machine ω} {id : FrameId} {move : Move ω}
    {halt : Halt} :
    job.move machine id move = .error halt ↔
      halt = .overflow ∧ ∃ node position memory, move = .call node position memory ∧
        machine.table[(⟨job.grammar.follow node, position⟩ : Spot)]? = none ∧
        machine.enter ⟨job.grammar.follow node, position⟩ = none := by
  constructor
  · intro stopped
    cases move with
    | done result => cases stopped
    | call node position memory =>
        simp only [Job.move] at stopped
        split at stopped
        next =>
          split at stopped
          next => cases stopped
          next => cases stopped
        next unlisted =>
          split at stopped
          next full =>
            cases stopped
            exact ⟨rfl, node, position, memory, rfl, unlisted, full⟩
          next => cases stopped
  · rintro ⟨rfl, node, position, memory, rfl, unlisted, full⟩
    simp only [Job.move, unlisted, full]

theorem move_eq_error {job : Job ω ρ} {machine : Machine ω} {id : FrameId} {move : Move ω}
    {halt : Halt} (stopped : job.move machine id move = .error halt) :
    halt = .overflow ∧ capacity ≤ machine.frames.size := by
  obtain ⟨isOverflow, _, _, _, _, _, full⟩ := move_eq_error_iff.mp stopped
  exact ⟨isOverflow, Machine.enter_eq_none_iff.mp full⟩

/-- A run ends with the result of the root, at its limit of tasks, for want of an index,
or because nothing is left to be done although the root has no result. -/
theorem ended_of_turn {job : Job ω ρ} {host : Host ω ρ τ} {root : FrameId}
    {machine : Machine ω} {world finish : τ} {ending : Except Halt (Match (Value ω))}
    {steps : Nat} (turned : job.turn host root machine world = (.ended ending steps, finish)) :
    (∃ result, ending = .ok result ∧ machine.result? root = some result) ∨
      (ending = .error .stepLimit ∧ job.limit ≠ none) ∨
      (ending = .error .overflow ∧ capacity ≤ machine.frames.size) ∨
      (ending = .error .stalled ∧ machine.result? root = none ∧
        machine.newestUnfinished? = none) := by
  unfold turn at turned
  split at turned
  next task rest queue =>
    simp only at turned
    split at turned
    next limited =>
      cases turned
      refine .inr (.inl ⟨rfl, ?_⟩)
      intro unlimited
      rw [unlimited] at limited
      cases limited
    next =>
      split at turned
      next => cases turned
      next halt after performed =>
        cases turned
        unfold perform at performed
        split at performed
        next => cases performed
        next frame found =>
          obtain ⟨rfl, full⟩ := move_eq_error (congrArg Prod.fst performed)
          exact .inr (.inr (.inl ⟨rfl, full⟩))
  next queue =>
    split at turned
    next result finished =>
      cases turned
      exact .inl ⟨result, rfl, finished⟩
    next unfinished =>
      split at turned
      next none =>
        cases turned
        exact .inr (.inr (.inr ⟨rfl, unfinished, none⟩))
      next => cases turned

/-- A run that ends with a match has nothing left to do. -/
theorem queue_of_turn_ok {job : Job ω ρ} {host : Host ω ρ τ} {root : FrameId}
    {machine : Machine ω} {world finish : τ} {result : Match (Value ω)} {steps : Nat}
    (turned : job.turn host root machine world = (.ended (.ok result) steps, finish)) :
    machine.queue = [] ∧ finish = world := by
  unfold turn at turned
  split at turned
  next =>
    simp only at turned
    split at turned
    next => cases turned
    next =>
      split at turned
      next => cases turned
      next => cases turned
  next queue =>
    split at turned
    next =>
      cases turned
      exact ⟨queue, rfl⟩
    next =>
      split at turned
      next => cases turned
      next => cases turned

/-- A machine without tasks whose root has its result is at the end of the run. -/
theorem turn_finished {job : Job ω ρ} {host : Host ω ρ τ} {root : FrameId}
    {machine : Machine ω} {result : Match (Value ω)} (queue : machine.queue = [])
    (finished : machine.result? root = some result) (world : τ) :
    job.turn host root machine world = (.ended (.ok result) machine.steps, world) := by
  unfold turn
  rw [queue]
  simp only
  rw [show machine.frames[root.number]?.bind Frame.result = _ from finished]

/-- Which machines and worlds a run reaches, and what it does until then. -/
inductive Leads (job : Job ω ρ) (host : Host ω ρ τ) (root : FrameId) (first : Machine ω)
    (start : τ) : List (Deed ω) → Machine ω → τ → Prop where
  | here : Leads job host root first start [] first start
  | task {history : List (Deed ω)} {machine next : Machine ω} {world after : τ}
      {task : Task ω} {rest : List (Task ω)} :
      Leads job host root first start history machine world →
      machine.queue = task :: rest →
      job.turn host root machine world = (.running next, after) →
      Leads job host root first start (history ++ [.task task]) next after
  | cut {history : List (Deed ω)} {machine next : Machine ω} {world after : τ}
      {stuck : FrameId} :
      Leads job host root first start history machine world →
      machine.queue = [] →
      machine.newestUnfinished? = some stuck →
      job.turn host root machine world = (.running next, after) →
      Leads job host root first start (history ++ [.cut stuck]) next after

/-- Which machines and worlds a run reaches that is to match `root` at a position, and
what it does until then. -/
def Visits (job : Job ω ρ) (host : Host ω ρ τ) (root : NodeId) (position : Nat) (start : τ)
    (history : List (Deed ω)) (machine : Machine ω) (world : τ) : Prop :=
  ∃ frame first, job.begin root position = some (frame, first) ∧
    job.Leads host frame first start history machine world

theorem Leads.trans {job : Job ω ρ} {host : Host ω ρ τ} {root : FrameId}
    {first middle last : Machine ω} {start between finish : τ}
    {before after : List (Deed ω)}
    (leads : job.Leads host root first start before middle between)
    (goesOn : job.Leads host root middle between after last finish) :
    job.Leads host root first start (before ++ after) last finish := by
  induction goesOn with
  | here => simpa using leads
  | task _ queue turned induction =>
      rw [← List.append_assoc]
      exact .task induction queue turned
  | cut _ queue newest turned induction =>
      rw [← List.append_assoc]
      exact .cut induction queue newest turned

/-- A run that has come somewhere goes on from there, given the fuel it has used. -/
theorem Leads.runFrom {job : Job ω ρ} {host : Host ω ρ τ} {root : FrameId}
    {first machine : Machine ω} {start world : τ} {history : List (Deed ω)}
    (leads : job.Leads host root first start history machine world) :
    ∀ fuel, job.runFrom host root (history.length + fuel) first start =
      job.runFrom host root fuel machine world := by
  induction leads with
  | here => simp
  | task _ _ turned induction =>
      intro fuel
      rw [List.length_append, List.length_singleton, Nat.add_assoc, Nat.add_comm 1 fuel,
        induction, Job.runFrom, turned]
  | cut _ _ _ turned induction =>
      intro fuel
      rw [List.length_append, List.length_singleton, Nat.add_assoc, Nat.add_comm 1 fuel,
        induction, Job.runFrom, turned]

theorem runFrom_add {job : Job ω ρ} {host : Host ω ρ τ} {root : FrameId} {fuel : Nat}
    {first : Machine ω} {start finish : τ} {ending : Except Halt (Match (Value ω)) × Nat}
    (ended : job.runFrom host root fuel first start = (some ending, finish)) (more : Nat) :
    job.runFrom host root (fuel + more) first start = (some ending, finish) := by
  induction fuel generalizing first start with
  | zero => cases ended
  | succ fuel induction =>
      rw [Nat.add_right_comm]
      rw [Job.runFrom] at ended ⊢
      split at ended
      next result steps world turned => exact ended
      next next world turned => exact induction ended

/-- What a run does before it ends takes less than the fuel that it ends within. -/
theorem Leads.length_lt {job : Job ω ρ} {host : Host ω ρ τ} {root : FrameId} {fuel : Nat}
    {first machine : Machine ω} {start world finish : τ} {history : List (Deed ω)}
    {ending : Except Halt (Match (Value ω)) × Nat}
    (leads : job.Leads host root first start history machine world)
    (ended : job.runFrom host root fuel first start = (some ending, finish)) :
    history.length < fuel := by
  by_contra short
  obtain ⟨more, length⟩ := Nat.exists_eq_add_of_le (Nat.le_of_not_lt short)
  have stillRunning := leads.runFrom 0
  rw [length, Nat.add_zero, runFrom_add ended more] at stillRunning
  cases stillRunning

/-- A turn that goes on without a task has a frame to fail. -/
theorem exists_newest_of_turn {job : Job ω ρ} {host : Host ω ρ τ} {root : FrameId}
    {machine next : Machine ω} {world after : τ} (queue : machine.queue = [])
    (turned : job.turn host root machine world = (.running next, after)) :
    ∃ stuck, machine.newestUnfinished? = some stuck := by
  unfold turn at turned
  rw [queue] at turned
  simp only at turned
  split at turned
  next => cases turned
  next =>
    split at turned
    next => cases turned
    next stuck newest => exact ⟨stuck, newest⟩

/-- A run that ends has come to the machine at which it ends. -/
theorem exists_leads_of_runFrom {job : Job ω ρ} {host : Host ω ρ τ} {root : FrameId}
    {fuel : Nat} {first : Machine ω} {start finish : τ}
    {ending : Except Halt (Match (Value ω)) × Nat}
    (ended : job.runFrom host root fuel first start = (some ending, finish)) :
    ∃ history machine world, job.Leads host root first start history machine world ∧
      job.turn host root machine world = (.ended ending.1 ending.2, finish) := by
  induction fuel generalizing first start with
  | zero => cases ended
  | succ fuel induction =>
      rw [Job.runFrom] at ended
      split at ended
      next result steps world turned =>
        cases ended
        exact ⟨[], first, start, .here, turned⟩
      next next world turned =>
        obtain ⟨history, machine, reached, leads, ends⟩ := induction ended
        cases queue : first.queue with
        | nil =>
            obtain ⟨stuck, newest⟩ := exists_newest_of_turn queue turned
            exact ⟨_, machine, reached,
              (Leads.cut .here queue newest turned).trans leads, ends⟩
        | cons task rest =>
            exact ⟨_, machine, reached, (Leads.task .here queue turned).trans leads, ends⟩

/-- Where a run is after so many turns, if it has not ended. -/
def machineAfter (job : Job ω ρ) (host : Host ω ρ τ) (root : FrameId) :
    Nat → Machine ω → τ → Option (Machine ω × τ)
  | 0, machine, world => some (machine, world)
  | turns + 1, machine, world =>
    match job.turn host root machine world with
    | (.ended .., _) => none
    | (.running machine, world) => machineAfter job host root turns machine world

theorem exists_leads_of_machineAfter {job : Job ω ρ} {host : Host ω ρ τ} {root : FrameId}
    {turns : Nat} {first machine : Machine ω} {start world : τ}
    (after : job.machineAfter host root turns first start = some (machine, world)) :
    ∃ history, job.Leads host root first start history machine world := by
  induction turns generalizing first start with
  | zero =>
      cases after
      exact ⟨[], .here⟩
  | succ turns induction =>
      rw [machineAfter] at after
      split at after
      next => cases after
      next next later turned =>
        obtain ⟨history, leads⟩ := induction after
        cases queue : first.queue with
        | nil =>
            obtain ⟨stuck, newest⟩ := exists_newest_of_turn queue turned
            exact ⟨_, (Leads.cut .here queue newest turned).trans leads⟩
        | cons task rest => exact ⟨_, (Leads.task .here queue turned).trans leads⟩

/-- A run that has not ended has done something with all of its fuel. -/
theorem exists_leads_of_runFrom_eq_none {job : Job ω ρ} {host : Host ω ρ τ} {root : FrameId}
    {fuel : Nat} {first : Machine ω} {start finish : τ}
    (runs : job.runFrom host root fuel first start = (none, finish)) :
    ∃ history machine, job.Leads host root first start history machine finish ∧
      history.length = fuel := by
  induction fuel generalizing first start with
  | zero =>
      cases runs
      exact ⟨[], first, .here, rfl⟩
  | succ fuel induction =>
      rw [Job.runFrom] at runs
      split at runs
      next => cases runs
      next next world turned =>
        obtain ⟨history, machine, leads, length⟩ := induction runs
        cases queue : first.queue with
        | nil =>
            obtain ⟨stuck, newest⟩ := exists_newest_of_turn queue turned
            exact ⟨_, machine, (Leads.cut .here queue newest turned).trans leads,
              congrArg (· + 1) length⟩
        | cons task rest =>
            exact ⟨_, machine, (Leads.task .here queue turned).trans leads,
              congrArg (· + 1) length⟩

/-- What a single turn does, and where it leads. -/
inductive Turns (job : Job ω ρ) (host : Host ω ρ τ) (root : FrameId) (machine : Machine ω)
    (world : τ) : Deed ω → Machine ω → τ → Prop where
  | task {next : Machine ω} {after : τ} {task : Task ω} {rest : List (Task ω)} :
      machine.queue = task :: rest →
      job.turn host root machine world = (.running next, after) →
      Turns job host root machine world (.task task) next after
  | cut {next : Machine ω} {after : τ} {stuck : FrameId} :
      machine.queue = [] →
      machine.newestUnfinished? = some stuck →
      job.turn host root machine world = (.running next, after) →
      Turns job host root machine world (.cut stuck) next after

section Order

variable {job : Job ω ρ} {host : Host ω ρ τ} {root : FrameId}

theorem Turns.unique {machine next other : Machine ω} {world after otherAfter : τ}
    {deed otherDeed : Deed ω} (turns : job.Turns host root machine world deed next after)
    (others : job.Turns host root machine world otherDeed other otherAfter) :
    deed = otherDeed ∧ next = other ∧ after = otherAfter := by
  cases turns with
  | task queue turned =>
      cases others with
      | task otherQueue otherTurned =>
          rw [queue] at otherQueue
          rw [turned] at otherTurned
          cases otherQueue
          cases otherTurned
          exact ⟨rfl, rfl, rfl⟩
      | cut otherQueue =>
          rw [queue] at otherQueue
          cases otherQueue
  | cut queue newest turned =>
      cases others with
      | task otherQueue =>
          rw [queue] at otherQueue
          cases otherQueue
      | cut _ otherNewest otherTurned =>
          rw [newest] at otherNewest
          rw [turned] at otherTurned
          cases otherNewest
          cases otherTurned
          exact ⟨rfl, rfl, rfl⟩

/-- A run that has done anything has done something first. -/
theorem Leads.first_turn {first last : Machine ω} {start finish : τ} {history : List (Deed ω)}
    (leads : job.Leads host root first start history last finish) :
    (history = [] ∧ first = last ∧ start = finish) ∨
      ∃ deed rest next after, history = deed :: rest ∧
        job.Turns host root first start deed next after ∧
        job.Leads host root next after rest last finish := by
  induction leads with
  | here => exact .inl ⟨rfl, rfl, rfl⟩
  | task _ queue turned induction =>
      rcases induction with ⟨rfl, rfl, rfl⟩ | ⟨deed, rest, next, after, rfl, turns, leads⟩
      · exact .inr ⟨_, [], _, _, rfl, .task queue turned, .here⟩
      · exact .inr ⟨deed, _, next, after, rfl, turns, leads.task queue turned⟩
  | cut _ queue newest turned induction =>
      rcases induction with ⟨rfl, rfl, rfl⟩ | ⟨deed, rest, next, after, rfl, turns, leads⟩
      · exact .inr ⟨_, [], _, _, rfl, .cut queue newest turned, .here⟩
      · exact .inr ⟨deed, _, next, after, rfl, turns, leads.cut queue newest turned⟩

/-- From wherever a run comes before it ends, it goes on to its end. -/
theorem Leads.exists_rest {first middle last : Machine ω} {start between finish after : τ}
    {history whole : List (Deed ω)} {ending : Except Halt (Match (Value ω))} {steps : Nat}
    (leads : job.Leads host root first start history middle between)
    (leadsOn : job.Leads host root first start whole last finish)
    (ends : job.turn host root last finish = (.ended ending steps, after)) :
    ∃ rest, whole = history ++ rest ∧ job.Leads host root middle between rest last finish := by
  have next_turn : ∀ {machine next : Machine ω} {world reached : τ} {deed : Deed ω}
      {sofar : List (Deed ω)},
      (∃ rest, whole = sofar ++ rest ∧ job.Leads host root machine world rest last finish) →
      job.Turns host root machine world deed next reached →
      ∃ rest, whole = sofar ++ [deed] ++ rest ∧
        job.Leads host root next reached rest last finish := by
    rintro machine next world reached deed sofar ⟨rest, rfl, leads⟩ turns
    rcases leads.first_turn with ⟨rfl, rfl, rfl⟩ | ⟨_, rest, _, _, rfl, own, leads⟩
    · cases turns with
      | task _ turned =>
          rw [ends] at turned
          cases turned
      | cut _ _ turned =>
          rw [ends] at turned
          cases turned
    · obtain ⟨rfl, rfl, rfl⟩ := own.unique turns
      exact ⟨rest, by simp, leads⟩
  induction leads with
  | here => exact ⟨whole, rfl, leadsOn⟩
  | task _ queue turned induction => exact next_turn induction (.task queue turned)
  | cut _ queue newest turned induction => exact next_turn induction (.cut queue newest turned)

/-- Whatever a run does before it ends is the beginning of all that it does. -/
theorem Leads.isPrefix {first middle last : Machine ω} {start between finish after : τ}
    {history whole : List (Deed ω)} {ending : Except Halt (Match (Value ω))} {steps : Nat}
    (leads : job.Leads host root first start history middle between)
    (leadsOn : job.Leads host root first start whole last finish)
    (ends : job.turn host root last finish = (.ended ending steps, after)) :
    history.IsPrefix whole := by
  obtain ⟨rest, rfl, _⟩ := leads.exists_rest leadsOn ends
  exact List.prefix_append history rest

end Order

end Job

end Packrat
