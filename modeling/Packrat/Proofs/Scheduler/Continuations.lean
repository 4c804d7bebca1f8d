import Packrat.Proofs.Scheduler.History
import Mathlib.Data.List.Nodup

/-!
# No continuation is lost or duplicated

What a frame is to do next stands in exactly one place until the frame has its result:
it is a task, or it is kept by the frame whose result it waits for.  `Orderly` is the
invariant that carries this through every turn of a run.  While a task is being carried
out, its continuation is in no place at all; such continuations are held.
-/

namespace Packrat

namespace Machine

variable {ω : Type}

/-- The bookkeeping of a machine is in order, apart from the continuations that are held:
nothing is pending twice, every frame without a result is pending, only such frames have
waiters, and the table has every frame that may still be asked for. -/
structure Orderly (memoize : Bool) (held : List FrameId) (machine : Machine ω) : Prop where
  known : ∀ id ∈ held ++ machine.pending, id.number < machine.frames.size
  once : (held ++ machine.pending).Nodup
  awaited : ∀ id frame, machine.frame? id = some frame → frame.result = none →
    id ∈ held ++ machine.pending
  quiet : ∀ id frame, machine.frame? id = some frame → frame.result ≠ none →
    frame.waiters = []
  listed : ∀ spot id, machine.table[spot]? = some id ↔
    ∃ frame, machine.frame? id = some frame ∧ frame.spot = spot ∧
      (memoize = true ∨ frame.result = none)

namespace Orderly

variable {memoize : Bool} {held : List FrameId} {machine : Machine ω}

theorem idle : Orderly memoize [] (idle : Machine ω) := by
  constructor
  · simp [pending, Machine.idle]
  · simp [pending, Machine.idle]
  · simp [frame?, Machine.idle]
  · simp [frame?, Machine.idle]
  · simp [frame?, Machine.idle]

/-- Taking a task off the queue takes its continuation into hand. -/
theorem taken (orderly : Orderly memoize [] machine) {task : Task ω} {rest : List (Task ω)}
    (queue : machine.queue = task :: rest) :
    Orderly memoize [task.frame] (machine.taken rest) := by
  have pending : [] ++ machine.pending = [task.frame] ++ (machine.taken rest).pending :=
    pending_taken queue
  constructor
  · rw [← pending]
    exact orderly.known
  · rw [← pending]
    exact orderly.once
  · rw [← pending]
    exact orderly.awaited
  · exact orderly.quiet
  · exact orderly.listed

/-- A continuation in hand is put into the queue. -/
theorem push {task : Task ω} (orderly : Orderly memoize (task.frame :: held) machine) :
    Orderly memoize held (machine.push task) := by
  have pending : (held ++ (machine.push task).pending).Perm
      (task.frame :: held ++ machine.pending) :=
    ((pending_push machine task).append_left held).trans List.perm_middle
  constructor
  · intro id member
    exact orderly.known id (pending.mem_iff.mp member)
  · exact pending.nodup_iff.mpr orderly.once
  · intro id frame found unfinished
    exact pending.mem_iff.mpr (orderly.awaited id frame found unfinished)
  · exact orderly.quiet
  · exact orderly.listed

/-- A continuation in hand is left with a frame that has no result. -/
theorem wait {waiter callee : FrameId} {frame : Frame ω}
    (orderly : Orderly memoize (waiter :: held) machine)
    (found : machine.frame? callee = some frame) (unfinished : frame.result = none)
    (memory : Memory ω) : Orderly memoize held (machine.wait callee waiter memory) := by
  have pending : (held ++ (machine.wait callee waiter memory).pending).Perm
      (waiter :: held ++ machine.pending) :=
    ((pending_wait (frame?_lt found) waiter memory).append_left held).trans
      List.perm_middle
  have earlier : ∀ id later, (machine.wait callee waiter memory).frame? id = some later →
      ∃ frame, machine.frame? id = some frame ∧ later.spot = frame.spot ∧
        later.result = frame.result ∧ (id ≠ callee → later = frame) := by
    intro id later here
    rw [frame?_wait] at here
    split at here
    next same =>
      obtain ⟨frame, before, rfl⟩ := Option.map_eq_some_iff.mp here
      exact ⟨frame, before, rfl, rfl, fun different => absurd same different⟩
    next => exact ⟨later, here, rfl, rfl, fun _ => rfl⟩
  constructor
  · intro id member
    rw [size_wait]
    exact orderly.known id (pending.mem_iff.mp member)
  · exact pending.nodup_iff.mpr orderly.once
  · intro id later here noResult
    obtain ⟨frame, before, _, result, _⟩ := earlier id later here
    exact pending.mem_iff.mpr (orderly.awaited id frame before (result ▸ noResult))
  · intro id later here finished
    obtain ⟨before, was, _, result, unchanged⟩ := earlier id later here
    by_cases same : id = callee
    · subst same
      rw [found] at was
      cases was
      exact absurd (result.trans unfinished) finished
    · rw [unchanged same]
      exact orderly.quiet id before was (result ▸ finished)
  · intro spot id
    rw [table_wait, orderly.listed]
    constructor
    · rintro ⟨frame, before, hasSpot, counts⟩
      by_cases same : id = callee
      · subst same
        refine ⟨{ frame with waiters := frame.waiters ++ [(waiter, memory)] }, ?_,
          hasSpot, counts⟩
        rw [frame?_wait, if_pos rfl, before]
        rfl
      · exact ⟨frame, by rw [frame?_wait, if_neg same, before], hasSpot, counts⟩
    · rintro ⟨later, here, hasSpot, counts⟩
      obtain ⟨frame, before, sameSpot, result, _⟩ := earlier id later here
      exact ⟨frame, before, sameSpot ▸ hasSpot, result ▸ counts⟩

/-- A frame is opened for a spot that the table does not have; what it is to do is in
hand. -/
theorem enter {spot : Spot} {id : FrameId} {opened : Machine ω}
    (orderly : Orderly memoize held machine) (unknown : machine.table[spot]? = none)
    (entered : machine.enter spot = some (id, opened)) :
    Orderly memoize (held ++ [id]) opened := by
  have last : id.number = machine.frames.size := (enter_eq_some entered).1
  have fresh : id ∉ held ++ machine.pending := by
    intro member
    have := orderly.known id member
    omega
  have pending : (held ++ [id] ++ opened.pending).Perm
      (id :: (held ++ machine.pending)) := by
    rw [pending_enter entered, List.append_assoc]
    exact List.perm_middle
  constructor
  · intro other member
    rw [size_enter entered]
    rcases List.mem_cons.mp (pending.mem_iff.mp member) with rfl | old
    · omega
    · have := orderly.known other old
      omega
  · exact pending.nodup_iff.mpr (List.nodup_cons.mpr ⟨fresh, orderly.once⟩)
  · intro other frame found unfinished
    rw [frame?_enter entered] at found
    apply pending.mem_iff.mpr
    split at found
    next same =>
      subst same
      exact List.mem_cons_self
    next =>
      exact List.mem_cons_of_mem _ (orderly.awaited other frame found unfinished)
  · intro other frame found finished
    rw [frame?_enter entered] at found
    split at found
    next =>
      cases found
      rfl
    next => exact orderly.quiet other frame found finished
  · intro otherSpot other
    rw [table_enter entered, frame?_enter entered]
    have noFrame : machine.frame? id = none := by
      simp [frame?, last]
    by_cases sameSpot : otherSpot = spot
    · subst sameSpot
      rw [if_pos rfl]
      constructor
      · intro same
        cases same
        exact ⟨_, if_pos rfl, rfl, .inr rfl⟩
      · rintro ⟨frame, found, hasSpot, counts⟩
        split at found
        next same => exact congrArg some same.symm
        next =>
          have listed := (orderly.listed otherSpot other).mpr ⟨frame, found, hasSpot, counts⟩
          rw [unknown] at listed
          cases listed
    · rw [if_neg sameSpot, orderly.listed]
      constructor
      · rintro ⟨frame, found, hasSpot, counts⟩
        have different : other ≠ id := by
          intro same
          rw [same, noFrame] at found
          cases found
        exact ⟨frame, by rw [if_neg different, found], hasSpot, counts⟩
      · rintro ⟨frame, found, hasSpot, counts⟩
        split at found
        next =>
          cases found
          exact absurd hasSpot.symm sameSpot
        next => exact ⟨frame, found, hasSpot, counts⟩

/-- A frame gets its result.  What it was to do next, if that is still pending, stays
where it is. -/
theorem complete {id : FrameId} {frame : Frame ω}
    (orderly : Orderly memoize held machine) (found : machine.frame? id = some frame)
    (result : Match (Value ω)) : Orderly memoize held (machine.complete memoize id result) := by
  obtain ⟨spot, outcome, waiters⟩ := frame
  cases outcome with
  | some first =>
      rw [complete_of_finished found rfl]
      exact orderly
  | none =>
      have pending : (held ++ (machine.complete memoize id result).pending).Perm
          (held ++ machine.pending) :=
        (pending_complete found memoize result).append_left held
      constructor
      · intro other member
        rw [size_complete]
        exact orderly.known other (pending.mem_iff.mp member)
      · exact pending.nodup_iff.mpr orderly.once
      · intro other later here unfinished
        rw [frame?_complete found] at here
        split at here
        next =>
          cases here
          cases unfinished
        next => exact pending.mem_iff.mpr (orderly.awaited other later here unfinished)
      · intro other later here finished
        rw [frame?_complete found] at here
        split at here
        next =>
          cases here
          rfl
        next => exact orderly.quiet other later here finished
      · intro otherSpot other
        have own : machine.table[otherSpot]? = some id ↔ otherSpot = spot := by
          rw [orderly.listed, found]
          constructor
          · rintro ⟨_, same, hasSpot, _⟩
            cases same
            exact hasSpot.symm
          · rintro rfl
            exact ⟨_, rfl, rfl, .inr rfl⟩
        rw [table_complete found, frame?_complete found]
        by_cases same : other = id
        · subst same
          cases memoize with
          | true => simp [own, eq_comm]
          | false =>
              have notListed : otherSpot ≠ spot → machine.table[otherSpot]? ≠ some other :=
                fun different listed => different (own.mp listed)
              by_cases sameSpot : otherSpot = spot
              · simp [sameSpot]
              · simp [sameSpot, notListed sameSpot]
        · rw [if_neg same]
          by_cases freed : memoize = false ∧ otherSpot = spot
          · rw [if_pos freed]
            constructor
            · intro listed
              cases listed
            · intro there
              have listed := (orderly.listed otherSpot other).mpr there
              rw [own.mpr freed.2] at listed
              cases listed
              exact absurd rfl same
          · rw [if_neg freed, orderly.listed]

/-- The continuation of a frame that has its result may be dropped. -/
theorem drop {id : FrameId} {frame : Frame ω} {result : Match (Value ω)}
    (orderly : Orderly memoize [id] machine) (found : machine.frame? id = some frame)
    (finished : frame.result = some result) : Orderly memoize [] machine := by
  constructor
  · intro other member
    exact orderly.known other (List.mem_append_right _ member)
  · exact (List.nodup_append.mp orderly.once).2.1
  · intro other later here unfinished
    rcases List.mem_append.mp (orderly.awaited other later here unfinished) with inHand | there
    · obtain rfl := List.mem_singleton.mp inHand
      rw [found] at here
      cases here
      rw [finished] at unfinished
      cases unfinished
    · exact there
  · exact orderly.quiet
  · exact orderly.listed

end Orderly

/-! ## What later machines keep -/

/-- Every frame of a machine is a frame of a later one, for the same spot and with the
same result, if it has one. -/
def Grows (machine later : Machine ω) : Prop :=
  ∀ id frame, machine.frame? id = some frame →
    ∃ grown, later.frame? id = some grown ∧ grown.spot = frame.spot ∧
      ∀ result, frame.result = some result → grown.result = some result

namespace Grows

variable {machine middle later : Machine ω}

theorem refl (machine : Machine ω) : machine.Grows machine :=
  fun _ frame found => ⟨frame, found, rfl, fun _ finished => finished⟩

theorem trans (first : machine.Grows middle) (second : middle.Grows later) :
    machine.Grows later := by
  intro id frame found
  obtain ⟨between, there, spot, result⟩ := first id frame found
  obtain ⟨grown, finally_, lastSpot, lastResult⟩ := second id between there
  exact ⟨grown, finally_, lastSpot.trans spot,
    fun value finished => lastResult value (result value finished)⟩

theorem result? (grows : machine.Grows later) {id : FrameId} {result : Match (Value ω)}
    (finished : machine.result? id = some result) : later.result? id = some result := by
  obtain ⟨frame, found, hasResult⟩ := Option.bind_eq_some_iff.mp finished
  obtain ⟨grown, there, _, kept⟩ := grows id frame found
  exact Option.bind_eq_some_iff.mpr ⟨grown, there, kept result hasResult⟩

theorem enter {spot : Spot} {id : FrameId} {opened : Machine ω}
    (entered : machine.enter spot = some (id, opened)) : machine.Grows opened := by
  intro other frame found
  have different : other ≠ id := by
    rintro rfl
    have := frame?_lt found
    have := (enter_eq_some entered).1
    omega
  exact ⟨frame, by rw [frame?_enter entered, if_neg different, found], rfl,
    fun _ finished => finished⟩

theorem wait (machine : Machine ω) (callee waiter : FrameId) (memory : Memory ω) :
    machine.Grows (machine.wait callee waiter memory) := by
  intro id frame found
  rw [frame?_wait, found]
  by_cases same : id = callee
  · exact ⟨_, if_pos same, rfl, fun _ finished => finished⟩
  · exact ⟨frame, if_neg same, rfl, fun _ finished => finished⟩

theorem complete (machine : Machine ω) (memoize : Bool) (id : FrameId)
    (result : Match (Value ω)) : machine.Grows (machine.complete memoize id result) := by
  rcases machine.complete_eq_or_unfinished memoize id result with unchanged | ⟨_, _, present⟩
  · rw [unchanged]
    exact refl machine
  · intro other frame found
    rw [frame?_complete present]
    by_cases same : other = id
    · subst same
      rw [present] at found
      cases found
      exact ⟨_, if_pos rfl, rfl, fun _ impossible => by cases impossible⟩
    · exact ⟨frame, by rw [if_neg same, found], rfl, fun _ finished => finished⟩

end Grows

end Machine

/-! ## Moves and turns -/

namespace Job

variable {ω ρ τ : Type} {job : Job ω ρ} {host : Host ω ρ τ}

theorem Moved.orderly {machine next : Machine ω} {id : FrameId} {move : Move ω}
    (moved : job.Moved machine id move next)
    (orderly : machine.Orderly job.memoize [id]) : next.Orderly job.memoize [] := by
  obtain ⟨frame, found⟩ := Machine.exists_frame? (orderly.known id List.mem_cons_self)
  cases moved with
  | done result =>
      have completed := orderly.complete found result
      obtain ⟨grown, there, _, _⟩ :=
        Machine.Grows.complete machine job.memoize id result id frame found
      cases finished : grown.result with
      | some first => exact completed.drop there finished
      | none =>
          obtain ⟨spot, outcome, waiters⟩ := frame
          cases outcome with
          | some first =>
              rw [Machine.complete_of_finished found rfl] at there
              rw [found] at there
              cases there
              cases finished
          | none =>
              rw [Machine.frame?_complete found, if_pos rfl] at there
              cases there
              cases finished
  | answered known finished => exact orderly.push
  | @waiting node position memory callee known unfinished =>
      obtain ⟨calleeFrame, there, _, _⟩ := (orderly.listed _ _).mp known
      have noResult : calleeFrame.result = none :=
        (Machine.result?_eq there).symm.trans unfinished
      exact orderly.wait there noResult memory
  | @opened node position memory callee opened unknown entered =>
      have there := Machine.frame?_enter entered callee
      rw [if_pos rfl] at there
      exact ((orderly.enter unknown entered).wait there rfl memory).push

theorem Moved.grows {machine next : Machine ω} {id : FrameId} {move : Move ω}
    (moved : job.Moved machine id move next) : machine.Grows next := by
  cases moved with
  | done result => exact .complete machine job.memoize id result
  | answered known finished => exact .refl machine
  | waiting known unfinished => exact .wait machine _ id _
  | opened unknown entered => exact (Machine.Grows.enter entered).trans (.wait _ _ id _)

/-- A run begins by opening a frame for the root, which is to be started. -/
theorem exists_enter_of_begin {root : NodeId} {position : Nat} {frame : FrameId}
    {first : Machine ω} (begun : job.begin root position = some (frame, first)) :
    ∃ opened, Machine.idle.enter ⟨job.grammar.follow root, position⟩ = some (frame, opened) ∧
      opened.push (.start frame) = first := by
  obtain ⟨⟨id, opened⟩, entered, same⟩ := Option.map_eq_some_iff.mp begun
  obtain ⟨rfl, isFirst⟩ := Prod.mk.inj same
  exact ⟨opened, entered, isFirst⟩

/-- The machine at the start of a run has nothing but the root's frame, which is to be
started. -/
theorem begin_orderly {root : NodeId} {position : Nat} {frame : FrameId}
    {first : Machine ω} (begun : job.begin root position = some (frame, first)) :
    first.Orderly job.memoize [] := by
  obtain ⟨opened, entered, rfl⟩ := exists_enter_of_begin begun
  have unknown : (Machine.idle : Machine ω).table[
      (⟨job.grammar.follow root, position⟩ : Spot)]? = none := by
    simp [Machine.idle]
  exact (Machine.Orderly.idle.enter unknown entered).push

/-- A turn that takes on a task makes a move of a frame of the machine. -/
theorem exists_moved_of_turn {root : FrameId} {machine next : Machine ω}
    {world after : τ} {task : Task ω} {rest : List (Task ω)}
    (orderly : machine.Orderly job.memoize []) (queue : machine.queue = task :: rest)
    (turned : job.turn host root machine world = (.running next, after)) :
    ∃ move, job.Moved (machine.taken rest) task.frame move next := by
  obtain ⟨frame, found⟩ :=
    Machine.exists_frame? ((orderly.taken queue).known _ List.mem_cons_self)
  exact ⟨_, moved_of_turn queue found turned⟩

theorem Leads.orderly {root : FrameId} {first machine : Machine ω} {start world : τ}
    {history : List (Deed ω)} (leads : job.Leads host root first start history machine world)
    (orderly : first.Orderly job.memoize []) : machine.Orderly job.memoize [] := by
  induction leads with
  | here => exact orderly
  | task _ queue turned induction =>
      obtain ⟨move, moved⟩ := exists_moved_of_turn induction queue turned
      exact moved.orderly (induction.taken queue)
  | cut _ queue newest turned induction =>
      obtain ⟨_, failure, rfl⟩ := cut_of_turn queue newest turned
      obtain ⟨frame, found, _⟩ := Machine.newestUnfinished?_eq_some newest
      exact induction.complete found failure

theorem Leads.grows {root : FrameId} {first machine : Machine ω} {start world : τ}
    {history : List (Deed ω)} (leads : job.Leads host root first start history machine world)
    (orderly : first.Orderly job.memoize []) : first.Grows machine := by
  induction leads with
  | here => exact .refl first
  | task earlier queue turned induction =>
      obtain ⟨move, moved⟩ := exists_moved_of_turn (earlier.orderly orderly) queue turned
      exact induction.trans moved.grows
  | cut _ queue newest turned induction =>
      obtain ⟨_, failure, rfl⟩ := cut_of_turn queue newest turned
      exact induction.trans (.complete _ job.memoize _ failure)

theorem Visits.orderly {root : NodeId} {position : Nat} {start world : τ}
    {history : List (Deed ω)} {machine : Machine ω}
    (visits : job.Visits host root position start history machine world) :
    machine.Orderly job.memoize [] := by
  obtain ⟨frame, first, begun, leads⟩ := visits
  exact leads.orderly (begin_orderly begun)

end Job

/-! ## Starting each frame once -/

/-- The frame that a task starts. -/
def Task.started? {ω : Type} : Task ω → Option FrameId
  | start frame => some frame
  | resume .. => none

/-- The frame that was started. -/
def Deed.started? {ω : Type} : Deed ω → Option FrameId
  | .task done => done.started?
  | .cut _ => none

/-- The frames that were started, in order. -/
def startedIn {ω : Type} (history : List (Deed ω)) : List FrameId :=
  history.filterMap Deed.started?

namespace Machine

variable {ω : Type}

/-- The frames that are to be started, in order. -/
def toStart (machine : Machine ω) : List FrameId := machine.queue.filterMap Task.started?

/-- The frames that were started and those that are to be are different ones of the
machine's. -/
def StartsOnce (machine : Machine ω) (history : List (Deed ω)) : Prop :=
  (startedIn history ++ machine.toStart).Nodup ∧
    ∀ id ∈ startedIn history ++ machine.toStart, id.number < machine.frames.size

theorem toStart_complete (machine : Machine ω) (memoize : Bool) (id : FrameId)
    (result : Match (Value ω)) :
    (machine.complete memoize id result).toStart = machine.toStart := by
  unfold complete
  split
  next waiters _ =>
    simp only [toStart, List.filterMap_append, List.filterMap_map]
    refine (congrArg _ (List.filterMap_eq_nil_iff.mpr ?_)).trans (List.append_nil _)
    exact fun _ _ => rfl
  next => rfl

end Machine

namespace Job

variable {ω ρ τ : Type} {job : Job ω ρ} {host : Host ω ρ τ}

/-- A move adds at most the frame that it opens to those that are to be started. -/
theorem Moved.toStart {machine next : Machine ω} {id : FrameId} {move : Move ω}
    (moved : job.Moved machine id move next) :
    (next.frames.size = machine.frames.size ∧ next.toStart = machine.toStart) ∨
      ∃ callee : FrameId, callee.number = machine.frames.size ∧
        next.frames.size = machine.frames.size + 1 ∧
        next.toStart = machine.toStart ++ [callee] := by
  cases moved with
  | done result =>
      exact .inl ⟨machine.size_complete job.memoize id result,
        machine.toStart_complete job.memoize id result⟩
  | answered known finished => exact .inl ⟨rfl, by simp [Machine.toStart, Task.started?]⟩
  | waiting known unfinished => exact .inl ⟨machine.size_wait _ id _, rfl⟩
  | @opened node position memory callee opened unknown entered =>
      refine .inr ⟨callee, (Machine.enter_eq_some entered).1, ?_, ?_⟩
      · simp [Machine.size_enter entered]
      · simp [Machine.toStart, Task.started?, Machine.queue_enter entered]

/-- Every turn opens one frame at most. -/
theorem Leads.size_le {root : FrameId} {first machine : Machine ω} {start world : τ}
    {history : List (Deed ω)} (leads : job.Leads host root first start history machine world)
    (orderly : first.Orderly job.memoize []) :
    machine.frames.size ≤ first.frames.size + history.length := by
  induction leads with
  | here => exact Nat.le_add_right _ _
  | task earlier queue turned induction =>
      obtain ⟨move, moved⟩ := exists_moved_of_turn (earlier.orderly orderly) queue turned
      rw [List.length_append, List.length_singleton]
      rcases moved.toStart with ⟨size, _⟩ | ⟨_, _, size, _⟩ <;>
        rw [Machine.frames_taken] at size <;> omega
  | cut _ queue newest turned induction =>
      obtain ⟨_, failure, rfl⟩ := cut_of_turn queue newest turned
      rw [Machine.size_complete, List.length_append]
      omega

theorem Leads.startsOnce {root : FrameId} {first machine : Machine ω} {start world : τ}
    {history : List (Deed ω)} (leads : job.Leads host root first start history machine world)
    (orderly : first.Orderly job.memoize []) (startsOnce : first.StartsOnce []) :
    machine.StartsOnce history := by
  induction leads with
  | here => exact startsOnce
  | @task history machine next world after task rest earlier queue turned induction =>
      obtain ⟨move, moved⟩ := exists_moved_of_turn (earlier.orderly orderly) queue turned
      have order : startedIn (history ++ [.task task]) ++ (machine.taken rest).toStart =
          startedIn history ++ machine.toStart := by
        have tasks : machine.toStart =
            [task].filterMap Task.started? ++ (machine.taken rest).toStart := by
          rw [Machine.toStart, queue, Machine.toStart, Machine.queue_taken,
            ← List.filterMap_append, List.singleton_append]
        have deeds : startedIn (history ++ [.task task]) =
            startedIn history ++ [task].filterMap Task.started? := by
          rw [startedIn, List.filterMap_append]
          rfl
        rw [deeds, tasks, List.append_assoc]
      obtain ⟨once, known⟩ := induction
      rcases moved.toStart with ⟨size, same⟩ | ⟨callee, last, size, more⟩
      · rw [Machine.StartsOnce, same, order, size]
        exact ⟨once, known⟩
      · rw [Machine.StartsOnce, more, ← List.append_assoc, order, size]
        constructor
        · refine List.nodup_append.mpr ⟨once, List.nodup_singleton callee, ?_⟩
          rintro id member other isCallee rfl
          obtain rfl := List.mem_singleton.mp isCallee
          have := known _ member
          simp only [Machine.frames_taken] at last
          omega
        · intro id member
          rcases List.mem_append.mp member with old | isCallee
          · exact Nat.lt_succ_of_lt (known id old)
          · obtain rfl := List.mem_singleton.mp isCallee
            omega
  | @cut history machine next world after stuck earlier queue newest turned induction =>
      obtain ⟨_, failure, rfl⟩ := cut_of_turn queue newest turned
      have deeds : startedIn (history ++ [.cut stuck]) = startedIn history := by
        rw [startedIn, List.filterMap_append]
        exact List.append_nil _
      rw [Machine.StartsOnce, deeds, Machine.toStart_complete, Machine.size_complete]
      exact induction

theorem Visits.startsOnce {root : NodeId} {position : Nat} {start world : τ}
    {history : List (Deed ω)} {machine : Machine ω}
    (visits : job.Visits host root position start history machine world) :
    machine.StartsOnce history := by
  obtain ⟨frame, first, begun, leads⟩ := visits
  refine leads.startsOnce (begin_orderly begun) ?_
  obtain ⟨opened, entered, rfl⟩ := exists_enter_of_begin begun
  have last := (Machine.enter_eq_some entered).1
  have size := Machine.size_enter entered
  have starts : startedIn ([] : List (Deed ω)) ++
      (opened.push (.start frame)).toStart = [frame] := by
    simp [startedIn, Machine.toStart, Machine.queue_enter entered, Machine.idle, Task.started?]
  rw [Machine.StartsOnce, starts]
  constructor
  · exact List.nodup_singleton frame
  · intro other member
    obtain rfl := List.mem_singleton.mp member
    simp only [Machine.frames_push]
    omega

/-- Wherever a run has come, each frame without a result has exactly one continuation
pending and each frame with a result at most one; only frames without a result have
waiters; and results are kept.  If results are remembered, the table leads from each
frame's spot to that frame, so no spot has two frames or is started twice.  If they are
not, the table has exactly the frames without a result, each at its own spot. -/
theorem continuations_in_one_place {root : NodeId} {position : Nat} {start world : τ}
    {history : List (Deed ω)} {machine : Machine ω}
    (visits : job.Visits host root position start history machine world) :
    (∀ id frame, machine.frame? id = some frame →
      machine.pending.count id ≤ 1 ∧
      (frame.result = none → machine.pending.count id = 1) ∧
      (frame.waiters ≠ [] → frame.result = none)) ∧
    (∀ rootFrame more later finish,
      job.Leads host rootFrame machine world more later finish →
      ∀ id result, machine.result? id = some result → later.result? id = some result) ∧
    (job.memoize = true →
      (∀ id frame, machine.frame? id = some frame → machine.table[frame.spot]? = some id) ∧
      (∀ id other frame otherFrame, machine.frame? id = some frame →
        machine.frame? other = some otherFrame → frame.spot = otherFrame.spot → id = other) ∧
      ((startedIn history).map fun id => (machine.frame? id).map Frame.spot).Nodup) ∧
    (job.memoize = false → ∀ spot id, machine.table[spot]? = some id ↔
      ∃ frame, machine.frame? id = some frame ∧ frame.spot = spot ∧ frame.result = none) := by
  have orderly := visits.orderly
  have once : machine.pending.Nodup := orderly.once
  refine ⟨?_, ?_, ?_, ?_⟩
  · intro id frame found
    refine ⟨List.nodup_iff_count_le_one.mp once id, ?_, ?_⟩
    · intro unfinished
      exact List.count_eq_one_of_mem once (orderly.awaited id frame found unfinished)
    · intro hasWaiters
      by_contra finished
      exact hasWaiters (orderly.quiet id frame found finished)
  · intro rootFrame more later finish leads id result finished
    exact (leads.grows orderly).result? finished
  · intro memoize
    have listed : ∀ id frame, machine.frame? id = some frame →
        machine.table[frame.spot]? = some id := by
      intro id frame found
      exact (orderly.listed frame.spot id).mpr ⟨frame, found, rfl, .inl memoize⟩
    have injective : ∀ id other frame otherFrame, machine.frame? id = some frame →
        machine.frame? other = some otherFrame → frame.spot = otherFrame.spot →
        id = other := by
      intro id other frame otherFrame found otherFound sameSpot
      have here := listed id frame found
      rw [sameSpot, listed other otherFrame otherFound] at here
      exact (Option.some.inj here).symm
    refine ⟨listed, injective, ?_⟩
    obtain ⟨startsOnce, known⟩ := visits.startsOnce
    refine List.Nodup.map_on ?_ (List.nodup_append.mp startsOnce).1
    intro id member other otherMember sameSpot
    obtain ⟨frame, found⟩ :=
      Machine.exists_frame? (known id (List.mem_append_left _ member))
    obtain ⟨otherFrame, otherFound⟩ :=
      Machine.exists_frame? (known other (List.mem_append_left _ otherMember))
    rw [found, otherFound] at sameSpot
    exact injective id other frame otherFrame found otherFound (Option.some.inj sameSpot)
  · intro memoize spot id
    rw [orderly.listed, memoize]
    simp

/-- A job with one node, which calls itself where it starts. -/
def circular (memoize : Bool) : Job Empty Empty :=
  { grammar :=
      { (Grammar.empty 0 .tokens : Grammar Empty Empty) with
        slots := #[.ready ⟨"circle", [⟨0, capacity_pos⟩], "circle", none,
          .ofAnswer ⟨0, capacity_pos⟩ fun _ m => .done m⟩] }
    input := .tokens #[]
    memoize
    limit := none }

theorem circular_visits (memoize : Bool) :
    ∃ machine, (circular memoize).Visits ⟨Empty.elim, fun _ _ => ()⟩ ⟨0, capacity_pos⟩ 0 ()
      [.task (.start ⟨0, capacity_pos⟩), .cut ⟨0, capacity_pos⟩] machine () :=
  ⟨_, ⟨0, capacity_pos⟩, _, rfl,
    @Leads.cut _ _ _ _ _ _ _ _ [.task (.start ⟨0, capacity_pos⟩)] _ _ _ _ _
      (.task .here rfl
        (turn_task rfl rfl rfl (.waiting Std.HashMap.getElem?_insert_self rfl)))
      rfl rfl rfl⟩

/-- A frame that waits for itself is failed, and what it was to do is still pending. -/
theorem circular_continuation_in_one_place :
    ∃ machine : Machine Empty, (∃ history, (circular true).Visits
        ⟨Empty.elim, fun _ _ => ()⟩ ⟨0, capacity_pos⟩ 0 () history machine ()) ∧
      ∀ id frame, machine.frame? id = some frame → machine.pending.count id ≤ 1 := by
  obtain ⟨machine, visits⟩ := circular_visits true
  refine ⟨machine, ⟨_, visits⟩, ?_⟩
  intro id frame found
  exact ((continuations_in_one_place visits).1 id frame found).1

end Job

end Packrat
