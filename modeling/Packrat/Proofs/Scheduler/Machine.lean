import Packrat.Scheduler.Machine
import Mathlib.Data.List.Perm.Basic

/-!
# What the operations of a machine change

Every operation is described by the frames, the table and the queue it leaves.  The
continuations that are pending, in the queue or with a frame, are counted by `pending`,
and each operation changes them by a permutation and at most one new entry.
-/

namespace Packrat

/-- Two frames whose indices are equal numbers are the same frame. -/
theorem Index.ne_iff {arena : Arena} {i j : Index arena} :
    i ≠ j ↔ i.number ≠ j.number :=
  ⟨fun different same => different (Index.ext same),
    fun different same => different (congrArg Index.number same)⟩

/-- The index of a number, which is counted from the start again where an arena is full. -/
def Index.ofNat {arena : Arena} (number : Nat) : Index arena :=
  ⟨number % capacity, Nat.mod_lt number capacity_pos⟩

@[simp] theorem Index.ofNat_number {arena : Arena} (index : Index arena) :
    ofNat index.number = index :=
  Index.ext (Nat.mod_eq_of_lt index.inRange)

namespace Machine

variable {ω : Type}

/-- The frame of an index. -/
def frame? (machine : Machine ω) (id : FrameId) : Option (Frame ω) :=
  machine.frames[id.number]?

/-- The result of a frame. -/
def result? (machine : Machine ω) (id : FrameId) : Option (Match (Value ω)) :=
  (machine.frame? id).bind Frame.result

/-- Who has a continuation that is pending: for every task its frame, and for every
waiter of a frame the waiter. -/
def pending (machine : Machine ω) : List FrameId :=
  machine.queue.map Task.frame ++
    machine.frames.toList.flatMap fun frame => frame.waiters.map Prod.fst

theorem frame?_lt {machine : Machine ω} {id : FrameId} {frame : Frame ω}
    (found : machine.frame? id = some frame) : id.number < machine.frames.size :=
  (Array.getElem?_eq_some_iff.mp found).choose

theorem exists_frame? {machine : Machine ω} {id : FrameId}
    (small : id.number < machine.frames.size) : ∃ frame, machine.frame? id = some frame :=
  ⟨machine.frames[id.number], Array.getElem?_eq_getElem small⟩

theorem result?_eq {machine : Machine ω} {id : FrameId} {frame : Frame ω}
    (found : machine.frame? id = some frame) : machine.result? id = frame.result := by
  rw [result?, found]
  rfl

theorem mem_pending_of_task {machine : Machine ω} {task : Task ω}
    (member : task ∈ machine.queue) : task.frame ∈ machine.pending :=
  List.mem_append_left _ (List.mem_map_of_mem member)

theorem mem_pending_of_waiter {machine : Machine ω} {id waiter : FrameId}
    {frame : Frame ω} {memory : Memory ω} (found : machine.frame? id = some frame)
    (member : (waiter, memory) ∈ frame.waiters) : waiter ∈ machine.pending := by
  refine List.mem_append_right _ (List.mem_flatMap.mpr ⟨frame, ?_, ?_⟩)
  · exact Array.mem_toList_iff.mpr (Array.mem_of_getElem? found)
  · exact List.mem_map_of_mem (f := Prod.fst) member

/-! ## Adding a task -/

@[simp] theorem frame?_push (machine : Machine ω) (task : Task ω) (id : FrameId) :
    (machine.push task).frame? id = machine.frame? id := rfl

@[simp] theorem frames_push (machine : Machine ω) (task : Task ω) :
    (machine.push task).frames = machine.frames := rfl

@[simp] theorem table_push (machine : Machine ω) (task : Task ω) :
    (machine.push task).table = machine.table := rfl

@[simp] theorem queue_push (machine : Machine ω) (task : Task ω) :
    (machine.push task).queue = machine.queue ++ [task] := rfl

theorem pending_push (machine : Machine ω) (task : Task ω) :
    (machine.push task).pending.Perm (task.frame :: machine.pending) := by
  simp only [pending, queue_push, frames_push, List.map_append, List.map_cons,
    List.map_nil, List.append_assoc, List.singleton_append]
  exact List.perm_middle

/-! ## Opening a frame -/

theorem enter_eq_some {machine opened : Machine ω} {spot : Spot} {id : FrameId}
    (entered : machine.enter spot = some (id, opened)) :
    id.number = machine.frames.size ∧
      opened = { machine with
        frames := machine.frames.push ⟨spot, none, []⟩
        table := machine.table.insert spot id } := by
  obtain ⟨index, next, pairEq⟩ := Option.map_eq_some_iff.mp entered
  cases pairEq
  exact ⟨Index.next?_eq_some_iff.mp next, rfl⟩

theorem enter_eq_none_iff {machine : Machine ω} {spot : Spot} :
    machine.enter spot = none ↔ capacity ≤ machine.frames.size := by
  unfold enter Index.next?
  split <;> simp <;> omega

section Enter

variable {machine opened : Machine ω} {spot : Spot} {id : FrameId}
  (entered : machine.enter spot = some (id, opened))

include entered

theorem frame?_enter (other : FrameId) :
    opened.frame? other = if other = id then some ⟨spot, none, []⟩ else machine.frame? other := by
  obtain ⟨last, rfl⟩ := enter_eq_some entered
  by_cases same : other = id
  · subst same
    simp [frame?, last]
  · have different : other.number ≠ machine.frames.size := by
      rw [← last]
      exact Index.ne_iff.mp same
    simp [frame?, same, Array.getElem?_push, different]

theorem size_enter : opened.frames.size = machine.frames.size + 1 := by
  obtain ⟨_, rfl⟩ := enter_eq_some entered
  simp

theorem table_enter (other : Spot) :
    opened.table[other]? = if other = spot then some id else machine.table[other]? := by
  obtain ⟨_, rfl⟩ := enter_eq_some entered
  by_cases same : other = spot
  · simp [same]
  · simp [Std.HashMap.getElem?_insert, same, Ne.symm same]

theorem queue_enter : opened.queue = machine.queue := by
  obtain ⟨_, rfl⟩ := enter_eq_some entered
  rfl

theorem pending_enter : opened.pending = machine.pending := by
  obtain ⟨_, rfl⟩ := enter_eq_some entered
  simp [pending]

end Enter

/-! ## Waiting for a frame -/

theorem frame?_wait (machine : Machine ω) (callee waiter : FrameId) (memory : Memory ω)
    (id : FrameId) :
    (machine.wait callee waiter memory).frame? id =
      if id = callee then
        (machine.frame? id).map fun frame =>
          { frame with waiters := frame.waiters ++ [(waiter, memory)] }
      else machine.frame? id := by
  by_cases same : id = callee
  · subst same
    simp [wait, frame?, Array.getElem?_modify]
  · have different : callee.number ≠ id.number := Index.ne_iff.mp (Ne.symm same)
    simp [wait, frame?, Array.getElem?_modify, different, same]

@[simp] theorem size_wait (machine : Machine ω) (callee waiter : FrameId)
    (memory : Memory ω) :
    (machine.wait callee waiter memory).frames.size = machine.frames.size := by
  simp [wait]

@[simp] theorem table_wait (machine : Machine ω) (callee waiter : FrameId)
    (memory : Memory ω) : (machine.wait callee waiter memory).table = machine.table := rfl

@[simp] theorem queue_wait (machine : Machine ω) (callee waiter : FrameId)
    (memory : Memory ω) : (machine.wait callee waiter memory).queue = machine.queue := rfl

/-- The frames after a call for which a frame is opened. -/
theorem frame?_opened {machine opened : Machine ω} {spot : Spot} {callee : FrameId}
    (entered : machine.enter spot = some (callee, opened)) (waiter : FrameId)
    (memory : Memory ω) (task : Task ω) (id : FrameId) :
    ((opened.wait callee waiter memory).push task).frame? id =
      if id = callee then some ⟨spot, none, [(waiter, memory)]⟩ else machine.frame? id := by
  rw [frame?_push, frame?_wait, frame?_enter entered]
  by_cases same : id = callee
  · simp [same]
  · simp [same]

theorem pending_wait {machine : Machine ω} {callee : FrameId}
    (present : callee.number < machine.frames.size) (waiter : FrameId)
    (memory : Memory ω) :
    (machine.wait callee waiter memory).pending.Perm (waiter :: machine.pending) := by
  have inList : callee.number < machine.frames.toList.length := by simpa using present
  obtain ⟨before, after, whole, _, changed⟩ :=
    @List.exists_of_set _ callee.number
      { machine.frames.toList[callee.number] with
        waiters := machine.frames.toList[callee.number].waiters ++ [(waiter, memory)] }
      machine.frames.toList inList
  have frames : (machine.wait callee waiter memory).frames.toList =
      machine.frames.toList.set callee.number
        { machine.frames.toList[callee.number] with
          waiters :=
            machine.frames.toList[callee.number].waiters ++ [(waiter, memory)] } := by
    simp [wait, List.modify_eq_set_getElem?, List.getElem?_eq_getElem inList]
  rw [List.perm_iff_count]
  intro id
  have before_count := congrArg (fun frames : List (Frame ω) =>
    (frames.flatMap fun frame => frame.waiters.map Prod.fst).count id) whole
  simp only [pending, frames, changed, queue_wait]
  simp only [List.flatMap_append, List.flatMap_cons, List.count_append, List.map_append,
    List.map_cons, List.map_nil, List.count_cons, List.count_nil] at before_count ⊢
  omega

/-! ## Finishing a frame -/

theorem complete_of_finished {machine : Machine ω} {id : FrameId} {frame : Frame ω}
    {first : Match (Value ω)} (found : machine.frame? id = some frame)
    (finished : frame.result = some first) (memoize : Bool) (result : Match (Value ω)) :
    machine.complete memoize id result = machine := by
  obtain ⟨spot, outcome, waiters⟩ := frame
  cases finished
  unfold complete
  rw [show machine.frames[id.number]? = _ from found]

/-- Only a frame without a result is completed. -/
theorem complete_eq_or_unfinished (machine : Machine ω) (memoize : Bool) (id : FrameId)
    (result : Match (Value ω)) :
    machine.complete memoize id result = machine ∨
      ∃ spot waiters, machine.frame? id = some ⟨spot, none, waiters⟩ := by
  cases found : machine.frame? id with
  | none =>
      left
      unfold complete
      rw [show machine.frames[id.number]? = none from found]
  | some frame =>
      obtain ⟨spot, outcome, waiters⟩ := frame
      cases outcome with
      | some first => exact .inl (complete_of_finished found rfl memoize result)
      | none => exact .inr ⟨spot, waiters, rfl⟩

section Complete

variable {machine : Machine ω} {id : FrameId} {spot : Spot}
  {waiters : List (FrameId × Memory ω)}
  (found : machine.frame? id = some ⟨spot, none, waiters⟩)
  (memoize : Bool) (result : Match (Value ω))

include found

theorem complete_of_unfinished :
    machine.complete memoize id result =
      { machine with
        frames := machine.frames.setIfInBounds id.number ⟨spot, some result, []⟩
        table := if memoize then machine.table else machine.table.erase spot
        queue := machine.queue ++
          waiters.map fun (waiter, memory) => .resume waiter memory result } := by
  unfold complete
  rw [show machine.frames[id.number]? = _ from found]

theorem frame?_complete (other : FrameId) :
    (machine.complete memoize id result).frame? other =
      if other = id then some ⟨spot, some result, []⟩ else machine.frame? other := by
  rw [complete_of_unfinished found]
  by_cases same : other = id
  · subst same
    simp [frame?, frame?_lt found]
  · have different : id.number ≠ other.number := Index.ne_iff.mp (Ne.symm same)
    simp [frame?, different, same]

theorem queue_complete :
    (machine.complete memoize id result).queue =
      machine.queue ++
        waiters.map fun (waiter, memory) => .resume waiter memory result := by
  rw [complete_of_unfinished found]

theorem table_complete (other : Spot) :
    (machine.complete memoize id result).table[other]? =
      if memoize = false ∧ other = spot then none else machine.table[other]? := by
  rw [complete_of_unfinished found]
  cases memoize with
  | true => simp
  | false =>
      by_cases same : other = spot
      · simp [same]
      · simp [Std.HashMap.getElem?_erase, same, Ne.symm same]

theorem pending_complete :
    (machine.complete memoize id result).pending.Perm machine.pending := by
  have inList : id.number < machine.frames.toList.length := by
    simpa using frame?_lt found
  obtain ⟨before, after, whole, _, changed⟩ :=
    @List.exists_of_set _ id.number (⟨spot, some result, []⟩ : Frame ω)
      machine.frames.toList inList
  have here : machine.frames.toList[id.number] = ⟨spot, none, waiters⟩ := by
    have := (Array.getElem?_eq_some_iff.mp found).choose_spec
    simpa using this
  rw [here] at whole
  rw [List.perm_iff_count]
  intro other
  have before_count := congrArg (fun frames : List (Frame ω) =>
    (frames.flatMap fun frame => frame.waiters.map Prod.fst).count other) whole
  have woken : (waiters.map fun (waiter, memory) =>
      Task.resume waiter memory result).map Task.frame = waiters.map Prod.fst := by
    rw [List.map_map]
    rfl
  rw [complete_of_unfinished found]
  simp only [pending, Array.toList_setIfInBounds, changed, List.map_append, woken]
  simp only [List.flatMap_append, List.flatMap_cons, List.count_append,
    List.map_nil, List.count_nil] at before_count ⊢
  omega

end Complete

@[simp] theorem size_complete (machine : Machine ω) (memoize : Bool) (id : FrameId)
    (result : Match (Value ω)) :
    (machine.complete memoize id result).frames.size = machine.frames.size := by
  unfold complete
  split <;> simp

/-! ## The newest unfinished frame -/

theorem lastUnfinished?_eq_some {machine : Machine ω} {count : Nat} {id : FrameId}
    (found : machine.lastUnfinished? count = some id) :
    ∃ frame, machine.frame? id = some frame ∧ frame.result = none := by
  induction count with
  | zero => cases found
  | succ count induction =>
      rw [lastUnfinished?] at found
      split at found
      next unfinished =>
        have number := Index.next?_eq_some_iff.mp found
        obtain ⟨frame, here, isNone⟩ := (Option.any_eq_true _ _).mp unfinished
        refine ⟨frame, ?_, Option.isNone_iff_eq_none.mp isNone⟩
        rw [frame?, number]
        exact here
      next => exact induction found

theorem newestUnfinished?_eq_some {machine : Machine ω} {id : FrameId}
    (found : machine.newestUnfinished? = some id) :
    ∃ frame, machine.frame? id = some frame ∧ frame.result = none :=
  lastUnfinished?_eq_some found

/-- If the last frame has no result, it is the newest. -/
theorem newestUnfinished?_eq_last {machine : Machine ω} {id : FrameId} {frame : Frame ω}
    (last : machine.frames.size = id.number + 1) (found : machine.frame? id = some frame)
    (unfinished : frame.result = none) : machine.newestUnfinished? = some id := by
  unfold newestUnfinished?
  rw [last, lastUnfinished?, show machine.frames[id.number]? = some frame from found]
  simp only [Option.any_some, unfinished, Option.isNone_none, if_true]
  exact Index.next?_eq_some_iff.mpr rfl

theorem lastUnfinished?_ne_none {machine : Machine ω} {count : Nat} {id : FrameId}
    {frame : Frame ω} (small : count ≤ capacity) (among : id.number < count)
    (found : machine.frame? id = some frame) (unfinished : frame.result = none) :
    machine.lastUnfinished? count ≠ none := by
  induction count with
  | zero => omega
  | succ count induction =>
      rw [lastUnfinished?]
      split
      next =>
        intro none
        unfold Index.next? at none
        rw [dif_pos (by omega)] at none
        cases none
      next finished =>
        refine induction (by omega) ?_
        have different : id.number ≠ count := by
          rintro rfl
          rw [show machine.frames[id.number]? = _ from found] at finished
          simp [unfinished] at finished
        omega

/-- As long as some frame has no result, there is a newest one. -/
theorem newestUnfinished?_ne_none {machine : Machine ω} {id : FrameId} {frame : Frame ω}
    (small : machine.frames.size ≤ capacity) (found : machine.frame? id = some frame)
    (unfinished : frame.result = none) : machine.newestUnfinished? ≠ none :=
  lastUnfinished?_ne_none small (frame?_lt found) found unfinished

end Machine

end Packrat
