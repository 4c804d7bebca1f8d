import Packrat.Proofs.Scheduler.Spots
import Mathlib.Algebra.GroupWithZero.Nat

/-!
# How much a run does

A frame has one continuation at a time, and its matcher makes only so many calls, so the
tasks of a run are bounded by the frames that it opens.  Frames are failed to break a
circle only as long as they have no result, so each of them once at most.  Together this
bounds the length of a run by the number of its frames.
-/

namespace Packrat

/-- The frame that was failed to break a circle. -/
def Deed.failed? {ω : Type} : Deed ω → Option FrameId
  | task _ => none
  | cut stuck => some stuck

/-- The frames that were failed to break circles, in order. -/
def failedIn {ω : Type} (history : List (Deed ω)) : List FrameId :=
  history.filterMap Deed.failed?

section FailedIn

variable {ω : Type} (history : List (Deed ω))

@[simp] theorem failedIn_task (task : Task ω) :
    failedIn (history ++ [.task task]) = failedIn history := by
  simp [failedIn, Deed.failed?]

@[simp] theorem failedIn_cut (stuck : FrameId) :
    failedIn (history ++ [.cut stuck]) = failedIn history ++ [stuck] := by
  simp [failedIn, Deed.failed?]

end FailedIn

/-- What the continuations that are pending cost together. -/
def Machine.load {ω : Type} (machine : Machine ω) (cost : FrameId → Nat) : Nat :=
  (machine.pending.map cost).sum

namespace Machine

variable {ω : Type} {machine : Machine ω}

theorem load_of_perm {pending : List FrameId} (perm : machine.pending.Perm pending)
    (cost : FrameId → Nat) : machine.load cost = (pending.map cost).sum :=
  (perm.map cost).sum_eq

theorem load_congr {cost costThen : FrameId → Nat}
    (same : ∀ id ∈ machine.pending, costThen id = cost id) :
    machine.load costThen = machine.load cost :=
  congrArg List.sum (List.map_congr_left same)

theorem load_taken {task : Task ω} {rest : List (Task ω)} (queue : machine.queue = task :: rest)
    (cost : FrameId → Nat) :
    machine.load cost = cost task.frame + (machine.taken rest).load cost := by
  unfold load
  rw [pending_taken queue]
  rfl

theorem length_le_size {ids : List FrameId} (once : ids.Nodup)
    (known : ∀ id ∈ ids, id.number < machine.frames.size) :
    ids.length ≤ machine.frames.size := by
  rw [← List.toFinset_card_of_nodup once, ← Finset.card_range machine.frames.size]
  refine Finset.card_le_card_of_injOn Index.number ?_ fun _ _ _ _ => Index.ext
  intro id member
  exact Finset.mem_coe.mpr (Finset.mem_range.mpr (known id (List.mem_toFinset.mp member)))

theorem pending_complete_perm (machine : Machine ω) (memoize : Bool) (id : FrameId)
    (result : Match (Value ω)) :
    (machine.complete memoize id result).pending.Perm machine.pending := by
  rcases machine.complete_eq_or_unfinished memoize id result with unchanged | ⟨_, _, found⟩
  · rw [unchanged]
  · exact pending_complete found memoize result

end Machine

namespace Job

variable {ω ρ τ : Type} {job : Job ω ρ} {host : Host ω ρ τ} {allowed : NodeId → Prop}
  {most : Nat}

/-- The continuation of each frame makes so many calls at most. -/
abbrev Paced (job : Job ω ρ) (allowed : NodeId → Prop) (calls : FrameId → Nat)
    (machine : Machine ω) : Prop :=
  job.Prepared (fun id => job.Runs allowed (calls id))
    (fun spot result => result.Inside spot.position job.input.length) machine

/-- What the move of a frame does to the continuations that are pending and to the calls
that they have left.  A match is the end of the frame's own continuation.  A call is one of
those that it had left, and a frame that is opened for it has all of its own before it. -/
inductive Spends (machine : Machine ω) (id : FrameId) (most : Nat)
    (calls callsThen : FrameId → Nat) : Move ω → Machine ω → Prop where
  | done {result : Match (Value ω)} {next : Machine ω} :
      next.pending.Perm machine.pending → next.frames.size = machine.frames.size →
      Spends machine id most calls callsThen (.done result) next
  | called {node : NodeId} {position : Nat} {memory : Memory ω} {next : Machine ω} :
      calls id = callsThen id + 1 → next.pending.Perm (id :: machine.pending) →
      next.frames.size = machine.frames.size →
      Spends machine id most calls callsThen (.call node position memory) next
  | opened {node : NodeId} {position : Nat} {memory : Memory ω} {next : Machine ω}
      (callee : FrameId) :
      calls id = callsThen id + 1 → callee.number = machine.frames.size →
      callsThen callee = most → next.pending.Perm (callee :: id :: machine.pending) →
      next.frames.size = machine.frames.size + 1 →
      Spends machine id most calls callsThen (.call node position memory) next

/-- Whoever is pending after a move is the frame that moved, was pending before, or is new. -/
theorem Spends.mem_pending {machine next : Machine ω} {id other : FrameId}
    {calls callsThen : FrameId → Nat} {move : Move ω}
    (spends : Spends machine id most calls callsThen move next) (member : other ∈ next.pending)
    (known : other.number < machine.frames.size) : other ∈ id :: machine.pending := by
  cases spends with
  | done pending => exact List.mem_cons_of_mem id (pending.mem_iff.mp member)
  | called _ pending => exact pending.mem_iff.mp member
  | opened callee _ last _ pending =>
      rcases List.mem_cons.mp (pending.mem_iff.mp member) with rfl | old
      · omega
      · exact old

theorem Moved.spends {machine next : Machine ω} {id : FrameId} {move : Move ω}
    {calls callsThen : FrameId → Nat} (moved : job.Moved machine id move next)
    (orderly : machine.Orderly job.memoize [id])
    (call : ∀ node position memory, move = .call node position memory →
      calls id = callsThen id + 1 ∧
        ∀ callee : FrameId, callee.number = machine.frames.size → callsThen callee = most) :
    Spends machine id most calls callsThen move next := by
  cases moved with
  | done result =>
      exact .done (machine.pending_complete_perm job.memoize id result)
        (machine.size_complete job.memoize id result)
  | answered =>
      exact .called (call _ _ _ rfl).1 (Machine.pending_push machine (.resume id _ _)) rfl
  | waiting known unfinished =>
      obtain ⟨frame, found, _⟩ := (orderly.listed _ _).mp known
      exact .called (call _ _ _ rfl).1 (Machine.pending_wait (Machine.frame?_lt found) id _)
        (machine.size_wait _ id _)
  | @opened node position memory callee opened unknown entered =>
      have last := (Machine.enter_eq_some entered).1
      have size := Machine.size_enter entered
      have waits : (opened.wait callee id memory).pending.Perm (id :: opened.pending) :=
        Machine.pending_wait (by omega) id memory
      rw [Machine.pending_enter entered] at waits
      refine .opened callee (call _ _ _ rfl).1 last ((call _ _ _ rfl).2 callee last)
        ((Machine.pending_push _ (.start callee)).trans (waits.cons callee)) ?_
      rw [Machine.frames_push, Machine.size_wait, size]

/-- Frame by frame, the calls that are left after a call of `id` that leaves it `fewer`. -/
def callsAfter (machine : Machine ω) (id : FrameId) (fewer most : Nat) (calls : FrameId → Nat)
    (other : FrameId) : Nat :=
  if other = id then fewer else if other.number = machine.frames.size then most else calls other

/-- Every move takes some of the calls that were left. -/
theorem Moved.paced {machine next : Machine ω} {id : FrameId} {frame : Frame ω} {move : Move ω}
    {calls : FrameId → Nat} {start : Nat} (moved : job.Moved machine id move next)
    (bounded : job.Bounded allowed most) (orderly : machine.Orderly job.memoize [id])
    (obeyed : (job.extent allowed start most bounded).Obeyed machine)
    (paced : job.Paced allowed calls machine) (found : machine.frame? id = some frame)
    (runs : job.Runs allowed (calls id) frame.spot move.toStep) :
    ∃ callsThen, job.Paced allowed callsThen next ∧
      (∀ other ∈ machine.pending, callsThen other = calls other) ∧
      Spends machine id most calls callsThen move next := by
  have covers := obeyed.spots id frame found
  cases move with
  | done result =>
      refine ⟨calls, moved.prepared orderly paced found obeyed.results ?_ nofun nofun,
        fun _ _ => rfl, moved.spends orderly nofun⟩
      rintro _ ⟨⟩ _
      exact Runs.inside runs
  | call node position memory =>
      obtain ⟨fewer, isCalls, each⟩ := Runs.resume runs
      -- Pending frames are older than the one that is opened and have no continuation that
      -- is at work, so nothing changes for them.
      have own : callsAfter machine id fewer most calls id = fewer := if_pos rfl
      have others : ∀ other ∈ machine.pending,
          callsAfter machine id fewer most calls other = calls other := by
        intro other member
        have known := orderly.known other (List.mem_cons_of_mem id member)
        have notId : other ≠ id := by
          rintro rfl
          exact (List.nodup_cons.mp orderly.once).1 member
        rw [callsAfter, if_neg notId, if_neg (Nat.ne_of_lt known)]
      have opened : ∀ callee : FrameId, callee.number = machine.frames.size →
          callsAfter machine id fewer most calls callee = most := by
        intro callee last
        have notId : callee ≠ id := by
          rintro rfl
          exact Nat.ne_of_lt (Machine.frame?_lt found) last
        rw [callsAfter, if_neg notId, if_pos last]
      have pacedThen : job.Paced allowed (callsAfter machine id fewer most calls) machine := by
        apply paced.mono
        intro other member spot step otherRuns
        rw [others other member]
        exact otherRuns
      refine ⟨callsAfter machine id fewer most calls,
        moved.prepared orderly pacedThen found obeyed.results nofun ?_ ?_, others,
        moved.spends orderly ?_⟩
      · rintro _ _ _ ⟨⟩ answer answered
        rw [own]
        exact each answer answered id
      · rintro _ _ _ ⟨⟩ callee last
        rw [opened callee last]
        exact bounded.start (covers.call runs) callee
      · rintro _ _ _ ⟨⟩
        exact ⟨by rw [own, isCalls], opened⟩

theorem Paced.task {root : FrameId} {machine next : Machine ω} {world after : τ} {task : Task ω}
    {rest : List (Task ω)} {calls : FrameId → Nat} {start : Nat}
    (paced : job.Paced allowed calls machine) (bounded : job.Bounded allowed most)
    (orderly : machine.Orderly job.memoize [])
    (obeyed : (job.extent allowed start most bounded).Obeyed machine)
    (queue : machine.queue = task :: rest)
    (turned : job.turn host root machine world = (.running next, after)) :
    ∃ move callsThen, job.Moved (machine.taken rest) task.frame move next ∧
      job.Paced allowed callsThen next ∧
      (∀ other ∈ (machine.taken rest).pending, callsThen other = calls other) ∧
      Spends (machine.taken rest) task.frame most calls callsThen move next := by
  have held := orderly.taken queue
  obtain ⟨frame, found⟩ := Machine.exists_frame? (held.known _ List.mem_cons_self)
  have moved := moved_of_turn queue found turned
  obtain ⟨callsThen, pacedThen⟩ := moved.paced bounded held (obeyed.taken queue)
    (paced.taken queue) found
    ((paced.tasks task (queue ▸ List.mem_cons_self) frame found).settle host _)
  exact ⟨_, callsThen, moved, pacedThen⟩

theorem Spends.load {machine next : Machine ω} {id : FrameId} {calls callsThen : FrameId → Nat}
    {move : Move ω} (spends : Spends machine id most calls callsThen move next)
    (same : ∀ other ∈ machine.pending, callsThen other = calls other) :
    next.load (callsThen · + 1) + 1 + (most + 1) * machine.frames.size ≤
      calls id + 1 + machine.load (calls · + 1) + (most + 1) * next.frames.size := by
  have others : machine.load (callsThen · + 1) = machine.load (calls · + 1) :=
    Machine.load_congr fun other member => congrArg (· + 1) (same other member)
  cases spends with
  | done pending size =>
      rw [Machine.load_of_perm pending, size, ← others]
      unfold Machine.load
      omega
  | called isCalls pending size =>
      rw [Machine.load_of_perm pending, List.map_cons, List.sum_cons, size, ← others]
      unfold Machine.load
      omega
  | opened callee isCalls _ isMost pending size =>
      rw [Machine.load_of_perm pending, List.map_cons, List.sum_cons, List.map_cons,
        List.sum_cons, size, ← others, isMost, Nat.mul_succ]
      unfold Machine.load
      omega

/-- The tasks of a run are bounded by its frames. -/
theorem Visits.paced {root : NodeId} {position : Nat} {start world : τ}
    {history : List (Deed ω)} {machine : Machine ω}
    (visits : job.Visits host root position start history machine world)
    (bounded : job.Bounded allowed most) (isAllowed : allowed root)
    (inside : position ≤ job.input.length) :
    ∃ calls, job.Paced allowed calls machine ∧
      history.length + machine.load (calls · + 1) ≤
        (most + 1) * machine.frames.size + (failedIn history).length := by
  obtain ⟨frame, first, begun, leads⟩ := visits
  have visits : ∀ {history machine world},
      job.Leads host frame first start history machine world →
      job.Visits host root position start history machine world :=
    fun leads => ⟨frame, first, begun, leads⟩
  -- What was done and what is pending, each with the calls that it has left, never cost more
  -- than the frames so far have to spend.
  induction leads with
  | here =>
      have obeyed := (visits .here).extent bounded isAllowed inside
      refine ⟨fun _ => most, obeyed.prepared.mono fun _ _ _ _ goes => goes.2, ?_⟩
      rw [Machine.load_of_perm (pending_begin begun), size_begin begun]
      simp [failedIn]
  | task earlier queue turned induction =>
      obtain ⟨calls, paced, enough⟩ := induction
      obtain ⟨move, callsThen, _, pacedThen, same, spends⟩ := paced.task bounded
        (visits earlier).orderly ((visits earlier).extent bounded isAllowed inside) queue turned
      refine ⟨callsThen, pacedThen, ?_⟩
      have less := spends.load same
      rw [Machine.frames_taken] at less
      rw [Machine.load_taken queue] at enough
      rw [List.length_append, List.length_singleton, failedIn_task]
      omega
  | cut earlier queue newest turned induction =>
      obtain ⟨calls, paced, enough⟩ := induction
      obtain ⟨_, _, own, found, _, rfl⟩ := failed_of_turn queue newest turned
      have covers := ((visits earlier).extent bounded isAllowed inside).spots _ own found
      refine ⟨calls, paced.complete found fun _ => covers.leftRecursion, ?_⟩
      rw [Machine.load_of_perm (Machine.pending_complete_perm _ _ _ _), Machine.size_complete,
        List.length_append, List.length_singleton, failedIn_cut, List.length_append,
        List.length_singleton]
      unfold Machine.load at enough
      omega

/-- No frame is failed twice, and a frame that is failed keeps having a result. -/
theorem Leads.failed_once {root : FrameId} {first machine : Machine ω} {start world : τ}
    {history : List (Deed ω)} (leads : job.Leads host root first start history machine world)
    (orderly : first.Orderly job.memoize []) :
    (failedIn history).Nodup ∧
      ∀ id ∈ failedIn history, ∃ result, machine.result? id = some result := by
  induction leads with
  | here => exact ⟨.nil, nofun⟩
  | task earlier queue turned induction =>
      obtain ⟨once, finished⟩ := induction
      obtain ⟨move, moved⟩ := exists_moved_of_turn (earlier.orderly orderly) queue turned
      rw [failedIn_task]
      refine ⟨once, fun id member => ?_⟩
      obtain ⟨result, hasResult⟩ := finished id member
      exact ⟨result, moved.grows.result? hasResult⟩
  | @cut _ machine _ _ _ stuck earlier queue newest turned induction =>
      obtain ⟨once, finished⟩ := induction
      obtain ⟨_, _, frame, found, unfinished, rfl⟩ := failed_of_turn queue newest turned
      rw [failedIn_cut]
      constructor
      · refine once.append (List.nodup_singleton stuck) ?_
        rintro id member isStuck
        obtain rfl := List.mem_singleton.mp isStuck
        obtain ⟨result, hasResult⟩ := finished id member
        rw [Machine.result?_eq found, unfinished] at hasResult
        cases hasResult
      · intro id member
        rcases List.mem_append.mp member with old | new
        · obtain ⟨result, hasResult⟩ := finished id old
          exact ⟨result, (Machine.Grows.complete _ _ _ _).result? hasResult⟩
        · obtain rfl := List.mem_singleton.mp new
          obtain ⟨spot, outcome, waiters⟩ := frame
          cases unfinished
          have there := Machine.frame?_complete found job.memoize
            (leftRecursion (Frame.spot ⟨spot, none, waiters⟩).position) id
          rw [if_pos rfl] at there
          exact ⟨_, Machine.result?_eq there⟩

theorem Visits.failed_le {root : NodeId} {position : Nat} {start world : τ}
    {history : List (Deed ω)} {machine : Machine ω}
    (visits : job.Visits host root position start history machine world) :
    (failedIn history).length ≤ machine.frames.size := by
  obtain ⟨frame, first, begun, leads⟩ := visits
  obtain ⟨once, finished⟩ := leads.failed_once (begin_orderly begun)
  apply Machine.length_le_size once
  intro id member
  obtain ⟨result, hasResult⟩ := finished id member
  obtain ⟨own, found, _⟩ := Option.bind_eq_some_iff.mp hasResult
  exact Machine.frame?_lt found

/-- A run takes only so many turns for each frame that it opens. -/
theorem Visits.length_le {root : NodeId} {position : Nat} {start world : τ}
    {history : List (Deed ω)} {machine : Machine ω}
    (visits : job.Visits host root position start history machine world)
    (bounded : job.Bounded allowed most) (isAllowed : allowed root)
    (inside : position ≤ job.input.length) :
    history.length ≤ (most + 2) * machine.frames.size := by
  obtain ⟨calls, _, enough⟩ := visits.paced bounded isAllowed inside
  have := visits.failed_le
  calc history.length ≤ (most + 1) * machine.frames.size + machine.frames.size := by omega
    _ = (most + 2) * machine.frames.size := by rw [← Nat.succ_mul]

end Job

end Packrat
