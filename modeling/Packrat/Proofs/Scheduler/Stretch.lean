import Packrat.Proofs.Scheduler.Effort

/-!
# Between two broken circles

As long as no frame is failed, what a run opens is a tree: a frame that is opened hangs on
the one that calls it and waits for it.  Frames that hang on each other are for different
spots, so the tree is no deeper than there are spots, and it branches as often as a
matcher calls.  This bounds what a run opens in terms of how often it breaks a circle,
even if results are not kept.
-/

namespace Packrat

variable {ω ρ τ : Type}

namespace Job

variable {job : Job ω ρ} {host : Host ω ρ τ} {allowed : NodeId → Prop} {most : Nat}

/-- `depth` says of each frame how far below the frames that were there when a circle was
last broken it was opened.  Such a frame has no result as long as anything is to be done
for it, and as long as it has none, a frame one above it waits for it. -/
structure Hangs (depth : FrameId → Nat) (held : List FrameId) (machine : Machine ω) : Prop where
  fresh : ∀ id ∈ held ++ machine.pending, 0 < depth id → machine.result? id = none
  awaited : ∀ id frame, machine.frame? id = some frame → frame.result = none → 0 < depth id →
    ∃ waiter memory, (waiter, memory) ∈ frame.waiters ∧ depth id = depth waiter + 1

/-- How deep frames hang after a move of `id`, which one that it opens hangs on. -/
def depthAfter (machine : Machine ω) (id : FrameId) (depth : FrameId → Nat)
    (other : FrameId) : Nat :=
  if other.number = machine.frames.size then depth id + 1 else depth other

theorem depthAfter_of_lt {machine : Machine ω} {other : FrameId}
    (known : other.number < machine.frames.size) (id : FrameId) (depth : FrameId → Nat) :
    depthAfter machine id depth other = depth other :=
  if_neg (Nat.ne_of_lt known)

theorem Hangs.taken {depth : FrameId → Nat} {machine : Machine ω} {task : Task ω}
    {rest : List (Task ω)} (hangs : Hangs depth [] machine) (queue : machine.queue = task :: rest) :
    Hangs depth [task.frame] (machine.taken rest) where
  fresh id member := hangs.fresh id ((Machine.pending_taken queue).symm ▸ member)
  awaited := hangs.awaited

theorem Hangs.moved {machine next : Machine ω} {id : FrameId} {move : Move ω}
    {depth calls callsThen : FrameId → Nat} (hangs : Hangs depth [id] machine)
    (moved : job.Moved machine id move next) (orderly : machine.Orderly job.memoize [id])
    (spends : Spends machine id most calls callsThen move next) :
    Hangs (depthAfter machine id depth) [] next := by
  have known : ∀ other ∈ id :: machine.pending,
      depthAfter machine id depth other = depth other :=
    fun other member => depthAfter_of_lt (orderly.known other member) id depth
  constructor
  · intro other member isDeep
    cases found : next.frame? other with
    | none =>
        rw [Machine.result?, found]
        rfl
    | some later =>
        rw [Machine.result?_eq found]
        rcases moved.frame_cases found with ⟨before, was, _, ⟨kept, _⟩ | ⟨rfl, _, _, rfl, _⟩⟩ |
          ⟨_, _, _, _, _, rfl⟩
        · have small := Machine.frame?_lt was
          have old : other ∈ id :: machine.pending := spends.mem_pending member small
          rw [known other old] at isDeep
          rw [kept, ← Machine.result?_eq was]
          exact hangs.fresh other old isDeep
        · cases spends with
          | done pending =>
              exact absurd (pending.mem_iff.mp member) (List.nodup_cons.mp orderly.once).1
        · rfl
  · intro other later found unfinished isDeep
    rcases moved.frame_cases found with ⟨before, was, _, ⟨kept, more⟩ | ⟨_, _, _, _, new⟩⟩ |
      ⟨_, _, memory, _, last, rfl⟩
    · rw [depthAfter_of_lt (Machine.frame?_lt was)] at isDeep ⊢
      obtain ⟨waiter, memory, waits, hangsOn⟩ :=
        hangs.awaited other before was (kept.symm.trans unfinished) isDeep
      refine ⟨waiter, memory, more waits, ?_⟩
      rw [known waiter (List.mem_cons_of_mem id (Machine.mem_pending_of_waiter was waits))]
      exact hangsOn
    · rw [unfinished] at new
      cases new
    · refine ⟨id, memory, List.mem_cons_self, ?_⟩
      rw [known id List.mem_cons_self, depthAfter, if_pos last]

/-- Frames that hang on each other are for different spots, so none hangs deeper than
there are spots. -/
theorem Hangs.depth_le {machine : Machine ω} {depth : FrameId → Nat} {start : Nat}
    (hangs : Hangs depth [] machine) (tame : job.Tame allowed most)
    (orderly : machine.Orderly job.memoize [])
    (covers : ∀ id frame, machine.frame? id = some frame → job.Covers allowed start frame.spot)
    {id : FrameId} {frame : Frame ω} (found : machine.frame? id = some frame)
    (unfinished : frame.result = none) : depth id ≤ job.spotCount := by
  -- The frames that one hangs on, from waiter to waiter, are `depth id` many.  They are all
  -- unfinished, and unfinished frames are listed, so their spots are different.
  suffices above : ∀ far id frame, depth id = far → machine.frame? id = some frame →
      frame.result = none →
      ∃ spots : Finset Spot, spots.card = far ∧ ∀ spot ∈ spots, ∃ other own,
        machine.frame? other = some own ∧ own.result = none ∧ own.spot = spot ∧
        depth other ≤ far by
    obtain ⟨spots, card, each⟩ := above _ id frame rfl found unfinished
    rw [← card]
    apply tame.card_le
    intro spot member
    obtain ⟨other, own, there, _, rfl, _⟩ := each spot member
    exact covers other own there
  intro far
  induction far with
  | zero => exact fun _ _ _ _ _ => ⟨∅, rfl, nofun⟩
  | succ far induction =>
      intro id frame isFar found unfinished
      obtain ⟨waiter, memory, waits, hangsOn⟩ :=
        hangs.awaited id frame found unfinished (by omega)
      obtain ⟨spots, card, each⟩ : ∃ spots : Finset Spot, spots.card = far ∧
          ∀ spot ∈ spots, ∃ other own, machine.frame? other = some own ∧ own.result = none ∧
            own.spot = spot ∧ depth other ≤ far := by
        rcases Nat.eq_zero_or_pos far with rfl | isDeep
        · exact ⟨∅, rfl, nofun⟩
        · have member := Machine.mem_pending_of_waiter found waits
          obtain ⟨own, there⟩ := Machine.exists_frame? (orderly.known waiter member)
          have noResult := hangs.fresh waiter member (by omega)
          rw [Machine.result?_eq there] at noResult
          exact induction waiter own (by omega) there noResult
      have new : frame.spot ∉ spots := by
        intro member
        obtain ⟨other, own, there, noResult, sameSpot, notDeeper⟩ := each _ member
        have listed := (orderly.listed _ _).mpr ⟨own, there, sameSpot, .inr noResult⟩
        rw [(orderly.listed _ _).mpr ⟨frame, found, rfl, .inr unfinished⟩] at listed
        cases listed
        omega
      refine ⟨insert frame.spot spots, by rw [Finset.card_insert_of_notMem new, card], ?_⟩
      intro spot member
      rcases Finset.mem_insert.mp member with rfl | old
      · exact ⟨id, frame, found, unfinished, rfl, Nat.le_of_eq isFar⟩
      · obtain ⟨other, own, there, noResult, sameSpot, notDeeper⟩ := each spot old
        exact ⟨other, own, there, noResult, sameSpot, Nat.le_succ_of_le notDeeper⟩

/-- What a continuation costs that hangs so deep and has so many calls left: room for all
frames that can come to hang on its frame. -/
def stretchCost (most height : Nat) (calls depth : FrameId → Nat) (id : FrameId) : Nat :=
  (calls id + 1) * (most + 2) ^ (height - depth id)

/-- A move costs what it spends, even if a frame is opened. -/
theorem Spends.stretch {machine next : Machine ω} {id : FrameId}
    {calls callsThen : FrameId → Nat} {move : Move ω}
    (spends : Spends machine id most calls callsThen move next) (height : Nat)
    (depth : FrameId → Nat)
    (present : id.number < machine.frames.size)
    (known : ∀ other ∈ machine.pending, other.number < machine.frames.size)
    (same : ∀ other ∈ machine.pending, callsThen other = calls other)
    (shallow : ∀ callee : FrameId, callee.number = machine.frames.size →
      callee ∈ next.pending → depth id + 1 ≤ height) :
    next.load (stretchCost most height callsThen (depthAfter machine id depth)) +
        next.frames.size ≤
      stretchCost most height calls depth id +
        machine.load (stretchCost most height calls depth) + machine.frames.size := by
  have others : machine.load (stretchCost most height callsThen (depthAfter machine id depth)) =
      machine.load (stretchCost most height calls depth) := by
    apply Machine.load_congr
    intro other member
    rw [stretchCost, stretchCost, same other member, depthAfter_of_lt (known other member)]
  have own : calls id = callsThen id + 1 →
      stretchCost most height calls depth id =
        stretchCost most height callsThen (depthAfter machine id depth) id +
          (most + 2) ^ (height - depth id) := by
    intro isCalls
    rw [stretchCost, stretchCost, isCalls, depthAfter_of_lt present, Nat.succ_mul]
  cases spends with
  | done pending size =>
      rw [Machine.load_of_perm pending, size, ← others]
      unfold Machine.load
      omega
  | called isCalls pending size =>
      rw [Machine.load_of_perm pending, List.map_cons, List.sum_cons, size, own isCalls, ← others]
      unfold Machine.load
      omega
  | opened callee isCalls last isMost pending size =>
      have isShallow := shallow callee last (pending.mem_iff.mpr List.mem_cons_self)
      have room : stretchCost most height callsThen (depthAfter machine id depth) callee + 1 ≤
          (most + 2) ^ (height - depth id) := by
        obtain ⟨rest, isRest⟩ := Nat.exists_eq_add_of_le isShallow
        have positive : 0 < (most + 2) ^ rest := Nat.pow_pos (by omega)
        rw [stretchCost, isMost, depthAfter, if_pos last,
          show height - (depth id + 1) = rest by omega,
          show height - depth id = rest + 1 by omega, Nat.pow_succ', Nat.succ_mul (most + 1)]
        omega
      rw [Machine.load_of_perm pending, List.map_cons, List.sum_cons, List.map_cons,
        List.sum_cons, size, own isCalls, ← others]
      unfold Machine.load
      omega

/-- When a circle is broken, what is pending may open frames of all spots below it. -/
theorem load_le_of_orderly {machine : Machine ω} (orderly : machine.Orderly job.memoize [])
    (height : Nat) :
    machine.load (stretchCost most height (fun _ => most) fun _ => 0) + machine.frames.size ≤
      machine.frames.size * (most + 2) ^ (height + 1) := by
  have few := Machine.length_le_size orderly.once orderly.known
  have positive : 0 < (most + 2) ^ height := Nat.pow_pos (by omega)
  have each : machine.load (stretchCost most height (fun _ => most) fun _ => 0) =
      machine.pending.length * ((most + 1) * (most + 2) ^ height) := by
    unfold Machine.load stretchCost
    rw [List.map_const', List.sum_replicate_nat, Nat.sub_zero]
  calc machine.load (stretchCost most height (fun _ => most) fun _ => 0) + machine.frames.size
      ≤ machine.frames.size * ((most + 1) * (most + 2) ^ height) + machine.frames.size := by
        rw [each]
        exact Nat.add_le_add_right (Nat.mul_le_mul_right _ few) _
    _ = machine.frames.size * ((most + 1) * (most + 2) ^ height + 1) := (Nat.mul_succ _ _).symm
    _ ≤ machine.frames.size * (most + 2) ^ (height + 1) := by
        apply Nat.mul_le_mul_left
        rw [Nat.pow_succ', Nat.succ_mul (most + 1)]
        omega

theorem Hangs.flat (held : List FrameId) (machine : Machine ω) : Hangs (fun _ => 0) held machine :=
  ⟨nofun, nofun⟩

/-- What a run has opened and may yet open, up to the next broken circle, is bounded by how
often it has broken one. -/
theorem Visits.stretch {root : NodeId} {position : Nat} {start world : τ}
    {history : List (Deed ω)} {machine : Machine ω}
    (visits : job.Visits host root position start history machine world)
    (tame : job.Tame allowed most) (isAllowed : allowed root)
    (inside : position ≤ job.input.length) :
    ∃ calls depth, job.Paced allowed calls machine ∧ Hangs depth [] machine ∧
      machine.load (stretchCost most job.spotCount calls depth) + machine.frames.size ≤
        (most + 2) ^ ((job.spotCount + 1) * ((failedIn history).length + 1)) := by
  obtain ⟨frame, first, begun, leads⟩ := visits
  have visits : ∀ {history machine world},
      job.Leads host frame first start history machine world →
      job.Visits host root position start history machine world :=
    fun leads => ⟨frame, first, begun, leads⟩
  have begins : ∀ {history machine world},
      job.Leads host frame first start history machine world →
      ∃ calls depth, job.Paced allowed calls machine ∧ Hangs depth [] machine ∧
        machine.load (stretchCost most job.spotCount calls depth) + machine.frames.size ≤
          machine.frames.size * (most + 2) ^ (job.spotCount + 1) := by
    intro history machine world leads
    have obeyed := (visits leads).extent tame.bounded isAllowed inside
    exact ⟨fun _ => most, fun _ => 0, obeyed.prepared.mono fun _ _ _ _ goes => goes.2,
      .flat [] machine, load_le_of_orderly (visits leads).orderly job.spotCount⟩
  -- A task spends of what the stretch has left.  A broken circle begins a new one, with
  -- nothing above the frames that are there.
  induction leads with
  | here =>
      have enough := begins .here
      rw [size_begin begun, Nat.one_mul] at enough
      rw [size_begin begun]
      simpa [failedIn] using enough
  | @task history machine next world after task rest earlier queue turned induction =>
      obtain ⟨calls, depth, paced, hangs, enough⟩ := induction
      have orderly := (visits earlier).orderly
      have held := orderly.taken queue
      have later := visits (earlier.task queue turned)
      obtain ⟨move, callsThen, moved, pacedThen, same, spends⟩ := paced.task tame.bounded orderly
        ((visits earlier).extent tame.bounded isAllowed inside) queue turned
      have hangsThen := (hangs.taken queue).moved moved held spends
      refine ⟨callsThen, _, pacedThen, hangsThen, ?_⟩
      have less := spends.stretch job.spotCount depth
        (held.known _ List.mem_cons_self)
        (fun other member => held.known other (List.mem_cons_of_mem _ member)) same ?_
      · rw [Machine.load_taken queue] at enough
        rw [Machine.frames_taken] at less
        rw [failedIn_task]
        exact less.trans enough
      · intro callee last member
        obtain ⟨own, found⟩ := Machine.exists_frame? (later.orderly.known callee member)
        have isDeep : depthAfter (machine.taken rest) task.frame depth callee =
            depth task.frame + 1 := if_pos last
        have noResult := hangsThen.fresh callee member (by omega)
        rw [Machine.result?_eq found] at noResult
        rw [← isDeep]
        exact hangsThen.depth_le tame later.orderly
          (later.extent tame.bounded isAllowed inside).spots found noResult
  | @cut history machine next world after stuck earlier queue newest turned induction =>
      obtain ⟨_, _, _, _, few⟩ := induction
      obtain ⟨calls, depth, paced, hangs, enough⟩ := begins (earlier.cut queue newest turned)
      refine ⟨calls, depth, paced, hangs, enough.trans ?_⟩
      obtain ⟨_, failure, rfl⟩ := cut_of_turn queue newest turned
      rw [Machine.size_complete, failedIn_cut, List.length_append, List.length_singleton,
        Nat.mul_succ (job.spotCount + 1) ((failedIn history).length + 1),
        Nat.pow_add _ _ (job.spotCount + 1)]
      exact Nat.mul_le_mul_right _ ((Nat.le_add_left _ _).trans few)

theorem Visits.size_le_pow {root : NodeId} {position : Nat} {start world : τ}
    {history : List (Deed ω)} {machine : Machine ω}
    (visits : job.Visits host root position start history machine world)
    (tame : job.Tame allowed most) (isAllowed : allowed root)
    (inside : position ≤ job.input.length) :
    machine.frames.size ≤
      (most + 2) ^ ((job.spotCount + 1) * ((failedIn history).length + 1)) := by
  obtain ⟨_, _, _, _, enough⟩ := visits.stretch tame isAllowed inside
  exact (Nat.le_add_left _ _).trans enough

end Job

end Packrat
