import Packrat.Proofs.Scheduler.Effort
import Mathlib.Data.Fintype.Pigeonhole
import Mathlib.Logic.Relation

/-!
# Frames that wait for themselves

When nothing is left to be done, every frame without a result waits for another one, so
from each of them the waits lead to a circle.  Nothing is consumed along a circle, so its
frames are all at one position.

The frame that a run then fails is the newest.  As long as no frame that has its result
still waits for anything, the frames without results are a single chain of calls, from the
root to the newest, and the newest is on a circle itself.
-/

namespace Packrat

variable {ω ρ τ : Type}

instance {arena : Arena} : Finite (Index arena) :=
  Finite.of_injective (fun index => (⟨index.number, index.inRange⟩ : Fin capacity))
    fun _ _ same => Index.ext (congrArg Fin.val same)

section Relations

variable {α : Type} {r s : α → α → Prop}

/-- Where there is always a way on, and there are finitely many places, one comes to a
circle. -/
theorem exists_circle [Finite α] (open_ : α → Prop)
    (goesOn : ∀ a, open_ a → ∃ b, r a b ∧ open_ b) {a : α} (isOpen : open_ a) :
    ∃ b, Relation.ReflTransGen r a b ∧ Relation.TransGen r b b := by
  choose next leads stays using goesOn
  let step : {a // open_ a} → {a // open_ a} := fun here => ⟨next here here.2, stays here here.2⟩
  have far : ∀ (start : {a // open_ a}) (count : Nat),
      Relation.ReflTransGen r start.1 (step^[count] start).1 := by
    intro start count
    induction count generalizing start with
    | zero => exact .refl
    | succ count induction => exact .head (leads start start.2) (induction (step start))
  obtain ⟨first, second, different, same⟩ :=
    Finite.exists_ne_map_eq_of_infinite fun count : Nat => step^[count] ⟨a, isOpen⟩
  wlog before : first < second generalizing first second
  · exact this second first different.symm same.symm (by omega)
  obtain ⟨more, rfl⟩ := Nat.exists_eq_add_of_lt before
  refine ⟨_, far ⟨a, isOpen⟩ first, ?_⟩
  have round := far (step (step^[first] ⟨a, isOpen⟩)) more
  rw [← Function.iterate_succ_apply' step, ← Function.iterate_add_apply,
    show more + (first + 1) = first + more + 1 by omega, ← same] at round
  refine .head' ?_ round
  rw [Function.iterate_succ_apply']
  exact leads _ _

/-- What never goes down stays level along a circle. -/
theorem circle_level (level : α → Nat) (up : ∀ a b, r a b → level a ≤ level b)
    (flat : ∀ a b, r a b → level a = level b → s a b) {a : α} (circle : Relation.TransGen r a a) :
    Relation.TransGen s a a := by
  have upAll : ∀ {b c}, Relation.TransGen r b c → level b ≤ level c := by
    intro b c path
    induction path with
    | single edge => exact up _ _ edge
    | tail _ edge induction => exact induction.trans (up _ _ edge)
  suffices stays : ∀ b, Relation.TransGen r a b → level b ≤ level a → Relation.TransGen s a b from
    stays a circle (Nat.le_refl _)
  intro b path low
  induction path with
  | single edge => exact .single (flat _ _ edge (Nat.le_antisymm (up _ _ edge) low))
  | tail path edge induction =>
      have before := upAll path
      have after := up _ _ edge
      exact .tail (induction (by omega)) (flat _ _ edge (by omega))

end Relations

namespace Machine

variable {machine : Machine ω}

/-- One frame waits for the result of another. -/
def Awaits (machine : Machine ω) (waiter callee : FrameId) : Prop :=
  ∃ frame memory, machine.frame? callee = some frame ∧ (waiter, memory) ∈ frame.waiters

/-- One frame without a result waits for another one without a result, both at the same
position. -/
def AwaitsInPlace (machine : Machine ω) (waiter callee : FrameId) : Prop :=
  machine.Awaits waiter callee ∧ ∃ own frame, machine.frame? waiter = some own ∧
    machine.frame? callee = some frame ∧ own.result = none ∧ frame.result = none ∧
    own.spot.position = frame.spot.position

/-- A frame waits for itself, through frames without results at its position. -/
def OnCircle (machine : Machine ω) (id : FrameId) : Prop :=
  Relation.TransGen machine.AwaitsInPlace id id

theorem Awaits.mem_pending {waiter callee : FrameId} (awaits : machine.Awaits waiter callee) :
    waiter ∈ machine.pending := by
  obtain ⟨frame, memory, found, member⟩ := awaits
  exact mem_pending_of_waiter found member

/-- When there are no tasks, whoever has a continuation waits for a frame. -/
theorem exists_awaits (small : machine.frames.size ≤ capacity) (queue : machine.queue = [])
    {id : FrameId} (member : id ∈ machine.pending) : ∃ callee, machine.Awaits id callee := by
  rw [pending, queue, List.map_nil, List.nil_append] at member
  obtain ⟨frame, isFrame, waits⟩ := List.mem_flatMap.mp member
  obtain ⟨⟨_, memory⟩, isWaiter, rfl⟩ := List.mem_map.mp waits
  obtain ⟨number, inRange, there⟩ := List.getElem_of_mem isFrame
  rw [Array.length_toList] at inRange
  refine ⟨⟨number, Nat.lt_of_lt_of_le inRange small⟩, frame, memory, ?_, isWaiter⟩
  exact Array.getElem?_eq_some_iff.mpr ⟨inRange, there⟩

/-- A frame waits for one frame only. -/
theorem Awaits.unique (once : machine.pending.Nodup) {waiter callee other : FrameId}
    (awaits : machine.Awaits waiter callee) (others : machine.Awaits waiter other) :
    callee = other := by
  obtain ⟨frame, memory, found, member⟩ := awaits
  obtain ⟨otherFrame, otherMemory, otherFound, otherMember⟩ := others
  obtain ⟨inRange, there⟩ := Array.getElem?_eq_some_iff.mp found
  obtain ⟨otherInRange, otherThere⟩ := Array.getElem?_eq_some_iff.mp otherFound
  have apart := (List.nodup_flatMap.mp (List.nodup_append.mp once).2.1).2
  rw [List.pairwise_iff_getElem] at apart
  have noneBefore {i j : Nat} (iSmall : i < machine.frames.size) (jSmall : j < machine.frames.size)
      (before : i < j) {memory otherMemory : Memory ω}
      (here : (waiter, memory) ∈ machine.frames[i].waiters)
      (later : (waiter, otherMemory) ∈ machine.frames[j].waiters) : False :=
    @apart i j iSmall jSmall before waiter (List.mem_map_of_mem (f := Prod.fst) here)
      (List.mem_map_of_mem (f := Prod.fst) later)
  rw [← there] at member
  rw [← otherThere] at otherMember
  apply Index.ext
  rcases Nat.lt_trichotomy callee.number other.number with before | same | after
  · exact (noneBefore inRange otherInRange before member otherMember).elim
  · exact same
  · exact (noneBefore otherInRange inRange after otherMember member).elim

theorem le_of_lastUnfinished? {count : Nat} {newest id : FrameId} {frame : Frame ω}
    (isNewest : machine.lastUnfinished? count = some newest) (among : id.number < count)
    (found : machine.frame? id = some frame) (unfinished : frame.result = none) :
    id.number ≤ newest.number := by
  induction count with
  | zero => omega
  | succ count induction =>
      rw [lastUnfinished?] at isNewest
      split at isNewest
      next =>
        have number := Index.next?_eq_some_iff.mp isNewest
        omega
      next finished =>
        refine induction isNewest ?_
        have different : id.number ≠ count := by
          rintro rfl
          rw [show machine.frames[id.number]? = _ from found] at finished
          simp [unfinished] at finished
        omega

/-- No frame without a result is newer than the newest. -/
theorem le_newestUnfinished? {newest id : FrameId} {frame : Frame ω}
    (isNewest : machine.newestUnfinished? = some newest) (found : machine.frame? id = some frame)
    (unfinished : frame.result = none) : id.number ≤ newest.number :=
  le_of_lastUnfinished? isNewest (frame?_lt found) found unfinished

/-- Only for frames without results does anyone wait. -/
theorem Awaits.unfinished {memoize : Bool} {held : List FrameId} {waiter callee : FrameId}
    (orderly : machine.Orderly memoize held) (awaits : machine.Awaits waiter callee) :
    ∃ frame, machine.frame? callee = some frame ∧ frame.result = none := by
  obtain ⟨frame, memory, found, member⟩ := awaits
  refine ⟨frame, found, ?_⟩
  by_contra finished
  rw [orderly.quiet callee frame found finished] at member
  cases member

end Machine

namespace Job

variable {job : Job ω ρ} {host : Host ω ρ τ} {allowed : NodeId → Prop} {most : Nat}

/-- How the frames of a machine wait for each other: an older frame waits for each one
without a result but the root's, and no frame waits for one at an earlier position. -/
structure Chained (root : FrameId) (machine : Machine ω) : Prop where
  opened : ∀ id frame, machine.frame? id = some frame → frame.result = none → id ≠ root →
    ∃ opener, machine.Awaits opener id ∧ opener.number < id.number
  onward : ∀ waiter callee own frame, machine.Awaits waiter callee →
    machine.frame? waiter = some own → machine.frame? callee = some frame →
    own.spot.position ≤ frame.spot.position

/-- Whoever waits after a move waited before it, or is the frame that moves and waits for
what it calls. -/
theorem Moved.awaits_cases {held : List FrameId} {machine next : Machine ω}
    {id waiter callee : FrameId} {move : Move ω} (moved : job.Moved machine id move next)
    (orderly : machine.Orderly job.memoize held) (awaits : next.Awaits waiter callee) :
    machine.Awaits waiter callee ∨
      waiter = id ∧ ∃ node position memory frame, move = .call node position memory ∧
        next.frame? callee = some frame ∧ frame.spot = job.grammar.spot node position := by
  obtain ⟨later, memory, there, waits⟩ := awaits
  cases moved with
  | done result =>
      rcases machine.complete_eq_or_unfinished job.memoize id result with unchanged | ⟨_, _, found⟩
      · rw [unchanged] at there
        exact .inl ⟨later, memory, there, waits⟩
      · rw [Machine.frame?_complete found] at there
        split at there
        next =>
          cases there
          cases waits
        next => exact .inl ⟨later, memory, there, waits⟩
  | answered => exact .inl ⟨later, memory, there, waits⟩
  | @waiting node position memory callee known unfinished =>
      have same := there
      rw [Machine.frame?_wait] at there
      split at there
      next isCallee =>
        obtain ⟨before, was, rfl⟩ := Option.map_eq_some_iff.mp there
        rcases List.mem_append.mp waits with old | new
        · exact .inl ⟨before, _, was, old⟩
        · cases List.mem_singleton.mp new
          obtain ⟨own, isOwn, spot, _⟩ := (orderly.listed _ _).mp known
          rw [isCallee, isOwn] at was
          cases was
          exact .inr ⟨rfl, node, position, _, _, rfl, same, spot⟩
      next => exact .inl ⟨later, _, there, waits⟩
  | @opened node position memory callee opened unknown entered =>
      have same := there
      rw [Machine.frame?_opened entered] at there
      split at there
      next isCallee =>
        cases there
        cases List.mem_singleton.mp waits
        exact .inr ⟨rfl, node, position, _, _, rfl, same, rfl⟩
      next => exact .inl ⟨later, _, there, waits⟩

theorem Moved.chained {held : List FrameId} {root : FrameId} {machine next : Machine ω}
    {id : FrameId} {frame : Frame ω} {move : Move ω} (moved : job.Moved machine id move next)
    (orderly : machine.Orderly job.memoize held) (chained : Chained root machine)
    (found : machine.frame? id = some frame)
    (forward : ∀ node position memory, move = .call node position memory →
      frame.spot.position ≤ position) : Chained root next := by
  have keepsSpot {other : FrameId} {before later : Frame ω}
      (was : machine.frame? other = some before) (there : next.frame? other = some later) :
      later.spot = before.spot := by
    obtain ⟨grown, same, spot, _⟩ := moved.grows other before was
    rw [there] at same
    cases same
    exact spot
  constructor
  · intro other later there unfinished notRoot
    rcases moved.frame_cases there with ⟨before, was, _, ⟨kept, more⟩ | ⟨_, _, _, _, new⟩⟩ |
      ⟨_, _, memory, _, last, rfl⟩
    · obtain ⟨opener, ⟨_, memory, same, waits⟩, older⟩ :=
        chained.opened other before was (kept.symm.trans unfinished) notRoot
      rw [was] at same
      cases same
      exact ⟨opener, ⟨later, memory, there, more waits⟩, older⟩
    · rw [unfinished] at new
      cases new
    · refine ⟨id, ⟨_, memory, there, List.mem_cons_self⟩, ?_⟩
      rw [last]
      exact Machine.frame?_lt found
  · intro waiter callee own calleeFrame awaits ownThere there
    rcases moved.awaits_cases orderly awaits with ⟨before, memory, was, waits⟩ |
      ⟨rfl, node, position, memory, _, isCall, same, spot⟩
    · obtain ⟨ownBefore, ownWas⟩ := Machine.exists_frame? (orderly.known waiter
        (List.mem_append_right _ (Machine.mem_pending_of_waiter was waits)))
      rw [keepsSpot ownWas ownThere, keepsSpot was there]
      exact chained.onward waiter callee ownBefore before ⟨before, memory, was, waits⟩ ownWas was
    · rw [there] at same
      cases same
      rw [keepsSpot found ownThere, spot]
      exact forward node position memory isCall

theorem begin_chained {root : NodeId} {position : Nat} {frame : FrameId} {first : Machine ω}
    (begun : job.begin root position = some (frame, first)) : Chained frame first := by
  have alone {id : FrameId} {own : Frame ω} (there : first.frame? id = some own) :
      id = frame ∧ own.waiters = [] := by
    rw [frame?_begin begun] at there
    split at there
    next same =>
      cases there
      exact ⟨same, rfl⟩
    next => cases there
  constructor
  · intro id own there _ notRoot
    exact absurd (alone there).1 notRoot
  · rintro waiter callee _ _ ⟨own, memory, there, waits⟩
    rw [(alone there).2] at waits
    cases waits

/-- A call of a matcher that stays inside the input goes on from where the frame is. -/
theorem Runs.onward {calls : Nat} {spot : Spot} {node : NodeId} {position : Nat}
    {memory : Memory ω} (runs : job.Runs allowed calls spot (.call node position memory)) :
    spot.position ≤ position := by
  cases runs with
  | call _ after _ _ => exact after

/-- Wherever a run among stocked nodes has come, its frames wait for each other as calls
made them. -/
theorem Leads.chained {root : NodeId} {position : Nat} {frame : FrameId}
    {first machine : Machine ω} {start world : τ} {history : List (Deed ω)}
    (leads : job.Leads host frame first start history machine world)
    (begun : job.begin root position = some (frame, first)) (bounded : job.Bounded allowed most)
    (isAllowed : allowed root) (inside : position ≤ job.input.length) :
    Chained frame machine := by
  induction leads with
  | here => exact begin_chained begun
  | @task history machine next world after task rest earlier queue turned induction =>
      have held := (earlier.orderly (begin_orderly begun)).taken queue
      obtain ⟨own, found⟩ := Machine.exists_frame? (held.known _ List.mem_cons_self)
      have obeyed := Visits.extent ⟨frame, first, begun, earlier⟩ bounded isAllowed inside
      have due := obeyed.tasks task (queue ▸ List.mem_cons_self) own found
      have goes := extent_suits bounded host own.spot _
        (host.watch (job.event own.spot task) world) due
      refine (moved_of_turn queue found turned).chained held ⟨induction.opened, induction.onward⟩
        found ?_
      intro node place memory isCall
      have runs := goes.2
      rw [show (host.settle _ _).1 = _ from isCall] at runs
      exact runs.onward
  | @cut history machine next world after stuck earlier queue newest turned induction =>
      obtain ⟨_, failure, rfl⟩ := cut_of_turn queue newest turned
      obtain ⟨own, found, _⟩ := Machine.newestUnfinished?_eq_some newest
      exact Moved.chained (.done failure) (earlier.orderly (begin_orderly begun)) induction found
        nofun

/-- As long as no frame is failed, all that is to be done is for frames without results. -/
theorem Leads.fresh {root : FrameId} {first machine : Machine ω} {start world : τ}
    {history : List (Deed ω)} (leads : job.Leads host root first start history machine world)
    (orderly : first.Orderly job.memoize [])
    (fresh : ∀ id ∈ first.pending, first.result? id = none) (uncut : Uncut history) :
    ∀ id ∈ machine.pending, machine.result? id = none := by
  induction leads with
  | here => exact fresh
  | @task history machine next world after task rest earlier queue turned induction =>
      have before := induction fun stuck member => uncut stuck (List.mem_append_left _ member)
      have held := (earlier.orderly orderly).taken queue
      obtain ⟨move, moved⟩ := exists_moved_of_turn (earlier.orderly orderly) queue turned
      have spends : Spends (machine.taken rest) task.frame 0 (fun _ => 1) (fun _ => 0) move next :=
        moved.spends held fun _ _ _ _ => ⟨rfl, fun _ _ => rfl⟩
      have inHand : ∀ id ∈ task.frame :: (machine.taken rest).pending,
          (machine.taken rest).result? id = none := by
        rw [← Machine.pending_taken queue]
        exact before
      intro id member
      cases found : next.frame? id with
      | none =>
          rw [Machine.result?, found]
          rfl
      | some later =>
          rw [Machine.result?_eq found]
          rcases moved.frame_cases found with ⟨own, was, _, ⟨kept, _⟩ | ⟨rfl, _, _, rfl, _⟩⟩ |
            ⟨_, _, _, _, _, rfl⟩
          · have small := Machine.frame?_lt was
            rw [kept, ← Machine.result?_eq was]
            exact inHand id (spends.mem_pending member small)
          · cases spends with
            | done pending =>
                exact absurd (pending.mem_iff.mp member) (List.nodup_cons.mp held.once).1
          · rfl
  | cut => exact absurd (List.mem_append_right _ List.mem_cons_self) (uncut _)

section Stall

variable {memoize : Bool} {root : FrameId} {machine : Machine ω}
  (orderly : machine.Orderly memoize []) (chained : Chained root machine)

include orderly chained

/-- Frames that wait for each other in a circle, none of which has a result, are all at
the same position. -/
theorem Chained.onCircle {id : FrameId}
    (circle : Relation.TransGen
      (fun waiter callee => machine.Awaits waiter callee ∧ machine.result? waiter = none) id id) :
    machine.OnCircle id := by
  have frames {waiter callee : FrameId} (awaits : machine.Awaits waiter callee) :
      ∃ own frame, machine.frame? waiter = some own ∧ machine.frame? callee = some frame := by
    obtain ⟨own, there⟩ := Machine.exists_frame? (orderly.known waiter awaits.mem_pending)
    obtain ⟨frame, _, found, _⟩ := awaits
    exact ⟨own, frame, there, found⟩
  refine circle_level (fun id => (machine.frame? id).elim 0 (·.spot.position)) ?_ ?_ circle
  · rintro waiter callee ⟨awaits, _⟩
    obtain ⟨own, frame, there, found⟩ := frames awaits
    rw [there, found]
    exact chained.onward waiter callee own frame awaits there found
  · rintro waiter callee ⟨awaits, unfinished⟩ samePosition
    obtain ⟨own, _, there, _⟩ := frames awaits
    obtain ⟨frame, found, isOpen⟩ := awaits.unfinished orderly
    rw [Machine.result?_eq there] at unfinished
    rw [there, found] at samePosition
    exact ⟨awaits, own, frame, there, found, unfinished, isOpen, samePosition⟩

variable (small : machine.frames.size ≤ capacity) (queue : machine.queue = [])

include small queue

/-- When nothing is left to be done, from every frame without a result the waits lead to a
circle. -/
theorem Chained.exists_onCircle {id : FrameId} {frame : Frame ω}
    (found : machine.frame? id = some frame) (unfinished : frame.result = none) :
    ∃ other, Relation.ReflTransGen machine.Awaits id other ∧ machine.OnCircle other := by
  obtain ⟨other, leads, circle⟩ := exists_circle
    (r := fun waiter callee => machine.Awaits waiter callee ∧ machine.result? waiter = none)
    (fun id => ∃ frame, machine.frame? id = some frame ∧ frame.result = none)
    (by
      rintro waiter ⟨own, there, isOpen⟩
      obtain ⟨callee, awaits⟩ :=
        Machine.exists_awaits small queue (orderly.awaited waiter own there isOpen)
      refine ⟨callee, ⟨awaits, ?_⟩, awaits.unfinished orderly⟩
      rw [Machine.result?_eq there, isOpen])
    ⟨frame, found, unfinished⟩
  exact ⟨other, Relation.ReflTransGen.mono (fun _ _ both => both.1) _ _ leads,
    chained.onCircle orderly circle⟩

/-- If no frame that has its result waits, the newest frame without one waits for itself. -/
theorem Chained.newest_onCircle {stuck : FrameId}
    (newest : machine.newestUnfinished? = some stuck)
    (fresh : ∀ waiter callee, machine.Awaits waiter callee → machine.result? waiter = none) :
    machine.OnCircle stuck := by
  -- Calls that opened frames lead from the root to each of them.
  let opens (opener id : FrameId) : Prop :=
    machine.Awaits opener id ∧ opener.number < id.number
  have fromRoot : ∀ id frame, machine.frame? id = some frame → frame.result = none →
      Relation.ReflTransGen opens root id := by
    intro id
    induction isNumber : id.number using Nat.strong_induction_on generalizing id with
    | _ number induction =>
        intro frame found unfinished
        by_cases isRoot : id = root
        · rw [isRoot]
        · obtain ⟨opener, awaits, older⟩ := chained.opened id frame found unfinished isRoot
          obtain ⟨own, there⟩ := Machine.exists_frame? (orderly.known opener awaits.mem_pending)
          have noResult := fresh opener id awaits
          rw [Machine.result?_eq there] at noResult
          exact .tail (induction opener.number (by omega) opener rfl own there noResult)
            ⟨awaits, older⟩
  obtain ⟨frame, found, unfinished⟩ := Machine.newestUnfinished?_eq_some newest
  obtain ⟨callee, awaits⟩ :=
    Machine.exists_awaits small queue (orderly.awaited stuck frame found unfinished)
  obtain ⟨next, isNext, noResult⟩ := awaits.unfinished orderly
  -- Whoever waits does so for one frame, so the frame waited for is on the way to the newest.
  have unique : Relator.RightUnique opens := fun _ _ _ one other =>
    one.1.unique orderly.once other.1
  have onTheWay : Relation.ReflTransGen opens callee stuck := by
    rcases Relation.ReflTransGen.total_of_right_unique unique (fromRoot callee next isNext noResult)
      (fromRoot stuck frame found unfinished) with there | back
    · exact there
    · rcases Relation.ReflTransGen.cases_head back with rfl | ⟨newer, ⟨waits, isNewer⟩, _⟩
      · exact .refl
      · obtain ⟨own, isOwn, isOpen⟩ := waits.unfinished orderly
        have := Machine.le_newestUnfinished? newest isOwn isOpen
        omega
  apply chained.onCircle orderly
  exact .head' ⟨awaits, fresh _ _ awaits⟩ (Relation.ReflTransGen.mono
    (fun waiter callee opened => ⟨opened.1, fresh _ _ opened.1⟩) _ _ onTheWay)

end Stall

end Job

end Packrat
