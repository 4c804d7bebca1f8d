import Mathlib
import Packrat.Proofs.Grammar.Alternation
import Packrat.Proofs.Termination

/-!
# Circles that are broken again and again

A rule whose two alternatives are the rule itself waits for itself.  Without the results
kept, a frame of it that is failed to break this circle still has its second alternative
to try, and opens the next frame, which waits for itself in turn.  As long as the root
waits for something else, this goes on until the indices are used up.
-/

namespace Packrat

variable {ω ρ τ : Type}

namespace Job

variable {job : Job ω ρ} {host : Host ω ρ τ}

/-- What a frame remembers that tries its second alternative, after the first one was
failed to break a circle. -/
def retrying (position : Nat) : Memory ω :=
  ⟨1, .point position, [], some (leftRecursion position)⟩

/-- The matcher of a spot tries the spot itself, twice. -/
structure TriesItself (job : Job ω ρ) (spot : Spot) (id : NodeId) : Prop where
  matcher : job.grammar.matcherAt spot = .choice [id, id]
  leads : job.grammar.spot id spot.position = spot

/-- There is nothing to do but to fail the last frame, which waits for itself, as a frame
does that has its result already. -/
structure Spinning (job : Job ω ρ) (spot : Spot) (root last : FrameId) (machine : Machine ω) :
    Prop where
  orderly : machine.Orderly job.memoize []
  queue : machine.queue = []
  isLast : machine.frames.size = last.number + 1
  older : root.number < last.number
  unfinished : machine.result? root = none
  stuck : ∃ earlier frame result,
    machine.frame? last = some ⟨spot, none,
      [(earlier, retrying spot.position), (last, .start spot.position)]⟩ ∧
    machine.frame? earlier = some frame ∧ frame.spot = spot ∧ frame.result = some result

/-- The last frame has been failed and is about to try its second alternative. -/
structure Waking (job : Job ω ρ) (spot : Spot) (root last : FrameId) (machine : Machine ω) :
    Prop where
  orderly : machine.Orderly job.memoize []
  queue : machine.queue = [.resume last (.start spot.position) (leftRecursion spot.position)]
  isLast : machine.frames.size = last.number + 1
  older : root.number < last.number
  unfinished : machine.result? root = none
  failed : machine.frame? last = some ⟨spot, some (leftRecursion spot.position), []⟩
  free : machine.table[spot]? = none

theorem settled_eq {spot : Spot} {task : Task ω} {move : Move ω}
    (step : job.step spot task = move.toStep) (world : τ) :
    (job.settled host spot task world).1 = move := by
  unfold settled
  rw [step]
  cases move <;> rfl

namespace TriesItself

variable {spot : Spot} {id : NodeId}

theorem step_start (tries : job.TriesItself spot id) (frame : FrameId) :
    job.step spot (.start frame) =
      (Move.call id spot.position (.start spot.position)).toStep := by
  rw [Job.step_start, tries.matcher]
  rfl

theorem step_first (tries : job.TriesItself spot id) (frame : FrameId) :
    job.step spot (.resume frame (.start spot.position) (leftRecursion spot.position)) =
      (Move.call id spot.position (retrying spot.position)).toStep := by
  rw [step_resume, tries.matcher]
  rfl

theorem step_second (tries : job.TriesItself spot id) (frame : FrameId) :
    job.step spot (.resume frame (retrying spot.position) (leftRecursion spot.position)) =
      (Move.done ((leftRecursion spot.position).farther (leftRecursion spot.position))).toStep := by
  rw [step_resume, tries.matcher]
  rfl

end TriesItself

section Spin

variable {spot : Spot} {id : NodeId} {root last : FrameId} {machine : Machine ω}

variable (host)

theorem withinLimit (unlimited : job.limit = none) (steps : Nat) :
    job.limit.any (· < steps) = false := by
  rw [unlimited]
  rfl

/-- What a frame comes to that has its result already is lost. -/
theorem turn_late {task : Task ω} {rest : List (Task ω)} {frame : Frame ω}
    {first result : Match (Value ω)} (unlimited : job.limit = none)
    (queue : machine.queue = task :: rest) (found : machine.frame? task.frame = some frame)
    (finished : frame.result = some first)
    (step : job.step frame.spot task = (Move.done result).toStep) (world : τ) :
    job.turn host root machine world =
      (.running (machine.taken rest), (job.settled host frame.spot task world).2) := by
  have there : (machine.taken rest).frame? task.frame = some frame := found
  have moved : job.Moved (machine.taken rest) task.frame (.done result) _ := .done result
  rw [Machine.complete_of_finished there finished] at moved
  apply turn_task queue (withinLimit unlimited _) found
  rw [settled_eq step]
  exact moved

/-- Breaking the circle wakes the last frame; the earlier one is at its end. -/
theorem Spinning.wakes (spinning : job.Spinning spot root last machine)
    (tries : job.TriesItself spot id) (unkept : job.memoize = false)
    (unlimited : job.limit = none) (world : τ) :
    ∃ history next after, job.Leads host root machine world history next after ∧
      job.Waking spot root last next := by
  obtain ⟨earlier, frame, result, found, there, rfl, finished⟩ := spinning.stuck
  have newest := Machine.newestUnfinished?_eq_last spinning.isLast found rfl
  have failing : job.turn host root machine world = _ :=
    turn_cut spinning.queue spinning.unfinished newest found world
  have cut := Leads.cut .here spinning.queue newest failing
  have kept : ∀ other, other ≠ last →
      (machine.complete job.memoize last (leftRecursion frame.spot.position)).frame? other =
        machine.frame? other := by
    intro other different
    rw [Machine.frame?_complete found, if_neg different]
  have notLast : earlier ≠ last := by
    rintro rfl
    rw [found] at there
    rw [← Option.some.inj there] at finished
    cases finished
  have queue : (machine.complete job.memoize last (leftRecursion frame.spot.position)).queue =
      [.resume earlier (retrying frame.spot.position) (leftRecursion frame.spot.position),
        .resume last (.start frame.spot.position) (leftRecursion frame.spot.position)] := by
    rw [Machine.queue_complete found, spinning.queue]
    rfl
  -- The earlier frame comes to its end for the second time, which changes nothing.
  have late : job.turn host root _ world = _ :=
    turn_late host unlimited queue ((kept earlier notLast).trans there) finished
      (tries.step_second earlier) world
  have leads := cut.task queue late
  refine ⟨_, _, _, leads, leads.orderly spinning.orderly, rfl, ?_, spinning.older, ?_, ?_, ?_⟩
  · rw [Machine.frames_taken, Machine.size_complete]
    exact spinning.isLast
  · rw [Machine.result?, Machine.frame?_taken,
      kept root (Index.ne_iff.mpr (Nat.ne_of_lt spinning.older))]
    exact spinning.unfinished
  · rw [Machine.frame?_taken, Machine.frame?_complete found, if_pos rfl]
  · rw [Machine.table_taken, Machine.table_complete found, if_pos ⟨unkept, rfl⟩]

/-- The frame that wakes opens the next one, which waits for itself again. -/
theorem Waking.spins (waking : job.Waking spot root last machine)
    (tries : job.TriesItself spot id) (unlimited : job.limit = none)
    (room : last.number + 1 < capacity) (world : τ) :
    ∃ callee history next after, callee.number = last.number + 1 ∧
      job.Leads host root machine world history next after ∧
      job.Spinning spot root callee next := by
  have isSpot : (⟨job.grammar.follow id, spot.position⟩ : Spot) = spot := tries.leads
  obtain ⟨⟨callee, opened⟩, entered⟩ : ∃ pair, (machine.taken []).enter spot = some pair := by
    apply Option.ne_none_iff_exists'.mp
    intro noIndex
    have full := Machine.enter_eq_none_iff.mp noIndex
    rw [Machine.frames_taken, waking.isLast] at full
    omega
  have isNext : callee.number = last.number + 1 :=
    (Machine.enter_eq_some entered).1.trans waking.isLast
  have frames := Machine.frame?_opened entered last (retrying spot.position) (.start callee)
  have opening : job.turn host root machine world = _ :=
    turn_task waking.queue (withinLimit unlimited _) waking.failed (by
      rw [settled_eq (tries.step_first last)]
      exact .opened (isSpot ▸ waking.free) (isSpot ▸ entered))
  have queue : ((opened.wait callee last (retrying spot.position)).push (.start callee)).queue =
      [.start callee] := by
    rw [Machine.queue_push, Machine.queue_wait, Machine.queue_enter entered]
    rfl
  have found := frames callee
  rw [if_pos rfl] at found
  have known := Machine.table_enter entered spot
  rw [if_pos rfl] at known
  have waiting (later : τ) : job.turn host root _ later = _ :=
    turn_task queue (withinLimit unlimited _) found (by
      rw [settled_eq (tries.step_start callee)]
      exact .waiting (isSpot ▸ known) (Machine.result?_eq found))
  have leads := (Leads.task .here waking.queue opening).task queue (waiting _)
  have kept : ∀ other, other ≠ callee → (((((opened.wait callee last (retrying spot.position)).push
      (.start callee)).taken []).wait callee callee (.start spot.position)).frame? other =
        machine.frame? other) := by
    intro other different
    rw [Machine.frame?_wait, if_neg different, Machine.frame?_taken, frames, if_neg different]
    rfl
  refine ⟨callee, _, _, _, isNext, leads, leads.orderly waking.orderly, rfl, ?_, ?_, ?_, ?_⟩
  · rw [Machine.size_wait, Machine.frames_taken, Machine.frames_push, Machine.size_wait,
      Machine.size_enter entered, Machine.frames_taken, waking.isLast, isNext]
  · exact isNext ▸ Nat.lt_succ_of_lt waking.older
  · have := waking.older
    have different : root ≠ callee := Index.ne_iff.mpr (by omega)
    exact (congrArg (Option.bind · Frame.result) (kept root different)).trans waking.unfinished
  · have different : last ≠ callee := Index.ne_iff.mpr (by omega)
    refine ⟨last, _, _, ?_, (kept last different).trans waking.failed, rfl, rfl⟩
    rw [Machine.frame?_wait, if_pos rfl, Machine.frame?_taken, found]
    rfl

theorem Waking.overflows (waking : job.Waking spot root last machine)
    (tries : job.TriesItself spot id) (unlimited : job.limit = none)
    (full : capacity ≤ last.number + 1) (world : τ) :
    ∃ steps after, job.turn host root machine world = (.ended (.error .overflow) steps, after) := by
  refine ⟨_, _, turn_halt waking.queue (withinLimit unlimited _) waking.failed ?_⟩
  rw [settled_eq (tries.step_first last)]
  have noIndex : (machine.taken []).enter spot = none :=
    Machine.enter_eq_none_iff.mpr (by rw [Machine.frames_taken, waking.isLast]; exact full)
  simp only [Job.move]
  rw [show (⟨job.grammar.follow id, spot.position⟩ : Spot) = spot from tries.leads,
    Machine.table_taken, waking.free]
  simp only
  rw [noIndex]

/-- A run that spins goes on until the indices are used up. -/
theorem Spinning.overflows (spinning : job.Spinning spot root last machine)
    (tries : job.TriesItself spot id) (unkept : job.memoize = false)
    (unlimited : job.limit = none) (world : τ) :
    ∃ fuel steps finish,
      job.runFrom host root fuel machine world = (some (.error .overflow, steps), finish) := by
  -- Each round uses up one of the indices that are left.
  obtain ⟨left, isLeft⟩ := Nat.exists_eq_add_of_lt last.inRange
  induction left generalizing last machine world with
  | zero =>
      obtain ⟨history, next, after, leads, waking⟩ :=
        spinning.wakes host tries unkept unlimited world
      obtain ⟨steps, finish, turned⟩ := waking.overflows host tries unlimited (by omega) after
      exact ⟨history.length + 1, steps, finish, by rw [leads.runFrom, Job.runFrom, turned]⟩
  | succ left induction =>
      obtain ⟨history, next, after, leads, waking⟩ :=
        spinning.wakes host tries unkept unlimited world
      obtain ⟨callee, more, later, afterwards, isNext, goesOn, spinningOn⟩ :=
        waking.spins host tries unlimited (by omega) after
      obtain ⟨fuel, steps, finish, ended⟩ := induction spinningOn afterwards (by omega)
      exact ⟨(history ++ more).length + fuel, steps, finish,
        by rw [(leads.trans goesOn).runFrom, ended]⟩

end Spin

end Job

/-- A rule that tries itself twice, inside one that goes on to wait for itself. -/
def around : Rules Empty Empty := fun name =>
  if name = "inner" then .choice [.rule "inner", .rule "inner"]
  else .choice [.rule "inner", .rule "outer"]

def aroundSketches : List Sketch :=
  [.forward 1, .choice [3, 0] "(... | ...) | ..." none, .forward 3,
    .choice [2, 2] "... | ..." none]

theorem around_alternates (held : Nat → NodeId → Prop) (name : String) :
    (around name).MadeOf Kind.Alternates (fun _ => True) held := by
  unfold around
  split
  all_goals
    refine .choice fun alternative member => ?_
    rcases List.mem_pair.mp member with rfl | rfl <;> exact .rule trivial

theorem around_resolves :
    ((Grammar.empty 0 .text).resolve around ⟨.parser 0, []⟩ (.rule "outer")).1.toOption =
        some ⟨1, by decide⟩ ∧
    ((Grammar.empty 0 .text).resolve around ⟨.parser 0, []⟩ (.rule "outer")).2.slots.toList.map
      Slot.sketch? = aroundSketches.map some := by
  decide +kernel

section Around

variable {g : Grammar Empty Empty}
  (slots : g.slots = (aroundSketches.map (Sketch.slot feedKey)).toArray)

include slots

theorem around_triesItself :
    Job.TriesItself ⟨g, .text ⟨#[]⟩, false, none⟩ ⟨⟨3, by decide⟩, 0⟩ ⟨2, by decide⟩ := by
  obtain ⟨number, kind, _, shared, nodes, thunks, literals, sequences, unfoldings⟩ := g
  cases slots
  exact ⟨rfl, rfl⟩

theorem around_begins :
    ((Job.machineAfter ⟨g, .text ⟨#[]⟩, false, none⟩ ⟨Empty.elim, fun _ _ => ()⟩ ⟨0, by decide⟩ 6
      ((Job.begin ⟨g, .text ⟨#[]⟩, false, none⟩ ⟨1, by decide⟩ 0).get rfl).2 ()).map
        fun pair => (pair.1.queue, pair.1.frames)) =
      some ([], #[⟨⟨⟨1, by decide⟩, 0⟩, none, [(⟨0, by decide⟩, Job.retrying 0)]⟩,
        ⟨⟨⟨3, by decide⟩, 0⟩, some (Job.leftRecursion 0), []⟩,
        ⟨⟨⟨3, by decide⟩, 0⟩, none,
          [(⟨1, by decide⟩, Job.retrying 0), (⟨2, by decide⟩, .start 0)]⟩]) := by
  obtain ⟨number, kind, _, shared, nodes, thunks, literals, sequences, unfoldings⟩ := g
  cases slots
  generalize feedKey = key
  cbv

/-- The outer rule waits for itself, and the inner one spins. -/
theorem around_spins :
    ∃ first history machine world,
      Job.begin ⟨g, .text ⟨#[]⟩, false, none⟩ ⟨1, by decide⟩ 0 = some (⟨0, by decide⟩, first) ∧
      Job.Leads ⟨g, .text ⟨#[]⟩, false, none⟩ ⟨Empty.elim, fun _ _ => ()⟩ ⟨0, by decide⟩ first ()
        history machine world ∧
      Job.Spinning ⟨g, .text ⟨#[]⟩, false, none⟩ ⟨⟨3, by decide⟩, 0⟩ ⟨0, by decide⟩ ⟨2, by decide⟩
        machine := by
  obtain ⟨⟨machine, world⟩, after, same⟩ := Option.map_eq_some_iff.mp (around_begins slots)
  obtain ⟨queue, frames⟩ := Prod.mk.inj same
  obtain ⟨history, leads⟩ := Job.exists_leads_of_machineAfter after
  refine ⟨_, history, machine, world, rfl, leads, leads.orderly (Job.begin_orderly rfl), queue, ?_,
    by decide, ?_, ⟨1, by decide⟩, ⟨⟨⟨3, by decide⟩, 0⟩, some (Job.leftRecursion 0), []⟩,
    Job.leftRecursion 0, ?_, ?_, rfl, rfl⟩
  · rw [frames]
    rfl
  · rw [Machine.result?, Machine.frame?, frames]
    rfl
  · rw [Machine.frame?, frames]
    rfl
  · rw [Machine.frame?, frames]
    rfl

theorem around_overflows :
    ∃ enough steps, ∀ fuel, enough ≤ fuel →
      (Job.run ⟨g, .text ⟨#[]⟩, false, none⟩ ⟨Empty.elim, fun _ _ => ()⟩ fuel ⟨1, by decide⟩ 0
        ()).1 = some ⟨.failure "too many pending matches" (.point 0), steps⟩ := by
  obtain ⟨first, history, machine, world, begun, leads, spinning⟩ := around_spins slots
  obtain ⟨fuel, steps, finish, ended⟩ := spinning.overflows ⟨Empty.elim, fun _ _ => ()⟩
    (around_triesItself slots) rfl rfl world
  refine ⟨history.length + fuel, steps, fun more enough => ?_⟩
  obtain ⟨rest, rfl⟩ := Nat.exists_eq_add_of_le enough
  have whole := Job.runFrom_add ((leads.runFrom fuel).trans ended) rest
  simp only [Job.run, begun, whole]
  rfl

end Around

/-- Without the results kept, matching the outer rule does not end before the indices are
used up, however much fuel there is. -/
theorem around_uses_up_indices :
    Grammar.StockOnly around (.rule "outer") ∧
    ∃ enough steps, ∀ fuel, enough ≤ fuel →
      ((Engine.new 0 .text .standard).execute around ⟨Empty.elim, fun _ _ => ()⟩ fuel
        ⟨0, .rule "outer"⟩ (.text ⟨#[]⟩) { Options.standard with memoize := false } ()).1 =
          some (.ok ⟨.failure "too many pending matches" (.point 0), steps⟩) := by
  constructor
  · refine ⟨fun _ => True, fun name _ => ?_, .rule trivial⟩
    exact (around_alternates _ name).mono fun _ isKind => isKind.stock
  · obtain ⟨isRoot, seen⟩ := around_resolves
    have slots :=
      Grammar.slots_eq_of_sketches (around_alternates _) (.rule trivial) (by decide) seen
    obtain ⟨enough, steps, overflows⟩ := around_overflows slots
    refine ⟨enough, steps, fun fuel isEnough => ?_⟩
    rw [Engine.execute_of_resolve (Engine.resolve_of_toOption isRoot) (Nat.zero_le _)]
    exact congrArg (Option.map Except.ok) (overflows fuel isEnough)

end Packrat
