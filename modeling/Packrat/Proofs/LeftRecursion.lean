import Mathlib
import Packrat.Proofs.Engine
import Packrat.Proofs.Grammar.Alternation
import Packrat.Proofs.Scheduler.Circles
import Packrat.Proofs.Scheduler.Outcome

/-!
# What is failed as left recursion

A run that has nothing left to do fails its newest frame without a result.  All frames
without results then wait for frames that wait for themselves, which is left recursion,
and the newest one waits for itself when the first circle is broken.  Later it need not: a
frame that was failed before and goes on all the same may have called it, though the circle
is somewhere else.
-/

namespace Packrat

variable {ω ρ τ : Type}

/-- Whenever a run fails a frame to break a circle, the waits lead from every frame without
a result to a circle of such frames, all at one position.  The frame that is failed is on
such a circle itself, if no frame that has its result still waits for another one; so is
the first one that a run fails.  This holds whether results are kept or not, of any grammar
of the library's own parsers and on any input. -/
theorem left_recursion_is_circular [BEq ω] [Printable ω] {g : Grammar ω ρ} {input : Input ω}
    {memoize : Bool} {limit : Option Nat} {host : Host ω ρ τ} {root : NodeId} {position : Nat}
    {start world after : τ} {history : List (Deed ω)} {machine next : Machine ω}
    {frame stuck : FrameId} (grown : g.Grown Grammar.StockOnly) (known : root.number < g.size)
    (inside : position ≤ input.length)
    (visits : Job.Visits ⟨g, input, memoize, limit⟩ host root position start history machine world)
    (turns : Job.Turns ⟨g, input, memoize, limit⟩ host frame machine world (.cut stuck) next
      after) :
    (∀ id own, machine.frame? id = some own → own.result = none →
      ∃ other, Relation.ReflTransGen machine.Awaits id other ∧ machine.OnCircle other) ∧
    ((∀ waiter callee, machine.Awaits waiter callee → machine.result? waiter = none) →
      machine.OnCircle stuck) ∧
    (Uncut history → machine.OnCircle stuck) := by
  obtain ⟨most, bounded⟩ :=
    grown.stocked.exists_bounded grown.tidy.1.acyclic input memoize limit
  have orderly := visits.orderly
  have few := visits.size_le_capacity
  obtain ⟨rootFrame, first, begun, leads⟩ := visits
  have chained := leads.chained begun bounded known inside
  cases turns with
  | cut queue newest _ =>
      have onCircle := chained.newest_onCircle orderly few queue newest
      refine ⟨?_, onCircle, fun uncut => onCircle fun waiter callee awaits => ?_⟩
      · exact fun id own found unfinished =>
          chained.exists_onCircle orderly few queue found unfinished
      · refine leads.fresh (Job.begin_orderly begun) (fun id member => ?_) uncut waiter
          awaits.mem_pending
        obtain rfl := List.mem_singleton.mp ((Job.pending_begin begun).mem_iff.mp member)
        rw [Machine.result?, Job.frame?_begin begun, if_pos rfl]
        rfl

/-- A rule whose alternatives are another rule and itself, that one, and a third that goes
back to the first. -/
def astray : Rules Empty Empty := fun name =>
  if name = "outer" then .choice [.rule "inner", .rule "outer"]
  else if name = "inner" then .choice [.rule "inner", .rule "side"]
  else .choice [.rule "outer", .text "\n"]

/-- The first rule and the third. -/
def astrayRoot : Reference Empty Empty := .choice [.rule "outer", .rule "side"]

def astraySketches : List Sketch :=
  [.choice [2, 6] "((... | (... | \"\\n\")) | ...) | (... | \"\\n\")" none, .forward 2,
    .choice [4, 1] "(... | (... | \"\\n\")) | ..." none, .forward 4,
    .choice [3, 6] "... | (... | \"\\n\")" none, .forward 6,
    .choice [1, 7] "... | \"\\n\"" none, .feed]

theorem astray_alternates (held : Nat → NodeId → Prop) (name : String) :
    (astray name).MadeOf Kind.Alternates (fun _ => True) held := by
  unfold astray
  split
  next =>
    refine .choice fun alternative member => ?_
    rcases List.mem_pair.mp member with rfl | rfl <;> exact .rule trivial
  next =>
    split
    next =>
      refine .choice fun alternative member => ?_
      rcases List.mem_pair.mp member with rfl | rfl <;> exact .rule trivial
    next =>
      refine .choice fun alternative member => ?_
      rcases List.mem_pair.mp member with rfl | rfl
      · exact .rule trivial
      · exact .feed

theorem astray_root_alternates (held : Nat → NodeId → Prop) :
    astrayRoot.MadeOf Kind.Alternates (fun _ => True) held := by
  refine .choice fun alternative member => ?_
  rcases List.mem_pair.mp member with rfl | rfl <;> exact .rule trivial

theorem astray_resolves :
    ((Grammar.empty 0 .text).resolve astray ⟨.parser 0, []⟩ astrayRoot).1.toOption =
        some ⟨0, by decide⟩ ∧
    ((Grammar.empty 0 .text).resolve astray ⟨.parser 0, []⟩ astrayRoot).2.slots.toList.map
      Slot.sketch? = astraySketches.map some := by
  decide +kernel

section Astray

variable {g : Grammar Empty Empty}
  (slots : g.slots = (astraySketches.map (Sketch.slot feedKey)).toArray)

include slots

/-- The first circle is that of a frame that calls itself. -/
theorem astray_first_circle :
    ((Job.machineAfter ⟨g, .text ⟨#['\n']⟩, true, none⟩ ⟨Empty.elim, fun _ _ => ()⟩ ⟨0, by decide⟩ 3
      ((Job.begin ⟨g, .text ⟨#['\n']⟩, true, none⟩ ⟨0, by decide⟩ 0).get rfl).2 ()).map
        fun pair => (pair.1.queue, pair.1.frames)) =
      some ([], #[⟨⟨⟨0, by decide⟩, 0⟩, none, []⟩,
        ⟨⟨⟨2, by decide⟩, 0⟩, none, [(⟨0, by decide⟩, .start 0)]⟩,
        ⟨⟨⟨4, by decide⟩, 0⟩, none,
          [(⟨1, by decide⟩, .start 0), (⟨2, by decide⟩, .start 0)]⟩]) := by
  obtain ⟨number, kind, _, shared, nodes, thunks, literals, sequences, unfoldings⟩ := g
  cases slots
  generalize feedKey = key
  cbv

/-- That frame is failed, but calls the third rule, which waits for the first. -/
theorem astray_second_circle :
    ((Job.machineAfter ⟨g, .text ⟨#['\n']⟩, true, none⟩ ⟨Empty.elim, fun _ _ => ()⟩ ⟨0, by decide⟩ 7
      ((Job.begin ⟨g, .text ⟨#['\n']⟩, true, none⟩ ⟨0, by decide⟩ 0).get rfl).2 ()).map
        fun pair => (pair.1.queue, pair.1.frames)) =
      some ([], #[⟨⟨⟨0, by decide⟩, 0⟩, none, []⟩,
        ⟨⟨⟨2, by decide⟩, 0⟩, none, [(⟨0, by decide⟩, .start 0),
          (⟨1, by decide⟩, ⟨1, .point 0, [], some (Job.leftRecursion 0)⟩),
          (⟨3, by decide⟩, .start 0)]⟩,
        ⟨⟨⟨4, by decide⟩, 0⟩, some (Job.leftRecursion 0), []⟩,
        ⟨⟨⟨6, by decide⟩, 0⟩, none,
          [(⟨2, by decide⟩, ⟨1, .point 0, [], some (Job.leftRecursion 0)⟩)]⟩]) := by
  obtain ⟨number, kind, _, shared, nodes, thunks, literals, sequences, unfoldings⟩ := g
  cases slots
  generalize feedKey = key
  cbv

theorem astray_runs :
    (Job.run ⟨g, .text ⟨#['\n']⟩, true, none⟩ ⟨Empty.elim, fun _ _ => ()⟩ 20 ⟨0, by decide⟩ 0
      ()).1 =
      some ⟨.failure "left recursion" (.point 0), 13⟩ := by
  obtain ⟨number, kind, _, shared, nodes, thunks, literals, sequences, unfoldings⟩ := g
  cases slots
  generalize feedKey = key
  cbv

end Astray

/-- The job of matching one character with the first rule or the third. -/
def astrayJob : Job Empty Empty :=
  ⟨((Grammar.empty 0 .text).resolve astray ⟨.parser 0, []⟩ astrayRoot).2, .text ⟨#['\n']⟩,
    true, none⟩

theorem astrayJob_slots :
    astrayJob.grammar.slots = (astraySketches.map (Sketch.slot feedKey)).toArray :=
  Grammar.slots_eq_of_sketches (astray_alternates _) (astray_root_alternates _) (by decide)
    astray_resolves.2

theorem astray_stockOnly : Grammar.StockOnly astray astrayRoot :=
  ⟨fun _ => True, fun name _ => (astray_alternates _ name).mono fun _ isKind => isKind.stock,
    (astray_root_alternates _).mono fun _ isKind => isKind.stock⟩

/-- Where no task is left and these are the frames, the newest one without a result is
failed. -/
theorem astrayJob_stalls {turns : Nat} {frames : Array (Frame Empty)} {stuck : FrameId}
    {frame : Frame Empty}
    (stalls : ((Job.machineAfter astrayJob ⟨Empty.elim, fun _ _ => ()⟩ ⟨0, by decide⟩ turns
      ((astrayJob.begin ⟨0, by decide⟩ 0).get rfl).2 ()).map
        fun pair => (pair.1.queue, pair.1.frames)) = some ([], frames))
    (unfinished : frames[0]?.bind Frame.result = none)
    (newest : ∀ table steps,
      (⟨frames, table, [], steps⟩ : Machine Empty).newestUnfinished? = some stuck)
    (found : frames[stuck.number]? = some frame) :
    ∃ history machine next, astrayJob.Visits ⟨Empty.elim, fun _ _ => ()⟩ ⟨0, by decide⟩ 0 () history
        machine () ∧
      astrayJob.Turns ⟨Empty.elim, fun _ _ => ()⟩ ⟨0, by decide⟩ machine () (.cut stuck) next () ∧
      machine.frames = frames := by
  obtain ⟨⟨⟨_, table, _, steps⟩, world⟩, after, same⟩ := Option.map_eq_some_iff.mp stalls
  obtain ⟨rfl, rfl⟩ := Prod.mk.inj same
  obtain ⟨history, leads⟩ := Job.exists_leads_of_machineAfter after
  exact ⟨history, _, _, ⟨_, _, rfl, leads⟩, .cut rfl (newest table steps)
    (@Job.turn_cut _ _ _ _ _ ⟨0, by decide⟩ _ _ _ rfl unfinished (newest table steps) found ()),
    rfl⟩

/-- The first frame that is failed waits for itself. -/
theorem astray_breaks_circle :
    ∃ history machine next, astrayJob.Visits ⟨Empty.elim, fun _ _ => ()⟩ ⟨0, by decide⟩ 0 () history
        machine () ∧
      astrayJob.Turns ⟨Empty.elim, fun _ _ => ()⟩ ⟨0, by decide⟩ machine ()
        (.cut ⟨2, by decide⟩) next
        () ∧
      machine.OnCircle ⟨2, by decide⟩ := by
  obtain ⟨history, machine, next, visits, turns, frames⟩ :=
    astrayJob_stalls (astray_first_circle astrayJob_slots) rfl (fun _ _ => rfl) rfl
  refine ⟨history, machine, next, visits, turns, ?_⟩
  have known : 0 < astrayJob.grammar.slots.size := by
    rw [astrayJob_slots]
    decide
  refine (left_recursion_is_circular (.resolve _ astray_stockOnly (.empty 0 .text)) known
    (Nat.zero_le _) visits turns).2.1 fun waiter callee _ => ?_
  cases found : machine.frame? waiter with
  | none =>
      rw [Machine.result?, found]
      rfl
  | some frame =>
      rw [Machine.result?_eq found]
      rw [Machine.frame?, frames] at found
      have member := Array.mem_of_getElem? found
      simp only [List.mem_toArray, List.mem_cons, List.not_mem_nil, or_false] at member
      rcases member with rfl | rfl | rfl <;> rfl

/-- The second frame that is failed does not wait for itself: it waits for the first rule,
which waits for itself, and only a frame that has its result waits for it.  Its failure is
kept, and the root gets it though nothing is wrong with the third rule. -/
theorem astray_fails_without_circle :
    Grammar.StockOnly astray astrayRoot ∧
    (∃ history machine next,
      astrayJob.Visits ⟨Empty.elim, fun _ _ => ()⟩ ⟨0, by decide⟩ 0 () history
        machine () ∧
      astrayJob.Turns ⟨Empty.elim, fun _ _ => ()⟩ ⟨0, by decide⟩ machine ()
        (.cut ⟨3, by decide⟩) next
        () ∧
      ¬ machine.OnCircle ⟨3, by decide⟩ ∧
      ¬ Relation.TransGen machine.Awaits ⟨3, by decide⟩ ⟨3, by decide⟩) ∧
    ((Engine.new 0 .text .standard).execute astray ⟨Empty.elim, fun _ _ => ()⟩ 20 ⟨0, astrayRoot⟩
      (.text ⟨#['\n']⟩) .standard ()).1 =
        some (.ok ⟨.failure "left recursion" (.point 0), 13⟩) := by
  refine ⟨astray_stockOnly, ?_, ?_⟩
  · obtain ⟨history, machine, next, visits, turns, frames⟩ :=
      astrayJob_stalls (astray_second_circle astrayJob_slots) rfl (fun _ _ => rfl) rfl
    have waitsForLast (waiter : FrameId) (awaits : machine.Awaits waiter ⟨3, by decide⟩) :
        waiter = ⟨2, by decide⟩ := by
      obtain ⟨frame, memory, found, member⟩ := awaits
      rw [Machine.frame?, frames] at found
      cases found
      cases List.mem_singleton.mp member
      rfl
    have noneWaits (waiter : FrameId) : ¬ machine.Awaits waiter ⟨2, by decide⟩ := by
      rintro ⟨frame, memory, found, member⟩
      rw [Machine.frame?, frames] at found
      cases found
      cases member
    have alone : ¬ Relation.TransGen machine.Awaits ⟨3, by decide⟩ ⟨3, by decide⟩ := by
      intro circle
      obtain ⟨waiter, path, awaits⟩ := Relation.TransGen.tail'_iff.mp circle
      rw [waitsForLast waiter awaits] at path
      rcases path.cases_tail with same | ⟨other, _, awaitsOther⟩
      · cases same
      · exact noneWaits other awaitsOther
    refine ⟨history, machine, next, visits, turns, ?_, alone⟩
    exact fun circle => alone (Relation.TransGen.mono (fun _ _ both => both.1) _ _ circle)
  · exact (Engine.execute_of_resolve (Engine.resolve_of_toOption astray_resolves.1)
      (Nat.zero_le _)).trans (congrArg (Option.map Except.ok) (astray_runs astrayJob_slots))

end Packrat
