import Mathlib
import Packrat.Proofs.Engine
import Packrat.Proofs.Grammar.Alternation
import Packrat.Proofs.Scheduler.Outcome
import Packrat.Proofs.Scheduler.Refinement

/-!
# Keeping results

Whether results are kept makes no difference to what a run comes to, as long as no circle
is broken: both ways it comes to what recursive evaluation does.  Where a circle is broken
it does make a difference, since a result that came of the failure is kept for callers
that are not on the circle.
-/

namespace Packrat

variable {ω ρ τ : Type}

namespace Job

variable {job : Job ω ρ} {host : Host ω ρ τ} {reply : ρ → Answer ω} {root : NodeId}
  {position : Nat} {start : τ}

/-- What is found without breaking a circle is what comes of the root's spot. -/
theorem Finds.comes {history : List (Deed ω)} {result : Match (Value ω)} {finish : τ}
    (finds : job.Finds host root position start history result finish)
    (answers : host.Answers reply) (uncut : Uncut history) :
    job.Comes reply (job.grammar.spot root position) result := by
  obtain ⟨frame, first, machine, begun, leads, _, finished⟩ := finds
  have faithful := leads.obeyed (evaluation_suits answers)
    (fun stuck isCut => absurd isCut (uncut stuck)) (begin_orderly begun)
    (begin_obeyed begun trivial)
  obtain ⟨own, found, atRoot⟩ := leads.root_frame begun
  rw [Machine.result?_eq found] at finished
  rw [← atRoot]
  exact faithful.results frame own result found finished

/-- What comes of the root's spot is found, without breaking a circle. -/
theorem exists_finds_of_comes {result : Match (Value ω)} (answers : host.Answers reply)
    (unlimited : job.limit = none)
    (room : ∀ history machine world, job.Visits host root position start history machine world →
      machine.frames.size < capacity)
    (comes : job.Comes reply (job.grammar.spot root position) result) :
    ∃ history finish, Uncut history ∧
      job.Finds host root position start history result finish := by
  obtain ⟨frame, first, begun⟩ := job.exists_begin root position
  obtain ⟨history, last, finish, leads, uncut, queue, finished⟩ :=
    exists_leads_of_comes answers unlimited begun
      (fun history machine world leads => room history machine world ⟨frame, first, begun, leads⟩)
      comes
  exact ⟨history, finish, uncut, frame, first, last, begun, leads, queue, finished⟩

end Job

/-- Whether results are kept changes nothing, as long as no circle is broken and there are
indices enough.  If a run comes to its end one way without breaking a circle, it comes to
the same match the other way, and breaks no circle there, either. -/
theorem memoization_is_transparent {g : Grammar ω ρ} {input : Input ω} {host : Host ω ρ τ}
    {reply : ρ → Answer ω} {root : NodeId} {position fuel : Nat} {start finish : τ}
    {outcome : Job.Outcome ω} (answers : host.Answers reply)
    (room : ∀ memoize history machine world,
      Job.Visits ⟨g, input, memoize, none⟩ host root position start history machine world →
      machine.frames.size < capacity)
    (keeps : Bool)
    (ran : Job.run ⟨g, input, keeps, none⟩ host fuel root position start = (some outcome, finish))
    (uncut : ∀ history machine world,
      Job.Visits ⟨g, input, keeps, none⟩ host root position start history machine world →
      Uncut history) (memoize : Bool) :
    (∃ enough steps later, ∀ more, enough ≤ more →
      Job.run ⟨g, input, memoize, none⟩ host more root position start =
        (some ⟨outcome.result, steps⟩, later)) ∧
    (∀ more other later,
      Job.run ⟨g, input, memoize, none⟩ host more root position start = (some other, later) →
      other.result = outcome.result) ∧
    ∀ history machine world,
      Job.Visits ⟨g, input, memoize, none⟩ host root position start history machine world →
      Uncut history := by
  have found : ∃ history, Job.Finds ⟨g, input, keeps, none⟩ host root position start history
      outcome.result finish := by
    rcases Job.finds_or_overflows rfl ran with found | ⟨_, history, machine, world, visits, full⟩
    · exact found
    · exact absurd full (Nat.ne_of_lt (room keeps history machine world visits))
  obtain ⟨history, finds⟩ := found
  obtain ⟨frame, first, machine, begun, leads, _⟩ := id finds
  -- Recursive evaluation does not depend on what is kept, and the match comes of it.
  have comes := finds.comes answers (uncut history machine finish ⟨frame, first, begun, leads⟩)
  obtain ⟨others, later, uncutThen, findsThen⟩ :
      ∃ others later, Uncut others ∧ Job.Finds ⟨g, input, memoize, none⟩ host root position start
        others outcome.result later :=
    Job.exists_finds_of_comes answers rfl (room memoize) comes
  obtain ⟨steps, runs⟩ := findsThen.exists_run
  refine ⟨⟨others.length + 1, steps, later, runs⟩, ?_, ?_⟩
  · intro more other after otherRan
    rcases Job.finds_or_overflows rfl otherRan with ⟨_, otherFinds⟩ |
      ⟨_, history, machine, world, visits, full⟩
    · exact findsThen.unique otherFinds
    · exact absurd full (Nat.ne_of_lt (room memoize history machine world visits))
  · intro sofar machine world visits stuck member
    exact uncutThen stuck ((findsThen.isPrefix visits).subset member)

theorem doubled_ends (memoize : Bool) : ∃ ending,
    (Job.doubled memoize).runFrom ⟨Empty.elim, fun _ _ => ()⟩ ⟨0, by decide⟩ 8
      (((Job.doubled memoize).begin ⟨0, by decide⟩ 0).get rfl).2 () =
        (some (.ok (.failure "nothing" (.point 0)), ending), ()) := by
  cases memoize with
  | true => exact ⟨4, Prod.ext (by cbv) rfl⟩
  | false => exact ⟨5, Prod.ext (by cbv) rfl⟩

/-- A node that is called twice comes to the same, be it matched once or twice. -/
theorem doubled_is_transparent :
    ∃ enough steps later, ∀ more, enough ≤ more →
      (Job.doubled false).run ⟨Empty.elim, fun _ _ => ()⟩ more ⟨0, by decide⟩ 0 () =
        (some ⟨.failure "nothing" (.point 0), steps⟩, later) := by
  have answers : (⟨Empty.elim, fun _ _ => ()⟩ : Host Empty Empty Unit).Answers Empty.elim :=
    fun request => request.elim
  have room : ∀ memoize history machine world,
      (Job.doubled memoize).Visits ⟨Empty.elim, fun _ _ => ()⟩ ⟨0, by decide⟩ 0 () history machine
        world → machine.frames.size < capacity := by
    intro memoize history machine world visits
    obtain ⟨ending, ended⟩ := doubled_ends memoize
    exact Job.size_lt_of_runFrom rfl ended (by rw [Job.size_begin rfl]; decide) visits
  obtain ⟨history, finish, uncut, finds⟩ :=
    Job.exists_finds_of_comes answers rfl (room true) (Job.doubled_evaluates true)
  obtain ⟨steps, runs⟩ := finds.exists_run
  exact (memoization_is_transparent answers room true (runs _ (Nat.lt_succ_self _))
    (fun sofar machine world visits stuck member =>
      uncut stuck ((finds.isPrefix visits).subset member)) false).1

/-- Two rules that start with each other, one of which may also match a line feed. -/
def knot : Rules Empty Empty := fun name =>
  if name = "first" then .choice [.rule "second"] else .choice [.rule "first", .text "\n"]

def knotSketches : List Sketch :=
  [.choice [2, 4] "(... | \"\\n\") | (... | \"\\n\")" none, .forward 2,
    .choice [4] "(... | \"\\n\")" none,
    .forward 4, .choice [1, 5] "... | \"\\n\"" none, .feed]

theorem knot_alternates (held : Nat → NodeId → Prop) (name : String) :
    (knot name).MadeOf Kind.Alternates (fun _ => True) held := by
  unfold knot
  split
  next =>
    refine .choice fun alternative member => ?_
    rw [List.mem_singleton.mp member]
    exact .rule trivial
  next =>
    refine .choice fun alternative member => ?_
    rcases List.mem_pair.mp member with rfl | rfl
    · exact .rule trivial
    · exact .feed

theorem knot_root_alternates (held : Nat → NodeId → Prop) :
    (Reference.choice [.rule "first", .rule "second"] : Reference Empty Empty).MadeOf
      Kind.Alternates (fun _ => True) held := by
  refine .choice fun alternative member => ?_
  rcases List.mem_pair.mp member with rfl | rfl <;> exact .rule trivial

theorem knot_resolves :
    ((Grammar.empty 0 .text).resolve knot ⟨.parser 0, []⟩
      (.choice [.rule "first", .rule "second"])).1.toOption = some ⟨0, by decide⟩ ∧
    ((Grammar.empty 0 .text).resolve knot ⟨.parser 0, []⟩
      (.choice [.rule "first", .rule "second"])).2.slots.toList.map Slot.sketch? =
        knotSketches.map some := by
  decide +kernel

theorem knot_runs {g : Grammar Empty Empty}
    (slots : g.slots = (knotSketches.map (Sketch.slot feedKey)).toArray) :
    (Job.run ⟨g, .text ⟨#['\n']⟩, true, none⟩ ⟨Empty.elim, fun _ _ => ()⟩ 20 ⟨0, by decide⟩ 0
      ()).1 =
        some ⟨.failure "left recursion" (.point 0), 9⟩ ∧
      (Job.run ⟨g, .text ⟨#['\n']⟩, false, none⟩ ⟨Empty.elim, fun _ _ => ()⟩ 20 ⟨0, by decide⟩ 0
        ()).1 = some ⟨.success (.between 0 1) (.text "\n"), 15⟩ := by
  obtain ⟨number, kind, _, shared, nodes, thunks, literals, sequences, unfoldings⟩ := g
  cases slots
  -- No run looks at a key, so it need not be computed.
  generalize feedKey = key
  constructor <;> cbv

/-- Where rules start with each other, keeping results makes a difference.  The second rule
is failed to break the circle.  That failure is kept, and the root gets it when it tries
the rule itself; without the results kept, the rule is matched afresh. -/
theorem knot_is_not_transparent :
    Grammar.StockOnly knot (.choice [.rule "first", .rule "second"]) ∧
    ((Engine.new 0 .text .standard).execute knot ⟨Empty.elim, fun _ _ => ()⟩ 20
      ⟨0, .choice [.rule "first", .rule "second"]⟩ (.text ⟨#['\n']⟩) .standard ()).1 =
        some (.ok ⟨.failure "left recursion" (.point 0), 9⟩) ∧
    ((Engine.new 0 .text .standard).execute knot ⟨Empty.elim, fun _ _ => ()⟩ 20
      ⟨0, .choice [.rule "first", .rule "second"]⟩ (.text ⟨#['\n']⟩)
      { Options.standard with memoize := false } ()).1 =
        some (.ok ⟨.success (.between 0 1) (.text "\n"), 15⟩) := by
  obtain ⟨isRoot, seen⟩ := knot_resolves
  obtain ⟨kept, afresh⟩ := knot_runs (Grammar.slots_eq_of_sketches (knot_alternates _)
    (knot_root_alternates _) (by decide) seen)
  have executes (options : Options) (atStart : options.start = 0) :
      ((Engine.new 0 .text .standard).execute knot ⟨Empty.elim, fun _ _ => ()⟩ 20
        ⟨0, .choice [.rule "first", .rule "second"]⟩ (.text ⟨#['\n']⟩) options ()).1 = _ :=
    Engine.execute_of_resolve (Engine.resolve_of_toOption isRoot) (atStart ▸ Nat.zero_le _)
  refine ⟨⟨fun _ => True, fun name _ => ?_, ?_⟩, ?_, ?_⟩
  · exact (knot_alternates _ name).mono fun _ isKind => isKind.stock
  · exact (knot_root_alternates _).mono fun _ isKind => isKind.stock
  · exact (executes .standard rfl).trans (congrArg (Option.map Except.ok) kept)
  · exact (executes _ rfl).trans (congrArg (Option.map Except.ok) afresh)

end Packrat
