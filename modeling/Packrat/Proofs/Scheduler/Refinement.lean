import Packrat.Proofs.Scheduler.Soundness
import Mathlib.Data.Nat.Find

/-!
# The scheduler refines recursive evaluation

A node that evaluates to something is matched by the scheduler with the same result,
whether results are kept or not.  The proof follows the evaluation: a frame that is
started while nothing else is to be done delivers its result to its waiters and leaves
every other unfinished frame as it was.  That no call meets an unfinished frame, and so
waits for ever, is a matter of depth: the unfinished frames are those of the callers, and
what a caller comes to takes deeper calls than what it calls.
-/

namespace Packrat

variable {ω ρ τ : Type}

namespace Machine

/-- Two machines have the same unfinished frames. -/
def SameUnfinished (machine later : Machine ω) : Prop :=
  ∀ id frame, frame.result = none →
    (machine.frame? id = some frame ↔ later.frame? id = some frame)

namespace SameUnfinished

variable {machine middle later : Machine ω}

theorem refl (machine : Machine ω) : machine.SameUnfinished machine :=
  fun _ _ _ => Iff.rfl

theorem trans (first : machine.SameUnfinished middle) (second : middle.SameUnfinished later) :
    machine.SameUnfinished later :=
  fun id frame unfinished => (first id frame unfinished).trans (second id frame unfinished)

/-- Finishing the same frame in both machines keeps them the same. -/
theorem complete {id : FrameId} {spot : Spot} {waiters : List (FrameId × Memory ω)}
    (same : machine.SameUnfinished later)
    (found : machine.frame? id = some ⟨spot, none, waiters⟩) (memoize : Bool)
    (result : Match (Value ω)) :
    (machine.complete memoize id result).SameUnfinished (later.complete memoize id result) := by
  intro other frame unfinished
  rw [frame?_complete found, frame?_complete ((same id _ rfl).mp found)]
  by_cases here : other = id
  · rw [if_pos here, if_pos here]
  · rw [if_neg here, if_neg here]
    exact same other frame unfinished

/-- A frame that was opened for a call and is finished again leaves the unfinished frames
as they were. -/
theorem opened_complete {opened : Machine ω} {callee : FrameId} {spot : Spot}
    (entered : machine.enter spot = some (callee, opened)) (waiter : FrameId)
    (memory : Memory ω) (task : Task ω) (memoize : Bool) (result : Match (Value ω)) :
    machine.SameUnfinished
      (((opened.wait callee waiter memory).push task).complete memoize callee result) := by
  have there := frame?_opened entered waiter memory task callee
  rw [if_pos rfl] at there
  intro other frame unfinished
  rw [frame?_complete there, frame?_opened entered]
  by_cases here : other = callee
  · rw [if_pos here, here]
    have absent : machine.frame? callee = none := by
      simp [frame?, (enter_eq_some entered).1]
    rw [absent]
    constructor
    · intro impossible
      cases impossible
    · intro finished
      cases finished
      cases unfinished
  · rw [if_neg here, if_neg here]

end SameUnfinished

end Machine

namespace Job

variable {job : Job ω ρ} {host : Host ω ρ τ} {reply : ρ → Answer ω} {root : FrameId}

/-- What comes of a spot in a job with calls nested less than `depth` deep. -/
abbrev ComesWithin (job : Job ω ρ) (reply : ρ → Answer ω) (depth : Nat) (spot : Spot)
    (result : Match (Value ω)) : Prop :=
  job.grammar.ComesWithin job.input reply depth spot result

/-- A machine has nothing to do but one task, which is an unfinished frame's. -/
structure Poised (job : Job ω ρ) (reply : ρ → Answer ω) (machine : Machine ω)
    (task : Task ω) (spot : Spot) (waiters : List (FrameId × Memory ω)) : Prop where
  orderly : machine.Orderly job.memoize []
  faithful : job.Faithful reply machine
  alone : machine.queue = [task]
  found : machine.frame? task.frame = some ⟨spot, none, waiters⟩

/-- No unfinished frame but one comes to anything within a depth. -/
def OthersDeeper (job : Job ω ρ) (reply : ρ → Answer ω) (depth : Nat) (machine : Machine ω)
    (id : FrameId) : Prop :=
  ∀ other frame, machine.frame? other = some frame → frame.result = none → other ≠ id →
    ∀ result, ¬ job.ComesWithin reply depth frame.spot result

/-- A run never uses up the indices from here on. -/
def HasRoom (job : Job ω ρ) (host : Host ω ρ τ) (root : FrameId) (machine : Machine ω)
    (world : τ) : Prop :=
  ∀ history later after, job.Leads host root machine world history later after →
    later.frames.size < capacity

theorem HasRoom.later {machine later : Machine ω} {world after : τ} {history : List (Deed ω)}
    (room : job.HasRoom host root machine world)
    (leads : job.Leads host root machine world history later after) :
    job.HasRoom host root later after :=
  fun _ last finish goesOn => room _ last finish (leads.trans goesOn)

/-- A run comes to a machine in which a frame is finished with a result, its waiters are
all that is to be done, and every other unfinished frame is as it was. -/
def Delivers (job : Job ω ρ) (host : Host ω ρ τ) (reply : ρ → Answer ω) (root : FrameId)
    (machine : Machine ω) (world : τ) (id : FrameId) (result : Match (Value ω))
    (waiters : List (FrameId × Memory ω)) : Prop :=
  ∃ history later after, job.Leads host root machine world history later after ∧
    Uncut history ∧ later.Orderly job.memoize [] ∧ job.Faithful reply later ∧
    later.queue = waiters.map (fun (waiter, memory) => .resume waiter memory result) ∧
    (machine.complete job.memoize id result).SameUnfinished later

/-- The only task of a poised machine is taken on. -/
theorem Poised.turn {machine next : Machine ω} {task : Task ω} {spot : Spot}
    {waiters : List (FrameId × Memory ω)} (answers : host.Answers reply)
    (unlimited : job.limit = none) (poised : job.Poised reply machine task spot waiters)
    (moved : job.Moved (machine.taken []) task.frame ((job.step spot task).move reply) next)
    (world : τ) :
    ∃ after, job.Leads host root machine world [.task task] next after ∧
      next.Orderly job.memoize [] ∧ job.Faithful reply next := by
  have turned : job.turn host root machine world =
      (.running next, (job.settled host spot task world).2) := by
    refine turn_task poised.alone (by rw [unlimited]; rfl) poised.found ?_
    rw [settled, answers.settle]
    exact moved
  refine ⟨_, .task .here poised.alone turned, ?_, ?_⟩
  · exact moved.orderly (poised.orderly.taken poised.alone)
  · exact poised.faithful.task (evaluation_suits answers) poised.orderly poised.alone turned

/-- What happens later can be put after what happens now. -/
theorem Delivers.after {machine later : Machine ω} {world after : τ} {id : FrameId}
    {history : List (Deed ω)} {spot : Spot} {result : Match (Value ω)}
    {waiters : List (FrameId × Memory ω)}
    (delivers : job.Delivers host reply root later after id result waiters)
    (leads : job.Leads host root machine world history later after) (uncut : Uncut history)
    (found : machine.frame? id = some ⟨spot, none, waiters⟩)
    (same : machine.SameUnfinished later) :
    job.Delivers host reply root machine world id result waiters := by
  obtain ⟨more, last, finish, goesOn, moreUncut, orderly, faithful, queue, sameAfter⟩ := delivers
  exact ⟨_, last, finish, leads.trans goesOn, uncut.append moreUncut, orderly, faithful, queue,
    (same.complete found job.memoize result).trans sameAfter⟩

/-- A frame that is started in a machine with nothing else to do delivers whatever it
comes to within a depth, if nothing that waits comes to anything within that depth. -/
def CallsDeliver (job : Job ω ρ) (host : Host ω ρ τ) (reply : ρ → Answer ω)
    (root : FrameId) (depth : Nat) : Prop :=
  ∀ machine world id spot waiters result,
    job.Poised reply machine (.start id) spot waiters →
    job.HasRoom host root machine world →
    job.OthersDeeper reply depth machine id →
    job.ComesWithin reply depth spot result →
    job.Delivers host reply root machine world id result waiters

/-- A call of a frame whose turn it is is answered, and every unfinished frame is as it
was. -/
theorem Poised.answered {depth : Nat} {machine : Machine ω} {world : τ} {task : Task ω}
    {spot : Spot} {waiters : List (FrameId × Memory ω)} {node : NodeId} {position : Nat}
    {memory : Memory ω} {answer : Match (Value ω)} (answers : host.Answers reply)
    (unlimited : job.limit = none) (calls : job.CallsDeliver host reply root depth)
    (shallow : ∀ other, ¬ job.ComesWithin reply depth spot other)
    (poised : job.Poised reply machine task spot waiters)
    (room : job.HasRoom host root machine world)
    (others : job.OthersDeeper reply depth machine task.frame)
    (next : (job.step spot task).move reply = .call node position memory)
    (comes : job.ComesWithin reply depth (job.grammar.spot node position) answer) :
    ∃ history later after, job.Leads host root machine world history later after ∧
      Uncut history ∧ job.Poised reply later (.resume task.frame memory answer) spot waiters ∧
      machine.SameUnfinished later := by
  cases known : machine.table[job.grammar.spot node position]? with
  | some callee =>
      obtain ⟨frame, found, hasSpot, _⟩ := (poised.orderly.listed _ _).mp known
      cases finished : frame.result with
      | none =>
          exfalso
          rw [← hasSpot] at comes
          by_cases same : callee = task.frame
          · subst same
            rw [poised.found] at found
            cases found
            exact shallow answer comes
          · exact others callee frame found finished same answer comes
      | some result =>
          have right := poised.faithful.results callee frame result found finished
          rw [hasSpot] at right
          cases right.unique comes.comes
          have resulted : machine.result? callee = some answer := by
            simp [Machine.result?, found, finished]
          have moved : job.Moved (machine.taken []) task.frame (.call node position memory) _ :=
            .answered known resulted
          obtain ⟨after, leads, orderly, faithful⟩ :=
            poised.turn answers unlimited (next ▸ moved) world
          exact ⟨_, _, after, leads, .task task, ⟨orderly, faithful, rfl, poised.found⟩,
            .refl machine⟩
  | none =>
      cases entered : (machine.taken []).enter (job.grammar.spot node position) with
      | none =>
          have full := Machine.enter_eq_none_iff.mp entered
          have small := room [] machine world .here
          simp only [Machine.frames_taken] at full
          omega
      | some pair =>
          obtain ⟨callee, opened⟩ := pair
          have moved : job.Moved (machine.taken []) task.frame (.call node position memory) _ :=
            .opened known entered
          obtain ⟨between, leads, orderly, faithful⟩ :=
            poised.turn answers unlimited (next ▸ moved) world
          have frames := Machine.frame?_opened entered task.frame memory (.start callee)
          have there := frames callee
          rw [if_pos rfl] at there
          have alone : ((opened.wait callee task.frame memory).push (.start callee)).queue =
              [.start callee] := by
            simp [Machine.queue_enter entered]
          have deeper : job.OthersDeeper reply depth
              ((opened.wait callee task.frame memory).push (.start callee)) callee := by
            intro other frame found unfinished different
            rw [frames, if_neg different] at found
            by_cases same : other = task.frame
            · subst same
              rw [Machine.frame?_taken, poised.found] at found
              cases found
              exact shallow
            · exact others other frame found unfinished same
          obtain ⟨more, later, after, goesOn, uncut, laterOrderly, laterFaithful, queue, same⟩ :=
            calls _ between callee _ _ answer ⟨orderly, faithful, alone, there⟩
              (room.later leads) deeper comes
          have begun : (machine.taken []).SameUnfinished _ :=
            .opened_complete entered task.frame memory (.start callee) job.memoize answer
          have sameLater : machine.SameUnfinished later := begun.trans same
          exact ⟨_, later, after, leads.trans goesOn, (Uncut.task task).append uncut,
            ⟨laterOrderly, laterFaithful, queue, (sameLater _ _ rfl).mp poised.found⟩,
            sameLater⟩

/-- A frame whose turn it is delivers what its next move yields. -/
theorem Poised.delivers {depth : Nat} {spot : Spot} {result : Match (Value ω)}
    {move : Move ω} (answers : host.Answers reply) (unlimited : job.limit = none)
    (calls : job.CallsDeliver host reply root depth)
    (shallow : ∀ other, ¬ job.ComesWithin reply depth spot other)
    (yields : (job.grammar.matcherAt spot).Yields job.input reply spot.position
      (fun node position answer =>
        job.ComesWithin reply depth (job.grammar.spot node position) answer) move result)
    {id : FrameId} {waiters : List (FrameId × Memory ω)} {machine : Machine ω} {world : τ}
    {task : Task ω} (own : task.frame = id) (poised : job.Poised reply machine task spot waiters)
    (room : job.HasRoom host root machine world)
    (others : job.OthersDeeper reply depth machine id)
    (next : (job.step spot task).move reply = move) :
    job.Delivers host reply root machine world id result waiters := by
  induction yields generalizing machine world task with
  | done result =>
      subst own
      have moved : job.Moved (machine.taken []) task.frame (.done result) _ := .done result
      obtain ⟨after, leads, orderly, faithful⟩ :=
        poised.turn answers unlimited (next ▸ moved) world
      have found : (machine.taken []).frame? task.frame = some ⟨spot, none, waiters⟩ :=
        poised.found
      have same : machine.SameUnfinished (machine.taken []) := fun _ _ _ => Iff.rfl
      refine ⟨_, _, after, leads, .task task, orderly, faithful, ?_,
        same.complete poised.found _ result⟩
      rw [Machine.queue_complete found]
      rfl
  | @call node position memory answer result answered _ induction =>
      subst own
      obtain ⟨history, later, after, leads, uncut, resumed, same⟩ :=
        poised.answered answers unlimited calls shallow room others next answered
      have own : (Task.resume task.frame memory answer).frame = task.frame := rfl
      refine Delivers.after ?_ leads uncut poised.found same
      refine induction own resumed (room.later leads) ?_ (step_resume_move spot _ memory answer)
      intro other frame found unfinished different
      exact others other frame ((same other frame unfinished).mpr found) unfinished different

/-- Started frames deliver, however deep the calls are nested. -/
theorem callsDeliver (answers : host.Answers reply) (unlimited : job.limit = none)
    (depth : Nat) : job.CallsDeliver host reply root depth := by
  classical
  induction depth using Nat.strongRecOn with
  | ind depth induction =>
      intro machine world id spot waiters result poised room others comes
      -- The frame is compared with its callees by the least depth at which it comes to
      -- anything, since the depth it is given may be larger.
      have reached : ∃ least, ∃ other, job.ComesWithin reply least spot other :=
        ⟨depth, result, comes⟩
      obtain ⟨other, within⟩ := Nat.find_spec reached
      have small := Nat.find_min' reached ⟨result, comes⟩
      have least := fun shallower => Nat.find_min reached (m := shallower)
      generalize Nat.find reached = found at within small least
      cases found with
      | zero => cases within
      | succ shallower =>
          cases within.comes.unique comes.comes
          refine poised.delivers answers unlimited (induction shallower (by omega)) ?_ within
            rfl room ?_ (step_start_move spot id)
          · intro other comesEarlier
            exact least shallower (Nat.lt_succ_self shallower) ⟨other, comesEarlier⟩
          · intro other frame found unfinished different result comesEarlier
            exact others other frame found unfinished different result
              (comesEarlier.mono (by omega))

/-! ## Whole runs -/

/-- At the start of a run the root's frame is the only one, and it is to be started. -/
theorem begin_poised (reply : ρ → Answer ω) {node : NodeId} {position : Nat}
    {frame : FrameId} {first : Machine ω}
    (begun : job.begin node position = some (frame, first)) :
    job.Poised reply first (.start frame) (job.grammar.spot node position) [] ∧
      ∀ other entry, first.frame? other = some entry → other = frame := by
  refine ⟨⟨begin_orderly begun, begin_obeyed begun trivial, queue_begin begun, ?_⟩, ?_⟩
  · exact (frame?_begin begun frame).trans (if_pos rfl)
  · intro other entry found
    rw [frame?_begin begun] at found
    by_contra different
    rw [if_neg different] at found
    cases found

/-- The root of a run delivers what it comes to, and then nothing is left to be done. -/
theorem exists_leads_of_comes {node : NodeId} {position : Nat} {world : τ} {frame : FrameId}
    {first : Machine ω} {result : Match (Value ω)} (answers : host.Answers reply)
    (unlimited : job.limit = none) (begun : job.begin node position = some (frame, first))
    (room : job.HasRoom host frame first world)
    (comes : job.Comes reply (job.grammar.spot node position) result) :
    ∃ history later after, job.Leads host frame first world history later after ∧
      Uncut history ∧ later.queue = [] ∧ later.result? frame = some result := by
  obtain ⟨depth, within⟩ := Grammar.comes_iff_exists_depth.mp comes
  obtain ⟨poised, only⟩ := begin_poised reply begun
  have others : job.OthersDeeper reply depth first frame := by
    intro other entry found _ different
    exact absurd (only other entry found) different
  obtain ⟨history, later, after, leads, uncut, _, faithful, queue, same⟩ :=
    callsDeliver answers unlimited depth first world frame _ _ result poised room others within
  refine ⟨history, later, after, leads, uncut, queue, ?_⟩
  have found : first.frame? frame = some ⟨job.grammar.spot node position, none, []⟩ :=
    poised.found
  obtain ⟨grown, there, hasSpot, _⟩ := leads.grows poised.orderly frame _ found
  cases finished : grown.result with
  | none =>
      have before := (same frame grown finished).mpr there
      rw [Machine.frame?_complete found, if_pos rfl] at before
      cases before
      cases finished
  | some other =>
      have right := faithful.results frame grown other there finished
      rw [hasSpot] at right
      cases right.unique comes
      simp [Machine.result?, there, finished]

/-- The scheduler refines recursive evaluation, whether it keeps results or not, as long
as it does not use up the indices for frames.  What a node evaluates to is what every run
with enough fuel comes to, and no such run has a frame to fail; and what a run comes to
that fails no frame is what the node evaluates to. -/
theorem run_refines_evaluation {node : NodeId} {position : Nat} {world : τ}
    (answers : host.Answers reply) (unlimited : job.limit = none)
    (room : ∀ history machine later,
      job.Visits host node position world history machine later →
      machine.frames.size < capacity) :
    (∀ result, job.grammar.Evaluates job.input reply node position result →
      (∃ enough steps finish, ∀ fuel, enough ≤ fuel →
        job.run host fuel node position world = (some ⟨result, steps⟩, finish)) ∧
      ∀ history machine later,
        job.Visits host node position world history machine later → Uncut history) ∧
    (∀ fuel outcome finish,
      job.run host fuel node position world = (some outcome, finish) →
      (∀ history machine later,
        job.Visits host node position world history machine later → Uncut history) →
      job.grammar.Evaluates job.input reply node position outcome.result) := by
  cases begun : job.begin node position with
  | none =>
      have full := Machine.enter_eq_none_iff.mp (Option.map_eq_none_iff.mp begun)
      exact absurd (show capacity ≤ 0 from full) (by decide)
  | some pair =>
      obtain ⟨frame, first⟩ := pair
      have visits : ∀ {history machine later},
          job.Leads host frame first world history machine later →
          job.Visits host node position world history machine later :=
        fun leads => ⟨frame, first, begun, leads⟩
      constructor
      · intro result evaluates
        obtain ⟨history, last, after, leads, uncut, queue, finished⟩ :=
          exists_leads_of_comes answers unlimited begun
            (fun history machine later leads => room history machine later (visits leads))
            evaluates
        have ends : job.turn host frame last after = (.ended (.ok result) last.steps, after) :=
          turn_finished queue finished after
        constructor
        · refine ⟨history.length + 1, last.steps, after, fun fuel enough => ?_⟩
          obtain ⟨more, rfl⟩ := Nat.exists_eq_add_of_le enough
          have ended : job.runFrom host frame (history.length + 1 + more) first world =
              (some (.ok result, last.steps), after) := by
            rw [Nat.add_assoc, leads.runFrom, Nat.add_comm 1 more, Job.runFrom, ends]
          simp only [Job.run, begun, ended]
        · rintro sofar machine later ⟨_, _, begins, leadsThere⟩
          rw [begun] at begins
          cases begins
          obtain ⟨rest, rfl⟩ := leadsThere.isPrefix leads ends
          exact fun stuck member => uncut stuck (List.mem_append_left rest member)
      · intro fuel outcome finish ran uncut
        have poised := (begin_poised reply begun).1
        simp only [Job.run, begun] at ran
        cases ended : job.runFrom host frame fuel first world with
        | mk ending after =>
            cases ending with
            | none =>
                rw [ended] at ran
                cases ran
            | some ending =>
                obtain ⟨result, isOk, comes⟩ := comes_of_runFrom answers unlimited
                  poised.orderly poised.faithful poised.found
                  (fun history machine later leads => room history machine later (visits leads))
                  (fun history machine later leads => uncut history machine later (visits leads))
                  ended
                obtain ⟨_, steps⟩ := ending
                cases isOk
                rw [ended] at ran
                cases ran
                exact comes

/-- A run that ends soon enough has room. -/
theorem size_lt_of_runFrom {node : NodeId} {position fuel : Nat} {world finish : τ}
    {frame : FrameId} {first : Machine ω} {ending : Except Halt (Match (Value ω)) × Nat}
    (begun : job.begin node position = some (frame, first))
    (ended : job.runFrom host frame fuel first world = (some ending, finish))
    (soon : first.frames.size + fuel ≤ capacity) {history : List (Deed ω)}
    {machine : Machine ω} {later : τ}
    (visits : job.Visits host node position world history machine later) :
    machine.frames.size < capacity := by
  obtain ⟨_, _, begins, leads⟩ := visits
  rw [begun] at begins
  cases begins
  have := leads.length_lt ended
  have := leads.size_le (begin_orderly begun)
  omega

/-- A job whose first node calls the second one twice at the same position. -/
def doubled (memoize : Bool) : Job Empty Empty :=
  { grammar :=
      { (Grammar.empty 0 .tokens : Grammar Empty Empty) with
        slots := #[
          .ready ⟨"twice", [⟨1, by decide⟩, ⟨1, by decide⟩], "twice", none,
            ⟨fun _ position => .call ⟨1, by decide⟩ position (.start position),
              fun _ position memory m =>
                if memory.turn = 0 then
                  .call ⟨1, by decide⟩ position { memory with turn := 1 }
                else .done m⟩⟩,
          .ready ⟨"nothing", [], "nothing", none,
            .ofMatch fun _ position => .failure "nothing" (.point position)⟩] }
    input := .tokens #[]
    memoize
    limit := none }

theorem doubled_evaluates (memoize : Bool) :
    (doubled memoize).grammar.Evaluates (doubled memoize).input Empty.elim ⟨0, by decide⟩ 0
      (.failure "nothing" (.point 0)) :=
  .call (.done _ _) (.call (.done _ _) (.done _ _))

/-- The first call opens a frame and the second one finds its result. -/
theorem doubled_leads : ∃ frame first,
    (doubled true).begin ⟨0, by decide⟩ 0 = some (frame, first) ∧
      first.frames.size = 1 ∧
      ∃ machine, (doubled true).Leads ⟨Empty.elim, fun _ _ => ()⟩ frame first ()
        [.task (.start ⟨0, by decide⟩), .task (.start ⟨1, by decide⟩),
          .task (.resume ⟨0, by decide⟩ (.start 0) (.failure "nothing" (.point 0))),
          .task (.resume ⟨0, by decide⟩ { Memory.start 0 with turn := 1 }
            (.failure "nothing" (.point 0)))] machine () ∧
        machine.queue = [] ∧
        machine.result? frame = some (.failure "nothing" (.point 0)) := by
  have unknown : ((∅ : Std.HashMap Spot FrameId).insert
      ⟨⟨0, by decide⟩, 0⟩ ⟨0, by decide⟩)[(⟨⟨1, by decide⟩, 0⟩ : Spot)]? = none := by
    rw [Std.HashMap.getElem?_insert, if_neg (by decide), Std.HashMap.getElem?_empty]
  refine ⟨⟨0, by decide⟩, _, rfl, rfl, _,
    @Leads.task _ _ _ _ _ _ _ _ [_, _, _] _ _ _ _ _ _
      (@Leads.task _ _ _ _ _ _ _ _ [_, _] _ _ _ _ _ _
        (@Leads.task _ _ _ _ _ _ _ _ [_] _ _ _ _ _ _
          (.task .here rfl (turn_task rfl rfl rfl (.opened unknown rfl)))
          rfl (turn_task rfl rfl rfl (.done _)))
        rfl (turn_task rfl rfl rfl (.answered Std.HashMap.getElem?_insert_self rfl)))
      rfl (turn_task rfl rfl rfl (.done _)), rfl, rfl⟩

/-- Running the doubled job comes to what its first node evaluates to, and back. -/
theorem doubled_run_refines_evaluation :
    ∃ fuel steps,
      (doubled true).run ⟨Empty.elim, fun _ _ => ()⟩ fuel ⟨0, by decide⟩ 0 () =
        (some ⟨.failure "nothing" (.point 0), steps⟩, ()) ∧
      (doubled true).grammar.Evaluates (doubled true).input Empty.elim ⟨0, by decide⟩ 0
        (.failure "nothing" (.point 0)) := by
  obtain ⟨frame, first, begun, size, machine, leads, queue, finished⟩ := doubled_leads
  have ends : (doubled true).runFrom ⟨Empty.elim, fun _ _ => ()⟩ frame 1 machine () =
      (some (.ok (.failure "nothing" (.point 0)), machine.steps), ()) := by
    rw [Job.runFrom, turn_finished queue finished]
  have ended := (leads.runFrom 1).trans ends
  obtain ⟨finds, comes⟩ := @run_refines_evaluation Empty Empty Unit (doubled true)
    ⟨Empty.elim, fun _ _ => ()⟩ Empty.elim ⟨0, by decide⟩ 0 () (fun request => request.elim) rfl
    fun history machine later visits =>
      size_lt_of_runFrom begun ended (by rw [size]; decide) visits
  obtain ⟨⟨fuel, steps, _, runs⟩, uncut⟩ := finds _ (doubled_evaluates true)
  exact ⟨fuel, steps, runs fuel (Nat.le_refl fuel),
    comes fuel _ _ (runs fuel (Nat.le_refl fuel)) uncut⟩

end Job

end Packrat
