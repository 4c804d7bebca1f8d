import Packrat.Proofs.Scheduler.Outcome

/-!
# The limit of tasks

A run with a limit does what the run without one does until it has taken on as many tasks
as it may, and the next one ends it.  It always ends: turns that take on no task break a
circle, and as everything unfinished but the root is waited for, breaking a circle makes
a task or finishes the root.  This holds for any matchers, also for those that go on
calling forever.
-/

namespace Packrat

variable {ω ρ τ : Type}

namespace Machine

variable {machine : Machine ω} {root : FrameId}

/-- Whatever has no result is waited for, but for the root. -/
def Attended (machine : Machine ω) (root : FrameId) : Prop :=
  ∀ id frame, machine.frame? id = some frame → frame.result = none →
    id = root ∨ frame.waiters ≠ []

/-- How many tasks have been taken on after the next turn. -/
def stepsNext (machine : Machine ω) : Nat :=
  if machine.queue.isEmpty then machine.steps else machine.steps + 1

theorem stepsNext_nil (queue : machine.queue = []) : machine.stepsNext = machine.steps := by
  simp [stepsNext, queue]

theorem stepsNext_cons {task : Task ω} {rest : List (Task ω)}
    (queue : machine.queue = task :: rest) : machine.stepsNext = machine.steps + 1 := by
  simp [stepsNext, queue]

theorem steps_le_stepsNext (machine : Machine ω) : machine.steps ≤ machine.stepsNext := by
  unfold stepsNext
  split <;> omega

theorem stepsNext_le (machine : Machine ω) : machine.stepsNext ≤ machine.steps + 1 := by
  unfold stepsNext
  split <;> omega

@[simp] theorem steps_taken (machine : Machine ω) (rest : List (Task ω)) :
    (machine.taken rest).steps = machine.steps + 1 := rfl

@[simp] theorem steps_complete (machine : Machine ω) (memoize : Bool) (id : FrameId)
    (result : Match (Value ω)) : (machine.complete memoize id result).steps = machine.steps := by
  unfold complete
  split <;> rfl

end Machine

namespace Job

variable {job : Job ω ρ} {host : Host ω ρ τ} {root : FrameId} {machine next : Machine ω}

/-! ## Counting -/

theorem Moved.steps {id : FrameId} {move : Move ω} (moved : job.Moved machine id move next) :
    next.steps = machine.steps := by
  cases moved with
  | done result => exact machine.steps_complete _ _ _
  | answered => rfl
  | waiting => rfl
  | opened _ entered =>
      obtain ⟨_, rfl⟩ := Machine.enter_eq_some entered
      rfl

/-- A turn that goes on counts the task that it takes on. -/
theorem steps_of_turn_running {world after : τ}
    (turned : job.turn host root machine world = (.running next, after)) :
    next.steps = machine.stepsNext := by
  cases queue : machine.queue with
  | nil =>
      obtain ⟨stuck, newest⟩ := exists_newest_of_turn queue turned
      obtain ⟨_, failure, rfl⟩ := cut_of_turn queue newest turned
      rw [Machine.steps_complete, Machine.stepsNext_nil queue]
  | cons task rest =>
      rw [Machine.stepsNext_cons queue]
      cases found : machine.frame? task.frame with
      | none =>
          unfold turn at turned
          rw [queue] at turned
          simp only [perform, show machine.frames[task.frame.number]? = none from found] at turned
          split at turned
          next => cases turned
          next =>
            cases turned
            rfl
      | some frame => rw [(moved_of_turn queue found turned).steps, Machine.steps_taken]

/-- A turn that ends the run counts the task that it takes on. -/
theorem steps_of_turn_ended {world finish : τ} {ending : Except Halt (Match (Value ω))}
    {steps : Nat} (turned : job.turn host root machine world = (.ended ending steps, finish)) :
    steps = machine.stepsNext := by
  unfold turn at turned
  split at turned
  next task rest queue =>
    rw [Machine.stepsNext_cons queue]
    simp only at turned
    split at turned
    next =>
      cases turned
      rfl
    next =>
      split at turned
      next => cases turned
      next =>
        cases turned
        rfl
  next queue =>
    rw [Machine.stepsNext_nil queue]
    split at turned
    next =>
      cases turned
      rfl
    next =>
      split at turned
      next =>
        cases turned
        rfl
      next => cases turned

/-- A run takes on no fewer tasks than it has taken on already. -/
theorem steps_le_of_runFrom {fuel steps : Nat} {world finish : τ}
    {ending : Except Halt (Match (Value ω))}
    (ended : job.runFrom host root fuel machine world = (some (ending, steps), finish)) :
    machine.stepsNext ≤ steps := by
  induction fuel generalizing machine world with
  | zero => cases ended
  | succ fuel induction =>
      rw [runFrom] at ended
      split at ended
      next turned =>
        cases ended
        exact Nat.le_of_eq (steps_of_turn_ended turned).symm
      next next after turned =>
        rw [← steps_of_turn_running turned]
        exact Nat.le_trans (Machine.steps_le_stepsNext next) (induction ended)

/-! ## Every run with a limit ends -/

/-- A move leaves everything waited for: what it opens is waited for by the frame that
moves. -/
theorem Moved.attended {id : FrameId} {move : Move ω} (moved : job.Moved machine id move next)
    (attended : machine.Attended root) : next.Attended root := by
  intro other later found unfinished
  rcases moved.frame_cases found with ⟨before, there, _, kept | finished⟩ |
    ⟨_, _, memory, _, _, rfl⟩
  · obtain ⟨sameResult, waiters⟩ := kept
    rcases attended other before there (sameResult ▸ unfinished) with isRoot | waitedFor
    · exact .inl isRoot
    · exact .inr fun none => waitedFor (List.subset_nil.mp (none ▸ waiters))
  · obtain ⟨_, _, result, _, hasResult⟩ := finished
    rw [hasResult] at unfinished
    cases unfinished
  · exact .inr (List.cons_ne_nil _ _)

theorem begin_attended {node : NodeId} {position : Nat}
    (begun : job.begin node position = some (root, machine)) : machine.Attended root := by
  intro id frame found _
  rw [frame?_begin begun] at found
  split at found
  next isRoot => exact .inl isRoot
  next => cases found

theorem Leads.attended {first : Machine ω} {start world : τ} {history : List (Deed ω)}
    (leads : job.Leads host root first start history machine world)
    (orderly : first.Orderly job.memoize []) (attended : first.Attended root) :
    machine.Attended root := by
  induction leads with
  | here => exact attended
  | task leadsThere queue turned induction =>
      obtain ⟨move, moved⟩ := exists_moved_of_turn (leadsThere.orderly orderly) queue turned
      exact moved.attended induction
  | cut _ queue newest turned induction =>
      obtain ⟨_, failure, rfl⟩ := cut_of_turn queue newest turned
      exact (Moved.done failure).attended induction

/-- Breaking a circle gives something to do, unless it finishes the root. -/
theorem finished_of_cut {stuck : FrameId} {failure : Match (Value ω)}
    (attended : machine.Attended root) (newest : machine.newestUnfinished? = some stuck)
    (idle : (machine.complete job.memoize stuck failure).queue = []) :
    (machine.complete job.memoize stuck failure).result? root = some failure := by
  obtain ⟨⟨spot, _, waiters⟩, found, rfl⟩ := Machine.newestUnfinished?_eq_some newest
  rcases attended stuck _ found rfl with rfl | waitedFor
  · exact Machine.result?_eq ((Machine.frame?_complete found _ _ _).trans (if_pos rfl))
  · rw [Machine.queue_complete found, List.append_eq_nil_iff, List.map_eq_nil_iff] at idle
    exact absurd idle.2 waitedFor

/-- Each turn that breaks a circle is paid for by a task: a run takes no more than two
turns for every task. -/
theorem Leads.length_le {first : Machine ω} {start world : τ} {history : List (Deed ω)}
    (leads : job.Leads host root first start history machine world)
    (orderly : first.Orderly job.memoize []) (attended : first.Attended root)
    (busy : first.queue ≠ []) :
    history.length ≤ 2 * machine.steps ∧
      (machine.queue = [] → machine.result? root = none → history.length < 2 * machine.steps) := by
  induction leads with
  | here => exact ⟨Nat.zero_le _, fun queue => absurd queue busy⟩
  | task _ queue turned induction =>
      have counted := steps_of_turn_running turned
      rw [Machine.stepsNext_cons queue] at counted
      rw [List.length_append, List.length_singleton, counted]
      exact ⟨by omega, fun _ _ => by omega⟩
  | cut leadsThere queue newest turned induction =>
      have counted := steps_of_turn_running turned
      rw [Machine.stepsNext_nil queue] at counted
      obtain ⟨unfinished, failure, rfl⟩ := cut_of_turn queue newest turned
      have fewer := induction.2 queue unfinished
      rw [List.length_append, List.length_singleton, counted]
      refine ⟨by omega, fun idle stillUnfinished => ?_⟩
      rw [finished_of_cut (leadsThere.attended orderly attended) newest idle] at stillUnfinished
      cases stillUnfinished

/-- A run with a limit goes on only with as many tasks as it may take on. -/
theorem Leads.steps_le {first : Machine ω} {start world : τ} {history : List (Deed ω)}
    {limit : Nat} (leads : job.Leads host root first start history machine world)
    (limited : job.limit = some limit) (few : first.steps ≤ limit) : machine.steps ≤ limit := by
  induction leads with
  | here => exact few
  | @task _ machine _ _ _ task rest _ queue turned induction =>
      have counted := steps_of_turn_running turned
      rw [Machine.stepsNext_cons queue] at counted
      rw [counted]
      by_contra beyond
      have tooMany : job.limit.any (· < machine.steps + 1) = true := by
        rw [limited]
        exact decide_eq_true (Nat.lt_of_not_le beyond)
      rw [turn_over queue tooMany] at turned
      cases turned
  | cut _ queue _ turned induction =>
      have counted := steps_of_turn_running turned
      rw [Machine.stepsNext_nil queue] at counted
      exact counted ▸ induction

/-! ## With a limit and without -/

/-- The same job with another limit. -/
def within (job : Job ω ρ) (limit : Option Nat) : Job ω ρ := { job with limit }

/-- A turn with a limit is a turn without one, unless it would be one task too many. -/
theorem turn_within {limit : Nat} (few : machine.steps ≤ limit) (world : τ) :
    (job.within (some limit)).turn host root machine world =
      if machine.stepsNext ≤ limit then (job.within none).turn host root machine world
      else (.ended (.error .stepLimit) machine.stepsNext, world) := by
  cases queue : machine.queue with
  | nil =>
      rw [Machine.stepsNext_nil queue, if_pos few]
      unfold turn
      rw [queue]
      rfl
  | cons task rest =>
      rw [Machine.stepsNext_cons queue]
      split
      next inside =>
        have notOver : (some limit).any (· < machine.steps + 1) = false :=
          decide_eq_false (Nat.not_lt.mpr inside)
        unfold turn
        rw [queue]
        simp only [within, notOver, Option.any_none, Bool.false_eq_true, if_false]
        rfl
      next beyond =>
        have tooMany : (some limit).any (· < machine.steps + 1) = true :=
          decide_eq_true (Nat.lt_of_not_le beyond)
        exact turn_over queue tooMany world

/-- What a run without a limit ends with within so many tasks, the run with the limit
ends with as well, and it ends at the limit where that takes more. -/
theorem runFrom_within {limit fuel steps : Nat} {world finish : τ}
    {ending : Except Halt (Match (Value ω))} (few : machine.steps ≤ limit)
    (ended : (job.within none).runFrom host root fuel machine world =
      (some (ending, steps), finish)) :
    ((job.within (some limit)).runFrom host root fuel machine world).1 =
      some (if steps ≤ limit then (ending, steps) else (.error .stepLimit, limit + 1)) := by
  induction fuel generalizing machine world with
  | zero => cases ended
  | succ fuel induction =>
      have later := steps_le_of_runFrom ended
      rw [runFrom] at ended
      rw [runFrom, turn_within few]
      by_cases inside : machine.stepsNext ≤ limit
      · rw [if_pos inside]
        cases turned : (job.within none).turn host root machine world with
        | mk progress after =>
            rw [turned] at ended
            cases progress with
            | ended result count =>
                cases ended
                rw [if_pos ((steps_of_turn_ended turned).symm ▸ inside)]
            | running next =>
                exact induction ((steps_of_turn_running turned).symm ▸ inside) ended
      · have atMost := machine.stepsNext_le
        rw [if_neg inside, if_neg (by omega), show machine.stepsNext = limit + 1 by omega]

/-- What a run with a limit ends with before the limit, the run without one ends with. -/
theorem runFrom_without {limit fuel steps : Nat} {world finish : τ}
    {ending : Except Halt (Match (Value ω))} (few : machine.steps ≤ limit)
    (before : ending ≠ .error .stepLimit)
    (ended : (job.within (some limit)).runFrom host root fuel machine world =
      (some (ending, steps), finish)) :
    (job.within none).runFrom host root fuel machine world = (some (ending, steps), finish) ∧
      steps ≤ limit := by
  induction fuel generalizing machine world with
  | zero => cases ended
  | succ fuel induction =>
      rw [runFrom, turn_within few] at ended
      rw [runFrom]
      by_cases inside : machine.stepsNext ≤ limit
      · rw [if_pos inside] at ended
        cases turned : (job.within none).turn host root machine world with
        | mk progress after =>
            rw [turned] at ended
            cases progress with
            | ended result count =>
                cases ended
                exact ⟨rfl, (steps_of_turn_ended turned).symm ▸ inside⟩
            | running next =>
                exact induction ((steps_of_turn_running turned).symm ▸ inside) ended
      · rw [if_neg inside] at ended
        cases ended
        exact absurd rfl before

/-! ## Whole runs -/

theorem Outcome.steps_ofEnding (position : Nat)
    (ending : Except Halt (Match (Value ω)) × Nat) :
    (Outcome.ofEnding position ending).steps = ending.2 := by
  obtain ⟨_ | _, _⟩ := ending <;> rfl

variable {node : NodeId} {position : Nat} {start : τ}

theorem steps_begin (begun : job.begin node position = some (root, machine)) :
    machine.steps = 0 := by
  obtain ⟨opened, entered, rfl⟩ := exists_enter_of_begin begun
  obtain ⟨_, rfl⟩ := Machine.enter_eq_some entered
  rfl

/-- With a limit, a run ends, and takes on no more tasks than one above it. -/
theorem run_within_ends (job : Job ω ρ) (host : Host ω ρ τ) (node : NodeId) (position : Nat)
    (start : τ) (limit : Nat) :
    ∃ outcome, ((job.within (some limit)).run host (2 * limit + 1) node position start).1 =
      some outcome ∧ outcome.steps ≤ limit + 1 := by
  obtain ⟨root, first, begun⟩ := (job.within (some limit)).exists_begin node position
  have few : first.steps ≤ limit := steps_begin begun ▸ Nat.zero_le limit
  have busy : first.queue ≠ [] := by simp [queue_begin begun]
  have short : ∀ history machine world,
      (job.within (some limit)).Visits host node position start history machine world →
        history.length ≤ 2 * limit := by
    rintro history machine world ⟨_, _, begins, leads⟩
    rw [begun] at begins
    cases begins
    have paid := (leads.length_le (begin_orderly begun) (begin_attended begun) busy).1
    have within := leads.steps_le rfl few
    omega
  obtain ⟨outcome, finish, ran⟩ := exists_run short
  have ran : (Job.run _ host _ node position start).1 = some outcome := congrArg Prod.fst ran
  refine ⟨outcome, ran, ?_⟩
  rw [run_eq begun] at ran
  obtain ⟨⟨ending, steps⟩, ended, rfl⟩ := Option.map_eq_some_iff.mp ran
  obtain ⟨history, machine, world, leads, turned⟩ := exists_leads_of_runFrom (Prod.ext ended rfl)
  have within := leads.steps_le rfl few
  have counted : steps = machine.stepsNext := steps_of_turn_ended turned
  have atMost := machine.stepsNext_le
  rw [Outcome.steps_ofEnding]
  omega

/-- What a run with a limit ends with, it ends with in twice as many turns. -/
theorem run_within_enough {limit enough fuel : Nat} {outcome : Outcome ω}
    (ran : ((job.within (some limit)).run host enough node position start).1 = some outcome)
    (isEnough : 2 * limit + 1 ≤ fuel) :
    ((job.within (some limit)).run host fuel node position start).1 = some outcome := by
  obtain ⟨other, ends, _⟩ := run_within_ends job host node position start limit
  have both := run_mono (Nat.le_max_right enough (2 * limit + 1)) ends
  rw [run_mono (Nat.le_max_left enough (2 * limit + 1)) ran] at both
  cases both
  exact run_mono isEnough ends

theorem run_within {limit enough steps : Nat} {result : Match (Value ω)}
    (ran : ((job.within none).run host enough node position start).1 = some ⟨result, steps⟩) :
    ((job.within (some limit)).run host enough node position start).1 =
      some (if steps ≤ limit then ⟨result, steps⟩
        else ⟨.failure "step limit exceeded" (.point position), limit + 1⟩) := by
  obtain ⟨root, first, begun⟩ := (job.within none).exists_begin node position
  have few : first.steps ≤ limit := steps_begin begun ▸ Nat.zero_le limit
  rw [run_eq begun] at ran
  obtain ⟨⟨ending, count⟩, ended, same⟩ := Option.map_eq_some_iff.mp ran
  have isCount : count = steps :=
    (Outcome.steps_ofEnding position (ending, count)).symm.trans (congrArg Outcome.steps same)
  have begunWithin : (job.within (some limit)).begin node position = some (root, first) := begun
  rw [run_eq begunWithin, runFrom_within few (Prod.ext ended rfl), Option.map_some, isCount]
  rw [isCount] at same
  split
  next => rw [same]
  next => rfl

theorem run_without {limit enough : Nat} {outcome : Outcome ω}
    (before : outcome.result ≠ .failure "step limit exceeded" (.point position))
    (ran : ((job.within (some limit)).run host enough node position start).1 = some outcome) :
    ((job.within none).run host enough node position start).1 = some outcome ∧
      outcome.steps ≤ limit := by
  obtain ⟨root, first, begun⟩ := (job.within (some limit)).exists_begin node position
  have few : first.steps ≤ limit := steps_begin begun ▸ Nat.zero_le limit
  rw [run_eq begun] at ran
  obtain ⟨⟨ending, count⟩, ended, rfl⟩ := Option.map_eq_some_iff.mp ran
  have notLimit : ending ≠ .error .stepLimit := by
    rintro rfl
    exact before rfl
  obtain ⟨endedWithout, inside⟩ := runFrom_without few notLimit (Prod.ext ended rfl)
  have begunWithout : (job.within none).begin node position = some (root, first) := begun
  rw [run_eq begunWithout, endedWithout]
  exact ⟨rfl, (Outcome.steps_ofEnding position (ending, count)).symm ▸ inside⟩

/-- Whatever the matchers do, a limit of tasks is an exact threshold: the run ends within
it, or one task above.  What the run without a limit comes to within the limit is what it
comes to, and otherwise it fails where it was to start.  So a higher limit changes no
other result. -/
theorem step_limit_is_threshold (job : Job ω ρ) (host : Host ω ρ τ) (node : NodeId)
    (position : Nat) (start : τ) (limit : Nat) :
    (∃ outcome, outcome.steps ≤ limit + 1 ∧ ∀ fuel, 2 * limit + 1 ≤ fuel →
      ((job.within (some limit)).run host fuel node position start).1 = some outcome) ∧
    (∀ enough result steps,
      ((job.within none).run host enough node position start).1 = some ⟨result, steps⟩ →
      ∀ fuel, 2 * limit + 1 ≤ fuel →
        ((job.within (some limit)).run host fuel node position start).1 =
          some (if steps ≤ limit then ⟨result, steps⟩
            else ⟨.failure "step limit exceeded" (.point position), limit + 1⟩)) ∧
    (∀ higher enough outcome, limit ≤ higher →
      ((job.within (some limit)).run host enough node position start).1 = some outcome →
      outcome.result ≠ .failure "step limit exceeded" (.point position) →
      ∀ fuel, 2 * higher + 1 ≤ fuel →
        ((job.within (some higher)).run host fuel node position start).1 = some outcome) := by
  refine ⟨?_, ?_, ?_⟩
  · obtain ⟨outcome, ends, few⟩ := run_within_ends job host node position start limit
    exact ⟨outcome, few, fun fuel enough => run_mono enough ends⟩
  · intro enough result steps ran fuel isEnough
    exact run_within_enough (run_within ran) isEnough
  · intro higher enough outcome isHigher ran before fuel isEnough
    obtain ⟨withoutLimit, inside⟩ := run_without before ran
    have withHigher : ((job.within (some higher)).run host enough node position start).1 = _ :=
      run_within withoutLimit
    rw [if_pos (Nat.le_trans inside isHigher)] at withHigher
    exact run_within_enough withHigher isEnough

end Job

end Packrat
