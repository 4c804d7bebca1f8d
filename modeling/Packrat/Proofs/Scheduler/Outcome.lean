import Packrat.Proofs.Scheduler.Prepared

/-!
# What runs come to

A run without a limit that ends has come to a machine with nothing left to do and a match
for the root, or has used up the indices.  The other way round, every run that comes to
such a machine ends with the match, whatever more fuel it has, and all that it does before
is the beginning of one history.
-/

namespace Packrat

variable {ω ρ τ : Type}

namespace Job

variable {job : Job ω ρ} {host : Host ω ρ τ} {root : NodeId} {position fuel : Nat} {start : τ}

theorem Leads.size_le_capacity {frame : FrameId} {first machine : Machine ω} {world : τ}
    {history : List (Deed ω)} (leads : job.Leads host frame first start history machine world)
    (orderly : first.Orderly job.memoize []) (small : first.frames.size ≤ capacity) :
    machine.frames.size ≤ capacity := by
  induction leads with
  | here => exact small
  | task earlier queue turned induction =>
      obtain ⟨move, moved⟩ := exists_moved_of_turn (earlier.orderly orderly) queue turned
      rcases moved.toStart with ⟨size, _⟩ | ⟨callee, last, size, _⟩
      · rw [size]
        exact induction
      · have := callee.inRange
        omega
  | cut _ queue newest turned induction =>
      obtain ⟨_, failure, rfl⟩ := cut_of_turn queue newest turned
      rw [Machine.size_complete]
      exact induction

theorem Visits.size_le_capacity {history : List (Deed ω)} {machine : Machine ω} {world : τ}
    (visits : job.Visits host root position start history machine world) :
    machine.frames.size ≤ capacity := by
  obtain ⟨frame, first, begun, leads⟩ := visits
  apply leads.size_le_capacity (begin_orderly begun)
  rw [size_begin begun]
  exact capacity_pos

theorem exists_begin (job : Job ω ρ) (root : NodeId) (position : Nat) :
    ∃ frame first, job.begin root position = some (frame, first) := by
  cases begun : job.begin root position with
  | some pair => exact ⟨pair.1, pair.2, rfl⟩
  | none =>
      have full := Machine.enter_eq_none_iff.mp (Option.map_eq_none_iff.mp begun)
      exact absurd capacity_pos (Nat.not_lt.mpr full)

/-- With this history a run comes to a machine that has nothing left to do and a match for
the root. -/
def Finds (job : Job ω ρ) (host : Host ω ρ τ) (root : NodeId) (position : Nat) (start : τ)
    (history : List (Deed ω)) (result : Match (Value ω)) (finish : τ) : Prop :=
  ∃ frame first machine, job.begin root position = some (frame, first) ∧
    job.Leads host frame first start history machine finish ∧ machine.queue = [] ∧
    machine.result? frame = some result

/-- A run without a limit that ends has found a match for the root, or there is no index
left. -/
theorem finds_or_overflows {outcome : Outcome ω} {finish : τ} (unlimited : job.limit = none)
    (ran : job.run host fuel root position start = (some outcome, finish)) :
    (∃ history, job.Finds host root position start history outcome.result finish) ∨
      outcome.result = .failure Halt.overflow.message (.point position) ∧
        ∃ history machine world, job.Visits host root position start history machine world ∧
          machine.frames.size = capacity := by
  obtain ⟨frame, first, begun⟩ := job.exists_begin root position
  simp only [run, begun] at ran
  cases ended : job.runFrom host frame fuel first start with
  | mk ending later =>
      cases ending with
      | none =>
          rw [ended] at ran
          cases ran
      | some ending =>
          obtain ⟨ending, steps⟩ := ending
          rw [ended] at ran
          obtain ⟨history, machine, world, leads, turned⟩ := exists_leads_of_runFrom ended
          have visits : job.Visits host root position start history machine world :=
            ⟨frame, first, begun, leads⟩
          rcases ended_of_turn turned with ⟨result, rfl, finished⟩ | ⟨_, limited⟩ |
            ⟨rfl, full⟩ | ⟨_, unfinished, noNewest⟩
          · obtain ⟨queue, rfl⟩ := queue_of_turn_ok turned
            cases ran
            exact .inl ⟨history, frame, first, machine, begun, leads, queue, finished⟩
          · exact absurd unlimited limited
          · cases ran
            exact .inr ⟨rfl, history, machine, world, visits,
              Nat.le_antisymm visits.size_le_capacity full⟩
          · -- The root's frame is unfinished itself, so there is one to fail.
            obtain ⟨own, found, _⟩ := leads.root_frame begun
            rw [Machine.result?_eq found] at unfinished
            exact absurd noNewest
              (Machine.newestUnfinished?_ne_none visits.size_le_capacity found unfinished)

/-- A run ends if all that it does takes so many turns at most. -/
theorem exists_run {bound : Nat}
    (short : ∀ history machine world, job.Visits host root position start history machine world →
      history.length ≤ bound) :
    ∃ outcome finish, job.run host (bound + 1) root position start = (some outcome, finish) := by
  obtain ⟨frame, first, begun⟩ := job.exists_begin root position
  simp only [run, begun]
  cases ran : job.runFrom host frame (bound + 1) first start with
  | mk ending finish =>
      cases ending with
      | none =>
          obtain ⟨history, machine, leads, length⟩ := exists_leads_of_runFrom_eq_none ran
          have := short history machine finish ⟨frame, first, begun, leads⟩
          omega
      | some ending =>
          obtain ⟨ending | result, steps⟩ := ending
          · exact ⟨_, finish, rfl⟩
          · exact ⟨_, finish, rfl⟩

section Finds

variable {history : List (Deed ω)} {result : Match (Value ω)} {finish : τ}
  (finds : job.Finds host root position start history result finish)

include finds

/-- A match that is found is what the run ends with. -/
theorem Finds.exists_run : ∃ steps, ∀ fuel, history.length < fuel →
    job.run host fuel root position start = (some ⟨result, steps⟩, finish) := by
  obtain ⟨frame, first, machine, begun, leads, queue, finished⟩ := finds
  refine ⟨machine.steps, fun fuel enough => ?_⟩
  obtain ⟨more, rfl⟩ := Nat.exists_eq_add_of_le enough
  have ended : job.runFrom host frame (history.length + 1) first start =
      (some (.ok result, machine.steps), finish) := by
    rw [leads.runFrom, runFrom, turn_finished queue finished]
  simp only [run, begun, runFrom_add ended more]

theorem Finds.isPrefix {sofar : List (Deed ω)} {machine : Machine ω} {world : τ}
    (visits : job.Visits host root position start sofar machine world) :
    sofar.IsPrefix history := by
  obtain ⟨frame, first, last, begun, leads, queue, finished⟩ := finds
  obtain ⟨_, _, begins, leadsThere⟩ := visits
  rw [begun] at begins
  cases begins
  exact leadsThere.isPrefix leads (turn_finished queue finished finish)

theorem Finds.unique {otherHistory : List (Deed ω)} {other : Match (Value ω)} {otherFinish : τ}
    (others : job.Finds host root position start otherHistory other otherFinish) :
    other = result := by
  obtain ⟨steps, runs⟩ := finds.exists_run
  obtain ⟨otherSteps, otherRuns⟩ := others.exists_run
  have whole := otherRuns (history.length + otherHistory.length + 1) (by omega)
  rw [runs (history.length + otherHistory.length + 1) (by omega)] at whole
  cases whole
  rfl

end Finds

/-! ## Ends of runs -/

/-- What a run is that ends in some way. -/
def Outcome.ofEnding (position : Nat) : Except Halt (Match (Value ω)) × Nat → Outcome ω
  | (.ok result, steps) => ⟨result, steps⟩
  | (.error halt, steps) => ⟨.failure halt.message (.point position), steps⟩

variable {frame : FrameId} {machine : Machine ω}

theorem run_eq (begun : job.begin root position = some (frame, machine)) (fuel : Nat) :
    (job.run host fuel root position start).1 =
      (job.runFrom host frame fuel machine start).1.map (Outcome.ofEnding position) := by
  simp only [run, begun]
  rcases job.runFrom host frame fuel machine start with ⟨_ | ⟨_ | _, _⟩, _⟩ <;> rfl

/-- What a run ends with, it ends with when it is given more fuel. -/
theorem run_mono {fuel more : Nat} {outcome : Outcome ω} (enough : fuel ≤ more)
    (ran : (job.run host fuel root position start).1 = some outcome) :
    (job.run host more root position start).1 = some outcome := by
  obtain ⟨rest, rfl⟩ := Nat.exists_eq_add_of_le enough
  obtain ⟨frame, first, begun⟩ := job.exists_begin root position
  rw [run_eq begun] at ran ⊢
  obtain ⟨ending, ended, rfl⟩ := Option.map_eq_some_iff.mp ran
  rw [runFrom_add (Prod.ext ended rfl) rest]
  rfl

end Job

end Packrat
