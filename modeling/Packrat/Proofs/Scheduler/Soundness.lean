import Packrat.Proofs.Scheduler.Contract

/-!
# Runs without cuts find what recursive evaluation finds

As long as no frame is failed to break a circle, every result that a frame has is what
its spot evaluates to.  The contract that carries this through a run also speaks of the
steps, which are to bring nothing about that does not come of the spot of their frame.
-/

namespace Packrat

variable {ω ρ τ : Type}

namespace Grammar

variable {g : Grammar ω ρ} {input : Input ω} {reply : ρ → Answer ω}

/-- Whatever comes of a move comes of the spot. -/
def Onward (g : Grammar ω ρ) (input : Input ω) (reply : ρ → Answer ω) (spot : Spot)
    (move : Move ω) : Prop :=
  ∀ result, g.Completes input reply spot move result → g.Comes input reply spot result

theorem Onward.opening (spot : Spot) :
    g.Onward input reply spot (g.opening input reply spot) :=
  fun _ comes => comes

theorem Onward.comes {spot : Spot} {result : Match (Value ω)}
    (onward : g.Onward input reply spot (.done result)) : g.Comes input reply spot result :=
  onward result (.done spot result)

theorem Onward.answered {spot : Spot} {node : NodeId} {position : Nat} {memory : Memory ω}
    {answer : Match (Value ω)}
    (onward : g.Onward input reply spot (.call node position memory))
    (comes : g.Comes input reply (g.spot node position) answer) :
    g.Onward input reply spot (g.response input reply spot memory answer) :=
  fun result rest => onward result (.call comes rest)

end Grammar

namespace Job

variable {job : Job ω ρ} {host : Host ω ρ τ} {reply : ρ → Answer ω}

/-- What comes of a spot in a job. -/
abbrev Comes (job : Job ω ρ) (reply : ρ → Answer ω) (spot : Spot)
    (result : Match (Value ω)) : Prop :=
  job.grammar.Comes job.input reply spot result

/-- A run comes to what recursive evaluation does: every result is what comes of its spot,
and no step brings anything else about. -/
def evaluation (job : Job ω ρ) (reply : ρ → Answer ω) : job.Contract where
  spots _ := True
  results := job.Comes reply
  steps spot step := job.grammar.Onward job.input reply spot (step.move reply)
  moves := job.grammar.Onward job.input reply
  start spot frame _ := by
    rw [step_start_move]
    exact .opening spot
  done _ _ onward := onward.comes
  call _ _ _ _ _ := trivial
  resume spot node position memory onward answer comes frame := by
    rw [step_resume_move]
    exact onward.answered comes

/-- A machine that has come to nothing but what recursive evaluation does. -/
abbrev Faithful (job : Job ω ρ) (reply : ρ → Answer ω) (machine : Machine ω) : Prop :=
  (job.evaluation reply).Obeyed machine

theorem evaluation_suits (answers : host.Answers reply) :
    (job.evaluation reply).Suits host := by
  intro spot step world onward
  show job.grammar.Onward job.input reply spot (host.settle step world).1
  rw [answers.settle]
  exact onward

/-- A run that fails no frame and does not use up the indices ends with what comes of the
root's spot. -/
theorem comes_of_runFrom {root : FrameId} {fuel steps : Nat} {first : Machine ω}
    {start finish : τ} {ending : Except Halt (Match (Value ω))} {frame : Frame ω}
    (answers : host.Answers reply) (unlimited : job.limit = none)
    (orderly : first.Orderly job.memoize []) (faithful : job.Faithful reply first)
    (found : first.frame? root = some frame)
    (room : ∀ history machine world, job.Leads host root first start history machine world →
      machine.frames.size < capacity)
    (uncut : ∀ history machine world, job.Leads host root first start history machine world →
      Uncut history)
    (ended : job.runFrom host root fuel first start = (some (ending, steps), finish)) :
    ∃ result, ending = .ok result ∧ job.Comes reply frame.spot result := by
  obtain ⟨history, machine, world, leads, turned⟩ := exists_leads_of_runFrom ended
  obtain ⟨grown, there, sameSpot, _⟩ := leads.grows orderly root frame found
  have small := room history machine world leads
  rcases ended_of_turn turned with ⟨result, rfl, finished⟩ | ⟨_, limited⟩ | ⟨_, full⟩ |
    ⟨_, unfinished, noneLeft⟩
  · have hasResult : grown.result = some result :=
      (Machine.result?_eq there).symm.trans finished
    have kept := leads.obeyed (evaluation_suits answers) (fun stuck isCut =>
      absurd isCut (uncut history machine world leads stuck)) orderly faithful
    refine ⟨result, rfl, ?_⟩
    rw [← sameSpot]
    exact kept.results root grown result there hasResult
  · exact absurd unlimited limited
  · omega
  · have noResult : grown.result = none :=
      (Machine.result?_eq there).symm.trans unfinished
    exact absurd noneLeft (Machine.newestUnfinished?_ne_none (by omega) there noResult)

end Job

end Packrat
