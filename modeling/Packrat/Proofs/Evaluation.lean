import Packrat.Scheduler.Run

/-!
# Evaluating a node recursively

The plain meaning of a resolved node: its matcher is run, and each call is answered with
what the called node evaluates to.  There is no queue, no table and no sharing of
results.  `Evaluates` is the least relation of this kind, and `ComesWithin` cuts it off
at a depth of nested calls, for proofs by induction on that depth.

The functions of a caller are taken to be functions: a request is always answered in the
same way.
-/

namespace Packrat

variable {ω ρ τ : Type}

/-- The host answers every request as `reply` says, whatever its world is. -/
def Host.Answers (host : Host ω ρ τ) (reply : ρ → Answer ω) : Prop :=
  ∀ request world, (host.answer request world).1 = reply request

/-- The move that a step comes to when its requests are answered by `reply`. -/
def Step.move (reply : ρ → Answer ω) : Step ω ρ → Move ω
  | .done result => .done result
  | .call node position memory => .call node position memory
  | .ask request next => (next (reply request)).move reply

/-- A move as the last step before it. -/
def Move.toStep : Move ω → Step ω ρ
  | .done result => .done result
  | .call node position memory => .call node position memory

theorem Host.Answers.settle {host : Host ω ρ τ} {reply : ρ → Answer ω}
    (answers : host.Answers reply) (step : Step ω ρ) (world : τ) :
    (host.settle step world).1 = step.move reply := by
  induction step generalizing world with
  | done result => rfl
  | call node position memory => rfl
  | ask request next induction =>
      simp only [Host.settle, Step.move]
      rw [answers request world]
      exact induction (reply request) _

/-- What matches where no node was resolved. -/
def Matcher.unresolved : Matcher ω ρ :=
  ⟨fun _ position => .done (.failure "unresolved parser" (.point position)),
    fun _ position _ _ => .done (.failure "unresolved parser" (.point position))⟩

namespace Grammar

/-- Where a call of a node leads. -/
def spot (g : Grammar ω ρ) (node : NodeId) (position : Nat) : Spot :=
  ⟨g.follow node, position⟩

/-- The matcher that is run at a spot. -/
def matcherAt (g : Grammar ω ρ) (spot : Spot) : Matcher ω ρ :=
  (g.matcher? spot.node).getD .unresolved

/-- The first move at a spot. -/
def opening (g : Grammar ω ρ) (input : Input ω) (reply : ρ → Answer ω) (spot : Spot) :
    Move ω :=
  ((g.matcherAt spot).start input spot.position).move reply

/-- The move at a spot after a call is answered. -/
def response (g : Grammar ω ρ) (input : Input ω) (reply : ρ → Answer ω) (spot : Spot)
    (memory : Memory ω) (answer : Match (Value ω)) : Move ω :=
  ((g.matcherAt spot).resume input spot.position memory answer).move reply

/-- What a move at a spot comes to when each call is answered with what the matcher of
the called spot comes to. -/
inductive Completes (g : Grammar ω ρ) (input : Input ω) (reply : ρ → Answer ω) :
    Spot → Move ω → Match (Value ω) → Prop where
  | done (spot : Spot) (result : Match (Value ω)) :
      Completes g input reply spot (.done result) result
  | call {spot : Spot} {node : NodeId} {position : Nat} {memory : Memory ω}
      {answer result : Match (Value ω)} :
      Completes g input reply (g.spot node position)
        (g.opening input reply (g.spot node position)) answer →
      Completes g input reply spot (g.response input reply spot memory answer) result →
      Completes g input reply spot (.call node position memory) result

/-- What the matcher of a spot comes to. -/
def Comes (g : Grammar ω ρ) (input : Input ω) (reply : ρ → Answer ω) (spot : Spot)
    (result : Match (Value ω)) : Prop :=
  g.Completes input reply spot (g.opening input reply spot) result

/-- What a node evaluates to at a position: what the matcher of the node that it stands
for comes to there, with every call answered by what the called node evaluates to. -/
def Evaluates (g : Grammar ω ρ) (input : Input ω) (reply : ρ → Answer ω) (node : NodeId)
    (position : Nat) (result : Match (Value ω)) : Prop :=
  g.Comes input reply (g.spot node position) result

/-- A node evaluates to one match at most. -/
theorem Completes.unique {g : Grammar ω ρ} {input : Input ω} {reply : ρ → Answer ω}
    {spot : Spot} {move : Move ω} {first second : Match (Value ω)}
    (comes : g.Completes input reply spot move first)
    (other : g.Completes input reply spot move second) : first = second := by
  induction comes generalizing second with
  | done spot result =>
      cases other
      rfl
  | call _ _ calleeUnique restUnique =>
      cases other with
      | call callee rest =>
          cases calleeUnique callee
          exact restUnique rest

end Grammar

/-- What a move of a matcher comes to when `answers` says how calls may be answered. -/
inductive Matcher.Yields (matcher : Matcher ω ρ) (input : Input ω) (reply : ρ → Answer ω)
    (position : Nat) (answers : NodeId → Nat → Match (Value ω) → Prop) :
    Move ω → Match (Value ω) → Prop where
  | done (result : Match (Value ω)) :
      Yields matcher input reply position answers (.done result) result
  | call {node : NodeId} {place : Nat} {memory : Memory ω}
      {answer result : Match (Value ω)} :
      answers node place answer →
      Yields matcher input reply position answers
        ((matcher.resume input position memory answer).move reply) result →
      Yields matcher input reply position answers (.call node place memory) result

theorem Matcher.Yields.mono {matcher : Matcher ω ρ} {input : Input ω} {reply : ρ → Answer ω}
    {position : Nat} {answers others : NodeId → Nat → Match (Value ω) → Prop}
    {move : Move ω} {result : Match (Value ω)}
    (yields : matcher.Yields input reply position answers move result)
    (more : ∀ node place answer, answers node place answer → others node place answer) :
    matcher.Yields input reply position others move result := by
  induction yields with
  | done result => exact .done result
  | call answered _ induction => exact .call (more _ _ _ answered) induction

namespace Grammar

/-- What the matcher of a spot comes to with calls nested less than `depth` deep. -/
def ComesWithin (g : Grammar ω ρ) (input : Input ω) (reply : ρ → Answer ω) :
    Nat → Spot → Match (Value ω) → Prop
  | 0, _, _ => False
  | depth + 1, spot, result =>
    (g.matcherAt spot).Yields input reply spot.position
      (fun node position answer => ComesWithin g input reply depth (g.spot node position) answer)
      (g.opening input reply spot) result

section

variable {g : Grammar ω ρ} {input : Input ω} {reply : ρ → Answer ω}

theorem ComesWithin.succ {depth : Nat} {spot : Spot} {result : Match (Value ω)}
    (comes : g.ComesWithin input reply depth spot result) :
    g.ComesWithin input reply (depth + 1) spot result := by
  induction depth generalizing spot result with
  | zero => cases comes
  | succ depth induction => exact Matcher.Yields.mono comes fun _ _ _ => induction

theorem ComesWithin.mono {depth more : Nat} (enough : depth ≤ more) {spot : Spot}
    {result : Match (Value ω)} (comes : g.ComesWithin input reply depth spot result) :
    g.ComesWithin input reply more spot result := by
  induction enough with
  | refl => exact comes
  | step _ induction => exact induction.succ

theorem completes_of_yields {depth : Nat}
    (sound : ∀ spot answer, g.ComesWithin input reply depth spot answer →
      g.Comes input reply spot answer)
    {spot : Spot} {move : Move ω} {result : Match (Value ω)}
    (yields : (g.matcherAt spot).Yields input reply spot.position
      (fun node position answer =>
        g.ComesWithin input reply depth (g.spot node position) answer) move result) :
    g.Completes input reply spot move result := by
  induction yields with
  | done result => exact .done spot result
  | call answered _ induction => exact .call (sound _ _ answered) induction

theorem ComesWithin.comes {depth : Nat} {spot : Spot} {result : Match (Value ω)}
    (comes : g.ComesWithin input reply depth spot result) :
    g.Comes input reply spot result := by
  induction depth generalizing spot result with
  | zero => cases comes
  | succ depth induction => exact completes_of_yields (fun _ _ => induction) comes

/-- Whatever a move comes to, it does so with calls nested to some depth. -/
theorem Completes.exists_yields {spot : Spot} {move : Move ω} {result : Match (Value ω)}
    (comes : g.Completes input reply spot move result) :
    ∃ depth, (g.matcherAt spot).Yields input reply spot.position
      (fun node position answer =>
        g.ComesWithin input reply depth (g.spot node position) answer) move result := by
  induction comes with
  | done spot result => exact ⟨0, .done result⟩
  | call _ _ calleeWithin restWithin =>
      obtain ⟨calleeDepth, callee⟩ := calleeWithin
      obtain ⟨restDepth, rest⟩ := restWithin
      have within : g.ComesWithin input reply (calleeDepth + 1) _ _ := callee
      refine ⟨max (calleeDepth + 1) restDepth, .call (within.mono (Nat.le_max_left _ _)) ?_⟩
      exact rest.mono fun _ _ _ deeper => deeper.mono (Nat.le_max_right _ _)

theorem comes_iff_exists_depth {spot : Spot} {result : Match (Value ω)} :
    g.Comes input reply spot result ↔
      ∃ depth, g.ComesWithin input reply depth spot result := by
  constructor
  · intro comes
    obtain ⟨depth, yields⟩ := Completes.exists_yields comes
    exact ⟨depth + 1, yields⟩
  · rintro ⟨depth, within⟩
    exact within.comes

theorem Comes.unique {spot : Spot} {first second : Match (Value ω)}
    (comes : g.Comes input reply spot first) (other : g.Comes input reply spot second) :
    first = second :=
  Completes.unique comes other

end

end Grammar

/-! ## The moves of a run -/

namespace Job

variable {job : Job ω ρ} {host : Host ω ρ τ} {reply : ρ → Answer ω}

theorem step_start (spot : Spot) (frame : FrameId) :
    job.step spot (.start frame) =
      (job.grammar.matcherAt spot).start job.input spot.position := by
  unfold Job.step Grammar.matcherAt
  cases job.grammar.matcher? spot.node <;> rfl

theorem step_resume (spot : Spot) (frame : FrameId) (memory : Memory ω)
    (answer : Match (Value ω)) :
    job.step spot (.resume frame memory answer) =
      (job.grammar.matcherAt spot).resume job.input spot.position memory answer := by
  unfold Job.step Grammar.matcherAt
  cases job.grammar.matcher? spot.node <;> rfl

theorem step_start_move (spot : Spot) (frame : FrameId) :
    (job.step spot (.start frame)).move reply = job.grammar.opening job.input reply spot := by
  rw [step_start]
  rfl

theorem step_resume_move (spot : Spot) (frame : FrameId) (memory : Memory ω)
    (answer : Match (Value ω)) :
    (job.step spot (.resume frame memory answer)).move reply =
      job.grammar.response job.input reply spot memory answer := by
  rw [step_resume]
  rfl

end Job

end Packrat
