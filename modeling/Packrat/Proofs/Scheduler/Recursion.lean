import Packrat.Proofs.Scheduler.Circles
import Packrat.Proofs.Scheduler.Conclusion
import Packrat.Proofs.Scheduler.Outcome
import Packrat.Proofs.Scheduler.Soundness

/-!
# Rules that start with themselves

A node that starts with a rule waits for the rule, if the rule tries it, and the rule for
the node.  By then everything else that the rule has tried is finished, so the node is the
newest frame without a result, and it is the one that is failed.  `Undecided` is what
holds of a run until the rule has a result: whatever has been finished so far is what it
evaluates to, or has been failed for starting with the rule.
-/

namespace Packrat

variable {ω ρ τ : Type}

namespace Grammar

variable (g : Grammar ω ρ) (input : Input ω) (reply : ρ → Answer ω)

/-- The first thing that is done at a spot is to call another one. -/
def StartsWith (spot callee : Spot) : Prop :=
  ∃ node position memory, g.opening input reply spot = .call node position memory ∧
    g.spot node position = callee

/-- What a rule takes for the answer of a spot that it calls: a failure if that starts with
the rule itself, and otherwise what the spot evaluates to. -/
def Settles (rule spot : Spot) (answer : Match (Value ω)) : Prop :=
  spot ≠ rule ∧
    (g.StartsWith input reply spot rule ∧ answer = Job.leftRecursion spot.position ∨
      ¬g.StartsWith input reply spot rule ∧ g.Comes input reply spot answer)

/-- What comes of a move of the rule, if calls are answered so. -/
def SettlesTo (rule : Spot) (move : Move ω) (result : Match (Value ω)) : Prop :=
  (g.matcherAt rule).Yields input reply rule.position
    (fun node position => g.Settles input reply rule (g.spot node position)) move result

variable {g input reply} {rule spot : Spot}

theorem Settles.unique {answer other : Match (Value ω)}
    (settles : g.Settles input reply rule spot answer)
    (others : g.Settles input reply rule spot other) : answer = other := by
  obtain ⟨_, ⟨starts, rfl⟩ | ⟨notFirst, comes⟩⟩ := settles <;>
    obtain ⟨_, ⟨otherStarts, rfl⟩ | ⟨otherNotFirst, otherComes⟩⟩ := others
  · rfl
  · exact absurd starts otherNotFirst
  · exact absurd otherStarts notFirst
  · exact comes.unique otherComes

/-- Whoever starts with a rule and evaluates to something needs what the rule evaluates
to. -/
theorem StartsWith.comesWithin {depth : Nat} {result : Match (Value ω)}
    (starts : g.StartsWith input reply spot rule)
    (comes : g.ComesWithin input reply (depth + 1) spot result) :
    ∃ other, g.ComesWithin input reply depth rule other := by
  obtain ⟨node, position, memory, opens, rfl⟩ := starts
  rw [ComesWithin, opens] at comes
  cases comes with
  | call answered => exact ⟨_, answered⟩

theorem StartsWith.not_comes (starts : g.StartsWith input reply spot rule)
    (never : ∀ result, ¬g.Comes input reply rule result) (result : Match (Value ω)) :
    ¬g.Comes input reply spot result := by
  intro comes
  obtain ⟨depth, within⟩ := comes_iff_exists_depth.mp comes
  obtain ⟨other, there⟩ := starts.comesWithin within.succ
  exact never other there.comes

/-- A rule that evaluates to something comes to that without trying itself or what starts
with it: where it comes to it soonest there is no time for that. -/
theorem Comes.yields_apart {result : Match (Value ω)} (comes : g.Comes input reply rule result) :
    (g.matcherAt rule).Yields input reply rule.position
      (fun node position answer => ¬g.StartsWith input reply (g.spot node position) rule ∧
        g.Comes input reply (g.spot node position) answer)
      (g.opening input reply rule) result := by
  classical
  have reached : ∃ depth result, g.ComesWithin input reply depth rule result := by
    obtain ⟨depth, within⟩ := comes_iff_exists_depth.mp comes
    exact ⟨depth, result, within⟩
  obtain ⟨other, within⟩ := Nat.find_spec reached
  have least := fun shallower => Nat.find_min reached (m := shallower)
  generalize Nat.find reached = depth at within least
  cases depth with
  | zero => cases within
  | succ depth =>
      cases within.comes.unique comes
      refine Matcher.Yields.mono within fun node position answer answered => ?_
      refine ⟨fun starts => ?_, answered.comes⟩
      obtain ⟨another, there⟩ := starts.comesWithin answered.succ
      exact least depth (Nat.lt_succ_self depth) ⟨another, there⟩

/-- What a move at a spot leads to before a rule has a result: the rule goes on to its own,
what starts with the rule has yet to call it, and all else evaluates to something. -/
inductive Pursues (g : Grammar ω ρ) (input : Input ω) (reply : ρ → Answer ω) (rule : Spot)
    (final : Match (Value ω)) (spot : Spot) (move : Move ω) : Prop where
  | rule : spot = rule → g.SettlesTo input reply rule move final →
      Pursues g input reply rule final spot move
  | first : spot ≠ rule → g.StartsWith input reply spot rule →
      move = g.opening input reply spot → Pursues g input reply rule final spot move
  | evaluates {result : Match (Value ω)} : g.Comes input reply spot result →
      (∀ depth other, g.ComesWithin input reply (depth + 1) spot other →
        (g.matcherAt spot).Yields input reply spot.position
          (fun node position => g.ComesWithin input reply depth (g.spot node position))
          move other) →
      Pursues g input reply rule final spot move

/-- What a spot calls is not the rule again, and evaluates in fewer steps. -/
structure Below (g : Grammar ω ρ) (input : Input ω) (reply : ρ → Answer ω)
    (rule caller callee : Spot) : Prop where
  other : caller = rule → callee ≠ rule
  less : ∀ depth result, g.ComesWithin input reply (depth + 1) caller result →
    ∃ answer, g.ComesWithin input reply depth callee answer

theorem Settles.pursues_opening {final answer : Match (Value ω)}
    (settles : g.Settles input reply rule spot answer) :
    g.Pursues input reply rule final spot (g.opening input reply spot) := by
  obtain ⟨notRule, ⟨starts, _⟩ | ⟨_, comes⟩⟩ := settles
  · exact .first notRule starts rfl
  · exact .evaluates comes fun _ _ within => within

section Pursues

variable {final : Match (Value ω)} (never : ∀ result, ¬g.Comes input reply rule result)

include never

theorem Settles.of_comes {result : Match (Value ω)} (comes : g.Comes input reply spot result) :
    g.Settles input reply rule spot result := by
  refine ⟨?_, .inr ⟨fun starts => starts.not_comes never result comes, comes⟩⟩
  rintro rfl
  exact never result comes

/-- What is done at a spot other than the rule's is settled. -/
theorem Pursues.done {result : Match (Value ω)}
    (pursues : g.Pursues input reply rule final spot (.done result)) (notRule : spot ≠ rule) :
    g.Settles input reply rule spot result := by
  cases pursues with
  | rule same => exact absurd same notRule
  | first _ starts isOpening =>
      obtain ⟨_, _, _, opens, _⟩ := starts
      rw [← isOpening] at opens
      cases opens
  | evaluates comes onward =>
      obtain ⟨depth, within⟩ := comes_iff_exists_depth.mp comes
      cases onward depth _ within.succ
      exact .of_comes never comes

/-- Where a call leads that is made before the rule has a result. -/
theorem Pursues.call {node : NodeId} {position : Nat} {memory : Memory ω}
    (pursues : g.Pursues input reply rule final spot (.call node position memory))
    (aim : g.SettlesTo input reply rule (g.opening input reply rule) final) :
    g.Below input reply rule spot (g.spot node position) ∧
      g.Pursues input reply rule final (g.spot node position)
        (g.opening input reply (g.spot node position)) ∧
      ∀ answer, g.Settles input reply rule (g.spot node position) answer →
        g.Pursues input reply rule final spot (g.response input reply spot memory answer) := by
  cases pursues with
  | rule same onward =>
      subst same
      cases onward with
      | call settles rest =>
          refine ⟨⟨fun _ => settles.1, ?_⟩, settles.pursues_opening, ?_⟩
          · intro depth result within
            exact absurd within.comes (never result)
          · intro answer answered
            rw [answered.unique settles]
            exact .rule rfl rest
  | first notRule starts isOpening =>
      have notComes := starts.not_comes never
      obtain ⟨_, _, _, opens, leads⟩ := starts
      rw [← isOpening] at opens
      cases opens
      rw [leads]
      refine ⟨⟨fun same => absurd same notRule, ?_⟩, .rule rfl aim, ?_⟩
      · intro depth result within
        exact absurd within.comes (notComes result)
      · intro answer answered
        exact absurd rfl answered.1
  | @evaluates result comes onward =>
      have less : ∀ depth other, g.ComesWithin input reply (depth + 1) spot other →
          ∃ answer, g.ComesWithin input reply depth (g.spot node position) answer := by
        intro depth other within
        cases onward depth other within with
        | call answered => exact ⟨_, answered⟩
      obtain ⟨depth, within⟩ := comes_iff_exists_depth.mp comes
      obtain ⟨answer, answered⟩ := less depth result within.succ
      have settles : g.Settles input reply rule (g.spot node position) answer :=
        .of_comes never answered.comes
      refine ⟨⟨?_, less⟩, settles.pursues_opening, ?_⟩
      · rintro rfl
        exact absurd comes (never result)
      · intro other isOther
        refine .evaluates comes fun depth last withinLast => ?_
        cases onward depth last withinLast with
        | call otherAnswered rest =>
            rw [isOther.unique (.of_comes never otherAnswered.comes)]
            exact rest

end Pursues

end Grammar

namespace Job

variable {job : Job ω ρ} {host : Host ω ρ τ} {reply : ρ → Answer ω} {rule : Spot}
  {final : Match (Value ω)} {root : FrameId}

/-- A frame without a result has none after the move of another one, or after a call. -/
theorem Moved.stays_open {machine next : Machine ω} {id other : FrameId} {move : Move ω}
    {spot : Spot} {waiters : List (FrameId × Memory ω)} (moved : job.Moved machine id move next)
    (found : machine.frame? other = some ⟨spot, none, waiters⟩)
    (notDone : other = id → ∀ result, move ≠ .done result) :
    ∃ more, next.frame? other = some ⟨spot, none, more⟩ := by
  obtain ⟨⟨last, result, more⟩, there, sameSpot, unfinished, _⟩ := moved.exists_later found notDone
  change last = spot at sameSpot
  change result = none at unfinished
  subst sameSpot unfinished
  exact ⟨more, there⟩

/-- The root, which is to match a rule, has no result yet. -/
structure Undecided (job : Job ω ρ) (reply : ρ → Answer ω) (rule : Spot)
    (final : Match (Value ω)) (root : FrameId) (machine : Machine ω) : Prop where
  open_ : ∃ waiters, machine.frame? root = some ⟨rule, none, waiters⟩
  reached : ∀ id frame, machine.frame? id = some frame →
    ∃ move, job.grammar.Pursues job.input reply rule final frame.spot move
  results : ∀ id frame result, machine.frame? id = some frame → frame.result = some result →
    job.grammar.Settles job.input reply rule frame.spot result
  prepared : job.Prepared
    (fun _ spot step => job.grammar.Pursues job.input reply rule final spot (step.move reply))
    (job.grammar.Settles job.input reply rule) machine
  below : ∀ waiter callee own frame, machine.Awaits waiter callee →
    machine.frame? waiter = some own → machine.frame? callee = some frame →
    job.grammar.Below job.input reply rule own.spot frame.spot

namespace Undecided

variable {machine next : Machine ω} (undecided : job.Undecided reply rule final root machine)

include undecided

theorem taken {task : Task ω} {rest : List (Task ω)} (queue : machine.queue = task :: rest) :
    job.Undecided reply rule final root (machine.taken rest) :=
  ⟨undecided.open_, undecided.reached, undecided.results, undecided.prepared.taken queue,
    undecided.below⟩

/-- No other frame is for the rule's spot. -/
theorem eq_root {held : List FrameId} (orderly : machine.Orderly job.memoize held)
    {id : FrameId} {frame : Frame ω} (found : machine.frame? id = some frame)
    (same : frame.spot = rule) : id = root := by
  cases finished : frame.result with
  | some result => exact absurd same (undecided.results id frame result found finished).1
  | none =>
      obtain ⟨waiters, there⟩ := undecided.open_
      have isRoot := (orderly.listed rule root).mpr ⟨_, there, rfl, .inr rfl⟩
      have isId := (orderly.listed rule id).mpr ⟨frame, found, same, .inr finished⟩
      exact Option.some.inj (isId.symm.trans isRoot)

/-- Finishing another frame as settled decides nothing about the root. -/
theorem complete {held : List FrameId} (orderly : machine.Orderly job.memoize held)
    {id : FrameId} {frame : Frame ω} {result : Match (Value ω)}
    (found : machine.frame? id = some frame) (notRoot : id ≠ root)
    (settles : job.grammar.Settles job.input reply rule frame.spot result) :
    job.Undecided reply rule final root (machine.complete job.memoize id result) := by
  have moved : job.Moved machine id (.done result) _ := .done result
  have before {other : FrameId} {later : Frame ω}
      (there : (machine.complete job.memoize id result).frame? other = some later) :
      ∃ was, machine.frame? other = some was ∧ was.spot = later.spot ∧
        (later.result = was.result ∨ other = id ∧ later.result = some result) := by
    rcases moved.frame_cases there with ⟨was, isWas, same, ⟨kept, _⟩ | ⟨rfl, _, _, isDone, new⟩⟩ |
      ⟨_, _, _, impossible, _⟩
    · exact ⟨was, isWas, same, .inl kept⟩
    · cases isDone
      exact ⟨was, isWas, same, .inr ⟨rfl, new⟩⟩
    · cases impossible
  refine ⟨?_, ?_, ?_, undecided.prepared.complete found fun _ => settles, ?_⟩
  · obtain ⟨waiters, there⟩ := undecided.open_
    exact moved.stays_open there fun same => absurd same.symm notRoot
  · intro other later there
    obtain ⟨was, isWas, same, _⟩ := before there
    rw [← same]
    exact undecided.reached other was isWas
  · intro other later value there finished
    obtain ⟨was, isWas, same, kept | ⟨rfl, new⟩⟩ := before there
    · rw [← same]
      exact undecided.results other was value isWas (kept.symm.trans finished)
    · rw [new] at finished
      cases finished
      rw [found] at isWas
      cases isWas
      rw [← same]
      exact settles
  · intro waiter callee own later awaits ownThere there
    rcases moved.awaits_cases orderly awaits with old | ⟨_, _, _, _, _, impossible, _⟩
    · obtain ⟨ownWas, isOwnWas, ownSame, _⟩ := before ownThere
      obtain ⟨was, isWas, same, _⟩ := before there
      rw [← ownSame, ← same]
      exact undecided.below waiter callee ownWas was old isOwnWas isWas
    · cases impossible

/-- A call decides nothing about the root, whoever makes it. -/
theorem call (never : ∀ result, ¬job.Comes reply rule result)
    (aim : job.grammar.SettlesTo job.input reply rule
      (job.grammar.opening job.input reply rule) final)
    {id : FrameId} {frame : Frame ω} {node : NodeId} {position : Nat} {memory : Memory ω}
    (orderly : machine.Orderly job.memoize [id]) (found : machine.frame? id = some frame)
    (moved : job.Moved machine id (.call node position memory) next)
    (pursues : job.grammar.Pursues job.input reply rule final frame.spot
      (.call node position memory)) :
    job.Undecided reply rule final root next := by
  obtain ⟨isBelow, opening, onward⟩ := pursues.call never aim
  have before {other : FrameId} {later : Frame ω} (there : next.frame? other = some later) :
      (∃ was, machine.frame? other = some was ∧ was.spot = later.spot ∧
        later.result = was.result) ∨
      later.spot = job.grammar.spot node position ∧ later.result = none := by
    rcases moved.frame_cases there with ⟨was, isWas, same, ⟨kept, _⟩ | ⟨_, _, _, isDone, _⟩⟩ |
      ⟨_, _, _, isCall, _, rfl⟩
    · exact .inl ⟨was, isWas, same, kept⟩
    · cases isDone
    · cases isCall
      exact .inr ⟨rfl, rfl⟩
  refine ⟨?_, ?_, ?_, ?_, ?_⟩
  · obtain ⟨waiters, there⟩ := undecided.open_
    exact moved.stays_open there fun _ _ isDone => by cases isDone
  · intro other later there
    rcases before there with ⟨was, isWas, same, _⟩ | ⟨isCallee, _⟩
    · rw [← same]
      exact undecided.reached other was isWas
    · rw [isCallee]
      exact ⟨_, opening⟩
  · intro other later value there finished
    rcases before there with ⟨was, isWas, same, kept⟩ | ⟨_, unfinished⟩
    · rw [← same]
      exact undecided.results other was value isWas (kept.symm.trans finished)
    · rw [unfinished] at finished
      cases finished
  · refine moved.prepared orderly undecided.prepared found undecided.results nofun ?_ ?_
    · intro otherNode otherPosition otherMemory isCall answer answered
      cases isCall
      rw [step_resume_move]
      exact onward answer answered
    · intro otherNode otherPosition otherMemory isCall callee _
      cases isCall
      rw [step_start_move]
      exact opening
  · intro waiter callee own later awaits ownThere there
    have keeps {other : FrameId} {was now : Frame ω} (isWas : machine.frame? other = some was)
        (isNow : next.frame? other = some now) : now.spot = was.spot := by
      obtain ⟨grown, same, spot, _⟩ := moved.grows other was isWas
      rw [isNow] at same
      cases same
      exact spot
    rcases moved.awaits_cases orderly awaits with old | ⟨rfl, _, _, _, other, isCall, isOther, spot⟩
    · have ⟨was, _, isWas, _⟩ := old
      obtain ⟨ownWas, isOwnWas⟩ := Machine.exists_frame?
        (orderly.known waiter (List.mem_append_right _ old.mem_pending))
      rw [keeps isOwnWas ownThere, keeps isWas there]
      exact undecided.below waiter callee ownWas was old isOwnWas isWas
    · cases isCall
      rw [there] at isOther
      cases isOther
      rw [keeps found ownThere, spot]
      exact isBelow

/-- When nothing is left to be done, no frame without a result is for a spot that evaluates
to something: it would wait for one that does so in fewer steps. -/
theorem not_comesWithin (orderly : machine.Orderly job.memoize [])
    (small : machine.frames.size ≤ capacity) (queue : machine.queue = []) (depth : Nat) :
    ∀ id frame, machine.frame? id = some frame → frame.result = none →
      ∀ result, ¬job.grammar.ComesWithin job.input reply depth frame.spot result := by
  induction depth with
  | zero => exact fun _ _ _ _ _ impossible => impossible
  | succ depth induction =>
      intro id frame found unfinished result within
      obtain ⟨callee, awaits⟩ := Machine.exists_awaits small queue
        (orderly.awaited id frame found unfinished)
      obtain ⟨later, there, isOpen⟩ := awaits.unfinished orderly
      obtain ⟨answer, answered⟩ :=
        (undecided.below id callee frame later awaits found there).less depth result within
      exact induction callee later there isOpen answer answered

/-- A frame without a result is the root, or starts with the rule. -/
theorem startsWith_of_unfinished (orderly : machine.Orderly job.memoize [])
    (small : machine.frames.size ≤ capacity) (queue : machine.queue = []) {id : FrameId}
    {frame : Frame ω} (found : machine.frame? id = some frame)
    (unfinished : frame.result = none) (notRule : frame.spot ≠ rule) :
    job.grammar.StartsWith job.input reply frame.spot rule := by
  obtain ⟨move, pursues⟩ := undecided.reached id frame found
  cases pursues with
  | rule same => exact absurd same notRule
  | first _ starts => exact starts
  | evaluates comes =>
      obtain ⟨depth, within⟩ := Grammar.comes_iff_exists_depth.mp comes
      exact absurd within
        (undecided.not_comesWithin orderly small queue depth id frame found unfinished _)

/-- When nothing is left to be done, the newest frame without a result starts with the
rule. -/
theorem newest_startsWith (orderly : machine.Orderly job.memoize [])
    (small : machine.frames.size ≤ capacity) (oldest : root.number = 0)
    (queue : machine.queue = []) {stuck : FrameId} {frame : Frame ω}
    (newest : machine.newestUnfinished? = some stuck)
    (found : machine.frame? stuck = some frame) (unfinished : frame.result = none) :
    stuck ≠ root ∧ frame.spot ≠ rule ∧
      job.grammar.StartsWith job.input reply frame.spot rule := by
  have notRoot : stuck ≠ root := by
    rintro rfl
    obtain ⟨waiters, there⟩ := undecided.open_
    obtain ⟨callee, awaits⟩ := Machine.exists_awaits small queue
      (orderly.awaited stuck _ there rfl)
    obtain ⟨later, isLater, isOpen⟩ := awaits.unfinished orderly
    have older := Machine.le_newestUnfinished? newest isLater isOpen
    have other := (undecided.below stuck callee _ later awaits there isLater).other rfl
    have same : callee = stuck := Index.ext (by omega)
    rw [same, there] at isLater
    cases isLater
    exact other rfl
  have notRule : frame.spot ≠ rule := fun same =>
    notRoot (undecided.eq_root orderly found same)
  exact ⟨notRoot, notRule,
    undecided.startsWith_of_unfinished orderly small queue found unfinished notRule⟩

/-- What a task leads to: nothing is decided yet, or the root has its result. -/
theorem task (answers : host.Answers reply) (never : ∀ result, ¬job.Comes reply rule result)
    (aim : job.grammar.SettlesTo job.input reply rule
      (job.grammar.opening job.input reply rule) final)
    (orderly : machine.Orderly job.memoize []) {task : Task ω} {rest : List (Task ω)}
    {world after : τ} (queue : machine.queue = task :: rest)
    (turned : job.turn host root machine world = (.running next, after)) :
    job.Undecided reply rule final root next ∨ next.result? root = some final := by
  have held := orderly.taken queue
  obtain ⟨frame, found⟩ := Machine.exists_frame? (held.known _ List.mem_cons_self)
  have moved := moved_of_turn queue found turned
  rw [settled, answers.settle] at moved
  have pursues : job.grammar.Pursues job.input reply rule final frame.spot
      ((job.step frame.spot task).move reply) :=
    undecided.prepared.tasks task (queue ▸ List.mem_cons_self) frame found
  have here := undecided.taken queue
  cases isMove : (job.step frame.spot task).move reply with
  | call node position memory =>
      rw [isMove] at moved pursues
      exact .inl (here.call never aim held found moved pursues)
  | done result =>
      rw [isMove] at moved pursues
      cases moved
      by_cases isRoot : task.frame = root
      · obtain ⟨waiters, there⟩ := here.open_
        rw [isRoot] at found ⊢
        rw [there] at found
        cases found
        cases pursues with
        | rule _ settles =>
            cases settles
            rw [Machine.result?, Machine.frame?_complete there, if_pos rfl]
            exact .inr rfl
        | first notRule => exact absurd rfl notRule
        | evaluates comes => exact absurd comes (never _)
      · have notRule : frame.spot ≠ rule := fun same => isRoot (here.eq_root held found same)
        exact .inl (here.complete held found isRoot (pursues.done never notRule))

end Undecided

/-- Until the root has a result, nothing is decided; and the result is the one that the rule
settles to. -/
theorem Leads.undecided {node : NodeId} {position : Nat} {first machine : Machine ω}
    {start world : τ} {history : List (Deed ω)} (answers : host.Answers reply)
    (never : ∀ result, ¬job.Comes reply (job.grammar.spot node position) result)
    (aim : job.grammar.SettlesTo job.input reply (job.grammar.spot node position)
      (job.grammar.opening job.input reply (job.grammar.spot node position)) final)
    (begun : job.begin node position = some (root, first))
    (leads : job.Leads host root first start history machine world) :
    job.Undecided reply (job.grammar.spot node position) final root machine ∨
      machine.result? root = some final := by
  have orderly := begin_orderly begun
  have oldest : root.number = 0 := by
    obtain ⟨opened, entered, _⟩ := exists_enter_of_begin begun
    exact (Machine.enter_eq_some entered).1
  induction leads with
  | here =>
      have only {id : FrameId} {frame : Frame ω} (found : first.frame? id = some frame) :
          id = root ∧ frame = ⟨job.grammar.spot node position, none, []⟩ := by
        rw [frame?_begin begun] at found
        split at found
        next same =>
          cases found
          exact ⟨same, rfl⟩
        next => cases found
      refine .inl ⟨⟨[], (frame?_begin begun root).trans (if_pos rfl)⟩, ?_, ?_, ?_, ?_⟩
      · intro id frame found
        obtain ⟨_, rfl⟩ := only found
        exact ⟨_, .rule rfl aim⟩
      · intro id frame result found finished
        obtain ⟨_, rfl⟩ := only found
        cases finished
      · apply begin_prepared begun
        rw [step_start_move]
        exact .rule rfl aim
      · intro waiter callee own frame awaits
        obtain ⟨there, memory, found, member⟩ := awaits
        obtain ⟨_, rfl⟩ := only found
        cases member
  | @task history machine next world after task rest earlier queue turned induction =>
      have before := earlier.orderly orderly
      rcases induction with undecided | decided
      · exact undecided.task answers never aim before queue turned
      · obtain ⟨_, moved⟩ := exists_moved_of_turn before queue turned
        exact .inr (moved.grows.result? decided)
  | @cut history machine next world after stuck earlier queue newest turned induction =>
      have before := earlier.orderly orderly
      have small := earlier.size_le_capacity orderly (by
        rw [size_begin begun]
        exact capacity_pos)
      obtain ⟨undone, _, frame, found, unfinished, rfl⟩ := failed_of_turn queue newest turned
      rcases induction with undecided | decided
      · obtain ⟨notRoot, notRule, starts⟩ :=
          undecided.newest_startsWith before small oldest queue newest found unfinished
        exact .inl (undecided.complete before found notRoot ⟨notRule, .inl ⟨starts, rfl⟩⟩)
      · rw [undone] at decided
        cases decided

end Job

end Packrat
