import Packrat.Proofs.Scheduler.Nesting

/-!
# Pairs that end with a leaf

A node that calls another one and then a leaf knows what it comes to as soon as the first
match is on its way to it: the leaf has its match in its first step, so it is never in a
circle, and whatever else is still to be done by then makes no difference.
-/

namespace Packrat

variable {ω ρ τ : Type}

namespace Machine

/-- A frame has one task at most. -/
theorem Orderly.task_eq {memoize : Bool} {held : List FrameId} {machine : Machine ω}
    (orderly : machine.Orderly memoize held) {task other : Task ω} (member : task ∈ machine.queue)
    (otherMember : other ∈ machine.queue) (same : task.frame = other.frame) : task = other := by
  have once := (List.nodup_append.mp (List.nodup_append.mp orderly.once).2.1).1
  exact List.inj_on_of_nodup_map once member otherMember same

/-- When a frame's task is not the next one, the next one is for another frame. -/
theorem Orderly.task_cases {memoize : Bool} {held : List FrameId} {machine : Machine ω}
    (orderly : machine.Orderly memoize held) {task other : Task ω} {rest : List (Task ω)}
    (queue : machine.queue = task :: rest) (member : other ∈ machine.queue) :
    other = task ∨ other ∈ rest ∧ other.frame ≠ task.frame := by
  by_cases same : other.frame = task.frame
  · exact .inl (orderly.task_eq member (queue ▸ List.mem_cons_self) same)
  · rw [queue] at member
    rcases List.mem_cons.mp member with rfl | waits
    · exact absurd rfl same
    · exact .inr ⟨waits, same⟩

/-- A frame that waits has no task. -/
theorem Orderly.task_ne {memoize : Bool} {held : List FrameId} {machine : Machine ω}
    (orderly : machine.Orderly memoize held) {task : Task ω} (member : task ∈ machine.queue)
    {id waiter : FrameId} {frame : Frame ω} {memory : Memory ω}
    (found : machine.frame? id = some frame) (waits : (waiter, memory) ∈ frame.waiters) :
    task.frame ≠ waiter := by
  have apart := (List.nodup_append.mp (List.nodup_append.mp orderly.once).2.1).2.2
  refine apart _ (List.mem_map_of_mem member) _ ?_
  refine List.mem_flatMap.mpr ⟨frame, ?_, List.mem_map_of_mem (f := Prod.fst) waits⟩
  exact Array.mem_toList_iff.mpr (Array.mem_of_getElem? found)

/-- Every frame of a leaf has its match, or is still to be started. -/
def Prompt (leaf : NodeId) (attempt : Nat → Match (Value ω)) (machine : Machine ω) : Prop :=
  ∀ id frame, machine.frame? id = some frame → frame.spot.node = leaf →
    frame.result = none ∧ .start id ∈ machine.queue ∨
      frame.result = some (attempt frame.spot.position)

end Machine

namespace Job

variable {job : Job ω ρ} {host : Host ω ρ τ}

theorem Moved.mem_queue {machine next : Machine ω} {id : FrameId} {move : Move ω}
    (moved : job.Moved machine id move next) {task : Task ω} (member : task ∈ machine.queue) :
    task ∈ next.queue := by
  cases moved with
  | done result =>
      rcases machine.complete_eq_or_unfinished job.memoize id result with same | ⟨_, _, found⟩
      · rw [same]
        exact member
      · rw [Machine.queue_complete found]
        exact List.mem_append_left _ member
  | answered => exact List.mem_append_left _ member
  | waiting => exact member
  | opened _ entered =>
      rw [Machine.queue_push, Machine.queue_wait, Machine.queue_enter entered]
      exact List.mem_append_left _ member

/-- A move leaves a frame whose result it is not as it was, and whoever waits for it. -/
theorem Moved.exists_later {machine next : Machine ω} {id other : FrameId} {move : Move ω}
    {before : Frame ω} (moved : job.Moved machine id move next)
    (found : machine.frame? other = some before)
    (notDone : other = id → ∀ result, move ≠ .done result) :
    ∃ later, next.frame? other = some later ∧ later.spot = before.spot ∧
      later.result = before.result ∧ before.waiters ⊆ later.waiters := by
  obtain ⟨later, there, same, _⟩ := moved.grows other before found
  refine ⟨later, there, same, ?_⟩
  rcases moved.frame_cases there with ⟨own, was, _, kept | ⟨isId, _, result, isDone, _⟩⟩ |
    ⟨_, _, _, _, last, _⟩
  · rw [found] at was
    cases was
    exact kept
  · exact absurd isDone (notDone isId result)
  · have := Machine.frame?_lt found
    omega

theorem Moved.result?_eq {machine next : Machine ω} {id other : FrameId} {move : Move ω}
    (moved : job.Moved machine id move next) (small : other.number < machine.frames.size)
    (notDone : other = id → ∀ result, move ≠ .done result) :
    next.result? other = machine.result? other := by
  obtain ⟨before, found⟩ := Machine.exists_frame? small
  obtain ⟨later, there, _, same, _⟩ := moved.exists_later found notDone
  rw [Machine.result?_eq there, Machine.result?_eq found, same]

/-- A call is answered with a result that is there, or the caller waits for the frame. -/
theorem Moved.called {held : List FrameId} {machine next : Machine ω} {id : FrameId}
    {node : NodeId} {position : Nat} {memory : Memory ω}
    (moved : job.Moved machine id (.call node position memory) next)
    (orderly : machine.Orderly job.memoize held) :
    (∃ callee frame result, machine.frame? callee = some frame ∧
      frame.spot = job.grammar.spot node position ∧ frame.result = some result ∧
      .resume id memory result ∈ next.queue) ∨
    ∃ callee frame, next.frame? callee = some frame ∧
      frame.spot = job.grammar.spot node position ∧ frame.result = none ∧
      (id, memory) ∈ frame.waiters := by
  cases moved with
  | @answered _ _ _ callee result listed finished =>
      obtain ⟨frame, found, spot, _⟩ := (orderly.listed _ _).mp listed
      rw [Machine.result?_eq found] at finished
      exact .inl ⟨callee, frame, result, found, spot, finished,
        List.mem_append_right _ List.mem_cons_self⟩
  | @waiting _ _ _ callee listed unfinished =>
      obtain ⟨frame, found, spot, _⟩ := (orderly.listed _ _).mp listed
      rw [Machine.result?_eq found] at unfinished
      refine .inr ⟨callee, { frame with waiters := frame.waiters ++ [(id, memory)] }, ?_, spot,
        unfinished, List.mem_append_right _ List.mem_cons_self⟩
      rw [Machine.frame?_wait, if_pos rfl, found]
      rfl
  | @opened _ _ _ callee opened unlisted entered =>
      refine .inr ⟨callee, ⟨job.grammar.spot node position, none, [(id, memory)]⟩, ?_, rfl, rfl,
        List.mem_cons_self⟩
      rw [Machine.frame?_opened entered, if_pos rfl]
      rfl

/-- A frame that a move opens is to be started. -/
theorem Moved.start_mem {machine next : Machine ω} {id other : FrameId} {move : Move ω}
    {frame : Frame ω} (moved : job.Moved machine id move next)
    (there : next.frame? other = some frame) (new : other.number = machine.frames.size) :
    .start other ∈ next.queue := by
  have absent : machine.frame? other = none := Array.getElem?_eq_none (Nat.le_of_eq new.symm)
  cases moved with
  | done result =>
      have small := Machine.frame?_lt there
      rw [Machine.size_complete] at small
      omega
  | answered =>
      rw [Machine.frame?_push, absent] at there
      cases there
  | waiting =>
      have small := Machine.frame?_lt there
      rw [Machine.size_wait] at small
      omega
  | @opened node position memory callee opened unknown entered =>
      obtain rfl : other = callee := Index.ext (new.trans (Machine.enter_eq_some entered).1.symm)
      exact List.mem_append_right _ List.mem_cons_self

theorem Moved.result?_of_done {machine next : Machine ω} {id : FrameId}
    {result : Match (Value ω)} (moved : job.Moved machine id (.done result) next)
    {frame : Frame ω} (found : machine.frame? id = some frame) (unfinished : frame.result = none) :
    next.result? id = some result := by
  obtain ⟨spot, outcome, waiters⟩ := frame
  cases unfinished
  cases moved
  rw [Machine.result?, Machine.frame?_complete found, if_pos rfl]
  rfl

/-- Whoever waits is told the result. -/
theorem Moved.told {machine next : Machine ω} {id waiter : FrameId} {memory : Memory ω}
    {result : Match (Value ω)} (moved : job.Moved machine id (.done result) next)
    {frame : Frame ω} (found : machine.frame? id = some frame) (unfinished : frame.result = none)
    (waits : (waiter, memory) ∈ frame.waiters) : .resume waiter memory result ∈ next.queue := by
  obtain ⟨spot, outcome, waiters⟩ := frame
  cases unfinished
  cases moved
  rw [Machine.queue_complete found]
  exact List.mem_append_right _ (List.mem_map.mpr ⟨_, waits, rfl⟩)

/-- What a host makes of a step that has its match is that match. -/
theorem settled_of_done {spot : Spot} {task : Task ω} {result : Match (Value ω)}
    (isDone : job.step spot task = .done result) (world : τ) :
    (job.settled host spot task world).1 = .done result := by
  rw [settled, isDone]
  rfl

/-- A leaf has its match in its first step. -/
def IsLeaf (job : Job ω ρ) (leaf : NodeId) (attempt : Nat → Match (Value ω)) : Prop :=
  ∀ position, (job.grammar.matcherAt ⟨leaf, position⟩).start job.input position =
    .done (attempt position)

section Prompt

variable {leaf : NodeId} {attempt : Nat → Match (Value ω)} {machine next : Machine ω}

/-- A task of a leaf's frame that has no match starts it, and then the frame has it. -/
theorem IsLeaf.settled (isLeaf : job.IsLeaf leaf attempt) (prompt : machine.Prompt leaf attempt)
    (orderly : machine.Orderly job.memoize []) {task : Task ω} (member : task ∈ machine.queue)
    {frame : Frame ω} (found : machine.frame? task.frame = some frame)
    (ofLeaf : frame.spot.node = leaf) (unfinished : frame.result = none) (world : τ) :
    (job.settled host frame.spot task world).1 = .done (attempt frame.spot.position) := by
  rcases prompt _ frame found ofLeaf with ⟨_, starts⟩ | finished
  · rw [orderly.task_eq member starts rfl]
    apply settled_of_done
    rw [step_start]
    have first := isLeaf frame.spot.position
    rw [← ofLeaf] at first
    exact first
  · rw [unfinished] at finished
    cases finished

theorem Moved.prompt (isLeaf : job.IsLeaf leaf attempt) (prompt : machine.Prompt leaf attempt)
    (orderly : machine.Orderly job.memoize []) {task : Task ω} {rest : List (Task ω)}
    (queue : machine.queue = task :: rest) {frame : Frame ω}
    (found : machine.frame? task.frame = some frame) {world : τ}
    (moved : job.Moved (machine.taken rest) task.frame (job.settled host frame.spot task world).1
      next) : next.Prompt leaf attempt := by
  have member : task ∈ machine.queue := queue ▸ List.mem_cons_self
  intro other later there ofLeaf
  rcases moved.frame_cases there with
    ⟨before, was, same, ⟨kept, _⟩ | ⟨rfl, noResult, result, isDone, new⟩⟩ |
      ⟨node, position, memory, isCall, last, rfl⟩
  · rw [← same] at ofLeaf ⊢
    rw [kept]
    rcases prompt other before was ofLeaf with ⟨unfinished, starts⟩ | finished
    · refine .inl ⟨unfinished, ?_⟩
      rw [queue] at starts
      rcases List.mem_cons.mp starts with isTask | waits
      · -- The frame is the one that moves, and its move is its match.
        obtain rfl : other = task.frame := by rw [← isTask]; rfl
        rw [Machine.frame?_taken, found] at was
        cases was
        rw [isLeaf.settled prompt orderly member found ofLeaf unfinished] at moved
        have finished := moved.result?_of_done found unfinished
        rw [Machine.result?_eq there, kept, unfinished] at finished
        cases finished
      · exact moved.mem_queue waits
    · exact .inr finished
  · rw [Machine.frame?_taken, found] at was
    cases was
    rw [← same] at ofLeaf ⊢
    rw [isLeaf.settled prompt orderly member found ofLeaf noResult] at isDone
    cases isDone
    exact .inr new
  · exact .inl ⟨rfl, moved.start_mem there last⟩

/-- No frame of a leaf is ever failed. -/
theorem Visits.prompt (isLeaf : job.IsLeaf leaf attempt) {root : NodeId} {position : Nat}
    {start world : τ} {history : List (Deed ω)}
    (visits : job.Visits host root position start history machine world) :
    machine.Prompt leaf attempt := by
  obtain ⟨rootId, first, begun, leads⟩ := visits
  induction leads with
  | here =>
      intro id frame there _
      rw [frame?_begin begun] at there
      split at there
      next isRoot =>
        cases there
        rw [queue_begin begun, isRoot]
        exact .inl ⟨rfl, List.mem_cons_self⟩
      next => cases there
  | @task history machine next world after task rest earlier queue turned prompt =>
      have orderly := earlier.orderly (begin_orderly begun)
      obtain ⟨frame, found⟩ :=
        Machine.exists_frame? ((orderly.taken queue).known _ List.mem_cons_self)
      exact (moved_of_turn queue found turned).prompt isLeaf prompt orderly queue found
  | cut earlier queue newest turned prompt =>
      obtain ⟨_, _, ⟨spot, _, waiters⟩, found, noResult, rfl⟩ := failed_of_turn queue newest turned
      cases noResult
      intro id frame there ofLeaf
      rw [Machine.frame?_complete found] at there
      split at there
      next =>
        cases there
        rcases prompt _ _ found ofLeaf with ⟨_, starts⟩ | finished
        · rw [queue] at starts
          cases starts
        · cases finished
      next =>
        rcases prompt id frame there ofLeaf with ⟨_, starts⟩ | finished
        · rw [queue] at starts
          cases starts
        · exact .inr finished

end Prompt

/-- What a pair comes to that goes on with a leaf after a match, and keeps the first value. -/
def conclusion (attempt : Nat → Match (Value ω)) (first : Match (Value ω)) : Match (Value ω) :=
  first.andThen fun span value =>
    (attempt span.stop).andThen fun ending _ => .success (span.join ending) value

/-- A node that is a pair of another one and a leaf, with the first value as its own. -/
structure Appends (job : Job ω ρ) (caller first last : NodeId)
    (attempt : Nat → Match (Value ω)) : Prop where
  pair : ∀ position, job.grammar.matcherAt (job.grammar.spot caller position) =
    .pair first last fun value _ => .result (some value)
  leaf : job.IsLeaf (job.grammar.follow last) attempt

/-- What the frame of such a pair remembers while the leaf is matched. -/
def lastMemory (span : Span) (value : Value ω) : Memory ω := ⟨1, span, [value], none⟩

/-- The first match is known, and the pair goes on from there. -/
inductive Concluding (job : Job ω ρ) (last : NodeId) (attempt : Nat → Match (Value ω))
    (position : Nat) (first : Match (Value ω)) (machine : Machine ω) : Prop where
  | told : machine.result? rootFrame = none →
      .resume rootFrame (.start position) first ∈ machine.queue →
      Concluding job last attempt position first machine
  | waiting {span : Span} {value : Value ω} {callee : FrameId} {frame : Frame ω} :
      first = .success span value → machine.result? rootFrame = none →
      machine.frame? callee = some frame → frame.spot = job.grammar.spot last span.stop →
      frame.result = none → (rootFrame, lastMemory span value) ∈ frame.waiters →
      Concluding job last attempt position first machine
  | answered {span : Span} {value : Value ω} :
      first = .success span value → machine.result? rootFrame = none →
      .resume rootFrame (lastMemory span value) (attempt span.stop) ∈ machine.queue →
      Concluding job last attempt position first machine
  | concluded : machine.result? rootFrame = some (conclusion attempt first) →
      Concluding job last attempt position first machine

section Concluding

variable {caller first last : NodeId} {attempt : Nat → Match (Value ω)} {position : Nat}
  {result : Match (Value ω)} {machine next : Machine ω}

/-- What the pair does with the first match. -/
theorem Appends.settled_told (appends : job.Appends caller first last attempt) (world : τ) :
    (job.settled host (job.grammar.spot caller position)
      (.resume rootFrame (.start position) result) world).1 =
        match result with
        | .success span value => .call last span.stop (lastMemory span value)
        | .failure message span => .done (.failure message span) := by
  rw [settled, step_resume, appends.pair]
  cases result <;> rfl

/-- What the pair does with the match of the leaf. -/
theorem Appends.settled_answered (appends : job.Appends caller first last attempt) (span : Span)
    (value : Value ω) (world : τ) :
    (job.settled host (job.grammar.spot caller position)
      (.resume rootFrame (lastMemory span value) (attempt span.stop)) world).1 =
        .done (conclusion attempt (.success span value)) := by
  rw [settled, step_resume, appends.pair, conclusion, Match.andThen_success]
  cases attempt span.stop <;> rfl

theorem Moved.concluding (appends : job.Appends caller first last attempt)
    (orderly : machine.Orderly job.memoize [])
    (prompt : machine.Prompt (job.grammar.follow last) attempt) {task : Task ω}
    {rest : List (Task ω)} (queue : machine.queue = task :: rest) {frame : Frame ω}
    (found : machine.frame? task.frame = some frame)
    (isRoot : task.frame = rootFrame → frame.spot = job.grammar.spot caller position) {world : τ}
    (moved : job.Moved (machine.taken rest) task.frame (job.settled host frame.spot task world).1
      next)
    (concluding : job.Concluding last attempt position result machine) :
    job.Concluding last attempt position result next := by
  have member : task ∈ machine.queue := queue ▸ List.mem_cons_self
  have rootKnown : rootFrame.number < (machine.taken rest).frames.size :=
    Nat.zero_lt_of_lt (Machine.frame?_lt found)
  cases concluding with
  | told unfinished told =>
      rcases orderly.task_cases queue told with rfl | ⟨later, notRoot⟩
      · rw [isRoot rfl, appends.settled_told] at moved
        rw [show (Task.resume rootFrame _ _ : Task ω).frame = rootFrame from rfl] at moved found
        cases result with
        | success span value =>
            have stillUnfinished := (moved.result?_eq rootKnown nofun).trans unfinished
            rcases moved.called (orderly.taken queue) with
              ⟨callee, calleeFrame, answer, isCallee, spot, finished, answered⟩ |
              ⟨callee, calleeFrame, isCallee, spot, noResult, waits⟩
            · have ofLeaf : calleeFrame.spot.node = job.grammar.follow last := by rw [spot]; rfl
              rcases prompt callee calleeFrame isCallee ofLeaf with ⟨noResult, _⟩ | isAttempt
              · rw [finished] at noResult
                cases noResult
              · rw [finished, spot] at isAttempt
                cases isAttempt
                exact .answered rfl stillUnfinished answered
            · exact .waiting rfl stillUnfinished isCallee spot noResult waits
        | failure message span =>
            exact .concluded (moved.result?_of_done found
              ((Machine.result?_eq found).symm.trans unfinished))
      · exact .told ((moved.result?_eq rootKnown fun same => absurd same notRoot).trans unfinished)
          (moved.mem_queue later)
  | @waiting span value callee calleeFrame isSuccess unfinished isCallee spot noResult waits =>
      have notRoot : rootFrame ≠ task.frame := (orderly.task_ne member isCallee waits).symm
      have stillUnfinished :=
        (moved.result?_eq rootKnown fun same => absurd same notRoot).trans unfinished
      by_cases isTask : callee = task.frame
      · subst isTask
        rw [found] at isCallee
        cases isCallee
        have ofLeaf : frame.spot.node = job.grammar.follow last := by rw [spot]; rfl
        rw [appends.leaf.settled prompt orderly member found ofLeaf noResult, spot] at moved
        exact .answered isSuccess stillUnfinished (moved.told found noResult waits)
      · obtain ⟨later, there, sameSpot, sameResult, more⟩ :=
          moved.exists_later isCallee fun same => absurd same isTask
        exact .waiting isSuccess stillUnfinished there (sameSpot.trans spot)
          (sameResult.trans noResult) (more waits)
  | @answered span value isSuccess unfinished told =>
      rcases orderly.task_cases queue told with rfl | ⟨later, notRoot⟩
      · rw [isRoot rfl, appends.settled_answered] at moved
        rw [isSuccess]
        have noResult := (Machine.result?_eq found).symm.trans unfinished
        exact .concluded (moved.result?_of_done found noResult)
      · exact .answered isSuccess
          ((moved.result?_eq rootKnown fun same => absurd same notRoot).trans unfinished)
          (moved.mem_queue later)
  | concluded finished => exact .concluded (moved.grows.result? finished)

/-- When nothing is left to be done, the pair has its match. -/
theorem Concluding.over_of_idle (prompt : machine.Prompt (job.grammar.follow last) attempt)
    (concluding : job.Concluding last attempt position result machine)
    (queue : machine.queue = []) :
    machine.result? rootFrame = some (conclusion attempt result) := by
  cases concluding with
  | told _ told =>
      rw [queue] at told
      cases told
  | waiting _ _ found spot noResult _ =>
      rcases prompt _ _ found (congrArg Spot.node spot) with ⟨_, starts⟩ | finished
      · rw [queue] at starts
        cases starts
      · rw [noResult] at finished
        cases finished
  | answered _ _ told =>
      rw [queue] at told
      cases told
  | concluded finished => exact finished

/-- From where the first match is known, the run goes on to the match of the pair. -/
theorem Leads.concluding (appends : job.Appends caller first last attempt)
    {middle : Machine ω} {start between world : τ} {before after : List (Deed ω)}
    (visits : job.Visits host caller position start before middle between)
    (leads : job.Leads host rootFrame middle between after machine world)
    (concluding : job.Concluding last attempt position result middle) :
    job.Concluding last attempt position result machine := by
  obtain ⟨rootId, begins, begun, earlier⟩ := visits
  obtain rfl := begin_rootFrame begun
  induction leads with
  | here => exact concluding
  | @task history machine next world after task rest sofar queue turned induction =>
      have leadsThere := earlier.trans sofar
      have visitsThere : job.Visits host caller position start _ machine world :=
        ⟨rootFrame, begins, begun, leadsThere⟩
      have orderly := visitsThere.orderly
      obtain ⟨frame, found⟩ :=
        Machine.exists_frame? ((orderly.taken queue).known _ List.mem_cons_self)
      obtain ⟨rootOwn, rootFound, isRoot⟩ := leadsThere.root_frame begun
      refine (moved_of_turn queue found turned).concluding appends orderly
        (visitsThere.prompt appends.leaf) queue found (fun same => ?_) induction
      rw [same, Machine.frame?_taken, rootFound] at found
      cases found
      exact isRoot
  | @cut history machine next world after stuck sofar queue newest turned induction =>
      have visitsThere : job.Visits host caller position start _ machine world :=
        ⟨rootFrame, begins, begun, earlier.trans sofar⟩
      have finished := induction.over_of_idle (visitsThere.prompt appends.leaf) queue
      obtain ⟨unfinished, _⟩ := cut_of_turn queue newest turned
      rw [finished] at unfinished
      cases unfinished

/-- A run that comes to where the first match is known finds what the pair makes of it. -/
theorem Finds.conclusion (appends : job.Appends caller first last attempt)
    {start between finish : τ}
    {before history : List (Deed ω)} {middle : Machine ω} {found : Match (Value ω)}
    (finds : job.Finds host caller position start history found finish)
    (visits : job.Visits host caller position start before middle between)
    (handed : middle.Handed (.start position) result) : found = conclusion attempt result := by
  obtain ⟨rootId, begins, lastMachine, begun, leads, queue, finished⟩ := finds
  obtain rfl := begin_rootFrame begun
  obtain ⟨_, _, begunThere, leadsThere⟩ := visits
  rw [begun] at begunThere
  cases begunThere
  obtain ⟨rest, _, onwards⟩ := leadsThere.exists_rest leads (turn_finished queue finished finish)
  have visitsThere : job.Visits host caller position start before middle between :=
    ⟨rootFrame, begins, begun, leadsThere⟩
  have concluding := onwards.concluding appends visitsThere (.told handed.unfinished handed.task)
  have visitsLast : job.Visits host caller position start history lastMachine finish :=
    ⟨rootFrame, begins, begun, leads⟩
  have isOver := concluding.over_of_idle (visitsLast.prompt appends.leaf) queue
  rw [finished] at isOver
  exact Option.some.inj isOver

end Concluding

/-- Where a job has the runs of another one inside its own and a leaf at their end, it finds
what the leaf makes of the other one's match, unless all indices are used up. -/
theorem Nests.finds {ι : Type} {wide job : Job ω ρ} {allowed : NodeId → Prop}
    {caller first last root : NodeId} {attempt : Nat → Match (Value ω)} {host : Host ω ρ τ}
    {guest : Host ω ρ ι} {reply : ρ → Answer ω} {position : Nat} {start finish : τ}
    {history : List (Deed ω)} {result : Match (Value ω)} {elsewhere elsewhereThen : ι}
    {wideHistory : List (Deed ω)} {wideResult : Match (Value ω)}
    (nests : wide.Nests job allowed caller) (appends : wide.Appends caller first last attempt)
    (isAllowed : allowed root) (same : wide.grammar.follow first = job.grammar.follow root)
    (answers : host.Answers reply) (guestAnswers : guest.Answers reply)
    (finds : job.Finds host root position start history result finish)
    (wideFinds : wide.Finds guest caller position elsewhere wideHistory wideResult elsewhereThen)
    (room : ∀ history machine world, wide.Visits guest caller position elsewhere history machine
      world → machine.frames.size < capacity) :
    wideResult = conclusion attempt result := by
  obtain ⟨rootId, begins, lastMachine, begun, leads, queue, finished⟩ := finds
  obtain rfl := begin_rootFrame begun
  have calls : ((wide.grammar.matcherAt (wide.grammar.spot caller position)).start wide.input
      position).move reply = .call first position (.start position) := by
    rw [appends.pair]
    rfl
  obtain ⟨historyThere, wideMachine, later, visitsThere, full | nested |
    ⟨known, isKnown, handed⟩⟩ := nests.follows isAllowed calls same answers guestAnswers
      ⟨rootFrame, begins, begun, leads⟩ elsewhere
  · exact absurd (room _ _ _ visitsThere) (Nat.not_lt.mpr full)
  · have unfinished := nested.unfinished visitsThere.orderly
    rw [finished] at unfinished
    cases unfinished
  · rw [finished] at isKnown
    cases isKnown
    exact wideFinds.conclusion appends visitsThere handed

end Job

end Packrat
