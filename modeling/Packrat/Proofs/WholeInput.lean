import Packrat.Proofs.Grammar.Supply
import Packrat.Proofs.Scheduler.Conclusion
import Packrat.Proofs.Spans
import Packrat.Proofs.Stability
import Packrat.Proofs.Termination

/-!
# Matching whole inputs

To run a parser on a whole input is to match it and then to ask for the end of the input
where it stopped: the match of the parser's own node decides what the run comes to.  The
same goes for a parser that is written with the end of the input after it.
-/

namespace Packrat

variable {ω ρ τ ι : Type}

/-- With enough fuel, whatever more there is, a computation comes to this. -/
def ComesTo {α : Type} (computation : Nat → Option α) (result : α) : Prop :=
  ∃ enough, ∀ fuel, enough ≤ fuel → computation fuel = some result

theorem ComesTo.unique {α : Type} {computation : Nat → Option α} {result other : α}
    (comes : ComesTo computation result) (others : ComesTo computation other) :
    result = other := by
  obtain ⟨enough, each⟩ := comes
  obtain ⟨otherEnough, otherEach⟩ := others
  have here := each (max enough otherEnough) (Nat.le_max_left _ _)
  have there := otherEach (max enough otherEnough) (Nat.le_max_right _ _)
  exact Option.some.inj (here.symm.trans there)

theorem ComesTo.map {α β : Type} {computation : Nat → Option α} {result : α}
    (comes : ComesTo computation result) {other : Nat → Option β} {f : α → β}
    (same : ∀ fuel, other fuel = (computation fuel).map f) : ComesTo other (f result) := by
  obtain ⟨enough, each⟩ := comes
  refine ⟨enough, fun fuel bound => ?_⟩
  rw [same, each fuel bound]
  rfl

/-- What the match of a parser comes to where the input has to end after it. -/
def Match.toEnd {α : Type} (length : Nat) : Match α → Match α
  | success span value =>
    if span.stop = length then success span value
    else failure "expected end of input" (.point span.stop)
  | failure message span => failure message span

/-- The match of the end of the input. -/
def endMatch (input : Input ω) (position : Nat) : Match (Value ω) :=
  if input.isEnd position then .success (.point position) .unit
  else .failure "expected end of input" (.point position)

/-- What a match of the whole input comes to does not depend on its span. -/
theorem verdict_conclusion [Printable ω] {input : Input ω} {position : Nat}
    {result : Match (Value ω)} (inside : result.Inside position input.length) :
    Engine.verdict input (Job.conclusion (endMatch input) result) =
      Engine.verdict input (result.toEnd input.length) := by
  cases result with
  | failure message span => rfl
  | success span value =>
      have stops : span.stop ≤ input.length := inside.stops
      rw [Job.conclusion, Match.andThen_success, Match.toEnd, endMatch, Input.isEnd]
      by_cases ends : span.stop = input.length
      · rw [if_pos (decide_eq_true (Nat.le_of_eq ends.symm)), if_pos ends]
        rfl
      · rw [if_neg (by simp; omega), if_neg ends]
        rfl

/-- The parser that matches what another one does and then the end of the input. -/
def Parser.consumed (parser : Parser ω ρ) (identity : Nat) : Parser ω ρ :=
  ⟨identity, .consume parser.reference⟩

namespace Grammar

variable {g g' : Grammar ω ρ} {root node : NodeId}

theorem Whole.lt_size (whole : g.Whole root node) : node.number < g.size := by
  obtain ⟨_, ⟨_, ready, _⟩, _⟩ := whole.parts
  exact lt_size_of_ready ready

theorem Whole.appends (whole : g.Whole root node) (acyclic : g.Acyclic) (input : Input ω)
    (memoize : Bool) (limit : Option Nat) :
    ∃ first last, g.follow first = g.follow root ∧
      Job.Appends ⟨g, input, memoize, limit⟩ node first last (endMatch input) := by
  obtain ⟨children, ⟨content, ready, isOf⟩, leads, nothing, ⟨leaf, leafReady, isEnd⟩⟩ := whole.parts
  refine ⟨_, (children ⟨1, Nat.one_lt_two⟩).id, leads, fun position => ?_, fun position => ?_⟩
  · rw [matcherAt_spot acyclic ready, isOf.matcher]
    rfl
  · have here := matcherAt_spot acyclic leafReady position
    rw [spot] at here
    rw [here, isEnd.matcher]
    rfl

/-- A match of a node for a whole input has the match of the other node inside of it, also
where that was made in an earlier grammar. -/
theorem Whole.nests [BEq ω] [Printable ω] (whole : g'.Whole root node) (grows : g.Grows g')
    (tidy : g.Tidy) (complete : g.Complete) (tidyThen : g'.Tidy) (inStock : g.InStock root)
    (input : Input ω) :
    ∃ allowed, allowed root ∧
      Job.Nests ⟨g', input, true, none⟩ ⟨g, input, true, none⟩ allowed node := by
  obtain ⟨among, family, isAmong, apart⟩ := whole.apart
  have stays {id : NodeId} (there : g.InStock id) : g'.follow id = g.follow id :=
    grows.follow_eq tidy complete tidyThen there.lt_size
  refine ⟨fun id => among id ∧ g.InStock id, ⟨isAmong, inStock⟩,
    rfl, ⟨rfl, rfl⟩, ⟨rfl, rfl⟩, tidy.acyclic, ?_, fun id there => stays there.2, ?_, ?_⟩
  · rintro id ⟨there, isStocked⟩
    obtain ⟨content, kind, children, ready, stock, isOf, each⟩ := isStocked.exists_node
    obtain ⟨_, readyThere, eachThere⟩ := family id there
    rw [stays isStocked, grows.kept ready] at readyThere
    cases readyThere
    refine ⟨content.matcher, matcher?_of_ready ready, fun input position called calls => ?_⟩
    have isChild := isOf.mem_children calls
    exact ⟨eachThere called isChild, each called isChild⟩
  · rintro id ⟨_, isStocked⟩
    have old := tidy.acyclic.follow_lt tidy.forwards isStocked.lt_size
    rw [matcher?, matcher?, grows.node?_eq tidy complete tidyThen old]
  · rintro id ⟨there, isStocked⟩
    rw [← stays isStocked]
    exact (apart id there).2

end Grammar

namespace Job

variable {job : Job ω ρ} {host : Host ω ρ τ} {root : NodeId} {position : Nat} {start : τ}

/-- At some moment of a run all indices for frames are used up. -/
def Exhausts (job : Job ω ρ) (host : Host ω ρ τ) (root : NodeId) (position : Nat) (start : τ) :
    Prop :=
  ∃ history machine world, job.Visits host root position start history machine world ∧
    machine.frames.size = capacity

theorem size_lt_of_not_exhausts (room : ¬job.Exhausts host root position start)
    {history : List (Deed ω)} {machine : Machine ω} {world : τ}
    (visits : job.Visits host root position start history machine world) :
    machine.frames.size < capacity :=
  Nat.lt_of_le_of_ne visits.size_le_capacity fun full =>
    room ⟨history, machine, world, visits, full⟩

end Job

namespace Engine

open Grammar

/-! ## What calls come to -/

section

variable {rules : Rules ω ρ} {parser : Parser ω ρ} {engine : Engine ω ρ} {host : Host ω ρ τ}
  {input : Input ω} {options : Options} {root : NodeId} {world : τ}

theorem execute_eq_error_iff {fuel : Nat} {error : ResolveError} :
    (engine.execute rules host fuel parser input options world).1 = some (.error error) ↔
      (engine.resolve rules parser).1 = .error error := by
  unfold execute
  cases engine.resolve rules parser with
  | mk result later => cases result <;> simp

theorem comesTo_execute (resolved : (engine.resolve rules parser).1 = .ok root)
    {outcome : Job.Outcome ω}
    (comes : ComesTo (fun fuel =>
      ((engine.resolve rules parser).2.matchNode host fuel input options root world).1) outcome) :
    ComesTo (fun fuel => (engine.execute rules host fuel parser input options world).1)
      (.ok outcome) := by
  refine comes.map fun fuel => ?_
  unfold execute
  cases whole : engine.resolve rules parser with
  | mk result later =>
      rw [whole] at resolved
      cases resolved
      rfl

theorem resolveWhole_of_error {error : ResolveError}
    (fails : (engine.resolve rules parser).1 = .error error) :
    (engine.resolveWhole rules parser).1 = .error error := by
  unfold Engine.resolveWhole
  cases resolved : engine.resolve rules parser with
  | mk result later =>
      rw [resolved] at fails
      cases fails
      rfl

theorem resolveWhole_of_ok (resolved : (engine.resolve rules parser).1 = .ok root) :
    engine.resolveWhole rules parser = (engine.resolve rules parser).2.wholeInput rules root := by
  unfold Engine.resolveWhole
  cases whole : engine.resolve rules parser with
  | mk result later =>
      rw [whole] at resolved
      cases resolved
      rfl

theorem exists_resolve_of_resolveWhole {node : NodeId}
    (found : (engine.resolveWhole rules parser).1 = .ok node) :
    ∃ root, (engine.resolve rules parser).1 = .ok root := by
  cases resolved : (engine.resolve rules parser).1 with
  | ok root => exact ⟨root, rfl⟩
  | error error =>
      rw [resolveWhole_of_error resolved] at found
      cases found

variable [Printable ω]

theorem run_eq_error_iff {fuel : Nat} {error : ResolveError} :
    (engine.run rules host fuel parser input options world).1 = some (.error (.resolve error)) ↔
      (engine.resolveWhole rules parser).1 = .error error := by
  unfold run
  cases engine.resolveWhole rules parser with
  | mk result later =>
      cases result with
      | error error => simp
      | ok root =>
          simp only [reduceCtorEq, iff_false]
          intro impossible
          obtain ⟨outcome, _, isVerdict⟩ := Option.map_eq_some_iff.mp impossible
          cases result : outcome.result <;> simp [verdict, result] at isVerdict

theorem comesTo_run (resolved : (engine.resolveWhole rules parser).1 = .ok root)
    {outcome : Job.Outcome ω}
    (comes : ComesTo (fun fuel =>
      ((engine.resolveWhole rules parser).2.matchNode host fuel input options root world).1)
      outcome) :
    ComesTo (fun fuel => (engine.run rules host fuel parser input options world).1)
      (verdict input outcome.result) := by
  refine @ComesTo.map _ _ _ _ comes _ (fun outcome => verdict input outcome.result) fun fuel => ?_
  unfold run
  cases whole : engine.resolveWhole rules parser with
  | mk result later =>
      rw [whole] at resolved
      cases resolved
      rfl

end

/-- What an execution ends with, it comes to. -/
theorem comesTo_of_execute {engine : Engine ω ρ} {rules : Rules ω ρ} {host : Host ω ρ τ}
    {fuel : Nat} {parser : Parser ω ρ} {input : Input ω} {options : Options} {world : τ}
    {outcome : Job.Outcome ω} (inside : options.start ≤ input.length)
    (ran : (engine.execute rules host fuel parser input options world).1 = some (.ok outcome)) :
    ComesTo (fun fuel => (engine.execute rules host fuel parser input options world).1)
      (.ok outcome) := by
  cases resolved : engine.resolve rules parser with
  | mk found later =>
      cases found with
      | error error =>
          rw [execute_eq_error_iff.mpr (congrArg Prod.fst resolved)] at ran
          cases ran
      | ok root =>
          rw [execute_of_resolve resolved inside] at ran
          obtain ⟨_, ended, isOutcome⟩ := Option.map_eq_some_iff.mp ran
          cases isOutcome
          refine ⟨fuel, fun more enough => ?_⟩
          dsimp only
          rw [execute_of_resolve resolved inside, Job.run_mono enough ended]
          rfl

/-- The match of a parser in an engine that has resolved it uses up all indices for
frames. -/
def Exhausts (resolved : Except ResolveError NodeId × Engine ω ρ) (host : Host ω ρ τ)
    (input : Input ω) (options : Options) (world : τ) : Prop :=
  ∃ root, resolved.1 = .ok root ∧
    Job.Exhausts ⟨resolved.2.grammar, input, options.memoize, options.stepLimit⟩ host root
      options.start world

theorem Exhausts.of_ok {engine : Engine ω ρ} {root : NodeId} {host : Host ω ρ τ}
    {input : Input ω} {options : Options} {world : τ}
    (full : Exhausts (.ok root, engine) host input options world)
    {found : Except ResolveError NodeId} (isRoot : found = .ok root) :
    Exhausts (found, engine) host input options world := by
  subst isRoot
  exact full

section

variable {engine later : Engine ω ρ} {host : Host ω ρ τ}
  {guest : Host ω ρ ι} {reply : ρ → Answer ω} {input : Input ω} {options : Options}
  {root node : NodeId}

theorem comesTo_of_finds {world : τ} {history : List (Deed ω)} {result : Match (Value ω)}
    {finish : τ} (inside : options.start ≤ input.length)
    (finds : Job.Finds ⟨engine.grammar, input, options.memoize, options.stepLimit⟩ host root
      options.start world history result finish) :
    ∃ steps, ComesTo (fun fuel => (engine.matchNode host fuel input options root world).1)
      ⟨result, steps⟩ := by
  obtain ⟨steps, runs⟩ := finds.exists_run
  refine ⟨steps, history.length + 1, fun fuel enough => ?_⟩
  simp only [matchNode, if_neg (Nat.not_lt.mpr inside), runs fuel enough]

theorem comesTo_of_past (past : input.length < options.start) (world : τ) :
    ComesTo (fun fuel => (engine.matchNode host fuel input options root world).1)
      ⟨.failure ("start position " ++ options.start.repr ++ " is past the end of the input")
        (.point input.length), 0⟩ :=
  ⟨0, fun fuel _ => by simp only [matchNode, if_pos past]⟩

variable [BEq ω] [Printable ω]

variable (host) in
/-- A match of a node has a result, unless all indices for frames are used up. -/
theorem exhausts_or_finds (acyclic : engine.grammar.Acyclic)
    (inStock : engine.grammar.InStock root) (unlimited : options.stepLimit = none)
    (inside : options.start ≤ input.length) (world : τ) :
    Exhausts (.ok root, engine) host input options world ∨ ∃ history result finish,
      Job.Finds ⟨engine.grammar, input, options.memoize, options.stepLimit⟩ host root
        options.start world history result finish := by
  obtain ⟨allowed, stocked, isAllowed⟩ := inStock
  obtain ⟨most, tame⟩ := stocked.exists_tame acyclic input options.memoize options.stepLimit
  obtain ⟨fuel, outcome, finish, _, ⟨history, finds⟩ | ⟨_, full⟩⟩ :=
    tame.ends unlimited isAllowed inside
  · exact .inr ⟨history, _, finish, finds⟩
  · exact .inl ⟨root, rfl, full⟩

/-- A node for a whole input is matched as the other node and the end of the input are. -/
theorem comesTo_whole (steady : engine.Steady) (steadyThen : later.Steady)
    (grows : engine.grammar.Grows later.grammar) (inStock : engine.grammar.InStock root)
    (whole : later.grammar.Whole root node)
    (answers : host.Answers reply) (guestAnswers : guest.Answers reply)
    (keeps : options.memoize = true) (unlimited : options.stepLimit = none) (world : τ)
    (elsewhere : ι) :
    Exhausts (.ok root, engine) host input options world ∨
      Exhausts (.ok node, later) guest input options elsewhere ∨
      ∃ outcome wide,
        ComesTo (fun fuel => (engine.matchNode host fuel input options root world).1) outcome ∧
        ComesTo (fun fuel => (later.matchNode guest fuel input options node elsewhere).1) wide ∧
        verdict input wide.result = verdict input (outcome.result.toEnd input.length) := by
  obtain ⟨tidy, complete⟩ := steady
  have acyclicThen := steadyThen.tidy.acyclic
  have wideInStock := whole.inStock (inStock.grows grows tidy steadyThen.tidy)
  rcases Nat.lt_or_ge input.length options.start with past | inside
  · exact .inr (.inr ⟨_, _, comesTo_of_past past world, comesTo_of_past past elsewhere, rfl⟩)
  · rcases exhausts_or_finds host tidy.acyclic inStock unlimited inside world with
      full | ⟨history, result, finish, finds⟩
    · exact .inl full
    · by_cases room : Exhausts (.ok node, later) guest input options elsewhere
      · exact .inr (.inl room)
      · rcases exhausts_or_finds guest acyclicThen wideInStock unlimited inside
          elsewhere with full | ⟨wideHistory, wideResult, wideFinish, wideFinds⟩
        · exact absurd full room
        · obtain ⟨_, comes⟩ := comesTo_of_finds inside finds
          obtain ⟨_, wideComes⟩ := comesTo_of_finds inside wideFinds
          refine .inr (.inr ⟨_, _, comes, wideComes, ?_⟩)
          obtain ⟨allowed, isAllowed, nests⟩ := whole.nests grows tidy complete steadyThen.tidy
            inStock input
          obtain ⟨first, last, leads, appends⟩ := whole.appends acyclicThen input true none
          have spacious : ¬Job.Exhausts ⟨later.grammar, input, true, none⟩ guest node options.start
              elsewhere := by
            rintro full
            rw [← keeps, ← unlimited] at full
            exact room ⟨node, rfl, full⟩
          rw [keeps, unlimited] at finds wideFinds
          have isConclusion := nests.finds appends isAllowed
            (leads.trans (grows.follow_eq tidy complete steadyThen.tidy inStock.lt_size)) answers
            guestAnswers finds wideFinds fun _ _ _ => Job.size_lt_of_not_exhausts spacious
          obtain ⟨among, stocked, isAmong⟩ := inStock
          obtain ⟨most, bounded⟩ := stocked.exists_bounded tidy.acyclic input true none
          obtain ⟨steps, runs⟩ := finds.exists_run
          simp only [isConclusion]
          exact verdict_conclusion
            (Job.run_inside bounded isAmong inside (runs _ (Nat.lt_succ_self _)))

/-- A match of a node in stock, with the results kept, does not use up the indices for frames
where there are more of them than nodes and positions. -/
theorem not_exhausts {resolved : Except ResolveError NodeId × Engine ω ρ}
    (acyclic : resolved.2.grammar.Acyclic)
    (inStock : ∀ root, resolved.1 = .ok root → resolved.2.grammar.InStock root)
    (keeps : options.memoize = true) (unlimited : options.stepLimit = none)
    (inside : options.start ≤ input.length)
    (room : resolved.2.grammar.nodeCount * (input.length + 1) < capacity) (world : τ) :
    ¬Exhausts resolved host input options world := by
  rintro ⟨root, found, history, machine, now, visits, full⟩
  rw [keeps, unlimited] at visits
  obtain ⟨allowed, stocked, isAllowed⟩ := inStock root found
  obtain ⟨most, tame⟩ := stocked.exists_tame acyclic input true none
  have bound : machine.frames.size ≤ resolved.2.grammar.nodeCount * (input.length + 1) :=
    visits.size_le_spotCount rfl tame isAllowed inside
  omega

end

/-! ## Engines that are used with genuine parsers -/

section

variable {engine later : Engine ω ρ} {root node : NodeId}

/-- The whole-input forms that an engine has are such, and others are not written yet. -/
structure Consistent (engine : Engine ω ρ) : Prop where
  grown : Grown GenuineOnly engine.grammar
  whole : ∀ root node, engine.consuming.find? root = some node →
    root.number < engine.grammar.size ∧ engine.grammar.Whole root node
  unwritten : ∀ root, engine.consuming.find? root = none →
    ∀ place : Place, place.origin = .consumer root → engine.grammar.nodes.find? place = none

namespace Consistent

variable {rules : Rules ω ρ}

theorem new (number : Nat) (kind : InputKind) (options : Options) :
    (Engine.new number kind options : Engine ω ρ).Consistent :=
  ⟨.empty number kind, nofun, fun _ _ _ _ => rfl⟩

theorem steady (consistent : engine.Consistent) : engine.Steady :=
  ⟨consistent.grown.tidy.1, consistent.grown.tidy.2⟩

/-- Whole-input forms stay what they are. -/
theorem whole_of_extends (consistent : engine.Consistent) (more : engine.Extends later)
    (steadyThen : later.Steady) (found : engine.consuming.find? root = some node) :
    root.number < later.grammar.size ∧ later.grammar.Whole root node := by
  obtain ⟨small, whole⟩ := consistent.whole root node found
  have steady := consistent.steady
  exact ⟨Nat.lt_of_lt_of_le small more.grammar.size,
    whole.grows more.grammar steady.tidy steadyThen.tidy steady.complete⟩

/-- Resolving anything but a whole-input form. -/
theorem resolveAt (consistent : engine.Consistent) {place : Place} {reference : Reference ω ρ}
    (genuine : GenuineOnly rules reference) (elsewhere : ∀ root, place.origin ≠ .consumer root) :
    (engine.resolveAt rules place reference).2.Consistent := by
  have steady := consistent.steady
  obtain ⟨more, steadyThen⟩ := steady.resolveAt rules place reference
  refine ⟨.resolve place genuine consistent.grown,
    fun root node found => consistent.whole_of_extends more steadyThen found,
    fun root unknown other isConsumer => ?_⟩
  exact (steady.tidy.nodes_resolve rules reference (elsewhere root) isConsumer).trans
    (consistent.unwritten root unknown other isConsumer)

section WholeInput

variable (consistent : engine.Consistent) {reference : Reference ω ρ}
  (genuine : GenuineOnly rules reference)

include consistent genuine

/-- A whole-input form that cannot be resolved is not written, either. -/
theorem of_failed (root : NodeId) (error : ResolveError)
    (fails : (engine.resolveAt rules ⟨.consumer root, []⟩ reference).1 = .error error) :
    (engine.resolveAt rules ⟨.consumer root, []⟩ reference).2.Consistent := by
  have steady := consistent.steady
  obtain ⟨more, steadyThen⟩ := steady.resolveAt rules ⟨.consumer root, []⟩ reference
  refine ⟨.resolve _ genuine consistent.grown,
    fun other node found => consistent.whole_of_extends more steadyThen found,
    fun other unknown place isConsumer => ?_⟩
  exact (steady.tidy.nodes_of_failed fails place).trans
    (consistent.unwritten other unknown place isConsumer)

/-- Noting a whole-input form that has been resolved. -/
theorem noted (root node : NodeId)
    (whole : (engine.resolveAt rules ⟨.consumer root, []⟩ reference).2.grammar.Whole root node)
    (small : root.number < engine.grammar.size) :
    ({ (engine.resolveAt rules ⟨.consumer root, []⟩ reference).2 with
      consuming := (engine.resolveAt rules ⟨.consumer root, []⟩ reference).2.consuming.insert
        root node } : Engine ω ρ).Consistent := by
  have steady := consistent.steady
  obtain ⟨more, steadyThen⟩ := steady.resolveAt rules ⟨.consumer root, []⟩ reference
  refine ⟨.resolve _ genuine consistent.grown, fun other found there => ?_,
    fun other unknown place isConsumer => ?_⟩
  · change (engine.consuming.insert root node).find? other = some found at there
    rw [Table.find?_insert] at there
    split at there
    next same =>
      cases there
      rw [same]
      exact ⟨Nat.lt_of_lt_of_le small more.grammar.size, whole⟩
    next =>
      have old := consistent.whole_of_extends more steadyThen there
      exact old
  · change (engine.consuming.insert root node).find? other = none at unknown
    rw [Table.find?_insert] at unknown
    split at unknown
    next => cases unknown
    next different =>
      have elsewhere : Origin.consumer root ≠ .consumer other := fun same =>
        different (Origin.consumer.inj same).symm
      exact (steady.tidy.nodes_resolve rules reference elsewhere isConsumer).trans
        (consistent.unwritten other unknown place isConsumer)

end WholeInput

/-- The whole-input form of a node is resolved, unless there are no slots left. -/
theorem wholeInput (consistent : engine.Consistent) (rules : Rules ω ρ)
    (small : root.number < engine.grammar.size) (stays : engine.grammar.follow root = root) :
    (engine.wholeInput rules root).2.Consistent ∧
      (capacity < engine.grammar.size + 2 ∨
        ∃ node, (engine.wholeInput rules root).1 = .ok node) := by
  unfold Engine.wholeInput
  cases consumed : engine.consuming.find? root with
  | some node => exact ⟨consistent, .inr ⟨node, rfl⟩⟩
  | none =>
      have unwritten := consistent.unwritten root consumed
      have genuine : GenuineOnly rules (.consume (engine.grammar.handle root)) :=
        (GenuineOnly.handle _ _).consume
      have knows : engine.grammar.Knows (engine.grammar.handle root)
          (Place.child ⟨.consumer root, []⟩ 0) root := by
        refine ⟨root, ?_, stays⟩
        rw [Grammar.handle, known?, stays, if_pos ⟨rfl, small⟩, stays]
      have made := @Grown.resolve_whole _ _ _ consistent.grown rules _ _ (unwritten _ rfl)
        (unwritten _ rfl) _ small knows
      have failed := consistent.of_failed genuine root
      have noted := consistent.noted genuine root
      change (_ ∧ ∃ error, (engine.resolveAt rules ⟨.consumer root, []⟩
          (.consume (engine.grammar.handle root))).1 = .error error) ∨
        ∃ id, (engine.resolveAt rules ⟨.consumer root, []⟩
          (.consume (engine.grammar.handle root))).1 = .ok id ∧
          (engine.resolveAt rules ⟨.consumer root, []⟩
            (.consume (engine.grammar.handle root))).2.grammar.Whole root id at made
      revert made failed noted
      cases engine.resolveAt rules ⟨.consumer root, []⟩ (.consume (engine.grammar.handle root)) with
      | mk result later =>
          rintro failed noted made
          rcases made with ⟨full, error, rfl⟩ | ⟨node, rfl, whole⟩
          · exact ⟨failed error rfl, .inl full⟩
          · exact ⟨noted node whole small, .inr ⟨node, rfl⟩⟩

theorem resolve {parser : Parser ω ρ} (consistent : engine.Consistent)
    (genuine : GenuineOnly rules parser.body) : (engine.resolve rules parser).2.Consistent :=
  consistent.resolveAt genuine nofun

/-- What a parser is resolved to is a slot that leads nowhere else. -/
theorem resolved {parser : Parser ω ρ} (consistent : engine.Consistent)
    (found : (engine.resolve rules parser).1 = .ok root) :
    root.number < (engine.resolve rules parser).2.grammar.size ∧
      (engine.resolve rules parser).2.grammar.follow root = root ∧
      (engine.resolve rules parser).2.grammar.Knows parser.body ⟨.parser parser.identity, []⟩
        root := by
  have steady := consistent.steady
  obtain ⟨_, steadyThen⟩ := steady.resolveAt rules ⟨.parser parser.identity, []⟩ parser.body
  have knows := steady.tidy.knows_of_resolve found
  have ⟨there, _, leads⟩ := knows
  refine ⟨steady.tidy.resolved_lt found, ?_, knows⟩
  rw [← leads]
  exact steadyThen.tidy.acyclic.follow_follow there

theorem resolveWhole {parser : Parser ω ρ} (consistent : engine.Consistent)
    (genuine : GenuineOnly rules parser.body) :
    (engine.resolveWhole rules parser).2.Consistent := by
  have there := consistent.resolve genuine
  unfold Engine.resolveWhole
  cases whole : engine.resolve rules parser with
  | mk result later =>
      rw [whole] at there
      cases result with
      | error error => exact there
      | ok root =>
          obtain ⟨small, stays, _⟩ := consistent.resolved (congrArg Prod.fst whole)
          rw [whole] at small stays
          exact (there.wholeInput rules small stays).1

end Consistent

variable [Printable ω]

/-- One call of an engine with a genuine parser, under genuine rules, with any host, input
and options. -/
inductive Use : Engine ω ρ → Engine ω ρ → Prop
  | resolve {engine : Engine ω ρ} {rules : Rules ω ρ} {parser : Parser ω ρ} :
      GenuineOnly rules parser.body → Use engine (engine.resolve rules parser).2
  | execute {engine : Engine ω ρ} {rules : Rules ω ρ} {parser : Parser ω ρ} {τ : Type}
      (host : Host ω ρ τ) (fuel : Nat) (input : Input ω) (options : Options) (world : τ) :
      GenuineOnly rules parser.body →
      Use engine (engine.execute rules host fuel parser input options world).2.1
  | run {engine : Engine ω ρ} {rules : Rules ω ρ} {parser : Parser ω ρ} {τ : Type}
      (host : Host ω ρ τ) (fuel : Nat) (input : Input ω) (options : Options) (world : τ) :
      GenuineOnly rules parser.body →
      Use engine (engine.run rules host fuel parser input options world).2.1

/-- Any number of such calls, one after the other. -/
abbrev Uses : Engine ω ρ → Engine ω ρ → Prop := Relation.ReflTransGen Use

theorem Use.call {engine later : Engine ω ρ} (use : Use engine later) : Call engine later := by
  cases use with
  | resolve => exact .resolve engine _ _ _
  | execute host fuel input options world => exact .execute engine _ host fuel _ input options world
  | run host fuel input options world => exact .run engine _ host fuel _ input options world

theorem Uses.calls {engine later : Engine ω ρ} (uses : Uses engine later) : Calls engine later :=
  Relation.ReflTransGen.mono (fun _ _ => Use.call) _ _ uses

theorem Use.consistent {engine later : Engine ω ρ} (use : Use engine later)
    (consistent : engine.Consistent) : later.Consistent := by
  cases use with
  | resolve genuine => exact consistent.resolve genuine
  | execute host fuel input options world genuine =>
      rw [execute_engine]
      exact consistent.resolve genuine
  | run host fuel input options world genuine =>
      rw [run_engine]
      exact consistent.resolveWhole genuine

theorem Uses.consistent {engine later : Engine ω ρ} (uses : Uses engine later)
    (consistent : engine.Consistent) : later.Consistent := by
  induction uses with
  | refl => exact consistent
  | tail _ use induction => exact use.consistent induction

end

/-! ## Running parsers -/

section

variable {engine later : Engine ω ρ} {host : Host ω ρ τ} {guest : Host ω ρ ι}
  {reply : ρ → Answer ω} {input : Input ω} {options : Options} {root node : NodeId}
  {rules : Rules ω ρ} {parser : Parser ω ρ}

/-- What a run matches is a node for the whole input. -/
theorem Consistent.whole_of_resolveWhole (consistent : engine.Consistent)
    (genuine : GenuineOnly rules parser.body)
    (resolved : (engine.resolve rules parser).1 = .ok root)
    (found : (engine.resolveWhole rules parser).1 = .ok node) :
    (engine.resolve rules parser).2.grammar.Grows (engine.resolveWhole rules parser).2.grammar ∧
      (engine.resolveWhole rules parser).2.grammar.Whole root node := by
  have there := consistent.resolve genuine
  obtain ⟨small, stays, _⟩ := consistent.resolved resolved
  rw [resolveWhole_of_ok resolved] at found ⊢
  obtain ⟨consistentThen, _⟩ := there.wholeInput rules small stays
  exact ⟨(there.steady.wholeInput rules root).1.grammar,
    (consistentThen.whole root node (consuming_of_wholeInput found)).2⟩

/-- What a parser that has been resolved is resolved to with the end of the input after it
is a node for the whole input, if there are two slots left. -/
theorem Consistent.whole_of_consumed (consistent : engine.Consistent)
    (knows : engine.grammar.Knows parser.body ⟨.parser parser.identity, []⟩ root)
    (small : root.number < engine.grammar.size) {identity : Nat}
    (unwritten : ∀ path, engine.grammar.nodes.find? ⟨.parser identity, path⟩ = none) :
    (capacity < engine.grammar.size + 2 ∧
        ∃ error, (engine.resolve rules (parser.consumed identity)).1 = .error error) ∨
      ∃ node, (engine.resolve rules (parser.consumed identity)).1 = .ok node ∧
        (engine.resolve rules (parser.consumed identity)).2.grammar.Whole root node :=
  consistent.grown.resolve_whole (unwritten _) (unwritten _) small knows

/-- A run can resolve what an execution can, if there are two slots left. -/
theorem Consistent.resolveWhole_error (consistent : engine.Consistent)
    (genuine : GenuineOnly rules parser.body) {error : ResolveError}
    (fails : (engine.resolveWhole rules parser).1 = .error error) :
    (engine.resolve rules parser).1 = .error error ∨
      capacity < (engine.resolve rules parser).2.grammar.size + 2 := by
  cases resolved : (engine.resolve rules parser).1 with
  | error other =>
      rw [resolveWhole_of_error resolved] at fails
      exact .inl fails
  | ok root =>
      obtain ⟨small, stays, _⟩ := consistent.resolved resolved
      rw [resolveWhole_of_ok resolved] at fails
      rcases ((consistent.resolve genuine).wholeInput rules small stays).2 with full | ⟨_, found⟩
      · exact .inr full
      · rw [fails] at found
        cases found

variable [BEq ω] [Printable ω]

/-- What a run matches is in stock if what an execution matches is. -/
theorem Consistent.inStock_of_resolveWhole (consistent : engine.Consistent)
    (genuine : GenuineOnly rules parser.body)
    (resolved : (engine.resolve rules parser).1 = .ok root)
    (found : (engine.resolveWhole rules parser).1 = .ok node)
    (inStock : (engine.resolve rules parser).2.grammar.InStock root) :
    (engine.resolveWhole rules parser).2.grammar.InStock node := by
  obtain ⟨grows, whole⟩ := consistent.whole_of_resolveWhole genuine resolved found
  exact whole.inStock (inStock.grows grows (consistent.resolve genuine).steady.tidy
    (consistent.resolveWhole genuine).steady.tidy)

section

variable (consistent : engine.Consistent) (genuine : GenuineOnly rules parser.body)
  (inStock : ∀ root, (engine.resolve rules parser).1 = .ok root →
    (engine.resolve rules parser).2.grammar.InStock root)
  (answers : host.Answers reply) (guestAnswers : guest.Answers reply) (input)
  (keeps : options.memoize = true) (unlimited : options.stepLimit = none)
  (found : (engine.resolveWhole rules parser).1 = .ok node)

include consistent genuine inStock answers guestAnswers keeps unlimited found

theorem Consistent.run_comesTo (world : τ) (elsewhere : ι) :
    Exhausts (engine.resolve rules parser) host input options world ∨
      Exhausts (engine.resolveWhole rules parser) guest input options elsewhere ∨
      ∃ outcome,
        ComesTo (fun fuel => (engine.execute rules host fuel parser input options world).1)
          (.ok outcome) ∧
        ComesTo (fun fuel => (engine.run rules guest fuel parser input options elsewhere).1)
          (verdict input (outcome.result.toEnd input.length)) := by
  obtain ⟨root, resolved⟩ := exists_resolve_of_resolveWhole found
  obtain ⟨grows, whole⟩ := consistent.whole_of_resolveWhole genuine resolved found
  rcases comesTo_whole (consistent.resolve genuine).steady (consistent.resolveWhole genuine).steady
    grows (inStock root resolved) whole answers guestAnswers keeps unlimited world elsewhere with
    full | full | ⟨outcome, wide, executes, runs, same⟩
  · exact .inl (full.of_ok resolved)
  · exact .inr (.inl (full.of_ok found))
  · exact .inr (.inr ⟨outcome, comesTo_execute resolved executes, same ▸ comesTo_run found runs⟩)

/-- What is written for a parser and then the end of the input is executed as the parser is,
and then the end of the input. -/
theorem Consistent.consumed_comesTo (uses : Uses (engine.resolveWhole rules parser).2 later)
    {identity : Nat}
    (unwritten : ∀ path, later.grammar.nodes.find? ⟨.parser identity, path⟩ = none)
    (world : τ) (elsewhere : ι) :
    (capacity < later.grammar.size + 2 ∧
        ∃ error, (later.resolve rules (parser.consumed identity)).1 = .error error) ∨
      Exhausts (engine.resolve rules parser) host input options world ∨
      Exhausts (later.resolve rules (parser.consumed identity)) guest input options elsewhere ∨
      ∃ outcome wide,
        ComesTo (fun fuel => (engine.execute rules host fuel parser input options world).1)
          (.ok outcome) ∧
        ComesTo (fun fuel => (later.execute rules guest fuel (parser.consumed identity) input
          options elsewhere).1) (.ok wide) ∧
        verdict input wide.result = verdict input (outcome.result.toEnd input.length) := by
  obtain ⟨root, resolved⟩ := exists_resolve_of_resolveWhole found
  obtain ⟨small, _, knows⟩ := consistent.resolved resolved
  have here := consistent.resolve genuine
  have afterRun := consistent.resolveWhole genuine
  have there := uses.consistent afterRun
  have more := (consistent.whole_of_resolveWhole genuine resolved found).1.trans
    (uses.calls.extends afterRun.steady).1.grammar
  have knowsThere := more.knows here.steady.tidy here.steady.complete there.steady.tidy knows
  rcases there.whole_of_consumed knowsThere (Nat.lt_of_lt_of_le small more.size) unwritten with
    full | ⟨other, isNode, whole⟩
  · exact .inl full
  · have last : (later.resolve rules (parser.consumed identity)).2.Consistent :=
      there.resolve (genuine.parser parser.identity).consume
    have onwards := more.trans (there.steady.resolveAt rules ⟨.parser identity, []⟩
      (parser.consumed identity).body).1.grammar
    rcases comesTo_whole here.steady last.steady onwards (inStock root resolved) whole answers
      guestAnswers keeps unlimited world elsewhere with
      full | full | ⟨outcome, wide, executes, runs, same⟩
    · exact .inr (.inl (full.of_ok resolved))
    · exact .inr (.inr (.inl (full.of_ok isNode)))
    · exact .inr (.inr (.inr ⟨outcome, wide, comesTo_execute resolved executes,
        comesTo_execute isNode runs, same⟩))

end

/-- Where nothing but the library's own parsers has been resolved, they are resolved to nodes
in stock. -/
theorem inStock_of_resolve (grown : Grown StockOnly engine.grammar)
    (stockOnly : StockOnly rules parser.body) (found : (engine.resolve rules parser).1 = .ok root) :
    (engine.resolve rules parser).2.grammar.InStock root :=
  have ⟨grownThen, small⟩ := grown_of_resolve grown stockOnly (Prod.ext found rfl)
  grownThen.inStock small

/-- Where nothing but what a genuine program writes has been resolved, its parsers that are
the library's own are resolved to nodes in stock. -/
theorem inStock_of_continues {book : Book ω ρ} {number : Nat} {kind : InputKind}
    (history : Continues book (.empty number kind) engine.grammar) (genuine : book.Genuine)
    {named : String → Prop} (closed : ∀ name, named name →
      (book.rules name).MadeOf Kind.Stock named Reference.NoHandle)
    (made : parser.body.MadeOf Kind.Stock named Reference.NoHandle)
    (written : book.parsers parser.identity = parser.body)
    (found : (engine.resolve book.rules parser).1 = .ok root) :
    (engine.resolve book.rules parser).2.grammar.InStock root := by
  obtain ⟨historyThen, _, _, ledger, sound, _, stands⟩ :=
    continues_of_resolve history written (Prod.ext found rfl)
  exact sound.inStock closed made stands (historyThen.genuine genuine).lettered

end

/-! ## A run after a stranger -/

/-- A caller's own parser, which matches nothing. -/
def stranger : Parser Empty Empty :=
  ⟨1, .node ⟨"stranger", 0, false, .named, fun _ => .ofMatch fun _ position =>
    .success (.point position) .unit⟩ nofun⟩

theorem stranger_genuine : stranger.body.Genuine fun _ => True :=
  .node (fun _ mayShare => by cases mayShare) nofun

/-- A rule that starts with itself is tried first, and then a line feed. -/
def leftwardFirst : Parser Empty Empty := ⟨0, leftward "again"⟩

/-- A program that has both of them. -/
def estranged : Book Empty Empty where
  rules := leftward
  parsers identity := if identity = 0 then leftward "again" else stranger.body
  rule_faithful name := (leftward_plain name).faithful _
  parser_faithful identity := by
    split
    next => exact (leftward_plain "again").faithful _
    next => exact .node (fun _ mayShare => by cases mayShare) nofun

theorem estranged_genuine : estranged.Genuine := by
  refine ⟨fun name => ((leftward_plain name).made fun _ _ => True).genuine, fun identity => ?_⟩
  dsimp only [estranged]
  split
  next => exact ((leftward_plain "again").made fun _ _ => True).genuine
  next => exact stranger_genuine

/-- An engine in which the stranger has been resolved. -/
def visited : Engine Empty Empty := ((new 0 .text .standard).resolve leftward stranger).2

theorem visited_uses : Uses (new 0 .text .standard) visited :=
  .single (.resolve ⟨_, fun name _ => estranged_genuine.1 name, stranger_genuine⟩)

theorem leftwardFirst_resolves :
    (visited.resolve leftward leftwardFirst).2.grammar.nodeCount = 4 ∧
    (visited.resolveWhole leftward leftwardFirst).1.isOk = true ∧
    (visited.resolveWhole leftward leftwardFirst).2.grammar.nodeCount = 6 := by
  decide +kernel

theorem leftwardFirst_inStock (root : NodeId)
    (resolved : (visited.resolve leftward leftwardFirst).1 = .ok root) :
    (visited.resolve leftward leftwardFirst).2.grammar.InStock root := by
  have history : Continues estranged (.empty 0 .text) visited.grammar := .parser 1 .here
  exact inStock_of_continues history estranged_genuine (fun name _ => (leftward_plain name).made _)
    ((leftward_plain "again").made _) rfl resolved

/-- The input is two line feeds, of which the parser matches the first. -/
theorem leftwardFirst_executes :
    ComesTo (fun fuel => (visited.execute leftward ⟨Empty.elim, fun _ _ => ()⟩ fuel leftwardFirst
      (.text ⟨#['\n', '\n']⟩) .standard ()).1)
      (.ok ⟨.success (.between 0 1) (.text "\n"), 7⟩) := by
  refine @comesTo_of_execute _ _ _ _ _ _ 20 _ _ _ _ _ (Nat.zero_le _) ?_
  set_option maxRecDepth 100000 in cbv

end Engine

end Packrat
