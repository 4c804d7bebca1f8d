import Mathlib
import Packrat.Proofs.Engine
import Packrat.Proofs.Scheduler.Extent
import Packrat.Proofs.Scheduler.Provenance

/-!
# What matches cover

Wherever a run among the library's own nodes has come, the result of a frame lies between
the frame's position and the end of the input: a success covers the input from that
position on, and a failure is anchored there or later.  What a sequence or a chain covers
is made up of what its parts cover, each part from where the one before it stopped.
-/

namespace Packrat

variable {ω ρ τ : Type}

namespace Job

variable {job : Job ω ρ} {host : Host ω ρ τ} {allowed : NodeId → Prop}

/-- A run that ends with a match has come to where the root's frame has it. -/
theorem exists_visits_of_runFrom {root : NodeId} {position fuel steps : Nat} {frame : FrameId}
    {first : Machine ω} {start finish : τ} {result : Match (Value ω)}
    (begun : job.begin root position = some (frame, first))
    (ended : job.runFrom host frame fuel first start = (some (.ok result, steps), finish)) :
    ∃ history machine world own, job.Visits host root position start history machine world ∧
      machine.frame? frame = some own ∧ own.spot = job.grammar.spot root position ∧
      own.result = some result := by
  obtain ⟨history, machine, world, leads, turned⟩ := exists_leads_of_runFrom ended
  obtain ⟨own, there, atRoot⟩ := leads.root_frame begun
  rcases ended_of_turn turned with ⟨_, isOk, finished⟩ | ⟨impossible, _⟩ | ⟨impossible, _⟩ |
    ⟨impossible, _⟩
  · cases isOk
    exact ⟨history, machine, world, own, ⟨frame, first, begun, leads⟩, there, atRoot,
      (Machine.result?_eq there).symm.trans finished⟩
  · cases impossible
  · cases impossible
  · cases impossible

/-- Whatever a run comes to, even if it gives up, is inside the input. -/
theorem run_inside {root : NodeId} {position most fuel : Nat} {world finish : τ}
    {outcome : Outcome ω} (bounded : job.Bounded allowed most) (isAllowed : allowed root)
    (inside : position ≤ job.input.length)
    (ran : job.run host fuel root position world = (some outcome, finish)) :
    outcome.result.Inside position job.input.length := by
  have gaveUp : ∀ message,
      (.failure message (.point position) : Match (Value ω)).Inside position job.input.length :=
    fun message => Match.inside_failure_point (Nat.le_refl position) inside
  unfold run at ran
  cases begun : job.begin root position with
  | none =>
      rw [begun] at ran
      cases ran
      exact gaveUp _
  | some pair =>
      obtain ⟨frame, first⟩ := pair
      rw [begun] at ran
      simp only at ran
      split at ran
      next result steps after ended =>
        cases ran
        obtain ⟨_, _, _, own, visits, there, atRoot, hasResult⟩ :=
          exists_visits_of_runFrom begun ended
        have covered := (visits.extent bounded isAllowed inside).results frame own result there
          hasResult
        rw [atRoot] at covered
        exact covered
      next halt steps after ended =>
        cases ran
        exact gaveUp _
      next => cases ran

/-- What parts in a row matched makes up what their node matched. -/
theorem Visits.tiles {root : NodeId} {position most : Nat} {start world : τ}
    {history : List (Deed ω)} {machine : Machine ω}
    (visits : job.Visits host root position start history machine world)
    (bounded : job.Bounded allowed most) (isAllowed : allowed root)
    (inside : position ≤ job.input.length) {id : FrameId} {frame : Frame ω} {span : Span}
    {value : Value ω} (found : machine.frame? id = some frame)
    (finished : frame.result = some (.success span value)) {parts : List NodeId}
    (row : (job.grammar.matcherAt frame.spot).Row parts) :
    Tiles (fun node place => machine.Answers (job.grammar.spot node place))
      frame.spot.position parts span.stop := by
  have obeyed := visits.extent bounded isAllowed inside
  rcases visits.explained.results id frame _ found finished with impossible | reached
  · cases impossible
  · refine (row.tiles ?_ reached).2
    rintro node place next result ⟨other, otherFrame, there, same, hasResult⟩
    have covered := obeyed.results other otherFrame _ there hasResult
    rw [same] at covered
    exact covered.start_eq

end Job

/-- Kinds of nodes that match their children one after the other. -/
def Kind.InRow : Kind ω ρ → Prop
  | sequence _ | tryChain _ | keepSecond | keepFirst | consume => True
  | _ => False

theorem Kind.InRow.row {kind : Kind ω ρ} (inRow : kind.InRow)
    (children : Fin kind.arity → Child) :
    (kind.plan.map children).matcher.Row (List.ofFn fun index => (children index).id) := by
  cases kind with
  | sequence count =>
      have parts : ((List.ofFn id).map children).map Child.id =
          List.ofFn fun index => (children index).id := by
        rw [List.map_map, List.map_ofFn]
        rfl
      exact parts ▸ .sequence _
  | tryChain combine => exact .pair _ _ _
  | keepSecond => exact .pair _ _ _
  | keepFirst => exact .pair _ _ _
  | consume => exact .pair _ _ _
  | _ => exact inRow.elim

theorem Grammar.matcherAt_of_node? {g : Grammar ω ρ} {spot : Spot} {node : Resolved ω ρ}
    (isNode : g.node? spot.node = some node) : g.matcherAt spot = node.matcher := by
  rw [matcherAt, matcher?, isNode]
  rfl

/-- A parser of the library's own is matched inside the input, and a success starts where
matching does. -/
theorem Engine.execute_inside [BEq ω] [Printable ω] {rules : Rules ω ρ} {host : Host ω ρ τ}
    {fuel : Nat} {engine : Engine ω ρ} {parser : Parser ω ρ} {input : Input ω}
    {options : Options} {world : τ} {outcome : Job.Outcome ω}
    (grown : Grammar.Grown Grammar.StockOnly engine.grammar)
    (stockOnly : Grammar.StockOnly rules parser.body) (inside : options.start ≤ input.length)
    (executed : (engine.execute rules host fuel parser input options world).1 =
      some (.ok outcome)) :
    outcome.result.Inside options.start input.length := by
  cases resolved : engine.resolve rules parser with
  | mk found later =>
      cases found with
      | error error =>
          rw [execute, resolved] at executed
          cases executed
      | ok root =>
          obtain ⟨grownThen, small⟩ := grown_of_resolve grown stockOnly resolved
          obtain ⟨most, bounded⟩ := grownThen.stocked.exists_bounded grownThen.tidy.1.acyclic input
            options.memoize options.stepLimit
          rw [execute_of_resolve resolved inside] at executed
          obtain ⟨ran, isRun, isOk⟩ := Option.map_eq_some_iff.mp executed
          cases isOk
          exact Job.run_inside bounded small inside (Prod.ext isRun rfl)

/-- Where nothing but parsers of the library's kinds is resolved, all nodes are stocked.
In every run among stocked nodes, wherever it has come and whichever frames it failed, the
result of each frame lies inside the input from the frame's position on, and a success
starts there; and a node that matches its children in a row covers what those children
covered in the run, without gap or overlap.  So the match of a parser is inside the input
and, if it is a success, starts where matching does. -/
theorem matches_are_inside_and_adjacent [BEq ω] [Printable ω] :
    (∀ g : Grammar ω ρ, Grammar.Grown Grammar.StockOnly g →
      g.Acyclic ∧ g.Stocked fun id => id.number < g.size) ∧
    (∀ (job : Job ω ρ) (allowed : NodeId → Prop), job.grammar.Acyclic →
      job.grammar.Stocked allowed →
      ∀ (τ : Type) (host : Host ω ρ τ) (root : NodeId) (position : Nat) (start world : τ)
        (history : List (Deed ω)) (machine : Machine ω),
      allowed root → position ≤ job.input.length →
      job.Visits host root position start history machine world →
      ∀ id frame, machine.frame? id = some frame →
        position ≤ frame.spot.position ∧ frame.spot.position ≤ job.input.length ∧
        ∀ result, frame.result = some result →
          result.Inside frame.spot.position job.input.length ∧
          ∀ span value, result = .success span value →
            ∀ node kind children, job.grammar.node? frame.spot.node = some node →
              node.IsOf kind children → kind.InRow →
              Tiles (fun part place => machine.Answers (job.grammar.spot part place))
                frame.spot.position node.children span.stop) ∧
    ∀ (τ : Type) (rules : Rules ω ρ) (host : Host ω ρ τ) (fuel : Nat) (engine : Engine ω ρ)
      (parser : Parser ω ρ) (input : Input ω) (options : Options) (world : τ)
      (outcome : Job.Outcome ω),
      Grammar.Grown Grammar.StockOnly engine.grammar → Grammar.StockOnly rules parser.body →
      options.start ≤ input.length →
      (engine.execute rules host fuel parser input options world).1 = some (.ok outcome) →
      outcome.result.Inside options.start input.length := by
  refine ⟨fun g grown => ⟨grown.tidy.1.acyclic, grown.stocked⟩, ?_, ?_⟩
  · intro job allowed acyclic stocked τ host root position start world history machine isAllowed
      inside visits id frame found
    obtain ⟨most, bounded⟩ := stocked.exists_bounded acyclic job.input job.memoize job.limit
    have obeyed := visits.extent bounded isAllowed inside
    have covers := obeyed.spots id frame found
    refine ⟨covers.starts, covers.stops, fun result finished => ?_⟩
    refine ⟨obeyed.results id frame result found finished, ?_⟩
    rintro span value rfl node kind children isNode isOf inRow
    apply visits.tiles bounded isAllowed inside found finished
    rw [Grammar.matcherAt_of_node? isNode, isOf.matcher, isOf.children]
    exact inRow.row children
  · intro τ rules host fuel engine parser input options world outcome grown stockOnly inside
      executed
    exact Engine.execute_inside grown stockOnly inside executed

/-- A job that matches any two characters in a row. -/
def couple : Job Empty Empty :=
  { grammar :=
      { (Grammar.empty 0 .text : Grammar Empty Empty) with
        slots := #[
          .ready ⟨"sequence", [.ofNat 1, .ofNat 1], "any any", none,
            .sequence [.ofNat 1, .ofNat 1]⟩,
          .ready ⟨"any", [], "any", none, (Kind.any.plan.map (Fin.elim0 ·)).matcher⟩] }
    input := .text ⟨#['a', 'b']⟩
    memoize := false
    limit := none }

theorem couple_notForward (id target : NodeId) :
    couple.grammar.slot? id ≠ some (.forward target) := by
  obtain ⟨_ | _ | number, inRange⟩ := id <;> exact fun impossible => by cases impossible

theorem couple_stocked :
    couple.grammar.Stocked fun id => id.number < 2 := by
  intro id small
  rw [Grammar.follow_of_not_forward (couple_notForward id)]
  obtain ⟨_ | _ | number, inRange⟩ := id
  · refine ⟨_, .sequence 2, fun _ => ⟨.ofNat 1, "any"⟩, rfl, trivial, ⟨rfl, rfl, rfl⟩, ?_⟩
    simp [Index.ofNat, capacity]
  · exact ⟨_, .any, (Fin.elim0 ·), rfl, trivial, ⟨rfl, rfl, rfl⟩,
      fun child isChild => (List.not_mem_nil isChild).elim⟩
  · simp only at small
    omega

/-- Two characters in a row are matched together, each of them where it is. -/
theorem couple_is_adjacent :
    (∃ history machine id frame span value,
      couple.Visits ⟨Empty.elim, fun _ _ => ()⟩ ⟨0, by decide⟩ 0 () history machine () ∧
      machine.frame? id = some frame ∧ frame.result = some (.success span value) ∧
      span.stop = 2 ∧
      Tiles (fun part place => machine.Answers (couple.grammar.spot part place))
        frame.spot.position [⟨1, by decide⟩, ⟨1, by decide⟩] span.stop) ∧
    ∃ outcome : Job.Outcome Empty,
      ((Engine.new 0 .text .standard : Engine Empty Empty).execute (fun _ => .any)
        ⟨Empty.elim, fun _ _ => ()⟩ 2 ⟨0, .any⟩ (.text ⟨#['a']⟩) .standard ()).1 =
          some (.ok outcome) ∧
      outcome.result.Inside 0 1 := by
  obtain ⟨_, covered, executed⟩ := @matches_are_inside_and_adjacent Empty Empty _ _
  constructor
  · have ended : (couple.runFrom ⟨Empty.elim, fun _ _ => ()⟩ ⟨0, by decide⟩ 6
        ((couple.begin ⟨0, by decide⟩ 0).get rfl).2 ()).1 =
          some (.ok (.success (.between 0 2) (.list [.char 'a', .char 'b'])), 5) := by cbv
    obtain ⟨history, machine, world, frame, visits, found, atRoot, hasResult⟩ :=
      Job.exists_visits_of_runFrom rfl (Prod.ext ended rfl)
    have isNode : couple.grammar.node? frame.spot.node = some
        ⟨"sequence", [⟨1, by decide⟩, ⟨1, by decide⟩], "any any", none,
          .sequence [⟨1, by decide⟩, ⟨1, by decide⟩]⟩ := by
      rw [atRoot]
      rfl
    obtain ⟨_, _, each⟩ := covered couple _
      (fun id => ⟨0, id, .here (couple_notForward id)⟩) couple_stocked Unit _ _ 0
      _ _ _ machine (show 0 < 2 by decide) (Nat.zero_le _) visits _ frame found
    refine ⟨history, machine, _, frame, _, _, visits, found, hasResult, rfl, ?_⟩
    exact (each _ hasResult).2 _ _ rfl _ (.sequence 2) (fun _ => ⟨⟨1, by decide⟩, "any"⟩) isNode
      ⟨rfl, rfl, rfl⟩ trivial
  · have finishes : ((Engine.new 0 .text .standard : Engine Empty Empty).execute (fun _ => .any)
        ⟨Empty.elim, fun _ _ => ()⟩ 2 ⟨0, .any⟩ (.text ⟨#['a']⟩) .standard ()).1.any
          Except.isOk = true := by decide +kernel
    obtain ⟨result, isResult, isOk⟩ := (Option.any_eq_true _ _).mp finishes
    cases result with
    | error error => cases isOk
    | ok outcome =>
        refine ⟨outcome, isResult, executed _ _ _ _ _ _ _ _ _ _ (.empty 0 .text) ?_
          (Nat.zero_le _) isResult⟩
        exact ⟨fun _ => False, fun _ impossible => impossible.elim,
          @Reference.MadeOf.node _ _ _ _ _ .any _ (fun _ => trivial) trivial
            fun index => index.elim0⟩

end Packrat
