import Packrat.Proofs.Engine
import Packrat.Proofs.Grammar.Plain
import Packrat.Proofs.Scheduler.Stretch

/-!
# Runs end

Every run among the library's own nodes ends, since it opens only so many frames and takes
only so many turns for each.  With the results kept there is one frame for each spot, so
the run ends with the root's match unless there are more spots than indices.
-/

namespace Packrat

variable {ω ρ τ : Type}

namespace Job

variable {job : Job ω ρ} {host : Host ω ρ τ} {allowed : NodeId → Prop} {most : Nat}

/-- A run ends: with the match of the root, or because all indices are used up.  It needs
no limit for that, and it is never stuck with frames that wait for nothing. -/
def Ends (job : Job ω ρ) (host : Host ω ρ τ) (root : NodeId) (position : Nat) (start : τ) : Prop :=
  ∃ fuel outcome finish, job.run host fuel root position start = (some outcome, finish) ∧
    ((∃ history, job.Finds host root position start history outcome.result finish) ∨
      outcome.result = .failure Halt.overflow.message (.point position) ∧
        ∃ history machine world, job.Visits host root position start history machine world ∧
          machine.frames.size = capacity)

/-- Every run among stocked nodes ends, as there are only so many indices. -/
theorem Tame.ends {root : NodeId} {position : Nat} {start : τ} (tame : job.Tame allowed most)
    (unlimited : job.limit = none) (isAllowed : allowed root)
    (inside : position ≤ job.input.length) : job.Ends host root position start := by
  have short : ∀ history machine world,
      job.Visits host root position start history machine world →
      history.length ≤ (most + 2) * capacity := by
    intro history machine world visits
    exact (visits.length_le tame.bounded isAllowed inside).trans
      (Nat.mul_le_mul_left _ visits.size_le_capacity)
  obtain ⟨outcome, finish, ran⟩ := exists_run short
  exact ⟨_, outcome, finish, ran, finds_or_overflows unlimited ran⟩

end Job

open Grammar in
/-- Where nothing but parsers of the library's kinds is resolved, a run with the results
kept ends, with one frame for each node and position at most. -/
theorem Grammar.Grown.memoized_ends [BEq ω] [Printable ω] {g : Grammar ω ρ}
    (grown : Grown StockOnly g) {root : NodeId} (small : root.number < g.size)
    (input : Input ω) (host : Host ω ρ τ) {position : Nat} (start : τ)
    (inside : position ≤ input.length) :
    (∀ history machine world,
      Job.Visits ⟨g, input, true, none⟩ host root position start history machine world →
      machine.frames.size ≤ g.nodeCount * (input.length + 1)) ∧
    Job.Ends ⟨g, input, true, none⟩ host root position start := by
  obtain ⟨most, tame⟩ := grown.stocked.exists_tame grown.tidy.1.acyclic input true none
  constructor
  · intro history machine world visits
    exact visits.size_le_spotCount rfl tame small inside
  · exact tame.ends rfl small inside

open Grammar in
/-- A parser of the library's own is matched to an end with the results kept, whatever
rules it has: no more frames are opened than there are nodes and positions for, and unless
the indices do not suffice for that, the end is the match of the root. -/
theorem memoized_matching_ends [BEq ω] [Printable ω] :
    (∀ g : Grammar ω ρ, Grown StockOnly g → ∀ root : NodeId, root.number < g.size →
      ∀ (input : Input ω) (τ : Type) (host : Host ω ρ τ) (position : Nat) (start : τ),
      position ≤ input.length →
        (∀ history machine world,
          Job.Visits ⟨g, input, true, none⟩ host root position start history machine world →
          machine.frames.size ≤ g.nodeCount * (input.length + 1)) ∧
        Job.Ends ⟨g, input, true, none⟩ host root position start) ∧
    ∀ (τ : Type) (rules : Rules ω ρ) (host : Host ω ρ τ) (engine : Engine ω ρ)
      (parser : Parser ω ρ) (input : Input ω) (options : Options) (world : τ),
      Grown StockOnly engine.grammar → StockOnly rules parser.body → options.memoize = true →
      options.stepLimit = none → options.start ≤ input.length →
      ∃ fuel result,
        (engine.execute rules host fuel parser input options world).1 = some result := by
  refine ⟨fun g grown root small input τ host position start inside =>
    grown.memoized_ends small input host start inside, ?_⟩
  intro τ rules host engine parser input options world grown stockOnly keeps unlimited inside
  cases resolved : engine.resolve rules parser with
  | mk found resolvedEngine =>
      cases found with
      | error error => exact ⟨0, .error error, by rw [Engine.execute, resolved]⟩
      | ok root =>
          obtain ⟨grownThen, small⟩ := Engine.grown_of_resolve grown stockOnly resolved
          obtain ⟨_, fuel, outcome, finish, ran, _⟩ :=
            grownThen.memoized_ends small input host world inside
          refine ⟨fuel, .ok outcome, ?_⟩
          rw [Engine.execute_of_resolve resolved inside, keeps, unlimited, ran]
          rfl

/-- A rule that starts with itself. -/
def leftward : Rules Empty Empty := fun _ => .choice [.rule "again", .text "\n"]

theorem leftward_plain (name : String) : (leftward name).Plain Kind.Stock fun _ => True := by
  refine .choice trivial fun alternative member => ?_
  rcases List.mem_pair.mp member with rfl | rfl
  · exact .rule trivial
  · exact .literal fun _ => trivial

theorem leftward_stockOnly : Grammar.StockOnly leftward (.rule "again") :=
  ⟨fun _ => True, fun name _ => (leftward_plain name).made _, .rule trivial⟩

/-- What a rule that starts with itself is resolved to: the rule's slot, which stands for
the alternatives, and the node for any item. -/
theorem leftward_resolves :
    ((Grammar.empty 0 .text).resolve leftward ⟨.parser 0, []⟩ (.rule "again")).1.toOption =
        some ⟨1, by decide⟩ ∧
    ((Grammar.empty 0 .text).resolve leftward ⟨.parser 0, []⟩ (.rule "again")).2.size = 3 ∧
    ((Grammar.empty 0 .text).resolve leftward ⟨.parser 0, []⟩ (.rule "again")).2.nodeCount = 2 := by
  decide +kernel

/-- A rule that starts with itself is matched to an end, with four frames at most where
there is one character. -/
theorem leftward_matching_ends :
    (∀ history machine world,
      Job.Visits ⟨((Grammar.empty 0 .text).resolve leftward ⟨.parser 0, []⟩ (.rule "again")).2,
        .text ⟨#['a']⟩, true, none⟩ ⟨Empty.elim, fun _ _ => ()⟩ ⟨1, by decide⟩ 0 () history machine
        world → machine.frames.size ≤ 4) ∧
    Job.Ends ⟨((Grammar.empty 0 .text).resolve leftward ⟨.parser 0, []⟩ (.rule "again")).2,
      .text ⟨#['a']⟩, true, none⟩ ⟨Empty.elim, fun _ _ => ()⟩ ⟨1, by decide⟩ 0 () ∧
    ∃ fuel result, ((Engine.new 0 .text .standard).execute leftward
      ⟨Empty.elim, fun _ _ => ()⟩ fuel ⟨0, .rule "again"⟩ (.text ⟨#['a']⟩) .standard ()).1 =
        some result := by
  obtain ⟨matching, executing⟩ := @memoized_matching_ends Empty Empty _ _
  obtain ⟨_, size, nodes⟩ := leftward_resolves
  obtain ⟨few, ends⟩ := matching _ (.resolve ⟨.parser 0, []⟩ leftward_stockOnly (.empty 0 .text))
    ⟨1, by decide⟩ (by rw [size]; decide) (.text ⟨#['a']⟩) Unit ⟨Empty.elim, fun _ _ => ()⟩ 0 ()
    (Nat.zero_le _)
  rw [nodes] at few
  exact ⟨few, ends, executing Unit leftward _ (Engine.new 0 .text .standard) ⟨0, .rule "again"⟩ _
    .standard () (.empty 0 .text) leftward_stockOnly rfl rfl (Nat.zero_le _)⟩

open Grammar in
/-- Whether results are kept or not, a parser of the library's own is matched to an end,
which is the match of the root unless all indices are used up.  Between two broken circles
no more frames are opened than the grammar and the input have room for, so only a run that
breaks circle after circle can go on without bound. -/
theorem matching_ends_within_indices [BEq ω] [Printable ω] (g : Grammar ω ρ)
    (grown : Grown StockOnly g) (input : Input ω) :
    ∃ most, ∀ (memoize : Bool) (root : NodeId), root.number < g.size →
      ∀ (τ : Type) (host : Host ω ρ τ) (position : Nat) (start : τ), position ≤ input.length →
        (∀ history machine world,
          Job.Visits ⟨g, input, memoize, none⟩ host root position start history machine world →
          machine.frames.size ≤ (most + 2) ^
            ((g.nodeCount * (input.length + 1) + 1) * ((failedIn history).length + 1))) ∧
        Job.Ends ⟨g, input, memoize, none⟩ host root position start := by
  obtain ⟨most, bounded⟩ := grown.stocked.exists_runs grown.tidy.1.acyclic input
  refine ⟨most, fun memoize root small τ host position start inside => ?_⟩
  have tame : Job.Tame ⟨g, input, memoize, none⟩ (fun id => id.number < g.size) most :=
    ⟨fun id known => grown.tidy.2.ready grown.tidy.1 known, bounded⟩
  exact ⟨fun _ _ _ visits => visits.size_le_pow tame small inside, tame.ends rfl small inside⟩

/-- A rule that starts with itself is matched to an end without the results, too. -/
theorem leftward_matching_ends_within_indices :
    Job.Ends ⟨((Grammar.empty 0 .text).resolve leftward ⟨.parser 0, []⟩ (.rule "again")).2,
      .text ⟨#['a']⟩, false, none⟩ ⟨Empty.elim, fun _ _ => ()⟩ ⟨1, by decide⟩ 0 () := by
  obtain ⟨most, matching⟩ := matching_ends_within_indices _
    (.resolve ⟨.parser 0, []⟩ leftward_stockOnly (.empty 0 .text)) (.text ⟨#['a']⟩)
  exact (matching false ⟨1, by decide⟩ (by rw [leftward_resolves.2.1]; decide) Unit
    ⟨Empty.elim, fun _ _ => ()⟩ 0 () (Nat.zero_le _)).2

end Packrat
