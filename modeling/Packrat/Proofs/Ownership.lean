import Packrat.Proofs.Grammar.Numbering
import Packrat.Proofs.Grammar.Quiet
import Packrat.Proofs.Scheduler.Hosting
import Packrat.Proofs.WholeInput

/-!
# Engines with one owner

An engine that was only ever used to resolve and to run one parser runs it as a new engine
does: the parser is resolved once for all, and when it cannot be, every attempt fails in the
same way.  The number of the engine's grammar does not matter either.
-/

namespace Packrat

variable {ω ρ : Type}

/-! ## What one parser makes of an engine -/

namespace Engine

/-- The second engine is as the first, but for the serial numbers of unfoldings. -/
structure Echoes (delay : Nat) (engine other : Engine ω ρ) : Prop where
  grammar : Grammar.Echoes 0 delay engine.grammar other.grammar
  consuming : ∀ root, other.consuming.find? root = engine.consuming.find? root

theorem Echoes.refl (engine : Engine ω ρ) : Echoes 0 engine engine :=
  ⟨.refl _, fun _ => rfl⟩

theorem Echoes.trans {delay more : Nat} {engine middle other : Engine ω ρ}
    (first : Echoes delay engine middle) (second : Echoes more middle other) :
    Echoes (delay + more) engine other :=
  ⟨first.grammar.trans second.grammar,
    fun root => (second.consuming root).trans (first.consuming root)⟩

namespace Echoes

variable {delay : Nat} {engine other : Engine ω ρ} (echoes : Echoes delay engine other)
  (steady : engine.Steady) (steadyOther : other.Steady) (rules : Rules ω ρ)

include echoes steady steadyOther

theorem resolveAt {place : Place} (outside : place.postpone 0 delay = place)
    (reference : Reference ω ρ) :
    (engine.resolveAt rules place reference).1 = (other.resolveAt rules place reference).1 ∧
      Echoes delay (engine.resolveAt rules place reference).2
        (other.resolveAt rules place reference).2 := by
  obtain ⟨same, echoesThen⟩ :=
    echoes.grammar.resolve steady.tidy steadyOther.tidy rules place reference
  rw [outside] at same echoesThen
  exact ⟨same, echoesThen, echoes.consuming⟩

theorem resolve (parser : Parser ω ρ) :
    (engine.resolve rules parser).1 = (other.resolve rules parser).1 ∧
      Echoes delay (engine.resolve rules parser).2 (other.resolve rules parser).2 :=
  echoes.resolveAt steady steadyOther rules rfl parser.body

theorem wholeInput (root : NodeId) :
    (engine.wholeInput rules root).1 = (other.wholeInput rules root).1 ∧
      Echoes delay (engine.wholeInput rules root).2 (other.wholeInput rules root).2 := by
  have handle : other.grammar.handle root = engine.grammar.handle root := by
    rw [Grammar.handle, Grammar.handle, echoes.grammar.number, echoes.grammar.follow]
  obtain ⟨same, echoesThen⟩ := echoes.resolveAt steady steadyOther rules
    (rfl : (⟨.consumer root, []⟩ : Place).postpone 0 delay = _)
    (.consume (engine.grammar.handle root))
  unfold Engine.wholeInput
  rw [echoes.consuming, handle]
  cases engine.consuming.find? root with
  | some node => exact ⟨rfl, echoes⟩
  | none =>
      revert same echoesThen
      cases engine.resolveAt rules ⟨.consumer root, []⟩
          (.consume (engine.grammar.handle root)) with
      | mk result middle =>
          cases other.resolveAt rules ⟨.consumer root, []⟩
              (.consume (engine.grammar.handle root)) with
          | mk otherResult later =>
              rintro rfl echoesThen
              cases result with
              | error error => exact ⟨rfl, echoesThen⟩
              | ok node =>
                  refine ⟨rfl, echoesThen.grammar, fun another => ?_⟩
                  simp only [Table.find?_insert, echoesThen.consuming]

theorem resolveWhole (parser : Parser ω ρ) :
    (engine.resolveWhole rules parser).1 = (other.resolveWhole rules parser).1 ∧
      Echoes delay (engine.resolveWhole rules parser).2
        (other.resolveWhole rules parser).2 := by
  obtain ⟨same, echoesThen⟩ := echoes.resolve steady steadyOther rules parser
  have steadyThen := (steady.resolveAt rules ⟨.parser parser.identity, []⟩ parser.body).2
  have steadyLast := (steadyOther.resolveAt rules ⟨.parser parser.identity, []⟩ parser.body).2
  change (engine.resolve rules parser).2.Steady at steadyThen
  change (other.resolve rules parser).2.Steady at steadyLast
  unfold Engine.resolveWhole
  revert same echoesThen steadyThen steadyLast
  cases engine.resolve rules parser with
  | mk result middle =>
      cases other.resolve rules parser with
      | mk otherResult later =>
          rintro rfl echoesThen steadyThen steadyLast
          cases result with
          | error error => exact ⟨rfl, echoesThen⟩
          | ok root => exact echoesThen.wholeInput steadyThen steadyLast rules root

end Echoes

/-- The engines that come of a new one when it resolves and runs one parser, over and
over. -/
inductive Owned (rules : Rules ω ρ) (kind : InputKind) (parser : Parser ω ρ) (number : Nat) :
    Engine ω ρ → Prop
  | fresh : Owned rules kind parser number (.new number kind .standard)
  | resolve {engine : Engine ω ρ} : Owned rules kind parser number engine →
      Owned rules kind parser number (engine.resolve rules parser).2
  | resolveWhole {engine : Engine ω ρ} : Owned rules kind parser number engine →
      Owned rules kind parser number (engine.resolveWhole rules parser).2

/-- Of these, the ones that there are as long as all goes well. -/
inductive Stage (rules : Rules ω ρ) (kind : InputKind) (parser : Parser ω ρ) (number : Nat) :
    Engine ω ρ → Prop
  | fresh : Stage rules kind parser number (.new number kind .standard)
  | resolved {root : NodeId} :
      ((new number kind .standard : Engine ω ρ).resolve rules parser).1 = .ok root →
      Stage rules kind parser number ((new number kind .standard).resolve rules parser).2
  | whole {node : NodeId} :
      ((new number kind .standard : Engine ω ρ).resolveWhole rules parser).1 = .ok node →
      Stage rules kind parser number ((new number kind .standard).resolveWhole rules parser).2

section

variable {rules : Rules ω ρ} {kind : InputKind} {parser : Parser ω ρ} {number : Nat}
  {engine : Engine ω ρ}

theorem Owned.steady (owned : Owned rules kind parser number engine) : engine.Steady := by
  induction owned with
  | fresh => exact steady_new number kind .standard
  | resolve _ induction => exact (induction.resolveAt rules _ _).2
  | resolveWhole _ induction => exact (induction.resolveWhole rules parser).2

theorem Owned.number_eq (owned : Owned rules kind parser number engine) :
    engine.grammar.number = number := by
  induction owned with
  | fresh => rfl
  | resolve owned induction =>
      exact (owned.steady.resolveAt rules _ _).1.grammar.number.trans induction
  | resolveWhole owned induction =>
      exact (owned.steady.resolveWhole rules parser).1.grammar.number.trans induction

theorem wholeInput_options (rules : Rules ω ρ) (engine : Engine ω ρ) (root : NodeId) :
    (engine.wholeInput rules root).2.options = engine.options := by
  unfold Engine.wholeInput
  split
  next => rfl
  next =>
    have same : (engine.resolveAt rules ⟨.consumer root, []⟩
        (.consume (engine.grammar.handle root))).2.options = engine.options := rfl
    revert same
    cases engine.resolveAt rules ⟨.consumer root, []⟩ (.consume (engine.grammar.handle root)) with
    | mk result later => cases result <;> exact id

theorem Owned.options (owned : Owned rules kind parser number engine) :
    engine.options = .standard := by
  induction owned with
  | fresh => rfl
  | resolve _ induction => exact induction
  | @resolveWhole engine _ induction =>
      unfold Engine.resolveWhole
      have same : (engine.resolve rules parser).2.options = engine.options := rfl
      revert same
      cases engine.resolve rules parser with
      | mk result later =>
          intro same
          cases result with
          | error error => exact same.trans induction
          | ok root => exact (wholeInput_options rules later root).trans (same.trans induction)

theorem Stage.owned (stage : Stage rules kind parser number engine) :
    Owned rules kind parser number engine := by
  cases stage with
  | fresh => exact .fresh
  | resolved => exact .resolve .fresh
  | whole => exact .resolveWhole .fresh

theorem resolve_of_knows {root : NodeId}
    (knows : engine.grammar.Knows parser.body ⟨.parser parser.identity, []⟩ root)
    (rules : Rules ω ρ) : engine.resolve rules parser = (.ok root, engine) :=
  resolveAt_of_knows knows rules

theorem resolveWhole_engine_of_error {error : ResolveError}
    (fails : (engine.resolve rules parser).1 = .error error) :
    (engine.resolveWhole rules parser).2 = (engine.resolve rules parser).2 := by
  unfold Engine.resolveWhole
  revert fails
  cases engine.resolve rules parser with
  | mk result later =>
      cases result with
      | error another => exact fun _ => rfl
      | ok root => nofun

theorem knows_of_resolve {root : NodeId}
    (found : ((new number kind .standard : Engine ω ρ).resolve rules parser).1 = .ok root) :
    ((new number kind .standard : Engine ω ρ).resolve rules parser).2.grammar.Knows parser.body
      ⟨.parser parser.identity, []⟩ root :=
  (steady_new number kind .standard : (new number kind .standard : Engine ω ρ).Steady).tidy
    |>.knows_of_resolve found

theorem remembers_of_resolveWhole {node : NodeId}
    (found : ((new number kind .standard : Engine ω ρ).resolveWhole rules parser).1 = .ok node) :
    ((new number kind .standard : Engine ω ρ).resolveWhole rules parser).2.Remembers parser
      node :=
  (steady_new number kind .standard).remembers_of_resolveWhole found

/-- Until something goes wrong, the whole-input form is the same at all stages. -/
theorem Stage.resolveWhole_eq (stage : Stage rules kind parser number engine) :
    engine.resolveWhole rules parser = (new number kind .standard).resolveWhole rules parser := by
  cases stage with
  | fresh => rfl
  | @resolved root found =>
      have again := resolve_of_knows (knows_of_resolve found) rules
      rw [resolveWhole_of_ok found, resolveWhole_of_ok (congrArg Prod.fst again), again]
  | whole found =>
      rw [(remembers_of_resolveWhole found).resolveWhole rules]
      exact Prod.ext found.symm rfl

/-- A parser that cannot be resolved leaves a new engine as it was. -/
theorem echoes_of_resolve_error {error : ResolveError}
    (fails : ((new number kind .standard : Engine ω ρ).resolve rules parser).1 = .error error) :
    ∃ delay, Echoes delay (new number kind .standard)
      ((new number kind .standard : Engine ω ρ).resolve rules parser).2 := by
  obtain ⟨delay, echoes⟩ := Grammar.echoes_of_empty fails
  exact ⟨delay, echoes, fun _ => rfl⟩

theorem Steady.echoes_of_wholeInput_error (steady : engine.Steady) {root : NodeId}
    {error : ResolveError} (fails : (engine.wholeInput rules root).1 = .error error) :
    Echoes 0 engine (engine.wholeInput rules root).2 := by
  unfold Engine.wholeInput at fails ⊢
  cases consumed : engine.consuming.find? root with
  | some node =>
      rw [consumed] at fails
      cases fails
  | none =>
      simp only [consumed] at fails ⊢
      have undone : ∀ another, (engine.resolveAt rules ⟨.consumer root, []⟩
          (.consume (engine.grammar.handle root))).1 = .error another →
          Echoes 0 engine (engine.resolveAt rules ⟨.consumer root, []⟩
            (.consume (engine.grammar.handle root))).2 := fun another isError =>
        ⟨steady.tidy.echoes_of_consume isError, fun _ => rfl⟩
      revert fails undone
      cases engine.resolveAt rules ⟨.consumer root, []⟩
          (.consume (engine.grammar.handle root)) with
      | mk result later =>
          intro fails undone
          cases result with
          | ok node => cases fails
          | error another => exact undone another rfl

theorem Stage.resolve (stage : Stage rules kind parser number engine) :
    ∃ delay later, Stage rules kind parser number later ∧
      Echoes delay later (engine.resolve rules parser).2 := by
  cases stage with
  | fresh =>
      cases found : ((new number kind .standard : Engine ω ρ).resolve rules parser).1 with
      | ok root => exact ⟨0, _, .resolved found, .refl _⟩
      | error error =>
          obtain ⟨delay, echoes⟩ := echoes_of_resolve_error found
          exact ⟨delay, _, .fresh, echoes⟩
  | resolved found =>
      refine ⟨0, _, .resolved found, ?_⟩
      rw [resolve_of_knows (knows_of_resolve found) rules]
      exact .refl _
  | whole found =>
      obtain ⟨root, knows, _⟩ := remembers_of_resolveWhole found
      refine ⟨0, _, .whole found, ?_⟩
      rw [resolve_of_knows knows rules]
      exact .refl _

theorem Stage.resolveWhole (stage : Stage rules kind parser number engine) :
    ∃ delay later, Stage rules kind parser number later ∧
      Echoes delay later (engine.resolveWhole rules parser).2 := by
  rw [stage.resolveWhole_eq]
  cases whole : ((new number kind .standard : Engine ω ρ).resolveWhole rules parser).1 with
  | ok node => exact ⟨0, _, .whole whole, .refl _⟩
  | error error =>
      cases found : ((new number kind .standard : Engine ω ρ).resolve rules parser).1 with
      | ok root =>
          refine ⟨0, _, .resolved found, ?_⟩
          rw [resolveWhole_of_ok found] at whole ⊢
          exact (Stage.resolved found).owned.steady.echoes_of_wholeInput_error whole
      | error another =>
          obtain ⟨delay, echoes⟩ := echoes_of_resolve_error found
          refine ⟨delay, _, .fresh, ?_⟩
          rw [resolveWhole_engine_of_error found]
          exact echoes

theorem Owned.echoes (owned : Owned rules kind parser number engine) :
    ∃ delay stage, Stage rules kind parser number stage ∧ Echoes delay stage engine := by
  induction owned with
  | fresh => exact ⟨0, _, .fresh, .refl _⟩
  | resolve owned induction =>
      obtain ⟨delay, stage, isStage, echoes⟩ := induction
      obtain ⟨more, later, isLater, echoesThen⟩ := isStage.resolve
      exact ⟨more + delay, later, isLater, echoesThen.trans
        (echoes.resolve isStage.owned.steady owned.steady rules parser).2⟩
  | resolveWhole owned induction =>
      obtain ⟨delay, stage, isStage, echoes⟩ := induction
      obtain ⟨more, later, isLater, echoesThen⟩ := isStage.resolveWhole
      exact ⟨more + delay, later, isLater, echoesThen.trans
        (echoes.resolveWhole isStage.owned.steady owned.steady rules parser).2⟩

/-- The owner's whole-input form is the same at all times. -/
theorem Owned.resolveWhole_eq (owned : Owned rules kind parser number engine) :
    (engine.resolveWhole rules parser).1 =
        ((new number kind .standard).resolveWhole rules parser).1 ∧
      (engine.resolveWhole rules parser).2.grammar.slots =
        ((new number kind .standard).resolveWhole rules parser).2.grammar.slots := by
  obtain ⟨delay, stage, isStage, echoes⟩ := owned.echoes
  obtain ⟨same, echoesThen⟩ :=
    echoes.resolveWhole isStage.owned.steady owned.steady rules parser
  rw [isStage.resolveWhole_eq] at same echoesThen
  exact ⟨same.symm, echoesThen.grammar.slots⟩

end

/-! ## Handles -/

/-- The handle of a parser stands for the parser, in the engine that gave it out and as long
as that is used. -/
theorem Calls.resolve_handle [Printable ω] {engine later : Engine ω ρ}
    (calls : Calls engine later) (steady : engine.Steady) {parser : Parser ω ρ} {root : NodeId}
    (knows : engine.grammar.Knows parser.body ⟨.parser parser.identity, []⟩ root)
    (rules : Rules ω ρ) (identity : Nat) :
    later.resolve rules ⟨identity, engine.grammar.handle root⟩ = later.resolve rules parser := by
  obtain ⟨more, steadyThen⟩ := calls.extends steady
  have here := more.knows steady steadyThen knows
  have there := more.knows steady steadyThen
    (knows.handle steady.tidy ⟨.parser identity, []⟩)
  exact (resolveAt_of_knows there rules).trans (resolveAt_of_knows here rules).symm

/-- Another engine knows nothing of it. -/
theorem resolve_foreign {engine : Engine ω ρ} {number : Nat}
    (foreign : number ≠ engine.grammar.number) (rules : Rules ω ρ) (identity : Nat)
    (id : NodeId) :
    (engine.resolve rules ⟨identity, .handle number id⟩).1 = .error (.foreignNode id) := by
  unfold Engine.resolve resolveAt Grammar.resolve
  rw [Grammar.resolveAt, Grammar.run_resolveHandle, if_pos foreign]

theorem run_congr [Printable ω] {τ : Type} {engine : Engine ω ρ} {rules : Rules ω ρ}
    {parser other : Parser ω ρ}
    (same : engine.resolve rules other = engine.resolve rules parser) (host : Host ω ρ τ)
    (fuel : Nat) (input : Input ω) (options : Options) (world : τ) :
    engine.run rules host fuel other input options world =
      engine.run rules host fuel parser input options world := by
  unfold Engine.run Engine.resolveWhole
  rw [same]

/-! ## Numbers of engines -/

/-- The engine with another number. -/
def renumber (rename : Nat → Nat) (engine : Engine ω ρ) : Engine ω ρ :=
  { engine with grammar := engine.grammar.renumber rename }

section

variable {rename : Nat → Nat} (injective : Function.Injective rename) (rules : Rules ω ρ)

include injective

theorem resolveAt_renumber (engine : Engine ω ρ) (place : Place) (reference : Reference ω ρ) :
    (engine.renumber rename).resolveAt (fun name => (rules name).renumber rename) place
        (reference.renumber rename) =
      ((engine.resolveAt rules place reference).1,
        (engine.resolveAt rules place reference).2.renumber rename) := by
  unfold resolveAt
  have renumbered := Grammar.resolve_renumber injective rules engine.grammar place reference
  rw [show (engine.renumber rename).grammar = engine.grammar.renumber rename from rfl, renumbered]
  rfl

theorem wholeInput_renumber (engine : Engine ω ρ) (root : NodeId) :
    (engine.renumber rename).wholeInput (fun name => (rules name).renumber rename) root =
      ((engine.wholeInput rules root).1, (engine.wholeInput rules root).2.renumber rename) := by
  have consuming : (engine.renumber rename).consuming = engine.consuming := rfl
  have renumbered := resolveAt_renumber injective rules engine ⟨.consumer root, []⟩
    (.consume (engine.grammar.handle root))
  have handle : ((engine.renumber rename).grammar.handle root).consume =
      ((engine.grammar.handle root).consume).renumber rename := by
    have follow : (engine.renumber rename).grammar.follow root = engine.grammar.follow root :=
      Grammar.follow_renumber engine.grammar root
    refine congrArg (Reference.node _) (funext fun index => ?_)
    match index with
    | 0 => exact congrArg (Reference.handle (rename engine.grammar.number)) follow
    | 1 => exact congrArg (Reference.node _) (funext fun index => index.elim0)
  unfold Engine.wholeInput
  rw [consuming, handle, renumbered]
  cases engine.consuming.find? root with
  | some node => rfl
  | none =>
      cases engine.resolveAt rules ⟨.consumer root, []⟩
          (.consume (engine.grammar.handle root)) with
      | mk result later => cases result <;> rfl

theorem resolveWhole_renumber (engine : Engine ω ρ) (parser : Parser ω ρ) :
    (engine.renumber rename).resolveWhole (fun name => (rules name).renumber rename)
        ⟨parser.identity, parser.body.renumber rename⟩ =
      ((engine.resolveWhole rules parser).1,
        (engine.resolveWhole rules parser).2.renumber rename) := by
  unfold Engine.resolveWhole Engine.resolve
  rw [resolveAt_renumber injective rules engine]
  cases engine.resolveAt rules ⟨.parser parser.identity, []⟩ parser.body with
  | mk result later =>
      cases result with
      | error error => rfl
      | ok root => exact wholeInput_renumber injective rules later root

end

/-- The rules and the parser hold no handles of a grammar of this number. -/
def Unmentioned (rules : Rules ω ρ) (parser : Parser ω ρ) (number : Nat) : Prop :=
  (∀ name, (rules name).Avoids number) ∧ parser.body.Avoids number

/-- The owner of an engine is resolved as it is in any new engine, unless it holds handles
of one of the two. -/
theorem Owned.resolveWhole_eq_new {rules : Rules ω ρ} {kind : InputKind} {parser : Parser ω ρ}
    {number other : Nat} {engine : Engine ω ρ} (owned : Owned rules kind parser number engine)
    (unmentioned : Unmentioned rules parser number)
    (unmentionedOther : Unmentioned rules parser other) :
    (engine.resolveWhole rules parser).1 =
        ((new other kind .standard).resolveWhole rules parser).1 ∧
      (engine.resolveWhole rules parser).2.grammar.slots =
        ((new other kind .standard).resolveWhole rules parser).2.grammar.slots := by
  obtain ⟨same, slots⟩ := owned.resolveWhole_eq
  have sameRules : (fun name => (rules name).renumber (Equiv.swap number other)) = rules :=
    funext fun name => (unmentioned.1 name).renumber (unmentionedOther.1 name)
  have sameBody : parser.body.renumber (Equiv.swap number other) = parser.body :=
    unmentioned.2.renumber unmentionedOther.2
  have swapped : (new number kind .standard : Engine ω ρ).renumber (Equiv.swap number other) =
      new other kind .standard := by
    show Engine.mk (.mk (Equiv.swap number other number) _ _ _ _ _ _ _ _) _ _ = _
    rw [Equiv.swap_apply_left]
    rfl
  have renumbered := resolveWhole_renumber (Equiv.swap number other).injective rules
    (new number kind .standard) parser
  rw [swapped, sameRules, sameBody] at renumbered
  rw [renumbered]
  exact ⟨same, slots⟩

/-! ## Runs of the owner -/

section

variable {τ σ : Type} {rules : Rules ω ρ} {kind : InputKind} {parser : Parser ω ρ}
  {number other : Nat} {engine later : Engine ω ρ} {host : Host ω ρ τ} {guest : Host ω ρ σ}
  {lost : τ → Prop} {related : τ → σ → Prop}

theorem matchNode_follows (slots : later.grammar.slots = engine.grammar.slots)
    (follows : host.Follows guest lost related) {fuel more : Nat} (enough : fuel ≤ more)
    (input : Input ω) (options : Options) (root : NodeId) {world : τ} {there : σ}
    (isRelated : related world there) {outcome : Job.Outcome ω}
    (ends : (engine.matchNode host fuel input options root world).1 = some outcome) :
    SameUnless lost related (engine.matchNode host fuel input options root world)
      (later.matchNode guest more input options root there) := by
  unfold matchNode at ends ⊢
  split
  next => exact .inr ⟨rfl, isRelated⟩
  next inside =>
    rw [if_neg inside] at ends
    have alike : Job.Alike ⟨engine.grammar, input, options.memoize, options.stepLimit⟩
        ⟨later.grammar, input, options.memoize, options.stepLimit⟩ := ⟨slots, rfl, rfl, rfl⟩
    exact alike.run follows root options.start enough isRelated ends

variable [Printable ω]

theorem run_eq_of_ok {root : NodeId} (found : (engine.resolveWhole rules parser).1 = .ok root)
    (fuel : Nat) (input : Input ω) (options : Options) (world : τ) :
    engine.run rules host fuel parser input options world =
      (((engine.resolveWhole rules parser).2.matchNode host fuel input options root world).1.map
          fun outcome => verdict input outcome.result,
        (engine.resolveWhole rules parser).2,
        ((engine.resolveWhole rules parser).2.matchNode host fuel input options root world).2) := by
  unfold Engine.run
  revert found
  cases engine.resolveWhole rules parser with
  | mk result later => rintro rfl; rfl

theorem run_world_of_error {error : ResolveError}
    (fails : (engine.resolveWhole rules parser).1 = .error error) (fuel : Nat) (input : Input ω)
    (options : Options) (world : τ) :
    (engine.run rules host fuel parser input options world).2.2 = world := by
  unfold Engine.run
  revert fails
  cases engine.resolveWhole rules parser with
  | mk result later => rintro rfl; rfl

/-- What the owner of an engine comes to in a new engine for one host, it comes to for
another host that gives the same answers. -/
theorem Owned.run (owned : Owned rules kind parser number engine)
    (unmentioned : Unmentioned rules parser number)
    (unmentionedOther : Unmentioned rules parser other)
    (follows : host.Follows guest lost related) {fuel more : Nat} (enough : fuel ≤ more)
    (input : Input ω) {world : τ} {there : σ} (isRelated : related world there)
    {result : Except RunError (Value ω)}
    (ends : ((new other kind .standard).run rules host fuel parser input .standard world).1 =
      some result) :
    lost ((new other kind .standard).run rules host fuel parser input .standard world).2.2 ∨
      (engine.run rules guest more parser input engine.options there).1 = some result ∧
      related ((new other kind .standard).run rules host fuel parser input .standard world).2.2
        (engine.run rules guest more parser input engine.options there).2.2 := by
  obtain ⟨same, slots⟩ := owned.resolveWhole_eq_new unmentioned unmentionedOther
  rw [owned.options]
  cases found : ((new other kind .standard : Engine ω ρ).resolveWhole rules parser).1 with
  | error error =>
      rw [found] at same
      rw [run_of_error _ _ _ _ _ _ _ _ found] at ends
      rw [run_of_error _ _ _ _ _ _ _ _ same, run_world_of_error found, run_world_of_error same]
      exact .inr ⟨ends, isRelated⟩
  | ok root =>
      rw [found] at same
      rw [run_eq_of_ok found] at ends
      obtain ⟨outcome, ended, isResult⟩ := Option.map_eq_some_iff.mp ends
      rw [run_eq_of_ok found, run_eq_of_ok same]
      rcases matchNode_follows slots follows enough input .standard root isRelated ended with
        isLost | ⟨sameOutcome, stillRelated⟩
      · exact .inl isLost
      · refine .inr ⟨?_, stillRelated⟩
        rw [← sameOutcome]
        exact ends

end

end Engine

end Packrat
