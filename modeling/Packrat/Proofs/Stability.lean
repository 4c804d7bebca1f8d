import Packrat.Proofs.Engine
import Packrat.Proofs.Grammar.Recall
import Mathlib.Logic.Relation

/-!
# Parsers stay resolved

Calls on an engine only ever add to what it knows.  So whatever a caller was given an
identity for keeps it, and is not resolved again, whichever calls come in between and
whichever of them fail.
-/

namespace Packrat

namespace Engine

variable {ω ρ : Type}

/-- One call on an engine, with any rules and leaves. -/
inductive Call [Printable ω] : Engine ω ρ → Engine ω ρ → Prop where
  | resolve (engine : Engine ω ρ) (rules : Rules ω ρ) (place : Place)
      (reference : Reference ω ρ) : Call engine (engine.resolveAt rules place reference).2
  | execute (engine : Engine ω ρ) {τ : Type} (rules : Rules ω ρ) (host : Host ω ρ τ)
      (fuel : Nat) (parser : Parser ω ρ) (input : Input ω) (options : Options) (world : τ) :
      Call engine (engine.execute rules host fuel parser input options world).2.1
  | run (engine : Engine ω ρ) {τ : Type} (rules : Rules ω ρ) (host : Host ω ρ τ) (fuel : Nat)
      (parser : Parser ω ρ) (input : Input ω) (options : Options) (world : τ) :
      Call engine (engine.run rules host fuel parser input options world).2.1

/-- Any number of calls, one after the other. -/
abbrev Calls [Printable ω] : Engine ω ρ → Engine ω ρ → Prop := Relation.ReflTransGen Call

/-- Between two calls nothing is being resolved. -/
structure Steady (engine : Engine ω ρ) : Prop where
  tidy : engine.grammar.Tidy
  complete : engine.grammar.Complete

/-- A later engine, which has forgotten nothing. -/
structure Extends (engine later : Engine ω ρ) : Prop where
  grammar : engine.grammar.Grows later.grammar
  consuming : ∀ root node, engine.consuming.find? root = some node →
    later.consuming.find? root = some node

theorem Extends.refl (engine : Engine ω ρ) : engine.Extends engine :=
  ⟨.refl _, fun _ _ found => found⟩

theorem Extends.trans {engine middle later : Engine ω ρ} (first : engine.Extends middle)
    (second : middle.Extends later) : engine.Extends later :=
  ⟨first.grammar.trans second.grammar,
    fun root node found => second.consuming root node (first.consuming root node found)⟩

/-! ## What a call keeps -/

namespace Steady

variable {engine : Engine ω ρ} (steady : engine.Steady) (rules : Rules ω ρ)

include steady

theorem resolveAt (place : Place) (reference : Reference ω ρ) :
    engine.Extends (engine.resolveAt rules place reference).2 ∧
      (engine.resolveAt rules place reference).2.Steady := by
  obtain ⟨tidy, complete⟩ := steady.tidy.resolve steady.complete rules place reference
  exact ⟨⟨steady.tidy.grows_resolve rules place reference, fun _ _ found => found⟩,
    tidy, complete⟩

theorem wholeInput (root : NodeId) :
    engine.Extends (engine.wholeInput rules root).2 ∧
      (engine.wholeInput rules root).2.Steady := by
  unfold Engine.wholeInput
  cases consumed : engine.consuming.find? root with
  | some node => exact ⟨.refl engine, steady⟩
  | none =>
      obtain ⟨more, steadyThen⟩ :=
        steady.resolveAt rules ⟨.consumer root, []⟩ (.consume (engine.grammar.handle root))
      revert more steadyThen
      cases engine.resolveAt rules ⟨.consumer root, []⟩
          (.consume (engine.grammar.handle root)) with
      | mk result later =>
          intro more steadyThen
          cases result with
          | error error => exact ⟨more, steadyThen⟩
          | ok node =>
              refine ⟨⟨more.grammar, fun other found there => ?_⟩,
                steadyThen.tidy, steadyThen.complete⟩
              have different : other ≠ root := by
                rintro rfl
                rw [consumed] at there
                cases there
              show (later.consuming.insert root node).find? other = some found
              rw [Table.find?_insert, if_neg different]
              exact more.consuming other found there

theorem resolveWhole (parser : Parser ω ρ) :
    engine.Extends (engine.resolveWhole rules parser).2 ∧
      (engine.resolveWhole rules parser).2.Steady := by
  obtain ⟨more, steadyThen⟩ := steady.resolveAt rules ⟨.parser parser.identity, []⟩ parser.body
  change engine.Extends (engine.resolve rules parser).2 at more
  change (engine.resolve rules parser).2.Steady at steadyThen
  unfold Engine.resolveWhole
  revert more steadyThen
  cases engine.resolve rules parser with
  | mk result later =>
      intro more steadyThen
      cases result with
      | error error => exact ⟨more, steadyThen⟩
      | ok root =>
          obtain ⟨again, steadyLast⟩ := steadyThen.wholeInput rules root
          exact ⟨more.trans again, steadyLast⟩

end Steady

section

variable {τ : Type} (rules : Rules ω ρ) (host : Host ω ρ τ) (fuel : Nat) (engine : Engine ω ρ)
  (parser : Parser ω ρ) (input : Input ω) (options : Options) (world : τ)

/-- Matching leaves the engine as resolving has left it. -/
theorem execute_engine :
    (engine.execute rules host fuel parser input options world).2.1 =
      (engine.resolve rules parser).2 := by
  unfold execute
  split <;> simp [*]

theorem run_engine [Printable ω] :
    (engine.run rules host fuel parser input options world).2.1 =
      (engine.resolveWhole rules parser).2 := by
  unfold run
  split <;> simp [*]

/-- A run whose parser cannot be resolved says so. -/
theorem run_of_error [Printable ω] {error : ResolveError}
    (fails : (engine.resolveWhole rules parser).1 = .error error) :
    (engine.run rules host fuel parser input options world).1 =
      some (.error (.resolve error)) := by
  unfold run
  split <;> simp_all

end

/-! ## What an engine knows -/

/-- A parser and its whole-input form have been resolved. -/
def Remembers (engine : Engine ω ρ) (parser : Parser ω ρ) (node : NodeId) : Prop :=
  ∃ root, engine.grammar.Knows parser.body ⟨.parser parser.identity, []⟩ root ∧
    engine.consuming.find? root = some node

theorem resolveAt_of_knows {engine : Engine ω ρ} {place : Place} {reference : Reference ω ρ}
    {id : NodeId} (knows : engine.grammar.Knows reference place id) (rules : Rules ω ρ) :
    engine.resolveAt rules place reference = (.ok id, engine) := by
  unfold resolveAt
  rw [knows.resolve rules]

theorem Remembers.resolveWhole {engine : Engine ω ρ} {parser : Parser ω ρ} {node : NodeId}
    (remembers : engine.Remembers parser node) (rules : Rules ω ρ) :
    engine.resolveWhole rules parser = (.ok node, engine) := by
  obtain ⟨root, knows, consumed⟩ := remembers
  unfold Engine.resolveWhole resolve
  rw [resolveAt_of_knows knows]
  simp only [wholeInput, consumed]

theorem consuming_of_wholeInput {engine : Engine ω ρ} {rules : Rules ω ρ} {root node : NodeId}
    (found : (engine.wholeInput rules root).1 = .ok node) :
    (engine.wholeInput rules root).2.consuming.find? root = some node := by
  unfold wholeInput at found ⊢
  split
  next known consumed =>
    simp only [consumed] at found ⊢
    cases found
    rfl
  next consumed =>
    simp only [consumed] at found
    split
    next resolved =>
      simp only [resolved] at found
      cases found
      simp [Table.find?_insert]
    next resolved =>
      simp only [resolved] at found
      cases found

section

variable {engine later : Engine ω ρ} (more : engine.Extends later) (steady : engine.Steady)
  (steadyThen : later.Steady)

include more steady steadyThen

theorem Extends.knows {reference : Reference ω ρ} {place : Place} {id : NodeId}
    (knows : engine.grammar.Knows reference place id) :
    later.grammar.Knows reference place id :=
  more.grammar.knows steady.tidy steady.complete steadyThen.tidy knows

theorem Extends.remembers {parser : Parser ω ρ} {node : NodeId}
    (remembers : engine.Remembers parser node) : later.Remembers parser node := by
  obtain ⟨root, knows, consumed⟩ := remembers
  exact ⟨root, more.knows steady steadyThen knows, more.consuming root node consumed⟩

end

theorem Steady.remembers_of_resolveWhole {engine : Engine ω ρ} (steady : engine.Steady)
    {rules : Rules ω ρ} {parser : Parser ω ρ} {node : NodeId}
    (found : (engine.resolveWhole rules parser).1 = .ok node) :
    (engine.resolveWhole rules parser).2.Remembers parser node := by
  have known : ∀ root, (engine.resolve rules parser).1 = .ok root →
      (engine.resolve rules parser).2.grammar.Knows parser.body ⟨.parser parser.identity, []⟩
        root :=
    fun root isRoot => steady.tidy.knows_of_resolve isRoot
  have steadyThen := (steady.resolveAt rules ⟨.parser parser.identity, []⟩ parser.body).2
  change (engine.resolve rules parser).2.Steady at steadyThen
  unfold Engine.resolveWhole at found ⊢
  cases resolved : engine.resolve rules parser with
  | mk result middle =>
      rw [resolved] at found known steadyThen
      cases result with
      | error error => cases found
      | ok root =>
          obtain ⟨more, steadyLast⟩ := steadyThen.wholeInput rules root
          exact ⟨root, more.knows steadyThen steadyLast (known root rfl),
            consuming_of_wholeInput found⟩

/-! ## What later calls leave alone -/

theorem steady_new (number : Nat) (kind : InputKind) (options : Options) :
    (new number kind options : Engine ω ρ).Steady :=
  ⟨.empty number kind, .empty number kind⟩

variable [Printable ω]

theorem Call.extends {engine later : Engine ω ρ} (call : Call engine later)
    (steady : engine.Steady) : engine.Extends later ∧ later.Steady := by
  cases call with
  | resolve rules place reference => exact steady.resolveAt rules place reference
  | execute rules host fuel parser input options world =>
      rw [execute_engine]
      exact steady.resolveAt rules _ _
  | run rules host fuel parser input options world =>
      rw [run_engine]
      exact steady.resolveWhole rules parser

theorem Calls.extends {engine later : Engine ω ρ} (calls : Calls engine later)
    (steady : engine.Steady) : engine.Extends later ∧ later.Steady := by
  induction calls with
  | refl => exact ⟨.refl engine, steady⟩
  | tail _ call induction =>
      obtain ⟨more, steadyThen⟩ := call.extends induction.2
      exact ⟨induction.1.trans more, steadyThen⟩

/-- Whatever calls have been made on an engine, a reference that is resolved keeps its
identity through all later calls, and to resolve it or its handle again changes nothing.
A parser that a run has got to match grows nothing when it is run or executed again.  The
slots that are there lead to the same nodes ever after. -/
theorem resolved_parsers_are_stable {number : Nat} {kind : InputKind} {standard : Options}
    {engine : Engine ω ρ} (history : Calls (new number kind standard) engine) :
    (∀ rules place reference id, (engine.resolveAt rules place reference).1 = .ok id →
      ∀ later, Calls (engine.resolveAt rules place reference).2 later →
        (∀ others, later.resolveAt others place reference = (.ok id, later)) ∧
        ∀ others elsewhere,
          later.resolveAt others elsewhere
            ((engine.resolveAt rules place reference).2.grammar.handle id) = (.ok id, later)) ∧
    (∀ (τ : Type) rules (host : Host ω ρ τ) fuel parser input options world,
      (∀ error, (engine.run rules host fuel parser input options world).1 ≠
        some (.error (.resolve error))) →
      ∀ later, Calls (engine.run rules host fuel parser input options world).2.1 later →
        ∀ (τ : Type) others (host : Host ω ρ τ) fuel input options world,
          (later.run others host fuel parser input options world).2.1 = later ∧
          (later.execute others host fuel parser input options world).2.1 = later) ∧
    ∀ later, Calls engine later → ∀ id, id.number < engine.grammar.size →
      later.grammar.follow id = engine.grammar.follow id ∧
        later.grammar.node? id = engine.grammar.node? id := by
  have steady := (history.extends (steady_new number kind standard)).2
  refine ⟨?_, ?_, ?_⟩
  · intro rules place reference id found later calls
    obtain ⟨_, steadyThen⟩ := steady.resolveAt rules place reference
    obtain ⟨more, steadyLast⟩ := calls.extends steadyThen
    have knows := steady.tidy.knows_of_resolve found
    refine ⟨resolveAt_of_knows (more.knows steadyThen steadyLast knows), ?_⟩
    intro others elsewhere
    apply resolveAt_of_knows
    apply more.knows steadyThen steadyLast
    exact knows.handle steadyThen.tidy elsewhere
  · intro τ rules host fuel parser input options world gotPast later calls
    rw [run_engine] at calls
    obtain ⟨_, steadyThen⟩ := steady.resolveWhole rules parser
    obtain ⟨more, steadyLast⟩ := calls.extends steadyThen
    cases whole : (engine.resolveWhole rules parser).1 with
    | error error =>
        exact absurd (run_of_error rules host fuel engine parser input options world whole)
          (gotPast error)
    | ok node =>
        have remembers := more.remembers steadyThen steadyLast
          (steady.remembers_of_resolveWhole whole)
        have ⟨root, knows, _⟩ := remembers
        intro τ others host fuel input options world
        rw [run_engine, execute_engine, remembers.resolveWhole, resolve, resolveAt_of_knows knows]
        exact ⟨rfl, rfl⟩
  · intro later calls id small
    obtain ⟨more, steadyThen⟩ := calls.extends steady
    exact ⟨more.grammar.follow_eq steady.tidy steady.complete steadyThen.tidy small,
      more.grammar.node?_eq steady.tidy steady.complete steadyThen.tidy small⟩

/-- Any number of items, by way of a rule. -/
def anyItems : Rules Empty Empty := fun _ => .optional (.keepSecond .any (.rule "items"))

theorem anyItems_stays_resolved :
    ∃ id, ((new 0 .tokens .standard).resolve anyItems ⟨0, .rule "items"⟩).1 = .ok id ∧
      ((new 0 .tokens .standard).resolve anyItems ⟨0, .rule "items"⟩).2.resolve anyItems
          ⟨0, .rule "items"⟩ =
        (.ok id, ((new 0 .tokens .standard).resolve anyItems ⟨0, .rule "items"⟩).2) ∧
      ∀ fuel input options,
        (((new 0 .tokens .standard).run anyItems ⟨Empty.elim, fun _ _ => ()⟩ 0 ⟨0, .rule "items"⟩
          (.tokens #[]) .standard ()).2.1.run anyItems ⟨Empty.elim, fun _ _ => ()⟩ fuel
            ⟨0, .rule "items"⟩ input options ()).2.1 =
          ((new 0 .tokens .standard).run anyItems ⟨Empty.elim, fun _ _ => ()⟩ 0
            ⟨0, .rule "items"⟩ (.tokens #[]) .standard ()).2.1 := by
  obtain ⟨resolving, running, _⟩ := resolved_parsers_are_stable
    (.refl : Calls (new 0 .tokens .standard) (new 0 .tokens .standard : Engine Empty Empty))
  have first : ((new 0 .tokens .standard).resolve anyItems ⟨0, .rule "items"⟩).1.isOk = true := by
    decide +kernel
  have unfinished : ((new 0 .tokens .standard).run anyItems ⟨Empty.elim, fun _ _ => ()⟩ 0
      ⟨0, .rule "items"⟩ (.tokens #[]) .standard ()).1.isNone = true := by
    decide +kernel
  cases found : ((new 0 .tokens .standard).resolve anyItems ⟨0, .rule "items"⟩).1 with
  | error error =>
      rw [found] at first
      cases first
  | ok id =>
      refine ⟨id, rfl, (resolving anyItems _ _ id found _ .refl).1 anyItems, ?_⟩
      intro fuel input options
      refine (running Unit anyItems _ 0 _ _ _ () ?_ _ .refl Unit anyItems _ fuel input options
        ()).1
      intro error failed
      rw [failed] at unfinished
      cases unfinished

end Engine

end Packrat
