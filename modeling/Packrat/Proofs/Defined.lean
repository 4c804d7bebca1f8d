import Packrat.Proofs.DirectRecursion
import Packrat.Proofs.Outcomes

/-!
# Parsers that mean something

A parser of the library's own that is not left-recursive means something wherever it is
matched, and then so does whatever is made of it.  However often it is resolved, its nodes
evaluate to the same success, if to any, which lies inside the input; and an engine executes
it to that success, or to a failure if there is none.
-/

namespace Packrat

variable {ω ρ τ : Type}

/-- A matcher comes to something if each of its calls can be answered inside the input. -/
theorem Matcher.Runs.exists_yields {matcher : Matcher ω ρ} {allowed : NodeId → Prop}
    {input : Input ω} {position calls : Nat} {step : Step ω ρ}
    (runs : matcher.Runs allowed input position calls step) (reply : ρ → Answer ω)
    {answers : NodeId → Nat → Match (Value ω) → Prop}
    (each : ∀ node place, allowed node → position ≤ place → place ≤ input.length →
      ∃ answer, answers node place answer ∧ answer.Inside place input.length) :
    ∃ result, matcher.Yields input reply position answers (step.move reply) result := by
  induction runs with
  | @done _ result => exact ⟨result, .done result⟩
  | call isAllowed after before _ induction =>
      obtain ⟨answer, answered, inside⟩ := each _ _ isAllowed after before
      obtain ⟨result, rest⟩ := induction answer inside
      exact ⟨result, .call answered rest⟩
  | ask _ induction => exact induction (reply _)

/-- A parser means something wherever it is matched from a position on. -/
def Reading.Defined (reading : Reading ω ρ) (start : Nat) (reference : Reference ω ρ) : Prop :=
  ∀ place, start ≤ place → place ≤ reading.input.length →
    ∃ answer, reading.Means reference place answer

/-- How the parsers of a program are read, each described in messages by what it is. -/
abbrev Book.reading (book : Book ω ρ) (inputs : InputKind) (input : Input ω)
    (reply : ρ → Answer ω) : Reading ω ρ :=
  ⟨inputs, book.rules, Reference.tag, input, reply⟩

namespace Grammar

open Reference

/-- A grammar that has resolved parsers of a program, all of whose nodes are the library's
own. -/
structure Furnished [BEq ω] [Printable ω] (book : Book ω ρ) (ledger : Ledger ω ρ)
    (g : Grammar ω ρ) : Prop where
  stock : book.Stock
  sound : Sound book ledger g
  grown : Grown StockOnly g

/-- A slot of a grammar that a parser of the library's own is resolved to. -/
structure Placed (book : Book ω ρ) (ledger : Ledger ω ρ) (g : Grammar ω ρ) (id : NodeId)
    (reference : Reference ω ρ) : Prop where
  stands : Stands book.rules ledger g id reference
  own : reference.Own (fun _ => True) NoHandle
  small : id.number < g.size

namespace Furnished

variable [BEq ω] [Printable ω] {book : Book ω ρ} {ledger : Ledger ω ρ} {g : Grammar ω ρ}
  (furnished : Furnished book ledger g) {id : NodeId} {reference : Reference ω ρ}
  (placed : Placed book ledger g id reference)

include furnished

theorem closed (name : String) (_ : True) : (book.rules name).Own (fun _ => True) NoHandle :=
  (furnished.stock.1 name).own

include placed

/-- The parts of a parser are resolved to the children of its node. -/
theorem exists_parts {kind : Kind ω ρ} {parts : Fin kind.arity → Reference ω ρ}
    (reads : Reads g.kind book.rules reference kind parts) :
    ∃ children : Fin kind.arity → Child,
      (∀ position, (g.matcherAt (g.spot id position)).Alike (kind.plan.map children).matcher) ∧
      ∀ index : Fin kind.arity, g.child? id index = some (children index).id ∧
        Placed book ledger g (children index).id (parts index) := by
  obtain ⟨children, alike, each⟩ := furnished.sound.exists_children placed.stands reads
  refine ⟨children, alike, fun index => ⟨(each index).1, (each index).2, ?_, ?_⟩⟩
  · exact placed.own.of_reads furnished.closed reads index
  · exact furnished.grown.child_lt placed.small (each index).1

variable {input : Input ω} {reply : ρ → Answer ω} {place start : Nat} {answer : Match (Value ω)}

/-- A node evaluates to what its plan gives where its children evaluate to what they do. -/
theorem exists_evaluates_iff {kind : Kind ω ρ} {parts : Fin kind.arity → Reference ω ρ}
    (reads : Reads g.kind book.rules reference kind parts) :
    ∃ (children : Fin kind.arity → NodeId) (descriptions : Fin kind.arity → String),
      (∀ index : Fin kind.arity, g.child? id index = some (children index) ∧
        Placed book ledger g (children index) (parts index)) ∧
      ∀ (input : Input ω) (reply : ρ → Answer ω) (place : Nat) (result : Match (Value ω)),
        g.Evaluates input reply id place result ↔
          kind.plan.Gives input reply descriptions
            (fun index => g.Evaluates input reply (children index)) place result := by
  obtain ⟨children, alike, each⟩ := furnished.exists_parts placed reads
  exact ⟨_, _, each, fun input reply place result => comes_iff_gives (alike place)⟩

/-- A slot comes to what its parser means, but for descriptions in messages. -/
theorem comes_of_means (means : (book.reading g.kind input reply).Means reference place answer) :
    ∃ other, g.Comes input reply (g.spot id place) other ∧ answer.Agrees other :=
  (furnished.sound.evaluates_iff_means furnished.closed tag placed.own placed.stands place _).2
    means

theorem means_of_comes (comes : g.Comes input reply (g.spot id place) answer) :
    ∃ other, (book.reading g.kind input reply).Means reference place other ∧ answer.Agrees other :=
  (furnished.sound.evaluates_iff_means furnished.closed tag placed.own placed.stands place _).1
    comes

/-- A success does not depend on descriptions. -/
theorem means_success_iff {span : Span} {value : Value ω} :
    (book.reading g.kind input reply).Means reference place (.success span value) ↔
      g.Evaluates input reply id place (.success span value) := by
  constructor
  · intro means
    obtain ⟨other, comes, agrees⟩ := furnished.comes_of_means placed means
    cases agrees
    exact comes
  · intro comes
    obtain ⟨other, means, agrees⟩ := furnished.means_of_comes placed comes
    cases agrees
    exact means

theorem comes_inside (before : place ≤ input.length)
    (comes : g.Comes input reply (g.spot id place) answer) : answer.Inside place input.length := by
  obtain ⟨most, bounded⟩ :=
    furnished.grown.stocked.exists_bounded furnished.grown.tidy.1.acyclic input true none
  have covers : Job.Covers ⟨g, input, true, none⟩ (fun id => id.number < g.size) 0
      (g.spot id place) := ⟨⟨id, placed.small, rfl⟩, Nat.zero_le _, before⟩
  exact bounded.comes_inside covers comes

/-- A parser that is resolved twice succeeds alike. -/
theorem success_iff {others : Ledger ω ρ} {g' : Grammar ω ρ} {there : NodeId}
    (furnishedThere : Furnished book others g') (sameKind : g'.kind = g.kind)
    (placedThere : Placed book others g' there reference)
    {span : Span} {value : Value ω} :
    g.Evaluates input reply id place (.success span value) ↔
      g'.Evaluates input reply there place (.success span value) :=
  (furnished.means_success_iff placed).symm.trans
    (sameKind ▸ furnishedThere.means_success_iff placedThere)

/-- A parser that is resolved twice fails alike, but for the message. -/
theorem exists_failure_of_failure {others : Ledger ω ρ} {g' : Grammar ω ρ} {there : NodeId}
    (furnishedThere : Furnished book others g') (sameKind : g'.kind = g.kind)
    (placedThere : Placed book others g' there reference)
    {message : String} {span : Span}
    (fails : g.Evaluates input reply id place (.failure message span)) :
    ∃ reason other, g'.Evaluates input reply there place (.failure reason other) := by
  obtain ⟨_, means, agrees⟩ := furnished.means_of_comes placed fails
  cases agrees
  obtain ⟨_, comes, agrees⟩ := furnishedThere.comes_of_means placedThere (sameKind ▸ means)
  cases agrees
  exact ⟨_, _, comes⟩

/-- What means something wherever it is matched is what is nowhere left-recursive. -/
theorem defined_iff_apart :
    (book.reading g.kind input reply).Defined start reference ↔
      ∀ place, start ≤ place → place ≤ input.length →
        ¬g.LeftRecursive input reply (g.spot id place) := by
  have evaluates_iff (place : Nat) (before : place ≤ input.length) :
      (∃ result, g.Evaluates input reply id place result) ↔
        ¬g.LeftRecursive input reply (g.spot id place) :=
    furnished.grown.stocked.exists_evaluates_iff furnished.grown.tidy.1.acyclic placed.small before
  constructor
  · intro defined place after before
    obtain ⟨answer, means⟩ := defined place after before
    obtain ⟨other, comes, _⟩ := furnished.comes_of_means placed means
    exact (evaluates_iff place before).mp ⟨other, comes⟩
  · intro apart place after before
    obtain ⟨result, evaluates⟩ := (evaluates_iff place before).mpr (apart place after before)
    obtain ⟨other, means, _⟩ := furnished.means_of_comes placed evaluates
    exact ⟨other, means⟩

/-- What is made of parts that mean something means something. -/
theorem defined_of_parts {kind : Kind ω ρ} {parts : Fin kind.arity → Reference ω ρ}
    (reads : Reads g.kind book.rules reference kind parts) (stock : kind.Stock)
    (each : ∀ index, (book.reading g.kind input reply).Defined start (parts index)) :
    (book.reading g.kind input reply).Defined start reference := by
  intro place after before
  obtain ⟨children, alike, isPart⟩ := furnished.exists_parts placed reads
  have answered : ∀ node there, (∃ index, node = (children index).id) → place ≤ there →
      there ≤ input.length →
      ∃ answer, g.Comes input reply (g.spot node there) answer ∧
        answer.Inside there input.length := by
    rintro _ there ⟨index, rfl⟩ behind inside
    obtain ⟨answer, means⟩ := each index there (after.trans behind) inside
    obtain ⟨other, comes, _⟩ := furnished.comes_of_means (isPart index).2 means
    exact ⟨other, comes, furnished.comes_inside (isPart index).2 inside comes⟩
  have runs := @Plan.runs_matcher _ _ _ (fun node => ∃ index, node = (children index).id) children
    (fun index => ⟨index, rfl⟩) _ stock.keeps _ _ before
  obtain ⟨result, yields⟩ := runs.exists_yields reply answered
  have comes := (comes_iff_gives (alike place)).mpr (Plan.yields_iff.mp yields)
  obtain ⟨other, means, _⟩ := furnished.means_of_comes placed comes
  exact ⟨other, means⟩

end Furnished

end Grammar

namespace Engine

open Grammar

variable [BEq ω] [Printable ω] {book : Book ω ρ} {number : Nat} {kind : InputKind}
  {engine later : Engine ω ρ} {parser : Parser ω ρ} {root : NodeId}

/-- An engine that has resolved a parser of a program. -/
theorem exists_furnished (stock : book.Stock)
    (written : book.parsers parser.identity = parser.body)
    (history : Continues book (.empty number kind) engine.grammar)
    (resolved : engine.resolve book.rules parser = (.ok root, later)) :
    later.grammar.kind = kind ∧ ∃ ledger, Furnished book ledger later.grammar ∧
      Placed book ledger later.grammar root parser.body := by
  obtain ⟨historyThen, _, isKind, ledger, sound, small, stands⟩ :=
    continues_of_resolve history written resolved
  have own := (stock.2 parser.identity).own
  rw [written] at own
  exact ⟨isKind, ledger, ⟨stock, sound, (historyThen.stocked stock).1⟩, stands, own, small⟩

/-- A parser that means something where it is executed is executed to an end, and to what
its node evaluates to.  Past the end of the input nothing succeeds. -/
theorem exists_comesTo_of_means {ledger : Ledger ω ρ}
    (furnished : Furnished book ledger later.grammar)
    (placed : Placed book ledger later.grammar root parser.body)
    (resolved : engine.resolve book.rules parser = (.ok root, later))
    {host : Host ω ρ τ} {reply : ρ → Answer ω} (answers : host.Answers reply) {input : Input ω}
    {options : Options} (unlimited : options.stepLimit = none)
    (means : options.start ≤ input.length →
      ∃ answer,
        (book.reading later.grammar.kind input reply).Means parser.body options.start answer)
    (world : τ) :
    Exhausts (.ok root, later) host input options world ∨
    ∃ outcome,
      ComesTo (fun fuel => (engine.execute book.rules host fuel parser input options world).1)
        (.ok outcome) ∧
      (options.start ≤ input.length →
        later.grammar.Evaluates input reply root options.start outcome.result) ∧
      ∀ span value, outcome.result = .success span value ↔ options.start ≤ input.length ∧
        later.grammar.Evaluates input reply root options.start (.success span value) := by
  rcases Nat.lt_or_ge input.length options.start with past | inside
  · obtain ⟨found, rfl⟩ := Prod.mk.inj resolved
    refine .inr ⟨_, comesTo_execute found (comesTo_of_past past world),
      fun inside => absurd past (Nat.not_lt_of_le inside), fun span value => ?_⟩
    exact iff_of_false nofun fun ⟨inside, _⟩ => Nat.not_lt_of_le inside past
  by_cases room : Exhausts (.ok root, later) host input options world
  · exact .inl room
  obtain ⟨_, result, _, steps, finds, comesTo⟩ := exists_comesTo_of_resolve resolved
    furnished.grown placed.small room unlimited inside
  have free : ¬Job.Exhausts ⟨later.grammar, input, options.memoize, none⟩ host root options.start
      world := fun full => room ⟨root, rfl, unlimited.symm ▸ full⟩
  obtain ⟨answer, meant⟩ := means inside
  obtain ⟨other, comes, _⟩ := furnished.comes_of_means placed meant
  obtain ⟨_, _, _, others⟩ := Job.exists_finds_of_comes answers rfl
    (fun _ _ _ => Job.size_lt_of_not_exhausts free) comes
  obtain rfl := finds.unique others
  refine .inr ⟨_, comesTo, fun _ => comes, fun span value => ?_⟩
  rw [and_iff_right inside]
  constructor
  · rintro rfl
    exact comes
  · exact comes.unique

end Engine

end Packrat
