import Packrat.Engine
import Packrat.Proofs.Grammar.Recall
import Packrat.Proofs.Grammar.Stock

/-!
# What an engine matches

An engine resolves a parser into its grammar and then runs the node, so what holds of
runs in a grammar holds of the parsers that an engine executes.
-/

namespace Packrat

variable {ω ρ τ : Type}

namespace Engine

open Grammar

/-- An engine that resolves a parser of the library's kinds has nothing else then, either. -/
theorem grown_of_resolve [BEq ω] [Printable ω] {rules : Rules ω ρ} {parser : Parser ω ρ}
    {engine later : Engine ω ρ} {root : NodeId} (grown : Grown StockOnly engine.grammar)
    (stockOnly : StockOnly rules parser.body)
    (resolved : engine.resolve rules parser = (.ok root, later)) :
    Grown StockOnly later.grammar ∧ root.number < later.grammar.size := by
  obtain ⟨found, rfl⟩ := Prod.mk.inj resolved
  exact ⟨.resolve _ stockOnly grown, grown.tidy.1.resolved_lt found⟩

theorem continues_of_resolve {book : Book ω ρ} {number : Nat} {kind : InputKind}
    {engine later : Engine ω ρ} (history : Continues book (.empty number kind) engine.grammar)
    {parser : Parser ω ρ} (written : book.parsers parser.identity = parser.body) {root : NodeId}
    (resolved : engine.resolve book.rules parser = (.ok root, later)) :
    Continues book (.empty number kind) later.grammar ∧
      later.grammar.Knows parser.body ⟨.parser parser.identity, []⟩ root ∧
      later.grammar.kind = kind ∧
      ∃ ledger, Sound book ledger later.grammar ∧ root.number < later.grammar.size ∧
        Stands book.rules ledger later.grammar root parser.body := by
  obtain ⟨_, sound, _⟩ := (Sound.empty book number kind).continues history
  obtain ⟨identity, body⟩ := parser
  obtain rfl : book.parsers identity = body := written
  obtain ⟨found, rfl⟩ := Prod.mk.inj resolved
  obtain ⟨ledger, soundThen, isKind, stands⟩ := history.exists_stands found .here
  exact ⟨history.parser identity, sound.tidy.knows_of_resolve found, isKind, ledger, soundThen,
    stands⟩

/-- A whole-input form that is not known is resolved as what it is written as. -/
theorem wholeInput_grammar (rules : Rules ω ρ) {engine : Engine ω ρ} {root : NodeId}
    (unknown : engine.consuming.find? root = none) :
    (engine.wholeInput rules root).2.grammar =
      (engine.grammar.resolve rules ⟨.consumer root, []⟩
        (.consume (engine.grammar.handle root))).2 := by
  simp only [wholeInput, unknown, resolveAt]
  cases engine.grammar.resolve rules ⟨.consumer root, []⟩
    (.consume (engine.grammar.handle root)) with
  | mk result later => cases result <;> rfl

theorem execute_of_resolve {rules : Rules ω ρ} {host : Host ω ρ τ} {fuel : Nat}
    {engine later : Engine ω ρ} {parser : Parser ω ρ} {input : Input ω} {options : Options}
    {world : τ} {root : NodeId} (resolved : engine.resolve rules parser = (.ok root, later))
    (inside : options.start ≤ input.length) :
    (engine.execute rules host fuel parser input options world).1 =
      (Job.run ⟨later.grammar, input, options.memoize, options.stepLimit⟩ host fuel root
        options.start world).1.map .ok := by
  unfold execute
  rw [resolved]
  simp only [matchNode, if_neg (Nat.not_lt.mpr inside)]

theorem resolve_of_toOption {rules : Rules ω ρ} {parser : Parser ω ρ} {engine : Engine ω ρ}
    {root : NodeId}
    (found : (engine.grammar.resolve rules ⟨.parser parser.identity, []⟩
      parser.body).1.toOption = some root) :
    engine.resolve rules parser = (.ok root, (engine.resolve rules parser).2) := by
  refine Prod.ext ?_ rfl
  cases resolved : (engine.grammar.resolve rules ⟨.parser parser.identity, []⟩
      parser.body).1 with
  | error error =>
      rw [resolved] at found
      cases found
  | ok id =>
      rw [resolved] at found
      cases found
      exact resolved

end Engine

end Packrat
