import Packrat.Proofs.Unfolding
import Packrat.Proofs.Grammar.Making

/-!
# Parsers that can be resolved

A parser is plain if it is written with nodes of the library's kinds, literals and rules.
Among finitely many rules that are nodes themselves a plain parser is resolved, if its
literals can be matched and there are slots enough.
-/

namespace Packrat

open Reference

variable {ω ρ : Type}

namespace Reference

/-- A parser that is written with nodes of these kinds, and with these rules. -/
inductive Plain (kinds : Kind ω ρ → Prop) (named : String → Prop) : Reference ω ρ → Prop where
  | node (kind : Kind ω ρ) {children : Fin kind.arity → Reference ω ρ} :
      (∀ input, kind.Native input) → kinds kind →
      (∀ index, Plain kinds named (children index)) →
      Plain kinds named (.node kind.blueprint children)
  | literal {data : Literal} :
      (∀ language, kinds (.literal (.ofText language) data)) → Plain kinds named (.literal data)
  | rule {name : String} : named name → Plain kinds named (.rule name)

namespace Plain

variable {kinds : Kind ω ρ → Prop} {named : String → Prop} {reference first second : Reference ω ρ}

theorem made (plain : reference.Plain kinds named) (held : Nat → NodeId → Prop) :
    reference.MadeOf kinds named held := by
  induction plain with
  | node _ native isKind _ induction => exact .node native isKind induction
  | literal isKind => exact .literal isKind
  | rule isNamed => exact .rule isNamed

theorem faithful (plain : reference.Plain kinds named) (parsers : Nat → Reference ω ρ) :
    reference.Faithful parsers := by
  induction plain with
  | node kind native _ _ induction => exact .own kind native induction
  | literal => exact .literal _
  | rule => exact .rule _

theorem proper (plain : reference.Plain kinds named) (texts : Origin → Option (Reference ω ρ)) :
    reference.Proper texts := by
  induction plain with
  | node _ _ _ _ induction => exact .node induction
  | literal => exact .literal _
  | rule => exact .rule _

theorem rulesIn {names : Finset String} (plain : reference.Plain kinds (· ∈ names)) :
    reference.RulesIn names := by
  induction plain with
  | node _ _ _ _ induction => exact induction
  | literal => trivial
  | rule isNamed => exact isNamed

theorem mono {more : Kind ω ρ → Prop} {others : String → Prop}
    (plain : reference.Plain kinds named) (weaker : ∀ kind, kinds kind → more kind)
    (among : ∀ name, named name → others name) : reference.Plain more others := by
  induction plain with
  | node kind native isKind _ induction => exact .node kind native (weaker kind isKind) induction
  | literal isKind => exact .literal fun language => weaker _ (isKind language)
  | rule isNamed => exact .rule (among _ isNamed)

/-- What a plain parser leads to is plain. -/
theorem meets {rules : Rules ω ρ} {last : Reference ω ρ} (plain : reference.Plain kinds named)
    (closed : ∀ name, named name → (rules name).Plain kinds named)
    (meets : Meets rules reference last) : last.Plain kinds named := by
  induction meets with
  | refl => exact plain
  | @tail above part _ isPart above' =>
      rcases isPart with ⟨index, found⟩ | opens
      · cases above' with
        | node _ _ _ each =>
            obtain ⟨inside, same⟩ := Option.dite_none_right_eq_some.mp found
            exact Option.some.inj same ▸ each ⟨index, inside⟩
        | literal => cases found
        | rule => cases found
      · cases above' with
        | rule isNamed =>
            cases opens
            exact closed _ isNamed
        | node => cases opens
        | literal => cases opens

/-- Two children, as nodes have them. -/
theorem both (here : first.Plain kinds named) (there : second.Plain kinds named) (index : Fin 2) :
    (if index = 0 then first else second : Reference ω ρ).Plain kinds named := by
  split
  next => exact here
  next => exact there

theorem choice {alternatives : List (Reference ω ρ)} (isKind : kinds (.choice alternatives.length))
    (each : ∀ alternative ∈ alternatives, alternative.Plain kinds named) :
    (Reference.choice alternatives).Plain kinds named := by
  rw [Own.choice_eq]
  exact .node _ (fun _ => trivial) isKind fun index => each _ (List.get_mem alternatives index)

end Plain

end Reference

namespace Grammar

/-- Where every rule is a node, everything lands somewhere. -/
theorem Lands.of_nodes {rules : Rules ω ρ}
    (nodes : ∀ name, ∃ blueprint children, rules name = .node blueprint children)
    (reference : Reference ω ρ) : Lands rules reference := by
  induction reference with
  | node blueprint children => exact .node blueprint children
  | literal data => exact .literal data
  | sequence count parts => exact .sequence count parts
  | handle number id => exact .handle number id
  | rule name =>
      obtain ⟨blueprint, children, isNode⟩ := nodes name
      exact .opened (.rule name) (isNode ▸ .node blueprint children)
  | delayed label body induction => exact .opened (.delayed label body) induction
  | parser identity body induction => exact .opened (.parser identity body) induction

section

variable {rules : Rules ω ρ} {kinds : Kind ω ρ → Prop} {named : String → Prop} {input : InputKind}

/-- Where literals can be matched and there are no handles, a resolution is only given up
for want of slots, or for a rule that leads back to itself. -/
theorem Resolves.innermost {errand : Errand ω ρ} {g g' : Grammar ω ρ}
    {result : Except ResolveError NodeId} (resolves : Resolves rules errand g result g')
    (tidy : g.Tidy) (isInput : g.kind = input)
    (closed : ∀ name, named name → (rules name).MadeOf kinds named NoHandle)
    (made : errand.MadeOf input kinds named NoHandle)
    (matchable : ∀ data, (∀ language, kinds (.literal (.ofText language) data)) →
      ∃ blueprint : Blueprint ω ρ, data.blueprint? input = .ok blueprint)
    {error : ResolveError} (fails : result = .error error) :
    error.innermost = .tooManyNodes ∨ error.innermost = .selfReference := by
  induction resolves generalizing error with
  | known_node | known_literal | known_sequence | new_literal | new_sequence | own_handle | made
  | known_thunk | unfolded => cases fails
  | no_slot_for_node | no_slot_for_thunk =>
      cases fails
      exact .inl rfl
  | circular =>
      cases fails
      exact .inr rfl
  | foreign_handle | unknown_handle =>
      cases made with
      | handle impossible => exact impossible.elim
  | @refused_literal g data place message _ refused =>
      cases made with
      | literal isKind =>
          obtain ⟨blueprint, isMatched⟩ := matchable data isKind
          rw [isInput, isMatched] at refused
          cases refused
  | new_node _ _ induction => exact induction tidy isInput (.of_node made) fails
  | failed_literal _ shape _ induction =>
      exact induction tidy isInput (.of_literal made (isInput ▸ shape)) fails
  | failed_sequence _ _ induction => exact induction tidy isInput (.of_sequence made) fails
  | rule _ induction =>
      cases made with
      | rule isNamed => exact induction tidy isInput (closed _ isNamed) fails
  | delayed _ induction =>
      cases made with
      | delayed _ inner => exact induction tidy isInput inner fails
  | parser _ induction =>
      cases made with
      | parser _ inner => exact induction tidy isInput inner fails
  | @failed_child g g' own _ _ _ slot states _ failed _ _ last begins resolved _ _ induction =>
      cases fails
      have tidyStart : (states 0).Tidy := begins ▸ tidy.noteNode last
      obtain ⟨grows, tidyHere, _⟩ := settled_of_children tidyStart (Nat.le_of_lt failed.isLt)
        resolved (Nat.zero_le _) (Nat.le_refl _)
      have sameInput : (states failed).kind = input := by
        rw [grows.kind, begins, ← isInput]
        cases own <;> rfl
      have inner := induction tidyHere sameInput (made.2 failed) rfl
      exact inner
  | failed_body _ last _ induction => exact induction (tidy.noteThunk last) isInput made fails

end

/-- A plain parser is resolved where there are slots enough, if its literals can be matched
and all rules are nodes. -/
theorem Orderly.exists_resolve {program : Program ω ρ} {exact : Prop} {ledger : Ledger ω ρ}
    {g : Grammar ω ρ} (orderly : Orderly program exact ledger g) {kinds : Kind ω ρ → Prop}
    {names : Finset String}
    (closed : ∀ name ∈ names, (program.rules name).Plain kinds (· ∈ names))
    (nodes : ∀ name, ∃ blueprint children, program.rules name = .node blueprint children)
    (matchable : ∀ data, (∀ language, kinds (.literal (.ofText language) data)) →
      ∃ blueprint : Blueprint ω ρ, data.blueprint? g.kind = .ok blueprint)
    {place : Place} {reference : Reference ω ρ}
    (isWritten : program.ledger.written place = some reference)
    (plain : reference.Plain kinds (· ∈ names))
    (room : g.size + unmet program.rules names g + reference.weight ≤ capacity) :
    ∃ id, (g.resolve program.rules place reference).1 = .ok id ∧
      (g.resolve program.rules place reference).2.size ≤
        g.size + unmet program.rules names g + reference.weight := by
  have inside : ∀ name ∈ names, (program.rules name).RulesIn names :=
    fun name isNamed => (closed name isNamed).rulesIn
  have size := orderly.tidy.size_resolve_le inside place plain.rulesIn
  rcases resolve_resolves program.rules g place reference with
    ⟨id, g', resolved, _⟩ | ⟨error, g', resolved, resolves⟩
  · exact ⟨_, congrArg Prod.fst resolved, size⟩
  · exfalso
    obtain ⟨_, short⟩ := resolves.spends orderly.tidy inside plain.rulesIn
    rcases resolves.innermost orderly.tidy rfl (fun name isNamed => (closed name isNamed).made _)
      (plain.made _) matchable rfl with innermost | innermost
    · have := short error rfl innermost
      rw [Errand.weight] at this
      omega
    · have isError : (g.resolve program.rules place reference).1 = .error error := by rw [resolved]
      have circles := orderly.circles isWritten isError innermost
      have noHandle : g.HandlesOld program.rules place reference := by
        intro id meets
        cases plain.meets closed meets
      obtain ⟨thunk, _, circle⟩ := (orderly.circles_iff noHandle).mp circles
      exact (Lands.of_nodes nodes thunk).not_circular circle

end Grammar

end Packrat
