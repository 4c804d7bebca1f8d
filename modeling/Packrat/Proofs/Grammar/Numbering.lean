import Packrat.Proofs.Grammar.Tidy
import Mathlib.Logic.Equiv.Basic

/-!
# The numbers of grammars

The number of a grammar tells handles for its nodes from handles for those of others, and
nothing else depends on it.  So a grammar with another number resolves everything in the
same way, if the numbers of the handles are changed with its own.
-/

namespace Packrat

variable {ω ρ : Type}

/-- The reference with other numbers on its handles. -/
def Reference.renumber (rename : Nat → Nat) : Reference ω ρ → Reference ω ρ
  | .node blueprint children => .node blueprint fun index => (children index).renumber rename
  | .literal data => .literal data
  | .sequence count parts => .sequence count fun index => (parts index).renumber rename
  | .rule name => .rule name
  | .delayed label body => .delayed label (body.renumber rename)
  | .handle number id => .handle (rename number) id
  | .parser identity body => .parser identity (body.renumber rename)

/-- There are no handles of the grammar of this number in the reference. -/
def Reference.Avoids (number : Nat) : Reference ω ρ → Prop
  | .node _ children => ∀ index, (children index).Avoids number
  | .literal _ => True
  | .sequence _ parts => ∀ index, (parts index).Avoids number
  | .rule _ => True
  | .delayed _ body => body.Avoids number
  | .handle other _ => other ≠ number
  | .parser _ body => body.Avoids number

/-- Two numbers that are not in the reference can be swapped. -/
theorem Reference.Avoids.renumber {reference : Reference ω ρ} {number other : Nat}
    (avoids : reference.Avoids number) (avoidsOther : reference.Avoids other) :
    reference.renumber (Equiv.swap number other) = reference := by
  induction reference with
  | node blueprint children induction =>
      exact congrArg (Reference.node blueprint)
        (funext fun index => induction index (avoids index) (avoidsOther index))
  | sequence count parts induction =>
      exact congrArg (Reference.sequence count)
        (funext fun index => induction index (avoids index) (avoidsOther index))
  | delayed label body induction =>
      exact congrArg (Reference.delayed label) (induction avoids avoidsOther)
  | parser identity body induction =>
      exact congrArg (Reference.parser identity) (induction avoids avoidsOther)
  | handle another id =>
      exact congrArg (Reference.handle · id) (Equiv.swap_apply_of_ne_of_ne avoids avoidsOther)
  | literal | rule => rfl

namespace Grammar

/-- The grammar with another number. -/
def renumber (rename : Nat → Nat) (g : Grammar ω ρ) : Grammar ω ρ :=
  { g with number := rename g.number }

variable {rename : Nat → Nat}

theorem follow_renumber (g : Grammar ω ρ) (id : NodeId) :
    (g.renumber rename).follow id = g.follow id := by
  have slots : (g.renumber rename).slots = g.slots := rfl
  exact follow_congr slots id

theorem noteNode_renumber (g : Grammar ω ρ) (own : Option Place) (slot : NodeId) :
    (g.renumber rename).widened.noteNode own slot =
      (g.widened.noteNode own slot).renumber rename := by
  cases own <;> rfl

theorem finish_renumber (g : Grammar ω ρ) (slot : NodeId) (blueprint : Blueprint ω ρ)
    (children : Vector NodeId blueprint.arity) :
    (g.renumber rename).finish slot blueprint children =
      ((g.finish slot blueprint children).1,
        (g.finish slot blueprint children).2.renumber rename) := by
  have slots : (g.renumber rename).slots = g.slots := rfl
  have shared : (g.renumber rename).shared = g.shared := rfl
  rw [finish_eq, finish_eq, keyOf_congr slots, assembled_congr slots, shared]
  cases (g.keyOf blueprint children).bind g.shared.find? with
  | some existing => rfl
  | none => cases g.keyOf blueprint children <;> rfl

/-! ## Resolving under another number -/

/-- The second resolver does under another number what the first one does. -/
def Renames (rename : Nat → Nat) {α : Type} (resolver other : Resolver ω ρ α) : Prop :=
  ∀ g : Grammar ω ρ, other.run.run (g.renumber rename) =
    ((resolver.run.run g).1, (resolver.run.run g).2.renumber rename)

theorem proceed_renumber {ε α β : Type} {outcome other : Except ε α × Grammar ω ρ}
    (renamed : other = (outcome.1, outcome.2.renumber rename))
    {next nextOther : α → Grammar ω ρ → Except ε β × Grammar ω ρ}
    (nextRenamed : ∀ value (g : Grammar ω ρ), nextOther value (g.renumber rename) =
      ((next value g).1, (next value g).2.renumber rename)) :
    proceed other nextOther =
      ((proceed outcome next).1, (proceed outcome next).2.renumber rename) := by
  subst renamed
  obtain ⟨result, g⟩ := outcome
  cases result with
  | error error => rfl
  | ok value => exact nextRenamed value g

namespace Renames

theorem bind {α β : Type} {first other : Resolver ω ρ α} {next nextOther : α → Resolver ω ρ β}
    (renames : Renames rename first other)
    (nextRenames : ∀ value, Renames rename (next value) (nextOther value)) :
    Renames rename (first >>= next) (other >>= nextOther) := by
  intro g
  rw [run_bind, run_bind]
  exact proceed_renumber (renames g) nextRenames

theorem ofFnM {α : Type} {count : Nat} {step other : Fin count → Resolver ω ρ α}
    (renames : ∀ index, Renames rename (step index) (other index)) :
    Renames rename (Vector.ofFnM step) (Vector.ofFnM other) := by
  induction count with
  | zero =>
      rw [Vector.ofFnM_zero, Vector.ofFnM_zero]
      exact fun g => rfl
  | succ count induction =>
      rw [Vector.ofFnM_succ, Vector.ofFnM_succ]
      refine (induction fun index => renames index.castSucc).bind fun given => ?_
      exact (renames (Fin.last count)).bind fun last g => rfl

theorem resolveChild {child other : Resolver ω ρ NodeId} (renames : Renames rename child other)
    (name : String) :
    Renames rename (resolveChild name child) (Grammar.resolveChild name other) := by
  intro g
  rw [run_resolveChild, run_resolveChild, renames g]
  cases child.run.run g with
  | mk result later =>
      cases result with
      | error error => rfl
      | ok id => simp only [follow_renumber]

theorem resolveNode (own : Option Place) {blueprint : Blueprint ω ρ}
    {child other : Fin blueprint.arity → Resolver ω ρ NodeId}
    (renames : ∀ index, Renames rename (child index) (other index)) :
    Renames rename (resolveNode own blueprint child) (Grammar.resolveNode own blueprint other) := by
  intro g
  have nodes : (g.renumber rename).nodes = g.nodes := rfl
  have size : (g.renumber rename).size = g.size := rfl
  rw [run_resolveNode, run_resolveNode, nodes, size]
  cases own.bind g.nodes.find? with
  | some id => rfl
  | none =>
      cases Index.next? g.size with
      | none => rfl
      | some slot =>
          have children := ofFnM fun index => (renames index).resolveChild blueprint.name
          refine proceed_renumber ?_ fun given g => ?_
          · rw [noteNode_renumber]
            exact children _
          · rw [finish_renumber]

theorem resolveLiteral (l : Literal) :
    Renames rename (resolveLiteral l : Resolver ω ρ NodeId) (Grammar.resolveLiteral l) := by
  intro g
  have literals : (g.renumber rename).literals = g.literals := rfl
  have kind : (g.renumber rename).kind = g.kind := rfl
  rw [run_resolveLiteral, run_resolveLiteral, literals, kind]
  cases g.literals.find? l with
  | some id => rfl
  | none =>
      cases (l.blueprint? g.kind : Except String (Blueprint ω ρ)) with
      | error message => rfl
      | ok blueprint =>
          have leaf : Renames rename
              (Grammar.resolveNode none blueprint fun _ => throw .selfReference)
              (Grammar.resolveNode none blueprint fun _ => throw .selfReference) :=
            resolveNode none fun _ _ => rfl
          refine proceed_renumber (leaf g) fun id g => ?_
          rw [follow_renumber]
          rfl

theorem unfold (thunk : Thunk) (label : Option String) {body other : Place → Resolver ω ρ NodeId}
    (renames : ∀ place, Renames rename (body place) (other place)) :
    Renames rename (unfold thunk label body) (Grammar.unfold thunk label other) := by
  intro g
  have thunks : (g.renumber rename).thunks = g.thunks := rfl
  have size : (g.renumber rename).size = g.size := rfl
  rw [run_unfold, run_unfold, thunks, size]
  cases g.thunks.find? thunk with
  | some id => rfl
  | none =>
      cases Index.next? g.size with
      | none => rfl
      | some slot =>
          refine proceed_renumber (renames _ (g.widened.noteThunk thunk label slot))
            fun target g => ?_
          rw [follow_renumber]
          split <;> rfl

theorem resolveAt (injective : Function.Injective rename)
    {rule other : String → Resolver ω ρ NodeId}
    (renames : ∀ name, Renames rename (rule name) (other name)) (reference : Reference ω ρ)
    (place : Place) :
    Renames rename (resolveAt rule reference place)
      (Grammar.resolveAt other (reference.renumber rename) place) := by
  induction reference generalizing place with
  | node blueprint children induction =>
      exact resolveNode (some place) fun index => induction index (place.child index)
  | literal l => exact resolveLiteral l
  | sequence count parts induction =>
      intro g
      have sequences : (g.renumber rename).sequences = g.sequences := rfl
      rw [Reference.renumber, run_resolveSequence, run_resolveSequence, sequences]
      cases g.sequences.find? place with
      | some id => rfl
      | none =>
          have node : Renames rename
              (Grammar.resolveNode none (.sequence count) fun index =>
                Grammar.resolveAt rule (parts index) (place.child index))
              (Grammar.resolveNode none (.sequence count) fun index =>
                Grammar.resolveAt other ((parts index).renumber rename) (place.child index)) :=
            resolveNode none fun index => induction index (place.child index)
          exact proceed_renumber (node g) fun id g => rfl
  | rule name => exact renames name
  | delayed label body induction => exact unfold (.delayed place) label induction
  | handle number id =>
      intro g
      have isOwn : rename number ≠ (g.renumber rename).number ↔ number ≠ g.number :=
        not_congr injective.eq_iff
      have size : (g.renumber rename).size = g.size := rfl
      rw [Reference.renumber, Grammar.resolveAt, Grammar.resolveAt, run_resolveHandle,
        run_resolveHandle, size, follow_renumber]
      simp only [isOwn]
      split
      next => rfl
      next => split <;> rfl
  | parser identity body induction => exact induction ⟨.parser identity, []⟩

theorem resolveRule (injective : Function.Injective rename) (rules : Rules ω ρ) (free : Nat)
    (name : String) :
    Renames rename (resolveRule rules free name)
      (Grammar.resolveRule (fun name => (rules name).renumber rename) free name) := by
  induction free generalizing name with
  | zero => exact unfold (.rule name) (some name) fun _ _ => rfl
  | succ free induction =>
      exact unfold (.rule name) (some name) fun place => resolveAt injective induction _ place

end Renames

/-- What is resolved under one number is resolved to the same under another. -/
theorem resolve_renumber (injective : Function.Injective rename) (rules : Rules ω ρ)
    (g : Grammar ω ρ) (place : Place) (reference : Reference ω ρ) :
    (g.renumber rename).resolve (fun name => (rules name).renumber rename) place
        (reference.renumber rename) =
      ((g.resolve rules place reference).1,
        (g.resolve rules place reference).2.renumber rename) := by
  have renames := Renames.resolveAt injective
    (Renames.resolveRule injective rules (capacity - g.size)) reference place g
  have size : (g.renumber rename).size = g.size := rfl
  rw [Grammar.resolve, Grammar.resolve, size, renames]
  cases (resolveAt (resolveRule rules (capacity - g.size)) reference place).run.run g with
  | mk result g' =>
      cases result with
      | error error => rfl
      | ok id => simp only [follow_renumber]

end Grammar

end Packrat
