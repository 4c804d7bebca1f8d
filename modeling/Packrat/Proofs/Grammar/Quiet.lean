import Packrat.Proofs.Grammar.Failure

/-!
# Failures that leave nothing

A resolution that fails in an empty grammar leaves nothing but serial numbers of
unfoldings, since everything it has noted is undone.  The whole-input form of a node
unfolds nothing and has no literals or sequences in it, so where it cannot be resolved the
grammar is left as it was.
-/

namespace Packrat

namespace Grammar

variable {ω ρ : Type}

/-- The later grammar has unfolded nothing, and has noted no literals and no sequences. -/
structure SameNotes (g g' : Grammar ω ρ) : Prop where
  literals : g'.literals = g.literals
  sequences : g'.sequences = g.sequences
  unfoldings : g'.unfoldings = g.unfoldings

theorem SameNotes.refl (g : Grammar ω ρ) : SameNotes g g := ⟨rfl, rfl, rfl⟩

theorem SameNotes.trans {g middle g' : Grammar ω ρ} (first : SameNotes g middle)
    (second : SameNotes middle g') : SameNotes g g' :=
  ⟨second.literals.trans first.literals, second.sequences.trans first.sequences,
    second.unfoldings.trans first.unfoldings⟩

theorem SameNotes.proceed {ε α β : Type} {g : Grammar ω ρ} {outcome : Except ε α × Grammar ω ρ}
    (same : SameNotes g outcome.2) {next : α → Grammar ω ρ → Except ε β × Grammar ω ρ}
    (nextSame : ∀ value g', SameNotes g' (next value g').2) :
    SameNotes g (proceed outcome next).2 := by
  obtain ⟨result, middle⟩ := outcome
  cases result with
  | error error => exact same
  | ok value => exact same.trans (nextSame value middle)

theorem sameNotes_noteNode (g : Grammar ω ρ) (own : Option Place) (slot : NodeId) :
    SameNotes g (g.widened.noteNode own slot) := by
  cases own <;> exact ⟨rfl, rfl, rfl⟩

theorem sameNotes_finish (g : Grammar ω ρ) (slot : NodeId) (blueprint : Blueprint ω ρ)
    (children : Vector NodeId blueprint.arity) :
    SameNotes g (g.finish slot blueprint children).2 := by
  rw [finish_eq]
  cases (g.keyOf blueprint children).bind g.shared.find? with
  | some existing => exact ⟨rfl, rfl, rfl⟩
  | none => cases g.keyOf blueprint children <;> exact ⟨rfl, rfl, rfl⟩

/-- The resolver unfolds nothing, and notes no literals and no sequences. -/
def Quiet {α : Type} (resolver : Resolver ω ρ α) : Prop :=
  ∀ g : Grammar ω ρ, SameNotes g (resolver.run.run g).2

namespace Quiet

theorem bind {α β : Type} {first : Resolver ω ρ α} {next : α → Resolver ω ρ β}
    (quiet : Quiet first) (nextQuiet : ∀ value, Quiet (next value)) : Quiet (first >>= next) := by
  intro g
  rw [run_bind]
  exact (quiet g).proceed nextQuiet

theorem ofFnM {α : Type} {count : Nat} {step : Fin count → Resolver ω ρ α}
    (quiet : ∀ index, Quiet (step index)) : Quiet (Vector.ofFnM step) := by
  induction count with
  | zero =>
      rw [Vector.ofFnM_zero]
      exact .refl
  | succ count induction =>
      rw [Vector.ofFnM_succ]
      refine (induction fun index => quiet index.castSucc).bind fun given => ?_
      exact (quiet (Fin.last count)).bind fun last => .refl

theorem resolveChild {child : Resolver ω ρ NodeId} (quiet : Quiet child) (name : String) :
    Quiet (resolveChild name child) := by
  intro g
  rw [run_resolveChild]
  have after := quiet g
  revert after
  cases child.run.run g with
  | mk result later => cases result <;> exact id

theorem resolveNode (own : Option Place) {blueprint : Blueprint ω ρ}
    {child : Fin blueprint.arity → Resolver ω ρ NodeId} (quiet : ∀ index, Quiet (child index)) :
    Quiet (resolveNode own blueprint child) := by
  intro g
  rw [run_resolveNode]
  cases own.bind g.nodes.find? with
  | some id => exact .refl g
  | none =>
      cases Index.next? g.size with
      | none => exact .refl g
      | some slot =>
          have children := ofFnM fun index => (quiet index).resolveChild blueprint.name
          refine (sameNotes_noteNode g own slot).trans ((children _).proceed ?_)
          exact fun given g' => sameNotes_finish g' slot blueprint given

theorem resolveHandle (number : Nat) (id : NodeId) :
    Quiet (resolveHandle number id : Resolver ω ρ NodeId) := by
  intro g
  rw [run_resolveHandle]
  split
  next => exact .refl g
  next => split <;> exact .refl g

/-- The whole-input form of a node is resolved without a note. -/
theorem consume (rule : String → Resolver ω ρ NodeId) (number : Nat) (id : NodeId) (place : Place) :
    Quiet (resolveAt rule (.consume (.handle number id)) place) := by
  refine resolveNode (some place) fun index => ?_
  match index with
  | 0 => exact resolveHandle number id
  | 1 => exact resolveNode (some _) fun index => index.elim0

end Quiet

/-! ## Grammars after failures -/

theorem postpone_postpone (place : Place) (delay more : Nat) :
    (place.postpone 0 delay).postpone 0 more = place.postpone 0 (delay + more) := by
  obtain ⟨_ | serial | _, path⟩ := place
  · rfl
  · simp [Place.postpone, Origin.postpone, Nat.add_assoc]
  · rfl

theorem postpone_zero (place : Place) : place.postpone 0 0 = place := by
  obtain ⟨_ | serial | _, path⟩ := place
  · rfl
  · simp [Place.postpone, Origin.postpone]
  · rfl

theorem Echoes.refl (g : Grammar ω ρ) : Echoes 0 0 g g where
  number := rfl
  kind := rfl
  slots := rfl
  shared _ := rfl
  nodes place := by rw [postpone_zero]
  thunks thunk := by
    cases thunk with
    | rule name => rfl
    | delayed place => rw [Thunk.postpone, postpone_zero]
  literals _ := rfl
  sequences place := by rw [postpone_zero]
  mark_le := Nat.zero_le _
  unfoldings := rfl

theorem Echoes.trans {delay more : Nat} {g middle g' : Grammar ω ρ}
    (first : Echoes 0 delay g middle) (second : Echoes 0 more middle g') :
    Echoes 0 (delay + more) g g' where
  number := second.number.trans first.number
  kind := second.kind.trans first.kind
  slots := second.slots.trans first.slots
  shared key := (second.shared key).trans (first.shared key)
  nodes place := by rw [← postpone_postpone, second.nodes, first.nodes]
  thunks thunk := by
    have composed : thunk.postpone 0 (delay + more) =
        (thunk.postpone 0 delay).postpone 0 more := by
      cases thunk with
      | rule name => rfl
      | delayed place => exact congrArg Thunk.delayed (postpone_postpone place delay more).symm
    rw [composed, second.thunks, first.thunks]
  literals l := (second.literals l).trans (first.literals l)
  sequences place := by rw [← postpone_postpone, second.sequences, first.sequences]
  mark_le := Nat.zero_le _
  unfoldings := by
    rw [second.unfoldings, first.unfoldings, Nat.add_assoc]

/-- A failure in an empty grammar leaves nothing but serial numbers. -/
theorem echoes_of_empty {number : Nat} {kind : InputKind} {rules : Rules ω ρ} {place : Place}
    {reference : Reference ω ρ} {error : ResolveError}
    (fails : ((empty number kind).resolve rules place reference).1 = .error error) :
    ∃ delay, Echoes 0 delay (empty number kind)
      ((empty number kind).resolve rules place reference).2 := by
  rcases resolve_resolves rules (empty number kind) place reference with
    ⟨id, g', resolved, _⟩ | ⟨_, g', resolved, resolves⟩
  · rw [resolved] at fails
    cases fails
  · obtain ⟨grows, tidyThen, _⟩ := resolves.keeps (.empty number kind)
    obtain ⟨_, _, _, literals, sequences⟩ := tidyThen.unique
    rw [resolved]
    refine ⟨_, grows.echoes_rollback (.empty number kind) tidyThen (.empty number kind) ?_ ?_⟩
    · intro l
      rw [rollback, Table.find?_keep literals]
      exact Option.filter_eq_none_iff.mpr fun _ _ => by simp [size, empty]
    · intro place
      rw [rollback, Table.find?_keep sequences]
      exact Option.filter_eq_none_iff.mpr fun _ _ => by simp [size, empty]

/-- A whole-input form that cannot be resolved leaves nothing at all. -/
theorem Tidy.echoes_of_consume {g : Grammar ω ρ} (tidy : g.Tidy) {rules : Rules ω ρ}
    {place : Place} {root : NodeId} {error : ResolveError}
    (fails : (g.resolve rules place (.consume (g.handle root))).1 = .error error) :
    Echoes 0 0 g (g.resolve rules place (.consume (g.handle root))).2 := by
  have same := Quiet.consume (resolveRule rules (capacity - g.size)) g.number (g.follow root)
    place g
  rcases resolve_extended rules g place (.consume (g.handle root)) with
    ⟨_, resolved, _⟩ | ⟨_, resolved, resolves⟩
  · rw [resolved] at fails
    cases fails
  · obtain ⟨grows, tidyThen, _⟩ := resolves.keeps tidy
    obtain ⟨_, _, _, literals, sequences⟩ := tidyThen.unique
    rw [resolved]
    change SameNotes g (g.extended rules place (.consume (g.handle root))) at same
    exact
      { Echoes.refl g with
        number := grows.number
        kind := grows.kind
        slots := grows.slots_rollback
        shared := grows.shared_rollback tidy tidyThen
        nodes := fun place => by rw [grows.nodes_rollback tidy tidyThen, postpone_zero]
        thunks := fun thunk => by
          rw [grows.thunks_rollback tidy tidyThen, (Echoes.refl g).thunks]
        literals := by
          apply Table.Adds.find?_keep _ literals tidy.literals
          rw [same.literals]
          exact .refl _ _
        sequences := fun place => by
          rw [postpone_zero]
          apply Table.Adds.find?_keep _ sequences tidy.sequences
          rw [same.sequences]
          exact .refl _ _
        unfoldings := congrArg List.length same.unfoldings }

end Grammar

end Packrat
