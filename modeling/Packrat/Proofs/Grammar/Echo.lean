import Packrat.Proofs.Grammar.Tidy

/-!
# Grammars that differ in how often rules were unfolded

The serial numbers of unfoldings are in the places where bodies are written, and nowhere
else.  If one grammar has unfolded more than another, the serial numbers from some mark on
are put off, and otherwise both grammars resolve everything in the same way.
-/

namespace Packrat

/-- The origin with a later serial number, if it is an unfolding from a mark on. -/
def Origin.postpone (mark delay : Nat) : Origin → Origin
  | .unfolding serial => .unfolding (if serial < mark then serial else serial + delay)
  | .parser identity => .parser identity
  | .consumer root => .consumer root

def Place.postpone (mark delay : Nat) (place : Place) : Place :=
  { place with origin := place.origin.postpone mark delay }

def Thunk.postpone (mark delay : Nat) : Thunk → Thunk
  | .rule name => .rule name
  | .delayed place => .delayed (place.postpone mark delay)

section

variable (mark delay : Nat)

theorem Origin.postpone_injective : Function.Injective (Origin.postpone mark delay) := by
  intro origin other same
  cases origin <;> cases other <;> simp only [postpone, reduceCtorEq] at same
  next => exact same
  next serial another =>
    injection same with same
    congr 1
    split at same <;> split at same <;> omega
  next => exact same

theorem Place.postpone_injective : Function.Injective (Place.postpone mark delay) := by
  rintro ⟨origin, path⟩ ⟨other, another⟩ same
  injection same with sameOrigin samePath
  exact congrArg₂ Place.mk (Origin.postpone_injective mark delay sameOrigin) samePath

theorem Thunk.postpone_injective : Function.Injective (Thunk.postpone mark delay) := by
  intro thunk other same
  cases thunk <;> cases other <;> simp only [postpone, reduceCtorEq] at same
  next => exact same
  next =>
    injection same with same
    rw [Place.postpone_injective mark delay same]

end

theorem Table.find?_insert_of_injective {κ ι α : Type} [DecidableEq κ] [DecidableEq ι]
    {rename : κ → ι} (injective : Function.Injective rename) {table : Table κ α}
    {later : Table ι α} (same : ∀ key, later.find? (rename key) = table.find? key) (key : κ)
    (value : α) (other : κ) :
    (later.insert (rename key) value).find? (rename other) =
      (table.insert key value).find? other := by
  simp only [find?_insert, injective.eq_iff, same]

namespace Grammar

variable {ω ρ : Type} {mark delay : Nat}

/-- The second grammar is as the first, but for the unfoldings from a mark on, which have
later serial numbers. -/
structure Echoes (mark delay : Nat) (g h : Grammar ω ρ) : Prop where
  number : h.number = g.number
  kind : h.kind = g.kind
  slots : h.slots = g.slots
  shared : ∀ key, h.shared.find? key = g.shared.find? key
  nodes : ∀ place, h.nodes.find? (place.postpone mark delay) = g.nodes.find? place
  thunks : ∀ thunk, h.thunks.find? (thunk.postpone mark delay) = g.thunks.find? thunk
  literals : ∀ l, h.literals.find? l = g.literals.find? l
  sequences : ∀ place, h.sequences.find? (place.postpone mark delay) = g.sequences.find? place
  mark_le : mark ≤ g.unfoldings.length
  unfoldings : h.unfoldings.length = g.unfoldings.length + delay

namespace Echoes

variable {g h : Grammar ω ρ} (echoes : Echoes mark delay g h)

include echoes

theorem size : h.size = g.size := by
  rw [Grammar.size, echoes.slots, Grammar.size]

theorem follow (id : NodeId) : h.follow id = g.follow id := follow_congr echoes.slots id

theorem noteNode (own : Option Place) (slot : NodeId) :
    Echoes mark delay (g.widened.noteNode own slot)
      (h.widened.noteNode (own.map (Place.postpone mark delay)) slot) := by
  have wide : Echoes mark delay g.widened h.widened :=
    { echoes with slots := by rw [widened, widened, echoes.slots] }
  cases own with
  | none => exact wide
  | some place =>
      exact { wide with
        nodes := Table.find?_insert_of_injective (Place.postpone_injective mark delay)
          echoes.nodes place slot }

theorem noteThunk (thunk : Thunk) (label : Option String) (slot : NodeId) :
    Echoes mark delay (g.widened.noteThunk thunk label slot)
      (h.widened.noteThunk (thunk.postpone mark delay) label slot) :=
  { echoes with
    slots := by
      show h.slots.push .reserved = g.slots.push .reserved
      rw [echoes.slots]
    thunks := Table.find?_insert_of_injective (Thunk.postpone_injective mark delay)
      echoes.thunks thunk slot
    mark_le := Nat.le_succ_of_le echoes.mark_le
    unfoldings := by
      show h.unfoldings.length + 1 = g.unfoldings.length + 1 + delay
      rw [echoes.unfoldings]
      omega }

theorem noteLiteral (l : Literal) (id : NodeId) :
    Echoes mark delay (g.noteLiteral l id) (h.noteLiteral l id) :=
  { echoes with
    literals := Table.find?_insert_of_injective Function.injective_id echoes.literals l id }

theorem noteSequence (place : Place) (id : NodeId) :
    Echoes mark delay (g.noteSequence place id)
      (h.noteSequence (place.postpone mark delay) id) :=
  { echoes with
    sequences := Table.find?_insert_of_injective (Place.postpone_injective mark delay)
      echoes.sequences place id }

theorem fill (slot : NodeId) (content : Slot ω ρ) :
    Echoes mark delay (g.fill slot content) (h.fill slot content) :=
  { echoes with slots := by rw [Grammar.fill, Grammar.fill, echoes.slots] }

theorem share (key : Option String) (slot : NodeId) :
    Echoes mark delay (g.share key slot) (h.share key slot) := by
  cases key with
  | none => exact echoes
  | some key =>
      exact { echoes with
        shared := Table.find?_insert_of_injective Function.injective_id echoes.shared key slot }

theorem finish (slot : NodeId) (blueprint : Blueprint ω ρ)
    (children : Vector NodeId blueprint.arity) :
    (g.finish slot blueprint children).1 = (h.finish slot blueprint children).1 ∧
      Echoes mark delay (g.finish slot blueprint children).2
        (h.finish slot blueprint children).2 := by
  have looked : (h.keyOf blueprint children).bind h.shared.find? =
      (g.keyOf blueprint children).bind g.shared.find? := by
    rw [keyOf_congr echoes.slots, show h.shared.find? = g.shared.find? from funext echoes.shared]
  rw [finish_eq, finish_eq, looked, keyOf_congr echoes.slots, assembled_congr echoes.slots]
  cases (g.keyOf blueprint children).bind g.shared.find? with
  | some existing => exact ⟨rfl, echoes.fill _ _⟩
  | none => exact ⟨rfl, (echoes.share _ _).fill _ _⟩

theorem rollback (tidy : g.Tidy) (tidyThen : h.Tidy) (count : Nat) :
    Echoes mark delay (g.rollback count) (h.rollback count) := by
  obtain ⟨shared, nodes, thunks, literals, sequences⟩ := tidy.unique
  obtain ⟨sharedThen, nodesThen, thunksThen, literalsThen, sequencesThen⟩ := tidyThen.unique
  constructor
  · exact echoes.number
  · exact echoes.kind
  · rw [Grammar.rollback, Grammar.rollback, echoes.slots]
  · intro key
    simp only [Grammar.rollback, Table.find?_keep sharedThen, Table.find?_keep shared,
      echoes.shared]
  · intro place
    simp only [Grammar.rollback, Table.find?_keep nodesThen, Table.find?_keep nodes,
      echoes.nodes]
  · intro thunk
    simp only [Grammar.rollback, Table.find?_keep thunksThen, Table.find?_keep thunks,
      echoes.thunks]
  · intro l
    simp only [Grammar.rollback, Table.find?_keep literalsThen, Table.find?_keep literals,
      echoes.literals]
  · intro place
    simp only [Grammar.rollback, Table.find?_keep sequencesThen, Table.find?_keep sequences,
      echoes.sequences]
  · exact echoes.mark_le
  · exact echoes.unfoldings

end Echoes

/-! ## Resolving in step -/

/-- Two outcomes that are the same, in grammars that are. -/
def InStep (mark delay : Nat) {ε α : Type} (outcome other : Except ε α × Grammar ω ρ) : Prop :=
  outcome.1 = other.1 ∧ Echoes mark delay outcome.2 other.2

/-- Two resolvers that come to the same in grammars that are the same. -/
def Agree (mark delay : Nat) {α : Type} (resolver other : Resolver ω ρ α) : Prop :=
  ∀ g h, Echoes mark delay g h → InStep mark delay (resolver.run.run g) (other.run.run h)

theorem InStep.proceed {ε α β : Type} {outcome other : Except ε α × Grammar ω ρ}
    (inStep : InStep mark delay outcome other)
    {next nextOther : α → Grammar ω ρ → Except ε β × Grammar ω ρ}
    (nextInStep : ∀ value g h, Echoes mark delay g h →
      InStep mark delay (next value g) (nextOther value h)) :
    InStep mark delay (proceed outcome next) (proceed other nextOther) := by
  obtain ⟨result, g⟩ := outcome
  obtain ⟨_, h⟩ := other
  obtain ⟨rfl, echoes⟩ := inStep
  cases result with
  | error error => exact ⟨rfl, echoes⟩
  | ok value => exact nextInStep value g h echoes

theorem Agree.bind {α β : Type} {first other : Resolver ω ρ α} {next nextOther : α → Resolver ω ρ β}
    (agree : Agree mark delay first other)
    (nextAgree : ∀ value, Agree mark delay (next value) (nextOther value)) :
    Agree mark delay (first >>= next) (other >>= nextOther) := by
  intro g h echoes
  rw [run_bind, run_bind]
  exact (agree g h echoes).proceed nextAgree

theorem Agree.pure {α : Type} (value : α) :
    Agree mark delay (Pure.pure value : Resolver ω ρ α) (Pure.pure value) :=
  fun _ _ echoes => ⟨rfl, echoes⟩

theorem Agree.ofFnM {α : Type} {count : Nat} {step other : Fin count → Resolver ω ρ α}
    (agree : ∀ index, Agree mark delay (step index) (other index)) :
    Agree mark delay (Vector.ofFnM step) (Vector.ofFnM other) := by
  induction count with
  | zero =>
      rw [Vector.ofFnM_zero, Vector.ofFnM_zero]
      exact .pure _
  | succ count induction =>
      rw [Vector.ofFnM_succ, Vector.ofFnM_succ]
      refine (induction fun index => agree index.castSucc).bind fun given => ?_
      exact (agree (Fin.last count)).bind fun last => .pure _

theorem Agree.resolveChild {child other : Resolver ω ρ NodeId}
    (agree : Agree mark delay child other) (name : String) :
    Agree mark delay (resolveChild name child) (resolveChild name other) := by
  intro g h echoes
  rw [run_resolveChild, run_resolveChild]
  obtain ⟨same, echoesThen⟩ := agree g h echoes
  revert same echoesThen
  cases child.run.run g with
  | mk result g' =>
      cases other.run.run h with
      | mk otherResult h' =>
          rintro rfl echoesThen
          cases result with
          | error error => exact ⟨rfl, echoesThen⟩
          | ok id => exact ⟨congrArg Except.ok (echoesThen.follow id).symm, echoesThen⟩

theorem Agree.resolveNode (own : Option Place) {blueprint : Blueprint ω ρ}
    {child other : Fin blueprint.arity → Resolver ω ρ NodeId}
    (agree : ∀ index, Agree mark delay (child index) (other index)) :
    Agree mark delay (resolveNode own blueprint child)
      (resolveNode (own.map (Place.postpone mark delay)) blueprint other) := by
  intro g h echoes
  have looked : (own.map (Place.postpone mark delay)).bind h.nodes.find? =
      own.bind g.nodes.find? := by
    cases own with
    | none => rfl
    | some place => exact echoes.nodes place
  rw [run_resolveNode, run_resolveNode, looked, echoes.size]
  cases own.bind g.nodes.find? with
  | some id => exact ⟨rfl, echoes⟩
  | none =>
      cases Index.next? g.size with
      | none => exact ⟨rfl, echoes⟩
      | some slot =>
          have children := Agree.ofFnM fun index => (agree index).resolveChild blueprint.name
          apply (children _ _ (echoes.noteNode own slot)).proceed
          intro given g h echoes
          obtain ⟨same, echoesThen⟩ := echoes.finish slot blueprint given
          exact ⟨congrArg Except.ok same, echoesThen⟩

theorem Agree.resolveLiteral (l : Literal) :
    Agree mark delay (resolveLiteral l : Resolver ω ρ NodeId) (resolveLiteral l) := by
  intro g h echoes
  rw [run_resolveLiteral, run_resolveLiteral, echoes.literals, echoes.kind]
  cases g.literals.find? l with
  | some id => exact ⟨rfl, echoes⟩
  | none =>
      cases (l.blueprint? g.kind : Except String (Blueprint ω ρ)) with
      | error message => exact ⟨rfl, echoes⟩
      | ok blueprint =>
          have leaf : Agree mark delay
              (Grammar.resolveNode none blueprint fun _ => throw .selfReference)
              (Grammar.resolveNode none blueprint fun _ => throw .selfReference) :=
            .resolveNode none fun _ _ _ echoes => ⟨rfl, echoes⟩
          apply (leaf g h echoes).proceed
          intro id g h echoes
          rw [echoes.follow]
          exact ⟨rfl, echoes.noteLiteral l _⟩

theorem Agree.unfold (thunk : Thunk) {label : Option String}
    {body other : Place → Resolver ω ρ NodeId}
    (agree : ∀ place, Agree mark delay (body place) (other (place.postpone mark delay))) :
    Agree mark delay (unfold thunk label body)
      (unfold (thunk.postpone mark delay) label other) := by
  intro g h echoes
  rw [run_unfold, run_unfold, echoes.thunks, echoes.size]
  cases g.thunks.find? thunk with
  | some id => exact ⟨rfl, echoes⟩
  | none =>
      cases Index.next? g.size with
      | none => exact ⟨rfl, echoes⟩
      | some slot =>
          have later : (⟨.unfolding h.unfoldings.length, []⟩ : Place) =
              Place.postpone mark delay ⟨.unfolding g.unfoldings.length, []⟩ := by
            rw [Place.postpone, Origin.postpone, if_neg (Nat.not_lt.mpr echoes.mark_le),
              echoes.unfoldings]
          rw [later]
          apply (agree _ _ _ (echoes.noteThunk thunk label slot)).proceed
          intro target g h echoes
          rw [echoes.follow]
          split
          next => exact ⟨rfl, echoes⟩
          next => exact ⟨rfl, echoes.fill slot _⟩

theorem Agree.resolveAt {rule other : String → Resolver ω ρ NodeId}
    (agree : ∀ name, Agree mark delay (rule name) (other name)) (reference : Reference ω ρ)
    (place : Place) :
    Agree mark delay (resolveAt rule reference place)
      (resolveAt other reference (place.postpone mark delay)) := by
  induction reference generalizing place with
  | node blueprint children induction =>
      exact .resolveNode (some place) fun index => induction index (place.child index)
  | literal l => exact .resolveLiteral l
  | sequence count parts induction =>
      intro g h echoes
      rw [run_resolveSequence, run_resolveSequence, echoes.sequences]
      cases g.sequences.find? place with
      | some id => exact ⟨rfl, echoes⟩
      | none =>
          have node : Agree mark delay
              (Grammar.resolveNode none (.sequence count) fun index =>
                Grammar.resolveAt rule (parts index) (place.child index))
              (Grammar.resolveNode none (.sequence count) fun index =>
                Grammar.resolveAt other (parts index)
                  ((place.postpone mark delay).child index)) :=
            .resolveNode none fun index => induction index (place.child index)
          apply (node g h echoes).proceed
          intro id g h echoes
          exact ⟨rfl, echoes.noteSequence place id⟩
  | rule name => exact agree name
  | delayed label body induction => exact .unfold (.delayed place) induction
  | handle number id =>
      intro g h echoes
      rw [Grammar.resolveAt, Grammar.resolveAt, run_resolveHandle, run_resolveHandle,
        echoes.number, echoes.size, echoes.follow]
      split
      next => exact ⟨rfl, echoes⟩
      next => split <;> exact ⟨rfl, echoes⟩
  | parser identity body induction => exact induction ⟨.parser identity, []⟩

theorem Agree.resolveRule (rules : Rules ω ρ) (free : Nat) (name : String) :
    Agree mark delay (resolveRule rules free name) (resolveRule rules free name) := by
  induction free generalizing name with
  | zero => exact .unfold (.rule name) fun _ _ _ echoes => ⟨rfl, echoes⟩
  | succ free induction =>
      exact .unfold (.rule name) fun place => .resolveAt induction (rules name) place

theorem Tidy.extended {g : Grammar ω ρ} (tidy : g.Tidy) (rules : Rules ω ρ) (place : Place)
    (reference : Reference ω ρ) : (g.extended rules place reference).Tidy := by
  rcases resolve_extended rules g place reference with ⟨_, _, resolves⟩ | ⟨_, _, resolves⟩
  · exact (resolves.keeps tidy).2.1
  · exact (resolves.keeps tidy).2.1

/-- What is resolved in one grammar is resolved to the same in the other. -/
theorem Echoes.resolve {g h : Grammar ω ρ} (echoes : Echoes mark delay g h) (tidy : g.Tidy)
    (tidyThen : h.Tidy) (rules : Rules ω ρ) (place : Place) (reference : Reference ω ρ) :
    InStep mark delay (g.resolve rules place reference)
      (h.resolve rules (place.postpone mark delay) reference) := by
  have agree : Agree mark delay _ _ :=
    .resolveAt (.resolveRule rules (capacity - g.size)) reference place
  obtain ⟨same, echoesThen⟩ := agree g h echoes
  have tidyLast := tidy.extended rules place reference
  have tidyOther := tidyThen.extended rules (place.postpone mark delay) reference
  unfold Grammar.extended at tidyLast tidyOther
  unfold Grammar.resolve
  rw [echoes.size] at tidyOther ⊢
  revert same echoesThen tidyLast tidyOther
  cases (Grammar.resolveAt (Grammar.resolveRule rules (capacity - g.size)) reference
      place).run.run g with
  | mk result g' =>
      cases (Grammar.resolveAt (Grammar.resolveRule rules (capacity - g.size)) reference
          (place.postpone mark delay)).run.run h with
      | mk other h' =>
          rintro rfl echoesThen tidyLast tidyOther
          cases result with
          | error error => exact ⟨rfl, echoesThen.rollback tidyLast tidyOther g.size⟩
          | ok id => exact ⟨congrArg Except.ok (echoesThen.follow id).symm, echoesThen⟩

end Grammar

end Packrat
