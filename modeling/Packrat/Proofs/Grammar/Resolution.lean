import Packrat.Proofs.Grammar.Slots
import Mathlib.Logic.Function.Basic

/-!
# What resolving does

`Resolves` says everything that resolving a reference, making a node and unfolding a rule
can do to a grammar, step by step and apart from the monad that the steps are written in.
What is true of every resolution is proved by induction on it.
-/

namespace Packrat

/-! ## Building a vector step by step -/

section

variable {ε σ α β : Type}

/-- Carries on from where a step ended, if it succeeded. -/
def proceed (outcome : Except ε α × σ) (next : α → σ → Except ε β × σ) : Except ε β × σ :=
  match outcome with
  | (.ok value, state) => next value state
  | (.error error, state) => (.error error, state)

@[simp] theorem proceed_ok (value : α) (state : σ) (next : α → σ → Except ε β × σ) :
    proceed (.ok value, state) next = next value state := rfl

@[simp] theorem proceed_error (error : ε) (state : σ) (next : α → σ → Except ε β × σ) :
    proceed (.error error, state) next = (.error error, state) := rfl

theorem run_bind (first : ExceptT ε (StateM σ) α) (next : α → ExceptT ε (StateM σ) β)
    (state : σ) :
    (first >>= next).run.run state =
      proceed (first.run.run state) fun value state => (next value).run.run state := by
  simp only [ExceptT.run_bind, StateT.run_bind]
  show (match first.run.run state with | (result, state) => _) = _
  cases first.run.run state with
  | mk result later => cases result <;> rfl

/-- What comes of steps that are taken in turn and may fail: each one succeeds, or some
step fails after all those before it have succeeded. -/
theorem ofFnM_run [Inhabited α] {count : Nat} (step : Fin count → ExceptT ε (StateM σ) α)
    (state : σ) :
    (∃ (states : Nat → σ) (values : Nat → α), states 0 = state ∧
      (∀ index : Fin count, (step index).run.run (states index) =
        (.ok (values index), states (index + 1))) ∧
      (Vector.ofFnM step).run.run state = (.ok (.ofFn fun index => values index), states count)) ∨
    (∃ (states : Nat → σ) (values : Nat → α) (failed : Fin count) (error : ε) (last : σ),
      states 0 = state ∧
      (∀ index : Fin count, index < failed → (step index).run.run (states index) =
        (.ok (values index), states (index + 1))) ∧
      (step failed).run.run (states failed) = (.error error, last) ∧
      (Vector.ofFnM step).run.run state = (.error error, last)) := by
  induction count with
  | zero =>
      refine .inl ⟨fun _ => state, default, rfl, nofun, ?_⟩
      rw [Vector.ofFnM_zero]
      rfl
  | succ count induction =>
      rw [Vector.ofFnM_succ, run_bind]
      rcases induction fun index => step index.castSucc with
        ⟨states, values, begins, steps, ends⟩ |
        ⟨states, values, failed, error, last, begins, steps, fails, ends⟩
      · rw [ends, proceed_ok, run_bind]
        cases final : (step (Fin.last count)).run.run (states count) with
        | mk result after =>
            cases result with
            | ok value =>
                refine .inl ⟨Function.update states (count + 1) after,
                  Function.update values count value, ?_, ?_, ?_⟩
                · rw [Function.update_of_ne (by omega), begins]
                · refine Fin.lastCases ?_ fun index => ?_
                  · rw [Function.update_of_ne (by simp), Fin.val_last,
                      Function.update_self, Function.update_self, final]
                  · have := index.isLt
                    rw [Function.update_of_ne (by simp; omega),
                      Function.update_of_ne (by simp; omega),
                      Function.update_of_ne (by simp; omega)]
                    exact steps index
                · have others : ∀ index : Fin count, Function.update values count value
                      index.castSucc = values index := by
                    intro index
                    have := index.isLt
                    exact Function.update_of_ne (by simp; omega) _ _
                  rw [Function.update_self, Vector.ofFn_succ]
                  simp only [others, Function.update_self]
                  rfl
            | error error =>
                refine .inr ⟨states, values, Fin.last count, error, after, begins, ?_, final, rfl⟩
                intro index before
                exact steps ⟨index, before⟩
      · rw [ends]
        refine .inr ⟨states, values, failed.castSucc, error, last, begins, ?_, fails, rfl⟩
        intro index before
        exact steps ⟨index, Nat.lt_trans before failed.isLt⟩ before

/-- What every step keeps still holds after all of them. -/
theorem holds_after_steps {states : Nat → σ} {count : Nat} (holds : σ → Prop)
    (begins : holds (states 0))
    (steps : ∀ index : Fin count, holds (states index) → holds (states (index + 1))) :
    holds (states count) :=
  Fin.induction (motive := fun index => holds (states index)) begins steps (Fin.last count)

end

namespace Grammar

variable {ω ρ : Type}

/-- Something to be resolved. -/
inductive Errand (ω ρ : Type) where
  /-- What is written at a place. -/
  | written (reference : Reference ω ρ) (place : Place)
  /-- A new node of a kind, which is noted at a place if it has one of its own.  Its
  children are written below `place`. -/
  | node (own : Option Place) (blueprint : Blueprint ω ρ)
    (children : Fin blueprint.arity → Reference ω ρ) (place : Place)
  /-- A rule or a delayed parser with a body. -/
  | unfolding (thunk : Thunk) (label : Option String) (body : Reference ω ρ)

/-- Notes the slot of a node that has a place of its own. -/
def noteNode (g : Grammar ω ρ) (own : Option Place) (slot : NodeId) : Grammar ω ρ :=
  match own with
  | some place => { g with nodes := g.nodes.insert place slot }
  | none => g

/-- Notes the slot of a rule or a delayed parser that is being unfolded. -/
def noteThunk (g : Grammar ω ρ) (thunk : Thunk) (label : Option String) (slot : NodeId) :
    Grammar ω ρ :=
  { g with
    thunks := g.thunks.insert thunk slot
    unfoldings := label :: g.unfoldings }

def noteLiteral (g : Grammar ω ρ) (l : Literal) (id : NodeId) : Grammar ω ρ :=
  { g with literals := g.literals.insert l id }

def noteSequence (g : Grammar ω ρ) (place : Place) (id : NodeId) : Grammar ω ρ :=
  { g with sequences := g.sequences.insert place id }

/-- Everything that an errand can do to a grammar, and what it comes to. -/
inductive Resolves (rules : Rules ω ρ) :
    Errand ω ρ → Grammar ω ρ → Except ResolveError NodeId → Grammar ω ρ → Prop where
  | known_node {g : Grammar ω ρ} {blueprint : Blueprint ω ρ}
      {children : Fin blueprint.arity → Reference ω ρ} {place : Place} {id : NodeId} :
      g.nodes.find? place = some id →
      Resolves rules (.written (.node blueprint children) place) g (.ok id) g
  | new_node {g g' : Grammar ω ρ} {blueprint : Blueprint ω ρ}
      {children : Fin blueprint.arity → Reference ω ρ} {place : Place}
      {result : Except ResolveError NodeId} :
      g.nodes.find? place = none →
      Resolves rules (.node (some place) blueprint children place) g result g' →
      Resolves rules (.written (.node blueprint children) place) g result g'
  | known_literal {g : Grammar ω ρ} {l : Literal} {place : Place} {id : NodeId} :
      g.literals.find? l = some id →
      Resolves rules (.written (.literal l) place) g (.ok id) g
  | refused_literal {g : Grammar ω ρ} {l : Literal} {place : Place} {message : String} :
      g.literals.find? l = none →
      (l.blueprint? g.kind : Except String (Blueprint ω ρ)) = .error message →
      Resolves rules (.written (.literal l) place) g (.error (.literal message)) g
  | new_literal {g g' : Grammar ω ρ} {l : Literal} {blueprint : Blueprint ω ρ}
      {children : Fin blueprint.arity → Reference ω ρ} {place : Place} {id : NodeId} :
      g.literals.find? l = none →
      l.blueprint? g.kind = .ok blueprint →
      Resolves rules (.node none blueprint children place) g (.ok id) g' →
      Resolves rules (.written (.literal l) place) g (.ok (g'.follow id))
        (g'.noteLiteral l (g'.follow id))
  | failed_literal {g g' : Grammar ω ρ} {l : Literal} {blueprint : Blueprint ω ρ}
      {children : Fin blueprint.arity → Reference ω ρ} {place : Place} {error : ResolveError} :
      g.literals.find? l = none →
      l.blueprint? g.kind = .ok blueprint →
      Resolves rules (.node none blueprint children place) g (.error error) g' →
      Resolves rules (.written (.literal l) place) g (.error error) g'
  | known_sequence {g : Grammar ω ρ} {count : Nat} {parts : Fin count → Reference ω ρ}
      {place : Place} {id : NodeId} :
      g.sequences.find? place = some id →
      Resolves rules (.written (.sequence count parts) place) g (.ok id) g
  | new_sequence {g g' : Grammar ω ρ} {count : Nat} {parts : Fin count → Reference ω ρ}
      {place : Place} {id : NodeId} :
      g.sequences.find? place = none →
      Resolves rules (.node none (.sequence count) parts place) g (.ok id) g' →
      Resolves rules (.written (.sequence count parts) place) g (.ok id)
        (g'.noteSequence place id)
  | failed_sequence {g g' : Grammar ω ρ} {count : Nat} {parts : Fin count → Reference ω ρ}
      {place : Place} {error : ResolveError} :
      g.sequences.find? place = none →
      Resolves rules (.node none (.sequence count) parts place) g (.error error) g' →
      Resolves rules (.written (.sequence count parts) place) g (.error error) g'
  | rule {g g' : Grammar ω ρ} {name : String} {place : Place}
      {result : Except ResolveError NodeId} :
      Resolves rules (.unfolding (.rule name) (some name) (rules name)) g result g' →
      Resolves rules (.written (.rule name) place) g result g'
  | delayed {g g' : Grammar ω ρ} {label : Option String} {body : Reference ω ρ}
      {place : Place} {result : Except ResolveError NodeId} :
      Resolves rules (.unfolding (.delayed place) label body) g result g' →
      Resolves rules (.written (.delayed label body) place) g result g'
  | parser {g g' : Grammar ω ρ} {identity : Nat} {body : Reference ω ρ} {place : Place}
      {result : Except ResolveError NodeId} :
      Resolves rules (.written body ⟨.parser identity, []⟩) g result g' →
      Resolves rules (.written (.parser identity body) place) g result g'
  | foreign_handle {g : Grammar ω ρ} {number : Nat} {id : NodeId} {place : Place} :
      number ≠ g.number →
      Resolves rules (.written (.handle number id) place) g (.error (.foreignNode id)) g
  | own_handle {g : Grammar ω ρ} {id : NodeId} {place : Place} :
      id.number < g.size →
      Resolves rules (.written (.handle g.number id) place) g (.ok (g.follow id)) g
  | unknown_handle {g : Grammar ω ρ} {id : NodeId} {place : Place} :
      g.size ≤ id.number →
      Resolves rules (.written (.handle g.number id) place) g (.error (.unknownNode id)) g
  | no_slot_for_node {g : Grammar ω ρ} {own : Option Place} {blueprint : Blueprint ω ρ}
      {children : Fin blueprint.arity → Reference ω ρ} {place : Place} :
      capacity ≤ g.size →
      Resolves rules (.node own blueprint children place) g (.error .tooManyNodes) g
  | failed_child {g g' : Grammar ω ρ} {own : Option Place} {blueprint : Blueprint ω ρ}
      {children : Fin blueprint.arity → Reference ω ρ} {place : Place} {slot : NodeId}
      {states : Nat → Grammar ω ρ} {ids : Fin blueprint.arity → NodeId}
      {failed : Fin blueprint.arity}
      {error : ResolveError} :
      own.bind g.nodes.find? = none →
      slot.number = g.size →
      states 0 = g.widened.noteNode own slot →
      (∀ index : Fin blueprint.arity, index < failed →
        Resolves rules (.written (children index) (place.child index)) (states index)
          (.ok (ids index)) (states (index + 1))) →
      Resolves rules (.written (children failed) (place.child failed)) (states failed)
        (.error error) g' →
      Resolves rules (.node own blueprint children place) g
        (.error (.inside blueprint.name error)) g'
  | made {g : Grammar ω ρ} {own : Option Place} {blueprint : Blueprint ω ρ}
      {children : Fin blueprint.arity → Reference ω ρ} {place : Place} {slot : NodeId}
      {states : Nat → Grammar ω ρ} {ids : Fin blueprint.arity → NodeId}
      {given : Vector NodeId blueprint.arity} :
      own.bind g.nodes.find? = none →
      slot.number = g.size →
      states 0 = g.widened.noteNode own slot →
      (∀ index : Fin blueprint.arity,
        Resolves rules (.written (children index) (place.child index)) (states index)
          (.ok (ids index)) (states (index + 1))) →
      (∀ index : Fin blueprint.arity,
        given.get index = (states (index + 1)).follow (ids index)) →
      Resolves rules (.node own blueprint children place) g
        (.ok ((states blueprint.arity).finish slot blueprint given).1)
        ((states blueprint.arity).finish slot blueprint given).2
  | known_thunk {g : Grammar ω ρ} {thunk : Thunk} {label : Option String}
      {body : Reference ω ρ} {id : NodeId} :
      g.thunks.find? thunk = some id →
      Resolves rules (.unfolding thunk label body) g (.ok id) g
  | no_slot_for_thunk {g : Grammar ω ρ} {thunk : Thunk} {label : Option String}
      {body : Reference ω ρ} :
      g.thunks.find? thunk = none →
      capacity ≤ g.size →
      Resolves rules (.unfolding thunk label body) g (.error .tooManyNodes) g
  | failed_body {g g' : Grammar ω ρ} {thunk : Thunk} {label : Option String}
      {body : Reference ω ρ} {slot : NodeId} {error : ResolveError} :
      g.thunks.find? thunk = none →
      slot.number = g.size →
      Resolves rules (.written body ⟨.unfolding g.unfoldings.length, []⟩)
        (g.widened.noteThunk thunk label slot) (.error error) g' →
      Resolves rules (.unfolding thunk label body) g (.error error) g'
  | circular {g g' : Grammar ω ρ} {thunk : Thunk} {label : Option String}
      {body : Reference ω ρ} {slot target : NodeId} :
      g.thunks.find? thunk = none →
      slot.number = g.size →
      Resolves rules (.written body ⟨.unfolding g.unfoldings.length, []⟩)
        (g.widened.noteThunk thunk label slot) (.ok target) g' →
      g'.follow target = slot →
      Resolves rules (.unfolding thunk label body) g (.error .selfReference) g'
  | unfolded {g g' : Grammar ω ρ} {thunk : Thunk} {label : Option String}
      {body : Reference ω ρ} {slot target : NodeId} :
      g.thunks.find? thunk = none →
      slot.number = g.size →
      Resolves rules (.written body ⟨.unfolding g.unfoldings.length, []⟩)
        (g.widened.noteThunk thunk label slot) (.ok target) g' →
      g'.follow target ≠ slot →
      Resolves rules (.unfolding thunk label body) g (.ok target)
        (g'.fill slot (.forward target))

@[simp] theorem slots_noteNode (g : Grammar ω ρ) (own : Option Place) (slot : NodeId) :
    (g.noteNode own slot).slots = g.slots := by
  cases own <;> rfl

@[simp] theorem size_noteNode (g : Grammar ω ρ) (own : Option Place) (slot : NodeId) :
    (g.noteNode own slot).size = g.size := by
  rw [size, slots_noteNode, size]

@[simp] theorem size_noteThunk (g : Grammar ω ρ) (thunk : Thunk) (label : Option String)
    (slot : NodeId) : (g.noteThunk thunk label slot).size = g.size := rfl

@[simp] theorem size_noteLiteral (g : Grammar ω ρ) (l : Literal) (id : NodeId) :
    (g.noteLiteral l id).size = g.size := rfl

@[simp] theorem size_noteSequence (g : Grammar ω ρ) (place : Place) (id : NodeId) :
    (g.noteSequence place id).size = g.size := rfl

@[simp] theorem size_finish (g : Grammar ω ρ) (slot : NodeId) (blueprint : Blueprint ω ρ)
    (children : Vector NodeId blueprint.arity) :
    (g.finish slot blueprint children).2.size = g.size := by
  unfold finish
  simp only
  split
  next => simp
  next =>
    split
    next => simp [size, fill]
    next => simp

theorem Resolves.size_le {rules : Rules ω ρ} {errand : Errand ω ρ} {g g' : Grammar ω ρ}
    {result : Except ResolveError NodeId} (resolves : Resolves rules errand g result g') :
    g.size ≤ g'.size := by
  have chain : ∀ {states : Nat → Grammar ω ρ} {count : Nat},
      (∀ index : Fin count, (states index).size ≤ (states (index + 1)).size) →
      (states 0).size ≤ (states count).size := by
    intro states count steps
    apply holds_after_steps fun g : Grammar ω ρ => (states 0).size ≤ g.size
    · exact Nat.le_refl _
    · exact fun index before => Nat.le_trans before (steps index)
  induction resolves with
  | @failed_child _ _ _ _ _ _ _ _ _ failed _ _ last begins _ _ steps fails =>
      have := chain fun index : Fin failed =>
        steps ⟨index, Nat.lt_trans index.isLt failed.isLt⟩ index.isLt
      rw [begins, size_noteNode, size_widened] at this
      omega
  | made _ last begins _ _ steps =>
      have := chain steps
      rw [begins, size_noteNode, size_widened] at this
      rw [size_finish]
      omega
  | new_node _ _ induction => exact induction
  | new_literal _ _ _ induction => exact induction
  | failed_literal _ _ _ induction => exact induction
  | new_sequence _ _ induction => exact induction
  | failed_sequence _ _ induction => exact induction
  | rule _ induction => exact induction
  | delayed _ induction => exact induction
  | parser _ induction => exact induction
  | failed_body _ _ _ induction | circular _ _ _ _ induction =>
      rw [size_noteThunk, size_widened] at induction
      omega
  | unfolded _ _ _ _ induction =>
      rw [size_noteThunk, size_widened] at induction
      rw [size_fill]
      omega
  | _ => exact Nat.le_refl _

/-! ## The resolver does what `Resolves` says -/

theorem run_get_bind {α : Type} (next : Grammar ω ρ → Resolver ω ρ α) (g : Grammar ω ρ) :
    (get >>= next).run.run g = (next g).run.run g := run_bind _ next g

theorem run_modifyGet {α : Type} (change : Grammar ω ρ → α × Grammar ω ρ) (g : Grammar ω ρ) :
    (modifyGet change : Resolver ω ρ α).run.run g = (.ok (change g).1, (change g).2) := rfl

theorem run_modify (change : Grammar ω ρ → Grammar ω ρ) (g : Grammar ω ρ) :
    (modify change : Resolver ω ρ Unit).run.run g = (.ok (), change g) := rfl

theorem run_reserve (g : Grammar ω ρ) :
    (reserve : Resolver ω ρ NodeId).run.run g =
      match Index.next? g.size with
      | some slot => (.ok slot, g.widened)
      | none => (.error .tooManyNodes, g) := by
  unfold reserve
  rw [run_get_bind]
  cases Index.next? g.size with
  | none => rfl
  | some slot => exact run_bind _ _ g

/-- A child as its parent resolves it. -/
def resolveChild (name : String) (child : Resolver ω ρ NodeId) : Resolver ω ρ NodeId := do
  let id ← ExceptT.adapt (ResolveError.inside name) child
  return (← get).follow id

theorem run_resolveChild (name : String) (child : Resolver ω ρ NodeId) (g : Grammar ω ρ) :
    (resolveChild name child).run.run g =
      match child.run.run g with
      | (.ok id, g') => (.ok (g'.follow id), g')
      | (.error error, g') => (.error (.inside name error), g') := by
  have adapted : (ExceptT.adapt (ResolveError.inside name) child).run.run g =
      (child.run.run g).map (Except.mapError (ResolveError.inside name)) id := by
    rfl
  unfold resolveChild
  rw [run_bind, adapted]
  cases child.run.run g with
  | mk result later => cases result <;> rfl

theorem run_resolveNode (own : Option Place) (blueprint : Blueprint ω ρ)
    (child : Fin blueprint.arity → Resolver ω ρ NodeId) (g : Grammar ω ρ) :
    (resolveNode own blueprint child).run.run g =
      match own.bind g.nodes.find? with
      | some id => (.ok id, g)
      | none =>
        match Index.next? g.size with
        | none => (.error .tooManyNodes, g)
        | some slot =>
          proceed ((Vector.ofFnM fun index => resolveChild blueprint.name (child index)).run.run
              (g.widened.noteNode own slot)) fun children g' =>
            (.ok (g'.finish slot blueprint children).1,
              (g'.finish slot blueprint children).2) := by
  unfold resolveNode
  rw [run_get_bind]
  cases own.bind g.nodes.find? with
  | some id => rfl
  | none =>
      simp only
      rw [run_bind, run_reserve]
      cases Index.next? g.size with
      | none => rfl
      | some slot =>
          cases own with
          | none => simp only [run_bind, run_modifyGet, resolveChild, noteNode, proceed_ok]
          | some place =>
              simp only [run_bind, run_modifyGet, run_modify, resolveChild, noteNode, proceed_ok]

theorem run_unfold (thunk : Thunk) (label : Option String)
    (body : Place → Resolver ω ρ NodeId) (g : Grammar ω ρ) :
    (unfold thunk label body).run.run g =
      match g.thunks.find? thunk with
      | some id => (.ok id, g)
      | none =>
        match Index.next? g.size with
        | none => (.error .tooManyNodes, g)
        | some slot =>
          proceed ((body ⟨.unfolding g.unfoldings.length, []⟩).run.run
              (g.widened.noteThunk thunk label slot)) fun target g' =>
            if g'.follow target = slot then (.error .selfReference, g')
            else (.ok target, g'.fill slot (.forward target)) := by
  unfold unfold
  rw [run_get_bind]
  cases g.thunks.find? thunk with
  | some id => rfl
  | none =>
      simp only
      rw [run_bind, run_reserve]
      cases Index.next? g.size with
      | none => rfl
      | some slot =>
          simp only [run_bind, run_modifyGet, proceed_ok]
          congr 1
          funext target g'
          show (if g'.follow target = slot then _ else _ : Resolver ω ρ NodeId).run.run g' = _
          split <;> rfl

theorem run_resolveLiteral (l : Literal) (g : Grammar ω ρ) :
    (resolveLiteral l : Resolver ω ρ NodeId).run.run g =
      match g.literals.find? l with
      | some id => (.ok id, g)
      | none =>
        match (l.blueprint? g.kind : Except String (Blueprint ω ρ)) with
        | .error message => (.error (.literal message), g)
        | .ok blueprint =>
          proceed ((resolveNode none blueprint fun _ => throw .selfReference).run.run g)
            fun id g' => (.ok (g'.follow id), g'.noteLiteral l (g'.follow id)) := by
  unfold resolveLiteral
  rw [run_get_bind]
  cases g.literals.find? l with
  | some id => rfl
  | none =>
      simp only
      cases (l.blueprint? g.kind : Except String (Blueprint ω ρ)) with
      | error message => rfl
      | ok blueprint => exact run_bind _ _ g

theorem run_resolveHandle (number : Nat) (id : NodeId) (g : Grammar ω ρ) :
    (resolveHandle number id).run.run g =
      if number ≠ g.number then (.error (.foreignNode id), g)
      else if id.number < g.size then (.ok (g.follow id), g)
      else (.error (.unknownNode id), g) := by
  unfold resolveHandle
  rw [run_get_bind]
  split
  · rfl
  · split <;> rfl

theorem run_resolveSequence (rule : String → Resolver ω ρ NodeId) (count : Nat)
    (parts : Fin count → Reference ω ρ) (place : Place) (g : Grammar ω ρ) :
    (resolveAt rule (.sequence count parts) place).run.run g =
      match g.sequences.find? place with
      | some id => (.ok id, g)
      | none =>
        proceed ((resolveNode none (.sequence count) fun index =>
            resolveAt rule (parts index) (place.child index)).run.run g)
          fun id g' => (.ok id, g'.noteSequence place id) := by
  rw [resolveAt, run_get_bind]
  cases g.sequences.find? place with
  | some id => rfl
  | none => exact run_bind _ _ g

/-- A resolver does what an errand can do. -/
def Realizes (rules : Rules ω ρ) (resolver : Resolver ω ρ NodeId) (errand : Errand ω ρ)
    (g : Grammar ω ρ) : Prop :=
  Resolves rules errand g (resolver.run.run g).1 (resolver.run.run g).2

theorem Realizes.of_run {rules : Rules ω ρ} {resolver : Resolver ω ρ NodeId}
    {errand : Errand ω ρ} {g g' : Grammar ω ρ} {result : Except ResolveError NodeId}
    (runs : resolver.run.run g = (result, g'))
    (resolves : Resolves rules errand g result g') : Realizes rules resolver errand g := by
  rw [Realizes, runs]
  exact resolves

theorem Realizes.resolves {rules : Rules ω ρ} {resolver : Resolver ω ρ NodeId}
    {errand : Errand ω ρ} {g g' : Grammar ω ρ} {result : Except ResolveError NodeId}
    (realizes : Realizes rules resolver errand g)
    (runs : resolver.run.run g = (result, g')) : Resolves rules errand g result g' := by
  rw [Realizes, runs] at realizes
  exact realizes

/-- What a child comes to, if it does. -/
def childId (child : Resolver ω ρ NodeId) (g : Grammar ω ρ) : NodeId :=
  (child.run.run g).1.toOption.getD ⟨0, capacity_pos⟩

theorem run_child_of_resolveChild {name : String} {child : Resolver ω ρ NodeId}
    {g g' : Grammar ω ρ} {given : NodeId}
    (runs : (resolveChild name child).run.run g = (.ok given, g')) :
    child.run.run g = (.ok (childId child g), g') ∧ given = g'.follow (childId child g) := by
  rw [run_resolveChild] at runs
  cases ran : child.run.run g with
  | mk result later =>
      rw [ran] at runs
      cases result with
      | error error => cases runs
      | ok id =>
          cases runs
          rw [childId, ran]
          exact ⟨rfl, rfl⟩

theorem run_child_of_failed {name : String} {child : Resolver ω ρ NodeId}
    {g g' : Grammar ω ρ} {wrapped : ResolveError}
    (runs : (resolveChild name child).run.run g = (.error wrapped, g')) :
    ∃ error, wrapped = .inside name error ∧ child.run.run g = (.error error, g') := by
  rw [run_resolveChild] at runs
  cases ran : child.run.run g with
  | mk result later =>
      rw [ran] at runs
      cases result with
      | error error =>
          cases runs
          exact ⟨error, rfl, rfl⟩
      | ok id => cases runs

theorem next?_eq_none {count : Nat} (none : (Index.next? count : Option NodeId) = none) :
    capacity ≤ count := by
  by_contra small
  rw [Index.next?, dif_pos (Nat.lt_of_not_le small)] at none
  cases none

section Realizing

variable {rules : Rules ω ρ} {free : Nat}

/-- As long as children are resolved, there is room for as many unfoldings as before. -/
theorem room_after_children {name : String} {arity : Nat}
    {children : Fin arity → Reference ω ρ} {place : Place}
    {child : Fin arity → Resolver ω ρ NodeId} {states : Nat → Grammar ω ρ}
    {values : Nat → NodeId}
    (realizes : ∀ index g, capacity ≤ g.size + free →
      Realizes rules (child index) (.written (children index) (place.child index)) g)
    (room : capacity ≤ (states 0).size + free) {count : Nat} (within : count ≤ arity)
    (steps : ∀ index (before : index < count),
      (resolveChild name (child ⟨index, by omega⟩)).run.run (states index) =
        (.ok (values index), states (index + 1))) :
    capacity ≤ (states count).size + free := by
  induction count with
  | zero => exact room
  | succ count induction =>
      have before := induction (by omega) fun index earlier => steps index (by omega)
      have resolved := (realizes ⟨count, by omega⟩ _ before).resolves
        (run_child_of_resolveChild (steps count (by omega))).1
      have := resolved.size_le
      omega

theorem resolveNode_realizes {own : Option Place} {blueprint : Blueprint ω ρ}
    {children : Fin blueprint.arity → Reference ω ρ} {place : Place}
    {child : Fin blueprint.arity → Resolver ω ρ NodeId} {g : Grammar ω ρ}
    (unknown : own.bind g.nodes.find? = none) (room : capacity ≤ g.size + free)
    (realizes : ∀ index g, capacity ≤ g.size + free →
      Realizes rules (child index) (.written (children index) (place.child index)) g) :
    Realizes rules (resolveNode own blueprint child) (.node own blueprint children place) g := by
  have runs := run_resolveNode own blueprint child g
  rw [unknown] at runs
  cases next : Index.next? g.size with
  | none =>
      rw [next] at runs
      exact .of_run runs (.no_slot_for_node (next?_eq_none next))
  | some slot =>
      have last := Index.next?_eq_some_iff.mp next
      rw [next] at runs
      simp only at runs
      rcases @ofFnM_run _ _ _ ⟨slot⟩ _
          (fun index => resolveChild blueprint.name (child index))
          (g.widened.noteNode own slot) with
        ⟨states, values, begins, steps, ends⟩ |
        ⟨states, values, failed, error, g', begins, steps, fails, ends⟩
      all_goals
        have roomAtStart : capacity ≤ (states 0).size + free := by
          rw [begins, size_noteNode, size_widened]
          omega
      · rw [ends, proceed_ok] at runs
        have resolved : ∀ index : Fin blueprint.arity,
            Resolves rules (.written (children index) (place.child index)) (states index)
              (.ok (childId (child index) (states index))) (states (index + 1)) := by
          intro index
          have roomHere := room_after_children realizes roomAtStart
            (Nat.le_of_lt index.isLt) fun earlier before => steps ⟨earlier, by omega⟩
          exact (realizes index _ roomHere).resolves
            (run_child_of_resolveChild (steps index)).1
        refine .of_run runs (.made unknown last begins resolved fun index => ?_)
        exact (Vector.getElem_ofFn index.isLt).trans (run_child_of_resolveChild (steps index)).2
      · rw [ends, proceed_error] at runs
        obtain ⟨inner, rfl, failedHere⟩ := run_child_of_failed fails
        have roomAt : ∀ count, count ≤ failed.val → capacity ≤ (states count).size + free := by
          intro count before
          have := failed.isLt
          exact room_after_children realizes roomAtStart (by omega) fun earlier _ =>
            steps ⟨earlier, by omega⟩ (show earlier < failed.val by omega)
        have resolved : ∀ index : Fin blueprint.arity, index < failed →
            Resolves rules (.written (children index) (place.child index)) (states index)
              (.ok (childId (child index) (states index))) (states (index + 1)) := by
          intro index before
          exact (realizes index _ (roomAt index (Nat.le_of_lt before))).resolves
            (run_child_of_resolveChild (steps index before)).1
        exact .of_run runs (.failed_child unknown last begins resolved
          ((realizes failed _ (roomAt failed (Nat.le_refl _))).resolves failedHere))

theorem unfold_realizes {thunk : Thunk} {label : Option String} {reference : Reference ω ρ}
    {body : Place → Resolver ω ρ NodeId} {g : Grammar ω ρ}
    (realizes : g.size < capacity → ∀ place g', g'.size = g.size + 1 →
      Realizes rules (body place) (.written reference place) g') :
    Realizes rules (unfold thunk label body) (.unfolding thunk label reference) g := by
  have runs := run_unfold thunk label body g
  cases known : g.thunks.find? thunk with
  | some id =>
      rw [known] at runs
      exact .of_run runs (.known_thunk known)
  | none =>
      rw [known] at runs
      cases next : Index.next? g.size with
      | none =>
          rw [next] at runs
          exact .of_run runs (.no_slot_for_thunk known (next?_eq_none next))
      | some slot =>
          have last := Index.next?_eq_some_iff.mp next
          rw [next] at runs
          simp only at runs
          have resolved := realizes (last ▸ slot.inRange) ⟨.unfolding g.unfoldings.length, []⟩
            (g.widened.noteThunk thunk label slot) (by simp)
          cases ran : (body ⟨.unfolding g.unfoldings.length, []⟩).run.run
              (g.widened.noteThunk thunk label slot) with
          | mk result g' =>
              have resolves := resolved.resolves ran
              rw [ran] at runs
              cases result with
              | error error => exact .of_run runs (.failed_body known last resolves)
              | ok target =>
                  rw [proceed_ok] at runs
                  by_cases circular : g'.follow target = slot
                  · rw [if_pos circular] at runs
                    exact .of_run runs (.circular known last resolves circular)
                  · rw [if_neg circular] at runs
                    exact .of_run runs (.unfolded known last resolves circular)

theorem resolveLiteral_realizes {l : Literal} {place : Place} {g : Grammar ω ρ} :
    Realizes rules (resolveLiteral l) (.written (.literal l) place) g := by
  have runs := run_resolveLiteral l g
  cases known : g.literals.find? l with
  | some id =>
      rw [known] at runs
      exact .of_run runs (.known_literal known)
  | none =>
      rw [known] at runs
      cases shape : (l.blueprint? g.kind : Except String (Blueprint ω ρ)) with
      | error message =>
          rw [shape] at runs
          exact .of_run runs (.refused_literal known shape)
      | ok blueprint =>
          rw [shape] at runs
          simp only at runs
          have childless : blueprint.arity = 0 := by
            cases attempt : Literal.attempt? (ω := ω) g.kind l with
            | error message =>
                rw [Literal.blueprint?, attempt] at shape
                cases shape
            | ok pair =>
                rw [Literal.blueprint?, attempt] at shape
                cases shape
                rfl
          have realizes : Realizes rules
              (resolveNode none blueprint fun _ => throw .selfReference)
              (.node none blueprint (fun _ => .literal l) place) g :=
            resolveNode_realizes rfl (show capacity ≤ g.size + capacity by omega) fun index =>
              absurd index.isLt (by omega)
          cases ran : (resolveNode none blueprint fun _ => throw .selfReference).run.run g with
          | mk result g' =>
              have resolves := realizes.resolves ran
              rw [ran] at runs
              cases result with
              | error error => exact .of_run runs (.failed_literal known shape resolves)
              | ok id => exact .of_run runs (.new_literal known shape resolves)

theorem resolveAt_realizes {rule : String → Resolver ω ρ NodeId}
    (ruleRealizes : ∀ name place g, capacity ≤ g.size + free →
      Realizes rules (rule name) (.written (.rule name) place) g)
    (reference : Reference ω ρ) (place : Place) {g : Grammar ω ρ}
    (room : capacity ≤ g.size + free) :
    Realizes rules (resolveAt rule reference place) (.written reference place) g := by
  induction reference generalizing place g with
  | node blueprint children induction =>
      cases known : g.nodes.find? place with
      | some id =>
          have runs := run_resolveNode (some place) blueprint
            (fun index => resolveAt rule (children index) (place.child index)) g
          rw [Option.bind_some, known] at runs
          exact .of_run runs (.known_node known)
      | none =>
          have realizes := resolveNode_realizes
            (show (some place).bind g.nodes.find? = none from known) room
            fun index g room => induction index (place.child index) room
          exact .new_node known realizes
  | literal l => exact resolveLiteral_realizes
  | sequence count parts induction =>
      have runs := run_resolveSequence rule count parts place g
      have realizes : Realizes rules (resolveNode none (.sequence count) fun index =>
          resolveAt rule (parts index) (place.child index))
          (.node none (.sequence count) parts place) g :=
        resolveNode_realizes rfl room fun index g room => induction index (place.child index) room
      cases known : g.sequences.find? place with
      | some id =>
          rw [known] at runs
          exact .of_run runs (.known_sequence known)
      | none =>
          rw [known] at runs
          simp only at runs
          cases ran : (resolveNode none (.sequence count) fun index =>
              resolveAt rule (parts index) (place.child index)).run.run g with
          | mk result g' =>
              have resolves := realizes.resolves ran
              rw [ran] at runs
              cases result with
              | error error => exact .of_run runs (.failed_sequence known resolves)
              | ok id => exact .of_run runs (.new_sequence known resolves)
  | rule name => exact ruleRealizes name place g room
  | delayed label body induction =>
      refine .delayed (unfold_realizes fun _ place g' size => induction place ?_)
      omega
  | handle number id =>
      have runs := run_resolveHandle (ω := ω) (ρ := ρ) number id g
      by_cases own : number = g.number
      · subst own
        rw [if_neg (fun different => different rfl)] at runs
        by_cases small : id.number < g.size
        · rw [if_pos small] at runs
          exact .of_run runs (.own_handle small)
        · rw [if_neg small] at runs
          exact .of_run runs (.unknown_handle (Nat.le_of_not_lt small))
      · rw [if_pos own] at runs
        exact .of_run runs (.foreign_handle own)
  | parser identity body induction => exact .parser (induction _ room)

theorem resolveRule_realizes (name : String) (place : Place) {g : Grammar ω ρ}
    (room : capacity ≤ g.size + free) :
    Realizes rules (resolveRule rules free name) (.written (.rule name) place) g := by
  induction free generalizing name place g with
  | zero =>
      refine .rule (unfold_realizes fun small => ?_)
      omega
  | succ free induction =>
      refine .rule (unfold_realizes fun _ place g' size => ?_)
      exact resolveAt_realizes (fun name place g => induction name place) _ _ (by omega)

end Realizing

/-- The grammar that resolving a reference comes to, before what went wrong is undone. -/
def extended (g : Grammar ω ρ) (rules : Rules ω ρ) (place : Place) (reference : Reference ω ρ) :
    Grammar ω ρ :=
  ((resolveAt (resolveRule rules (capacity - g.size)) reference place).run.run g).2

theorem resolve_extended (rules : Rules ω ρ) (g : Grammar ω ρ) (place : Place)
    (reference : Reference ω ρ) :
    (∃ id, g.resolve rules place reference =
        (.ok ((g.extended rules place reference).follow id), g.extended rules place reference) ∧
      Resolves rules (.written reference place) g (.ok id) (g.extended rules place reference)) ∨
    (∃ error, g.resolve rules place reference =
        (.error error, (g.extended rules place reference).rollback g.size) ∧
      Resolves rules (.written reference place) g (.error error)
        (g.extended rules place reference)) := by
  have realizes : Realizes rules
      (resolveAt (resolveRule rules (capacity - g.size)) reference place)
      (.written reference place) g :=
    resolveAt_realizes (fun name place g => resolveRule_realizes name place) reference place
      (by omega)
  unfold extended
  cases ran : (resolveAt (resolveRule rules (capacity - g.size)) reference place).run.run g with
  | mk result g' =>
      have resolves := realizes.resolves ran
      cases result with
      | ok id => exact .inl ⟨id, by rw [resolve, ran], resolves⟩
      | error error => exact .inr ⟨error, by rw [resolve, ran], resolves⟩

/-- What resolving a reference does, before what went wrong is undone. -/
theorem resolve_resolves (rules : Rules ω ρ) (g : Grammar ω ρ) (place : Place)
    (reference : Reference ω ρ) :
    (∃ id g', g.resolve rules place reference = (.ok (g'.follow id), g') ∧
      Resolves rules (.written reference place) g (.ok id) g') ∨
    (∃ error g', g.resolve rules place reference = (.error error, g'.rollback g.size) ∧
      Resolves rules (.written reference place) g (.error error) g') := by
  rcases resolve_extended rules g place reference with
    ⟨id, resolved, resolves⟩ | ⟨error, resolved, resolves⟩
  · exact .inl ⟨id, _, resolved, resolves⟩
  · exact .inr ⟨error, _, resolved, resolves⟩

end Grammar

end Packrat
