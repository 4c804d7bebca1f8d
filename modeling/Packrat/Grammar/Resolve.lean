import Packrat.Combinator.Sequencing
import Packrat.Grammar

/-!
# Resolving references

Resolving a reference gives each of its nodes a slot of the grammar, children first.
A rule is unfolded when it is first met and never again; a node that may be shared gives
way to one of the same key.  When something is wrong, the grammar is left as it was
before the call, but for what the lists say about older slots.

Every unfolding takes a slot, so the slots that are free bound how deep unfoldings nest.
-/

namespace Packrat.Grammar

variable {ω ρ : Type}

/-- A computation that extends a grammar, or finds what is wrong. -/
abbrev Resolver (ω ρ α : Type) := ExceptT ResolveError (StateM (Grammar ω ρ)) α

/-- Takes a new slot. -/
def reserve : Resolver ω ρ NodeId := do
  let g ← get
  match Index.next? g.size with
  | some id =>
    set { g with slots := g.slots.push .reserved }
    return id
  | none => throw .tooManyNodes

/-- Puts something into a slot. -/
def fill (g : Grammar ω ρ) (id : NodeId) (slot : Slot ω ρ) : Grammar ω ρ :=
  { g with slots := g.slots.setIfInBounds id.number slot }

/-- Ends the resolution of a node whose children are known: forwards its slot to a node
of the same key, or puts the node there. -/
def finish (g : Grammar ω ρ) (slot : NodeId) (blueprint : Blueprint ω ρ)
    (children : Vector NodeId blueprint.arity) : NodeId × Grammar ω ρ :=
  let ids := children.toList
  let description := g.describe blueprint.name blueprint.describe ids
  let key := if blueprint.cacheable then g.sharingKey blueprint.name description ids else none
  match key.bind g.shared.find? with
  | some existing => (existing, g.fill slot (.forward existing))
  | none =>
    let g := match key with
      | some key => { g with shared := g.shared.insert key slot }
      | none => g
    let matcher := blueprint.generate fun index =>
      ⟨children.get index, g.childDescription (children.get index)⟩
    (slot, g.fill slot (.ready ⟨blueprint.name, ids, description, key, matcher⟩))

/-- Resolves a node, given how its children are.  A node without a place is new. -/
def resolveNode (place : Option Place) (blueprint : Blueprint ω ρ)
    (child : Fin blueprint.arity → Resolver ω ρ NodeId) : Resolver ω ρ NodeId := do
  match place.bind (← get).nodes.find? with
  | some id => return id
  | none =>
    let slot ← reserve
    if let some place := place then
      modify fun g => { g with nodes := g.nodes.insert place slot }
    let children ← Vector.ofFnM fun index => do
      let id ← ExceptT.adapt (.inside blueprint.name) (child index)
      return (← get).follow id
    modifyGet fun g => g.finish slot blueprint children

/-- Resolves a literal: the first time as a new leaf. -/
def resolveLiteral (l : Literal) : Resolver ω ρ NodeId := do
  let g ← get
  match g.literals.find? l with
  | some id => return id
  | none =>
    match l.blueprint? g.kind with
    | .error message => throw (.literal message)
    | .ok blueprint =>
      let id ← resolveNode none blueprint fun _ => throw .selfReference
      modifyGet fun g =>
        let id := g.follow id
        (id, { g with literals := g.literals.insert l id })

/-- Resolves a handle, which has to be one of this grammar's. -/
def resolveHandle (number : Nat) (id : NodeId) : Resolver ω ρ NodeId := do
  let g ← get
  if number ≠ g.number then throw (.foreignNode id)
  else if id.number < g.size then return g.follow id
  else throw (.unknownNode id)

/-- Resolves a rule or a delayed parser, given how its body is: the first time by
unfolding it, at a place of its own. -/
def unfold (thunk : Thunk) (label : Option String) (body : Place → Resolver ω ρ NodeId) :
    Resolver ω ρ NodeId := do
  match (← get).thunks.find? thunk with
  | some id => return id
  | none =>
    let slot ← reserve
    let serial ← modifyGet fun g =>
      (g.unfoldings.length,
        { g with thunks := g.thunks.insert thunk slot, unfoldings := label :: g.unfoldings })
    let target ← body ⟨.unfolding serial, []⟩
    if (← get).follow target = slot then throw .selfReference
    modify fun g => g.fill slot (.forward target)
    return target

/-- Resolves a reference that is written at a place, given how rules are resolved. -/
def resolveAt (rule : String → Resolver ω ρ NodeId) :
    Reference ω ρ → Place → Resolver ω ρ NodeId
  | .node blueprint children, place =>
    resolveNode (some place) blueprint fun index =>
      resolveAt rule (children index) (place.child index)
  | .literal l, _ => resolveLiteral l
  | .sequence count parts, place => do
    match (← get).sequences.find? place with
    | some id => return id
    | none =>
      let id ← resolveNode none (.sequence count) fun index =>
        resolveAt rule (parts index) (place.child index)
      modify fun g => { g with sequences := g.sequences.insert place id }
      return id
  | .rule name, _ => rule name
  | .delayed label body, place => unfold (.delayed place) label (resolveAt rule body)
  | .handle number id, _ => resolveHandle number id
  | .parser identity body, _ => resolveAt rule body ⟨.parser identity, []⟩

/-- Resolves a rule where `free` slots are left. -/
def resolveRule (rules : Rules ω ρ) : Nat → String → Resolver ω ρ NodeId
  | 0, name => unfold (.rule name) (some name) fun _ => throw .tooManyNodes
  | free + 1, name =>
    unfold (.rule name) (some name) (resolveAt (resolveRule rules free) (rules name))

/-- Resolves a reference that is written at a place.  What goes wrong is undone. -/
def resolve (rules : Rules ω ρ) (g : Grammar ω ρ) (place : Place) (reference : Reference ω ρ) :
    Except ResolveError NodeId × Grammar ω ρ :=
  match (resolveAt (resolveRule rules (capacity - g.size)) reference place).run.run g with
  | (.ok id, extended) => (.ok (extended.follow id), extended)
  | (.error error, extended) => (.error error, extended.rollback g.size)

end Packrat.Grammar
