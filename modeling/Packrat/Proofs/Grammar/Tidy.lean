import Packrat.Proofs.Grammar.Resolution
import Packrat.Proofs.Table

/-!
# Grammars are kept in order

`Tidy` is what holds of a grammar at every moment of a resolution: forwards end, nothing
leads out of the grammar, and exactly the nodes that may be shared are listed under their
keys.  While a reference is being resolved some slots are reserved; `Grows` says that
older slots are left alone, which lets the last word on them be had by whoever reserved
them.
-/

namespace Packrat

namespace Grammar

variable {ω ρ : Type}

/-- A later state of a grammar: slots have been added and the older ones are as they
were. -/
structure Grows (g g' : Grammar ω ρ) : Prop where
  number : g'.number = g.number
  kind : g'.kind = g.kind
  size : g.size ≤ g'.size
  slots : ∀ number, number < g.size → g'.slots[number]? = g.slots[number]?
  shared : g.shared.Adds g.size g'.shared
  nodes : g.nodes.Adds g.size g'.nodes
  thunks : g.thunks.Adds g.size g'.thunks
  literals : ∀ l id, g.literals.find? l = some id → g'.literals.find? l = some id
  sequences : ∀ place id, g.sequences.find? place = some id → g'.sequences.find? place = some id
  unfoldings : g.unfoldings.length ≤ g'.unfoldings.length

namespace Grows

variable {g middle g' : Grammar ω ρ}

theorem refl (g : Grammar ω ρ) : g.Grows g where
  number := rfl
  kind := rfl
  size := Nat.le_refl _
  slots _ _ := rfl
  shared := .refl _ _
  nodes := .refl _ _
  thunks := .refl _ _
  literals _ _ found := found
  sequences _ _ found := found
  unfoldings := Nat.le_refl _

theorem trans (first : g.Grows middle) (second : middle.Grows g') : g.Grows g' where
  number := second.number.trans first.number
  kind := second.kind.trans first.kind
  size := Nat.le_trans first.size second.size
  slots number old :=
    (second.slots number (Nat.lt_of_lt_of_le old first.size)).trans (first.slots number old)
  shared := first.shared.trans second.shared first.size
  nodes := first.nodes.trans second.nodes first.size
  thunks := first.thunks.trans second.thunks first.size
  literals l id found := second.literals l id (first.literals l id found)
  sequences place id found := second.sequences place id (first.sequences place id found)
  unfoldings := Nat.le_trans first.unfoldings second.unfoldings

theorem widened (g : Grammar ω ρ) : g.Grows g.widened where
  number := rfl
  kind := rfl
  size := by simp
  slots number old := by
    rw [Grammar.widened, Array.getElem?_push]
    exact if_neg (Nat.ne_of_lt old)
  shared := .refl _ _
  nodes := .refl _ _
  thunks := .refl _ _
  literals _ _ found := found
  sequences _ _ found := found
  unfoldings := Nat.le_refl _

/-- Reserving a slot for a node and noting it at the node's place. -/
theorem noteNode {own : Option Place} {slot : NodeId} (last : slot.number = g.size)
    (unknown : own.bind g.nodes.find? = none) : g.Grows (g.widened.noteNode own slot) := by
  cases own with
  | none => exact widened g
  | some place =>
      exact { widened g with nodes := .insert unknown (Nat.le_of_eq last.symm) }

/-- Reserving a slot for a rule or a delayed parser. -/
theorem noteThunk {thunk : Thunk} {label : Option String} {slot : NodeId}
    (last : slot.number = g.size) (unknown : g.thunks.find? thunk = none) :
    g.Grows (g.widened.noteThunk thunk label slot) :=
  { widened g with
    thunks := .insert unknown (Nat.le_of_eq last.symm)
    unfoldings := Nat.le_succ _ }

theorem noteLiteral (grows : g.Grows g') {l : Literal} (unknown : g.literals.find? l = none)
    (id : NodeId) : g.Grows (g'.noteLiteral l id) :=
  { grows with
    literals := by
      intro other found there
      rw [show (g'.noteLiteral l id).literals = g'.literals.insert l id from rfl,
        Table.find?_insert, if_neg]
      · exact grows.literals other found there
      · rintro rfl
        rw [unknown] at there
        cases there }

theorem noteSequence (grows : g.Grows g') {place : Place}
    (unknown : g.sequences.find? place = none) (id : NodeId) :
    g.Grows (g'.noteSequence place id) :=
  { grows with
    sequences := by
      intro other found there
      rw [show (g'.noteSequence place id).sequences = g'.sequences.insert place id from rfl,
        Table.find?_insert, if_neg]
      · exact grows.sequences other found there
      · rintro rfl
        rw [unknown] at there
        cases there }

/-- Filling a slot that was not there at first. -/
theorem fill (grows : g.Grows g') {slot : NodeId} (new : g.size ≤ slot.number)
    (content : Slot ω ρ) : g.Grows (g'.fill slot content) :=
  { grows with
    size := by
      rw [size_fill]
      exact grows.size
    slots := by
      intro number old
      rw [← grows.slots number old]
      exact Array.getElem?_setIfInBounds_ne (by omega) }

theorem slot? (grows : g.Grows g') {id : NodeId} (old : id.number < g.size) :
    g'.slot? id = g.slot? id := grows.slots id.number old

/-- What a slot holds stays there. -/
theorem kept (grows : g.Grows g') {id : NodeId} {content : Slot ω ρ}
    (there : g.slot? id = some content) : g'.slot? id = some content :=
  (grows.slot? (slot?_lt there)).trans there

end Grows

/-- Nothing is being resolved. -/
def Complete (g : Grammar ω ρ) : Prop := ∀ id, g.slot? id ≠ some .reserved

/-- What holds of a grammar at every moment of a resolution. -/
structure Tidy (g : Grammar ω ρ) : Prop where
  acyclic : g.Acyclic
  forwards : g.ForwardsWithin
  children : ∀ id node, g.slot? id = some (.ready node) →
    ∀ child ∈ node.children, child.number < g.size
  nodes : ∀ place id, g.nodes.find? place = some id → id.number < g.size
  thunks : ∀ thunk id, g.thunks.find? thunk = some id → id.number < g.size
  literals : ∀ l id, g.literals.find? l = some id → id.number < g.size
  sequences : ∀ place id, g.sequences.find? place = some id → id.number < g.size
  shared : ∀ key id, g.shared.find? key = some id ↔
    ∃ node, g.slot? id = some (.ready node) ∧ node.key = some key
  unique : g.shared.Unique ∧ g.nodes.Unique ∧ g.thunks.Unique ∧ g.literals.Unique ∧
    g.sequences.Unique

/-! ## Finishing a node -/

/-- The key that a node would be shared under. -/
def keyOf (g : Grammar ω ρ) (blueprint : Blueprint ω ρ)
    (children : Vector NodeId blueprint.arity) : Option String :=
  if blueprint.cacheable then
    g.sharingKey blueprint.name
      (g.describe blueprint.name blueprint.describe children.toList) children.toList
  else none

/-- The node of a kind that has these children. -/
def assembled (g : Grammar ω ρ) (blueprint : Blueprint ω ρ)
    (children : Vector NodeId blueprint.arity) : Resolved ω ρ :=
  { name := blueprint.name
    children := children.toList
    description := g.describe blueprint.name blueprint.describe children.toList
    key := g.keyOf blueprint children
    matcher := blueprint.generate fun index =>
      ⟨children.get index, g.childDescription (children.get index)⟩ }

theorem children_assembled (g : Grammar ω ρ) (blueprint : Blueprint ω ρ)
    (given : Vector NodeId blueprint.arity) :
    (g.assembled blueprint given).children = List.ofFn given.get := by
  apply List.ext_getElem
  · simp [assembled]
  · intro index _ small
    rw [List.getElem_ofFn]
    exact Vector.getElem_toList _

section

variable {g g' : Grammar ω ρ} (same : g'.slots = g.slots)

include same

theorem describe_congr (name : String) (describe : Describe) (children : List NodeId) :
    g'.describe name describe children = g.describe name describe children := by
  have parts : g'.partDescription = g.partDescription := by
    funext id
    rw [partDescription, partDescription, node?_congr same]
  unfold Grammar.describe
  rw [parts]

theorem keyOf_congr (blueprint : Blueprint ω ρ) (children : Vector NodeId blueprint.arity) :
    g'.keyOf blueprint children = g.keyOf blueprint children := by
  have keys : (fun id => (g'.node? id).bind Resolved.key) =
      fun id => (g.node? id).bind Resolved.key := by
    funext id
    rw [node?_congr same]
  rw [keyOf, keyOf, describe_congr same]
  unfold sharingKey
  rw [keys]

theorem assembled_congr (blueprint : Blueprint ω ρ) (children : Vector NodeId blueprint.arity) :
    g'.assembled blueprint children = g.assembled blueprint children := by
  have described : g'.childDescription = g.childDescription := by
    funext id
    rw [childDescription, childDescription, description?, description?, node?_congr same]
  rw [assembled, assembled, describe_congr same, keyOf_congr same, described]

end

/-- Lists a slot under a key, if there is one. -/
def share (g : Grammar ω ρ) (key : Option String) (slot : NodeId) : Grammar ω ρ :=
  match key with
  | some key => { g with shared := g.shared.insert key slot }
  | none => g

@[simp] theorem slots_share (g : Grammar ω ρ) (key : Option String) (slot : NodeId) :
    (g.share key slot).slots = g.slots := by
  cases key <;> rfl

@[simp] theorem size_share (g : Grammar ω ρ) (key : Option String) (slot : NodeId) :
    (g.share key slot).size = g.size := by
  rw [size, slots_share, size]

theorem slot?_share (g : Grammar ω ρ) (key : Option String) (slot id : NodeId) :
    (g.share key slot).slot? id = g.slot? id := by
  rw [slot?, slots_share, slot?]

theorem finish_eq (g : Grammar ω ρ) (slot : NodeId) (blueprint : Blueprint ω ρ)
    (children : Vector NodeId blueprint.arity) :
    g.finish slot blueprint children =
      match (g.keyOf blueprint children).bind g.shared.find? with
      | some existing => (existing, g.fill slot (.forward existing))
      | none =>
        (slot, (g.share (g.keyOf blueprint children) slot).fill slot
          (.ready (g.assembled blueprint children))) := by
  have described : ∀ id, (g.share (g.keyOf blueprint children) slot).childDescription id =
      g.childDescription id := by
    intro id
    rw [childDescription, childDescription, description?, description?,
      node?_congr (slots_share g _ slot)]
  simp only [assembled, ← described]
  rfl

/-- A node that is finished either gives way to the one that is listed under its key, or
it takes its slot and is listed. -/
theorem finish_cases (g : Grammar ω ρ) (slot : NodeId) (blueprint : Blueprint ω ρ)
    (children : Vector NodeId blueprint.arity) :
    (∃ key existing, g.keyOf blueprint children = some key ∧
      g.shared.find? key = some existing ∧
      g.finish slot blueprint children = (existing, g.fill slot (.forward existing))) ∨
    ((∀ key, g.keyOf blueprint children = some key → g.shared.find? key = none) ∧
      g.finish slot blueprint children =
        (slot, (g.share (g.keyOf blueprint children) slot).fill slot
          (.ready (g.assembled blueprint children)))) := by
  have whole := finish_eq g slot blueprint children
  cases listed : (g.keyOf blueprint children).bind g.shared.find? with
  | some existing =>
      obtain ⟨key, hasKey, found⟩ := Option.bind_eq_some_iff.mp listed
      rw [listed] at whole
      exact .inl ⟨key, existing, hasKey, found, whole⟩
  | none =>
      rw [listed] at whole
      refine .inr ⟨fun key hasKey => ?_, whole⟩
      rw [hasKey] at listed
      exact listed

/-! ## What each step keeps -/

namespace Tidy

variable {g : Grammar ω ρ}

/-- A change of the notes that keeps them within the grammar. -/
theorem of_slots {g' : Grammar ω ρ} (tidy : g.Tidy) (slots : g'.slots = g.slots)
    (shared : g'.shared = g.shared)
    (nodes : ∀ place id, g'.nodes.find? place = some id → id.number < g.size)
    (thunks : ∀ thunk id, g'.thunks.find? thunk = some id → id.number < g.size)
    (literals : ∀ l id, g'.literals.find? l = some id → id.number < g.size)
    (sequences : ∀ place id, g'.sequences.find? place = some id → id.number < g.size)
    (unique : g'.nodes.Unique ∧ g'.thunks.Unique ∧ g'.literals.Unique ∧ g'.sequences.Unique) :
    g'.Tidy := by
  have size : g'.size = g.size := by rw [Grammar.size, slots, Grammar.size]
  have slot? : ∀ id, g'.slot? id = g.slot? id := fun id => by
    rw [Grammar.slot?, slots, Grammar.slot?]
  constructor
  · exact tidy.acyclic.congr slots
  · intro id target forwards
    rw [size]
    exact tidy.forwards id target (slot? id ▸ forwards)
  · intro id node ready
    rw [size]
    exact tidy.children id node (slot? id ▸ ready)
  · rw [size]
    exact nodes
  · rw [size]
    exact thunks
  · rw [size]
    exact literals
  · rw [size]
    exact sequences
  · intro key id
    rw [shared, slot?]
    exact tidy.shared key id
  · rw [shared]
    exact ⟨tidy.unique.1, unique⟩

theorem widened (tidy : g.Tidy) : g.widened.Tidy := by
  have ready : ∀ id node, g.widened.slot? id = some (.ready node) ↔
      g.slot? id = some (.ready node) := by
    intro id node
    rw [slot?_widened]
    split
    next last =>
      constructor
      · intro impossible
        cases impossible
      · intro there
        have := slot?_lt there
        omega
    next => exact Iff.rfl
  constructor
  · exact tidy.acyclic.widened
  · intro id target forwards
    have := tidy.forwards id target (slot?_widened_forward.mp forwards)
    rw [size_widened]
    omega
  · intro id node isReady child member
    have := tidy.children id node ((ready id node).mp isReady) child member
    rw [size_widened]
    omega
  · intro place id found
    rw [size_widened]
    exact Nat.lt_succ_of_lt (tidy.nodes place id found)
  · intro thunk id found
    rw [size_widened]
    exact Nat.lt_succ_of_lt (tidy.thunks thunk id found)
  · intro l id found
    rw [size_widened]
    exact Nat.lt_succ_of_lt (tidy.literals l id found)
  · intro place id found
    rw [size_widened]
    exact Nat.lt_succ_of_lt (tidy.sequences place id found)
  · intro key id
    simp only [ready]
    exact tidy.shared key id
  · exact tidy.unique

theorem noteNode (tidy : g.Tidy) {own : Option Place} {slot : NodeId}
    (last : slot.number = g.size) : (g.widened.noteNode own slot).Tidy := by
  have wide := tidy.widened
  cases own with
  | none => exact wide
  | some place =>
      obtain ⟨_, nodes, others⟩ := wide.unique
      refine wide.of_slots rfl rfl ?_ wide.thunks wide.literals wide.sequences
        ⟨nodes.insert place slot, others⟩
      exact Table.find?_insert_lt wide.nodes (by rw [size_widened]; omega)

theorem noteThunk (tidy : g.Tidy) {thunk : Thunk} {label : Option String} {slot : NodeId}
    (last : slot.number = g.size) : (g.widened.noteThunk thunk label slot).Tidy := by
  have wide := tidy.widened
  obtain ⟨_, nodes, thunks, others⟩ := wide.unique
  refine wide.of_slots rfl rfl wide.nodes ?_ wide.literals wide.sequences
    ⟨nodes, thunks.insert thunk slot, others⟩
  exact Table.find?_insert_lt wide.thunks (by rw [size_widened]; omega)

theorem noteLiteral (tidy : g.Tidy) (l : Literal) {id : NodeId} (small : id.number < g.size) :
    (g.noteLiteral l id).Tidy := by
  obtain ⟨_, nodes, thunks, literals, sequences⟩ := tidy.unique
  refine tidy.of_slots rfl rfl tidy.nodes tidy.thunks ?_ tidy.sequences
    ⟨nodes, thunks, literals.insert l id, sequences⟩
  exact Table.find?_insert_lt tidy.literals small

theorem noteSequence (tidy : g.Tidy) (place : Place) {id : NodeId}
    (small : id.number < g.size) : (g.noteSequence place id).Tidy := by
  obtain ⟨_, nodes, thunks, literals, sequences⟩ := tidy.unique
  refine tidy.of_slots rfl rfl tidy.nodes tidy.thunks tidy.literals ?_
    ⟨nodes, thunks, literals, sequences.insert place id⟩
  exact Table.find?_insert_lt tidy.sequences small

section Reserved

variable {slot : NodeId} (tidy : g.Tidy) (reserved : g.slot? slot = some .reserved)

include tidy reserved

theorem fill_forward {target : NodeId} (elsewhere : g.follow target ≠ slot)
    (small : target.number < g.size) : (g.fill slot (.forward target)).Tidy := by
  have slots := slot?_fill (slot?_lt reserved) (.forward target)
  have ready : ∀ id node, (g.fill slot (.forward target)).slot? id = some (.ready node) ↔
      g.slot? id = some (.ready node) := by
    intro id node
    rw [slots]
    split
    next same =>
      subst same
      rw [reserved]
      simp
    next => exact Iff.rfl
  constructor
  · exact tidy.acyclic.fill_forward reserved elsewhere
  · intro id next forwards
    rw [size_fill]
    rw [slots] at forwards
    split at forwards
    next =>
      cases forwards
      exact small
    next => exact tidy.forwards id next forwards
  · intro id node isReady
    rw [size_fill]
    exact tidy.children id node ((ready id node).mp isReady)
  · rw [size_fill]
    exact tidy.nodes
  · rw [size_fill]
    exact tidy.thunks
  · rw [size_fill]
    exact tidy.literals
  · rw [size_fill]
    exact tidy.sequences
  · intro key id
    simp only [ready]
    exact tidy.shared key id
  · exact tidy.unique

theorem fill_ready {node : Resolved ω ρ}
    (children : ∀ child ∈ node.children, child.number < g.size)
    (unlisted : ∀ key, node.key = some key → g.shared.find? key = none) :
    ((g.share node.key slot).fill slot (.ready node)).Tidy := by
  have there : (g.share node.key slot).slot? slot = some .reserved :=
    (slot?_share g node.key slot slot).trans reserved
  have slots : ∀ id, ((g.share node.key slot).fill slot (.ready node)).slot? id =
      if id = slot then some (.ready node) else g.slot? id := by
    intro id
    rw [slot?_fill (slot?_lt there), slot?_share]
  have shared : ∀ key id,
      ((g.share node.key slot).fill slot (.ready node)).shared.find? key = some id ↔
        (node.key = some key ∧ id = slot) ∨ (g.shared.find? key = some id) := by
    intro key id
    cases hasKey : node.key with
    | none =>
        constructor
        · exact .inr
        · rintro (⟨impossible, _⟩ | found)
          · cases impossible
          · exact found
    | some own =>
        rw [show ((g.share (some own) slot).fill slot (.ready node)).shared =
          g.shared.insert own slot from rfl, Table.find?_insert]
        by_cases same : key = own
        · subst same
          rw [if_pos rfl, unlisted key hasKey]
          simp [eq_comm]
        · rw [if_neg same]
          simp [Ne.symm same]
  constructor
  · exact (tidy.acyclic.congr (slots_share g node.key slot)).fill_ready there node
  · intro id target forwards
    rw [size_fill, size_share]
    rw [slots] at forwards
    split at forwards
    next => cases forwards
    next => exact tidy.forwards id target forwards
  · intro id other isReady
    rw [size_fill, size_share]
    rw [slots] at isReady
    split at isReady
    next =>
      cases isReady
      exact children
    next => exact tidy.children id other isReady
  · rw [size_fill, size_share]
    cases node.key <;> exact tidy.nodes
  · rw [size_fill, size_share]
    cases node.key <;> exact tidy.thunks
  · rw [size_fill, size_share]
    cases node.key <;> exact tidy.literals
  · rw [size_fill, size_share]
    cases node.key <;> exact tidy.sequences
  · intro key id
    rw [shared, slots]
    by_cases same : id = slot
    · subst same
      rw [if_pos rfl]
      constructor
      · rintro (⟨hasKey, _⟩ | found)
        · exact ⟨node, rfl, hasKey⟩
        · obtain ⟨other, ready, _⟩ := (tidy.shared key id).mp found
          rw [reserved] at ready
          cases ready
      · rintro ⟨other, ready, hasKey⟩
        cases ready
        exact .inl ⟨hasKey, rfl⟩
    · rw [if_neg same, ← tidy.shared key id]
      simp [same]
  · obtain ⟨listed, others⟩ := tidy.unique
    cases node.key with
    | none => exact ⟨listed, others⟩
    | some key => exact ⟨listed.insert key slot, others⟩

end Reserved

theorem finish {slot : NodeId} (tidy : g.Tidy) (reserved : g.slot? slot = some .reserved)
    {blueprint : Blueprint ω ρ} {children : Vector NodeId blueprint.arity}
    (within : ∀ index : Fin blueprint.arity, (children.get index).number < g.size) :
    (g.finish slot blueprint children).2.Tidy ∧
      (g.finish slot blueprint children).1.number < g.size ∧
      (∀ id, id ≠ slot → (g.finish slot blueprint children).2.slot? id = g.slot? id) ∧
      (g.finish slot blueprint children).2.slot? slot ≠ some .reserved := by
  have small := slot?_lt reserved
  rcases finish_cases g slot blueprint children with
    ⟨key, existing, hasKey, listed, whole⟩ | ⟨unlisted, whole⟩
  all_goals rw [whole]
  · obtain ⟨node, ready, _⟩ := (tidy.shared key existing).mp listed
    have stays : g.follow existing = existing :=
      follow_of_not_forward fun target forwards => by
        rw [ready] at forwards
        cases forwards
    have elsewhere : existing ≠ slot := by
      rintro rfl
      rw [ready] at reserved
      cases reserved
    refine ⟨tidy.fill_forward reserved (stays.symm ▸ elsewhere) (slot?_lt ready),
      slot?_lt ready, fun id different => ?_, ?_⟩
    · rw [slot?_fill small, if_neg different]
    · rw [slot?_fill small, if_pos rfl]
      simp
  · have members : ∀ child ∈ (g.assembled blueprint children).children,
        child.number < g.size := by
      intro child member
      rw [children_assembled] at member
      obtain ⟨index, rfl⟩ := List.mem_ofFn.mp member
      exact within index
    have wide : slot.number < (g.share (g.keyOf blueprint children) slot).size := by
      rw [size_share]
      exact small
    refine ⟨tidy.fill_ready reserved members unlisted, small, fun id different => ?_, ?_⟩
    · rw [slot?_fill wide, if_neg different, slot?_share]
    · rw [slot?_fill wide, if_pos rfl]
      simp

end Tidy

theorem Grows.finish {g g' : Grammar ω ρ} (grows : g.Grows g') {slot : NodeId}
    (new : g.size ≤ slot.number) (blueprint : Blueprint ω ρ)
    (children : Vector NodeId blueprint.arity) :
    g.Grows (g'.finish slot blueprint children).2 := by
  rcases finish_cases g' slot blueprint children with ⟨_, _, _, _, whole⟩ | ⟨unlisted, whole⟩
  all_goals
    rw [whole]
    refine Grows.fill ?_ new _
  · exact grows
  · cases hasKey : g'.keyOf blueprint children with
    | none => exact grows
    | some key =>
        exact { grows with
          shared := grows.shared.trans (.insert (unlisted key hasKey) new) (Nat.le_refl _) }

/-- No slot has been reserved since that is reserved still. -/
def Settled (g g' : Grammar ω ρ) : Prop :=
  ∀ id : NodeId, g.size ≤ id.number → g'.slot? id ≠ some .reserved

theorem Settled.refl (g : Grammar ω ρ) : g.Settled g := by
  intro id large reserved
  have := slot?_lt reserved
  omega

theorem Settled.trans {g middle g' : Grammar ω ρ} (first : g.Settled middle)
    (second : middle.Settled g') (grows : middle.Grows g') : g.Settled g' := by
  intro id large
  by_cases old : id.number < middle.size
  · rw [grows.slot? old]
    exact first id large
  · exact second id (Nat.le_of_not_lt old)

/-- What holds after children have been resolved one after the other. -/
theorem settled_of_steps {states : Nat → Grammar ω ρ} (tidy : (states 0).Tidy) {count : Nat}
    (steps : ∀ index, index < count → (states index).Tidy →
      (states index).Grows (states (index + 1)) ∧ (states (index + 1)).Tidy ∧
        (states index).Settled (states (index + 1)))
    {first last : Nat} (order : first ≤ last) (within : last ≤ count) :
    (states first).Grows (states last) ∧ (states last).Tidy ∧
      (states first).Settled (states last) := by
  have tidyAt : ∀ index, index ≤ count → (states index).Tidy := by
    intro index bound
    induction index with
    | zero => exact tidy
    | succ index induction => exact (steps index bound (induction (by omega))).2.1
  induction order with
  | refl => exact ⟨.refl _, tidyAt first within, .refl _⟩
  | @step last _ induction =>
      obtain ⟨grows, tidyHere, settled⟩ := induction (by omega)
      obtain ⟨more, tidyThen, settledThen⟩ := steps last within tidyHere
      exact ⟨grows.trans more, tidyThen, settled.trans settledThen more⟩

/-- A slot that has been noted for a node is reserved. -/
theorem slot?_noteNode {g : Grammar ω ρ} {slot : NodeId} (last : slot.number = g.size)
    (own : Option Place) : (g.widened.noteNode own slot).slot? slot = some .reserved := by
  rw [slot?, slots_noteNode]
  exact (slot?_widened g slot).trans (if_pos last)

theorem slot?_noteThunk {g : Grammar ω ρ} {slot : NodeId} (last : slot.number = g.size)
    (thunk : Thunk) (label : Option String) :
    (g.widened.noteThunk thunk label slot).slot? slot = some .reserved :=
  (slot?_widened g slot).trans (if_pos last)

/-- Whatever is resolved, older slots stay as they are and the grammar stays in order;
and if it can be resolved, no slot stays reserved. -/
theorem Resolves.keeps {rules : Rules ω ρ} {errand : Errand ω ρ} {g g' : Grammar ω ρ}
    {result : Except ResolveError NodeId} (resolves : Resolves rules errand g result g')
    (tidy : g.Tidy) :
    g.Grows g' ∧ g'.Tidy ∧
      ∀ id, result = .ok id → id.number < g'.size ∧ g.Settled g' := by
  induction resolves with
  | known_node known =>
      refine ⟨.refl _, tidy, fun id found => ?_⟩
      cases found
      exact ⟨tidy.nodes _ _ known, .refl _⟩
  | new_node _ _ induction => exact induction tidy
  | known_literal known =>
      refine ⟨.refl _, tidy, fun id found => ?_⟩
      cases found
      exact ⟨tidy.literals _ _ known, .refl _⟩
  | refused_literal => exact ⟨.refl _, tidy, nofun⟩
  | new_literal unknown _ _ induction =>
      obtain ⟨grows, tidyThen, settles⟩ := induction tidy
      obtain ⟨small, settled⟩ := settles _ rfl
      have smallEnd := tidyThen.acyclic.follow_lt tidyThen.forwards small
      refine ⟨grows.noteLiteral unknown _, tidyThen.noteLiteral _ smallEnd, fun id found => ?_⟩
      cases found
      exact ⟨smallEnd, settled⟩
  | failed_literal _ _ _ induction =>
      obtain ⟨grows, tidyThen, _⟩ := induction tidy
      exact ⟨grows, tidyThen, nofun⟩
  | known_sequence known =>
      refine ⟨.refl _, tidy, fun id found => ?_⟩
      cases found
      exact ⟨tidy.sequences _ _ known, .refl _⟩
  | new_sequence unknown _ induction =>
      obtain ⟨grows, tidyThen, settles⟩ := induction tidy
      obtain ⟨small, settled⟩ := settles _ rfl
      refine ⟨grows.noteSequence unknown _, tidyThen.noteSequence _ small, fun id found => ?_⟩
      cases found
      exact ⟨small, settled⟩
  | failed_sequence _ _ induction =>
      obtain ⟨grows, tidyThen, _⟩ := induction tidy
      exact ⟨grows, tidyThen, nofun⟩
  | rule _ induction => exact induction tidy
  | delayed _ induction => exact induction tidy
  | parser _ induction => exact induction tidy
  | foreign_handle => exact ⟨.refl _, tidy, nofun⟩
  | own_handle small =>
      refine ⟨.refl _, tidy, fun id found => ?_⟩
      cases found
      exact ⟨tidy.acyclic.follow_lt tidy.forwards small, .refl _⟩
  | unknown_handle => exact ⟨.refl _, tidy, nofun⟩
  | no_slot_for_node => exact ⟨.refl _, tidy, nofun⟩
  | @failed_child g g' own blueprint children place slot states ids failed error unknown last
      begins _ _ steps fails =>
      have noted : g.Grows (states 0) := begins ▸ .noteNode last unknown
      have tidyStart : (states 0).Tidy := begins ▸ tidy.noteNode last
      have chain := @settled_of_steps _ _ states tidyStart failed
        fun index before tidyHere => by
          obtain ⟨grows, tidyThen, settles⟩ := steps ⟨index, by omega⟩ before tidyHere
          exact ⟨grows, tidyThen, (settles _ rfl).2⟩
      obtain ⟨grows, tidyHere, _⟩ := chain (Nat.zero_le failed) (Nat.le_refl _)
      obtain ⟨more, tidyThen, _⟩ := fails tidyHere
      exact ⟨(noted.trans grows).trans more, tidyThen, nofun⟩
  | @made g own blueprint children place slot states ids given unknown last begins _ isGiven
      steps =>
      have noted : g.Grows (states 0) := begins ▸ .noteNode last unknown
      have tidyStart : (states 0).Tidy := begins ▸ tidy.noteNode last
      have reserved : (states 0).slot? slot = some .reserved := begins ▸ slot?_noteNode last own
      have chain := @settled_of_steps _ _ states tidyStart blueprint.arity
        fun index before tidyHere => by
          obtain ⟨grows, tidyThen, settles⟩ := steps ⟨index, before⟩ tidyHere
          exact ⟨grows, tidyThen, (settles _ rfl).2⟩
      obtain ⟨grows, tidyHere, settled⟩ := chain (Nat.zero_le _) (Nat.le_refl _)
      have stillReserved := grows.kept reserved
      have within : ∀ index : Fin blueprint.arity,
          (given.get index).number < (states blueprint.arity).size := by
        intro index
        obtain ⟨_, tidyBefore, _⟩ := chain (Nat.zero_le index) (Nat.le_of_lt index.isLt)
        obtain ⟨_, tidyThen, settles⟩ := steps index tidyBefore
        have small := tidyThen.acyclic.follow_lt tidyThen.forwards (settles _ rfl).1
        rw [isGiven]
        exact Nat.lt_of_lt_of_le small (chain index.isLt (Nat.le_refl _)).1.size
      obtain ⟨tidyThen, small, others, filled⟩ := tidyHere.finish stillReserved within
      refine ⟨(noted.trans grows).finish (Nat.le_of_eq last.symm) blueprint given, tidyThen,
        fun id found => ?_⟩
      cases found
      refine ⟨by rw [size_finish]; exact small, fun other large => ?_⟩
      by_cases same : other = slot
      · rw [same]
        exact filled
      · rw [others other same]
        refine settled other ?_
        have different : other.number ≠ slot.number := fun equal => same (Index.ext equal)
        rw [begins, size_noteNode, size_widened]
        omega
  | known_thunk known =>
      refine ⟨.refl _, tidy, fun id found => ?_⟩
      cases found
      exact ⟨tidy.thunks _ _ known, .refl _⟩
  | no_slot_for_thunk => exact ⟨.refl _, tidy, nofun⟩
  | failed_body unknown last _ induction =>
      obtain ⟨grows, tidyThen, _⟩ := induction (tidy.noteThunk last)
      exact ⟨(Grows.noteThunk last unknown).trans grows, tidyThen, nofun⟩
  | circular unknown last _ _ induction =>
      obtain ⟨grows, tidyThen, _⟩ := induction (tidy.noteThunk last)
      exact ⟨(Grows.noteThunk last unknown).trans grows, tidyThen, nofun⟩
  | @unfolded g g' thunk label body slot target unknown last _ elsewhere induction =>
      obtain ⟨grows, tidyThen, settles⟩ := induction (tidy.noteThunk last)
      obtain ⟨small, settled⟩ := settles _ rfl
      have noted := slot?_noteThunk last thunk label
      have reserved := grows.kept noted
      refine ⟨((Grows.noteThunk last unknown).trans grows).fill (Nat.le_of_eq last.symm) _,
        tidyThen.fill_forward reserved elsewhere small, fun id found => ?_⟩
      cases found
      refine ⟨by rw [size_fill]; exact small, fun other large => ?_⟩
      rw [slot?_fill (slot?_lt reserved)]
      by_cases same : other = slot
      · rw [if_pos same]
        simp
      · rw [if_neg same]
        refine settled other ?_
        have different : other.number ≠ slot.number := fun equal => same (Index.ext equal)
        rw [size_noteThunk, size_widened]
        omega

/-- What holds while the children of a node are resolved. -/
theorem settled_of_children {rules : Rules ω ρ} {states : Nat → Grammar ω ρ} {arity : Nat}
    {children : Fin arity → Reference ω ρ} {ids : Fin arity → NodeId} {place : Place}
    (tidy : (states 0).Tidy) {count : Nat} (within : count ≤ arity)
    (resolved : ∀ index : Fin arity, index < count →
      Resolves rules (.written (children index) (place.child index)) (states index)
        (.ok (ids index)) (states (index + 1)))
    {first last : Nat} (order : first ≤ last) (bound : last ≤ count) :
    (states first).Grows (states last) ∧ (states last).Tidy ∧
      (states first).Settled (states last) := by
  apply settled_of_steps tidy _ order bound
  intro index before tidyHere
  obtain ⟨grows, tidyThen, settles⟩ :=
    (resolved ⟨index, Nat.lt_of_lt_of_le before within⟩ before).keeps tidyHere
  exact ⟨grows, tidyThen, (settles _ rfl).2⟩

/-- The slot that was reserved for a node is still reserved when the node's children have
been resolved. -/
theorem reserved_after_children {rules : Rules ω ρ} {g : Grammar ω ρ}
    {states : Nat → Grammar ω ρ} {own : Option Place} {slot : NodeId} {arity : Nat}
    {children : Fin arity → Reference ω ρ} {ids : Fin arity → NodeId} {place : Place}
    (tidy : g.Tidy) (last : slot.number = g.size) (begins : states 0 = g.widened.noteNode own slot)
    (resolved : ∀ index : Fin arity,
      Resolves rules (.written (children index) (place.child index)) (states index)
        (.ok (ids index)) (states (index + 1))) :
    (states 0).Grows (states arity) ∧ (states arity).Tidy ∧
      (states arity).slot? slot = some .reserved := by
  obtain ⟨grows, tidyThen, _⟩ := settled_of_children (begins ▸ tidy.noteNode last)
    (Nat.le_refl _) (fun index _ => resolved index) (Nat.zero_le _) (Nat.le_refl _)
  have noted : (states 0).slot? slot = some .reserved := begins ▸ slot?_noteNode last own
  exact ⟨grows, tidyThen, grows.kept noted⟩

/-- The slot that was reserved for a rule is still reserved when its body has been resolved. -/
theorem reserved_after_body {rules : Rules ω ρ} {g g' : Grammar ω ρ} {thunk : Thunk}
    {label : Option String} {body : Reference ω ρ} {place : Place} {slot : NodeId}
    {result : Except ResolveError NodeId} (tidy : g.Tidy) (last : slot.number = g.size)
    (resolves : Resolves rules (.written body place) (g.widened.noteThunk thunk label slot)
      result g') :
    (g.widened.noteThunk thunk label slot).Grows g' ∧ g'.Tidy ∧
      g'.slot? slot = some .reserved := by
  obtain ⟨grows, tidyThen, _⟩ := resolves.keeps (tidy.noteThunk last)
  exact ⟨grows, tidyThen, grows.kept (slot?_noteThunk last thunk label)⟩

/-- What each child keeps, all of them keep. -/
theorem kept_of_children {rules : Rules ω ρ} {states : Nat → Grammar ω ρ} {arity : Nat}
    {children : Fin arity → Reference ω ρ} {ids : Fin arity → NodeId} {place : Place}
    (holds : Nat → Prop) (tidy : (states 0).Tidy) (start : holds 0) {count : Nat}
    (within : count ≤ arity)
    (resolved : ∀ index : Fin arity, index < count →
      Resolves rules (.written (children index) (place.child index)) (states index)
        (.ok (ids index)) (states (index + 1)))
    (steps : ∀ index : Fin arity, index < count → (states 0).Grows (states index) →
      (states 0).Settled (states index) → (states index).Tidy → holds index →
      holds (index + 1)) :
    holds count := by
  induction count with
  | zero => exact start
  | succ count induction =>
      have before := induction (by omega) (fun index earlier => resolved index (by omega))
        fun index earlier => steps index (by omega)
      obtain ⟨grows, tidyHere, settled⟩ :=
        settled_of_children tidy within resolved (Nat.zero_le count) (Nat.le_succ count)
      exact steps ⟨count, within⟩ (Nat.lt_succ_self count) grows settled tidyHere before

/-! ## Undoing a resolution -/

section Rollback

variable {g g' : Grammar ω ρ} (grows : g.Grows g')

include grows

theorem Grows.slots_rollback : (g'.rollback g.size).slots = g.slots := by
  have size : g.slots.size ≤ g'.slots.size := grows.size
  apply Array.ext
  · simp only [rollback, Array.take_eq_extract, Array.size_extract, Nat.sub_zero]
    exact Nat.min_eq_left size
  · intro number _ small
    have same := grows.slots number small
    rw [Array.getElem?_eq_getElem small,
      Array.getElem?_eq_getElem (Nat.lt_of_lt_of_le small size)] at same
    simpa [rollback] using Option.some.inj same

theorem Grows.size_rollback : (g'.rollback g.size).size = g.size := by
  rw [Grammar.size, grows.slots_rollback, Grammar.size]

section

variable (tidy : g.Tidy) (tidyThen : g'.Tidy)

include tidy tidyThen

theorem Grows.shared_rollback (key : String) :
    (g'.rollback g.size).shared.find? key = g.shared.find? key := by
  apply grows.shared.find?_keep tidyThen.unique.1
  intro key id found
  obtain ⟨node, ready, _⟩ := (tidy.shared key id).mp found
  exact slot?_lt ready

theorem Grows.nodes_rollback (place : Place) :
    (g'.rollback g.size).nodes.find? place = g.nodes.find? place :=
  grows.nodes.find?_keep tidyThen.unique.2.1 tidy.nodes place

theorem Grows.thunks_rollback (thunk : Thunk) :
    (g'.rollback g.size).thunks.find? thunk = g.thunks.find? thunk :=
  grows.thunks.find?_keep tidyThen.unique.2.2.1 tidy.thunks thunk

/-- Undoing a resolution drops what was reserved and brings back the grammar, but for
what the lists of literals and sequences say about older slots. -/
theorem Grows.tidy_rollback : (g'.rollback g.size).Tidy := by
  obtain ⟨shared, nodes, thunks, literals, sequences⟩ := tidyThen.unique
  have slots := grows.slots_rollback
  have size := grows.size_rollback
  have slot? : ∀ id, (g'.rollback g.size).slot? id = g.slot? id := fun id => by
    rw [Grammar.slot?, slots, Grammar.slot?]
  constructor
  · exact tidy.acyclic.congr slots
  · intro id target forwards
    rw [size]
    exact tidy.forwards id target (slot? id ▸ forwards)
  · intro id node ready
    rw [size]
    exact tidy.children id node (slot? id ▸ ready)
  · intro place id found
    rw [size]
    exact tidy.nodes place id ((grows.nodes_rollback tidy tidyThen place).symm.trans found)
  · intro thunk id found
    rw [size]
    exact tidy.thunks thunk id ((grows.thunks_rollback tidy tidyThen thunk).symm.trans found)
  · intro l id found
    rw [size]
    exact decide_eq_true_iff.mp ((Table.find?_keep_eq_some literals).mp found).2
  · intro place id found
    rw [size]
    exact decide_eq_true_iff.mp ((Table.find?_keep_eq_some sequences).mp found).2
  · intro key id
    rw [grows.shared_rollback tidy tidyThen, slot?]
    exact tidy.shared key id
  · exact ⟨shared.keep _, nodes.keep _, thunks.keep _, literals.keep _, sequences.keep _⟩

/-- What is left after undoing is no less than what there was. -/
theorem Grows.grows_rollback : g.Grows (g'.rollback g.size) where
  number := grows.number
  kind := grows.kind
  size := Nat.le_of_eq grows.size_rollback.symm
  slots _ _ := by rw [grows.slots_rollback]
  shared := .of_same (grows.shared_rollback tidy tidyThen)
  nodes := .of_same (grows.nodes_rollback tidy tidyThen)
  thunks := .of_same (grows.thunks_rollback tidy tidyThen)
  literals l id found := by
    apply (Table.find?_keep_eq_some tidyThen.unique.2.2.2.1).mpr
    exact ⟨grows.literals l id found, decide_eq_true (tidy.literals l id found)⟩
  sequences place id found := by
    apply (Table.find?_keep_eq_some tidyThen.unique.2.2.2.2).mpr
    exact ⟨grows.sequences place id found, decide_eq_true (tidy.sequences place id found)⟩
  unfoldings := grows.unfoldings

end

end Rollback

/-- A resolution, successful or not, leaves older slots and what the tables say alone. -/
theorem Tidy.grows_resolve {g : Grammar ω ρ} (tidy : g.Tidy) (rules : Rules ω ρ) (place : Place)
    (reference : Reference ω ρ) : g.Grows (g.resolve rules place reference).2 := by
  rcases resolve_resolves rules g place reference with
    ⟨id, g', resolved, resolves⟩ | ⟨error, g', resolved, resolves⟩
  all_goals
    rw [resolved]
    obtain ⟨grows, tidyThen, _⟩ := resolves.keeps tidy
  · exact grows
  · exact grows.grows_rollback tidy tidyThen

/-- Between two resolutions a grammar is in order, whether they succeed or fail. -/
theorem Tidy.resolve {g : Grammar ω ρ} (tidy : g.Tidy) (complete : g.Complete)
    (rules : Rules ω ρ) (place : Place) (reference : Reference ω ρ) :
    (g.resolve rules place reference).2.Tidy ∧ (g.resolve rules place reference).2.Complete := by
  rcases resolve_resolves rules g place reference with
    ⟨id, g', resolved, resolves⟩ | ⟨error, g', resolved, resolves⟩
  all_goals
    rw [resolved]
    obtain ⟨grows, tidyThen, settles⟩ := resolves.keeps tidy
  · refine ⟨tidyThen, ?_⟩
    intro other reserved
    by_cases old : other.number < g.size
    · rw [grows.slot? old] at reserved
      exact complete other reserved
    · exact (settles id rfl).2 other (Nat.le_of_not_lt old) reserved
  · refine ⟨grows.tidy_rollback tidy tidyThen, ?_⟩
    intro other reserved
    rw [slot?, grows.slots_rollback] at reserved
    exact complete other reserved

end Grammar

end Packrat
