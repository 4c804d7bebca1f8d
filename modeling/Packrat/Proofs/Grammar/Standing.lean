import Packrat.Proofs.Grammar.Ledger
import Packrat.Proofs.Grammar.Making
import Packrat.Proofs.Grammar.SharingKey
import Packrat.Proofs.Grammar.Tidy

/-!
# What slots stand for

`Stands` says which references a slot stands for: those that some slot with the same node
was made for, and those that are opened to such a reference.  A rule that is being
unfolded is what its slot stands for, whatever comes of it.  `Accounts` is what holds of a
grammar and its ledger at every moment of a resolution; here are the steps that keep it.
-/

namespace Packrat

namespace Grammar

variable {ω ρ : Type}

/-- A slot stands for a reference. -/
inductive Stands (rules : Rules ω ρ) (ledger : Ledger ω ρ) (g : Grammar ω ρ) :
    NodeId → Reference ω ρ → Prop where
  | made {id slot : NodeId} {reference : Reference ω ρ} :
      ledger.made slot reference → g.follow slot = g.follow id →
      Stands rules ledger g id reference
  | opened {id : NodeId} {reference body : Reference ω ρ} :
      Reference.Opens rules reference body → Stands rules ledger g id body →
      Stands rules ledger g id reference
  | pending {id slot : NodeId} {thunk : Thunk} {reference : Reference ω ρ} :
      ledger.Is thunk reference → g.thunks.find? thunk = some slot →
      g.slot? slot = some .reserved → g.follow id = slot →
      Stands rules ledger g id reference
  | handle (id : NodeId) (number : Nat) (node : NodeId) :
      Stands rules ledger g id (.handle number node)

/-- A key says what a node's name is and what its children's keys are. -/
def Spells (g : Grammar ω ρ) (blueprint : Blueprint ω ρ) (ids : Fin blueprint.arity → NodeId)
    (key : String) : Prop :=
  (blueprint.arity = 0 ∧ key = leafKey blueprint.name blueprint.leafText) ∨
    (blueprint.arity ≠ 0 ∧ ∃ keys : Fin blueprint.arity → String,
      key = branchKey blueprint.name (List.ofFn keys) ∧
      ∀ index, g.shared.find? (keys index) = some (g.follow (ids index)))

/-- A node is as the library makes those of a kind, or it stands in for one of these, whose
key it has. -/
def PassesFor (g : Grammar ω ρ) (node : Resolved ω ρ) (kind : Kind ω ρ) : Prop :=
  (∃ given, node.IsOf kind given) ∨
    ∃ key given, node.key = some key ∧ kind.cacheable = true ∧ g.Spells kind.blueprint given key

/-- A node does what a reference says, if it says what one of the library's own nodes
does, and its children stand for the children. -/
def Serves (rules : Rules ω ρ) (ledger : Ledger ω ρ) (g : Grammar ω ρ) (node : Resolved ω ρ)
    (reference : Reference ω ρ) : Prop :=
  ∀ (kind : Kind ω ρ) (children : Fin kind.arity → Reference ω ρ),
    Reference.Reads g.kind rules reference kind children → g.PassesFor node kind ∧
    ∃ (ids : Fin kind.arity → NodeId) (descriptions : Fin kind.arity → String),
      node.children = List.ofFn ids ∧
      node.matcher.Alike
        (kind.blueprint.generate fun index => ⟨ids index, descriptions index⟩) ∧
      ∀ index, Stands rules ledger g (ids index) (children index)

/-- A node with a key is of a kind that may be shared and keeps what it promises. -/
def Keyed (g : Grammar ω ρ) (node : Resolved ω ρ) (key : String) : Prop :=
  ∃ (blueprint : Blueprint ω ρ) (ids : Fin blueprint.arity → NodeId)
    (descriptions : Fin blueprint.arity → String),
    blueprint.Honest g.kind ∧ blueprint.cacheable = true ∧
    node.children = List.ofFn ids ∧
    node.matcher = blueprint.generate (fun index => ⟨ids index, descriptions index⟩) ∧
    g.Spells blueprint ids key

/-- What holds of a grammar and its ledger at every moment of a resolution. -/
structure Accounts (book : Book ω ρ) (ledger : Ledger ω ρ) (g : Grammar ω ρ) : Prop where
  nodes : ∀ place id, g.nodes.find? place = some id →
    ∃ blueprint children, ledger.written place = some (.node blueprint children) ∧
      ledger.made id (.node blueprint children)
  thunks : ∀ thunk slot, g.thunks.find? thunk = some slot →
    ∃ reference, ledger.Is thunk reference ∧ Stands book.rules ledger g slot reference
  literals : ∀ l id, g.literals.find? l = some id →
    Stands book.rules ledger g id (.literal l)
  sequences : ∀ place id, g.sequences.find? place = some id →
    ∃ count parts, ledger.written place = some (.sequence count parts) ∧
      Stands book.rules ledger g id (.sequence count parts)
  written : ∀ slot reference, ledger.made slot reference →
    ∃ input blueprint children, Reference.Builds input reference blueprint children
  made : ∀ slot reference, ledger.made slot reference → slot.number < g.size ∧
    (g.slot? slot = some .reserved ∨
      ∃ node, g.slot? (g.follow slot) = some (.ready node) ∧
        Serves book.rules ledger g node reference)
  keyed : ∀ id node key, g.slot? id = some (.ready node) → node.key = some key →
    Keyed g node key
  unfoldings : ∀ serial reference, ledger.texts (.unfolding serial) = some reference →
    serial < g.unfoldings.length
  parsers : ∀ identity, ledger.texts (.parser identity) = some (book.parsers identity)

/-! ## Slots and nodes that stay -/

namespace Grows

variable {g g' : Grammar ω ρ} (grows : g.Grows g') (tidy : g.Tidy) (tidyThen : g'.Tidy)

include grows tidy tidyThen

/-- What a slot led to before leads to where it leads now. -/
theorem follow_follow (id : NodeId) : g'.follow (g.follow id) = g'.follow id := by
  obtain ⟨_, ends⟩ := tidy.acyclic.ends id
  obtain ⟨_, rest⟩ := tidyThen.acyclic.ends (g.follow id)
  have kept : ∀ slot target, g.slot? slot = some (.forward target) →
      g'.slot? slot = some (.forward target) := fun _ _ forwards => grows.kept forwards
  exact (ends.trans kept rest).follow_eq.symm

theorem follow_congr {id other : NodeId} (same : g.follow id = g.follow other) :
    g'.follow id = g'.follow other := by
  rw [← grows.follow_follow tidy tidyThen id, ← grows.follow_follow tidy tidyThen other, same]

theorem follow_eq_of_slot? {id last : NodeId} {slot : Slot ω ρ} (leads : g.follow id = last)
    (there : g.slot? last = some slot) (final : ∀ target, slot ≠ .forward target) :
    g'.follow id = last := by
  rw [← grows.follow_follow tidy tidyThen id, leads]
  apply follow_of_not_forward
  intro target forwards
  rw [grows.kept there] at forwards
  exact final target (Option.some.inj forwards)

theorem follow_eq_of_ready {id : NodeId} {node : Resolved ω ρ}
    (ready : g.slot? (g.follow id) = some (.ready node)) : g'.follow id = g.follow id := by
  apply grows.follow_eq_of_slot? tidy tidyThen rfl ready
  intro target impossible
  cases impossible

end Grows

section

variable {rules : Rules ω ρ} {ledger later : Ledger ω ρ} {g g' : Grammar ω ρ}

theorem Stands.congr {id other : NodeId} {reference : Reference ω ρ}
    (stands : Stands rules ledger g id reference) (same : g.follow id = g.follow other) :
    Stands rules ledger g other reference := by
  induction stands with
  | made isMade leads => exact .made isMade (leads.trans same)
  | opened opens _ induction => exact .opened opens induction
  | pending isThunk listed reserved leads =>
      exact .pending isThunk listed reserved (same.symm.trans leads)
  | handle => exact .handle ..

/-- A slot goes on standing for what it stood for, if what is pending does. -/
theorem Stands.transfer {id : NodeId} {reference : Reference ω ρ}
    (stands : Stands rules ledger g id reference)
    (made : ∀ slot reference, ledger.made slot reference → later.made slot reference)
    (follow : ∀ other, g.follow other = g.follow id → g'.follow other = g'.follow id)
    (pending : ∀ thunk reference, ledger.Is thunk reference →
      g.thunks.find? thunk = some (g.follow id) → g.slot? (g.follow id) = some .reserved →
      Stands rules later g' id reference) : Stands rules later g' id reference := by
  induction stands with
  | made isMade leads => exact .made (made _ _ isMade) (follow _ leads)
  | opened opens _ induction => exact .opened opens induction
  | pending isThunk listed reserved leads =>
      subst leads
      exact pending _ _ isThunk listed reserved
  | handle => exact .handle ..

theorem Stands.grows {id : NodeId} {reference : Reference ω ρ}
    (stands : Stands rules ledger g id reference) (grows : g.Grows g') (tidy : g.Tidy)
    (tidyThen : g'.Tidy) (more : Ledger.Grows g ledger later) :
    Stands rules later g' id reference := by
  apply stands.transfer more.made
  · intro other same
    exact grows.follow_congr tidy tidyThen same
  · intro thunk reference isThunk listed reserved
    have still := grows.kept reserved
    apply Stands.pending (more.is isThunk) (grows.thunks.kept _ _ listed) still
    apply grows.follow_eq_of_slot? tidy tidyThen rfl reserved
    intro target impossible
    cases impossible

theorem Spells.mono {blueprint : Blueprint ω ρ} {ids : Fin blueprint.arity → NodeId}
    {key : String} (spells : g.Spells blueprint ids key)
    (listed : ∀ key id, g.shared.find? key = some (g.follow id) →
      g'.shared.find? key = some (g'.follow id)) : g'.Spells blueprint ids key := by
  rcases spells with leaf | ⟨notLeaf, keys, isKey, each⟩
  · exact .inl leaf
  · exact .inr ⟨notLeaf, keys, isKey, fun index => listed _ _ (each index)⟩

theorem PassesFor.mono {node : Resolved ω ρ} {kind : Kind ω ρ} (passes : g.PassesFor node kind)
    (listed : ∀ key id, g.shared.find? key = some (g.follow id) →
      g'.shared.find? key = some (g'.follow id)) : g'.PassesFor node kind := by
  rcases passes with isOf | ⟨key, given, hasKey, cacheable, spells⟩
  · exact .inl isOf
  · exact .inr ⟨key, given, hasKey, cacheable, spells.mono listed⟩

theorem Serves.mono {node : Resolved ω ρ} {reference : Reference ω ρ}
    (serves : Serves rules ledger g node reference) (sameKind : g'.kind = g.kind)
    (stands : ∀ id reference, Stands rules ledger g id reference →
      Stands rules later g' id reference)
    (listed : ∀ key id, g.shared.find? key = some (g.follow id) →
      g'.shared.find? key = some (g'.follow id)) : Serves rules later g' node reference := by
  intro kind children reads
  rw [sameKind] at reads
  obtain ⟨passes, ids, descriptions, isChildren, alike, each⟩ := serves kind children reads
  exact ⟨passes.mono listed, ids, descriptions, isChildren, alike,
    fun index => stands _ _ (each index)⟩

theorem Keyed.mono {node : Resolved ω ρ} {key : String} (keyed : Keyed g node key)
    (sameKind : g'.kind = g.kind)
    (listed : ∀ key id, g.shared.find? key = some (g.follow id) →
      g'.shared.find? key = some (g'.follow id)) : Keyed g' node key := by
  obtain ⟨blueprint, ids, descriptions, honest, cacheable, isChildren, isMatcher, spelled⟩ :=
    keyed
  rw [← sameKind] at honest
  exact ⟨blueprint, ids, descriptions, honest, cacheable, isChildren, isMatcher,
    spelled.mono listed⟩

theorem Grows.listed (grows : g.Grows g') (tidy : g.Tidy) (tidyThen : g'.Tidy) (key : String)
    (id : NodeId) (there : g.shared.find? key = some (g.follow id)) :
    g'.shared.find? key = some (g'.follow id) := by
  obtain ⟨node, ready, _⟩ := (tidy.shared key _).mp there
  rw [grows.follow_eq_of_ready tidy tidyThen ready]
  exact grows.shared.kept _ _ there

end

/-! ## Keys of nodes -/

theorem describe_nil (g : Grammar ω ρ) (blueprint : Blueprint ω ρ) :
    g.describe blueprint.name blueprint.describe [] = blueprint.leafText := by
  unfold describe Blueprint.leafText
  cases blueprint.describe <;> rfl

theorem spells_of_keyOf {g : Grammar ω ρ} (tidy : g.Tidy) {blueprint : Blueprint ω ρ}
    {children : Vector NodeId blueprint.arity} {key : String}
    (isKey : g.keyOf blueprint children = some key) :
    blueprint.cacheable = true ∧ g.Spells blueprint children.get key := by
  unfold keyOf at isKey
  split at isKey
  next cacheable =>
    refine ⟨cacheable, ?_⟩
    by_cases leaf : blueprint.arity = 0
    · have none : children.toList = [] := by
        apply List.eq_nil_of_length_eq_zero
        rw [Vector.length_toList]
        exact leaf
      rw [none, sharingKey_nil, describe_nil] at isKey
      exact .inl ⟨leaf, (Option.some.inj isKey).symm⟩
    · have nonempty : children.toList ≠ [] := by
        intro none
        have := congrArg List.length none
        rw [Vector.length_toList] at this
        exact leaf this
      obtain ⟨keys, isBranch, each⟩ := (sharingKey_eq_some nonempty).mp isKey
      obtain ⟨length, each⟩ := List.forall₂_iff_get.mp each
      rw [Vector.length_toList] at length
      refine .inr ⟨leaf, fun index => keys[index], ?_, fun index => ?_⟩
      · rw [isBranch]
        congr
        apply List.ext_getElem
        · simp [length]
        · intro index _ _
          simp
      · have here := each index (by simp) (length ▸ index.isLt)
        simp only [List.get_eq_getElem, Vector.getElem_toList] at here
        obtain ⟨node, isNode, hasKey⟩ := Option.bind_eq_some_iff.mp here
        exact (tidy.shared _ _).mpr ⟨node, slot?_of_node? isNode, hasKey⟩
  next => cases isKey

theorem keyOf_of_spells {g : Grammar ω ρ} (tidy : g.Tidy) {blueprint : Blueprint ω ρ}
    {children : Vector NodeId blueprint.arity} {key : String}
    (cacheable : blueprint.cacheable = true) (spells : g.Spells blueprint children.get key) :
    g.keyOf blueprint children = some key := by
  have whole : children.toList = List.ofFn children.get := children_assembled g blueprint children
  rw [keyOf, if_pos cacheable, whole]
  rcases spells with ⟨leaf, rfl⟩ | ⟨notLeaf, keys, rfl, each⟩
  · rw [List.ofFn_eq_nil_iff.mpr leaf, sharingKey_nil, describe_nil]
  · apply (sharingKey_eq_some (by simpa using notLeaf)).mpr
    refine ⟨_, rfl, List.forall₂_iff_get.mpr ⟨by simp, fun index small _ => ?_⟩⟩
    rw [List.length_ofFn] at small
    obtain ⟨node, ready, hasKey⟩ := (tidy.shared _ _).mp (each ⟨index, small⟩)
    simp only [List.get_eq_getElem, List.getElem_ofFn, node?_of_ready ready]
    exact hasKey

theorem Spells.getLast?_ne {g : Grammar ω ρ} {blueprint : Blueprint ω ρ}
    {ids : Fin blueprint.arity → NodeId} {key : String} (spells : g.Spells blueprint ids key) :
    key.toList.getLast? ≠ some '(' := by
  rcases spells with ⟨_, rfl⟩ | ⟨_, keys, rfl, _⟩
  · exact getLast?_leafKey _ _
  · exact getLast?_branchKey _ _

theorem Spells.rename {g : Grammar ω ρ} {blueprint other : Blueprint ω ρ}
    {ids : Fin blueprint.arity → NodeId} {key : String} (spells : g.Spells blueprint ids key)
    (name : blueprint.name = other.name) (same : blueprint.arity = other.arity)
    (text : other.arity = 0 → blueprint.leafText = other.leafText) :
    g.Spells other (fun index => ids (index.cast same.symm)) key := by
  rcases spells with ⟨leaf, isKey⟩ | ⟨notLeaf, keys, isKey, each⟩
  · have otherLeaf := same.symm.trans leaf
    exact .inl ⟨otherLeaf, by rw [isKey, name, text otherLeaf]⟩
  · refine .inr ⟨same ▸ notLeaf, fun index => keys (index.cast same.symm), ?_,
      fun index => each (index.cast same.symm)⟩
    rw [isKey, name]
    exact congrArg _ (List.ofFn_congr same keys)

/-- One of the library's nodes that may be shared is told from any other by its key. -/
theorem Spells.inj {g : Grammar ω ρ} {kind : Kind ω ρ}
    {ids : Fin kind.arity → NodeId} {blueprint : Blueprint ω ρ}
    {others : Fin blueprint.arity → NodeId} {key : String}
    (closed : ∀ key id, g.shared.find? key = some id → key.toList.getLast? ≠ some '(')
    (spells : g.Spells kind.blueprint ids key) (other : g.Spells blueprint others key) :
    blueprint.name = kind.name ∧ ∃ same : blueprint.arity = kind.arity,
      (kind.arity = 0 → blueprint.leafText = kind.blueprint.leafText) ∧
      ∀ index, g.follow (others index) = g.follow (ids (index.cast same)) := by
  rcases spells with ⟨leaf, isKey⟩ | ⟨notLeaf, keys, isKey, each⟩
  · rcases other with ⟨otherLeaf, otherKey⟩ | ⟨otherNotLeaf, otherKeys, otherKey, _⟩
    · obtain ⟨name, text⟩ := leafKey_inj (isKey.symm.trans otherKey)
      refine ⟨name.symm, otherLeaf.trans leaf.symm, fun _ => text.symm, fun index => ?_⟩
      exact absurd index.isLt (by omega)
    · exact absurd (isKey.symm.trans otherKey) (leafKey_ne_branchKey _ _ _ _)
  · rcases other with ⟨otherLeaf, otherKey⟩ | ⟨otherNotLeaf, otherKeys, otherKey, otherEach⟩
    · exact absurd (otherKey.symm.trans isKey) (leafKey_ne_branchKey _ _ _ _)
    · have ends : ∀ key ∈ List.ofFn keys, key.toList.getLast? ≠ some '(' := by
        intro key member
        obtain ⟨index, rfl⟩ := List.mem_ofFn.mp member
        exact closed _ _ (each index)
      have otherEnds : ∀ key ∈ List.ofFn otherKeys, key.toList.getLast? ≠ some '(' := by
        intro key member
        obtain ⟨index, rfl⟩ := List.mem_ofFn.mp member
        exact closed _ _ (otherEach index)
      obtain ⟨name, sameKeys⟩ := branchKey_inj ends otherEnds (isKey.symm.trans otherKey)
      have arity : blueprint.arity = kind.arity := by
        have lengths := congrArg List.length sameKeys
        rw [List.length_ofFn, List.length_ofFn] at lengths
        exact lengths.symm
      refine ⟨name.symm, arity, fun leaf => absurd leaf notLeaf, fun index => ?_⟩
      have here : keys (index.cast arity) = otherKeys index := by
        have pointwise := congrArg (fun list => list[index.val]?) sameKeys
        simp only [List.getElem?_ofFn, index.isLt, dif_pos] at pointwise
        obtain ⟨_, same⟩ := Option.dite_none_right_eq_some.mp pointwise
        exact Option.some.inj same
      have found := each (index.cast arity)
      rw [here, otherEach index] at found
      exact Option.some.inj found

/-- The node that is listed under the key of one of the library's nodes does the same. -/
theorem Keyed.alike {g : Grammar ω ρ} {node : Resolved ω ρ} {key : String}
    (keyed : Keyed g node key)
    (closed : ∀ key id, g.shared.find? key = some id → key.toList.getLast? ≠ some '(')
    {kind : Kind ω ρ} (native : kind.Native g.kind) (cacheable : kind.cacheable = true)
    {given : Fin kind.arity → NodeId}
    (spells : g.Spells kind.blueprint given key) :
    ∃ (ids : Fin kind.arity → NodeId) (descriptions : Fin kind.arity → String),
      node.children = List.ofFn ids ∧
      node.matcher.Alike
        (kind.blueprint.generate fun index => ⟨ids index, descriptions index⟩) ∧
      ∀ index, g.follow (ids index) = g.follow (given index) := by
  obtain ⟨blueprint, ids, descriptions, honest, mayShare, isChildren, isMatcher, other⟩ := keyed
  obtain ⟨name, arity, text, follow⟩ := spells.inj closed other
  have alike := honest mayShare kind native cacheable name arity text fun index =>
    ⟨ids (index.cast arity.symm), descriptions (index.cast arity.symm)⟩
  refine ⟨fun index => ids (index.cast arity.symm), fun index =>
    descriptions (index.cast arity.symm), ?_, ?_, ?_⟩
  · rw [isChildren]
    exact List.ofFn_congr arity ids
  · rw [isMatcher]
    exact alike
  · intro index
    exact follow (index.cast arity.symm)

/-! ## What each step keeps -/

namespace Accounts

variable {book : Book ω ρ} {ledger later : Ledger ω ρ} {g g' : Grammar ω ρ}

/-- What was made before is what it was. -/
theorem made_grows (accounts : Accounts book ledger g) (grows : g.Grows g') (tidy : g.Tidy)
    (tidyThen : g'.Tidy) (more : Ledger.Grows g ledger later) {slot : NodeId}
    {reference : Reference ω ρ} (isMade : ledger.made slot reference) :
    slot.number < g'.size ∧ (g'.slot? slot = some .reserved ∨
      ∃ node, g'.slot? (g'.follow slot) = some (.ready node) ∧
        Serves book.rules later g' node reference) := by
  obtain ⟨small, state⟩ := accounts.made slot reference isMade
  refine ⟨Nat.lt_of_lt_of_le small grows.size, ?_⟩
  rcases state with reserved | ⟨node, ready, serves⟩
  · exact .inl ((grows.slot? small).trans reserved)
  · have stays := fun id reference (stands : Stands book.rules ledger g id reference) =>
      stands.grows grows tidy tidyThen more
    refine .inr ⟨node, ?_, serves.mono grows.kind stays (grows.listed tidy tidyThen)⟩
    rw [grows.follow_eq_of_ready tidy tidyThen ready]
    exact grows.kept ready

/-- Notes on literals and sequences that are true. -/
theorem of_slots (accounts : Accounts book ledger g) (kind : g'.kind = g.kind)
    (slots : g'.slots = g.slots) (shared : g'.shared = g.shared)
    (nodes : g'.nodes = g.nodes) (thunks : g'.thunks = g.thunks)
    (unfoldings : g'.unfoldings = g.unfoldings)
    (literals : ∀ l id, g'.literals.find? l = some id →
      Stands book.rules ledger g id (.literal l))
    (sequences : ∀ place id, g'.sequences.find? place = some id →
      ∃ count parts, ledger.written place = some (.sequence count parts) ∧
        Stands book.rules ledger g id (.sequence count parts)) :
    Accounts book ledger g' := by
  have follow : ∀ id, g'.follow id = g.follow id := Grammar.follow_congr slots
  have slot? : ∀ id, g'.slot? id = g.slot? id := fun id => by
    rw [Grammar.slot?, slots, Grammar.slot?]
  have stands : ∀ id reference, Stands book.rules ledger g id reference →
      Stands book.rules ledger g' id reference := by
    intro id reference there
    apply there.transfer fun _ _ isMade => isMade
    · intro other same
      rw [follow, follow, same]
    · intro thunk reference isThunk listed reserved
      apply Stands.pending isThunk
      · rw [thunks]
        exact listed
      · rw [slot?]
        exact reserved
      · exact follow id
  have listed : ∀ key id, g.shared.find? key = some (g.follow id) →
      g'.shared.find? key = some (g'.follow id) := by
    intro key id found
    rw [shared, follow]
    exact found
  constructor
  · rw [nodes]
    exact accounts.nodes
  · rw [thunks]
    intro thunk slot listed
    obtain ⟨reference, isThunk, there⟩ := accounts.thunks thunk slot listed
    exact ⟨reference, isThunk, stands _ _ there⟩
  · intro l id listed
    exact stands _ _ (literals l id listed)
  · intro place id listed
    obtain ⟨count, parts, isWritten, there⟩ := sequences place id listed
    exact ⟨count, parts, isWritten, stands _ _ there⟩
  · exact accounts.written
  · intro slot reference isMade
    rw [Grammar.size, slots, slot?, follow, slot?]
    obtain ⟨small, state⟩ := accounts.made slot reference isMade
    refine ⟨small, ?_⟩
    rcases state with reserved | ⟨node, ready, serves⟩
    · exact .inl reserved
    · exact .inr ⟨node, ready, serves.mono kind stands listed⟩
  · intro id node key ready hasKey
    rw [slot?] at ready
    exact (accounts.keyed id node key ready hasKey).mono kind listed
  · rw [unfoldings]
    exact accounts.unfoldings
  · exact accounts.parsers

theorem noteLiteral (accounts : Accounts book ledger g) {l : Literal} {id : NodeId}
    (stands : Stands book.rules ledger g id (.literal l)) :
    Accounts book ledger (g.noteLiteral l id) := by
  refine accounts.of_slots rfl rfl rfl rfl rfl rfl (fun other found there => ?_) accounts.sequences
  rw [show (g.noteLiteral l id).literals = g.literals.insert l id from rfl,
    Table.find?_insert] at there
  split at there
  next same =>
    cases there
    rw [same]
    exact stands
  next => exact accounts.literals other found there

theorem noteSequence (accounts : Accounts book ledger g) {place : Place} {id : NodeId}
    {count : Nat} {parts : Fin count → Reference ω ρ}
    (isWritten : ledger.written place = some (.sequence count parts))
    (stands : Stands book.rules ledger g id (.sequence count parts)) :
    Accounts book ledger (g.noteSequence place id) := by
  refine accounts.of_slots rfl rfl rfl rfl rfl rfl accounts.literals fun other found there => ?_
  rw [show (g.noteSequence place id).sequences = g.sequences.insert place id from rfl,
    Table.find?_insert] at there
  split at there
  next same =>
    cases there
    rw [same]
    exact ⟨count, parts, isWritten, stands⟩
  next => exact accounts.sequences other found there

/-- The notes of a grammar that got one more slot, which is reserved. -/
theorem widen (accounts : Accounts book ledger g) (grows : g.Grows g') (tidy : g.Tidy)
    (tidyThen : g'.Tidy) (more : Ledger.Grows g ledger later)
    (slots : g'.slots = g.widened.slots) (literals : g'.literals = g.literals)
    (sequences : g'.sequences = g.sequences)
    (nodes : ∀ place id, g'.nodes.find? place = some id → g.nodes.find? place = some id ∨
      ∃ blueprint children, later.written place = some (.node blueprint children) ∧
        later.made id (.node blueprint children))
    (thunks : ∀ thunk slot, g'.thunks.find? thunk = some slot →
      g.thunks.find? thunk = some slot ∨ ∃ reference, later.Is thunk reference ∧
        g'.slot? slot = some .reserved)
    (made : ∀ slot reference, later.made slot reference → ledger.made slot reference ∨
      g'.slot? slot = some .reserved ∧
        ∃ input blueprint children, Reference.Builds input reference blueprint children)
    (unfoldings : ∀ serial reference, later.texts (.unfolding serial) = some reference →
      serial < g'.unfoldings.length) :
    Accounts book later g' := by
  have stands : ∀ id reference, Stands book.rules ledger g id reference →
      Stands book.rules later g' id reference := fun _ _ there =>
    there.grows grows tidy tidyThen more
  constructor
  · intro place id listed
    rcases nodes place id listed with old | new
    · obtain ⟨blueprint, children, isWritten, isMade⟩ := accounts.nodes place id old
      exact ⟨blueprint, children, more.written isWritten, more.made _ _ isMade⟩
    · exact new
  · intro thunk slot listed
    rcases thunks thunk slot listed with old | ⟨reference, isThunk, reserved⟩
    · obtain ⟨reference, isThunk, there⟩ := accounts.thunks thunk slot old
      exact ⟨reference, more.is isThunk, stands _ _ there⟩
    · exact ⟨reference, isThunk, .pending isThunk listed reserved (follow_of_reserved reserved)⟩
  · rw [literals]
    intro l id listed
    exact stands _ _ (accounts.literals l id listed)
  · rw [sequences]
    intro place id listed
    obtain ⟨count, parts, isWritten, there⟩ := accounts.sequences place id listed
    exact ⟨count, parts, more.written isWritten, stands _ _ there⟩
  · intro slot reference isMade
    rcases made slot reference isMade with old | ⟨_, builds⟩
    · exact accounts.written slot reference old
    · exact builds
  · intro slot reference isMade
    rcases made slot reference isMade with old | ⟨reserved, _⟩
    · exact accounts.made_grows grows tidy tidyThen more old
    · exact ⟨slot?_lt reserved, .inl reserved⟩
  · intro id node key ready hasKey
    have old : g.slot? id = some (.ready node) := by
      rw [slot?, slots] at ready
      have whole := (slot?_widened g id).symm.trans ready
      split at whole
      next => cases whole
      next => exact whole
    exact (accounts.keyed id node key old hasKey).mono grows.kind (grows.listed tidy tidyThen)
  · exact unfoldings
  · intro identity
    exact more.texts _ _ (accounts.parsers identity)

theorem noteNode (accounts : Accounts book ledger g) (tidy : g.Tidy) {own : Option Place}
    {slot : NodeId} (last : slot.number = g.size) (unknown : own.bind g.nodes.find? = none)
    {reference : Reference ω ρ}
    (builds : ∃ input blueprint children, Reference.Builds input reference blueprint children)
    (isNode : ∀ place, own = some place → ledger.written place = some reference ∧
      ∃ blueprint children, reference = .node blueprint children) :
    Accounts book (ledger.withMade slot reference) (g.widened.noteNode own slot) := by
  have more := Ledger.Grows.withMade g ledger (Nat.le_of_eq last.symm) reference
  apply accounts.widen (.noteNode last unknown) tidy (tidy.noteNode last) more
  · exact slots_noteNode _ own slot
  · cases own <;> rfl
  · cases own <;> rfl
  · intro place id listed
    cases own with
    | none => exact .inl listed
    | some here =>
        rw [show (g.widened.noteNode (some here) slot).nodes = g.nodes.insert here slot from rfl,
          Table.find?_insert] at listed
        split at listed
        next same =>
          cases listed
          obtain ⟨isWritten, blueprint, children, rfl⟩ := isNode here rfl
          rw [same]
          exact .inr ⟨blueprint, children, isWritten, .inr ⟨rfl, rfl⟩⟩
        next => exact .inl listed
  · intro thunk other listed
    cases own <;> exact .inl listed
  · intro other another isMade
    rcases isMade with old | ⟨rfl, rfl⟩
    · exact .inl old
    · exact .inr ⟨slot?_noteNode last own, builds⟩
  · cases own <;> exact accounts.unfoldings

theorem unfolding_unknown (accounts : Accounts book ledger g) :
    ledger.texts (.unfolding g.unfoldings.length) = none := by
  cases known : ledger.texts (.unfolding g.unfoldings.length) with
  | none => rfl
  | some reference => exact absurd (accounts.unfoldings _ _ known) (Nat.lt_irrefl _)

theorem noteThunk (accounts : Accounts book ledger g) (tidy : g.Tidy) {thunk : Thunk}
    {label : Option String} {slot : NodeId} (last : slot.number = g.size)
    (unknown : g.thunks.find? thunk = none) {reference : Reference ω ρ}
    (isThunk : ledger.Is thunk reference) (body : Reference ω ρ) :
    Accounts book (ledger.withText (.unfolding g.unfoldings.length) body)
      (g.widened.noteThunk thunk label slot) := by
  have more := Ledger.Grows.withText g accounts.unfolding_unknown body
  apply accounts.widen (.noteThunk last unknown) tidy (tidy.noteThunk last) more
  · rfl
  · rfl
  · rfl
  · intro place id listed
    exact .inl listed
  · intro other found listed
    rw [show (g.widened.noteThunk thunk label slot).thunks = g.thunks.insert thunk slot from rfl,
      Table.find?_insert] at listed
    split at listed
    next same =>
      cases listed
      rw [same]
      exact .inr ⟨reference, more.is isThunk, slot?_noteThunk last thunk label⟩
    next => exact .inl listed
  · intro other another isMade
    exact .inl isMade
  · intro serial text found
    show serial < g.unfoldings.length + 1
    by_cases same : serial = g.unfoldings.length
    · omega
    · have old : ledger.texts (.unfolding serial) = some text := by
        rw [← found, ledger.texts_withText_of_ne]
        intro equal
        exact same (Origin.unfolding.inj equal)
      have := accounts.unfoldings serial text old
      omega

/-- Keys that are listed end as keys do. -/
theorem closed (accounts : Accounts book ledger g) (tidy : g.Tidy) {key : String} {id : NodeId}
    (listed : g.shared.find? key = some id) : key.toList.getLast? ≠ some '(' := by
  obtain ⟨node, ready, hasKey⟩ := (tidy.shared key id).mp listed
  obtain ⟨_, _, _, _, _, _, _, spells⟩ := accounts.keyed id node key ready hasKey
  exact spells.getLast?_ne

/-! ### Filling a slot -/

section Filling

variable {slot : NodeId} (accounts : Accounts book ledger g) (tidy : g.Tidy)
  (reserved : g.slot? slot = some .reserved)

include accounts tidy reserved

/-- A slot that is filled stands for what it was made for, if the others do. -/
theorem fill {content : Slot ω ρ} (kind : g'.kind = g.kind)
    (tables : g'.nodes = g.nodes ∧ g'.thunks = g.thunks ∧
      g'.literals = g.literals ∧ g'.sequences = g.sequences ∧ g'.unfoldings = g.unfoldings)
    (slots : g'.slots = (g.fill slot content).slots)
    (shared : ∀ key id, g.shared.find? key = some id → g'.shared.find? key = some id)
    (stands : ∀ id reference, Stands book.rules ledger g id reference →
      Stands book.rules ledger g' id reference)
    (ready : ∀ id node, g.slot? (g.follow id) = some (.ready node) →
      g'.follow id = g.follow id)
    (made : ∀ reference, ledger.made slot reference →
      ∃ node, g'.slot? (g'.follow slot) = some (.ready node) ∧
        Serves book.rules ledger g' node reference)
    (keyed : ∀ node key, content = .ready node → node.key = some key → Keyed g' node key) :
    Accounts book ledger g' := by
  obtain ⟨nodes, thunks, literals, sequences, unfoldings⟩ := tables
  have small := slot?_lt reserved
  have slot? : ∀ id, g'.slot? id = if id = slot then some content else g.slot? id := by
    intro id
    rw [Grammar.slot?, slots]
    exact slot?_fill small content id
  have listed : ∀ key id, g.shared.find? key = some (g.follow id) →
      g'.shared.find? key = some (g'.follow id) := by
    intro key id found
    obtain ⟨node, isReady, _⟩ := (tidy.shared key _).mp found
    rw [ready id node isReady]
    exact shared _ _ found
  constructor
  · rw [nodes]
    exact accounts.nodes
  · rw [thunks]
    intro thunk other found
    obtain ⟨reference, isThunk, there⟩ := accounts.thunks thunk other found
    exact ⟨reference, isThunk, stands _ _ there⟩
  · rw [literals]
    intro l id found
    exact stands _ _ (accounts.literals l id found)
  · rw [sequences]
    intro place id found
    obtain ⟨count, parts, isWritten, there⟩ := accounts.sequences place id found
    exact ⟨count, parts, isWritten, stands _ _ there⟩
  · exact accounts.written
  · intro other reference isMade
    obtain ⟨inside, state⟩ := accounts.made other reference isMade
    have size : g'.size = g.size := by
      rw [Grammar.size, slots]
      exact size_fill g slot content
    refine ⟨by rw [size]; exact inside, ?_⟩
    by_cases same : other = slot
    · rw [same] at isMade ⊢
      exact .inr (made reference isMade)
    · rcases state with otherReserved | ⟨node, isReady, serves⟩
      · rw [slot?, if_neg same]
        exact .inl otherReserved
      · refine .inr ⟨node, ?_, serves.mono kind stands listed⟩
        rw [ready other node isReady, slot?, if_neg]
        · exact isReady
        · intro equal
          rw [equal, reserved] at isReady
          cases isReady
  · intro id node key isReady hasKey
    rw [slot?] at isReady
    split at isReady
    next => exact keyed node key (Option.some.inj isReady) hasKey
    next => exact (accounts.keyed id node key isReady hasKey).mono kind listed
  · rw [unfoldings]
    exact accounts.unfoldings
  · exact accounts.parsers

/-- The slot of a rule is forwarded to what the rule's body was resolved to. -/
theorem unfold {thunk : Thunk} (onlyThunk : ∀ other, g.thunks.find? other = some slot →
      other = thunk)
    {reference body : Reference ω ρ} (isThunk : ledger.Is thunk reference)
    (opens : Reference.Opens book.rules reference body) {target : NodeId}
    (elsewhere : g.follow target ≠ slot) (there : Stands book.rules ledger g target body)
    (notMade : ∀ reference, ¬ledger.made slot reference) :
    Accounts book ledger (g.fill slot (.forward target)) ∧
      Stands book.rules ledger (g.fill slot (.forward target)) target reference := by
  have follow := tidy.acyclic.follow_fill_forward reserved elsewhere
  have slot? := slot?_fill (slot?_lt reserved) (.forward target)
  have followCongr : ∀ id other, g.follow other = g.follow id →
      (g.fill slot (.forward target)).follow other =
        (g.fill slot (.forward target)).follow id := by
    intro id other same
    rw [follow, follow, same]
  have standsElsewhere : ∀ id another, g.follow id ≠ slot →
      Stands book.rules ledger g id another →
      Stands book.rules ledger (g.fill slot (.forward target)) id another := by
    intro id another notHere stands
    apply stands.transfer (fun _ _ isMade => isMade) (followCongr id)
    intro other _ isOther listed otherReserved
    have stillListed : (g.fill slot (.forward target)).thunks.find? other =
        some (g.follow id) := listed
    apply Stands.pending isOther stillListed
    · rw [slot?, if_neg notHere]
      exact otherReserved
    · rw [follow, if_neg notHere]
  have standsTarget : Stands book.rules ledger (g.fill slot (.forward target)) target reference :=
    .opened opens (standsElsewhere target body elsewhere there)
  refine ⟨accounts.fill tidy reserved rfl ⟨rfl, rfl, rfl, rfl, rfl⟩ rfl (fun _ _ found => found)
    ?_ ?_ ?_ ?_, standsTarget⟩
  · intro id another stands
    apply stands.transfer (fun _ _ isMade => isMade) (followCongr id)
    intro other meant isOther listed otherReserved
    by_cases here : g.follow id = slot
    · rw [here] at listed
      rw [onlyThunk other listed] at isOther
      rw [isOther.unique isThunk]
      apply standsTarget.congr
      rw [follow, follow, if_pos here, if_neg elsewhere]
    · have stillListed : (g.fill slot (.forward target)).thunks.find? other =
          some (g.follow id) := listed
      apply Stands.pending isOther stillListed
      · rw [slot?, if_neg here]
        exact otherReserved
      · rw [follow, if_neg here]
  · intro id node ready
    rw [follow, if_neg]
    exact ne_reserved_of_ready reserved ready
  · intro another isMade
    exact absurd isMade (notMade another)
  · intro node key impossible
    cases impossible

variable (noThunk : ∀ thunk, g.thunks.find? thunk ≠ some slot) {reference : Reference ω ρ}
  {blueprint : Blueprint ω ρ} {children : Fin blueprint.arity → Reference ω ρ}
  {given : Vector NodeId blueprint.arity}
  (builds : Reference.Builds g.kind reference blueprint children)
  (each : ∀ index, Stands book.rules ledger g (given.get index) (children index))
  (onlyMade : ∀ another, ledger.made slot another → another = reference)

include noThunk builds each onlyMade

/-- A node gives way to the one that is listed under its key. -/
theorem finish_shared {key : String} {existing : NodeId}
    (isKey : g.keyOf blueprint given = some key) (listed : g.shared.find? key = some existing) :
    Accounts book ledger (g.fill slot (.forward existing)) := by
  obtain ⟨node, ready, hasKey⟩ := (tidy.shared key existing).mp listed
  have stays := follow_of_ready ready
  have elsewhere := follow_ne_reserved_of_ready reserved ready
  have follow := tidy.acyclic.follow_fill_forward reserved elsewhere
  have slot? := slot?_fill (slot?_lt reserved) (.forward existing)
  have followCongr : ∀ id other, g.follow other = g.follow id →
      (g.fill slot (.forward existing)).follow other =
        (g.fill slot (.forward existing)).follow id := by
    intro id other same
    rw [follow, follow, same]
  have stands : ∀ id another, Stands book.rules ledger g id another →
      Stands book.rules ledger (g.fill slot (.forward existing)) id another := by
    intro id another there
    apply there.transfer (fun _ _ isMade => isMade) (followCongr id)
    intro thunk meant isThunk isListed otherReserved
    have notHere : g.follow id ≠ slot := by
      intro here
      rw [here] at isListed
      exact noThunk thunk isListed
    have stillListed : (g.fill slot (.forward existing)).thunks.find? thunk =
        some (g.follow id) := isListed
    apply Stands.pending isThunk stillListed
    · rw [slot?, if_neg notHere]
      exact otherReserved
    · rw [follow, if_neg notHere]
  have stillListed : ∀ key id, g.shared.find? key = some (g.follow id) →
      (g.fill slot (.forward existing)).shared.find? key =
        some ((g.fill slot (.forward existing)).follow id) := by
    intro other id found
    obtain ⟨_, isReady, _⟩ := (tidy.shared other _).mp found
    rw [follow, if_neg]
    · exact found
    · exact ne_reserved_of_ready reserved isReady
  refine accounts.fill tidy reserved rfl ⟨rfl, rfl, rfl, rfl, rfl⟩ rfl (fun _ _ found => found)
    stands ?_ ?_ ?_
  · intro id other isReady
    rw [follow, if_neg]
    exact ne_reserved_of_ready reserved isReady
  · intro another isMade
    rw [onlyMade another isMade]
    refine ⟨node, ?_, ?_⟩
    · rw [follow, follow_of_reserved reserved, if_pos rfl, stays, slot?, if_neg (stays ▸ elsewhere)]
      exact ready
    · intro kind parts reads
      cases builds.eq_of_reads reads
      obtain ⟨cacheable, spells⟩ := spells_of_keyOf tidy isKey
      obtain ⟨ids, descriptions, isChildren, alike, sameIds⟩ :=
        (accounts.keyed existing node key ready hasKey).alike
          (fun _ _ => accounts.closed tidy) reads.native cacheable spells
      refine ⟨.inr ⟨key, _, hasKey, cacheable, spells.mono stillListed⟩, ids, descriptions,
        isChildren, alike, fun index => ?_⟩
      exact stands _ _ ((each index).congr (sameIds index).symm)
  · intro other otherKey impossible
    cases impossible

/-- A node takes the slot that it has been made for. -/
theorem finish_new (honest : blueprint.Honest g.kind)
    (unlisted : ∀ key, g.keyOf blueprint given = some key → g.shared.find? key = none) :
    Accounts book ledger
      ((g.share (g.keyOf blueprint given) slot).fill slot
        (.ready (g.assembled blueprint given))) := by
  have shares := slots_share g (g.keyOf blueprint given) slot
  have there : (g.share (g.keyOf blueprint given) slot).slot? slot = some .reserved :=
    (slot?_share g _ slot slot).trans reserved
  have follow : ∀ id, ((g.share (g.keyOf blueprint given) slot).fill slot
      (.ready (g.assembled blueprint given))).follow id = g.follow id := by
    intro id
    rw [(tidy.acyclic.congr shares).follow_fill_ready there]
    exact Grammar.follow_congr shares id
  have slot? : ∀ id, ((g.share (g.keyOf blueprint given) slot).fill slot
      (.ready (g.assembled blueprint given))).slot? id =
        if id = slot then some (.ready (g.assembled blueprint given)) else g.slot? id := by
    intro id
    rw [slot?_fill (slot?_lt there), slot?_share]
  have tables : ((g.share (g.keyOf blueprint given) slot).fill slot
      (.ready (g.assembled blueprint given))).thunks = g.thunks := by
    cases g.keyOf blueprint given <;> rfl
  have shared : ∀ key id, g.shared.find? key = some id →
      ((g.share (g.keyOf blueprint given) slot).fill slot
        (.ready (g.assembled blueprint given))).shared.find? key = some id := by
    intro key id listed
    cases hasKey : g.keyOf blueprint given with
    | none => exact listed
    | some own =>
        show (g.shared.insert own slot).find? key = some id
        rw [Table.find?_insert, if_neg]
        · exact listed
        · intro same
          rw [same, unlisted own hasKey] at listed
          cases listed
  have stands : ∀ id another, Stands book.rules ledger g id another →
      Stands book.rules ledger ((g.share (g.keyOf blueprint given) slot).fill slot
        (.ready (g.assembled blueprint given))) id another := by
    intro id another stands
    apply stands.transfer (fun _ _ isMade => isMade)
    · intro other same
      rw [follow, follow, same]
    · intro thunk meant isThunk listed otherReserved
      have notHere : g.follow id ≠ slot := by
        intro here
        rw [here] at listed
        exact noThunk thunk listed
      apply Stands.pending isThunk (tables ▸ listed)
      · rw [slot?, if_neg notHere]
        exact otherReserved
      · exact follow id
  have sameKind : ((g.share (g.keyOf blueprint given) slot).fill slot
      (.ready (g.assembled blueprint given))).kind = g.kind := by
    cases g.keyOf blueprint given <;> rfl
  refine @fill _ _ _ _ _ _ _ accounts tidy reserved (.ready (g.assembled blueprint given)) sameKind
    ?_ ?_ shared stands (fun id _ _ => follow id) ?_ ?_
  · cases g.keyOf blueprint given <;> exact ⟨rfl, rfl, rfl, rfl, rfl⟩
  · cases g.keyOf blueprint given <;> rfl
  · intro another isMade
    rw [onlyMade another isMade]
    refine ⟨g.assembled blueprint given, ?_, ?_⟩
    · rw [follow, follow_of_reserved reserved, slot?, if_pos rfl]
    · intro kind parts reads
      rw [sameKind] at reads
      cases builds.eq_of_reads reads
      exact ⟨.inl ⟨_, isOf_assembled kind g given⟩, fun index => given.get index,
        fun index => g.childDescription (given.get index), children_assembled .., .refl _,
        fun index => stands _ _ (each index)⟩
  · intro node key isNode hasKey
    cases isNode
    obtain ⟨cacheable, spells⟩ := spells_of_keyOf tidy hasKey
    refine ⟨blueprint, fun index => given.get index,
      fun index => g.childDescription (given.get index), sameKind ▸ honest, cacheable,
      children_assembled .., rfl, ?_⟩
    rcases spells with leaf | ⟨notLeaf, keys, isKey, listed⟩
    · exact .inl leaf
    · refine .inr ⟨notLeaf, keys, isKey, fun index => ?_⟩
      rw [follow]
      exact shared _ _ (listed index)

end Filling

end Accounts

end Grammar

end Packrat
