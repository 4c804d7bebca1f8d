import Packrat.Proofs.Grammar.Books
import Packrat.Proofs.Grammar.Filling
import Packrat.Proofs.Grammar.WholeInput

/-!
# Which node is a child of which

That a slot stands for a rule does not say which of the slots for it, if there should be
several.  But a rule and a node at a place are noted before anything below them is resolved,
so that whoever refers to them later finds the same slot: the children of a node that is
written in the body of a rule lead to the nodes at the places below and to the slots of the
rules, also to that of the rule itself.
-/

namespace Packrat

variable {ω ρ : Type}

namespace Ledger

/-- Where bodies of rules are written, this is. -/
def Holds (ledger : Ledger ω ρ) (place : Place) (reference : Reference ω ρ) : Prop :=
  ∀ serial, place.origin = .unfolding serial → ledger.written place = some reference

/-- Whatever is written stays written. -/
def Keeps (ledger later : Ledger ω ρ) : Prop :=
  ∀ origin reference, ledger.texts origin = some reference →
    later.texts origin = some reference

variable {ledger middle later : Ledger ω ρ}

theorem Keeps.trans (first : ledger.Keeps middle) (second : middle.Keeps later) :
    ledger.Keeps later :=
  fun origin reference found => second origin reference (first origin reference found)

theorem Holds.keeps {place : Place} {reference : Reference ω ρ}
    (holds : ledger.Holds place reference) (keeps : ledger.Keeps later) :
    later.Holds place reference :=
  fun serial inside => written_mono keeps (holds serial inside)

theorem holds_withText (ledger : Ledger ω ρ) (serial : Nat) (body : Reference ω ρ) :
    (ledger.withText (.unfolding serial) body).Holds ⟨.unfolding serial, []⟩ body := by
  rintro other ⟨⟩
  simp [written, texts_withText, Reference.below?]

theorem Holds.part {place : Place} {reference child : Reference ω ρ} {index : Nat}
    (holds : ledger.Holds place reference) (part : reference.part? index = some child) :
    ledger.Holds (place.child index) child :=
  fun serial inside => written_child (holds serial inside) part

end Ledger

namespace Grammar

/-- A slot leads to where the slot does that is noted for what is written at a place, if
that is a node or a rule. -/
def Tied (g : Grammar ω ρ) (id : NodeId) : Reference ω ρ → Place → Prop
  | .node _ _, place => ∃ there, g.nodes.find? place = some there ∧ g.follow there = g.follow id
  | .rule name, _ =>
    ∃ there, g.thunks.find? (.rule name) = some there ∧ g.follow there = g.follow id
  | _, _ => True

/-- A slot leads to the node that is written at a place, with children that are tied. -/
def Carries (g : Grammar ω ρ) (slot : NodeId) (reference : Reference ω ρ) (place : Place) :
    Prop :=
  ∀ (kind : Kind ω ρ) (parts : Fin kind.arity → Reference ω ρ),
    (∀ input, kind.Native input) → reference = .node kind.blueprint parts →
    ∃ children, g.Has slot kind children ∧
      ∀ index, g.Tied (children index).id (parts index) (place.child index)

/-- What is noted for the bodies of rules is reserved or leads to the node that is written
there; and the slot of a rule is reserved or leads to the rule's body. -/
structure Linked (rules : Rules ω ρ) (ledger : Ledger ω ρ) (g : Grammar ω ρ) : Prop where
  dated : ∀ serial reference, ledger.texts (.unfolding serial) = some reference →
    serial < g.unfoldings.length
  nodes : ∀ place slot serial, g.nodes.find? place = some slot →
    place.origin = .unfolding serial → ∃ reference, ledger.written place = some reference ∧
      (g.slot? slot = some .reserved ∨ g.Carries slot reference place)
  bodies : ∀ name slot, g.thunks.find? (.rule name) = some slot →
    g.slot? slot = some .reserved ∨
      ∃ serial, ledger.texts (.unfolding serial) = some (rules name) ∧
        g.Tied slot (rules name) ⟨.unfolding serial, []⟩

/-- The errand is for what the ledger says is written there. -/
def Errand.Held (rules : Rules ω ρ) (ledger : Ledger ω ρ) : Errand ω ρ → Prop
  | .written reference place => ledger.Holds place reference
  | .node own blueprint children place =>
    (∀ index : Fin blueprint.arity, ledger.Holds (place.child index) (children index)) ∧
      ∀ here, own = some here → here = place ∧ ledger.Holds place (.node blueprint children)
  | .unfolding thunk _ body => ∀ name, thunk = .rule name → body = rules name

section

variable {g g' : Grammar ω ρ}

theorem Tied.congr {id other : NodeId} {reference : Reference ω ρ} {place : Place}
    (tied : g.Tied id reference place) (same : g.follow id = g.follow other) :
    g.Tied other reference place := by
  cases reference <;> simp only [Tied, ← same] at tied ⊢
  all_goals exact tied

/-- What has been resolved is tied to what it was resolved to. -/
theorem Knows.tied {id : NodeId} {reference : Reference ω ρ} {place : Place}
    (knows : g.Knows reference place (g.follow id)) : g.Tied id reference place := by
  cases reference with
  | node | rule => exact knows
  | _ => trivial

section

variable (remain : g.Remains g')
  (nodes : ∀ place id, g.nodes.find? place = some id → g'.nodes.find? place = some id)
  (thunks : ∀ thunk id, g.thunks.find? thunk = some id → g'.thunks.find? thunk = some id)

include remain nodes thunks

theorem Tied.remains {id : NodeId} {reference : Reference ω ρ} {place : Place}
    (tied : g.Tied id reference place) : g'.Tied id reference place := by
  cases reference with
  | node =>
      obtain ⟨there, noted, leads⟩ := tied
      exact ⟨there, nodes _ _ noted, remain.follow_congr leads⟩
  | rule =>
      obtain ⟨there, noted, leads⟩ := tied
      exact ⟨there, thunks _ _ noted, remain.follow_congr leads⟩
  | _ => trivial

theorem Carries.remains {slot : NodeId} {reference : Reference ω ρ} {place : Place}
    (carries : g.Carries slot reference place) : g'.Carries slot reference place := by
  intro kind parts native isNode
  obtain ⟨children, ⟨node, ready, isOf⟩, each⟩ := carries kind parts native isNode
  refine ⟨children, ⟨node, ?_, isOf⟩, fun index => (each index).remains remain nodes thunks⟩
  rw [remain.follow_eq ready]
  exact remain.ready _ _ ready

end

namespace Linked

variable {rules : Rules ω ρ} {ledger later : Ledger ω ρ} (linked : Linked rules ledger g)

include linked

/-- What a change keeps that leaves alone what is noted, if what it adds is in order. -/
theorem step (remains : g.Remains g') (keeps : ledger.Keeps later)
    (dated : ∀ serial reference, later.texts (.unfolding serial) = some reference →
      serial < g'.unfoldings.length)
    (kept : ∀ place id, g.nodes.find? place = some id → g'.nodes.find? place = some id)
    (keptThunks : ∀ thunk id, g.thunks.find? thunk = some id → g'.thunks.find? thunk = some id)
    (nodes : ∀ place slot serial, g'.nodes.find? place = some slot →
      place.origin = .unfolding serial →
      (g.nodes.find? place = some slot ∧
          (g.slot? slot = some .reserved → g'.slot? slot = some .reserved)) ∨
        ∃ reference, later.written place = some reference ∧
          (g'.slot? slot = some .reserved ∨ g'.Carries slot reference place))
    (bodies : ∀ name slot, g'.thunks.find? (.rule name) = some slot →
      (g.thunks.find? (.rule name) = some slot ∧
          (g.slot? slot = some .reserved → g'.slot? slot = some .reserved)) ∨
        g'.slot? slot = some .reserved ∨
        ∃ serial, later.texts (.unfolding serial) = some (rules name) ∧
          g'.Tied slot (rules name) ⟨.unfolding serial, []⟩) :
    Linked rules later g' := by
  refine ⟨dated, fun place slot serial noted inside => ?_, fun name slot noted => ?_⟩
  · rcases nodes place slot serial noted inside with ⟨old, stays⟩ | new
    · obtain ⟨reference, isWritten, state⟩ := linked.nodes place slot serial old inside
      refine ⟨reference, Ledger.written_mono keeps isWritten, ?_⟩
      exact state.imp stays fun carries => carries.remains remains kept keptThunks
    · exact new
  · rcases bodies name slot noted with ⟨old, stays⟩ | new
    · refine (linked.bodies name slot old).imp stays ?_
      rintro ⟨serial, isBody, tied⟩
      exact ⟨serial, keeps _ _ isBody, tied.remains remains kept keptThunks⟩
    · exact new

/-- A change of other notes. -/
theorem of_tables (acyclic : g.Acyclic) (number : g'.number = g.number)
    (kind : g'.kind = g.kind) (slots : g'.slots = g.slots) (nodes : g'.nodes = g.nodes)
    (thunks : g'.thunks = g.thunks) (unfoldings : g'.unfoldings = g.unfoldings) :
    Linked rules ledger g' := by
  have slot? : ∀ id, g'.slot? id = g.slot? id := fun id => by
    rw [Grammar.slot?, slots, Grammar.slot?]
  apply linked.step (.of_slots acyclic number kind slots) (fun _ _ found => found)
  · rw [unfoldings]
    exact linked.dated
  · rw [nodes]
    exact fun _ _ noted => noted
  · rw [thunks]
    exact fun _ _ noted => noted
  · intro place slot _ noted _
    rw [nodes] at noted
    exact .inl ⟨noted, fun reserved => (slot? slot).trans reserved⟩
  · intro name slot noted
    rw [thunks] at noted
    exact .inl ⟨noted, fun reserved => (slot? slot).trans reserved⟩

theorem noteNode (tidy : g.Tidy) {own : Option Place} {blueprint : Blueprint ω ρ}
    {children : Fin blueprint.arity → Reference ω ρ} {place : Place} {slot : NodeId}
    (last : slot.number = g.size) (unknown : own.bind g.nodes.find? = none)
    (held : (Errand.node own blueprint children place).Held rules ledger) :
    Linked rules ledger (g.widened.noteNode own slot) := by
  have grows : g.Grows (g.widened.noteNode own slot) := .noteNode last unknown
  have remains := Remains.of_grows grows tidy (tidy.noteNode last)
  have stays : ∀ id, g.slot? id = some .reserved →
      (g.widened.noteNode own slot).slot? id = some .reserved :=
    fun _ reserved => grows.kept reserved
  apply linked.step remains fun _ _ found => found
  · cases own <;> exact linked.dated
  · exact grows.nodes.kept
  · exact grows.thunks.kept
  · intro other id serial noted inside
    cases own with
    | none => exact .inl ⟨noted, stays id⟩
    | some here =>
        change (g.nodes.insert here slot).find? other = some id at noted
        rw [Table.find?_insert] at noted
        split at noted
        next same =>
          cases noted
          obtain ⟨rfl, holds⟩ := held.2 here rfl
          subst same
          exact .inr ⟨_, holds serial inside, .inl (slot?_noteNode last _)⟩
        next => exact .inl ⟨noted, stays id⟩
  · intro name id noted
    cases own <;> exact .inl ⟨noted, stays id⟩

theorem unfolding_unknown : ledger.texts (.unfolding g.unfoldings.length) = none := by
  cases found : ledger.texts (.unfolding g.unfoldings.length) with
  | none => rfl
  | some reference => exact absurd (linked.dated _ _ found) (Nat.lt_irrefl _)

theorem noteThunk (tidy : g.Tidy) {thunk : Thunk} (label : Option String) {slot : NodeId}
    (last : slot.number = g.size) (unknown : g.thunks.find? thunk = none)
    (body : Reference ω ρ) :
    Linked rules (ledger.withText (.unfolding g.unfoldings.length) body)
      (g.widened.noteThunk thunk label slot) := by
  have grows : g.Grows (g.widened.noteThunk thunk label slot) := .noteThunk last unknown
  have remains := Remains.of_grows grows tidy (tidy.noteThunk last)
  have stays : ∀ id, g.slot? id = some .reserved →
      (g.widened.noteThunk thunk label slot).slot? id = some .reserved :=
    fun _ reserved => grows.kept reserved
  apply linked.step remains (Ledger.Grows.withText g linked.unfolding_unknown body).texts
  · intro serial reference found
    show serial < g.unfoldings.length + 1
    by_cases same : serial = g.unfoldings.length
    · omega
    · rw [ledger.texts_withText_of_ne fun equal => same (Origin.unfolding.inj equal)] at found
      have := linked.dated serial reference found
      omega
  · exact grows.nodes.kept
  · exact grows.thunks.kept
  · intro place id _ noted _
    exact .inl ⟨noted, stays id⟩
  · intro name id noted
    change (g.thunks.insert thunk slot).find? (.rule name) = some id at noted
    rw [Table.find?_insert] at noted
    split at noted
    next =>
      cases noted
      exact .inr (.inl (slot?_noteThunk last thunk label))
    next => exact .inl ⟨noted, stays id⟩

/-- Filling a slot that is noted for nothing else than what it is filled for. -/
theorem fills {slot : NodeId} (fills : g.Fills slot g')
    (nodes : ∀ place serial, g.nodes.find? place = some slot →
      place.origin = .unfolding serial → ∃ reference, ledger.written place = some reference ∧
        g'.Carries slot reference place)
    (bodies : ∀ name, g.thunks.find? (.rule name) = some slot →
      ∃ serial, ledger.texts (.unfolding serial) = some (rules name) ∧
        g'.Tied slot (rules name) ⟨.unfolding serial, []⟩) :
    Linked rules ledger g' := by
  have noted : ∀ place, g'.nodes.find? place = g.nodes.find? place :=
    fun place => fills.sites (.node place)
  have notedThunks : ∀ thunk, g'.thunks.find? thunk = g.thunks.find? thunk :=
    fun thunk => fills.sites (.thunk thunk)
  have stays : ∀ id, id ≠ slot → g.slot? id = some .reserved → g'.slot? id = some .reserved :=
    fun id different reserved => (fills.others id different).trans reserved
  apply linked.step fills.toRemains fun _ _ found => found
  · rw [fills.unfoldings]
    exact linked.dated
  · exact fun place id there => (noted place).trans there
  · exact fun thunk id there => (notedThunks thunk).trans there
  · intro place id serial there inside
    rw [noted] at there
    by_cases same : id = slot
    · rw [same] at there ⊢
      obtain ⟨reference, isWritten, carries⟩ := nodes place serial there inside
      exact .inr ⟨reference, isWritten, .inr carries⟩
    · exact .inl ⟨there, stays id same⟩
  · intro name id there
    rw [notedThunks] at there
    by_cases same : id = slot
    · rw [same] at there ⊢
      exact .inr (.inr (bodies name there))
    · exact .inl ⟨there, stays id same⟩

end Linked

end

/-! ## Resolving -/

section

variable {g g' : Grammar ω ρ} (tidy : g.Tidy) {slot : NodeId} (last : slot.number = g.size)

include tidy last

/-- The slot of a node is noted for the node's own place only. -/
theorem onlyNode_of_grows {own : Option Place}
    (grows : (g.widened.noteNode own slot).Grows g') {place : Place}
    (noted : g'.nodes.find? place = some slot) : own = some place := by
  have old : (g.widened.noteNode own slot).nodes.find? place = some slot := by
    apply grows.nodes.fresh _ _ noted
    rw [size_noteNode, size_widened]
    omega
  cases own with
  | none =>
      have := tidy.nodes place slot old
      omega
  | some here =>
      change (g.nodes.insert here slot).find? place = some slot at old
      rw [Table.find?_insert] at old
      split at old
      next same => rw [same]
      next =>
        have := tidy.nodes place slot old
        omega

/-- The slot of a rule is noted for no node. -/
theorem noNode_of_grows {thunk : Thunk} {label : Option String}
    (grows : (g.widened.noteThunk thunk label slot).Grows g') (place : Place) :
    g'.nodes.find? place ≠ some slot := by
  intro noted
  have old : (g.widened.noteThunk thunk label slot).nodes.find? place = some slot := by
    apply grows.nodes.fresh _ _ noted
    rw [size_noteThunk, size_widened]
    omega
  have := tidy.nodes place slot old
  omega

end

/-- A child leads to what it was resolved to, also when its parent is finished. -/
theorem tied_of_children {rules : Rules ω ρ} {states : Nat → Grammar ω ρ} {arity : Nat}
    {children : Fin arity → Reference ω ρ} {ids : Fin arity → NodeId} {place : Place}
    (tidy : (states 0).Tidy)
    (resolved : ∀ index : Fin arity,
      Resolves rules (.written (children index) (place.child index)) (states index)
        (.ok (ids index)) (states (index + 1)))
    (index : Fin arity) :
    (states arity).Tied ((states (index + 1)).follow (ids index)) (children index)
      (place.child index) := by
  obtain ⟨_, tidyHere, _⟩ := settled_of_children tidy (Nat.le_refl arity)
    (fun index _ => resolved index) (Nat.zero_le index) (Nat.le_of_lt index.isLt)
  obtain ⟨_, tidyNext, _⟩ := (resolved index).keeps tidyHere
  obtain ⟨onwards, tidyLast, _⟩ := settled_of_children tidy (Nat.le_refl arity)
    (fun index _ => resolved index) (Nat.succ_le_of_lt index.isLt) (Nat.le_refl arity)
  have tied := Knows.tied ((resolved index).recalled tidyHere rfl)
  refine (tied.remains (.of_grows onwards tidyNext tidyLast) onwards.nodes.kept
    onwards.thunks.kept).congr ?_
  exact (onwards.follow_follow tidyNext tidyLast _).symm

/-- A node that has been made carries what it was made for. -/
theorem Tidy.carries_finish {g : Grammar ω ρ} (tidy : g.Tidy) (lettered : g.Lettered)
    {slot : NodeId} (reserved : g.slot? slot = some .reserved) {blueprint : Blueprint ω ρ}
    {parts : Fin blueprint.arity → Reference ω ρ} {place : Place}
    {given : Vector NodeId blueprint.arity}
    (tied : ∀ index : Fin blueprint.arity, g.Tied (given.get index) (parts index)
      (place.child index)) :
    (g.finish slot blueprint given).2.Carries slot (.node blueprint parts) place := by
  rintro kind others native ⟨⟩
  obtain ⟨node, children, ready, isOf, leads, _⟩ :=
    tidy.finish_isOf lettered reserved kind (native _) given
  obtain ⟨fills, _⟩ := tidy.finish_fills reserved kind.blueprint given
  have follow := tidy.follow_finish reserved kind.blueprint given
  rw [follow_of_ready ready] at follow
  refine ⟨children, ⟨node, follow.symm ▸ ready, isOf⟩, fun index => ?_⟩
  refine ((tied index).remains fills.toRemains ?_ ?_).congr (leads index).symm
  · exact fun place id noted => (fills.sites (.node place)).trans noted
  · exact fun thunk id noted => (fills.sites (.thunk thunk)).trans noted

/-- What holds after children have been resolved one after the other. -/
theorem linked_of_children {kinds : Kind ω ρ → Prop} {named : String → Prop}
    {held : Nat → NodeId → Prop} {rules : Rules ω ρ} {ledger : Ledger ω ρ}
    {states : Nat → Grammar ω ρ} {arity : Nat} {children : Fin arity → Reference ω ρ}
    {ids : Fin arity → NodeId} {place : Place}
    (closed : ∀ name, named name → (rules name).MadeOf kinds named held)
    (made : ∀ index, (children index).MadeOf kinds named held)
    (holds : ∀ index : Fin arity, ledger.Holds (place.child index) (children index))
    (tidy : (states 0).Tidy) (lettered : (states 0).Lettered)
    (linked : Linked rules ledger (states 0)) {count : Nat} (within : count ≤ arity)
    (resolved : ∀ index : Fin arity, index < count →
      Resolves rules (.written (children index) (place.child index)) (states index)
        (.ok (ids index)) (states (index + 1)))
    (steps : ∀ index : Fin arity, index < count → (states index).Tidy →
      (states index).Lettered → ∀ {ledger : Ledger ω ρ}, Linked rules ledger (states index) →
      ledger.Holds (place.child index) (children index) →
      ∃ later, ledger.Keeps later ∧ Linked rules later (states (index + 1))) :
    (states count).Lettered ∧
      ∃ later, ledger.Keeps later ∧ Linked rules later (states count) := by
  refine kept_of_children (fun index => (states index).Lettered ∧
    ∃ later, ledger.Keeps later ∧ Linked rules later (states index)) tidy
    ⟨lettered, ledger, fun _ _ found => found, linked⟩ within resolved ?_
  rintro index before _ _ tidyHere ⟨letteredHere, middle, keeps, linkedHere⟩
  obtain ⟨later, more, linkedThen⟩ := steps index before tidyHere letteredHere linkedHere
    ((holds index).keeps keeps)
  have letteredThen := (resolved index before).lettered
    (fun name isNamed => (closed name isNamed).genuine) (made index).genuine tidyHere letteredHere
  exact ⟨letteredThen, later, keeps.trans more, linkedThen⟩

theorem Resolves.linked {kinds : Kind ω ρ → Prop} {named : String → Prop}
    {held : Nat → NodeId → Prop} {rules : Rules ω ρ} {errand : Errand ω ρ} {g g' : Grammar ω ρ}
    {result : Except ResolveError NodeId} (resolves : Resolves rules errand g result g')
    (closed : ∀ name, named name → (rules name).MadeOf kinds named held)
    (made : errand.MadeOf g.kind kinds named held) (tidy : g.Tidy) (lettered : g.Lettered)
    {ledger : Ledger ω ρ} (linked : Linked rules ledger g) (isHeld : errand.Held rules ledger) :
    ∃ later, ledger.Keeps later ∧ Linked rules later g' := by
  induction resolves generalizing ledger with
  | known_node | known_literal | refused_literal | known_sequence | foreign_handle | own_handle
  | unknown_handle | no_slot_for_node | known_thunk | no_slot_for_thunk =>
      exact ⟨ledger, fun _ _ found => found, linked⟩
  | new_node _ _ induction =>
      refine induction (.of_node made) tidy lettered linked ⟨fun index => ?_, ?_⟩
      · exact isHeld.part (dif_pos index.isLt)
      · rintro here ⟨⟩
        exact ⟨rfl, isHeld⟩
  | new_literal _ shape resolves induction | failed_literal _ shape resolves induction =>
      have isKind := Kind.blueprint_literal shape
      subst isKind
      obtain ⟨later, keeps, linkedThen⟩ := induction (.of_literal made shape) tidy lettered linked
        ⟨fun index => index.elim0, nofun⟩
      obtain ⟨_, tidyThen, _⟩ := resolves.keeps tidy
      exact ⟨later, keeps, linkedThen.of_tables tidyThen.acyclic rfl rfl rfl rfl rfl rfl⟩
  | new_sequence _ resolves induction | failed_sequence _ resolves induction =>
      obtain ⟨later, keeps, linkedThen⟩ := induction (.of_sequence made) tidy lettered linked
        ⟨fun index => isHeld.part (dif_pos index.isLt), nofun⟩
      obtain ⟨_, tidyThen, _⟩ := resolves.keeps tidy
      exact ⟨later, keeps, linkedThen.of_tables tidyThen.acyclic rfl rfl rfl rfl rfl rfl⟩
  | rule _ induction =>
      cases made with
      | rule isNamed =>
          refine induction (closed _ isNamed) tidy lettered linked ?_
          rintro name ⟨⟩
          rfl
  | delayed _ induction =>
      cases made with
      | delayed _ inner => exact induction inner tidy lettered linked nofun
  | parser _ induction =>
      cases made with
      | parser _ inner =>
          refine induction inner tidy lettered linked ?_
          rintro _ ⟨⟩
  | @failed_child g g' own blueprint children place slot states ids failed error unknown last
      begins resolved _ steps fails =>
      have tidyStart : (states 0).Tidy := begins ▸ tidy.noteNode last
      obtain ⟨letteredHere, middle, keeps, linkedHere⟩ := linked_of_children closed made.2
        isHeld.1 tidyStart (begins ▸ lettered.noteNode tidy last unknown)
        (begins ▸ linked.noteNode tidy last unknown isHeld) (Nat.le_of_lt failed.isLt) resolved
        fun index before => steps index before (made.2 index)
      obtain ⟨_, tidyHere, _⟩ := settled_of_children tidyStart (Nat.le_of_lt failed.isLt) resolved
        (Nat.zero_le failed) (Nat.le_refl _)
      obtain ⟨later, more, linkedThen⟩ := fails (made.2 failed) tidyHere letteredHere linkedHere
        ((isHeld.1 failed).keeps keeps)
      exact ⟨later, keeps.trans more, linkedThen⟩
  | @made g own blueprint children place slot states ids given unknown last begins resolved
      isGiven steps =>
      have tidyStart : (states 0).Tidy := begins ▸ tidy.noteNode last
      obtain ⟨letteredHere, later, keeps, linkedHere⟩ := linked_of_children closed made.2
        isHeld.1 tidyStart (begins ▸ lettered.noteNode tidy last unknown)
        (begins ▸ linked.noteNode tidy last unknown isHeld) (Nat.le_refl _)
        (fun index _ => resolved index) fun index _ => steps index (made.2 index)
      obtain ⟨grows, tidyHere, reserved⟩ := reserved_after_children tidy last begins resolved
      refine ⟨later, keeps, linkedHere.fills (tidyHere.finish_fills reserved blueprint given).1
        (fun other serial isNoted inside => ?_) fun name isNoted => ?_⟩
      · obtain ⟨rfl, holds⟩ := isHeld.2 other (onlyNode_of_grows tidy last (begins ▸ grows) isNoted)
        refine ⟨_, (holds.keeps keeps) serial inside,
          tidyHere.carries_finish letteredHere reserved fun index => ?_⟩
        rw [isGiven]
        exact tied_of_children tidyStart resolved index
      · exact absurd isNoted (noThunk_of_grows tidy last (begins ▸ grows) _)
  | @failed_body g g' thunk label body slot error unknown last _ induction
  | @circular g g' thunk label body slot target unknown last _ _ induction =>
      have opened := Ledger.Grows.withText g linked.unfolding_unknown body
      obtain ⟨later, keeps, linkedThen⟩ := induction made (tidy.noteThunk last)
        (lettered.noteThunk tidy last unknown) (linked.noteThunk tidy label last unknown body)
        (ledger.holds_withText _ body)
      exact ⟨later, Ledger.Keeps.trans opened.texts keeps, linkedThen⟩
  | @unfolded g g' thunk label body slot target unknown last resolves elsewhere induction =>
      have opened := Ledger.Grows.withText g linked.unfolding_unknown body
      obtain ⟨later, keeps, linkedThen⟩ := induction made (tidy.noteThunk last)
        (lettered.noteThunk tidy last unknown) (linked.noteThunk tidy label last unknown body)
        (ledger.holds_withText _ body)
      obtain ⟨grows, tidyThen, reserved⟩ := reserved_after_body tidy last resolves
      have fills := Fills.forward tidyThen reserved elsewhere
      refine ⟨later, Ledger.Keeps.trans opened.texts keeps, linkedThen.fills fills
        (fun place _ isNoted => absurd isNoted (noNode_of_grows tidy last grows place))
        fun name isNoted => ?_⟩
      have isThunk := onlyThunk_of_grows tidy last grows _ isNoted
      obtain rfl := isHeld name isThunk.symm
      refine ⟨_, keeps _ _ (ledger.texts_withText _ _), ?_⟩
      have tied := Knows.tied (resolves.recalled (tidy.noteThunk last) rfl)
      refine (tied.remains fills.toRemains (fun _ _ there => there) fun _ _ there => there).congr ?_
      rw [tidyThen.acyclic.follow_fill_forward_target reserved elsewhere,
        tidyThen.acyclic.follow_fill_forward_self reserved elsewhere]

/-! ## Between two resolutions -/

/-- The bodies of rules of a grammar are linked, whatever the ledger is. -/
def LinkedUp (rules : Rules ω ρ) (g : Grammar ω ρ) : Prop :=
  g.Tidy ∧ g.Lettered ∧ ∃ ledger, Linked rules ledger g

theorem LinkedUp.empty (rules : Rules ω ρ) (number : Nat) (kind : InputKind) :
    LinkedUp rules (empty number kind : Grammar ω ρ) :=
  ⟨.empty number kind, .empty number kind, ⟨fun _ => none, fun _ _ => False⟩, nofun, nofun, nofun⟩

theorem LinkedUp.resolve {rules : Rules ω ρ} {g : Grammar ω ρ} (linkedUp : LinkedUp rules g)
    {kinds : Kind ω ρ → Prop} {named : String → Prop} {held : Nat → NodeId → Prop}
    {reference : Reference ω ρ}
    (closed : ∀ name, named name → (rules name).MadeOf kinds named held)
    (made : reference.MadeOf kinds named held) {place : Place}
    (outside : ∀ serial, place.origin ≠ .unfolding serial) :
    LinkedUp rules (g.resolve rules place reference).2 := by
  obtain ⟨tidy, lettered, ledger, linked⟩ := linkedUp
  have isHeld : (Errand.written reference place).Held rules ledger :=
    fun serial inside => absurd inside (outside serial)
  have letteredThen := lettered.resolve tidy (fun name isNamed => (closed name isNamed).genuine)
    made.genuine place
  rcases resolve_resolves rules g place reference with
    ⟨id, g', resolved, resolves⟩ | ⟨error, g', resolved, resolves⟩
  all_goals
    rw [resolved] at letteredThen ⊢
    obtain ⟨grows, tidyThen, _⟩ := resolves.keeps tidy
  · obtain ⟨later, _, linkedThen⟩ := resolves.linked closed made tidy lettered linked isHeld
    exact ⟨tidyThen, letteredThen, later, linkedThen⟩
  · have undone := grows.grows_rollback tidy tidyThen
    have tidyLast := grows.tidy_rollback tidy tidyThen
    have stays : ∀ id, g.slot? id = some .reserved →
        (g'.rollback g.size).slot? id = some .reserved :=
      fun _ reserved => undone.kept reserved
    refine ⟨tidyLast, letteredThen, ledger, linked.step (.of_grows undone tidy tidyLast)
      (fun _ _ found => found) ?_ undone.nodes.kept undone.thunks.kept ?_ ?_⟩
    · intro serial another found
      exact Nat.lt_of_lt_of_le (linked.dated serial another found) grows.unfoldings
    · intro other id _ noted _
      rw [grows.nodes_rollback tidy tidyThen] at noted
      exact .inl ⟨noted, stays id⟩
    · intro name id noted
      rw [grows.thunks_rollback tidy tidyThen] at noted
      exact .inl ⟨noted, stays id⟩

theorem Linked.carried {rules : Rules ω ρ} {ledger : Ledger ω ρ} {g : Grammar ω ρ}
    (linked : Linked rules ledger g) (complete : g.Complete) {place : Place} {serial : Nat}
    (inside : place.origin = .unfolding serial) {id : NodeId} {kind : Kind ω ρ}
    {parts : Fin kind.arity → Reference ω ρ} (native : ∀ input, kind.Native input)
    (isWritten : ledger.written place = some (.node kind.blueprint parts))
    (tied : g.Tied id (.node kind.blueprint parts) place) :
    ∃ children, g.Has id kind children ∧ ∀ index : Fin kind.arity,
      ledger.written (place.child index) = some (parts index) ∧
        g.Tied (children index).id (parts index) (place.child index) := by
  obtain ⟨there, noted, leads⟩ := tied
  obtain ⟨reference, isReference, reserved | carries⟩ :=
    linked.nodes place there serial noted inside
  · exact absurd reserved (complete there)
  · rw [isWritten] at isReference
    cases isReference
    obtain ⟨children, ⟨node, ready, isOf⟩, each⟩ := carries kind parts native rfl
    refine ⟨children, ⟨node, leads ▸ ready, isOf⟩, fun index => ⟨?_, each index⟩⟩
    exact Ledger.written_child isWritten (dif_pos index.isLt)

/-- The slot of a rule leads to the node that the rule's body is; and where the rule stands
in a node of the body again, the node's child leads back to where the rule's slot does. -/
theorem LinkedUp.exists_body {rules : Rules ω ρ} {g : Grammar ω ρ} (linkedUp : LinkedUp rules g)
    (complete : g.Complete) {name : String} {slot : NodeId}
    (noted : g.thunks.find? (.rule name) = some slot) {kind : Kind ω ρ}
    {parts : Fin kind.arity → Reference ω ρ} (native : ∀ input, kind.Native input)
    (isBody : rules name = .node kind.blueprint parts) :
    ∃ children, g.Has slot kind children ∧
      ∀ (index : Fin kind.arity) (inner : Kind ω ρ) (below : Fin inner.arity → Reference ω ρ),
        (∀ input, inner.Native input) → parts index = .node inner.blueprint below →
        ∃ grandchildren, g.Has (children index).id inner grandchildren ∧
          ∀ turn, below turn = .rule name → g.follow (grandchildren turn).id = g.follow slot := by
  obtain ⟨_, _, ledger, linked⟩ := linkedUp
  obtain reserved | ⟨serial, found, tied⟩ := linked.bodies name slot noted
  · exact absurd reserved (complete slot)
  · rw [isBody] at found tied
    have isWritten :
        ledger.written ⟨.unfolding serial, []⟩ = some (.node kind.blueprint parts) := by
      simp [Ledger.written, found, Reference.below?]
    obtain ⟨children, has, each⟩ := linked.carried complete rfl native isWritten tied
    refine ⟨children, has, fun index inner below innerNative isPart => ?_⟩
    obtain ⟨partWritten, partTied⟩ := each index
    rw [isPart] at partWritten partTied
    have inside : (Place.child ⟨.unfolding serial, []⟩ index).origin = .unfolding serial := rfl
    obtain ⟨grandchildren, hasBelow, eachBelow⟩ :=
      linked.carried complete inside innerNative partWritten partTied
    refine ⟨grandchildren, hasBelow, fun turn again => ?_⟩
    obtain ⟨_, tiedBelow⟩ := eachBelow turn
    rw [again] at tiedBelow
    obtain ⟨there, notedThere, leads⟩ := tiedBelow
    rw [noted] at notedThere
    cases notedThere
    exact leads.symm

end Grammar

end Packrat
