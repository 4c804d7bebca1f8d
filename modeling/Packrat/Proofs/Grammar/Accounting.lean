import Packrat.Proofs.Grammar.Standing

/-!
# Resolving keeps the books

Whatever is resolved, there is a ledger for the grammar that comes of it, and what was
resolved is what the new slot stands for.
-/

namespace Packrat

namespace Grammar

variable {ω ρ : Type} {book : Book ω ρ} {ledger : Ledger ω ρ}

/-- The errand is about a reference as the ledger has it. -/
def Errand.Posed (book : Book ω ρ) (ledger : Ledger ω ρ) (input : InputKind)
    (reference : Reference ω ρ) : Errand ω ρ → Prop
  | .written another place =>
    another = reference ∧ reference.Faithful book.parsers ∧
      ledger.written place = some reference
  | .node own blueprint children place =>
    Reference.Builds input reference blueprint children ∧ reference.Faithful book.parsers ∧
      ledger.written place = some reference ∧
      ∀ here, own = some here →
        here = place ∧ ∃ blueprint children, reference = .node blueprint children
  | .unfolding thunk _ body =>
    Reference.Opens book.rules reference body ∧ ledger.Is thunk reference ∧
      body.Faithful book.parsers

/-- The books after children have been resolved one after the other. -/
theorem accounts_of_steps {states : Nat → Grammar ω ρ} {arity : Nat}
    {children : Fin arity → Reference ω ρ} {ids : Fin arity → NodeId} {place : Place}
    {reference : Reference ω ρ} (tidy : (states 0).Tidy)
    (accounts : Accounts book ledger (states 0))
    (isWritten : ledger.written place = some reference)
    (parts : ∀ index : Fin arity, reference.part? index = some (children index))
    {count : Nat} (within : count ≤ arity)
    (resolved : ∀ index : Fin arity, index < count →
      Resolves book.rules (.written (children index) (place.child index)) (states index)
        (.ok (ids index)) (states (index + 1)))
    (steps : ∀ (index : Fin arity) (ledger : Ledger ω ρ), index < count →
      (states index).Tidy → Accounts book ledger (states index) →
      ledger.written (place.child index) = some (children index) →
      ∃ later, Ledger.Grows (states index) ledger later ∧
        Accounts book later (states (index + 1)) ∧
        ∀ id, Except.ok (ids index) = (.ok id : Except ResolveError NodeId) →
          Stands book.rules later (states (index + 1)) id (children index)) :
    ∃ later, Ledger.Grows (states 0) ledger later ∧ Accounts book later (states count) ∧
      (states 0).Grows (states count) ∧ (states count).Tidy ∧
      ∀ index : Fin arity, index < count →
        Stands book.rules later (states count) ((states (index + 1)).follow (ids index))
          (children index) := by
  induction count with
  | zero => exact ⟨ledger, .refl _ _, accounts, .refl _, tidy, fun _ impossible => by omega⟩
  | succ count induction =>
      obtain ⟨middle, more, accountsHere, grows, tidyHere, stands⟩ :=
        induction (by omega) (fun index before => resolved index (by omega))
          fun index ledger before => steps index ledger (by omega)
      have last : (⟨count, within⟩ : Fin arity).val < count + 1 := Nat.lt_succ_self count
      obtain ⟨growsThen, tidyThen, _⟩ := (resolved ⟨count, within⟩ last).keeps tidyHere
      have isWrittenChild := middle.written_child (more.written isWritten)
        (parts ⟨count, within⟩)
      obtain ⟨later, moreThen, accountsThen, standsThen⟩ :=
        steps ⟨count, within⟩ middle last tidyHere accountsHere isWrittenChild
      refine ⟨later, more.trans moreThen grows.size, accountsThen, grows.trans growsThen,
        tidyThen, fun index before => ?_⟩
      by_cases isLast : index.val = count
      · have same : index = ⟨count, within⟩ := Fin.ext isLast
        rw [same]
        exact (standsThen _ rfl).congr (tidyThen.acyclic.follow_follow _).symm
      · exact (stands index (by omega)).grows growsThen tidyHere tidyThen moreThen

/-- The books when the slot of a node has been reserved. -/
theorem Accounts.begin {g : Grammar ω ρ} {own : Option Place} {blueprint : Blueprint ω ρ}
    {children : Fin blueprint.arity → Reference ω ρ} {place : Place} {slot : NodeId}
    {reference : Reference ω ρ} (accounts : Accounts book ledger g) (tidy : g.Tidy)
    (last : slot.number = g.size) (unknown : own.bind g.nodes.find? = none)
    (posed : (Errand.node own blueprint children place).Posed book ledger g.kind reference) :
    Accounts book (ledger.withMade slot reference) (g.widened.noteNode own slot) := by
  obtain ⟨builds, _, isWritten, isNode⟩ := posed
  apply accounts.noteNode tidy last unknown ⟨g.kind, blueprint, children, builds⟩
  intro here isOwn
  obtain ⟨same, blueprint, children, isReference⟩ := isNode here isOwn
  rw [same]
  exact ⟨isWritten, blueprint, children, isReference⟩

/-- Nothing has been made in the slot that comes next. -/
theorem Accounts.not_made {g : Grammar ω ρ} {slot : NodeId} (accounts : Accounts book ledger g)
    (last : slot.number = g.size) (owner : Reference ω ρ) : ¬ledger.made slot owner := by
  intro isMade
  have := (accounts.made _ _ isMade).1
  omega

/-- The books when the first children of a node have been resolved.  They carry on those
that were kept when the node's slot was reserved. -/
theorem Accounts.resolveChildren {g : Grammar ω ρ} {own : Option Place}
    {blueprint : Blueprint ω ρ} {children : Fin blueprint.arity → Reference ω ρ} {place : Place}
    {slot : NodeId} {reference : Reference ω ρ} {states : Nat → Grammar ω ρ}
    {ids : Fin blueprint.arity → NodeId} (accounts : Accounts book ledger g) (tidy : g.Tidy)
    (last : slot.number = g.size) (unknown : own.bind g.nodes.find? = none)
    (begins : states 0 = g.widened.noteNode own slot)
    (posed : (Errand.node own blueprint children place).Posed book ledger g.kind reference)
    {count : Nat} (within : count ≤ blueprint.arity)
    (resolved : ∀ index : Fin blueprint.arity, index < count →
      Resolves book.rules (.written (children index) (place.child index)) (states index)
        (.ok (ids index)) (states (index + 1)))
    (steps : ∀ index : Fin blueprint.arity, index < count → ∀ {ledger : Ledger ω ρ},
      (states index).Tidy → Accounts book ledger (states index) →
        ∀ {reference : Reference ω ρ}, (Errand.written (children index)
          (place.child index)).Posed book ledger (states index).kind reference →
        ∃ later, Ledger.Grows (states index) ledger later ∧
          Accounts book later (states (index + 1)) ∧
          ∀ id, Except.ok (ids index) = (.ok id : Except ResolveError NodeId) →
            Stands book.rules later (states (index + 1)) id reference) :
    ∃ later, Ledger.Grows g ledger later ∧
      Ledger.Grows (states 0) (ledger.withMade slot reference) later ∧
      Accounts book later (states count) ∧ g.Grows (states count) ∧ (states count).Tidy ∧
      ∀ index : Fin blueprint.arity, index < count →
        Stands book.rules later (states count) ((states (index + 1)).follow (ids index))
          (children index) := by
  have accountsStart := accounts.begin tidy last unknown posed
  rw [← begins] at accountsStart
  obtain ⟨builds, faithful, isWritten, _⟩ := posed
  have stillWritten : (ledger.withMade slot reference).written place = some reference :=
    isWritten
  obtain ⟨_, eachFaithful⟩ := builds.faithful faithful
  have opened := Ledger.Grows.withMade g ledger (Nat.le_of_eq last.symm) reference
  have wide : g.Grows (states 0) := begins ▸ .noteNode last unknown
  obtain ⟨later, more, accountsThen, grows, tidyThen, stands⟩ :=
    accounts_of_steps (begins ▸ tidy.noteNode last) accountsStart stillWritten
      builds.part?_eq within resolved
      fun index ledger before tidyBefore accountsBefore isWrittenChild =>
        steps index before tidyBefore accountsBefore ⟨rfl, eachFaithful index, isWrittenChild⟩
  exact ⟨later, opened.trans more wide.size, more, accountsThen, wide.trans grows, tidyThen,
    stands⟩

/-- The books and the body's errand when the slot of a rule has been reserved. -/
theorem Accounts.beginUnfolding {g : Grammar ω ρ} {thunk : Thunk} {label : Option String}
    {body : Reference ω ρ} {slot : NodeId} {reference : Reference ω ρ}
    (accounts : Accounts book ledger g) (tidy : g.Tidy) (last : slot.number = g.size)
    (unknown : g.thunks.find? thunk = none)
    (posed : (Errand.unfolding thunk label body).Posed book ledger g.kind reference) :
    Accounts book (ledger.withText (.unfolding g.unfoldings.length) body)
        (g.widened.noteThunk thunk label slot) ∧
      (Errand.written body ⟨.unfolding g.unfoldings.length, []⟩).Posed book
        (ledger.withText (.unfolding g.unfoldings.length) body) g.kind body := by
  obtain ⟨_, isThunk, faithful⟩ := posed
  refine ⟨accounts.noteThunk tidy last unknown isThunk body, rfl, faithful, ?_⟩
  simp [Ledger.written, Ledger.texts_withText, Reference.below?]

/-- What the books gain while a body is resolved, they gain while it is unfolded. -/
theorem Accounts.grows_of_body {g : Grammar ω ρ} {thunk : Thunk} {label : Option String}
    {body : Reference ω ρ} {slot : NodeId} {later : Ledger ω ρ} (accounts : Accounts book ledger g)
    (last : slot.number = g.size) (unknown : g.thunks.find? thunk = none)
    (more : Ledger.Grows (g.widened.noteThunk thunk label slot)
      (ledger.withText (.unfolding g.unfoldings.length) body) later) :
    Ledger.Grows g ledger later := by
  have opened := Ledger.Grows.withText g accounts.unfolding_unknown body
  have wide : g.Grows (g.widened.noteThunk thunk label slot) := .noteThunk last unknown
  exact opened.trans more wide.size

/-- The slot of a node that is being made is noted for nothing else. -/
theorem noThunk_of_grows {g g' : Grammar ω ρ} (tidy : g.Tidy) {own : Option Place}
    {slot : NodeId} (last : slot.number = g.size) (grows : (g.widened.noteNode own slot).Grows g')
    (thunk : Thunk) : g'.thunks.find? thunk ≠ some slot := by
  intro listed
  have old : (g.widened.noteNode own slot).thunks.find? thunk = some slot := by
    apply grows.thunks.fresh _ _ listed
    rw [size_noteNode, size_widened]
    omega
  have before : g.thunks.find? thunk = some slot := by
    cases own <;> exact old
  have := tidy.thunks thunk slot before
  omega

theorem onlyThunk_of_grows {g g' : Grammar ω ρ} (tidy : g.Tidy) {thunk : Thunk}
    {label : Option String} {slot : NodeId} (last : slot.number = g.size)
    (grows : (g.widened.noteThunk thunk label slot).Grows g') (other : Thunk)
    (listed : g'.thunks.find? other = some slot) : other = thunk := by
  have old : (g.widened.noteThunk thunk label slot).thunks.find? other = some slot := by
    apply grows.thunks.fresh _ _ listed
    rw [size_noteThunk, size_widened]
    omega
  rw [show (g.widened.noteThunk thunk label slot).thunks = g.thunks.insert thunk slot from rfl,
    Table.find?_insert] at old
  split at old
  next same => exact same
  next =>
    have := tidy.thunks other slot old
    omega

/-- Finishing a node whose children stand for theirs. -/
theorem Accounts.finish {g : Grammar ω ρ} {slot : NodeId} (accounts : Accounts book ledger g)
    (tidy : g.Tidy) (reserved : g.slot? slot = some .reserved)
    (noThunk : ∀ thunk, g.thunks.find? thunk ≠ some slot) {reference : Reference ω ρ}
    {blueprint : Blueprint ω ρ} {children : Fin blueprint.arity → Reference ω ρ}
    {given : Vector NodeId blueprint.arity}
    (builds : Reference.Builds g.kind reference blueprint children)
    (honest : blueprint.Honest g.kind)
    (each : ∀ index, Stands book.rules ledger g (given.get index) (children index))
    (isMade : ledger.made slot reference)
    (onlyMade : ∀ another, ledger.made slot another → another = reference) :
    Accounts book ledger (g.finish slot blueprint given).2 ∧
      Stands book.rules ledger (g.finish slot blueprint given).2
        (g.finish slot blueprint given).1 reference := by
  rcases finish_cases g slot blueprint given with
    ⟨key, existing, isKey, listed, whole⟩ | ⟨unlisted, whole⟩
  · rw [whole]
    refine ⟨accounts.finish_shared tidy reserved noThunk builds each onlyMade isKey listed,
      .made isMade ?_⟩
    obtain ⟨node, ready, _⟩ := (tidy.shared key existing).mp listed
    have elsewhere := follow_ne_reserved_of_ready reserved ready
    rw [tidy.acyclic.follow_fill_forward_target reserved elsewhere,
      tidy.acyclic.follow_fill_forward_self reserved elsewhere]
  · rw [whole]
    exact ⟨accounts.finish_new tidy reserved noThunk builds each onlyMade honest unlisted,
      .made isMade rfl⟩

theorem Resolves.accounts {errand : Errand ω ρ} {g g' : Grammar ω ρ}
    {result : Except ResolveError NodeId} (resolves : Resolves book.rules errand g result g')
    (tidy : g.Tidy) (accounts : Accounts book ledger g) {reference : Reference ω ρ}
    (posed : errand.Posed book ledger g.kind reference) :
    ∃ later, Ledger.Grows g ledger later ∧ Accounts book later g' ∧
      ∀ id, result = .ok id → Stands book.rules later g' id reference := by
  induction resolves generalizing ledger reference with
  | @known_node g blueprint children place id known =>
      obtain ⟨rfl, _, isWritten⟩ := posed
      refine ⟨ledger, .refl _ _, accounts, fun found isFound => ?_⟩
      cases isFound
      obtain ⟨otherBlueprint, otherChildren, isOther, isMade⟩ := accounts.nodes place id known
      rw [← Option.some.inj (isWritten.symm.trans isOther)] at isMade
      exact .made isMade rfl
  | @new_node g g' blueprint children place result _ _ induction =>
      obtain ⟨rfl, faithful, isWritten⟩ := posed
      apply induction tidy accounts
      refine ⟨.node blueprint children, faithful, isWritten, fun here own => ?_⟩
      cases own
      exact ⟨rfl, blueprint, children, rfl⟩
  | @known_literal g l place id known =>
      obtain ⟨rfl, _, _⟩ := posed
      refine ⟨ledger, .refl _ _, accounts, fun found isFound => ?_⟩
      cases isFound
      exact accounts.literals l id known
  | refused_literal => exact ⟨ledger, .refl _ _, accounts, nofun⟩
  | @new_literal g g' l blueprint children place id unknown shape resolves induction =>
      obtain ⟨rfl, faithful, isWritten⟩ := posed
      obtain ⟨later, more, accountsThen, stands⟩ := induction tidy accounts
        ⟨.literal shape children, faithful, isWritten, nofun⟩
      have tidyThen := (resolves.keeps tidy).2.1
      have there := (stands id rfl).congr (tidyThen.acyclic.follow_follow id).symm
      have noted := accountsThen.noteLiteral there
      refine ⟨later, more, noted, fun found isFound => ?_⟩
      cases isFound
      apply noted.literals
      show (g'.literals.insert l (g'.follow id)).find? l = _
      rw [Table.find?_insert, if_pos rfl]
  | @failed_literal g g' l blueprint children place error _ shape _ induction =>
      obtain ⟨rfl, faithful, isWritten⟩ := posed
      obtain ⟨later, more, accountsThen, _⟩ := induction tidy accounts
        ⟨.literal shape children, faithful, isWritten, nofun⟩
      exact ⟨later, more, accountsThen, nofun⟩
  | @known_sequence g count parts place id known =>
      obtain ⟨rfl, _, isWritten⟩ := posed
      refine ⟨ledger, .refl _ _, accounts, fun found isFound => ?_⟩
      cases isFound
      obtain ⟨otherCount, otherParts, isOther, stands⟩ := accounts.sequences place id known
      rw [← Option.some.inj (isWritten.symm.trans isOther)] at stands
      exact stands
  | @new_sequence g g' count parts place id unknown _ induction =>
      obtain ⟨rfl, faithful, isWritten⟩ := posed
      obtain ⟨later, more, accountsThen, stands⟩ := induction tidy accounts
        ⟨.sequence count parts, faithful, isWritten, nofun⟩
      have stillWritten := more.written isWritten
      have noted := accountsThen.noteSequence stillWritten (stands id rfl)
      refine ⟨later, more, noted, fun found isFound => ?_⟩
      cases isFound
      have listed : (g'.noteSequence place id).sequences.find? place = some id := by
        show (g'.sequences.insert place id).find? place = _
        rw [Table.find?_insert, if_pos rfl]
      obtain ⟨otherCount, otherParts, isOther, there⟩ := noted.sequences place id listed
      rw [← Option.some.inj (stillWritten.symm.trans isOther)] at there
      exact there
  | @failed_sequence g g' count parts place error _ _ induction =>
      obtain ⟨rfl, faithful, isWritten⟩ := posed
      obtain ⟨later, more, accountsThen, _⟩ := induction tidy accounts
        ⟨.sequence count parts, faithful, isWritten, nofun⟩
      exact ⟨later, more, accountsThen, nofun⟩
  | @rule g g' name place result _ induction =>
      obtain ⟨rfl, _, _⟩ := posed
      exact induction tidy accounts ⟨.rule name, rfl, book.rule_faithful name⟩
  | @delayed g g' label body place result _ induction =>
      obtain ⟨rfl, faithful, isWritten⟩ := posed
      have opens : Reference.Opens book.rules (.delayed label body) body := .delayed label body
      exact induction tidy accounts
        ⟨opens, ⟨isWritten, label, body, rfl⟩, book.opens_faithful faithful opens⟩
  | @parser g g' identity body place result _ induction =>
      obtain ⟨rfl, faithful, _⟩ := posed
      cases faithful with
      | parser _ inner =>
          have isWritten : ledger.written ⟨.parser identity, []⟩ =
              some (book.parsers identity) := by
            simp [Ledger.written, accounts.parsers identity, Reference.below?]
          obtain ⟨later, more, accountsThen, stands⟩ := induction tidy accounts
            ⟨rfl, inner, isWritten⟩
          exact ⟨later, more, accountsThen, fun id found =>
            .opened (.parser identity _) (stands id found)⟩
  | foreign_handle => exact ⟨ledger, .refl _ _, accounts, nofun⟩
  | own_handle =>
      obtain ⟨rfl, _, _⟩ := posed
      exact ⟨ledger, .refl _ _, accounts, fun _ _ => .handle ..⟩
  | unknown_handle => exact ⟨ledger, .refl _ _, accounts, nofun⟩
  | no_slot_for_node => exact ⟨ledger, .refl _ _, accounts, nofun⟩
  | @failed_child g g' own blueprint children place slot states ids failed error unknown last
      begins resolved resolvesFailed steps fails =>
      obtain ⟨middle, more, _, accountsHere, grows, tidyHere, _⟩ := accounts.resolveChildren tidy
        last unknown begins posed (Nat.le_of_lt failed.isLt) resolved steps
      obtain ⟨builds, faithful, isWritten, _⟩ := posed
      obtain ⟨_, eachFaithful⟩ := builds.faithful faithful
      have isWrittenChild := middle.written_child (more.written isWritten)
        (builds.part?_eq failed)
      obtain ⟨later, moreThen, accountsThen, _⟩ := fails tidyHere accountsHere
        ⟨rfl, eachFaithful failed, isWrittenChild⟩
      exact ⟨later, more.trans moreThen grows.size, accountsThen, nofun⟩
  | @made g own blueprint children place slot states ids given unknown last begins resolved
      isGiven steps =>
      obtain ⟨later, more, onwards, accountsHere, wide, tidyHere, stands⟩ :=
        accounts.resolveChildren tidy last unknown begins posed (Nat.le_refl _)
          (fun index _ => resolved index) fun index _ => steps index
      obtain ⟨builds, faithful, _, _⟩ := posed
      have kind : (states _).kind = g.kind := wide.kind
      obtain ⟨honest, _⟩ := (kind ▸ builds).faithful faithful
      obtain ⟨grows, _, _⟩ := settled_of_children (begins ▸ tidy.noteNode last) (Nat.le_refl _)
        (fun index _ => resolved index) (Nat.zero_le _) (Nat.le_refl _)
      have noted : (states 0).slot? slot = some .reserved := begins ▸ slot?_noteNode last own
      have isMade : later.made slot reference := onwards.made _ _ (.inr ⟨rfl, rfl⟩)
      have onlyMade : ∀ another, later.made slot another → another = reference := by
        intro another isAnother
        rcases onwards.fresh _ _ isAnother (slot?_lt noted) with old | ⟨_, same⟩
        · exact absurd old (accounts.not_made last another)
        · exact same
      obtain ⟨accountsThen, standsThen⟩ := accountsHere.finish tidyHere (grows.kept noted)
        (fun thunk => noThunk_of_grows tidy last (begins ▸ grows) thunk) (wide.kind ▸ builds) honest
        (fun index => isGiven index ▸ stands index index.isLt) isMade onlyMade
      refine ⟨later, more, accountsThen, fun id found => ?_⟩
      cases found
      exact standsThen
  | @known_thunk g thunk label body id known =>
      obtain ⟨opens, isThunk, _⟩ := posed
      refine ⟨ledger, .refl _ _, accounts, fun found isFound => ?_⟩
      cases isFound
      obtain ⟨another, isAnother, stands⟩ := accounts.thunks thunk id known
      rw [isThunk.unique isAnother]
      exact stands
  | no_slot_for_thunk => exact ⟨ledger, .refl _ _, accounts, nofun⟩
  | failed_body unknown last _ induction | circular unknown last _ _ induction =>
      obtain ⟨accountsStart, posedBody⟩ := accounts.beginUnfolding tidy last unknown posed
      obtain ⟨later, more, accountsThen, _⟩ :=
        induction (tidy.noteThunk last) accountsStart posedBody
      exact ⟨later, accounts.grows_of_body last unknown more, accountsThen, nofun⟩
  | @unfolded g g' thunk label body slot target unknown last resolves elsewhere induction =>
      obtain ⟨accountsStart, posedBody⟩ := accounts.beginUnfolding tidy last unknown posed
      obtain ⟨opens, isThunk, _⟩ := posed
      obtain ⟨later, more, accountsThen, stands⟩ :=
        induction (tidy.noteThunk last) accountsStart posedBody
      obtain ⟨grows, tidyThen, reserved⟩ := reserved_after_body tidy last resolves
      have noted := slot?_noteThunk last thunk label
      have opened := Ledger.Grows.withText g accounts.unfolding_unknown body
      have notMade : ∀ another, ¬later.made slot another := fun another isMade =>
        accounts.not_made last another (more.fresh _ _ isMade (slot?_lt noted))
      obtain ⟨accountsEnd, standsEnd⟩ := accountsThen.unfold tidyThen reserved
        (onlyThunk_of_grows tidy last grows) (more.is (opened.is isThunk)) opens elsewhere
        (stands target rfl) notMade
      refine ⟨later, accounts.grows_of_body last unknown more, accountsEnd, fun id found => ?_⟩
      cases found
      exact standsEnd

end Grammar

end Packrat
