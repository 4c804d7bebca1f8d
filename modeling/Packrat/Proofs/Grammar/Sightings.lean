import Packrat.Proofs.Grammar.Filling
import Packrat.Proofs.Grammar.WellFormed

/-!
# One reference, one node

A sighting is a reference that is met while something is resolved, with the slot that it
is given there: at the root, as the child of a node, or as what a rule returns.  What the
tables list for a reference is noted before anything below it is resolved, but for
sequences, which are noted afterwards.  So all sightings of the same reference lead to the
same node, if none of them is of a sequence inside its own resolution.
-/

namespace Packrat

variable {ω ρ : Type}

/-- What a reference that is written at a place is listed as.  A handle is not listed. -/
def Reference.site? : Reference ω ρ → Place → Option Site
  | .node _ _, place => some (.node place)
  | .literal data, _ => some (.literal data)
  | .sequence _ _, place => some (.sequence place)
  | .rule name, _ => some (.thunk (.rule name))
  | .delayed _ _, place => some (.thunk (.delayed place))
  | .handle _ _, _ => none
  | .parser identity body, _ => body.site? ⟨.parser identity, []⟩

namespace Grammar

/-- A reference that has been met, and the slot that it was given. -/
structure Sighting (ω ρ : Type) where
  reference : Reference ω ρ
  place : Place
  id : NodeId
  /-- The rule or the delayed parser that has returned the reference. -/
  returnedBy : Option Thunk

/-- What the reference is listed as. -/
def Sighting.site? (sighting : Sighting ω ρ) : Option Site :=
  sighting.reference.site? sighting.place

/-- The reference is sighted when the errand is run, inside the resolution of the sequences
at the places of the list. -/
inductive Sights (rules : Rules ω ρ) :
    Errand ω ρ → Grammar ω ρ → NodeId → Grammar ω ρ → List Place → Sighting ω ρ → Prop where
  | here {g g' : Grammar ω ρ} {reference : Reference ω ρ} {place : Place} {id : NodeId} :
      Resolves rules (.written reference place) g (.ok id) g' →
      Sights rules (.written reference place) g id g' [] ⟨reference, place, id, none⟩
  | node {g g' : Grammar ω ρ} {blueprint : Blueprint ω ρ}
      {children : Fin blueprint.arity → Reference ω ρ} {place : Place} {id : NodeId}
      {around : List Place} {sighting : Sighting ω ρ} :
      g.nodes.find? place = none →
      Sights rules (.node (some place) blueprint children place) g id g' around sighting →
      Sights rules (.written (.node blueprint children) place) g id g' around sighting
  | sequence {g g' : Grammar ω ρ} {count : Nat} {parts : Fin count → Reference ω ρ}
      {place : Place} {id : NodeId} {around : List Place} {sighting : Sighting ω ρ} :
      g.sequences.find? place = none →
      Sights rules (.node none (.sequence count) parts place) g id g' around sighting →
      Sights rules (.written (.sequence count parts) place) g id (g'.noteSequence place id)
        (place :: around) sighting
  | rule {g g' : Grammar ω ρ} {name : String} {place : Place} {id : NodeId}
      {around : List Place} {sighting : Sighting ω ρ} :
      Sights rules (.unfolding (.rule name) (some name) (rules name)) g id g' around sighting →
      Sights rules (.written (.rule name) place) g id g' around sighting
  | delayed {g g' : Grammar ω ρ} {label : Option String} {body : Reference ω ρ}
      {place : Place} {id : NodeId} {around : List Place} {sighting : Sighting ω ρ} :
      Sights rules (.unfolding (.delayed place) label body) g id g' around sighting →
      Sights rules (.written (.delayed label body) place) g id g' around sighting
  | parser {g g' : Grammar ω ρ} {identity : Nat} {body : Reference ω ρ} {place : Place}
      {id : NodeId} {around : List Place} {sighting : Sighting ω ρ} :
      Sights rules (.written body ⟨.parser identity, []⟩) g id g' around sighting →
      Sights rules (.written (.parser identity body) place) g id g' around sighting
  /-- A child, with the slot that the parent is given for it. -/
  | child {g : Grammar ω ρ} {own : Option Place} {blueprint : Blueprint ω ρ}
      {children : Fin blueprint.arity → Reference ω ρ} {place : Place} {slot : NodeId}
      {states : Nat → Grammar ω ρ} {ids : Fin blueprint.arity → NodeId}
      {given : Vector NodeId blueprint.arity} (index : Fin blueprint.arity) :
      own.bind g.nodes.find? = none →
      slot.number = g.size →
      states 0 = g.widened.noteNode own slot →
      (∀ index : Fin blueprint.arity,
        Resolves rules (.written (children index) (place.child index)) (states index)
          (.ok (ids index)) (states (index + 1))) →
      (∀ index : Fin blueprint.arity,
        given.get index = (states (index + 1)).follow (ids index)) →
      Sights rules (.node own blueprint children place) g
        ((states blueprint.arity).finish slot blueprint given).1
        ((states blueprint.arity).finish slot blueprint given).2 []
        ⟨children index, place.child index, given.get index, none⟩
  | descendant {g : Grammar ω ρ} {own : Option Place} {blueprint : Blueprint ω ρ}
      {children : Fin blueprint.arity → Reference ω ρ} {place : Place} {slot : NodeId}
      {states : Nat → Grammar ω ρ} {ids : Fin blueprint.arity → NodeId}
      {given : Vector NodeId blueprint.arity} {around : List Place}
      {sighting : Sighting ω ρ} (index : Fin blueprint.arity) :
      own.bind g.nodes.find? = none →
      slot.number = g.size →
      states 0 = g.widened.noteNode own slot →
      (∀ index : Fin blueprint.arity,
        Resolves rules (.written (children index) (place.child index)) (states index)
          (.ok (ids index)) (states (index + 1))) →
      (∀ index : Fin blueprint.arity,
        given.get index = (states (index + 1)).follow (ids index)) →
      Sights rules (.written (children index) (place.child index)) (states index) (ids index)
        (states (index + 1)) around sighting →
      Sights rules (.node own blueprint children place) g
        ((states blueprint.arity).finish slot blueprint given).1
        ((states blueprint.arity).finish slot blueprint given).2 around sighting
  /-- What a rule or a delayed parser returns when it is forced. -/
  | returned {g g' : Grammar ω ρ} {thunk : Thunk} {label : Option String}
      {body : Reference ω ρ} {slot target : NodeId} :
      g.thunks.find? thunk = none →
      slot.number = g.size →
      Resolves rules (.written body ⟨.unfolding g.unfoldings.length, []⟩)
        (g.widened.noteThunk thunk label slot) (.ok target) g' →
      g'.follow target ≠ slot →
      Sights rules (.unfolding thunk label body) g target (g'.fill slot (.forward target)) []
        ⟨body, ⟨.unfolding g.unfoldings.length, []⟩, target, some thunk⟩
  | inside {g g' : Grammar ω ρ} {thunk : Thunk} {label : Option String}
      {body : Reference ω ρ} {slot target : NodeId} {around : List Place}
      {sighting : Sighting ω ρ} :
      g.thunks.find? thunk = none →
      slot.number = g.size →
      Resolves rules (.written body ⟨.unfolding g.unfoldings.length, []⟩)
        (g.widened.noteThunk thunk label slot) (.ok target) g' →
      g'.follow target ≠ slot →
      Sights rules (.written body ⟨.unfolding g.unfoldings.length, []⟩)
        (g.widened.noteThunk thunk label slot) target g' around sighting →
      Sights rules (.unfolding thunk label body) g target (g'.fill slot (.forward target))
        around sighting

theorem Sights.resolves {rules : Rules ω ρ} {errand : Errand ω ρ} {g g' : Grammar ω ρ}
    {id : NodeId} {around : List Place} {sighting : Sighting ω ρ}
    (sights : Sights rules errand g id g' around sighting) :
    Resolves rules errand g (.ok id) g' := by
  induction sights with
  | here resolves => exact resolves
  | node unknown _ induction => exact .new_node unknown induction
  | sequence unknown _ induction => exact .new_sequence unknown induction
  | rule _ induction => exact .rule induction
  | delayed _ induction => exact .delayed induction
  | parser _ induction => exact .parser induction
  | child _ unknown last begins resolved isGiven => exact .made unknown last begins resolved isGiven
  | descendant _ unknown last begins resolved isGiven =>
      exact .made unknown last begins resolved isGiven
  | returned unknown last resolves elsewhere => exact .unfolded unknown last resolves elsewhere
  | inside unknown last resolves elsewhere => exact .unfolded unknown last resolves elsewhere

/-! ## A sighting agrees with the tables -/

/-- A slot is what a site is listed for, or leads there. -/
def Points (g : Grammar ω ρ) (site : Site) (id : NodeId) : Prop :=
  ∃ there, g.at? site = some there ∧ g.follow there = g.follow id

/-- What is listed for the reference, and for what has returned it, leads to the slot that
it was given.  A sequence inside its own resolution may be given another one. -/
structure Sighting.Agrees (sighting : Sighting ω ρ) (around : List Place) (g : Grammar ω ρ) :
    Prop where
  listed : ∀ site, sighting.site? = some site → (∀ place ∈ around, site ≠ .sequence place) →
    g.Points site sighting.id
  returned : ∀ thunk, sighting.returnedBy = some thunk → g.Points (.thunk thunk) sighting.id

theorem Points.remains {g g' : Grammar ω ρ} {site : Site} {id : NodeId} (points : g.Points site id)
    (remains : g.Remains g')
    (kept : ∀ there, g.at? site = some there → g'.at? site = some there) : g'.Points site id := by
  obtain ⟨there, found, leads⟩ := points
  exact ⟨there, kept there found, remains.follow_congr leads⟩

theorem known?_eq_at? {g : Grammar ω ρ} {reference : Reference ω ρ} {place : Place} {site : Site}
    (isSite : reference.site? place = some site) : g.known? reference place = g.at? site := by
  induction reference generalizing place with
  | handle => cases isSite
  | parser identity body induction => exact induction isSite
  | _ =>
      cases isSite
      rfl

namespace Sighting.Agrees

variable {sighting : Sighting ω ρ} {around : List Place} {g g' : Grammar ω ρ}

theorem remains (agrees : sighting.Agrees around g) (remains : g.Remains g')
    (kept : ∀ site there, g.at? site = some there → g'.at? site = some there) :
    sighting.Agrees around g' where
  listed site isSite outside := (agrees.listed site isSite outside).remains remains (kept site)
  returned thunk isThunk := (agrees.returned thunk isThunk).remains remains (kept _)

theorem of_grows (agrees : sighting.Agrees around g) (grows : g.Grows g') (tidy : g.Tidy)
    (tidyThen : g'.Tidy) : sighting.Agrees around g' :=
  agrees.remains (.of_grows grows tidy tidyThen) fun _ _ found => grows.at? found

theorem fills (agrees : sighting.Agrees around g) {slot : NodeId} (fills : g.Fills slot g') :
    sighting.Agrees around g' :=
  agrees.remains fills.toRemains fun site _ found => (fills.sites site).trans found

theorem noteSequence (agrees : sighting.Agrees around g) (acyclic : g.Acyclic) (place : Place)
    (id : NodeId) : sighting.Agrees (place :: around) (g.noteSequence place id) := by
  have remains : g.Remains (g.noteSequence place id) := .of_slots acyclic rfl rfl rfl
  have others : ∀ site, site ≠ .sequence place → ∀ there, g.at? site = some there →
      (g.noteSequence place id).at? site = some there := by
    intro site other there found
    rw [at?_noteSequence, if_neg other]
    exact found
  constructor
  · intro site isSite outside
    exact (agrees.listed site isSite fun other member =>
      outside other (List.mem_cons_of_mem _ member)).remains remains
        (others site (outside place List.mem_cons_self))
  · intro thunk isThunk
    exact (agrees.returned thunk isThunk).remains remains (others _ nofun)

theorem of_recalled {reference : Reference ω ρ} {place : Place} {id : NodeId}
    (recalled : (Errand.written reference place).Recalled g id) (around : List Place) :
    (⟨reference, place, id, none⟩ : Sighting ω ρ).Agrees around g := by
  constructor
  · intro site isSite _
    obtain ⟨there, known, leads⟩ := recalled
    rw [known?_eq_at? isSite] at known
    exact ⟨there, known, leads⟩
  · intro thunk impossible
    cases impossible

theorem congr {reference : Reference ω ρ} {place : Place} {id other : NodeId}
    {returnedBy : Option Thunk} (same : g.follow id = g.follow other)
    (agrees : (⟨reference, place, id, returnedBy⟩ : Sighting ω ρ).Agrees around g) :
    (⟨reference, place, other, returnedBy⟩ : Sighting ω ρ).Agrees around g := by
  constructor
  · intro site isSite outside
    obtain ⟨there, found, leads⟩ := agrees.listed site isSite outside
    exact ⟨there, found, leads.trans same⟩
  · intro thunk isThunk
    obtain ⟨there, found, leads⟩ := agrees.returned thunk isThunk
    exact ⟨there, found, leads.trans same⟩

end Sighting.Agrees

/-- What agrees once a child has been resolved agrees when the node is finished. -/
theorem agrees_of_child {rules : Rules ω ρ} {states : Nat → Grammar ω ρ}
    {blueprint : Blueprint ω ρ} {children : Fin blueprint.arity → Reference ω ρ}
    {ids : Fin blueprint.arity → NodeId} {place : Place} {slot : NodeId}
    (tidy : (states 0).Tidy) (reserved : (states 0).slot? slot = some .reserved)
    (resolved : ∀ index : Fin blueprint.arity,
      Resolves rules (.written (children index) (place.child index)) (states index)
        (.ok (ids index)) (states (index + 1)))
    (given : Vector NodeId blueprint.arity) {sighting : Sighting ω ρ} {around : List Place}
    {count : Nat} (within : count ≤ blueprint.arity)
    (agrees : sighting.Agrees around (states count)) :
    sighting.Agrees around ((states blueprint.arity).finish slot blueprint given).2 := by
  have chain := @settled_of_children _ _ rules states _ children ids place tidy blueprint.arity
    (Nat.le_refl _) fun index _ => resolved index
  obtain ⟨_, tidyHere, _⟩ := chain (Nat.zero_le count) within
  obtain ⟨more, tidyThen, _⟩ := chain within (Nat.le_refl _)
  obtain ⟨grows, _, _⟩ := chain (Nat.zero_le _) (Nat.le_refl _)
  have stillReserved := grows.kept reserved
  exact (agrees.of_grows more tidyHere tidyThen).fills
    (tidyThen.finish_fills stillReserved blueprint given).1

theorem Sights.agrees {rules : Rules ω ρ} {errand : Errand ω ρ} {g g' : Grammar ω ρ} {id : NodeId}
    {around : List Place} {sighting : Sighting ω ρ}
    (sights : Sights rules errand g id g' around sighting) (tidy : g.Tidy) :
    sighting.Agrees around g' := by
  induction sights with
  | here resolves => exact .of_recalled (resolves.recalled tidy rfl) _
  | node _ _ induction | rule _ induction | delayed _ induction | parser _ induction =>
      exact induction tidy
  | sequence _ sights induction =>
      obtain ⟨_, tidyThen, _⟩ := sights.resolves.keeps tidy
      exact (induction tidy).noteSequence tidyThen.acyclic ..
  | @child g own blueprint children place slot states ids given index unknown last begins
      resolved isGiven =>
      have tidyStart : (states 0).Tidy := begins ▸ tidy.noteNode last
      have reserved : (states 0).slot? slot = some .reserved := begins ▸ slot?_noteNode last own
      obtain ⟨_, tidyHere, _⟩ := settled_of_children tidyStart (Nat.le_refl _)
        (fun index _ => resolved index) (Nat.zero_le index) (Nat.le_of_lt index.isLt)
      obtain ⟨_, tidyThen, _⟩ := (resolved index).keeps tidyHere
      refine agrees_of_child tidyStart reserved resolved given index.isLt (.congr ?_
        (.of_recalled ((resolved index).recalled tidyHere rfl) []))
      rw [isGiven, tidyThen.acyclic.follow_follow]
  | @descendant g own blueprint children place slot states ids given around sighting index
      unknown last begins resolved _ _ induction =>
      have tidyStart : (states 0).Tidy := begins ▸ tidy.noteNode last
      have reserved : (states 0).slot? slot = some .reserved := begins ▸ slot?_noteNode last own
      obtain ⟨_, tidyHere, _⟩ := settled_of_children tidyStart (Nat.le_refl _)
        (fun index _ => resolved index) (Nat.zero_le index) (Nat.le_of_lt index.isLt)
      exact agrees_of_child tidyStart reserved resolved given index.isLt (induction tidyHere)
  | @returned g g' thunk label body slot target unknown last resolves elsewhere =>
      have whole : (Errand.unfolding thunk label body).Recalled _ target :=
        (Resolves.unfolded unknown last resolves elsewhere).recalled tidy rfl
      obtain ⟨_, tidyThen, reserved⟩ := reserved_after_body tidy last resolves
      have agrees := Sighting.Agrees.of_recalled
        (resolves.recalled (tidy.noteThunk last) rfl) []
      refine ⟨(agrees.fills (.forward tidyThen reserved elsewhere)).listed, ?_⟩
      rintro other ⟨⟩
      exact whole
  | @inside g g' thunk label body slot target around sighting unknown last resolves elsewhere _
      induction =>
      obtain ⟨_, tidyThen, reserved⟩ := reserved_after_body tidy last resolves
      exact (induction (tidy.noteThunk last)).fills (.forward tidyThen reserved elsewhere)

/-! ## Every rule that is listed has returned something -/

/-- What comes to hold in some steps comes to hold in one of them. -/
theorem exists_step_of_ends (holds : Nat → Prop) {count : Nat} (atStart : ¬holds 0)
    (atEnd : holds count) : ∃ index : Fin count, ¬holds index ∧ holds (index + 1) := by
  induction count with
  | zero => exact absurd atEnd atStart
  | succ count induction =>
      by_cases before : holds count
      · obtain ⟨index, here⟩ := induction before
        exact ⟨index.castSucc, here⟩
      · exact ⟨Fin.last count, before, atEnd⟩

/-- What is listed for a thunk when an errand has been run was listed before, or it has been
forced in between. -/
theorem Resolves.exists_returned {rules : Rules ω ρ} {errand : Errand ω ρ} {g g' : Grammar ω ρ}
    {result : Except ResolveError NodeId} (resolves : Resolves rules errand g result g')
    {id : NodeId} (succeeds : result = .ok id) {thunk : Thunk}
    (unknown : g.thunks.find? thunk = none) (known : g'.thunks.find? thunk ≠ none) :
    ∃ around sighting, Sights rules errand g id g' around sighting ∧
      sighting.returnedBy = some thunk := by
  induction resolves generalizing id with
  | known_node | known_literal | known_sequence | own_handle | known_thunk =>
      exact absurd unknown known
  | new_node new _ induction =>
      obtain ⟨around, sighting, sights, isThunk⟩ := induction succeeds unknown known
      exact ⟨around, sighting, .node new sights, isThunk⟩
  | new_literal _ shape _ induction =>
      have isKind := Kind.blueprint_literal shape
      subst isKind
      obtain ⟨_, _, sights, _⟩ := induction rfl unknown known
      cases sights with
      | child index | descendant index => exact index.elim0
  | new_sequence new _ induction =>
      cases succeeds
      obtain ⟨around, sighting, sights, isThunk⟩ := induction rfl unknown known
      exact ⟨_, sighting, .sequence new sights, isThunk⟩
  | rule _ induction =>
      obtain ⟨around, sighting, sights, isThunk⟩ := induction succeeds unknown known
      exact ⟨around, sighting, .rule sights, isThunk⟩
  | delayed _ induction =>
      obtain ⟨around, sighting, sights, isThunk⟩ := induction succeeds unknown known
      exact ⟨around, sighting, .delayed sights, isThunk⟩
  | parser _ induction =>
      obtain ⟨around, sighting, sights, isThunk⟩ := induction succeeds unknown known
      exact ⟨around, sighting, .parser sights, isThunk⟩
  | @made g own blueprint children place slot states ids given new last begins resolved isGiven
      steps =>
      cases succeeds
      have atStart : (states 0).thunks.find? thunk = none := by
        rw [begins]
        cases own <;> exact unknown
      have atEnd : (states blueprint.arity).thunks.find? thunk ≠ none := by
        rw [← show _ = (states blueprint.arity).thunks.find? thunk from
          at?_finish _ slot blueprint given (.thunk thunk)]
        exact known
      obtain ⟨index, before, after⟩ := exists_step_of_ends
        (fun count => (states count).thunks.find? thunk ≠ none) (not_not_intro atStart) atEnd
      obtain ⟨around, sighting, sights, isThunk⟩ := steps index rfl (not_not.mp before) after
      exact ⟨around, sighting, .descendant index new last begins resolved isGiven sights, isThunk⟩
  | @unfolded g g' other label body slot target new last resolves elsewhere induction =>
      cases succeeds
      by_cases same : other = thunk
      · subst same
        exact ⟨_, _, .returned new last resolves elsewhere, rfl⟩
      · have stillUnknown : (g.widened.noteThunk other label slot).thunks.find? thunk = none :=
          (at?_noteThunk g other label slot (.thunk thunk)).trans
            ((if_neg fun equal => same (Site.thunk.inj equal).symm).trans unknown)
        obtain ⟨around, sighting, sights, isThunk⟩ := induction rfl stillUnknown known
        exact ⟨around, sighting, .inside new last resolves elsewhere sights, isThunk⟩
  | _ => cases succeeds

/-! ## Between two resolutions -/

/-- A grammar that has come of resolutions, in which a reference has been sighted when one of
them succeeded. -/
inductive Seen : Grammar ω ρ → List Place → Sighting ω ρ → Prop where
  | now {g g' : Grammar ω ρ} {rules : Rules ω ρ} {place : Place} {reference : Reference ω ρ}
      {id : NodeId} {around : List Place} {sighting : Sighting ω ρ} :
      Grown (fun _ _ => True) g →
      g.resolve rules place reference = (.ok (g'.follow id), g') →
      Sights rules (.written reference place) g id g' around sighting →
      Seen g' around sighting
  | later {g : Grammar ω ρ} {around : List Place} {sighting : Sighting ω ρ}
      (rules : Rules ω ρ) (place : Place) (reference : Reference ω ρ) :
      Seen g around sighting → Seen (g.resolve rules place reference).2 around sighting

theorem Seen.grown {g : Grammar ω ρ} {around : List Place} {sighting : Sighting ω ρ}
    (seen : Seen g around sighting) : Grown (fun _ _ => True) g := by
  induction seen with
  | @now g g' rules place reference _ _ _ grown resolved =>
      have after : (g.resolve rules place reference).2 = g' := congrArg Prod.snd resolved
      exact after ▸ .resolve place trivial grown
  | later _ place _ _ grown => exact .resolve place trivial grown

theorem Seen.agrees {g : Grammar ω ρ} {around : List Place} {sighting : Sighting ω ρ}
    (seen : Seen g around sighting) : sighting.Agrees around g := by
  induction seen with
  | now grown _ sights => exact sights.agrees grown.tidy.1
  | later rules place reference before agrees =>
      obtain ⟨tidy, complete⟩ := before.grown.tidy
      exact agrees.of_grows (tidy.grows_resolve rules place reference) tidy
        (tidy.resolve complete rules place reference).1

/-- A rule or a delayed parser is listed because it has returned something. -/
theorem Grown.exists_returned {g : Grammar ω ρ} (grown : Grown (fun _ _ => True) g)
    {thunk : Thunk} (known : g.thunks.find? thunk ≠ none) :
    ∃ around sighting, Seen g around sighting ∧ sighting.returnedBy = some thunk := by
  induction grown with
  | empty => exact absurd rfl known
  | @resolve g rules reference place _ grown induction =>
      by_cases old : g.thunks.find? thunk = none
      · obtain ⟨tidy, _⟩ := grown.tidy
        rcases resolve_resolves rules g place reference with
          ⟨id, g', resolved, resolves⟩ | ⟨error, g', resolved, resolves⟩
        · rw [resolved] at known ⊢
          obtain ⟨around, sighting, sights, isThunk⟩ := resolves.exists_returned rfl old known
          exact ⟨around, sighting, .now grown resolved sights, isThunk⟩
        · obtain ⟨grows, tidyThen, _⟩ := resolves.keeps tidy
          rw [resolved, grows.thunks_rollback tidy tidyThen] at known
          exact absurd old known
      · obtain ⟨around, sighting, seen, isThunk⟩ := induction old
        exact ⟨around, sighting, .later rules place reference seen, isThunk⟩

end Grammar

end Packrat
