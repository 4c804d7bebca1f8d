import Packrat.Proofs.Grammar.Tracing

/-!
# The course of a resolution

From its first step to its last a resolution stays traced, whatever it comes to.  What it
succeeds in is answered; and if it is given up for a rule that leads back to itself, there
is such a rule.
-/

namespace Packrat

namespace Grammar

open Reference

variable {ω ρ : Type} {program : Program ω ρ} {exact : Prop} {base : Grammar ω ρ}
  {root : Reference ω ρ}

/-- The errand is about a reference as the ledger has it. -/
def Errand.Asks (rules : Rules ω ρ) (ledger : Ledger ω ρ) (input : InputKind)
    (reference : Reference ω ρ) : Errand ω ρ → Prop
  | .written another place => another = reference ∧ ledger.written place = some reference
  | .node own blueprint children place =>
    Builds input reference blueprint children ∧ ledger.written place = some reference ∧
      ∀ here, own = some here →
        here = place ∧ ∃ blueprint children, reference = .node blueprint children
  | .unfolding thunk _ body => Opens rules reference body ∧ ledger.Is thunk reference

/-- The parts of a new node are listed. -/
def Errand.Covers (rules : Rules ω ρ) (ledger : Ledger ω ρ) (g : Grammar ω ρ)
    (reference : Reference ω ρ) : Errand ω ρ → Prop
  | .node _ _ _ _ => Covered rules ledger g reference
  | _ => True

/-- A reference leads to a thunk that rules alone lead back from: to the thunk itself, or
to a handle for a slot that is being filled. -/
def Circles (rules : Rules ω ρ) (g : Grammar ω ρ) (reference : Reference ω ρ) : Prop :=
  ∃ thunk last, Meets rules reference thunk ∧ Relation.TransGen (Opens rules) thunk last ∧
    (last = thunk ∨ ∃ id, last = .handle g.number id ∧ id.number < g.size ∧
      g.slot? (g.follow id) = some .reserved)

theorem Circles.of_part {rules : Rules ω ρ} {g : Grammar ω ρ} {reference part : Reference ω ρ}
    (circles : Circles rules g part) (isPart : Part rules reference part) :
    Circles rules g reference := by
  obtain ⟨thunk, last, meets, rest⟩ := circles
  exact ⟨thunk, last, meets.head isPart, rest⟩

/-- What is being made leads to a reference. -/
def Above (rules : Rules ω ρ) (ledger : Ledger ω ρ) (g : Grammar ω ρ)
    (reference : Reference ω ρ) : Prop :=
  ∀ slot owner, g.slot? slot = some .reserved → ledger.made slot owner →
    Relation.TransGen (Part rules) owner reference

/-- What is being made leads to a reference, or is the reference. -/
def Around (rules : Rules ω ρ) (ledger : Ledger ω ρ) (g : Grammar ω ρ)
    (reference : Reference ω ρ) : Prop :=
  ∀ slot owner, g.slot? slot = some .reserved → ledger.made slot owner →
    Meets rules owner reference

theorem Around.above {rules : Rules ω ρ} {ledger : Ledger ω ρ} {g : Grammar ω ρ}
    {reference part : Reference ω ρ} (around : Around rules ledger g reference)
    (isPart : Part rules reference part) : Above rules ledger g part :=
  fun slot owner reserved isMade => .tail' (around slot owner reserved isMade) isPart

/-- Nothing that is left to be made has been begun in between. -/
theorem Around.later {rules : Rules ω ρ} {ledger later : Ledger ω ρ} {g g' : Grammar ω ρ}
    {reference : Reference ω ρ} (around : Around rules ledger g reference) (grows : g.Grows g')
    (settled : g.Settled g') (more : Ledger.Grows g ledger later) :
    Around rules later g' reference := by
  intro slot owner reserved isMade
  by_cases old : slot.number < g.size
  · rw [grows.slot? old] at reserved
    exact around slot owner reserved (more.fresh _ _ isMade old)
  · exact absurd reserved (settled slot (Nat.le_of_not_lt old))

/-- What comes of an errand is traced. -/
def Errand.Traces (program : Program ω ρ) (exact : Prop) (base : Grammar ω ρ)
    (root : Reference ω ρ) (errand : Errand ω ρ) (ledger : Ledger ω ρ) (g : Grammar ω ρ)
    (result : Except ResolveError NodeId) (g' : Grammar ω ρ) (reference : Reference ω ρ) : Prop :=
  ∃ later, Ledger.Grows g ledger later ∧ Traced program exact base root later g' ∧
    (∀ id, result = .ok id → Answers program.rules exact later g' id reference ∧
      errand.Covers program.rules later g' reference) ∧
    ∀ error, result = .error error → error.innermost = .selfReference →
      Circles program.rules g' reference

section

variable {ledger : Ledger ω ρ} {g g' : Grammar ω ρ} {reference : Reference ω ρ}

theorem Traced.answers (traced : Traced program exact base root ledger g) {errand : Errand ω ρ}
    {id : NodeId} (answer : Answers program.rules exact ledger g id reference)
    (covers : errand.Covers program.rules ledger g reference) :
    errand.Traces program exact base root ledger g (.ok id) g reference := by
  refine ⟨ledger, .refl g ledger, traced, fun found isFound => ?_, by simp⟩
  cases isFound
  exact ⟨answer, covers⟩

theorem Traced.refuses (traced : Traced program exact base root ledger g) {errand : Errand ω ρ}
    {error : ResolveError} (other : error.innermost ≠ .selfReference) :
    errand.Traces program exact base root ledger g (.error error) g reference := by
  refine ⟨ledger, .refl g ledger, traced, by simp, fun found isFound innermost => ?_⟩
  cases isFound
  exact absurd innermost other

/-- What is listed for a site is answered by the slot that is listed. -/
theorem Traced.answer_of_at? (traced : Traced program exact base root ledger g) {site : Site}
    {id : NodeId} (found : g.at? site = some id) (names : ledger.Names site reference) :
    Answers program.rules exact ledger g id reference := by
  obtain ⟨other, otherNames, entry, _⟩ := traced.entries site id found
  rw [names.unique otherNames]
  exact entry.answer

/-- What is being made when a slot has been reserved. -/
theorem Above.begin (above : Above program.rules ledger g reference)
    (traced : Traced program exact base root ledger g) {slot : NodeId} {later : Ledger ω ρ}
    (slots : g'.slots = g.widened.slots)
    (made : ∀ other owner, later.made other owner → ledger.made other owner ∨
      other = slot ∧ owner = reference) : Around program.rules later g' reference := by
  intro other owner reserved isMade
  rcases made other owner isMade with old | ⟨_, rfl⟩
  · have := (traced.made _ _ old).1
    rw [slot?, slots] at reserved
    have there := (slot?_widened g other).symm.trans reserved
    rw [if_neg (by omega)] at there
    exact (above other owner there old).to_reflTransGen
  · exact .refl

/-- What holds when the slot of a node has been reserved. -/
theorem Traced.beginNode (traced : Traced program exact base root ledger g) (tidy : g.Tidy)
    {own : Option Place} {blueprint : Blueprint ω ρ}
    {children : Fin blueprint.arity → Reference ω ρ} {place : Place} {slot : NodeId}
    (last : slot.number = g.size) (unknown : own.bind g.nodes.find? = none)
    (asks : (Errand.node own blueprint children place).Asks program.rules ledger g.kind reference)
    (above : Above program.rules ledger g reference) (meets : Meets program.rules root reference) :
    Traced program exact base root (ledger.withMade slot reference) (g.widened.noteNode own slot) ∧
      Around program.rules (ledger.withMade slot reference) (g.widened.noteNode own slot)
        reference := by
  obtain ⟨_, isWritten, isNode⟩ := asks
  refine ⟨traced.noteNode tidy last unknown meets fun here isOwn => ?_,
    above.begin traced (slots_noteNode _ own slot) fun _ _ isMade => isMade⟩
  obtain ⟨rfl, isReference⟩ := isNode here isOwn
  exact ⟨isWritten, isReference⟩

/-- What holds when the slot of a rule has been reserved, and the errand for its body. -/
theorem Traced.beginUnfolding (traced : Traced program exact base root ledger g) (tidy : g.Tidy)
    {thunk : Thunk} (label : Option String) {body : Reference ω ρ} {slot : NodeId}
    (last : slot.number = g.size) (unknown : g.thunks.find? thunk = none)
    (asks : (Errand.unfolding thunk label body).Asks program.rules ledger g.kind reference)
    (above : Above program.rules ledger g reference) (meets : Meets program.rules root reference) :
    Traced program exact base root
        ((ledger.withText (.unfolding g.unfoldings.length) body).withMade slot reference)
        (g.widened.noteThunk thunk label slot) ∧
      (Errand.written body ⟨.unfolding g.unfoldings.length, []⟩).Asks program.rules
        ((ledger.withText (.unfolding g.unfoldings.length) body).withMade slot reference) g.kind
        body ∧
      Above program.rules
        ((ledger.withText (.unfolding g.unfoldings.length) body).withMade slot reference)
        (g.widened.noteThunk thunk label slot) body ∧
      Meets program.rules root body := by
  obtain ⟨opens, isThunk⟩ := asks
  have around : Around program.rules
      ((ledger.withText (.unfolding g.unfoldings.length) body).withMade slot reference)
      (g.widened.noteThunk thunk label slot) reference :=
    above.begin traced rfl fun _ _ isMade => isMade
  refine ⟨traced.noteThunk tidy last label unknown meets isThunk opens, ⟨rfl, ?_⟩,
    around.above (.inr opens), meets.tail (.inr opens)⟩
  simp [Ledger.written, Ledger.withMade, Ledger.texts_withText, below?]

/-- What holds after children have been resolved one after the other. -/
theorem traces_of_steps {states : Nat → Grammar ω ρ} {arity : Nat}
    {children : Fin arity → Reference ω ρ} {ids : Fin arity → NodeId} {place : Place}
    (tidy : (states 0).Tidy) (traced : Traced program exact base root ledger (states 0))
    (around : Around program.rules ledger (states 0) reference)
    (isWritten : ledger.written place = some reference)
    (meets : Meets program.rules root reference)
    (parts : ∀ index : Fin arity, reference.part? index = some (children index))
    {count : Nat} (within : count ≤ arity)
    (resolved : ∀ index : Fin arity, index < count →
      Resolves program.rules (.written (children index) (place.child index)) (states index)
        (.ok (ids index)) (states (index + 1)))
    (steps : ∀ (index : Fin arity) (ledger : Ledger ω ρ), index < count → (states index).Tidy →
      Traced program exact base root ledger (states index) →
      ledger.written (place.child index) = some (children index) →
      Above program.rules ledger (states index) (children index) →
      Meets program.rules root (children index) →
      (Errand.written (children index) (place.child index)).Traces program exact base root ledger
        (states index) (.ok (ids index)) (states (index + 1)) (children index)) :
    ∃ later, Ledger.Grows (states 0) ledger later ∧
      Traced program exact base root later (states count) ∧
      ∀ index : Fin arity, index < count →
        Answers program.rules exact later (states count) ((states (index + 1)).follow (ids index))
          (children index) ∧ Listed later (states count) (children index) := by
  apply kept_of_children (fun count => ∃ later, Ledger.Grows (states 0) ledger later ∧
    Traced program exact base root later (states count) ∧
    ∀ index : Fin arity, index < count →
      Answers program.rules exact later (states count) ((states (index + 1)).follow (ids index))
        (children index) ∧ Listed later (states count) (children index)) tidy _ within resolved
  · rintro index before grows settled tidyHere ⟨middle, more, tracedHere, done⟩
    have isPart : Part program.rules reference (children index) := .inl ⟨index, parts index⟩
    have isWrittenChild := middle.written_child (more.written isWritten) (parts index)
    obtain ⟨later, moreThen, tracedThen, answers, _⟩ :=
      steps index middle before tidyHere tracedHere isWrittenChild
        ((around.later grows settled more).above isPart) (meets.tail isPart)
    obtain ⟨growsThen, tidyThen, _⟩ := (resolved index before).keeps tidyHere
    have remains := Remains.of_grows growsThen tidyHere tidyThen
    refine ⟨later, more.trans moreThen grows.size, tracedThen, fun other earlier => ?_⟩
    by_cases isLast : other = index
    · subst isLast
      obtain ⟨there, known, leads⟩ := (resolved other before).recalled tidyHere rfl
      refine ⟨(answers _ rfl).1.congr (tidyThen.acyclic.follow_follow _).symm, ?_⟩
      exact ⟨_, there, moreThen.written isWrittenChild, known⟩
    · have : other.val < index := by
        have : other.val ≠ index := fun same => isLast (Fin.ext same)
        omega
      obtain ⟨answer, listed⟩ := done other this
      refine ⟨answer.transfer remains moreThen.made fun reserved => ?_, ?_⟩
      · exact growsThen.kept reserved
      · exact listed.mono moreThen.texts growsThen.number growsThen.size
          fun site id found => ⟨id, growsThen.at? found⟩
  · exact ⟨ledger, .refl _ _, traced, by simp⟩

/-- What holds when the first children of a node have been resolved.  The ledger carries on
the one that was there when the node's slot was reserved. -/
theorem Traced.resolveChildren (traced : Traced program exact base root ledger g) (tidy : g.Tidy)
    {own : Option Place} {blueprint : Blueprint ω ρ}
    {children : Fin blueprint.arity → Reference ω ρ} {place : Place} {slot : NodeId}
    {states : Nat → Grammar ω ρ} {ids : Fin blueprint.arity → NodeId}
    (last : slot.number = g.size) (unknown : own.bind g.nodes.find? = none)
    (begins : states 0 = g.widened.noteNode own slot)
    (asks : (Errand.node own blueprint children place).Asks program.rules ledger g.kind reference)
    (above : Above program.rules ledger g reference) (meets : Meets program.rules root reference)
    {count : Nat} (within : count ≤ blueprint.arity)
    (resolved : ∀ index : Fin blueprint.arity, index < count →
      Resolves program.rules (.written (children index) (place.child index)) (states index)
        (.ok (ids index)) (states (index + 1)))
    (steps : ∀ index : Fin blueprint.arity, index < count → (states index).Tidy →
      ∀ {ledger : Ledger ω ρ}, Traced program exact base root ledger (states index) →
        ∀ {part : Reference ω ρ}, (Errand.written (children index) (place.child index)).Asks
          program.rules ledger (states index).kind part →
        Above program.rules ledger (states index) part → Meets program.rules root part →
        (Errand.written (children index) (place.child index)).Traces program exact base root
          ledger (states index) (.ok (ids index)) (states (index + 1)) part) :
    ∃ later, Ledger.Grows g ledger later ∧
      Ledger.Grows (states 0) (ledger.withMade slot reference) later ∧
      Traced program exact base root later (states count) ∧
      Around program.rules later (states count) reference ∧
      ∀ index : Fin blueprint.arity, index < count →
        Answers program.rules exact later (states count) ((states (index + 1)).follow (ids index))
          (children index) ∧ Listed later (states count) (children index) := by
  obtain ⟨tracedStart, around⟩ := traced.beginNode tidy last unknown asks above meets
  rw [← begins] at tracedStart around
  obtain ⟨builds, isWritten, _⟩ := asks
  have tidyStart : (states 0).Tidy := begins ▸ tidy.noteNode last
  have wide : g.Grows (states 0) := begins ▸ .noteNode last unknown
  have opened := Ledger.Grows.withMade g ledger (Nat.le_of_eq last.symm) reference
  obtain ⟨later, more, tracedThen, done⟩ := traces_of_steps tidyStart tracedStart around
    (opened.written isWritten) meets builds.part?_eq within resolved
    fun index ledger before tidyBefore tracedBefore isWrittenChild aboveChild meetsChild =>
      steps index before tidyBefore tracedBefore ⟨rfl, isWrittenChild⟩ aboveChild meetsChild
  obtain ⟨grows, _, settled⟩ :=
    settled_of_children tidyStart within resolved (Nat.zero_le _) (Nat.le_refl _)
  exact ⟨later, opened.trans more wide.size, more, tracedThen, around.later grows settled more,
    done⟩

/-- What the ledger gains while a body is resolved, it gains while it is unfolded. -/
theorem Traced.grows_of_body (traced : Traced program exact base root ledger g) {thunk : Thunk}
    {label : Option String} {body : Reference ω ρ} {slot : NodeId} {later : Ledger ω ρ}
    (last : slot.number = g.size) (unknown : g.thunks.find? thunk = none)
    (more : Ledger.Grows (g.widened.noteThunk thunk label slot)
      ((ledger.withText (.unfolding g.unfoldings.length) body).withMade slot reference) later) :
    Ledger.Grows g ledger later := by
  have wide : g.Grows (g.widened.noteThunk thunk label slot) := .noteThunk last unknown
  exact (traced.grows_noteThunk last reference body).trans more wide.size

/-- The slot of a node has been made for nothing else. -/
theorem Traced.only (traced : Traced program exact base root ledger g) {slot : NodeId}
    {first later : Ledger ω ρ} (last : slot.number = g.size)
    (reserved : g'.slot? slot = some .reserved)
    (begun : ∀ other owner, first.made other owner → ledger.made other owner ∨
      other = slot ∧ owner = reference)
    (more : Ledger.Grows g' first later) (owner : Reference ω ρ) (isMade : later.made slot owner) :
    owner = reference := by
  rcases begun _ _ (more.fresh _ _ isMade (slot?_lt reserved)) with old | ⟨_, same⟩
  · have := (traced.made _ _ old).1
    omega
  · exact same

/-- What holds when a node has been made from what its children were resolved to. -/
theorem Traced.endNode (traced : Traced program exact base root ledger g) (tidy : g.Tidy)
    {blueprint : Blueprint ω ρ} {children : Fin blueprint.arity → Reference ω ρ}
    {given : Vector NodeId blueprint.arity} {slot : NodeId}
    (tidyThen : (g.finish slot blueprint given).2.Tidy)
    (reserved : g.slot? slot = some .reserved)
    (only : ∀ owner, ledger.made slot owner → owner = reference)
    (builds : Builds g.kind reference blueprint children)
    (around : Around program.rules ledger g reference)
    (each : ∀ index, Answers program.rules exact ledger g (given.get index) (children index) ∧
      Listed ledger g (children index)) :
    Traced program exact base root ledger (g.finish slot blueprint given).2 ∧
      Answers program.rules exact ledger (g.finish slot blueprint given).2
        (g.finish slot blueprint given).1 reference ∧
      Covered program.rules ledger (g.finish slot blueprint given).2 reference := by
  have answer := Answers.finish tidy reserved builds (fun index => (each index).1) around
  have covered : Covered program.rules ledger g reference := by
    right
    intro part isPart
    obtain ⟨index, rfl⟩ := builds.exists_of_part isPart
    exact (each index).2
  obtain ⟨fills, _⟩ := tidy.finish_fills reserved blueprint given
  obtain ⟨tracedThen, coveredThen⟩ := traced.filled tidyThen fills
    (traced.spelled.finish tidy reserved blueprint given) only answer covered
  exact ⟨tracedThen, answer.congr (tidy.follow_finish reserved blueprint given), coveredThen⟩

/-- What holds when the slot of a rule has been forwarded to what its body was resolved to. -/
theorem Traced.endUnfolding (traced : Traced program exact base root ledger g) (tidy : g.Tidy)
    {slot target : NodeId} {body : Reference ω ρ} (reserved : g.slot? slot = some .reserved)
    (elsewhere : g.follow target ≠ slot) (small : target.number < g.size)
    (only : ∀ owner, ledger.made slot owner → owner = reference)
    (opens : Opens program.rules reference body)
    (answer : Answers program.rules exact ledger g target body) (listed : Listed ledger g body) :
    Traced program exact base root ledger (g.fill slot (.forward target)) ∧
      Answers program.rules exact ledger (g.fill slot (.forward target)) target reference := by
  have fills := Fills.forward tidy reserved elsewhere
  have answerThen : Answers program.rules exact ledger (g.fill slot (.forward target)) target
      reference := by
    apply (answer.transfer fills.toRemains (fun _ _ isMade => isMade) _).of_returns (.single opens)
    intro isReserved
    rw [fills.others _ elsewhere]
    exact isReserved
  have leads : (g.fill slot (.forward target)).follow target =
      (g.fill slot (.forward target)).follow slot := by
    rw [tidy.acyclic.follow_fill_forward_target reserved elsewhere,
      tidy.acyclic.follow_fill_forward_self reserved elsewhere]
  have covered : Covered program.rules ledger g reference := by
    right
    intro part isPart
    rw [opens.part_eq isPart]
    exact listed
  have spelled : (g.fill slot (.forward target)).Spelled := by
    apply traced.spelled.of_remains fills.toRemains
    intro id node ready
    rw [slot?_fill (slot?_lt reserved)] at ready
    split at ready
    next => cases ready
    next => exact ready
  obtain ⟨tracedThen, _⟩ := traced.filled (tidy.fill_forward reserved elsewhere small) fills spelled
    only (answerThen.congr leads) covered
  exact ⟨tracedThen, answerThen⟩

/-- A rule whose body is resolved to the rule's own slot leads back to itself. -/
theorem Answers.circles {slot target : NodeId} {body : Reference ω ρ} {rules : Rules ω ρ}
    (answer : Answers rules exact ledger g target body) (leads : g.follow target = slot)
    (reserved : g.slot? slot = some .reserved)
    (only : ∀ owner, ledger.made slot owner → owner = reference)
    (opens : Opens rules reference body) : Circles rules g reference := by
  subst leads
  cases answer with
  | settled ready =>
      rw [reserved] at ready
      cases ready
  | pending _ isMade awaits =>
      obtain ⟨last, returns, ends⟩ := awaits
      refine ⟨reference, last, .refl, .head' opens returns, ends.imp ?_ ?_⟩
      · rintro rfl
        exact only _ isMade
      · rintro ⟨other, isHandle, small, same⟩
        exact ⟨other, isHandle, small, by rw [same]; exact reserved⟩

end

theorem Resolves.traces {errand : Errand ω ρ} {g g' : Grammar ω ρ}
    {result : Except ResolveError NodeId} (resolves : Resolves program.rules errand g result g')
    (tidy : g.Tidy) {ledger : Ledger ω ρ} (traced : Traced program exact base root ledger g)
    {reference : Reference ω ρ} (asks : errand.Asks program.rules ledger g.kind reference)
    (above : Above program.rules ledger g reference) (meets : Meets program.rules root reference) :
    errand.Traces program exact base root ledger g result g' reference := by
  induction resolves generalizing ledger reference with
  | @known_node g blueprint children place id known =>
      obtain ⟨rfl, isWritten⟩ := asks
      have found : g.at? (.node place) = some id := known
      exact traced.answers (traced.answer_of_at? found ⟨isWritten, _, _, rfl⟩) trivial
  | @new_node g g' blueprint children place result _ _ induction =>
      obtain ⟨rfl, isWritten⟩ := asks
      obtain ⟨later, more, tracedThen, answers, circles⟩ := induction tidy traced
        ⟨.node blueprint children, isWritten,
          fun here own => ⟨(Option.some.inj own).symm, _, _, rfl⟩⟩ above meets
      exact ⟨later, more, tracedThen, fun id found => ⟨(answers id found).1, trivial⟩, circles⟩
  | @known_literal g l place id known =>
      obtain ⟨rfl, isWritten⟩ := asks
      have found : g.at? (.literal l) = some id := known
      exact traced.answers (traced.answer_of_at? found rfl) trivial
  | refused_literal => exact traced.refuses (by simp [ResolveError.innermost])
  | @new_literal g g' l blueprint children place id unknown shape resolves induction =>
      obtain ⟨rfl, isWritten⟩ := asks
      obtain ⟨later, more, tracedThen, answers, _⟩ := induction tidy traced
        ⟨.literal shape children, isWritten, by simp⟩ above meets
      obtain ⟨answer, covered⟩ := answers id rfl
      have acyclic := (resolves.keeps tidy).2.1.acyclic
      obtain ⟨tracedNoted, answerNoted⟩ := tracedThen.note acyclic
        (at?_noteLiteral g' l (g'.follow id)) rfl rfl rfl rfl rfl meets
        (answer.congr (acyclic.follow_follow id).symm) covered
      refine ⟨later, more, tracedNoted, fun other found => ?_, by simp⟩
      cases found
      exact ⟨answerNoted, trivial⟩
  | @failed_literal g g' l blueprint children place error _ shape _ induction =>
      obtain ⟨rfl, isWritten⟩ := asks
      obtain ⟨later, more, tracedThen, _, circles⟩ := induction tidy traced
        ⟨.literal shape children, isWritten, by simp⟩ above meets
      exact ⟨later, more, tracedThen, by simp, circles⟩
  | @known_sequence g count parts place id known =>
      obtain ⟨rfl, isWritten⟩ := asks
      have found : g.at? (.sequence place) = some id := known
      exact traced.answers (traced.answer_of_at? found ⟨isWritten, _, _, rfl⟩) trivial
  | @new_sequence g g' count parts place id unknown resolves induction =>
      obtain ⟨rfl, isWritten⟩ := asks
      obtain ⟨later, more, tracedThen, answers, _⟩ := induction tidy traced
        ⟨.sequence count parts, isWritten, by simp⟩ above meets
      obtain ⟨answer, covered⟩ := answers id rfl
      obtain ⟨tracedNoted, answerNoted⟩ := tracedThen.note (resolves.keeps tidy).2.1.acyclic
        (at?_noteSequence g' place id) rfl rfl rfl rfl ⟨more.written isWritten, count, parts, rfl⟩
        meets answer covered
      refine ⟨later, more, tracedNoted, fun other found => ?_, by simp⟩
      cases found
      exact ⟨answerNoted, trivial⟩
  | @failed_sequence g g' count parts place error _ _ induction =>
      obtain ⟨rfl, isWritten⟩ := asks
      obtain ⟨later, more, tracedThen, _, circles⟩ := induction tidy traced
        ⟨.sequence count parts, isWritten, by simp⟩ above meets
      exact ⟨later, more, tracedThen, by simp, circles⟩
  | @rule g g' name place result _ induction =>
      obtain ⟨rfl, _⟩ := asks
      obtain ⟨later, more, tracedThen, answers, circles⟩ :=
        induction tidy traced ⟨.rule name, rfl⟩ above meets
      exact ⟨later, more, tracedThen, answers, circles⟩
  | @delayed g g' label body place result _ induction =>
      obtain ⟨rfl, isWritten⟩ := asks
      obtain ⟨later, more, tracedThen, answers, circles⟩ := induction tidy traced
        ⟨.delayed label body, isWritten, label, body, rfl⟩ above meets
      exact ⟨later, more, tracedThen, answers, circles⟩
  | @parser g g' identity body place result _ induction =>
      obtain ⟨rfl, isWritten⟩ := asks
      have opens : Opens program.rules (.parser identity body) body := .parser identity body
      obtain ⟨later, more, tracedThen, answers, circles⟩ := induction tidy traced
        ⟨rfl, traced.written_body isWritten⟩
        (fun slot owner reserved isMade => (above slot owner reserved isMade).tail (.inr opens))
        (meets.tail (.inr opens))
      exact ⟨later, more, tracedThen,
        fun id found => ⟨(answers id found).1.of_returns (.single opens), trivial⟩,
        fun error found innermost => (circles error found innermost).of_part (.inr opens)⟩
  | foreign_handle => exact traced.refuses (by simp [ResolveError.innermost])
  | @own_handle g id place small =>
      obtain ⟨rfl, _⟩ := asks
      have answer : Answers program.rules exact ledger g id (.handle g.number id) :=
        .of_handle tidy traced.spelled traced.owned small
      exact traced.answers (answer.congr (tidy.acyclic.follow_follow id).symm) trivial
  | unknown_handle => exact traced.refuses (by simp [ResolveError.innermost])
  | no_slot_for_node => exact traced.refuses (by simp [ResolveError.innermost])
  | @failed_child g g' own blueprint children place slot states ids failed error unknown last
      begins resolved resolvesFailed steps fails =>
      have within := Nat.le_of_lt failed.isLt
      obtain ⟨middle, more, _, tracedHere, around, _⟩ :=
        traced.resolveChildren tidy last unknown begins asks above meets within resolved steps
      obtain ⟨builds, isWritten, _⟩ := asks
      have wide : g.Grows (states 0) := begins ▸ .noteNode last unknown
      obtain ⟨grows, tidyHere, _⟩ := settled_of_children (begins ▸ tidy.noteNode last) within
        resolved (Nat.zero_le _) (Nat.le_refl _)
      have isPart : Part program.rules reference (children failed) := builds.part failed
      have isWrittenChild :=
        middle.written_child (more.written isWritten) (builds.part?_eq failed)
      obtain ⟨later, moreThen, tracedThen, _, circles⟩ := fails tidyHere tracedHere
        ⟨rfl, isWrittenChild⟩ (around.above isPart) (meets.tail isPart)
      refine ⟨later, more.trans moreThen (wide.trans grows).size, tracedThen, by simp,
        fun other found innermost => ?_⟩
      cases found
      exact (circles error rfl innermost).of_part isPart
  | @made g own blueprint children place slot states ids given unknown last begins resolved
      isGiven steps =>
      obtain ⟨later, more, onwards, tracedHere, around, done⟩ :=
        traced.resolveChildren tidy last unknown begins asks above meets (Nat.le_refl _)
          (fun index _ => resolved index) fun index _ => steps index
      obtain ⟨builds, _, _⟩ := asks
      have wide : g.Grows (states 0) := begins ▸ .noteNode last unknown
      obtain ⟨grows, tidyHere, _⟩ := settled_of_children (begins ▸ tidy.noteNode last)
        (Nat.le_refl _) (fun index _ => resolved index) (Nat.zero_le _) (Nat.le_refl _)
      have noted : (states 0).slot? slot = some .reserved := begins ▸ slot?_noteNode last own
      have reserved := grows.kept noted
      rw [← wide.kind, ← grows.kind] at builds
      have tidyThen := (Resolves.made unknown last begins resolved isGiven |>.keeps tidy).2.1
      obtain ⟨tracedThen, answer, covered⟩ := tracedHere.endNode tidyHere tidyThen reserved
        (traced.only last noted (fun _ _ isMade => isMade) onwards) builds around
        fun index => isGiven index ▸ done index index.isLt
      refine ⟨later, more, tracedThen, fun id found => ?_, by simp⟩
      cases found
      exact ⟨answer, covered⟩
  | @known_thunk g thunk label body id known =>
      obtain ⟨opens, isThunk⟩ := asks
      have found : g.at? (.thunk thunk) = some id := known
      exact traced.answers (traced.answer_of_at? found isThunk) trivial
  | no_slot_for_thunk => exact traced.refuses (by simp [ResolveError.innermost])
  | @failed_body g g' thunk label body slot error unknown last _ induction =>
      obtain ⟨tracedStart, asksBody, aboveBody, meetsBody⟩ :=
        traced.beginUnfolding tidy label last unknown asks above meets
      obtain ⟨later, more, tracedThen, _, circles⟩ :=
        induction (tidy.noteThunk last) tracedStart asksBody aboveBody meetsBody
      exact ⟨later, traced.grows_of_body last unknown more, tracedThen, by simp,
        fun error found innermost => (circles error found innermost).of_part (.inr asks.1)⟩
  | @circular g g' thunk label body slot target unknown last resolves leads induction =>
      obtain ⟨tracedStart, asksBody, aboveBody, meetsBody⟩ :=
        traced.beginUnfolding tidy label last unknown asks above meets
      obtain ⟨later, more, tracedThen, answers, _⟩ :=
        induction (tidy.noteThunk last) tracedStart asksBody aboveBody meetsBody
      have noted := slot?_noteThunk last thunk label
      have reserved := (resolves.keeps (tidy.noteThunk last)).1.kept noted
      refine ⟨later, traced.grows_of_body last unknown more, tracedThen, by simp, fun _ _ _ => ?_⟩
      exact (answers target rfl).1.circles leads reserved
        (traced.only last noted (fun _ _ isMade => isMade) more) asks.1
  | @unfolded g g' thunk label body slot target unknown last resolves elsewhere induction =>
      obtain ⟨tracedStart, asksBody, aboveBody, meetsBody⟩ :=
        traced.beginUnfolding tidy label last unknown asks above meets
      obtain ⟨later, more, tracedThen, answers, _⟩ :=
        induction (tidy.noteThunk last) tracedStart asksBody aboveBody meetsBody
      have noted := slot?_noteThunk last thunk label
      obtain ⟨grows, tidyThen, settles⟩ := resolves.keeps (tidy.noteThunk last)
      have reserved := grows.kept noted
      obtain ⟨there, known, _⟩ := resolves.recalled (tidy.noteThunk last) rfl
      obtain ⟨tracedEnd, answer⟩ := tracedThen.endUnfolding tidyThen reserved elsewhere
        (settles _ rfl).1 (traced.only last noted (fun _ _ isMade => isMade) more) asks.1
        (answers target rfl).1 ⟨_, there, more.written asksBody.2, known⟩
      refine ⟨later, traced.grows_of_body last unknown more, tracedEnd, fun id found => ?_,
        by simp⟩
      cases found
      exact ⟨answer, trivial⟩

end Grammar

end Packrat
