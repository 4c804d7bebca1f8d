import Packrat.Proofs.Grammar.Answers

/-!
# Resolutions are traced

`Traced` is what holds of a grammar and its ledger at every moment of a resolution: each
slot answers what it was made for, and what the tables list is being resolved or answered,
with all of its parts listed too.  From that it is read off what a resolution has come to
and, when it has come to nothing for a rule that leads back to itself, which one that is.
-/

namespace Packrat

namespace Grammar

open Reference

variable {ω ρ : Type}

/-- A reference is written somewhere and has been resolved there, or is being resolved. -/
def Listed (ledger : Ledger ω ρ) (g : Grammar ω ρ) (reference : Reference ω ρ) : Prop :=
  ∃ place id, ledger.written place = some reference ∧ g.known? reference place = some id

/-- What a reference leads to lands somewhere, or has its parts listed. -/
def Covered (rules : Rules ω ρ) (ledger : Ledger ω ρ) (g : Grammar ω ρ)
    (reference : Reference ω ρ) : Prop :=
  Sane rules reference ∨ ∀ part, Part rules reference part → Listed ledger g part

/-- A slot is being filled for a reference, or answers it. -/
def Entry (rules : Rules ω ρ) (exact : Prop) (ledger : Ledger ω ρ) (g : Grammar ω ρ) (id : NodeId)
    (reference : Reference ω ρ) : Prop :=
  (g.slot? id = some .reserved ∧ ledger.made id reference) ∨
    (Answers rules exact ledger g id reference ∧ Covered rules ledger g reference)

/-- What holds of a grammar and its ledger at every moment of the resolution of `root`,
which began with `base`. -/
structure Traced (program : Program ω ρ) (exact : Prop) (base : Grammar ω ρ)
    (root : Reference ω ρ) (ledger : Ledger ω ρ) (g : Grammar ω ρ) : Prop where
  fixed : ∀ origin, (∀ serial, origin ≠ .unfolding serial) →
    ledger.texts origin = program.texts origin
  unfoldings : ∀ serial reference, ledger.texts (.unfolding serial) = some reference →
    serial < g.unfoldings.length
  proper : ∀ origin reference, ledger.texts origin = some reference →
    reference.Proper program.texts
  made : ∀ slot owner, ledger.made slot owner →
    slot.number < g.size ∧ Answers program.rules exact ledger g slot owner
  owned : ∀ slot, g.slot? slot = some .reserved → ∃ owner, ledger.made slot owner
  spelled : g.Spelled
  entries : ∀ site id, g.at? site = some id → ∃ reference, ledger.Names site reference ∧
    Entry program.rules exact ledger g id reference ∧
    (base.at? site = some id ∨ Meets program.rules root reference)

section

variable {rules : Rules ω ρ} {exact : Prop} {ledger later : Ledger ω ρ} {g g' : Grammar ω ρ}

theorem Listed.mono {reference : Reference ω ρ} (listed : Listed ledger g reference)
    (texts : ∀ origin reference, ledger.texts origin = some reference →
      later.texts origin = some reference)
    (number : g'.number = g.number) (size : g.size ≤ g'.size)
    (sites : ∀ site id, g.at? site = some id → ∃ there, g'.at? site = some there) :
    Listed later g' reference := by
  obtain ⟨place, id, isWritten, known⟩ := listed
  obtain ⟨there, knownThen⟩ := known?_mono number size sites known
  exact ⟨place, there, Ledger.written_mono texts isWritten, knownThen⟩

theorem Covered.mono {reference : Reference ω ρ} (covered : Covered rules ledger g reference)
    (listed : ∀ part, Listed ledger g part → Listed later g' part) :
    Covered rules later g' reference :=
  covered.imp_right fun each part isPart => listed part (each part isPart)

theorem Entry.answer {id : NodeId} {reference : Reference ω ρ}
    (entry : Entry rules exact ledger g id reference) :
    Answers rules exact ledger g id reference := by
  rcases entry with ⟨reserved, isMade⟩ | ⟨answer, _⟩
  · have stays := follow_of_reserved reserved
    exact .pending (stays.symm ▸ reserved) (stays.symm ▸ isMade) ⟨_, .refl, .inl rfl⟩
  · exact answer

end

namespace Traced

variable {program : Program ω ρ} {exact : Prop} {base : Grammar ω ρ} {root : Reference ω ρ}
  {ledger later : Ledger ω ρ} {g g' : Grammar ω ρ} {reference : Reference ω ρ} {slot : NodeId}
  (traced : Traced program exact base root ledger g)

include traced

theorem proper_of_written {place : Place} (isWritten : ledger.written place = some reference) :
    reference.Proper program.texts := by
  obtain ⟨whole, found, below⟩ := Option.bind_eq_some_iff.mp isWritten
  exact program.proper_of_below? (traced.proper _ _ found) below

theorem proper_of_is {thunk : Thunk} (isThunk : ledger.Is thunk reference) :
    reference.Proper program.texts := by
  cases thunk with
  | rule name =>
      obtain rfl := isThunk
      exact .rule name
  | delayed => exact traced.proper_of_written isThunk.1

/-- A parser's body is written where the parser's identity says. -/
theorem written_body {place : Place} {identity : Nat} {body : Reference ω ρ}
    (isWritten : ledger.written place = some (.parser identity body)) :
    ledger.written ⟨.parser identity, []⟩ = some body := by
  cases traced.proper_of_written isWritten with
  | parser found _ =>
      rw [← traced.fixed (.parser identity) fun _ => by simp] at found
      simp [Ledger.written, found, below?]

/-- What a step keeps, if what it adds is in order. -/
theorem step (more : Ledger.Grows g ledger later) (number : g'.number = g.number)
    (size : g.size ≤ g'.size)
    (sites : ∀ site id, g.at? site = some id → ∃ there, g'.at? site = some there)
    (unfoldings : g.unfoldings.length ≤ g'.unfoldings.length)
    (texts : ∀ serial reference, later.texts (.unfolding serial) = some reference →
      ledger.texts (.unfolding serial) = some reference ∨
        serial < g'.unfoldings.length ∧ reference.Proper program.texts)
    (answers : ∀ id reference, Answers program.rules exact ledger g id reference →
      Answers program.rules exact later g' id reference)
    (reserved : ∀ id reference, g.slot? id = some .reserved → ledger.made id reference →
      Entry program.rules exact later g' id reference)
    (made : ∀ slot owner, later.made slot owner → ledger.made slot owner ∨
      slot.number < g'.size ∧ Answers program.rules exact later g' slot owner)
    (owned : ∀ slot, g'.slot? slot = some .reserved → ∃ owner, later.made slot owner)
    (spelled : g'.Spelled)
    (entries : ∀ site id, g'.at? site = some id → g.at? site = some id ∨
      ∃ reference, later.Names site reference ∧
        Entry program.rules exact later g' id reference ∧ Meets program.rules root reference) :
    Traced program exact base root later g' := by
  constructor
  · intro origin outside
    exact (more.fixed origin outside).trans (traced.fixed origin outside)
  · intro serial reference found
    rcases texts serial reference found with old | ⟨inside, _⟩
    · exact Nat.lt_of_lt_of_le (traced.unfoldings serial reference old) unfoldings
    · exact inside
  · intro origin reference found
    cases origin with
    | unfolding serial =>
        rcases texts serial reference found with old | ⟨_, proper⟩
        · exact traced.proper _ _ old
        · exact proper
    | parser identity =>
        rw [more.fixed _ fun _ => by simp] at found
        exact traced.proper _ _ found
    | consumer node =>
        rw [more.fixed _ fun _ => by simp] at found
        exact traced.proper _ _ found
  · intro slot owner isMade
    rcases made slot owner isMade with old | new
    · obtain ⟨small, answer⟩ := traced.made slot owner old
      exact ⟨Nat.lt_of_lt_of_le small size, answers _ _ answer⟩
    · exact new
  · exact owned
  · exact spelled
  · intro site id found
    rcases entries site id found with old | ⟨reference, names, entry, meets⟩
    · obtain ⟨reference, names, entry, source⟩ := traced.entries site id old
      refine ⟨reference, names.mono more.texts, ?_, source⟩
      rcases entry with ⟨isReserved, isMade⟩ | ⟨answer, covered⟩
      · exact reserved id reference isReserved isMade
      · refine .inr ⟨answers _ _ answer, covered.mono fun part listed => ?_⟩
        exact listed.mono more.texts number size sites
    · exact ⟨reference, names, entry, .inr meets⟩

/-- What the reservation of a slot keeps. -/
theorem widen (tidy : g.Tidy) (tidyThen : g'.Tidy) (grows : g.Grows g')
    (more : Ledger.Grows g ledger later) (slots : g'.slots = g.widened.slots)
    (last : slot.number = g.size)
    (texts : ∀ serial reference, later.texts (.unfolding serial) = some reference →
      ledger.texts (.unfolding serial) = some reference ∨
        serial < g'.unfoldings.length ∧ reference.Proper program.texts)
    (isMade : later.made slot reference)
    (made : ∀ other owner, later.made other owner → ledger.made other owner ∨
      other = slot ∧ owner = reference)
    (meets : Meets program.rules root reference)
    (entries : ∀ site id, g'.at? site = some id → g.at? site = some id ∨
      id = slot ∧ later.Names site reference) :
    Traced program exact base root later g' := by
  have remains := Remains.of_grows grows tidy tidyThen
  have slot? : ∀ id, g'.slot? id = if id.number = g.size then some .reserved else g.slot? id := by
    intro id
    rw [Grammar.slot?, slots]
    exact slot?_widened g id
  have reserved : g'.slot? slot = some .reserved := by
    rw [slot?, if_pos last]
  have still : ∀ id, g.slot? id = some .reserved → g'.slot? id = some .reserved :=
    fun _ there => grows.kept there
  have entry : Entry program.rules exact later g' slot reference := .inl ⟨reserved, isMade⟩
  apply traced.step more grows.number grows.size fun site id found => ⟨id, grows.at? found⟩
  · exact grows.unfoldings
  · exact texts
  · intro id reference answer
    exact answer.transfer remains more.made (still _)
  · intro id reference isReserved isOld
    exact .inl ⟨still id isReserved, more.made _ _ isOld⟩
  · intro other owner isAnother
    rcases made other owner isAnother with old | ⟨rfl, rfl⟩
    · exact .inl old
    · exact .inr ⟨slot?_lt reserved, entry.answer⟩
  · intro other isReserved
    rw [slot?] at isReserved
    split at isReserved
    next same =>
      rw [Index.ext (same.trans last.symm)]
      exact ⟨reference, isMade⟩
    next =>
      obtain ⟨owner, isOld⟩ := traced.owned other isReserved
      exact ⟨owner, more.made _ _ isOld⟩
  · apply traced.spelled.of_remains remains
    intro id node ready
    rw [slot?] at ready
    split at ready
    next => cases ready
    next => exact ready
  · intro site id found
    rcases entries site id found with old | ⟨rfl, names⟩
    · exact .inl old
    · exact .inr ⟨reference, names, entry, meets⟩

theorem noteNode (tidy : g.Tidy) (last : slot.number = g.size) {own : Option Place}
    (unknown : own.bind g.nodes.find? = none) (meets : Meets program.rules root reference)
    (names : ∀ place, own = some place → ledger.Names (.node place) reference) :
    Traced program exact base root (ledger.withMade slot reference)
      (g.widened.noteNode own slot) := by
  have more := Ledger.Grows.withMade g ledger (Nat.le_of_eq last.symm) reference
  apply traced.widen tidy (tidy.noteNode last) (.noteNode last unknown) more
    (slots_noteNode _ own slot) last
  · intro serial reference found
    exact .inl found
  · exact .inr ⟨rfl, rfl⟩
  · intro other owner isMade
    exact isMade
  · exact meets
  · intro site id found
    rw [at?_noteNode] at found
    split at found
    next isOwn =>
      cases found
      obtain ⟨place, isPlace, rfl⟩ := Option.map_eq_some_iff.mp isOwn
      exact .inr ⟨rfl, (names place isPlace).mono more.texts⟩
    next => exact .inl found

theorem unfolding_unknown : ledger.texts (.unfolding g.unfoldings.length) = none := by
  cases known : ledger.texts (.unfolding g.unfoldings.length) with
  | none => rfl
  | some reference => exact absurd (traced.unfoldings _ _ known) (Nat.lt_irrefl _)

/-- The ledger grows when an unfolding begins. -/
theorem grows_noteThunk (last : slot.number = g.size) (reference body : Reference ω ρ) :
    Ledger.Grows g ledger
      ((ledger.withText (.unfolding g.unfoldings.length) body).withMade slot reference) :=
  (Ledger.Grows.withText g traced.unfolding_unknown body).trans
    (.withMade g _ (Nat.le_of_eq last.symm) reference) (Nat.le_refl _)

theorem noteThunk (tidy : g.Tidy) (last : slot.number = g.size) {thunk : Thunk}
    (label : Option String) (unknown : g.thunks.find? thunk = none)
    (meets : Meets program.rules root reference) (isThunk : ledger.Is thunk reference)
    {body : Reference ω ρ} (opens : Opens program.rules reference body) :
    Traced program exact base root
      ((ledger.withText (.unfolding g.unfoldings.length) body).withMade slot reference)
      (g.widened.noteThunk thunk label slot) := by
  have more := traced.grows_noteThunk last reference body
  apply traced.widen tidy (tidy.noteThunk last) (.noteThunk last unknown) more rfl last
  · intro serial other found
    show _ ∨ serial < g.unfoldings.length + 1 ∧ _
    by_cases same : serial = g.unfoldings.length
    · subst same
      rw [Ledger.withMade, Ledger.texts_withText] at found
      cases found
      exact .inr ⟨Nat.lt_succ_self _,
        program.proper_of_opens (traced.proper_of_is isThunk) opens⟩
    · left
      rw [← found]
      refine (ledger.texts_withText_of_ne ?_ body).symm
      intro equal
      exact same (Origin.unfolding.inj equal)
  · exact .inr ⟨rfl, rfl⟩
  · intro other owner isMade
    exact isMade
  · exact meets
  · intro site id found
    rw [at?_noteThunk] at found
    split at found
    next same =>
      cases found
      rw [same]
      exact .inr ⟨rfl, more.is isThunk⟩
    next => exact .inl found

/-- What a new note for a site keeps. -/
theorem note (acyclic : g.Acyclic) {site : Site} {id : NodeId}
    (sites : ∀ other, g'.at? other = if other = site then some id else g.at? other)
    (number : g'.number = g.number) (kind : g'.kind = g.kind) (slots : g'.slots = g.slots)
    (unfoldings : g'.unfoldings = g.unfoldings)
    (names : ledger.Names site reference) (meets : Meets program.rules root reference)
    (answer : Answers program.rules exact ledger g id reference)
    (covered : Covered program.rules ledger g reference) :
    Traced program exact base root ledger g' ∧
      Answers program.rules exact ledger g' id reference := by
  have remains := Remains.of_slots acyclic number kind slots
  have slot? : ∀ id, g'.slot? id = g.slot? id := fun id => by
    rw [Grammar.slot?, slots, Grammar.slot?]
  have size : g.size ≤ g'.size := remains.size
  have kept : ∀ other id, g.at? other = some id → ∃ there, g'.at? other = some there := by
    intro other id found
    rw [sites]
    split
    next => exact ⟨_, rfl⟩
    next => exact ⟨id, found⟩
  have answers : ∀ id reference, Answers program.rules exact ledger g id reference →
      Answers program.rules exact ledger g' id reference := by
    intro id reference answer
    apply answer.transfer remains fun _ _ isMade => isMade
    intro reserved
    rw [slot?]
    exact reserved
  refine ⟨traced.step (.refl g ledger) number size kept (by rw [unfoldings])
    (fun _ _ found => .inl found) answers ?_ (fun _ _ isMade => .inl isMade) ?_ ?_ ?_,
    answers _ _ answer⟩
  · intro id reference reserved isMade
    exact .inl ⟨(slot? id).trans reserved, isMade⟩
  · intro slot reserved
    exact traced.owned slot ((slot? slot).symm.trans reserved)
  · apply traced.spelled.of_remains remains
    intro id node ready
    exact (slot? id).symm.trans ready
  · intro other there found
    rw [sites] at found
    split at found
    next same =>
      cases found
      rw [same]
      refine .inr ⟨reference, names, .inr ⟨answers _ _ answer, covered.mono fun part listed => ?_⟩,
        meets⟩
      exact listed.mono (fun _ _ found => found) number size kept
    next => exact .inl found

/-- What filling a slot keeps, if the slot answers what it was made for. -/
theorem filled (tidyThen : g'.Tidy) (fills : g.Fills slot g') (spelled : g'.Spelled)
    (only : ∀ owner, ledger.made slot owner → owner = reference)
    (there : Answers program.rules exact ledger g' slot reference)
    (covered : Covered program.rules ledger g reference) :
    Traced program exact base root ledger g' ∧ Covered program.rules ledger g' reference := by
  have kept : ∀ site id, g.at? site = some id → ∃ there, g'.at? site = some there := by
    intro site id found
    exact ⟨id, (fills.sites site).trans found⟩
  have coveredThen : Covered program.rules ledger g' reference := by
    apply covered.mono
    intro part listed
    exact listed.mono (fun _ _ found => found) fills.number fills.size kept
  have owned : ∀ other, g'.slot? other = some .reserved → ∃ owner, ledger.made other owner := by
    intro other reserved
    apply traced.owned
    rw [← fills.others other]
    · exact reserved
    · rintro rfl
      exact fills.filled reserved
  have made : ∀ owner, ledger.made slot owner →
      Answers program.rules exact ledger g' slot owner := by
    intro owner isMade
    rw [only owner isMade]
    exact there
  refine ⟨traced.step (.refl g ledger) fills.number fills.size kept (by rw [fills.unfoldings])
    (fun _ _ found => .inl found) ?_ ?_ (fun _ _ isMade => .inl isMade) owned spelled ?_,
    coveredThen⟩
  · intro id other answer
    exact answer.filled fills (fun _ small => .of_handle tidyThen spelled owned small) made
  · intro id other reserved isMade
    by_cases same : id = slot
    · rw [same] at isMade ⊢
      rw [only other isMade]
      exact .inr ⟨there, coveredThen⟩
    · exact .inl ⟨(fills.others id same).trans reserved, isMade⟩
  · intro site id found
    exact .inl ((fills.sites site).symm.trans found)

end Traced

end Grammar

end Packrat
