import Packrat.Proofs.Grammar.Course
import Packrat.Proofs.Grammar.Undoing

/-!
# Calls on a grammar

A caller resolves what a program says, one reference after the other.  Between two calls
each slot answers what it was made for, whichever of the calls have failed.

A call that fails is undone, but it may have taught the grammar a sequence.  If one of the
sequence's handles was for a slot of the failed call, it is for another node later on, and
the sequence is not what its answer says.
-/

namespace Packrat

namespace Grammar

open Reference

variable {ω ρ : Type}

/-- A call's handles are for slots that were there before, or for none that the call gets
to. -/
def HandlesOld (g : Grammar ω ρ) (rules : Rules ω ρ) (place : Place)
    (reference : Reference ω ρ) : Prop :=
  ∀ id, Meets rules reference (.handle g.number id) →
    id.number < g.size ∨ (g.extended rules place reference).size ≤ id.number

end Grammar

open Grammar Reference

variable {ω ρ : Type}

/-- A reference that a program says can be resolved.  If answers are to be `exact`, a call
that fails must not have handles for slots that it makes itself. -/
structure Program.Admits (program : Program ω ρ) (exact : Prop) (g : Grammar ω ρ)
    (place : Place) (reference : Reference ω ρ) : Prop where
  written : program.ledger.written place = some reference
  old : exact → ∀ error, (g.resolve program.rules place reference).1 = .error error →
    g.HandlesOld program.rules place reference

theorem Program.Admits.of_ok {program : Program ω ρ} {exact : Prop} {g : Grammar ω ρ}
    {place : Place} {reference : Reference ω ρ} {id : NodeId}
    (isWritten : program.ledger.written place = some reference)
    (found : (g.resolve program.rules place reference).1 = .ok id) :
    program.Admits exact g place reference := by
  refine ⟨isWritten, fun _ error fails => ?_⟩
  rw [found] at fails
  cases fails

/-- One call of a program on a grammar. -/
inductive Program.Call (program : Program ω ρ) (exact : Prop) : Grammar ω ρ → Grammar ω ρ → Prop
  where
  | resolve {g : Grammar ω ρ} {place : Place} {reference : Reference ω ρ} :
      program.Admits exact g place reference →
      Call program exact g (g.resolve program.rules place reference).2

/-- Any number of calls, one after the other. -/
abbrev Program.Calls (program : Program ω ρ) (exact : Prop) :
    Grammar ω ρ → Grammar ω ρ → Prop := Relation.ReflTransGen (program.Call exact)

namespace Grammar

section

variable {g g' : Grammar ω ρ} (grows : g.Grows g') (tidy : g.Tidy) (complete : g.Complete)
  (tidyThen : g'.Tidy)

include grows tidy complete tidyThen

theorem Shows.of_grows {id : NodeId} {shape : Shape} (shows : Shows g' id shape)
    (small : id.number < g.size) : Shows g id shape := by
  have children : ∀ {id node}, id.number < g.size → g.node? id = some node →
      ∀ child ∈ node.children, child.number < g.size := by
    intro id node small found
    exact tidy.children _ _ (slot?_of_node? found)
  induction shows with
  | leaf found keyed childless =>
      rw [grows.node?_eq tidy complete tidyThen small] at found
      exact .leaf found keyed childless
  | branch found keyed notLeaf isChildren _ induction =>
      rw [grows.node?_eq tidy complete tidyThen small] at found
      refine .branch found keyed notLeaf isChildren fun index => induction index ?_
      apply children small found
      rw [isChildren]
      exact List.mem_ofFn.mpr ⟨index, rfl⟩

/-- The shape of a parser is what it was, if its handles were for nodes then. -/
theorem Shaped.of_grows {rules : Rules ω ρ} {reference : Reference ω ρ} {shape : Shape}
    (shaped : Shaped rules g' reference shape)
    (old : ∀ id, Meets rules reference (.handle g.number id) → id.number < g.size) :
    Shaped rules g reference shape := by
  induction shaped with
  | leaf builds cacheable childless => exact .leaf (grows.kind ▸ builds) cacheable childless
  | branch builds cacheable notLeaf _ induction =>
      refine .branch (grows.kind ▸ builds) cacheable notLeaf fun index => induction index ?_
      exact fun id meets => old id (meets.head (builds.part index))
  | opened opens _ induction =>
      exact .opened opens (induction fun id meets => old id (meets.head (.inr opens)))
  | handle _ shows =>
      rw [grows.number] at old ⊢
      have small := old _ .refl
      exact .handle small (shows.of_grows grows tidy complete tidyThen small)

end

/-- After a call has been undone, a site is listed as it was before, or the call has listed
it for an older slot that is shared. -/
theorem Resolves.at?_rollback {rules : Rules ω ρ} {errand : Errand ω ρ} {g g' : Grammar ω ρ}
    {result : Except ResolveError NodeId} (resolves : Resolves rules errand g result g')
    (tidy : g.Tidy) {site : Site} {id : NodeId}
    (found : (g'.rollback g.size).at? site = some id) :
    g.at? site = some id ∨ g'.at? site = some id ∧ id.number < g.size ∧ g'.Shares id := by
  obtain ⟨grows, tidyThen, _⟩ := resolves.keeps tidy
  obtain ⟨gains, _⟩ := resolves.gains tidy
  obtain ⟨_, _, _, literals, sequences⟩ := tidyThen.unique
  cases site with
  | node place => exact .inl ((grows.nodes_rollback tidy tidyThen place).symm.trans found)
  | thunk thunk => exact .inl ((grows.thunks_rollback tidy tidyThen thunk).symm.trans found)
  | literal data =>
      obtain ⟨there, isOld⟩ := (Table.find?_keep_eq_some literals).mp found
      have small := decide_eq_true_iff.mp isOld
      rcases gains.literals data id there with before | new | shares
      · exact .inl before
      · omega
      · exact .inr ⟨there, small, shares⟩
  | sequence place =>
      obtain ⟨there, isOld⟩ := (Table.find?_keep_eq_some sequences).mp found
      have small := decide_eq_true_iff.mp isOld
      rcases gains.sequences place id there with before | new | shares
      · exact .inl before
      · omega
      · exact .inr ⟨there, small, shares⟩

/-- What holds of a grammar and its ledger between two calls. -/
structure Orderly (program : Program ω ρ) (exact : Prop) (ledger : Ledger ω ρ)
    (g : Grammar ω ρ) : Prop where
  tidy : g.Tidy
  complete : g.Complete
  traced : ∀ root, Traced program exact g root ledger g

variable {program : Program ω ρ} {exact : Prop} {ledger later : Ledger ω ρ}
  {g g' : Grammar ω ρ}

theorem Traced.rebase {base : Grammar ω ρ} {root : Reference ω ρ}
    (traced : Traced program exact base root ledger g) (other : Reference ω ρ) :
    Traced program exact g other ledger g :=
  { traced with
    entries := by
      intro site id found
      obtain ⟨reference, names, entry, _⟩ := traced.entries site id found
      exact ⟨reference, names, entry, .inl found⟩ }

/-- What the program says is what the ledger says. -/
theorem Traced.written_of_program {base : Grammar ω ρ} {root : Reference ω ρ}
    (traced : Traced program exact base root ledger g) {place : Place} {reference : Reference ω ρ}
    (isWritten : program.ledger.written place = some reference) :
    ledger.written place = some reference := by
  apply Ledger.written_mono _ isWritten
  intro origin whole found
  rw [traced.fixed origin]
  · exact found
  · rintro serial rfl
    rw [show program.ledger.texts = program.texts from rfl, program.outside] at found
    cases found

namespace Orderly

theorem empty (program : Program ω ρ) (exact : Prop) (number : Nat) (kind : InputKind) :
    Orderly program exact program.ledger (.empty number kind) where
  tidy := .empty number kind
  complete := .empty number kind
  traced root := by
    have nothing : ∀ id, (Grammar.empty number kind : Grammar ω ρ).slot? id = none := by
      intro id
      simp [slot?, Grammar.empty]
    constructor
    · intro origin _
      rfl
    · intro serial reference found
      rw [show program.ledger.texts = program.texts from rfl, program.outside] at found
      cases found
    · exact program.texts_proper
    · intro slot owner isMade
      exact isMade.elim
    · intro slot reserved
      rw [nothing] at reserved
      cases reserved
    · intro id node key ready
      rw [nothing] at ready
      cases ready
    · intro site id found
      cases site <;> cases found

variable (orderly : Orderly program exact ledger g)

include orderly

/-- Between two calls answers stay what they are. -/
theorem answer_transfer {id : NodeId} {reference : Reference ω ρ}
    (answer : Answers program.rules exact ledger g id reference) (remains : g.Remains g')
    (made : ∀ slot owner, ledger.made slot owner → later.made slot owner) :
    Answers program.rules exact later g' id reference :=
  answer.transfer remains made fun reserved => absurd reserved (orderly.complete _)

/-- What is listed for a site is answered, with its parts listed. -/
theorem answered {site : Site} {id : NodeId} (found : g.at? site = some id) :
    ∃ reference, ledger.Names site reference ∧
      Answers program.rules exact ledger g id reference ∧
      Covered program.rules ledger g reference := by
  obtain ⟨reference, names, entry, _⟩ := (orderly.traced (.rule "")).entries site id found
  rcases entry with ⟨reserved, _⟩ | ⟨answer, covered⟩
  · exact absurd reserved (orderly.complete id)
  · exact ⟨reference, names, answer, covered⟩

/-- What a call comes to before it is undone. -/
theorem traces {place : Place} {reference : Reference ω ρ}
    (isWritten : program.ledger.written place = some reference)
    {result : Except ResolveError NodeId}
    (resolves : Resolves program.rules (.written reference place) g result g') :
    (Errand.written reference place).Traces program exact g reference ledger g result g'
      reference := by
  have traced := orderly.traced reference
  apply resolves.traces orderly.tidy traced ⟨rfl, traced.written_of_program isWritten⟩ _ .refl
  intro slot owner reserved
  exact absurd reserved (orderly.complete slot)

/-- A sequence or a literal that a failed call has left behind is answered. -/
theorem answer_left {place : Place} {root reference : Reference ω ρ} {error : ResolveError}
    {id : NodeId}
    (resolves : Resolves program.rules (.written root place) g (.error error) g')
    (answer : Answers program.rules exact later g' id reference) (shares : g'.Shares id)
    (small : id.number < g.size) (meets : Meets program.rules root reference)
    (old : exact → ∀ id, Meets program.rules root (.handle g.number id) →
      id.number < g.size ∨ g'.size ≤ id.number)
    {left : Ledger ω ρ} :
    Answers program.rules exact left (g'.rollback g.size) id reference ∧
      Sane program.rules reference := by
  obtain ⟨grows, tidyThen, _⟩ := resolves.keeps orderly.tidy
  have remains : g.Remains (g'.rollback g.size) :=
    .of_slots orderly.tidy.acyclic grows.number grows.kind grows.slots_rollback
  obtain ⟨key, listed⟩ := shares
  obtain ⟨node, ready, hasKey⟩ := (tidyThen.shared key id).mp listed
  have stays := follow_of_ready ready
  rw [← stays] at ready
  obtain ⟨lands, sane, fits⟩ := answer.of_ready ready
  refine ⟨?_, sane (by simp [hasKey])⟩
  rw [stays, grows.slot? small] at ready
  have readyThen := remains.ready _ _ ready
  refine .settled (by rw [follow_of_ready readyThen]; exact readyThen) lands sane fun isExact => ?_
  obtain ⟨shape, shaped, rfl⟩ := (fits isExact).back key hasKey
  have shapedBefore : Shaped program.rules g reference shape := by
    apply shaped.of_grows grows orderly.tidy orderly.complete tidyThen
    intro id further
    rcases old isExact id (meets.trans further) with before | beyond
    · exact before
    · obtain ⟨_, there, _⟩ := shaped.of_meets further
      have := there.of_handle.2.1
      omega
  constructor
  · intro other hasOther
    rw [hasKey] at hasOther
    cases hasOther
    exact ⟨shape, remains.shaped shapedBefore, rfl⟩
  · intro last g' future other otherShaped
    rw [hasKey, otherShaped.unique (future.shaped (remains.shaped shapedBefore))]

/-- What is left of a call that has failed. -/
theorem undo {place : Place} {root : Reference ω ρ} {error : ResolveError}
    (resolves : Resolves program.rules (.written root place) g (.error error) g')
    (more : Ledger.Grows g ledger later) (traced : Traced program exact g root later g')
    (old : exact → ∀ id, Meets program.rules root (.handle g.number id) →
      id.number < g.size ∨ g'.size ≤ id.number) :
    Orderly program exact ⟨later.texts, ledger.made⟩ (g'.rollback g.size) := by
  obtain ⟨grows, tidyThen, _⟩ := resolves.keeps orderly.tidy
  have remains : g.Remains (g'.rollback g.size) :=
    .of_slots orderly.tidy.acyclic grows.number grows.kind grows.slots_rollback
  have growsThen := grows.grows_rollback orderly.tidy tidyThen
  have slot? : ∀ id, (g'.rollback g.size).slot? id = g.slot? id := fun id => by
    rw [Grammar.slot?, grows.slots_rollback, Grammar.slot?]
  have complete : (g'.rollback g.size).Complete := by
    intro id reserved
    exact orderly.complete id ((slot? id).symm.trans reserved)
  have kept : ∀ site id, g.at? site = some id →
      ∃ reference, (⟨later.texts, ledger.made⟩ : Ledger ω ρ).Names site reference ∧
        Entry program.rules exact ⟨later.texts, ledger.made⟩ (g'.rollback g.size) id reference := by
    intro site id found
    obtain ⟨reference, names, answer, covered⟩ := orderly.answered found
    refine ⟨reference, names.mono more.texts,
      .inr ⟨orderly.answer_transfer answer remains fun _ _ isMade => isMade, ?_⟩⟩
    apply covered.mono
    intro part listed
    exact listed.mono more.texts growsThen.number growsThen.size
      fun site id found => ⟨id, growsThen.at? found⟩
  refine ⟨grows.tidy_rollback orderly.tidy tidyThen, complete, fun other => ?_⟩
  constructor
  · exact traced.fixed
  · exact traced.unfoldings
  · exact traced.proper
  · intro slot owner isMade
    obtain ⟨small, answer⟩ := (orderly.traced root).made slot owner isMade
    rw [grows.size_rollback]
    exact ⟨small, orderly.answer_transfer answer remains fun _ _ isMade => isMade⟩
  · intro slot reserved
    exact absurd reserved (complete slot)
  · apply (orderly.traced root).spelled.of_remains remains
    intro id node ready
    exact (slot? id).symm.trans ready
  · intro site id found
    rcases resolves.at?_rollback orderly.tidy found with before | ⟨there, small, shares⟩
    · obtain ⟨reference, names, entry⟩ := kept site id before
      exact ⟨reference, names, entry, .inl found⟩
    · obtain ⟨reference, names, entry, before | meets⟩ := traced.entries site id there
      · obtain ⟨reference, names, entry⟩ := kept site id before
        exact ⟨reference, names, entry, .inl found⟩
      · obtain ⟨answer, sane⟩ := orderly.answer_left resolves entry.answer shares small meets old
        exact ⟨reference, names.mono fun _ _ found => found, .inr ⟨answer, .inl sane⟩, .inl found⟩

/-- What a call comes to, if it succeeds. -/
theorem succeed {place : Place} {reference : Reference ω ρ} {id : NodeId}
    (isWritten : program.ledger.written place = some reference)
    (found : (g.resolve program.rules place reference).1 = .ok id) :
    ∃ later, Ledger.Grows g ledger later ∧
      Orderly program exact later (g.resolve program.rules place reference).2 ∧
      Answers program.rules exact later (g.resolve program.rules place reference).2 id reference ∧
      (g.resolve program.rules place reference).2.follow id = id := by
  obtain ⟨tidyThen, completeThen⟩ :=
    orderly.tidy.resolve orderly.complete program.rules place reference
  rcases resolve_resolves program.rules g place reference with
    ⟨root, g', resolved, resolves⟩ | ⟨error, g', resolved, _⟩
  · obtain ⟨later, more, traced, answers, _⟩ := orderly.traces isWritten resolves
    rw [resolved] at found tidyThen completeThen ⊢
    cases found
    have stays := tidyThen.acyclic.follow_follow root
    exact ⟨later, more, ⟨tidyThen, completeThen, traced.rebase⟩,
      (answers root rfl).1.congr stays.symm, stays⟩
  · rw [resolved] at found
    cases found

theorem call (called : program.Call exact g g') :
    ∃ later, Orderly program exact later g' ∧ g.Grows g' ∧
      ∀ slot owner, ledger.made slot owner → later.made slot owner := by
  cases called with
  | @resolve place reference admits =>
      have grows := orderly.tidy.grows_resolve program.rules place reference
      cases result : (g.resolve program.rules place reference).1 with
      | ok id =>
          obtain ⟨later, more, orderlyThen, _⟩ := orderly.succeed admits.written result
          exact ⟨later, orderlyThen, grows, more.made⟩
      | error error =>
          have old := fun isExact => admits.old isExact error result
          unfold HandlesOld at old
          rcases resolve_extended program.rules g place reference with
            ⟨root, resolved, _⟩ | ⟨_, resolved, resolves⟩
          · rw [resolved] at result
            cases result
          · obtain ⟨later, more, traced, _⟩ := orderly.traces admits.written resolves
            rw [resolved] at grows ⊢
            exact ⟨_, orderly.undo resolves more traced old, grows, fun _ _ isMade => isMade⟩

theorem calls (called : program.Calls exact g g') :
    ∃ later, Orderly program exact later g' ∧ g.Grows g' ∧
      ∀ slot owner, ledger.made slot owner → later.made slot owner := by
  induction called with
  | refl => exact ⟨ledger, orderly, .refl g, fun _ _ isMade => isMade⟩
  | tail _ last induction =>
      obtain ⟨middle, orderlyHere, grows, made⟩ := induction
      obtain ⟨later, orderlyThen, growsThen, madeThen⟩ := orderlyHere.call last
      exact ⟨later, orderlyThen, grows.trans growsThen,
        fun slot owner isMade => madeThen _ _ (made _ _ isMade)⟩

/-- Where nothing is being resolved, a state is a future of its own. -/
theorem future (isExact : exact) : Future program.rules ledger g ledger g where
  toRemains := .refl orderly.tidy.acyclic
  made _ _ isMade := isMade
  acyclic := orderly.tidy.acyclic
  spelled := (orderly.traced (.rule "")).spelled
  backs slot owner node key isMade found hasKey := by
    obtain ⟨_, answer⟩ := (orderly.traced (.rule "")).made slot owner isMade
    obtain ⟨_, _, fits⟩ := answer.of_ready (slot?_of_node? found)
    exact (fits isExact).back key hasKey

/-- An answer leads to where it always will. -/
theorem follow_eq {id : NodeId} {reference : Reference ω ρ}
    (answer : Answers program.rules exact ledger g id reference) (remains : g.Remains g') :
    g'.follow id = g.follow id := by
  cases answer with
  | settled ready => exact remains.follow_eq ready
  | pending reserved => exact absurd reserved (orderly.complete _)

/-- A parser with a shape is answered by the one node that is shared under its key. -/
theorem shared_of_shaped (isExact : exact) {id : NodeId} {reference : Reference ω ρ}
    (answer : Answers program.rules exact ledger g id reference) {shape : Shape}
    (shaped : Shaped program.rules g reference shape) :
    g.shared.find? shape.key = some (g.follow id) := by
  cases answer with
  | settled ready _ _ fits =>
      have hasKey := (fits isExact).forth (orderly.future isExact) shape shaped
      exact (orderly.tidy.shared _ _).mpr ⟨_, ready, hasKey⟩
  | pending reserved => exact absurd reserved (orderly.complete _)

/-- What has been resolved is answered and has its parts listed, or it is a handle, or a
parser whose body has been resolved. -/
theorem listed_cases {reference : Reference ω ρ} (listed : Listed ledger g reference) :
    (Lands program.rules reference ∧ Covered program.rules ledger g reference) ∨
    (∃ node, reference = .handle g.number node) ∨
    ∃ identity body, reference = .parser identity body ∧ Listed ledger g body := by
  obtain ⟨place, id, isWritten, known⟩ := listed
  rcases known?_cases known isWritten with
    ⟨site, names, found⟩ | ⟨node, isHandle, _⟩ | ⟨identity, body, rfl, knownBody⟩
  · obtain ⟨other, otherNames, answer, covered⟩ := orderly.answered found
    rw [names.unique otherNames]
    cases answer with
    | settled _ lands => exact .inl ⟨lands, covered⟩
    | pending reserved => exact absurd reserved (orderly.complete _)
  · exact .inr (.inl ⟨node, isHandle⟩)
  · have isWrittenBody := (orderly.traced (.rule "")).written_body isWritten
    exact .inr (.inr ⟨identity, body, rfl, _, id, isWrittenBody, knownBody⟩)

theorem lands_of_listed {reference : Reference ω ρ} (listed : Listed ledger g reference) :
    Lands program.rules reference := by
  induction reference with
  | parser identity body induction =>
      rcases orderly.listed_cases listed with ⟨lands, _⟩ | ⟨_, isHandle⟩ | ⟨_, _, same, inner⟩
      · exact lands
      · cases isHandle
      · cases same
        exact .opened (.parser identity body) (induction inner)
  | handle number id => exact .handle number id
  | _ =>
      rcases orderly.listed_cases listed with ⟨lands, _⟩ | ⟨_, isHandle⟩ | ⟨_, _, same, _⟩
      · exact lands
      · cases isHandle
      · cases same

/-- What has been resolved does not lead back to itself by rules alone, nor does anything
that it leads to. -/
theorem sane_of_listed {reference : Reference ω ρ} (listed : Listed ledger g reference) :
    Sane program.rules reference := by
  -- on the way each reference is listed itself, or below one that is sane
  suffices every : ∀ other, Meets program.rules reference other →
      Sane program.rules other ∨ Listed ledger g other by
    intro other meets
    exact (every other meets).elim Sane.lands orderly.lands_of_listed
  intro other meets
  induction meets with
  | refl => exact .inr listed
  | @tail above part _ isPart induction =>
      have below : Sane program.rules above → Sane program.rules part :=
        fun sane last further => sane last (further.head isPart)
      rcases induction with sane | listedAbove
      · exact .inl (below sane)
      · rcases orderly.listed_cases listedAbove with
          ⟨_, sane | each⟩ | ⟨node, rfl⟩ | ⟨identity, body, rfl, inner⟩
        · exact .inl (below sane)
        · exact .inr (each part isPart)
        · exact .inl (below (.handle _ _))
        · rw [(Opens.parser identity body).part_eq isPart]
          exact .inr inner

/-- A call that succeeds leads to no rule that rules alone lead back from. -/
theorem sane_of_succeeds {place : Place} {reference : Reference ω ρ} {id : NodeId}
    (isWritten : program.ledger.written place = some reference)
    (found : (g.resolve program.rules place reference).1 = .ok id) :
    Sane program.rules reference := by
  obtain ⟨later, _, orderlyThen, _⟩ := orderly.succeed isWritten found
  obtain ⟨there, known, _⟩ := orderly.tidy.knows_of_resolve found
  have isWrittenThen := (orderlyThen.traced reference).written_of_program isWritten
  exact orderlyThen.sane_of_listed ⟨place, there, isWrittenThen, known⟩

/-- The handle for what a parser with a shape is resolved to has the same shape. -/
theorem shaped_handle (isExact : exact) {id : NodeId} {reference : Reference ω ρ}
    (answer : Answers program.rules exact ledger g id reference) {shape : Shape}
    (shaped : Shaped program.rules g reference shape) :
    Shaped program.rules g (g.handle id) shape := by
  have listed := orderly.shared_of_shaped isExact answer shaped
  obtain ⟨node, ready, hasKey⟩ := (orderly.tidy.shared _ _).mp listed
  obtain ⟨other, shows, isKey⟩ := (orderly.traced (.rule "")).spelled _ _ _ ready hasKey
  rw [Shape.key_injective isKey] at shows
  exact .handle (slot?_lt ready) shows

end Orderly

end Grammar

end Packrat
