import Packrat.Combinator.Sequencing
import Packrat.Proofs.Grammar.Accounting

/-!
# The books of a grammar

Between two resolutions nothing is pending: every slot leads to a node.  A resolution that
fails is undone, and what is left of its ledger is about the older slots.  So there are
books for every grammar that comes of resolving the parsers of a program, in whatever
order, and their whole-input forms.
-/

namespace Packrat

namespace Grammar

variable {ω ρ : Type} {book : Book ω ρ} {ledger later : Ledger ω ρ} {g g' : Grammar ω ρ}

theorem Complete.ready (complete : g.Complete) (tidy : g.Tidy) {id : NodeId}
    (small : id.number < g.size) : ∃ node, g.slot? (g.follow id) = some (.ready node) := by
  obtain ⟨slot, there⟩ := exists_slot? (tidy.acyclic.follow_lt tidy.forwards small)
  cases slot with
  | reserved => exact absurd there (complete _)
  | ready node => exact ⟨node, there⟩
  | forward target => exact absurd there (tidy.acyclic.slot?_follow id target)

/-- What is left of a ledger when slots from a mark on are dropped.  A slot that stays is
made for whatever a slot with the same node was made for. -/
def undone (g' : Grammar ω ρ) (later : Ledger ω ρ) (mark : Nat) : Ledger ω ρ :=
  { later with
    made := fun id reference =>
      id.number < mark ∧ ∃ slot, later.made slot reference ∧ g'.follow slot = g'.follow id }

section Undoing

variable (tidy : g.Tidy) (complete : g.Complete) (grows : g.Grows g') (tidyThen : g'.Tidy)

include tidy complete grows tidyThen

/-- What an older slot stands for it stands for after all is undone. -/
theorem Stands.undo {id : NodeId} {reference : Reference ω ρ} (small : id.number < g.size)
    (stands : Stands book.rules later g' id reference) :
    Stands book.rules (g'.undone later g.size) (g'.rollback g.size) id reference := by
  induction stands with
  | made isMade leads => exact .made ⟨small, _, isMade, leads⟩ rfl
  | opened opens _ induction => exact .opened opens induction
  | pending isThunk listed reserved leads =>
      obtain ⟨node, ready⟩ := complete.ready tidy small
      have still := grows.follow_eq_of_ready tidy tidyThen ready
      rw [← leads, still, grows.kept ready] at reserved
      cases reserved
  | handle => exact .handle ..

theorem Accounts.undo (accounts : Accounts book ledger g)
    (accountsThen : Accounts book later g') :
    Accounts book (g'.undone later g.size) (g'.rollback g.size) := by
  have slots := grows.slots_rollback
  have follow : ∀ id, (g'.rollback g.size).follow id = g.follow id :=
    Grammar.follow_congr slots
  have slot? : ∀ id, (g'.rollback g.size).slot? id = g.slot? id := fun id => by
    rw [Grammar.slot?, slots, Grammar.slot?]
  have kept : ∀ {κ : Type} [DecidableEq κ] {table : Table κ NodeId}, table.Unique →
      ∀ {key id}, (table.keep fun id => id.number < g.size).find? key = some id →
        table.find? key = some id ∧ id.number < g.size := by
    intro κ _ table unique key id listed
    obtain ⟨found, small⟩ := (Table.find?_keep_eq_some unique).mp listed
    exact ⟨found, decide_eq_true_iff.mp small⟩
  have stands : ∀ {id reference}, id.number < g.size →
      Stands book.rules later g' id reference →
      Stands book.rules (g'.undone later g.size) (g'.rollback g.size) id reference :=
    fun small there => there.undo tidy complete grows tidyThen small
  have listed : ∀ key id, g.shared.find? key = some (g.follow id) →
      (g'.rollback g.size).shared.find? key = some ((g'.rollback g.size).follow id) := by
    intro key id listed
    rw [follow]
    have small : (g.follow id).number < g.size := by
      obtain ⟨node, isReady, _⟩ := (tidy.shared key _).mp listed
      exact slot?_lt isReady
    apply (Table.find?_keep_eq_some tidyThen.unique.1).mpr
    exact ⟨grows.shared.kept _ _ listed, decide_eq_true small⟩
  obtain ⟨_, nodes, thunks, literals, sequences⟩ := tidyThen.unique
  constructor
  · intro place id listed
    obtain ⟨found, small⟩ := kept nodes listed
    obtain ⟨blueprint, children, isWritten, isMade⟩ := accountsThen.nodes place id found
    exact ⟨blueprint, children, isWritten, small, id, isMade, rfl⟩
  · intro thunk slot listed
    obtain ⟨found, small⟩ := kept thunks listed
    obtain ⟨reference, isThunk, there⟩ := accountsThen.thunks thunk slot found
    refine ⟨reference, ?_, stands small there⟩
    cases thunk <;> exact isThunk
  · intro l id listed
    obtain ⟨found, small⟩ := kept literals listed
    exact stands small (accountsThen.literals l id found)
  · intro place id listed
    obtain ⟨found, small⟩ := kept sequences listed
    obtain ⟨count, parts, isWritten, there⟩ := accountsThen.sequences place id found
    exact ⟨count, parts, isWritten, stands small there⟩
  · rintro id reference ⟨_, slot, isMade, _⟩
    exact accountsThen.written slot reference isMade
  · rintro id reference ⟨small, slot, isMade, leads⟩
    rw [grows.size_rollback]
    refine ⟨small, .inr ?_⟩
    obtain ⟨node, ready⟩ := complete.ready tidy small
    have still := grows.follow_eq_of_ready tidy tidyThen ready
    have readyThen : g'.slot? (g'.follow slot) = some (.ready node) := by
      rw [leads, still]
      exact grows.kept ready
    refine ⟨node, by rw [follow, slot?]; exact ready, ?_⟩
    rcases (accountsThen.made slot reference isMade).2 with reserved | ⟨other, isOther, serves⟩
    · rw [follow_of_reserved reserved, reserved] at readyThen
      cases readyThen
    · rw [isOther] at readyThen
      cases readyThen
      intro kind children reads
      obtain ⟨passes, ids, descriptions, isChildren, alike, each⟩ := serves kind children reads
      refine ⟨?_, ids, descriptions, isChildren, alike, fun index => stands ?_ (each index)⟩
      · rcases passes with isOf | ⟨key, given, hasKey, cacheable, spells⟩
        · exact .inl isOf
        · obtain ⟨blueprint, _, _, _, _, _, _, spelled⟩ := accounts.keyed _ node key ready hasKey
          obtain ⟨name, arity, text, _⟩ := spells.inj (fun _ _ => accountsThen.closed tidyThen)
            (spelled.mono (grows.listed tidy tidyThen))
          exact .inr ⟨key, _, hasKey, cacheable, (spelled.rename name arity text).mono listed⟩
      apply tidy.children _ _ ready
      rw [isChildren]
      exact List.mem_ofFn.mpr ⟨index, rfl⟩
  · intro id node key ready hasKey
    rw [slot?] at ready
    have sameKind : (g'.rollback g.size).kind = g.kind := grows.kind
    exact (accounts.keyed id node key ready hasKey).mono sameKind listed
  · exact accountsThen.unfoldings
  · exact accountsThen.parsers

end Undoing

/-- More of what is written changes nothing about what is resolved. -/
theorem Accounts.moreTexts (accounts : Accounts book ledger g)
    (texts : ∀ origin reference, ledger.texts origin = some reference →
      later.texts origin = some reference)
    (made : later.made = ledger.made)
    (unfoldings : ∀ serial, later.texts (.unfolding serial) = ledger.texts (.unfolding serial)) :
    Accounts book later g ∧ ∀ id reference, Stands book.rules ledger g id reference →
      Stands book.rules later g id reference := by
  have stands : ∀ id reference, Stands book.rules ledger g id reference →
      Stands book.rules later g id reference := by
    intro id reference there
    apply there.transfer
    · intro slot reference isMade
      rw [made]
      exact isMade
    · intro other same
      exact same
    · intro thunk reference isThunk listed reserved
      exact .pending (Ledger.is_mono texts isThunk) listed reserved rfl
  refine ⟨?_, stands⟩
  constructor
  · intro place id listed
    obtain ⟨blueprint, children, isWritten, isMade⟩ := accounts.nodes place id listed
    rw [made]
    exact ⟨blueprint, children, Ledger.written_mono texts isWritten, isMade⟩
  · intro thunk slot listed
    obtain ⟨reference, isThunk, there⟩ := accounts.thunks thunk slot listed
    exact ⟨reference, Ledger.is_mono texts isThunk, stands _ _ there⟩
  · intro l id listed
    exact stands _ _ (accounts.literals l id listed)
  · intro place id listed
    obtain ⟨count, parts, isWritten, there⟩ := accounts.sequences place id listed
    exact ⟨count, parts, Ledger.written_mono texts isWritten, stands _ _ there⟩
  · rw [made]
    exact accounts.written
  · rw [made]
    intro slot reference isMade
    obtain ⟨small, state⟩ := accounts.made slot reference isMade
    refine ⟨small, ?_⟩
    rcases state with reserved | ⟨node, ready, serves⟩
    · exact .inl reserved
    · exact .inr ⟨node, ready, serves.mono rfl stands fun _ _ found => found⟩
  · exact accounts.keyed
  · intro serial reference found
    rw [unfoldings] at found
    exact accounts.unfoldings serial reference found
  · intro identity
    exact texts _ _ (accounts.parsers identity)

/-- What holds of a grammar between two resolutions. -/
structure Sound (book : Book ω ρ) (ledger : Ledger ω ρ) (g : Grammar ω ρ) : Prop where
  tidy : g.Tidy
  complete : g.Complete
  accounts : Accounts book ledger g
  consumers : ∀ root reference, ledger.texts (.consumer root) = some reference →
    root.number < g.size ∧ reference = .consume (g.handle root)

theorem Tidy.empty (number : Nat) (kind : InputKind) : (empty number kind : Grammar ω ρ).Tidy where
  acyclic id := ⟨0, id, .here fun _ impossible => by simp [slot?, Grammar.empty] at impossible⟩
  forwards _ _ impossible := by simp [slot?, Grammar.empty] at impossible
  children _ _ impossible := by simp [slot?, Grammar.empty] at impossible
  nodes _ _ impossible := by cases impossible
  thunks _ _ impossible := by cases impossible
  literals _ _ impossible := by cases impossible
  sequences _ _ impossible := by cases impossible
  shared key id := by
    constructor
    · intro impossible
      cases impossible
    · rintro ⟨_, impossible, _⟩
      simp [slot?, Grammar.empty] at impossible
  unique := ⟨.empty, .empty, .empty, .empty, .empty⟩

theorem Complete.empty (number : Nat) (kind : InputKind) :
    (empty number kind : Grammar ω ρ).Complete := by
  intro id impossible
  simp [slot?, Grammar.empty] at impossible

/-- The ledger of an empty grammar. -/
def blank (book : Book ω ρ) : Ledger ω ρ where
  texts
    | .parser identity => some (book.parsers identity)
    | _ => none
  made _ _ := False

theorem Sound.empty (book : Book ω ρ) (number : Nat) (kind : InputKind) :
    Sound book (blank book) (empty number kind : Grammar ω ρ) where
  tidy := .empty number kind
  complete := .empty number kind
  accounts :=
    { nodes := fun _ _ impossible => by cases impossible
      thunks := fun _ _ impossible => by cases impossible
      literals := fun _ _ impossible => by cases impossible
      sequences := fun _ _ impossible => by cases impossible
      written := fun _ _ impossible => by cases impossible
      made := fun _ _ impossible => by cases impossible
      keyed := fun _ _ _ impossible => by simp [slot?, Grammar.empty] at impossible
      unfoldings := fun _ _ impossible => by cases impossible
      parsers := fun _ => rfl }
  consumers := fun _ _ impossible => by cases impossible

/-- A later state between two resolutions, in which older slots stand for at least what
they stood for. -/
structure Extends (book : Book ω ρ) (ledger : Ledger ω ρ) (g : Grammar ω ρ)
    (later : Ledger ω ρ) (g' : Grammar ω ρ) : Prop where
  kind : g'.kind = g.kind
  size : g.size ≤ g'.size
  stands : ∀ id reference, id.number < g.size →
    Stands book.rules ledger g id reference → Stands book.rules later g' id reference

theorem Extends.trans {middle : Ledger ω ρ} {between : Grammar ω ρ}
    (first : Extends book ledger g middle between)
    (second : Extends book middle between later g') : Extends book ledger g later g' :=
  ⟨second.kind.trans first.kind, Nat.le_trans first.size second.size,
    fun id reference small stands =>
    second.stands id reference (Nat.lt_of_lt_of_le small first.size)
      (first.stands id reference small stands)⟩

theorem Grows.handle (grows : g.Grows g') (tidy : g.Tidy) (complete : g.Complete)
    (tidyThen : g'.Tidy) {root : NodeId} (small : root.number < g.size) :
    g'.handle root = g.handle root := by
  obtain ⟨node, ready⟩ := complete.ready tidy small
  rw [Grammar.handle, Grammar.handle, grows.number,
    grows.follow_eq_of_ready tidy tidyThen ready]

/-- Resolving what the ledger says is written somewhere. -/
theorem Sound.resolve (sound : Sound book ledger g) {place : Place} {reference : Reference ω ρ}
    (faithful : reference.Faithful book.parsers)
    (isWritten : ledger.written place = some reference) :
    ∃ later, Sound book later (g.resolve book.rules place reference).2 ∧
      Extends book ledger g later (g.resolve book.rules place reference).2 ∧
      ∀ id, (g.resolve book.rules place reference).1 = .ok id →
        id.number < (g.resolve book.rules place reference).2.size ∧
        Stands book.rules later (g.resolve book.rules place reference).2 id reference := by
  obtain ⟨tidy, complete, accounts, consumers⟩ := sound
  have posed : (Errand.written reference place).Posed book ledger g.kind reference :=
    ⟨rfl, faithful, isWritten⟩
  obtain ⟨tidyLast, completeLast⟩ := tidy.resolve complete book.rules place reference
  rcases resolve_resolves book.rules g place reference with
    ⟨id, g', resolved, resolves⟩ | ⟨error, g', resolved, resolves⟩
  all_goals
    rw [resolved] at tidyLast completeLast ⊢
    obtain ⟨grows, tidyThen, settles⟩ := resolves.keeps tidy
    obtain ⟨later, more, accountsThen, stands⟩ := resolves.accounts tidy accounts posed
    have fixed : ∀ root another, later.texts (.consumer root) = some another →
        root.number < g.size ∧ another = .consume (g.handle root) := by
      intro root another found
      rw [more.fixed _ fun serial impossible => by cases impossible] at found
      exact consumers root another found
  · have small := (settles id rfl).1
    refine ⟨later, ⟨tidyLast, completeLast, accountsThen, ?_⟩, ⟨grows.kind, grows.size, ?_⟩, ?_⟩
    · intro root another found
      obtain ⟨old, isConsumer⟩ := fixed root another found
      rw [grows.handle tidy complete tidyThen old]
      exact ⟨Nat.lt_of_lt_of_le old grows.size, isConsumer⟩
    · intro other another _ there
      exact there.grows grows tidy tidyThen more
    · intro found isFound
      cases isFound
      exact ⟨tidyThen.acyclic.follow_lt tidyThen.forwards small,
        (stands id rfl).congr (tidyThen.acyclic.follow_follow id).symm⟩
  · have slots := grows.slots_rollback
    have undone := Accounts.undo tidy complete grows tidyThen accounts accountsThen
    have size := grows.size_rollback
    refine ⟨g'.undone later g.size, ⟨tidyLast, completeLast, undone, ?_⟩,
      ⟨grows.kind, Nat.le_of_eq size.symm, ?_⟩, nofun⟩
    · intro root another found
      obtain ⟨old, isConsumer⟩ := fixed root another found
      refine ⟨by rw [size]; exact old, ?_⟩
      rw [isConsumer, Grammar.handle, Grammar.handle, Grammar.follow_congr slots]
      exact congrArg (fun number => Reference.consume (.handle number _)) grows.number.symm
    · intro other another small there
      exact (there.grows grows tidy tidyThen more).undo tidy complete grows tidyThen small

/-- Every grammar that comes of a grammar by resolving parsers of a program and whole-input
forms of slots, in whatever order. -/
inductive Continues (book : Book ω ρ) (g : Grammar ω ρ) : Grammar ω ρ → Prop where
  | here : Continues book g g
  | parser {g' : Grammar ω ρ} (identity : Nat) : Continues book g g' →
      Continues book g
        (g'.resolve book.rules ⟨.parser identity, []⟩ (book.parsers identity)).2
  | consumer {g' : Grammar ω ρ} {root : NodeId} : root.number < g'.size →
      Continues book g g' →
      Continues book g
        (g'.resolve book.rules ⟨.consumer root, []⟩ (.consume (g'.handle root))).2

theorem written_root (accounts : Accounts book ledger g) (identity : Nat) :
    ledger.written ⟨.parser identity, []⟩ = some (book.parsers identity) := by
  simp [Ledger.written, accounts.parsers identity, Reference.below?]

theorem faithful_consume (parsers : Nat → Reference ω ρ) (number : Nat) (id : NodeId) :
    (Reference.consume (.handle number id)).Faithful parsers := by
  apply Reference.Faithful.own .consume fun _ => trivial
  intro index
  split
  next => exact .handle number id
  next => exact .own .endOfInput (fun _ => trivial) nofun

theorem Sound.continues (sound : Sound book ledger g) (continues : Continues book g g') :
    ∃ later, Sound book later g' ∧ Extends book ledger g later g' := by
  induction continues with
  | here => exact ⟨ledger, sound, rfl, Nat.le_refl _, fun _ _ _ stands => stands⟩
  | @parser g' identity _ induction =>
      obtain ⟨middle, soundHere, extends'⟩ := induction
      obtain ⟨later, soundThen, more, _⟩ := soundHere.resolve (book.parser_faithful identity)
        (written_root soundHere.accounts identity)
      exact ⟨later, soundThen, extends'.trans more⟩
  | @consumer g' root small _ induction =>
      obtain ⟨middle, soundHere, extends'⟩ := induction
      have faithful := faithful_consume book.parsers g'.number (g'.follow root)
      cases known : middle.texts (.consumer root) with
      | some reference =>
          obtain ⟨_, same⟩ := soundHere.consumers root reference known
          have isWritten : middle.written ⟨.consumer root, []⟩ =
              some (.consume (g'.handle root)) := by
            simp [Ledger.written, known, same, Reference.below?]
          obtain ⟨later, soundThen, more, _⟩ := soundHere.resolve faithful isWritten
          exact ⟨later, soundThen, extends'.trans more⟩
      | none =>
          have texts : ∀ origin reference, middle.texts origin = some reference →
              (middle.withText (.consumer root) (.consume (g'.handle root))).texts origin =
                some reference := by
            intro origin reference found
            rw [middle.texts_withText_of_ne]
            · exact found
            · intro same
              rw [same, known] at found
              cases found
          obtain ⟨accountsNoted, standsNoted⟩ :=
            soundHere.accounts.moreTexts texts rfl fun serial =>
              middle.texts_withText_of_ne (fun impossible => by cases impossible) _
          have soundNoted : Sound book
              (middle.withText (.consumer root) (.consume (g'.handle root))) g' := by
            refine ⟨soundHere.tidy, soundHere.complete, accountsNoted, ?_⟩
            intro other reference found
            by_cases same : other = root
            · rw [same, Ledger.texts_withText] at found
              rw [same]
              exact ⟨small, (Option.some.inj found).symm⟩
            · rw [middle.texts_withText_of_ne] at found
              · exact soundHere.consumers other reference found
              · intro equal
                exact same (Origin.consumer.inj equal)
          have isWritten : (middle.withText (.consumer root) (.consume (g'.handle root))).written
              ⟨.consumer root, []⟩ = some (.consume (g'.handle root)) := by
            simp [Ledger.written, Ledger.texts_withText, Reference.below?]
          obtain ⟨later, soundThen, more, _⟩ := soundNoted.resolve faithful isWritten
          refine ⟨later, soundThen, extends'.trans ⟨more.kind, more.size, ?_⟩⟩
          intro id reference old stands
          exact more.stands id reference old (standsNoted id reference stands)

end Grammar

end Packrat
