import Packrat.Proofs.Grammar.Undoing

/-!
# Calls that come to nothing

A caller asks a grammar for one reference after the other, and some of them cannot be
resolved.  What the others come to does not depend on those, unless one of those has taught
the grammar a literal or a sequence that it had a node for already.
-/

namespace Packrat

namespace Grammar

variable {ω ρ : Type}

/-- What a caller asks for.  It is written outside the bodies that are unfolded. -/
structure Request (ω ρ : Type) where
  rules : Rules ω ρ
  place : Place
  reference : Reference ω ρ
  outside : ∀ serial, place.origin ≠ .unfolding serial

/-- A parser, as a caller asks for it. -/
def Request.parser (rules : Rules ω ρ) (identity : Nat) (body : Reference ω ρ) : Request ω ρ :=
  ⟨rules, ⟨.parser identity, []⟩, body, nofun⟩

theorem Request.before (request : Request ω ρ) (count : Nat) : request.place.Before count :=
  fun serial unfolds => absurd unfolds (request.outside serial)

def ask (g : Grammar ω ρ) (request : Request ω ρ) : Except ResolveError NodeId × Grammar ω ρ :=
  g.resolve request.rules request.place request.reference

/-- What requests come to, one after the other, and how large the grammar is after each. -/
def answers (g : Grammar ω ρ) : List (Request ω ρ) → List (Except ResolveError NodeId × Nat)
  | [] => []
  | request :: requests =>
    ((g.ask request).1, (g.ask request).2.size) :: (g.ask request).2.answers requests

/-- Grammars that come of requests. -/
inductive Asked : Grammar ω ρ → Prop where
  | empty (number : Nat) (kind : InputKind) : Asked (.empty number kind)
  | ask {g : Grammar ω ρ} (request : Request ω ρ) : Asked g → Asked (g.ask request).2

theorem Dated.empty (number : Nat) (kind : InputKind) :
    (empty number kind : Grammar ω ρ).Dated :=
  ⟨nofun, nofun, nofun⟩

theorem Asked.orderly {g : Grammar ω ρ} (asked : Asked g) : g.Tidy ∧ g.Complete ∧ g.Dated := by
  induction asked with
  | empty number kind => exact ⟨.empty number kind, .empty number kind, .empty number kind⟩
  | ask request _ induction =>
      obtain ⟨tidy, complete, dated⟩ := induction
      obtain ⟨tidyThen, completeThen⟩ := tidy.resolve complete request.rules request.place
        request.reference
      exact ⟨tidyThen, completeThen, dated.resolve tidy _ _ (request.before _)⟩

/-- Grammars that are the same but for the serial numbers of unfoldings give the same
answers. -/
theorem Echoes.answers {mark delay : Nat} {g h : Grammar ω ρ} (echoes : Echoes mark delay g h)
    (tidy : g.Tidy) (complete : g.Complete) (tidyOther : h.Tidy) (completeOther : h.Complete)
    (requests : List (Request ω ρ)) : h.answers requests = g.answers requests := by
  induction requests generalizing g h with
  | nil => rfl
  | cons request requests induction =>
      obtain ⟨same, echoesThen⟩ :=
        echoes.resolve tidy tidyOther request.rules request.place request.reference
      rw [(request.before mark).postpone] at same echoesThen
      obtain ⟨tidyThen, completeThen⟩ := tidy.resolve complete request.rules request.place
        request.reference
      obtain ⟨tidyLast, completeLast⟩ := tidyOther.resolve completeOther request.rules
        request.place request.reference
      rw [Grammar.answers, Grammar.answers]
      congr 1
      · exact Prod.ext same.symm echoesThen.size
      · exact induction echoesThen tidyThen completeThen tidyLast completeLast

/-- Where undoing has left no more than there was, only serial numbers are different. -/
theorem Grows.echoes_rollback {g g' : Grammar ω ρ} (grows : g.Grows g') (tidy : g.Tidy)
    (tidyThen : g'.Tidy) (dated : g.Dated)
    (literals : ∀ l, (g'.rollback g.size).literals.find? l = g.literals.find? l)
    (sequences : ∀ place, (g'.rollback g.size).sequences.find? place = g.sequences.find? place) :
    Echoes g.unfoldings.length (g'.unfoldings.length - g.unfoldings.length) g
      (g'.rollback g.size) where
  number := grows.number
  kind := grows.kind
  slots := grows.slots_rollback
  shared := grows.shared_rollback tidy tidyThen
  nodes place := by
    rw [grows.nodes_rollback tidy tidyThen, dated.nodes_postpone]
  thunks thunk := by
    rw [grows.thunks_rollback tidy tidyThen, dated.thunks_postpone]
  literals := literals
  sequences place := by
    rw [sequences, dated.sequences_postpone]
  mark_le := Nat.le_refl _
  unfoldings := by
    have := grows.unfoldings
    show g'.unfoldings.length = _
    omega

/-- A failed call leaves the slots, the shared nodes and what is known of nodes and rules
as they were.  Of literals and sequences it forgets none, and those that it has learnt are
such as share an older node.  If it has learnt none, all later calls come to what they
would have come to without it. -/
theorem failed_call_leaves_only_shares {g : Grammar ω ρ} (asked : Asked g) (request : Request ω ρ)
    {error : ResolveError} (fails : (g.ask request).1 = .error error) :
    (g.ask request).2.slots = g.slots ∧
    (∀ key, (g.ask request).2.shared.find? key = g.shared.find? key) ∧
    (∀ place, (g.ask request).2.nodes.find? place = g.nodes.find? place) ∧
    (∀ thunk, (g.ask request).2.thunks.find? thunk = g.thunks.find? thunk) ∧
    (∀ l, (g.ask request).2.literals.find? l = g.literals.find? l ∨
      g.literals.find? l = none ∧
        ∃ id, (g.ask request).2.literals.find? l = some id ∧ g.Shares id) ∧
    (∀ place, (g.ask request).2.sequences.find? place = g.sequences.find? place ∨
      g.sequences.find? place = none ∧
        ∃ id, (g.ask request).2.sequences.find? place = some id ∧ g.Shares id) ∧
    ((∀ l, (g.ask request).2.literals.find? l = g.literals.find? l) →
      (∀ place, (g.ask request).2.sequences.find? place = g.sequences.find? place) →
      ∀ requests, (g.ask request).2.answers requests = g.answers requests) := by
  obtain ⟨tidy, complete, dated⟩ := asked.orderly
  obtain ⟨tidyAfter, completeAfter, _⟩ := (asked.ask request).orderly
  rcases resolve_resolves request.rules g request.place request.reference with
    ⟨id, g', resolved, _⟩ | ⟨error, g', resolved, resolves⟩
  · rw [ask, resolved] at fails
    cases fails
  · obtain ⟨grows, tidyThen, _⟩ := resolves.keeps tidy
    obtain ⟨gains, _⟩ := resolves.gains tidy
    have after : (g.ask request).2 = g'.rollback g.size := by
      rw [ask, resolved]
    rw [after] at tidyAfter completeAfter ⊢
    obtain ⟨_, _, _, literals, sequences⟩ := tidyThen.unique
    -- what has been learnt leads to an older slot, so that slot's node is shared
    have shared : ∀ {id}, g.size ≤ id.number ∨ g'.Shares id → id.number < g.size →
        g.Shares id := by
      rintro id (new | ⟨key, listed⟩) old
      · omega
      · exact ⟨key, grows.shared.fresh key id listed old⟩
    refine ⟨grows.slots_rollback, grows.shared_rollback tidy tidyThen,
      grows.nodes_rollback tidy tidyThen, grows.thunks_rollback tidy tidyThen, ?_, ?_, ?_⟩
    · apply Table.find?_same_or_gained (grows.grows_rollback tidy tidyThen).literals
      intro l id found
      obtain ⟨there, old⟩ := (Table.find?_keep_eq_some literals).mp found
      exact (gains.literals l id there).imp_right fun new => shared new (decide_eq_true_iff.mp old)
    · apply Table.find?_same_or_gained (grows.grows_rollback tidy tidyThen).sequences
      intro place id found
      obtain ⟨there, old⟩ := (Table.find?_keep_eq_some sequences).mp found
      exact (gains.sequences place id there).imp_right fun new =>
        shared new (decide_eq_true_iff.mp old)
    · intro sameLiterals sameSequences requests
      exact (grows.echoes_rollback tidy tidyThen dated sameLiterals sameSequences).answers tidy
        complete tidyAfter completeAfter requests

/-- A caller's request, where there are no rules to speak of. -/
def plain (identity : Nat) (body : Reference Empty Empty) : Request Empty Empty :=
  .parser (fun _ => .text "") identity body

/-- A grammar that has been asked for one thing. -/
def started (body : Reference Empty Empty) : Grammar Empty Empty :=
  ((empty 0 .text).ask (plain 0 body)).2

/-- A sequence that cannot be resolved, for its second part. -/
def broken : Reference Empty Empty := .ofList [.text "", .handle 0 ⟨7, by decide⟩]

theorem broken_is_unnoticed :
    ((started (.text "")).ask (plain 1 broken)).2.answers [plain 2 (.text "")] =
      (started (.text "")).answers [plain 2 (.text "")] := by
  have fails : ((started (.text "")).ask (plain 1 broken)).1 =
      .error (.inside "sequence" (.unknownNode ⟨7, by decide⟩)) := by decide +kernel
  obtain ⟨_, _, _, _, _, _, same⟩ := failed_call_leaves_only_shares
    (.ask (plain 0 (.text "")) (.empty 0 .text)) (plain 1 broken) fails
  have literals : ((started (.text "")).ask (plain 1 broken)).2.literals.entries =
      (started (.text "")).literals.entries := by decide +kernel
  have sequences : ((started (.text "")).ask (plain 1 broken)).2.sequences.entries =
      (started (.text "")).sequences.entries := by decide +kernel
  apply same
  · exact fun l => congrArg (List.lookup l) literals
  · exact fun place => congrArg (List.lookup place) sequences

/-- A sequence of two literals. -/
def pair : Reference Empty Empty := .ofList [.text "a", .text "b"]

/-- The sequence or, which cannot be resolved, a pattern that is not well formed. -/
def halfBroken : Reference Empty Empty := .choice [.parser 1 pair, .ofList [.pattern "("]]

/-- A call that fails after it has met a sequence that shares an older node is noticed by
whoever asks for the sequence: the grammar grows less than it would have. -/
theorem broken_is_noticed :
    ((started pair).ask (plain 2 halfBroken)).1.isOk = false ∧
      ((started pair).ask (plain 2 halfBroken)).2.answers [plain 1 pair] =
        [(.ok ⟨0, by decide⟩, 3)] ∧
      (started pair).answers [plain 1 pair] = [(.ok ⟨0, by decide⟩, 4)] := by
  decide +kernel

end Grammar

end Packrat
