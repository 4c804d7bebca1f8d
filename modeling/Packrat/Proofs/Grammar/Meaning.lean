import Packrat.Proofs.Combinator.Agreement
import Packrat.Proofs.Grammar.Books
import Packrat.Proofs.Meaning

/-!
# Resolution preserves meaning

A slot that stands for a parser of the library's own leads to a node that does what the
parser is read as, with children that stand for the parser's.  So evaluating the node, by
way of slots, forwards and shared nodes, comes to what the parser means, whatever else was
resolved before or is resolved afterwards.
-/

namespace Packrat

namespace Grammar

variable {ω ρ : Type} {book : Book ω ρ} {ledger : Ledger ω ρ} {g : Grammar ω ρ}
  {named : String → Prop}

/-- A slot of a parser that is read as a node of the library's kinds leads to a node that
does what it says. -/
theorem Sound.exists_serving (sound : Sound book ledger g) {id : NodeId}
    {reference : Reference ω ρ} (stands : Stands book.rules ledger g id reference)
    {kind : Kind ω ρ} {parts : Fin kind.arity → Reference ω ρ}
    (reads : Reference.Reads g.kind book.rules reference kind parts) :
    ∃ node, g.slot? (g.follow id) = some (.ready node) ∧
      Serves book.rules ledger g node reference := by
  induction stands with
  | made isMade leads =>
      obtain ⟨_, reserved | ready⟩ := sound.accounts.made _ _ isMade
      · exact absurd reserved (sound.complete _)
      · rw [← leads]
        exact ready
  | opened opens _ induction =>
      obtain ⟨node, ready, serves⟩ := induction (reads.of_opens opens)
      refine ⟨node, ready, ?_⟩
      intro other parts otherReads
      exact serves other parts (otherReads.of_opens opens)
  | pending _ _ reserved _ => exact absurd reserved (sound.complete _)
  | handle =>
      cases reads with
      | opened opens => cases opens

/-- The library's own parsers are read as nodes of its kinds. -/
theorem Sound.exists_reads (sound : Sound book ledger g)
    (closed : ∀ name, named name → (book.rules name).Own named Reference.NoHandle) {id : NodeId}
    {reference : Reference ω ρ} (own : reference.Own named Reference.NoHandle)
    (stands : Stands book.rules ledger g id reference) :
    ∃ (kind : Kind ω ρ) (parts : Fin kind.arity → Reference ω ρ),
      Reference.Reads g.kind book.rules reference kind parts := by
  induction stands with
  | made isMade =>
      obtain ⟨input, blueprint, children, builds⟩ := sound.accounts.written _ _ isMade
      exact own.exists_reads builds
  | opened opens _ induction =>
      obtain ⟨kind, parts, reads⟩ := induction (own.of_opens closed opens)
      exact ⟨kind, parts, .opened opens reads⟩
  | pending _ _ reserved _ => exact absurd reserved (sound.complete _)
  | handle =>
      cases own with
      | handle impossible => exact impossible.elim

theorem matcherAt_spot (acyclic : g.Acyclic) {id : NodeId} {node : Resolved ω ρ}
    (ready : g.slot? (g.follow id) = some (.ready node)) (position : Nat) :
    g.matcherAt (g.spot id position) = node.matcher := by
  rw [matcherAt, matcher?, spot, acyclic.node?_follow, node?_of_ready ready]
  rfl

/-- The plan that is carried out at a spot of a parser that is read as one of the library's
own nodes. -/
theorem Sound.exists_plan (sound : Sound book ledger g) {id : NodeId}
    {reference : Reference ω ρ} (stands : Stands book.rules ledger g id reference)
    {kind : Kind ω ρ} {parts : Fin kind.arity → Reference ω ρ}
    (reads : Reference.Reads g.kind book.rules reference kind parts) :
    ∃ (ids : Fin kind.arity → NodeId) (descriptions : Fin kind.arity → String),
      (∀ position, (g.matcherAt (g.spot id position)).Alike
        (kind.plan.map fun index => (⟨ids index, descriptions index⟩ : Child)).matcher) ∧
      ∀ index, Stands book.rules ledger g (ids index) (parts index) := by
  obtain ⟨node, ready, serves⟩ := sound.exists_serving stands reads
  obtain ⟨_, ids, descriptions, _, alike, each⟩ := serves kind parts reads
  refine ⟨ids, descriptions, ?_, each⟩
  intro position
  rw [matcherAt_spot sound.tidy.acyclic ready]
  exact alike

/-- What a spot comes to is what its plan gives, with each child coming to what its slot
does. -/
theorem comesWithin_succ_iff {id : NodeId} {position : Nat} {κ : Type} {plan : Plan κ ω ρ}
    {child : κ → Child}
    (alike : (g.matcherAt (g.spot id position)).Alike (plan.map child).matcher)
    {input : Input ω} {reply : ρ → Answer ω} {depth : Nat} {result : Match (Value ω)} :
    g.ComesWithin input reply (depth + 1) (g.spot id position) result ↔
      plan.Gives input reply (fun each => (child each).description)
        (fun each place answer =>
          g.ComesWithin input reply depth (g.spot (child each).id place) answer)
        position result :=
  (alike.yields input reply position _ result).trans Plan.yields_iff

/-- What a spot evaluates to is what its plan gives, with each child evaluating to what its
slot does. -/
theorem comes_iff_gives {id : NodeId} {position : Nat} {κ : Type} {plan : Plan κ ω ρ}
    {child : κ → Child}
    (alike : (g.matcherAt (g.spot id position)).Alike (plan.map child).matcher)
    {input : Input ω} {reply : ρ → Answer ω} {result : Match (Value ω)} :
    g.Comes input reply (g.spot id position) result ↔
      plan.Gives input reply (fun each => (child each).description)
        (fun each place answer => g.Comes input reply (g.spot (child each).id place) answer)
        position result := by
  constructor
  · intro comes
    obtain ⟨depth, within⟩ := comes_iff_exists_depth.mp comes
    have gives := (comesWithin_succ_iff alike).mp within.succ
    exact gives.mono fun _ _ _ => ComesWithin.comes
  · intro gives
    have eventually : ∀ᶠ depth in Filter.atTop,
        plan.Gives input reply (fun each => (child each).description)
          (fun each place answer => g.ComesWithin input reply depth (g.spot (child each).id place)
            answer) position result := by
      apply gives.eventually
      intro each place answer comes
      obtain ⟨depth, within⟩ := comes_iff_exists_depth.mp comes
      filter_upwards [Filter.eventually_ge_atTop depth] with more enough
      exact within.mono enough
    obtain ⟨depth, within⟩ := eventually.exists
    exact comes_iff_exists_depth.mpr ⟨depth + 1, (comesWithin_succ_iff alike).mpr within⟩

section

variable (sound : Sound book ledger g)
  (closed : ∀ name, named name → (book.rules name).Own named Reference.NoHandle)
  (describe : Reference ω ρ → String) {input : Input ω} {reply : ρ → Answer ω}

include sound closed

theorem Sound.means_of_comes {depth : Nat} {id : NodeId} {reference : Reference ω ρ}
    (own : reference.Own named Reference.NoHandle)
    (stands : Stands book.rules ledger g id reference)
    {position : Nat} {result : Match (Value ω)}
    (comes : g.ComesWithin input reply depth (g.spot id position) result) :
    ∃ other, reference.MeansWithin g.kind book.rules describe input reply depth position other ∧
      result.Agrees other := by
  induction depth generalizing id reference position result with
  | zero => cases comes
  | succ depth induction =>
      obtain ⟨kind, children, reads⟩ := sound.exists_reads closed own stands
      obtain ⟨ids, descriptions, alike, each⟩ := sound.exists_plan stands reads
      have gives := (comesWithin_succ_iff (alike position)).mp comes
      have related : ∀ index place answer,
          g.ComesWithin input reply depth (g.spot (ids index) place) answer →
          ∃ other,
            (children index).MeansWithin g.kind book.rules describe input reply depth place other ∧
            answer.Agrees other := by
        intro index place answer
        exact induction (own.of_reads closed reads index) (each index)
      obtain ⟨other, there, agrees⟩ :=
        gives.agrees related fun index => describe (children index)
      exact ⟨other, ⟨kind, children, reads, there⟩, agrees⟩

theorem Sound.comes_of_means {depth : Nat} {id : NodeId} {reference : Reference ω ρ}
    (own : reference.Own named Reference.NoHandle)
    (stands : Stands book.rules ledger g id reference)
    {position : Nat} {result : Match (Value ω)}
    (means : reference.MeansWithin g.kind book.rules describe input reply depth position result) :
    ∃ other, g.ComesWithin input reply depth (g.spot id position) other ∧
      result.Agrees other := by
  induction depth generalizing id reference position result with
  | zero => cases means
  | succ depth induction =>
      obtain ⟨kind, children, reads, gives⟩ := means
      obtain ⟨ids, descriptions, alike, each⟩ := sound.exists_plan stands reads
      have related : ∀ index place answer,
          (children index).MeansWithin g.kind book.rules describe input reply depth place answer →
          ∃ other, g.ComesWithin input reply depth (g.spot (ids index) place) other ∧
            answer.Agrees other := by
        intro index place answer
        exact induction (own.of_reads closed reads index) (each index)
      obtain ⟨other, there, agrees⟩ := gives.agrees related descriptions
      exact ⟨other, (comesWithin_succ_iff (alike position)).mpr there, agrees⟩

/-- A slot evaluates to what the parser means that it stands for. -/
theorem Sound.evaluates_iff_means {id : NodeId} {reference : Reference ω ρ}
    (own : reference.Own named Reference.NoHandle)
    (stands : Stands book.rules ledger g id reference)
    (position : Nat) (result : Match (Value ω)) :
    (g.Evaluates input reply id position result →
      ∃ other, reference.Means g.kind book.rules describe input reply position other ∧
        result.Agrees other) ∧
    (reference.Means g.kind book.rules describe input reply position result →
      ∃ other, g.Evaluates input reply id position other ∧ result.Agrees other) := by
  constructor
  · intro evaluates
    obtain ⟨depth, comes⟩ := comes_iff_exists_depth.mp evaluates
    obtain ⟨other, means, agrees⟩ := sound.means_of_comes closed describe own stands comes
    exact ⟨other, ⟨depth, means⟩, agrees⟩
  · intro means
    obtain ⟨depth, within⟩ := means
    obtain ⟨other, comes, agrees⟩ := sound.comes_of_means closed describe own stands within
    exact ⟨other, comes_iff_exists_depth.mpr ⟨depth, comes⟩, agrees⟩

end

/-- A parser that is resolved, and what is resolved afterwards. -/
theorem Continues.exists_stands {number : Nat} {input : InputKind} {later : Grammar ω ρ}
    (earlier : Continues book (.empty number input) g) {identity : Nat} {id : NodeId}
    (resolved : (g.resolve book.rules ⟨.parser identity, []⟩ (book.parsers identity)).1 = .ok id)
    (afterwards : Continues book
      (g.resolve book.rules ⟨.parser identity, []⟩ (book.parsers identity)).2 later) :
    ∃ ledger, Sound book ledger later ∧ later.kind = input ∧ id.number < later.size ∧
      Stands book.rules ledger later id (book.parsers identity) := by
  obtain ⟨before, sound, start⟩ := (Sound.empty book number input).continues earlier
  obtain ⟨middle, soundThen, next, stands⟩ := sound.resolve (book.parser_faithful identity)
    (written_root sound.accounts identity)
  obtain ⟨small, there⟩ := stands id resolved
  obtain ⟨ledger, soundLater, more⟩ := soundThen.continues afterwards
  have kind : later.kind = input := more.kind.trans (next.kind.trans start.kind)
  exact ⟨ledger, soundLater, kind, Nat.lt_of_lt_of_le small more.size, more.stands _ _ small there⟩

/-- A parser that is written with the library's own leaves and combinators is resolved to
a node that evaluates to what the parser means, but for descriptions in messages. -/
theorem resolve_preserves_meaning {number : Nat} {kind : InputKind} {later : Grammar ω ρ}
    (earlier : Continues book (.empty number kind) g)
    (closed : ∀ name, named name → (book.rules name).Own named Reference.NoHandle) {identity : Nat}
    (own : (book.parsers identity).Own named Reference.NoHandle) {id : NodeId}
    (resolved : (g.resolve book.rules ⟨.parser identity, []⟩ (book.parsers identity)).1 = .ok id)
    (afterwards : Continues book
      (g.resolve book.rules ⟨.parser identity, []⟩ (book.parsers identity)).2 later)
    (describe : Reference ω ρ → String) (input : Input ω) (reply : ρ → Answer ω)
    (position : Nat) (result : Match (Value ω)) :
    (later.Evaluates input reply id position result →
      ∃ other, (book.parsers identity).Means kind book.rules describe input reply position other ∧
        result.Agrees other) ∧
    ((book.parsers identity).Means kind book.rules describe input reply position result →
      ∃ other, later.Evaluates input reply id position other ∧ result.Agrees other) := by
  obtain ⟨ledger, sound, rfl, _, stands⟩ := earlier.exists_stands resolved afterwards
  exact sound.evaluates_iff_means closed describe own stands position result

/-- A program with one rule, which refers to itself. -/
def trailing : Book Unit Empty where
  rules _ := .optional (.keepSecond .any (.rule "trailing"))
  parsers _ := .rule "trailing"
  rule_faithful _ := by
    apply Reference.Faithful.own .optional fun _ => trivial
    intro _
    apply Reference.Faithful.own .keepSecond fun _ => trivial
    intro index
    split
    next => exact .own .any (fun _ => trivial) nofun
    next => exact .rule _
  parser_faithful _ := .rule _

theorem trailing_means_at_end (describe : Reference Unit Empty → String) :
    (trailing.parsers 0).Means .tokens trailing.rules describe (.tokens #[.unit]) Empty.elim 1
      (.success (.point 1) .absent) := by
  apply Reference.means_iff.mpr
  refine ⟨.optional, _, .opened (.rule _) (.node .optional _ trivial), ?_⟩
  apply Plan.Gives.absent
  apply Reference.means_iff.mpr
  refine ⟨.keepSecond, _, .node .keepSecond _ trivial, ?_⟩
  apply Plan.Gives.noFirst
  apply Reference.means_iff.mpr
  exact ⟨.any, _, .node .any _ trivial, .leaf _⟩

theorem trailing_means (describe : Reference Unit Empty → String) :
    (trailing.parsers 0).Means .tokens trailing.rules describe (.tokens #[.unit]) Empty.elim 0
      (.success (.between 0 1) (.present .absent)) := by
  apply Reference.means_iff.mpr
  refine ⟨.optional, _, .opened (.rule _) (.node .optional _ trivial), ?_⟩
  apply Plan.Gives.present
  apply Reference.means_iff.mpr
  refine ⟨.keepSecond, _, .node .keepSecond _ trivial, ?_⟩
  refine @Plan.Gives.pair _ _ _ _ _ _ _ _ (0 : Fin 2) (1 : Fin 2) _ (.between 0 1) (.point 1)
    .unit .absent ?_ ?_
  · apply Reference.means_iff.mpr
    exact ⟨.any, _, .node .any _ trivial, .leaf _⟩
  · exact trailing_means_at_end describe

theorem trailing_resolves :
    ∃ id, ((empty 0 .tokens).resolve trailing.rules ⟨.parser 0, []⟩
      (trailing.parsers 0)).1 = .ok id := by
  cases resolved :
      ((empty 0 .tokens).resolve trailing.rules ⟨.parser 0, []⟩ (trailing.parsers 0)).1 with
  | error error =>
      have found : ((empty 0 .tokens).resolve trailing.rules ⟨.parser 0, []⟩
          (trailing.parsers 0)).1.isOk = true := by decide +kernel
      rw [resolved] at found
      cases found
  | ok id => exact ⟨id, rfl⟩

theorem trailing_own (name : String) :
    (trailing.rules name).Own (fun _ => True) Reference.NoHandle :=
  (Reference.Own.any.keepSecond (.rule trivial)).optional

theorem trailing_evaluates_to_meaning :
    ∃ id, ((empty 0 .tokens).resolve trailing.rules ⟨.parser 0, []⟩
        (trailing.parsers 0)).1 = .ok id ∧
      ((empty 0 .tokens).resolve trailing.rules ⟨.parser 0, []⟩
        (trailing.parsers 0)).2.Evaluates (.tokens #[.unit]) Empty.elim id 0
          (.success (.between 0 1) (.present .absent)) := by
  obtain ⟨id, resolved⟩ := trailing_resolves
  obtain ⟨other, evaluates, agrees⟩ :=
    (resolve_preserves_meaning .here (fun name _ => trailing_own name) (.rule trivial) resolved
      .here Reference.tag (.tokens #[.unit]) Empty.elim 0 _).2 (trailing_means _)
  cases agrees
  exact ⟨id, resolved, evaluates⟩

end Grammar

end Packrat
