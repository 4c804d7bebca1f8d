import Packrat.Proofs.Calculator.Completeness
import Packrat.Proofs.Calculator.Resolution
import Packrat.Proofs.Defined

/-!
# Evaluating texts

A calculator resolves its grammar once, and then matches each text in as many turns as it
has for that: each node makes few calls more than there are characters, and there is one
frame for each node and position.  So what the calculator gives is what its grammar means.
-/

namespace Packrat

namespace Grammar

variable {ω ρ : Type} {g : Grammar ω ρ} {root node : NodeId} {input : Input ω}
  {reply : ρ → Answer ω}

/-- A node for a whole input comes to what the other node does and then the end of the
input. -/
theorem Whole.comes (whole : g.Whole root node) (acyclic : g.Acyclic) {position : Nat}
    {answer : Match (Value ω)} (comes : g.Comes input reply (g.spot root position) answer) :
    g.Comes input reply (g.spot node position) (Job.conclusion (endMatch input) answer) := by
  obtain ⟨children, ⟨content, ready, isOf⟩, leads, nothing, ⟨leaf, leafReady, isEnd⟩⟩ := whole.parts
  have alike : (g.matcherAt (g.spot node position)).Alike
      (Kind.consume.plan.map children).matcher := by
    rw [matcherAt_spot acyclic ready, isOf.matcher]
    exact .refl _
  have first : g.Comes input reply (g.spot (children ⟨0, Nat.two_pos⟩).id position) answer := by
    rw [spot, leads]
    exact comes
  refine (comes_iff_gives alike).mpr ?_
  cases answer with
  | failure message span => exact .noFirst first
  | success span value =>
      have alikeEnd : (g.matcherAt (g.spot (children ⟨1, Nat.one_lt_two⟩).id span.stop)).Alike
          (Kind.endOfInput.plan.map nothing).matcher := by
        rw [matcherAt_spot acyclic leafReady, isEnd.matcher]
        exact .refl _
      have last : g.Comes input reply (g.spot (children ⟨1, Nat.one_lt_two⟩).id span.stop)
          (endMatch input span.stop) := (comes_iff_gives alikeEnd).mpr (.leaf _)
      rw [Job.conclusion, Match.andThen_success]
      cases ends : endMatch input span.stop with
      | failure => exact .noSecond first (ends ▸ last)
      | success => exact .pair first (ends ▸ last)

end Grammar

namespace Calculator

open Grammar Reference

variable {F : Type} {a : Arithmetic F}

/-! ## The calculator's engine -/

/-- A calculator that has evaluated some texts, one after the other. -/
def after (a : Arithmetic F) (texts : List String) : Calculator F :=
  texts.foldl (fun c text => (c.evaluate text).2) (.new a)

/-- A calculator whose expression is resolved when it evaluates a text, if not before. -/
structure Serves (a : Arithmetic F) (c : Calculator F) : Prop where
  arithmetic : c.arithmetic = a
  steady : c.engine.Steady
  prepared : ∃ root node later,
    c.engine.resolveWhole (rules a) (expression a) = (.ok node, later) ∧
      Prepared a later root node

theorem serves_new (a : Arithmetic F) : Serves a (.new a) := by
  let _ : BEq (Term F) := ⟨fun _ _ => false⟩
  exact ⟨rfl, Engine.steady_new .., exists_prepared a rfl (.new ..) fun _ => rfl⟩

theorem Serves.evaluate {c : Calculator F} (serves : Serves a c) (text : String) :
    Serves a (c.evaluate text).2 := by
  obtain ⟨rfl, steady, root, node, later, resolved, prepared⟩ := serves
  have isLater : (c.evaluate text).2.engine = later := by
    have same := Engine.run_engine (rules c.arithmetic) host
      (turns (Input.text (.ofString text) : Input (Term F)).length) c.engine
      (expression c.arithmetic) (.text (.ofString text)) .standard ()
    rw [resolved] at same
    exact same
  have remembers := steady.remembers_of_resolveWhole (congrArg Prod.fst resolved)
  rw [resolved] at remembers
  refine ⟨rfl, isLater ▸ prepared.steady, root, node, later, ?_, prepared⟩
  rw [isLater]
  exact remembers.resolveWhole _

theorem serves_after (a : Arithmetic F) (texts : List String) : Serves a (after a texts) := by
  suffices each : ∀ c, Serves a c →
      Serves a (texts.foldl (fun c text => (c.evaluate text).2) c) from each _ (serves_new a)
  induction texts with
  | nil => exact fun _ serves => serves
  | cons text texts induction => exact fun c serves => induction _ (serves.evaluate text)

/-! ## How long a match takes -/

section

variable {engine : Engine (Term F) Empty} {root node : NodeId}
  (prepared : Prepared a engine root node) {input : Input (Term F)}

include prepared

theorem Prepared.tame : Job.Tame ⟨engine.grammar, input, true, none⟩
    (fun id => id.number < engine.grammar.size) (input.length + 2) := by
  let _ : BEq (Term F) := ⟨fun _ _ => false⟩
  have tidy := prepared.steady.tidy
  have ready (id : NodeId) (small : id.number < engine.grammar.size) :=
    prepared.steady.complete.ready tidy small
  refine ⟨ready, fun id small position inside => ?_⟩
  obtain ⟨content, isReady⟩ := ready id small
  obtain ⟨kind, children, employs, isOf⟩ := prepared.each _ _ isReady
  have runs : (engine.grammar.matcherAt (engine.grammar.spot id position)).Runs
      (fun id => id.number < engine.grammar.size) input position (kind.plan.calls input.length)
      ((engine.grammar.matcherAt (engine.grammar.spot id position)).start input position) := by
    rw [matcherAt_spot tidy.acyclic isReady, isOf.matcher]
    refine Plan.runs_matcher (fun index => tidy.children _ _ isReady _ ?_) employs.stock.keeps
      inside
    rw [isOf.children]
    exact List.mem_ofFn.mpr ⟨index, rfl⟩
  exact runs.mono (employs.calls_le input.length)

variable {history : List (Deed (Term F))} {machine : Machine (Term F)} {world : Unit}
  (visits : Job.Visits ⟨engine.grammar, input, true, none⟩ host node 0 () history machine world)

include visits

theorem Prepared.frames_le : machine.frames.size ≤ 370 * (input.length + 1) := by
  have nodes : engine.grammar.nodeCount ≤ 370 :=
    (Finset.card_filter_le _ _).trans (Finset.card_range _ ▸ prepared.small)
  exact (visits.size_le_spotCount rfl prepared.tame prepared.whole.lt_size (Nat.zero_le _)).trans
    (Nat.mul_le_mul_right _ nodes)

/-- A match is over before all of the turns are used up. -/
theorem Prepared.lt_turns : history.length < turns input.length := by
  have few := visits.length_le prepared.tame.bounded prepared.whole.lt_size (Nat.zero_le _)
  have frames := prepared.frames_le visits
  calc history.length ≤ (input.length + 2 + 2) * machine.frames.size := few
    _ ≤ 2 * (input.length + 2) * (370 * (input.length + 2)) :=
        Nat.mul_le_mul (by omega) (frames.trans (Nat.mul_le_mul_left _ (by omega)))
    _ < 1000 * (input.length + 2) * (input.length + 2) := by nlinarith

end

/-! ## What a text means -/

/-- The calculator's grammar, to read a text with. -/
abbrev reading (a : Arithmetic F) (text : String) : Reading (Term F) Empty :=
  (book a).reading .text (.text (.ofString text)) Empty.elim

/-- An expression that has a value is taken as a whole. -/
theorem Written.leaves {text : String} {e : Expression} (written : Written text e) {x : F}
    (isValue : e.value a = some x) :
    (reading a text).Leaves (.ofString text) (expression a).body 0 [] (.datum (.number x)) := by
  obtain ⟨blanks, chars, isBlank, whole, derives⟩ := written
  have isChars : (Text.ofString text).chars.toList = text.toList := rfl
  have isText : (reading a text).OfText Pattern.language (.ofString text) := ⟨rfl, rfl⟩
  exact leaves_expression isText rfl (isChars.trans whole) isBlank derives isValue

/-- What is taken of a text is an expression, if that is the whole text. -/
theorem leaves_or_fails (a : Arithmetic F) (text : String) :
    (∃ rest x, (reading a text).Leaves (.ofString text) (expression a).body 0 rest
        (.datum (.number x)) ∧ (rest = [] → ∃ e, Written text e ∧ e.value a = some x)) ∨
      (reading a text).Fails (expression a).body 0 := by
  have isChars : (Text.ofString text).chars.toList = text.toList := rfl
  have isText : (reading a text).OfText Pattern.language (.ofString text) := ⟨rfl, rfl⟩
  rcases expression_cases isText rfl with
    ⟨blanks, taken, rest, e, x, whole, isBlank, derives, isValue, leaves⟩ | fails
  · refine .inl ⟨rest, x, leaves, ?_⟩
    rintro rfl
    refine ⟨e, ⟨blanks, taken, isBlank, ?_, derives⟩, isValue⟩
    rw [← isChars, whole, List.append_nil]
  · exact .inr fails

/-! ## What a match comes to -/

theorem host_answers : (host : Host (Term F) Empty Unit).Answers Empty.elim :=
  fun request => request.elim

section

variable {engine : Engine (Term F) Empty} {root node : NodeId}
  (prepared : Prepared a engine root node) {input : Input (Term F)}

include prepared

/-- The expression's node comes to what the expression means. -/
theorem Prepared.exists_comes {answer : Match (Value (Term F))}
    (means : ((book a).reading .text input Empty.elim).Means (expression a).body 0 answer) :
    ∃ other, engine.grammar.Comes input Empty.elim (engine.grammar.spot root 0) other ∧
      answer.Agrees other := by
  rw [← prepared.kind] at means
  obtain ⟨ledger, sound, stands⟩ := prepared.stands
  have closed (name : String) (_ : name ∈ names) : (rules a name).Own (· ∈ names) NoHandle :=
    ((employed_rules a name).made NoHandle).own
  have own : (expression a).body.Own (· ∈ names) NoHandle :=
    ((employed_expression a).made NoHandle).own
  exact (sound.evaluates_iff_means closed tag own stands 0 answer).2 means

/-- The node is matched to what the expression means, if that ends where the input does. -/
theorem Prepared.exists_matched
    (room : ¬Engine.Exhausts (.ok node, engine) host input .standard ())
    {answer : Match (Value (Term F))}
    (means : ((book a).reading .text input Empty.elim).Means (expression a).body 0 answer) :
    ∃ other outcome, answer.Agrees other ∧
      (engine.matchNode host (turns input.length) input .standard node ()).1 = some outcome ∧
      Engine.verdict input outcome.result = Engine.verdict input (other.toEnd input.length) := by
  obtain ⟨other, comes, agrees⟩ := prepared.exists_comes means
  have whole := prepared.whole.comes prepared.steady.tidy.acyclic comes
  obtain ⟨history, finish, _, finds⟩ := Job.exists_finds_of_comes host_answers rfl
    (fun _ _ _ => Job.size_lt_of_not_exhausts fun full => room ⟨node, rfl, full⟩) whole
  obtain ⟨steps, runs⟩ := finds.exists_run
  have ⟨frame, first, machine, begun, leads, _⟩ := finds
  have enough := prepared.lt_turns ⟨frame, first, begun, leads⟩
  have within : other.Inside 0 input.length := by
    obtain ⟨allowed, _, isAllowed, apart⟩ := prepared.whole.apart
    have covers : Job.Covers ⟨engine.grammar, input, true, none⟩
        (fun id => id.number < engine.grammar.size) 0 (engine.grammar.spot root 0) :=
      ⟨⟨root, (apart root isAllowed).1, rfl⟩, Nat.zero_le _, Nat.zero_le _⟩
    exact prepared.tame.bounded.comes_inside covers comes
  have started : ¬input.length < Options.standard.start := Nat.not_lt_zero _
  refine ⟨other, ⟨_, steps⟩, agrees, ?_, verdict_conclusion within⟩
  rw [Engine.matchNode, if_neg started]
  exact congrArg Prod.fst (runs _ enough)

end

/-- What the calculator makes of a match of the expression. -/
def shown (input : Input (Term F)) (answer : Match (Value (Term F))) : Option (Except RunError F) :=
  match Engine.verdict input (answer.toEnd input.length) with
  | .ok value => (number? value).map .ok
  | .error error => some (.error error)

section

variable {c : Calculator F} (serves : Serves a c) {text : String}
  (room : ¬Engine.Exhausts (c.engine.resolveWhole (rules a) (expression a)) host
    (.text (.ofString text)) .standard ())

include serves room

/-- The calculator gives what the expression means. -/
theorem Serves.exists_evaluates {answer : Match (Value (Term F))}
    (means : (reading a text).Means (expression a).body 0 answer) :
    ∃ other, answer.Agrees other ∧
      (c.evaluate text).1 = shown (.text (.ofString text)) other := by
  obtain ⟨rfl, steady, root, node, later, resolved, prepared⟩ := serves
  rw [resolved] at room
  obtain ⟨other, outcome, agrees, matched, isVerdict⟩ := prepared.exists_matched room means
  refine ⟨other, agrees, ?_⟩
  have ran : (c.engine.run (rules c.arithmetic) host
      (turns (Input.text (.ofString text) : Input (Term F)).length) (expression c.arithmetic)
      (.text (.ofString text)) .standard ()).1 =
        some (Engine.verdict (.text (.ofString text)) outcome.result) := by
    rw [Engine.run, resolved]
    simp only [matched, Option.map_some]
  rw [shown, ← isVerdict, Calculator.evaluate]
  simp only [ran]
  cases Engine.verdict (.text (.ofString text)) outcome.result <;> rfl

theorem Serves.evaluate_of_fails
    (fails : (reading a text).Fails (expression a).body 0) :
    ∃ error, (c.evaluate text).1 = some (.error error) := by
  obtain ⟨message, span, means⟩ := fails
  obtain ⟨other, agrees, evaluates⟩ := serves.exists_evaluates room means
  cases agrees
  exact ⟨_, evaluates⟩

/-- A match that takes all of the text gives its value, and any other match an error. -/
theorem Serves.evaluate_of_leaves {rest : List Char} {x : F}
    (leaves : (reading a text).Leaves (.ofString text) (expression a).body 0 rest
      (.datum (.number x))) :
    rest = [] ∧ (c.evaluate text).1 = some (.ok x) ∨
      rest ≠ [] ∧ ∃ error, (c.evaluate text).1 = some (.error error) := by
  obtain ⟨stop, left, matched⟩ := leaves
  obtain ⟨other, agrees, evaluates⟩ := serves.exists_evaluates room matched.means
  cases agrees
  have whole : stop + rest.length = (Input.text (.ofString text) : Input (Term F)).length :=
    left.length_eq
  rw [evaluates, shown, Match.toEnd, Span.stop_between_of_le matched.ordered]
  cases rest with
  | nil =>
      rw [List.length_nil, Nat.add_zero] at whole
      rw [if_pos whole]
      exact .inl ⟨rfl, rfl⟩
  | cons c rest =>
      rw [if_neg (by rw [List.length_cons] at whole; omega)]
      exact .inr ⟨List.cons_ne_nil c rest, _, rfl⟩

/-- The text is an expression, whose value the calculator gives, or the calculator gives an
error. -/
theorem Serves.evaluate_cases :
    (∃ e x, Written text e ∧ e.value a = some x ∧ (c.evaluate text).1 = some (.ok x)) ∨
      ∃ error, (c.evaluate text).1 = some (.error error) := by
  rcases leaves_or_fails a text with ⟨rest, x, leaves, isExpression⟩ | fails
  · rcases serves.evaluate_of_leaves room leaves with ⟨isEnd, evaluates⟩ | ⟨_, failed⟩
    · obtain ⟨e, written, isValue⟩ := isExpression isEnd
      exact .inl ⟨e, x, written, isValue, evaluates⟩
    · exact .inr failed
  · exact .inr (serves.evaluate_of_fails room fails)

theorem Serves.evaluate_eq_ok_iff (x : F) :
    (c.evaluate text).1 = some (.ok x) ↔ ∃ e, Written text e ∧ e.value a = some x := by
  constructor
  · intro evaluates
    rcases serves.evaluate_cases room with ⟨e, y, written, isValue, given⟩ | ⟨error, failed⟩
    · rw [given] at evaluates
      cases evaluates
      exact ⟨e, written, isValue⟩
    · rw [failed] at evaluates
      cases evaluates
  · rintro ⟨e, written, isValue⟩
    rcases serves.evaluate_of_leaves room (written.leaves isValue) with
      ⟨_, evaluates⟩ | ⟨notEnd, _⟩
    · exact evaluates
    · exact absurd rfl notEnd

end

/-! ## One way to read a text -/

/-- Arithmetic that only writes down what there is to do. -/
def formal : Arithmetic Expression where
  read digits := some (.number digits)
  add := .operation .add
  subtract := .operation .subtract
  multiply := .operation .multiply
  divide left right := some (.operation .divide left right)
  power := .power
  negate := .negation

theorem value_formal (e : Expression) : e.value formal = some e := by
  induction e with
  | number => rfl
  | negation operand isOperand =>
      rw [Expression.value, isOperand]
      rfl
  | power base exponent isBase isExponent =>
      rw [Expression.value, isBase, isExponent]
      rfl
  | operation op left right isLeft isRight =>
      rw [Expression.value, isLeft, isRight]
      cases op <;> rfl

/-- The grammar is not ambiguous: a calculator with formal arithmetic gives for a text the
only expression that it is written for. -/
theorem Written.unique {text : String} {e other : Expression} (written : Written text e)
    (others : Written text other) : other = e := by
  obtain ⟨root, node, later, _, prepared⟩ := (serves_new formal).prepared
  have comes : ∀ {e : Expression}, Written text e → ∃ stop,
      later.grammar.Comes (.text (.ofString text)) Empty.elim (later.grammar.spot root 0)
        (.success (.between 0 stop) (.datum (.number e))) := by
    intro e written
    obtain ⟨stop, _, matched⟩ := written.leaves (value_formal e)
    obtain ⟨_, comes, agrees⟩ := prepared.exists_comes matched.means
    cases agrees
    exact ⟨stop, comes⟩
  obtain ⟨_, here⟩ := comes written
  obtain ⟨_, there⟩ := comes others
  cases here.unique there
  rfl

/-! ## What the calculator accepts -/

/-- Only for a long text all indices for frames are used up. -/
theorem Serves.long_of_exhausts {c : Calculator F} (serves : Serves a c) {text : String}
    (full : Engine.Exhausts (c.engine.resolveWhole (rules a) (expression a)) host
      (.text (.ofString text)) .standard ()) : capacity ≤ 370 * (text.length + 1) := by
  obtain ⟨root, node, later, resolved, prepared⟩ := serves.prepared
  rw [resolved] at full
  obtain ⟨_, ⟨⟩, history, machine, world, visits, size⟩ := full
  have frames := prepared.frames_le visits
  have isLength : (Input.text (.ofString text) : Input (Term F)).length = text.length := by
    rw [Input.length, Text.length, Text.ofString, List.size_toArray, String.length_toList]
  rwa [size, isLength] at frames

end Calculator

end Packrat
