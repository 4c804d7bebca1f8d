import Packrat.Calculator
import Packrat.Proofs.Grammar.Plain
import Packrat.Proofs.Pattern.Greedy
import Packrat.Proofs.WholeInput

/-!
# Resolving the calculator's grammar

The calculator's rules are written with few kinds of nodes, each of which makes no more
calls than there are positions left.  They are always resolved, and take a few hundred slots.
-/

namespace Packrat.Calculator

open Grammar Reference

variable {F : Type} (a : Arithmetic F)

/-- The kinds of nodes that the calculator's parsers are made of. -/
inductive Employs : Kind (Term F) Empty → Prop where
  | literal {input : InputKind} {data : Literal} :
      (∃ blueprint : Blueprint (Term F) Empty, data.blueprint? .text = .ok blueprint) →
      Employs (.literal input data)
  | endOfInput : Employs .endOfInput
  | pair : Employs (.choice 2)
  | optional : Employs .optional
  | many : Employs (.repeated .anyNumber)
  | tryChain (combine : Combine (Term F) Empty) : Employs (.tryChain combine)
  | keepFirst : Employs .keepFirst
  | keepSecond : Employs .keepSecond
  | consume : Employs .consume
  | transform (name message : String) (f : Transform (Term F) Empty) :
      Employs (.transform name message f)
  | discard : Employs .discard
  | onFail (message : String) : Employs (.onFail message)

namespace Employs

variable {kind : Kind (Term F) Empty}

theorem stock [BEq (Term F)] (employs : Employs kind) : kind.Stock := by
  cases employs <;> trivial

theorem calls_le (employs : Employs kind) (length : Nat) :
    kind.plan.calls length ≤ length + 2 := by
  cases employs with
  | pair =>
      rw [Kind.plan, Plan.calls, List.length_ofFn]
      exact Nat.le_add_left 2 length
  | _ =>
      simp only [Kind.plan, Plan.calls]
      omega

end Employs

/-- The names of the rules. -/
def names : Finset String := {"unary", "sum"}

/-- A parser that is written as the calculator's are. -/
abbrev Employed (reference : Rule F) : Prop := reference.Plain Employs (· ∈ names)

namespace Employed

variable {first second body : Rule F}

theorem rule {name : String} (isNamed : name ∈ names) : Employed (.rule name : Rule F) :=
  Plain.rule isNamed

theorem text (content : String) : Employed (.text content : Rule F) :=
  .literal fun _ => .literal ⟨_, rfl⟩

theorem pattern {expression : String} {finder : Finder}
    (compiled : Pattern.language.compile? (Literal.anchored expression) = some finder) :
    Employed (.pattern expression : Rule F) := by
  refine .literal fun _ => .literal ?_
  simp only [Literal.blueprint?, Literal.attempt?, InputKind.text, compiled]
  exact ⟨_, rfl⟩

section

variable (here : Employed body)

include here

theorem optional : Employed (.optional body) :=
  .node .optional (fun _ => trivial) .optional fun _ => here

theorem many : Employed (.many body) :=
  .node (.repeated .anyNumber) (fun _ => trivial) .many fun _ => here

theorem transform (name message : String) (f : Transform (Term F) Empty) :
    Employed (.transform name false message f body) :=
  .node (.transform name message f) (fun _ => trivial) (.transform name message f) fun _ => here

theorem discard : Employed (.discard body) :=
  .node .discard (fun _ => trivial) .discard fun _ => here

theorem onFail (message : String) : Employed (.onFail message body) :=
  .node (.onFail message) (fun _ => trivial) (.onFail message) fun _ => here

end

section

variable (here : Employed first) (there : Employed second)

include here there

theorem keepFirst : Employed (.keepFirst first second) :=
  .node .keepFirst (fun _ => trivial) .keepFirst (here.both there)

theorem keepSecond : Employed (.keepSecond first second) :=
  .node .keepSecond (fun _ => trivial) .keepSecond (here.both there)

theorem tryChain (combine : Combine (Term F) Empty) :
    Employed (.tryChain combine first second) :=
  .node (.tryChain combine) (fun _ => trivial) (.tryChain combine) (here.both there)

theorem orElse : Employed (.choice [first, second]) :=
  .choice .pair fun alternative member => by
    rcases List.mem_pair.mp member with rfl | rfl
    · exact here
    · exact there

end

end Employed

/-! ## The parts of the grammar -/

theorem employed_whitespace : Employed (whitespace : Rule F) :=
  (Employed.pattern Pattern.compile?_blanks).discard

theorem employed_token (content : String) : Employed (token content : Rule F) :=
  (Employed.text content).keepFirst employed_whitespace

theorem employed_number : Employed (number a) :=
  (((Employed.pattern Pattern.compile?_decimal).keepFirst employed_whitespace).transform
    _ _ _).onFail _

theorem employed_unary : Employed (unary a) := by
  have isUnary : Employed (.rule "unary" : Rule F) := .rule (by decide)
  have isSum : Employed (.rule "sum" : Rule F) := .rule (by decide)
  have atoms : Employed (atom a) := (employed_number a).orElse
    (((employed_token "(").keepSecond isSum).keepFirst (employed_token ")"))
  have powers : Employed (power a) :=
    atoms.tryChain ((employed_token "^").keepSecond isUnary).optional _
  exact powers.orElse (((employed_token "-").keepSecond isUnary).transform _ _ _)

/-- Operands in a row, with one of two operations between each two. -/
theorem employed_row {operand : Rule F} (here : Employed operand) (symbol other : String)
    (op otherOp : Operator) :
    Employed (row a operand (.choice [operator symbol op, operator other otherOp])) := by
  have operators : Employed (.choice [operator symbol op, operator other otherOp] : Rule F) :=
    ((employed_token symbol).transform _ _ _).orElse ((employed_token other).transform _ _ _)
  exact here.tryChain (operators.tryChain here _).many _

theorem employed_sum : Employed (sum a) :=
  employed_row a (employed_row a (employed_unary a) ..) ..

theorem employed_rules (name : String) : Employed (rules a name) := by
  unfold rules
  split
  next => exact employed_unary a
  next => exact employed_sum a

theorem employed_expression : Employed (expression a).body :=
  employed_whitespace.keepSecond (employed_sum a)

theorem rules_node (name : String) :
    ∃ blueprint children, rules a name = .node blueprint children := by
  unfold rules
  split
  next => exact ⟨_, _, rfl⟩
  next => exact ⟨_, _, rfl⟩

/-! ## How many slots they take -/

theorem weight_token (content : String) : (token content : Rule F).weight = 4 := by
  simp only [token, whitespace, keepFirst, Reference.discard, transform, text, pattern,
    Reference.weight_unary, weight_binary, weight]

theorem weight_atom : (atom a).weight = 17 := by
  simp only [atom, number, choice, onFail, tryMap, keepFirst, keepSecond, transform, whitespace,
    Reference.discard, pattern, weight_pair, Reference.weight_unary, weight_binary, weight_token,
    weight]

theorem weight_unary : (unary a).weight = 31 := by
  simp only [unary, power, choice, chain, tryChain, Reference.optional, Reference.map, mapAct,
    keepSecond, transform, weight_pair, Reference.weight_unary, weight_binary, weight_token,
    weight_atom, weight]

/-- A row takes the slots of its operand twice. -/
theorem weight_row (operand : Rule F) (symbol other : String) (op otherOp : Operator) :
    (row a operand (.choice [operator symbol op, operator other otherOp])).weight =
      14 + 2 * operand.weight := by
  simp only [row, operator, choice, chain, tryChain, many, repeated, replace, transform,
    weight_pair, Reference.weight_unary, weight_binary, weight_token]
  omega

theorem weight_sum : (sum a).weight = 166 := by
  rw [sum, weight_row, product, weight_row, weight_unary]

theorem weight_expression : (expression a).body.weight = 169 := by
  simp only [expression, whitespace, keepSecond, Reference.discard, transform, pattern,
    Reference.weight_unary, weight_binary, weight_sum, weight]

/-- All that is written in the expression and in the rules takes so many slots. -/
theorem weight_rules (g : Grammar (Term F) Empty) :
    unmet (rules a) names g + (expression a).body.weight ≤ 368 := by
  have each : unmet (rules a) names g ≤ ∑ name ∈ names, (1 + (rules a name).weight) :=
    Finset.sum_le_sum_of_subset (Finset.filter_subset _ _)
  have total : ∑ name ∈ names, (1 + (rules a name).weight) = (1 + 31) + (1 + 166) := by
    rw [names, Finset.sum_pair (by decide), ← weight_unary a, ← weight_sum a]
    rfl
  rw [weight_expression]
  omega

/-! ## Resolving -/

/-- The calculator's rules, and its only parser. -/
def program : Program (Term F) Empty where
  rules := rules a
  texts
    | .parser 0 => some (expression a).body
    | _ => none
  outside _ := rfl
  rules_proper name := (employed_rules a name).proper _
  texts_proper origin reference found := by
    split at found
    next =>
      cases found
      exact (employed_expression a).proper _
    next => cases found

/-- The calculator's rules, which do no more than they say. -/
def book : Book (Term F) Empty where
  rules := rules a
  parsers _ := (expression a).body
  rule_faithful name := (employed_rules a name).faithful _
  parser_faithful _ := (employed_expression a).faithful _

theorem stockOnly [BEq (Term F)] : StockOnly (rules a) (expression a).body :=
  ⟨(· ∈ names),
    fun name _ => ((employed_rules a name).mono (fun _ => Employs.stock) fun _ => id).made _,
    ((employed_expression a).mono (fun _ => Employs.stock) fun _ => id).made _⟩

/-- A node and the end of the input after it. -/
theorem employed_consume (number : Nat) (id : NodeId) :
    (Reference.consume (.handle number id) : Rule F).MadeOf Employs (fun _ => False)
      fun _ _ => True := by
  refine @Reference.MadeOf.node _ _ _ _ _ .consume _ (fun _ => trivial) .consume ?_
  intro index
  dsimp only
  split
  next => exact .handle trivial
  next => exact @Reference.MadeOf.node _ _ _ _ _ .endOfInput _ (fun _ => trivial) .endOfInput nofun

/-- All nodes of a grammar are of the calculator's kinds. -/
abbrev EachEmployed (g : Grammar (Term F) Empty) : Prop :=
  g.EachNode fun node => ∃ kind children, Employs kind ∧ node.IsOf kind children

theorem holds_employed (kind : Kind (Term F) Empty) (employs : Employs kind)
    (g : Grammar (Term F) Empty) (given : Vector NodeId kind.blueprint.arity) :
    ∃ other children, Employs other ∧ (g.assembled kind.blueprint given).IsOf other children :=
  ⟨kind, _, employs, isOf_assembled kind g given⟩

/-- An engine that has resolved the expression to `root`, and the expression with the end of
the input after it to `node`. -/
structure Prepared (engine : Engine (Term F) Empty) (root node : NodeId) : Prop where
  steady : engine.Steady
  whole : engine.grammar.Whole root node
  small : engine.grammar.size ≤ 370
  each : EachEmployed engine.grammar
  kind : engine.grammar.kind = .text
  stands : ∃ ledger, Sound (book a) ledger engine.grammar ∧
    Stands (rules a) ledger engine.grammar root (expression a).body

section

variable {engine : Engine (Term F) Empty} (isEmpty : engine.grammar = empty 0 .text)

include isEmpty

/-- The expression is resolved in an empty grammar. -/
theorem exists_resolve :
    ∃ root, (engine.resolve (rules a) (expression a)).1 = .ok root ∧
      (engine.resolve (rules a) (expression a)).2.grammar.size ≤ 368 := by
  have few := weight_rules a engine.grammar
  have capacious : 368 ≤ capacity := by decide
  have isWritten : (program a).ledger.written ⟨.parser 0, []⟩ = some (expression a).body := rfl
  have within : engine.grammar.size + unmet (program a).rules names engine.grammar +
      (expression a).body.weight ≤ 368 := by
    rw [show engine.grammar.size = 0 by rw [isEmpty]; rfl, Nat.zero_add]
    exact few
  have orderly : Orderly (program a) False (program a).ledger engine.grammar :=
    isEmpty ▸ .empty (program a) False 0 .text
  have matchable : ∀ data,
      (∀ language, Employs (.literal (.ofText language) data : Kind (Term F) Empty)) →
      ∃ blueprint : Blueprint (Term F) Empty,
        data.blueprint? engine.grammar.kind = .ok blueprint := by
    intro data employed
    obtain found | _ := employed Pattern.language
    rw [isEmpty]
    exact found
  obtain ⟨root, resolved, size⟩ := orderly.exists_resolve (fun name _ => employed_rules a name)
    (rules_node a) matchable isWritten (employed_expression a) (within.trans capacious)
  exact ⟨root, resolved, size.trans within⟩

theorem each_of_resolve : EachEmployed (engine.resolve (rules a) (expression a)).2.grammar := by
  have none : EachEmployed engine.grammar := isEmpty ▸ .empty 0 .text
  have tidy : engine.grammar.Tidy := isEmpty ▸ .empty 0 .text
  exact none.resolve tidy (fun name _ => (employed_rules a name).made NoHandle)
    ((employed_expression a).made NoHandle) holds_employed _

/-- The expression is resolved in an engine that has not been used, and so is the expression
with the end of the input after it. -/
theorem exists_prepared [BEq (Term F)] (consistent : engine.Consistent)
    (forgets : ∀ root, engine.consuming.find? root = none) :
    ∃ root node later, engine.resolveWhole (rules a) (expression a) = (.ok node, later) ∧
      Prepared a later root node := by
  obtain ⟨root, resolved, size⟩ := exists_resolve a isEmpty
  obtain ⟨small, stays, _⟩ := consistent.resolved resolved
  have history : Continues (book a) (empty 0 .text) engine.grammar := isEmpty ▸ .here
  obtain ⟨_, _, isKind, ledger, sound, _, stands⟩ :=
    Engine.continues_of_resolve history rfl (Prod.ext resolved rfl)
  have middle := consistent.resolve (stockOnly a).genuine
  have capacious : 370 ≤ capacity := by decide
  obtain ⟨consistentThen, full | ⟨node, found⟩⟩ := middle.wholeInput (rules a) small stays
  · omega
  · have isWhole := Engine.resolveWhole_of_ok resolved
    have unknown : (engine.resolve (rules a) (expression a)).2.consuming.find? root = none :=
      forgets root
    have grammar := Engine.wholeInput_grammar (rules a) unknown
    obtain ⟨_, whole⟩ := consistent.whole_of_resolveWhole (stockOnly a).genuine resolved
      (isWhole ▸ found)
    rw [isWhole] at whole
    obtain ⟨last, soundThen, more⟩ := sound.continues (.consumer small .here)
    refine ⟨root, node, _, isWhole.trans (Prod.ext found rfl), consistentThen.steady, whole, ?_, ?_,
      ?_, ?_⟩
    · rw [grammar]
      exact (middle.steady.tidy.size_consume_le ..).trans (Nat.add_le_add_right size 2)
    · rw [grammar]
      exact (each_of_resolve a isEmpty).resolve middle.steady.tidy
        (fun _ impossible => impossible.elim) (employed_consume _ _) holds_employed _
    · rw [grammar]
      exact more.kind.trans isKind
    · rw [grammar]
      exact ⟨last, soundThen, more.stands _ _ small stands⟩

end

end Packrat.Calculator
