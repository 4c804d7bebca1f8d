import Packrat.Proofs.Combinator.Plan
import Mathlib.Data.List.OfFn

/-!
# The library's own nodes

A `Kind` is a kind of node that the library has itself.  Everything that a parser written
with the library's leaves and combinators consists of is a node of some kind, a literal,
a sequence, or a rule or parser that stands for one; `Reference.Own` says so, and the
lemmas after it go through the ways to write a parser.
-/

namespace Packrat

variable {ω ρ : Type}

/-- A literal that can be matched is matched as text, or as the pattern that the language of
the input makes of it. -/
theorem Literal.attempt?_cases {kind : InputKind} {data : Literal} {name : String}
    {attempt : Input ω → Nat → Match (Value ω)}
    (isLeaf : data.attempt? kind = .ok (name, attempt)) :
    (∃ content, data = .text content ∧ name = "literal" ∧ attempt = attemptText content) ∨
    ∃ expression finder, data = .pattern expression ∧ name = "pattern" ∧
      attempt = attemptPattern expression finder := by
  cases kind with
  | tokens => cases data <;> cases isLeaf
  | ofText language =>
      cases data with
      | text content =>
          cases isLeaf
          exact .inl ⟨content, rfl, rfl, rfl⟩
      | pattern expression =>
          rw [attempt?] at isLeaf
          cases compiled : language.compile? (anchored expression) with
          | none =>
              rw [compiled] at isLeaf
              cases isLeaf
          | some finder =>
              rw [compiled] at isLeaf
              cases isLeaf
              exact .inr ⟨expression, finder, rfl, rfl, rfl⟩

/-- The kinds of nodes that the library has. -/
inductive Kind (ω ρ : Type) where
  | any
  | endOfInput
  | identifier
  /-- Literal text or a pattern, in grammars for some kind of input. -/
  | literal (input : InputKind) (data : Literal)
  /-- A leaf with something of the caller's in it. -/
  | leaf (name label : String) (attempt : Input ω → Nat → Match (Value ω))
  | choice (count : Nat)
  | optional
  | optionalOr (default : Value ω)
  | ahead
  | notAhead
  | repeated (bounds : Bounds)
  | separated (bounds : Bounds)
  | tryChain (combine : Combine ω ρ)
  | keepSecond
  | keepFirst
  | consume
  | sequence (count : Nat)
  /-- A function of the caller's on what is matched. -/
  | transform (name message : String) (f : Transform ω ρ)
  | discard
  | onFail (message : String)

namespace Kind

def name : Kind ω ρ → String
  | any => "any"
  | endOfInput => "end"
  | identifier => "identifier"
  | literal _ (.text _) => "literal"
  | literal _ (.pattern _) => "pattern"
  | leaf name _ _ => name
  | choice _ => "alt"
  | optional => "optional"
  | optionalOr _ => "optional_or"
  | ahead => "check"
  | notAhead => "not"
  | repeated bounds => "repeat" ++ bounds.suffix
  | separated bounds => "separated" ++ bounds.suffix
  | tryChain _ => "chain"
  | keepSecond => "then"
  | keepFirst => "skip"
  | consume => "consume"
  | sequence _ => "sequence"
  | transform name _ _ => name
  | discard => "discard"
  | onFail _ => "on_fail"

def arity : Kind ω ρ → Nat
  | any | endOfInput | identifier | literal .. | leaf .. => 0
  | choice count | sequence count => count
  | optional | optionalOr _ | ahead | notAhead | repeated _ | transform .. | discard
  | onFail _ => 1
  | separated _ | tryChain _ | keepSecond | keepFirst | consume => 2

def cacheable : Kind ω ρ → Bool
  | leaf .. | optionalOr _ | tryChain _ | transform .. | onFail _ => false
  | choice count | sequence count => count != 0
  | _ => true

/-- Whether nodes of a kind are found in grammars for a kind of input: a literal is matched
as the grammar that it is resolved in says. -/
def Native (input : InputKind) : Kind ω ρ → Prop
  | literal other _ => other = input
  | _ => True

def describe : Kind ω ρ → Describe
  | any => .label "any"
  | endOfInput => .label "end"
  | identifier => .label "identifier"
  | literal _ data => .label data.display
  | leaf _ label _ => .label label
  | choice _ => .between " | "
  | optional => .followedBy "?"
  | repeated bounds => .followedBy bounds.suffix
  | tryChain _ | keepSecond | keepFirst | consume | sequence _ => .between " "
  | _ => .named

/-- How a literal is matched in grammars for a kind of input. -/
def attemptLiteral (kind : InputKind) (data : Literal) (input : Input ω) (position : Nat) :
    Match (Value ω) :=
  match (Literal.attempt? kind data :
      Except String (String × (Input ω → Nat → Match (Value ω)))) with
  | .ok (_, attempt) => attempt input position
  | .error message => .failure message (.point position)

/-- What a node of a kind does with its children. -/
def plan : (kind : Kind ω ρ) → Plan (Fin kind.arity) ω ρ
  | any => .leaf fun input position =>
    match input.item? position with
    | some found => .success (.between position (position + 1)) found
    | none => .failure "unexpected end of input" (.point position)
  | endOfInput => .leaf fun input position =>
    if input.isEnd position then .success (.point position) .unit
    else .failure "expected end of input" (.point position)
  | identifier => .leaf (Lettering.attempt .unicode)
  | literal kind data => .leaf (attemptLiteral kind data)
  | leaf _ _ attempt => .leaf attempt
  | choice _ => .choice (List.ofFn id)
  | optional => .optional ⟨0, Nat.one_pos⟩ .present .absent
  | optionalOr default => .optional ⟨0, Nat.one_pos⟩ id default
  | ahead => .ahead ⟨0, Nat.one_pos⟩
  | notAhead => .notAhead ⟨0, Nat.one_pos⟩
  | repeated bounds => .repeated bounds ⟨0, Nat.one_pos⟩
  | separated bounds => .separated bounds ⟨0, Nat.two_pos⟩ ⟨1, Nat.one_lt_two⟩
  | tryChain combine => .pair ⟨0, Nat.two_pos⟩ ⟨1, Nat.one_lt_two⟩ combine
  | keepSecond => .pair ⟨0, Nat.two_pos⟩ ⟨1, Nat.one_lt_two⟩ fun _ value => .result (some value)
  | keepFirst => .pair ⟨0, Nat.two_pos⟩ ⟨1, Nat.one_lt_two⟩ fun value _ => .result (some value)
  | consume => .pair ⟨0, Nat.two_pos⟩ ⟨1, Nat.one_lt_two⟩ fun value _ => .result (some value)
  | sequence _ => .sequence (List.ofFn id)
  | transform _ message f => .transform ⟨0, Nat.one_pos⟩ message f
  | discard => .transform ⟨0, Nat.one_pos⟩ rejected fun _ _ => .result (some .unit)
  | onFail message => .onFail ⟨0, Nat.one_pos⟩ message

/-- The kind as nodes are made from it. -/
def blueprint (kind : Kind ω ρ) : Blueprint ω ρ :=
  ⟨kind.name, kind.arity, kind.cacheable, kind.describe,
    fun children => (kind.plan.map children).matcher⟩

theorem blueprint_sequence (count : Nat) :
    (sequence count : Kind ω ρ).blueprint = .sequence count := by
  simp [blueprint, Blueprint.sequence, plan, Plan.map, Plan.matcher, name, arity, cacheable,
    describe, List.map_ofFn]

/-- A literal that can be matched is a leaf of its own kind. -/
theorem blueprint_literal {input : InputKind} {data : Literal} {b : Blueprint ω ρ}
    (shape : data.blueprint? input = .ok b) : b = (literal input data : Kind ω ρ).blueprint := by
  rw [Literal.blueprint?] at shape
  cases attempted : (Literal.attempt? input data :
      Except String (String × (Input ω → Nat → Match (Value ω)))) with
  | error message =>
      rw [attempted] at shape
      cases shape
  | ok leaf =>
      obtain ⟨name, attempt⟩ := leaf
      have attempts : (attemptLiteral input data : Input ω → Nat → Match (Value ω)) = attempt := by
        funext place position
        rw [attemptLiteral, attempted]
      have isName : name = (literal input data : Kind ω ρ).name := by
        rcases Literal.attempt?_cases attempted with ⟨content, rfl, rfl, _⟩ |
          ⟨expression, finder, rfl, rfl, _⟩ <;> rfl
      rw [attempted] at shape
      cases shape
      simp [blueprint, plan, Plan.map, Plan.matcher, isName, arity, cacheable, describe, attempts]

end Kind

namespace Reference

/-- A parser that is written with the library's own leaves and combinators, and refers to
no rules and no resolved nodes but these. -/
inductive Own (named : String → Prop) (held : Nat → NodeId → Prop) : Reference ω ρ → Prop where
  | node (kind : Kind ω ρ) {children : Fin kind.arity → Reference ω ρ} :
      (∀ input, kind.Native input) → (∀ index, Own named held (children index)) →
      Own named held (.node kind.blueprint children)
  | literal (data : Literal) : Own named held (.literal data)
  | sequence {count : Nat} {parts : Fin count → Reference ω ρ} :
      (∀ index, Own named held (parts index)) → Own named held (.sequence count parts)
  | rule {name : String} : named name → Own named held (.rule name)
  | delayed (label : Option String) {body : Reference ω ρ} :
      Own named held body → Own named held (.delayed label body)
  | handle {number : Nat} {id : NodeId} : held number id → Own named held (.handle number id)
  | parser (identity : Nat) {body : Reference ω ρ} :
      Own named held body → Own named held (.parser identity body)

/-- Of the nodes that are resolved already, none. -/
def NoHandle (_ : Nat) (_ : NodeId) : Prop := False

namespace Own

variable {named : String → Prop} {held : Nat → NodeId → Prop} {first second body : Reference ω ρ}

theorem leaf (name label : String) (attempt : Input ω → Nat → Match (Value ω)) :
    (Reference.leaf name label false attempt : Reference ω ρ).Own named held :=
  .node (.leaf name label attempt) (fun _ => trivial) nofun

theorem item [BEq ω] [Printable ω] (expected : Value ω) :
    (Reference.item expected : Reference ω ρ).Own named held := leaf ..

theorem satisfy (name : String) (accepts : Value ω → Bool) :
    (Reference.satisfy name accepts : Reference ω ρ).Own named held := leaf ..

theorem succeed (value : Value ω) : (Reference.succeed value : Reference ω ρ).Own named held :=
  leaf ..

theorem fail (message : String) : (Reference.fail message : Reference ω ρ).Own named held :=
  leaf ..

theorem any : (Reference.any : Reference ω ρ).Own named held := .node .any (fun _ => trivial) nofun

theorem endOfInput : (Reference.endOfInput : Reference ω ρ).Own named held :=
  .node .endOfInput (fun _ => trivial) nofun

theorem identifier : (Reference.identifier : Reference ω ρ).Own named held :=
  .node .identifier (fun _ => trivial) nofun

theorem text (content : String) : (Reference.text content : Reference ω ρ).Own named held :=
  .literal _

theorem pattern (expression : String) :
    (Reference.pattern expression : Reference ω ρ).Own named held := .literal _

theorem ofList {parts : List (Reference ω ρ)} (own : ∀ part ∈ parts, part.Own named held) :
    (Reference.ofList parts).Own named held :=
  .sequence fun index => own _ (List.get_mem parts index)

/-- A list of alternatives is written with the node of its length. -/
theorem choice_eq (alternatives : List (Reference ω ρ)) :
    choice alternatives =
      .node (Kind.choice alternatives.length).blueprint alternatives.get := by
  have flag : (!alternatives.isEmpty) = (alternatives.length != 0) := by
    cases alternatives <;> rfl
  simp [choice, nary, Kind.blueprint, Kind.plan, Plan.map, Plan.matcher, Kind.name, Kind.arity,
    Kind.cacheable, Kind.describe, List.map_ofFn, flag]

theorem choice {alternatives : List (Reference ω ρ)}
    (own : ∀ alternative ∈ alternatives, alternative.Own named held) :
    (Reference.choice alternatives).Own named held := by
  rw [choice_eq]
  exact .node _ (fun _ => trivial) fun index => own _ (List.get_mem alternatives index)

theorem orElse (own : first.Own named held) (other : second.Own named held) :
    (Reference.orElse first second).Own named held := by
  refine choice fun alternative member => ?_
  rcases List.mem_cons.mp member with rfl | last
  · exact own
  · rw [List.mem_singleton.mp last]
    exact other

theorem optional (own : body.Own named held) : (Reference.optional body).Own named held :=
  .node .optional (fun _ => trivial) fun _ => own

theorem optionalOr (default : Value ω) (own : body.Own named held) :
    (Reference.optionalOr default body).Own named held :=
  .node (.optionalOr default) (fun _ => trivial) fun _ => own

theorem ahead (own : body.Own named held) : (Reference.ahead body).Own named held :=
  .node .ahead (fun _ => trivial) fun _ => own

theorem notAhead (own : body.Own named held) : (Reference.notAhead body).Own named held :=
  .node .notAhead (fun _ => trivial) fun _ => own

theorem repeated (bounds : Bounds) (own : body.Own named held) :
    (Reference.repeated bounds body).Own named held :=
  .node (.repeated bounds) (fun _ => trivial) fun _ => own

theorem many (own : body.Own named held) : (Reference.many body).Own named held :=
  own.repeated _

theorem many1 (own : body.Own named held) : (Reference.many1 body).Own named held :=
  own.repeated _

theorem both (own : first.Own named held) (other : second.Own named held) (index : Fin 2) :
    (if index = 0 then first else second).Own named held := by
  split
  next => exact own
  next => exact other

theorem separated (bounds : Bounds) (own : first.Own named held)
    (other : second.Own named held) : (Reference.separated bounds first second).Own named held :=
  .node (.separated bounds) (fun _ => trivial) (own.both other)

theorem tryChain (combine : Combine ω ρ) (own : first.Own named held)
    (other : second.Own named held) : (Reference.tryChain combine first second).Own named held :=
  .node (.tryChain combine) (fun _ => trivial) (own.both other)

theorem chain (combine : Value ω → Value ω → Value ω) (own : first.Own named held)
    (other : second.Own named held) : (Reference.chain combine first second).Own named held :=
  own.tryChain _ other

theorem keepSecond (own : first.Own named held) (other : second.Own named held) :
    (Reference.keepSecond first second).Own named held :=
  .node .keepSecond (fun _ => trivial) (own.both other)

theorem keepFirst (own : first.Own named held) (other : second.Own named held) :
    (Reference.keepFirst first second).Own named held :=
  .node .keepFirst (fun _ => trivial) (own.both other)

theorem consume (own : body.Own named held) : (Reference.consume body).Own named held :=
  .node .consume (fun _ => trivial) (own.both endOfInput)

theorem transform (name message : String) (f : Transform ω ρ) (own : body.Own named held) :
    (Reference.transform name false message f body).Own named held :=
  .node (.transform name message f) (fun _ => trivial) fun _ => own

theorem map (f : Value ω → Value ω) (own : body.Own named held) :
    (Reference.map f body).Own named held :=
  own.transform ..

theorem mapAct (f : Value ω → Span → Act ω ρ (Value ω)) (own : body.Own named held) :
    (Reference.mapAct f body).Own named held := own.transform ..

theorem mapWithSpan (f : Value ω → Span → Value ω) (own : body.Own named held) :
    (Reference.mapWithSpan f body).Own named held := own.transform ..

theorem tryMap (f : Value ω → Span → Option (Value ω)) (own : body.Own named held) :
    (Reference.tryMap f body).Own named held := own.transform ..

theorem replace (value : Value ω) (own : body.Own named held) :
    (Reference.replace value body).Own named held := own.transform ..

theorem filter (message : String) (accepts : Value ω → Bool) (own : body.Own named held) :
    (Reference.filter message accepts body).Own named held := own.transform ..

theorem discard (own : body.Own named held) : (Reference.discard body).Own named held :=
  .node .discard (fun _ => trivial) fun _ => own

theorem onFail (message : String) (own : body.Own named held) :
    (Reference.onFail message body).Own named held :=
  .node (.onFail message) (fun _ => trivial) fun _ => own

end Own

end Reference

end Packrat
