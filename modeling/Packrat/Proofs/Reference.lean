import Packrat.Proofs.Combinator.Behaviour

/-!
# Reading references

A reference is read by opening the rules and parsers on the way to a node; what it is
resolved to, if it is resolved to a node directly, is of the same kind.  A `Book` holds
the rules and parsers of a program whose own nodes keep what they promise.
-/

namespace Packrat

variable {ω ρ : Type}

namespace Reference

/-- A child that is written in a node or in a sequence. -/
def part? : Reference ω ρ → Nat → Option (Reference ω ρ)
  | .node blueprint children, index =>
    if inside : index < blueprint.arity then some (children ⟨index, inside⟩) else none
  | .sequence count parts, index =>
    if inside : index < count then some (parts ⟨index, inside⟩) else none
  | _, _ => none

/-- What is written at the end of a path down from a reference. -/
def below? (reference : Reference ω ρ) : List Nat → Option (Reference ω ρ)
  | [] => some reference
  | index :: path => (reference.below? path).bind fun above => above.part? index

/-- What a rule, a delayed parser or a parser stands for. -/
inductive Opens (rules : Rules ω ρ) : Reference ω ρ → Reference ω ρ → Prop where
  | rule (name : String) : Opens rules (.rule name) (rules name)
  | delayed (label : Option String) (body : Reference ω ρ) : Opens rules (.delayed label body) body
  | parser (identity : Nat) (body : Reference ω ρ) : Opens rules (.parser identity body) body

theorem Opens.unique {rules : Rules ω ρ} {reference body other : Reference ω ρ}
    (opens : Opens rules reference body) (otherOpens : Opens rules reference other) :
    body = other := by
  cases opens <;> cases otherOpens <;> rfl

/-- The node of a kind that a reference stands for in grammars for some kind of input, once
rules and parsers on the way are opened, and the children of the node as they are
written. -/
inductive Reads (input : InputKind) (rules : Rules ω ρ) : Reference ω ρ → (kind : Kind ω ρ) →
    (Fin kind.arity → Reference ω ρ) → Prop where
  | node (kind : Kind ω ρ) (children : Fin kind.arity → Reference ω ρ) :
      kind.Native input → Reads input rules (.node kind.blueprint children) kind children
  | literal (data : Literal) : Reads input rules (.literal data) (.literal input data) nofun
  | sequence (count : Nat) (parts : Fin count → Reference ω ρ) :
      Reads input rules (.sequence count parts) (.sequence count) parts
  | opened {reference body : Reference ω ρ} {kind : Kind ω ρ}
      {children : Fin kind.arity → Reference ω ρ} :
      Opens rules reference body → Reads input rules body kind children →
      Reads input rules reference kind children

namespace Reads

variable {input : InputKind} {rules : Rules ω ρ} {reference body : Reference ω ρ}
  {kind : Kind ω ρ} {children : Fin kind.arity → Reference ω ρ}

theorem native (reads : Reads input rules reference kind children) : kind.Native input := by
  induction reads with
  | node _ _ native => exact native
  | literal => rfl
  | sequence => trivial
  | opened _ _ induction => exact induction

theorem of_opens (reads : Reads input rules reference kind children)
    (opens : Opens rules reference body) : Reads input rules body kind children := by
  cases reads with
  | opened otherOpens rest =>
      rw [opens.unique otherOpens]
      exact rest
  | node => cases opens
  | literal => cases opens
  | sequence => cases opens

end Reads

/-- The kind of node that a reference is resolved to, and its children as they are
written. -/
inductive Builds (input : InputKind) : Reference ω ρ → (blueprint : Blueprint ω ρ) →
    (Fin blueprint.arity → Reference ω ρ) → Prop where
  | node (blueprint : Blueprint ω ρ) (children : Fin blueprint.arity → Reference ω ρ) :
      Builds input (.node blueprint children) blueprint children
  | literal {data : Literal} {blueprint : Blueprint ω ρ} :
      data.blueprint? input = .ok blueprint →
      ∀ children : Fin blueprint.arity → Reference ω ρ,
        Builds input (.literal data) blueprint children
  | sequence (count : Nat) (parts : Fin count → Reference ω ρ) :
      Builds input (.sequence count parts) (.sequence count) parts

/-- A reference whose nodes keep the promises that they make, and whose parsers are those
that go by their identities. -/
inductive Faithful (parsers : Nat → Reference ω ρ) : Reference ω ρ → Prop where
  | node {blueprint : Blueprint ω ρ} {children : Fin blueprint.arity → Reference ω ρ} :
      (∀ input, blueprint.Honest input) → (∀ index, Faithful parsers (children index)) →
      Faithful parsers (.node blueprint children)
  | literal (data : Literal) : Faithful parsers (.literal data)
  | sequence {count : Nat} {parts : Fin count → Reference ω ρ} :
      (∀ index, Faithful parsers (parts index)) → Faithful parsers (.sequence count parts)
  | rule (name : String) : Faithful parsers (.rule name)
  | delayed (label : Option String) {body : Reference ω ρ} :
      Faithful parsers body → Faithful parsers (.delayed label body)
  | handle (number : Nat) (id : NodeId) : Faithful parsers (.handle number id)
  | parser (identity : Nat) : Faithful parsers (parsers identity) →
      Faithful parsers (.parser identity (parsers identity))

/-- The library's own nodes keep their promises. -/
theorem Faithful.own {parsers : Nat → Reference ω ρ} (kind : Kind ω ρ)
    {children : Fin kind.arity → Reference ω ρ} (native : ∀ input, kind.Native input)
    (each : ∀ index, (children index).Faithful parsers) :
    (Reference.node kind.blueprint children).Faithful parsers :=
  .node (fun input => kind.blueprint_honest (native input)) each

namespace Builds

variable {input : InputKind} {reference : Reference ω ρ} {blueprint : Blueprint ω ρ}
  {children : Fin blueprint.arity → Reference ω ρ}

theorem part?_eq (builds : Builds input reference blueprint children)
    (index : Fin blueprint.arity) : reference.part? index = some (children index) := by
  cases builds with
  | node => exact dif_pos index.isLt
  | literal shape =>
      have none := Kind.blueprint_literal shape
      subst none
      exact index.elim0
  | sequence => exact dif_pos index.isLt

theorem faithful {parsers : Nat → Reference ω ρ}
    (builds : Builds input reference blueprint children)
    (isFaithful : reference.Faithful parsers) :
    blueprint.Honest input ∧ ∀ index, (children index).Faithful parsers := by
  cases builds with
  | node =>
      cases isFaithful with
      | node honest each => exact ⟨honest input, each⟩
  | literal shape =>
      have none := Kind.blueprint_literal shape
      subst none
      exact ⟨Kind.blueprint_honest _ rfl, fun index => index.elim0⟩
  | sequence count =>
      cases isFaithful with
      | sequence each =>
          refine ⟨?_, each⟩
          rw [← Kind.blueprint_sequence]
          exact Kind.blueprint_honest _ trivial

/-- What a reference is resolved to is what it is read as. -/
theorem eq_of_reads {rules : Rules ω ρ} {kind : Kind ω ρ}
    {parts : Fin kind.arity → Reference ω ρ}
    (builds : Builds input reference blueprint children)
    (reads : Reads input rules reference kind parts) :
    (⟨blueprint, children⟩ : (b : Blueprint ω ρ) × (Fin b.arity → Reference ω ρ)) =
      ⟨kind.blueprint, parts⟩ := by
  cases builds with
  | node =>
      cases reads with
      | node => rfl
      | opened opens => cases opens
  | literal shape =>
      have same := Kind.blueprint_literal shape
      subst same
      cases reads with
      | literal =>
          congr
          funext index
          exact index.elim0
      | opened opens => cases opens
  | sequence count =>
      cases reads with
      | sequence => exact Sigma.ext (Kind.blueprint_sequence count).symm HEq.rfl
      | opened opens => cases opens

end Builds

end Reference

/-- The rules and the parsers of a program. -/
structure Book (ω ρ : Type) where
  rules : Rules ω ρ
  parsers : Nat → Reference ω ρ
  rule_faithful : ∀ name, (rules name).Faithful parsers
  parser_faithful : ∀ identity, (parsers identity).Faithful parsers

theorem Book.opens_faithful (book : Book ω ρ) {reference body : Reference ω ρ}
    (faithful : reference.Faithful book.parsers)
    (opens : Reference.Opens book.rules reference body) : body.Faithful book.parsers := by
  cases opens with
  | rule name => exact book.rule_faithful name
  | delayed label =>
      cases faithful with
      | delayed _ inner => exact inner
  | parser identity =>
      cases faithful with
      | parser _ inner => exact inner

end Packrat
