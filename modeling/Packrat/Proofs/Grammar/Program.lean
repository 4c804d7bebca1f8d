import Packrat.Proofs.Grammar.Shape

/-!
# Programs

A program says what the rules are and what is written at each origin.  `Lands` says of a
reference that rules alone do not lead on from it for ever, `Sane` says so of all that it
leads to.
-/

namespace Packrat

open Reference

variable {ω ρ : Type}

/-- A reference whose parsers are written where their identities say. -/
inductive Reference.Proper (texts : Origin → Option (Reference ω ρ)) : Reference ω ρ → Prop where
  | node {blueprint : Blueprint ω ρ} {children : Fin blueprint.arity → Reference ω ρ} :
      (∀ index, Proper texts (children index)) → Proper texts (.node blueprint children)
  | literal (data : Literal) : Proper texts (.literal data)
  | sequence {count : Nat} {parts : Fin count → Reference ω ρ} :
      (∀ index, Proper texts (parts index)) → Proper texts (.sequence count parts)
  | rule (name : String) : Proper texts (.rule name)
  | delayed (label : Option String) {body : Reference ω ρ} :
      Proper texts body → Proper texts (.delayed label body)
  | handle (number : Nat) (id : NodeId) : Proper texts (.handle number id)
  | parser {identity : Nat} {body : Reference ω ρ} :
      texts (.parser identity) = some body → Proper texts body →
      Proper texts (.parser identity body)

/-- The rules, and what is written at each origin. -/
structure Program (ω ρ : Type) where
  rules : Rules ω ρ
  texts : Origin → Option (Reference ω ρ)
  /-- What is written in an unfolded body is up to the grammar. -/
  outside : ∀ serial, texts (.unfolding serial) = none
  rules_proper : ∀ name, (rules name).Proper texts
  texts_proper : ∀ origin reference, texts origin = some reference → reference.Proper texts

namespace Program

variable (program : Program ω ρ)

/-- What is written before anything is unfolded. -/
def ledger : Ledger ω ρ := ⟨program.texts, fun _ _ => False⟩

theorem proper_of_opens {reference body : Reference ω ρ}
    (proper : reference.Proper program.texts) (opens : Opens program.rules reference body) :
    body.Proper program.texts := by
  cases opens with
  | rule name => exact program.rules_proper name
  | delayed => cases proper; assumption
  | parser => cases proper; assumption

theorem proper_of_part? {reference part : Reference ω ρ} {index : Nat}
    (proper : reference.Proper program.texts) (found : reference.part? index = some part) :
    part.Proper program.texts := by
  cases proper with
  | node each | sequence each =>
      unfold part? at found
      obtain ⟨inside, same⟩ := Option.dite_none_right_eq_some.mp found
      exact Option.some.inj same ▸ each ⟨index, inside⟩
  | _ => cases found

theorem proper_of_below? {whole reference : Reference ω ρ} {path : List Nat}
    (proper : whole.Proper program.texts) (found : whole.below? path = some reference) :
    reference.Proper program.texts := by
  induction path generalizing reference with
  | nil => exact Option.some.inj found ▸ proper
  | cons index path induction =>
      obtain ⟨above, foundAbove, part⟩ := Option.bind_eq_some_iff.mp found
      exact program.proper_of_part? (induction foundAbove) part

end Program

namespace Grammar

variable {rules : Rules ω ρ} {g g' : Grammar ω ρ}

/-- Rules lead from a reference to a node or to a handle. -/
inductive Lands (rules : Rules ω ρ) : Reference ω ρ → Prop where
  | node (blueprint : Blueprint ω ρ) (children : Fin blueprint.arity → Reference ω ρ) :
      Lands rules (.node blueprint children)
  | literal (data : Literal) : Lands rules (.literal data)
  | sequence (count : Nat) (parts : Fin count → Reference ω ρ) :
      Lands rules (.sequence count parts)
  | handle (number : Nat) (id : NodeId) : Lands rules (.handle number id)
  | opened {reference body : Reference ω ρ} :
      Opens rules reference body → Lands rules body → Lands rules reference

/-- All that a reference leads to lands somewhere. -/
def Sane (rules : Rules ω ρ) (reference : Reference ω ρ) : Prop :=
  ∀ other, Meets rules reference other → Lands rules other

namespace Lands

variable {reference body other : Reference ω ρ}

theorem of_builds {input : InputKind} {blueprint : Blueprint ω ρ}
    {children : Fin blueprint.arity → Reference ω ρ}
    (builds : Builds input reference blueprint children) : Lands rules reference := by
  cases builds with
  | node => exact .node _ _
  | literal => exact .literal _
  | sequence => exact .sequence _ _

theorem of_returns (lands : Lands rules other) (returns : Returns rules reference other) :
    Lands rules reference := by
  induction returns using Relation.ReflTransGen.head_induction_on with
  | refl => exact lands
  | head opens _ induction => exact .opened opens induction

/-- What lands somewhere does not come back to itself before. -/
theorem not_circular (lands : Lands rules reference) :
    ¬Relation.TransGen (Opens rules) reference reference := by
  intro circle
  -- one step on from a reference on the circle there is another one
  suffices every : ∀ {there}, Lands rules there →
      ¬Relation.TransGen (Opens rules) there there from every lands circle
  intro there landsThere
  induction landsThere with
  | opened opens _ induction =>
      intro circle
      obtain ⟨next, first, rest⟩ := Relation.TransGen.head'_iff.mp circle
      rw [opens.unique first] at induction
      exact induction (Relation.TransGen.tail' rest first)
  | _ =>
      intro circle
      obtain ⟨next, first, _⟩ := Relation.TransGen.head'_iff.mp circle
      cases first

end Lands

namespace Sane

variable {reference body : Reference ω ρ}

theorem lands (sane : Sane rules reference) : Lands rules reference := sane reference .refl

theorem of_parts (lands : Lands rules reference)
    (each : ∀ part, Part rules reference part → Sane rules part) : Sane rules reference := by
  intro last meets
  rcases Relation.ReflTransGen.cases_head meets with rfl | ⟨part, isPart, rest⟩
  · exact lands
  · exact each part isPart last rest

theorem opened (opens : Opens rules reference body) (sane : Sane rules body) :
    Sane rules reference :=
  .of_parts (.opened opens sane.lands) fun _ isPart => opens.part_eq isPart ▸ sane

theorem of_builds {input : InputKind} {blueprint : Blueprint ω ρ}
    {children : Fin blueprint.arity → Reference ω ρ}
    (builds : Builds input reference blueprint children)
    (each : ∀ index, Sane rules (children index)) : Sane rules reference := by
  apply of_parts (.of_builds builds)
  intro part isPart
  obtain ⟨index, rfl⟩ := builds.exists_of_part isPart
  exact each index

theorem of_returns (sane : Sane rules body) (returns : Returns rules reference body) :
    Sane rules reference := by
  induction returns using Relation.ReflTransGen.head_induction_on with
  | refl => exact sane
  | head opens _ induction => exact induction.opened opens

theorem handle (number : Nat) (id : NodeId) : Sane rules (.handle number id) := by
  apply of_parts (.handle number id)
  rintro part (⟨index, found⟩ | opens)
  · cases found
  · cases opens

end Sane

end Grammar

end Packrat
