import Packrat.Proofs.Grammar.Standing
import Mathlib.Algebra.BigOperators.Fin
import Mathlib.Algebra.Order.BigOperators.Group.Finset
import Mathlib.Logic.Relation

/-!
# The structure of parsers

A parser that has no circles and is made of nodes that may be shared has a `Shape`: the
names, the descriptions of leaves, and the shapes of the children in their order.  Rules,
delayed parsers and handles are seen through.  A shape is spelled out by its key, and no
two shapes have the same key.
-/

namespace Packrat

/-- The structure of a parser. -/
inductive Shape where
  | leaf (name description : String)
  | branch (name : String) (count : Nat) (children : Fin count → Shape)

/-- The key that nodes of this shape are shared under. -/
def Shape.key : Shape → String
  | leaf name description => leafKey name description
  | branch name _ children => branchKey name (List.ofFn fun index => (children index).key)

/-- How many nodes there are. -/
def Shape.size : Shape → Nat
  | leaf _ _ => 1
  | branch _ _ children => 1 + ∑ index, (children index).size

theorem Shape.size_child_lt (name : String) {count : Nat} (children : Fin count → Shape)
    (index : Fin count) : (children index).size < (branch name count children).size := by
  have := Finset.single_le_sum (fun each _ => Nat.zero_le (children each).size)
    (Finset.mem_univ index)
  rw [size]
  omega

theorem Shape.getLast?_key (shape : Shape) : shape.key.toList.getLast? ≠ some '(' := by
  cases shape with
  | leaf name description => exact getLast?_leafKey name description
  | branch name count children => exact getLast?_branchKey name _

/-- A key says what the shape is, whatever is in the names and descriptions. -/
theorem Shape.key_injective : Function.Injective Shape.key := by
  intro shape
  induction shape with
  | leaf name description =>
      intro other same
      cases other with
      | leaf => obtain ⟨rfl, rfl⟩ := leafKey_inj same; rfl
      | branch => exact absurd same (leafKey_ne_branchKey _ _ _ _)
  | branch name count children induction =>
      intro other same
      cases other with
      | leaf => exact absurd same.symm (leafKey_ne_branchKey _ _ _ _)
      | branch otherName otherCount others =>
          have closed : ∀ {count : Nat} (children : Fin count → Shape),
              ∀ key ∈ List.ofFn fun index => (children index).key,
                key.toList.getLast? ≠ some '(' := by
            intro count children key member
            obtain ⟨index, rfl⟩ := List.mem_ofFn.mp member
            exact (children index).getLast?_key
          obtain ⟨rfl, keys⟩ := branchKey_inj (closed children) (closed others) same
          obtain rfl : count = otherCount := by simpa using congrArg List.length keys
          have each := List.ofFn_inj.mp keys
          congr
          funext index
          exact induction index (congrFun each index)

namespace Reference

variable {ω ρ : Type}

/-- What is written in a reference, or what it stands for. -/
def Part (rules : Rules ω ρ) (reference part : Reference ω ρ) : Prop :=
  (∃ index, reference.part? index = some part) ∨ Opens rules reference part

/-- What a reference leads to, by way of nodes and of rules. -/
abbrev Meets (rules : Rules ω ρ) : Reference ω ρ → Reference ω ρ → Prop :=
  Relation.ReflTransGen (Part rules)

/-- What a reference leads to by way of rules alone. -/
abbrev Returns (rules : Rules ω ρ) : Reference ω ρ → Reference ω ρ → Prop :=
  Relation.ReflTransGen (Opens rules)

theorem Returns.meets {rules : Rules ω ρ} {reference other : Reference ω ρ}
    (returns : Returns rules reference other) : Meets rules reference other := by
  induction returns with
  | refl => exact .refl
  | tail _ opens induction => exact induction.tail (.inr opens)

theorem Opens.part?_eq {rules : Rules ω ρ} {reference body : Reference ω ρ}
    (opens : Opens rules reference body) (index : Nat) : reference.part? index = none := by
  cases opens <;> rfl

/-- What is unfolded has no other part than what it stands for. -/
theorem Opens.part_eq {rules : Rules ω ρ} {reference body part : Reference ω ρ}
    (opens : Opens rules reference body) (isPart : Part rules reference part) : part = body := by
  rcases isPart with ⟨index, found⟩ | otherOpens
  · rw [opens.part?_eq] at found
    cases found
  · exact otherOpens.unique opens

namespace Builds

variable {rules : Rules ω ρ} {input : InputKind} {reference : Reference ω ρ}
  {blueprint : Blueprint ω ρ} {children : Fin blueprint.arity → Reference ω ρ}
  (builds : Builds input reference blueprint children)

include builds

theorem not_opens (body : Reference ω ρ) : ¬Opens rules reference body := by
  intro opens
  cases builds <;> cases opens

theorem part (index : Fin blueprint.arity) : Part rules reference (children index) :=
  .inl ⟨index, builds.part?_eq index⟩

/-- What is built from its children has no other parts. -/
theorem exists_of_part {part : Reference ω ρ} (isPart : Part rules reference part) :
    ∃ index, part = children index := by
  rcases isPart with ⟨index, found⟩ | opens
  · cases builds with
    | literal => cases found
    | node | sequence =>
        unfold part? at found
        obtain ⟨inside, same⟩ := Option.dite_none_right_eq_some.mp found
        exact ⟨⟨index, inside⟩, (Option.some.inj same).symm⟩
  · exact absurd opens (builds.not_opens part)

theorem unique {other : Blueprint ω ρ} {others : Fin other.arity → Reference ω ρ}
    (otherBuilds : Builds input reference other others) :
    (⟨blueprint, children⟩ : (b : Blueprint ω ρ) × (Fin b.arity → Reference ω ρ)) =
      ⟨other, others⟩ := by
  cases builds with
  | node => cases otherBuilds; rfl
  | sequence => cases otherBuilds; rfl
  | literal shape =>
      cases otherBuilds with
      | literal otherShape =>
          obtain rfl := Except.ok.inj (shape.symm.trans otherShape)
          have none := Kind.blueprint_literal shape
          subst none
          congr
          funext index
          exact index.elim0

end Builds

end Reference

namespace Grammar

open Reference

variable {ω ρ : Type}

/-- A slot leads to a node of this shape. -/
inductive Shows (g : Grammar ω ρ) : NodeId → Shape → Prop where
  | leaf {id : NodeId} {node : Resolved ω ρ} :
      g.node? id = some node → node.key ≠ none → node.children = [] →
      Shows g id (.leaf node.name node.description)
  | branch {id : NodeId} {node : Resolved ω ρ} {count : Nat} {ids : Fin count → NodeId}
      {shapes : Fin count → Shape} :
      g.node? id = some node → node.key ≠ none → count ≠ 0 → node.children = List.ofFn ids →
      (∀ index, Shows g (ids index) (shapes index)) →
      Shows g id (.branch node.name count shapes)

theorem Shows.unique {g : Grammar ω ρ} {id : NodeId} {shape other : Shape}
    (shows : Shows g id shape) (otherShows : Shows g id other) : shape = other := by
  induction shows generalizing other with
  | leaf found _ childless =>
      cases otherShows with
      | leaf otherFound =>
          obtain rfl := Option.some.inj (found.symm.trans otherFound)
          rfl
      | branch otherFound _ notLeaf isChildren =>
          obtain rfl := Option.some.inj (found.symm.trans otherFound)
          rw [childless] at isChildren
          have := congrArg List.length isChildren
          simp [notLeaf.symm] at this
  | branch found _ notLeaf isChildren _ induction =>
      cases otherShows with
      | leaf otherFound _ childless =>
          obtain rfl := Option.some.inj (found.symm.trans otherFound)
          rw [childless] at isChildren
          have := congrArg List.length isChildren
          simp [notLeaf.symm] at this
      | @branch _ _ otherCount _ shapes otherFound _ _ otherChildren each =>
          obtain rfl := Option.some.inj (found.symm.trans otherFound)
          have same := isChildren.symm.trans otherChildren
          obtain rfl := by simpa using congrArg List.length same
          cases List.ofFn_inj.mp same
          rw [funext fun index => induction index (each index)]

/-- A parser has this shape.  A handle has the shape of the node that it is for. -/
inductive Shaped (rules : Rules ω ρ) (g : Grammar ω ρ) : Reference ω ρ → Shape → Prop where
  | leaf {reference : Reference ω ρ} {blueprint : Blueprint ω ρ}
      {children : Fin blueprint.arity → Reference ω ρ} :
      Builds g.kind reference blueprint children → blueprint.cacheable = true →
      blueprint.arity = 0 → Shaped rules g reference (.leaf blueprint.name blueprint.leafText)
  | branch {reference : Reference ω ρ} {blueprint : Blueprint ω ρ}
      {children : Fin blueprint.arity → Reference ω ρ} {shapes : Fin blueprint.arity → Shape} :
      Builds g.kind reference blueprint children → blueprint.cacheable = true →
      blueprint.arity ≠ 0 → (∀ index, Shaped rules g (children index) (shapes index)) →
      Shaped rules g reference (.branch blueprint.name blueprint.arity shapes)
  | opened {reference body : Reference ω ρ} {shape : Shape} :
      Opens rules reference body → Shaped rules g body shape → Shaped rules g reference shape
  | handle {id : NodeId} {shape : Shape} :
      id.number < g.size → Shows g id shape → Shaped rules g (.handle g.number id) shape

namespace Shaped

variable {rules : Rules ω ρ} {g : Grammar ω ρ} {reference : Reference ω ρ} {shape : Shape}

theorem of_opens (shaped : Shaped rules g reference shape) {body : Reference ω ρ}
    (opens : Opens rules reference body) : Shaped rules g body shape := by
  cases shaped with
  | leaf builds | branch builds => exact absurd opens (builds.not_opens body)
  | opened otherOpens inner =>
      rw [opens.unique otherOpens]
      exact inner
  | handle => cases opens

theorem of_returns (shaped : Shaped rules g reference shape) {other : Reference ω ρ}
    (returns : Returns rules reference other) : Shaped rules g other shape := by
  induction returns with
  | refl => exact shaped
  | tail _ opens induction => exact induction.of_opens opens

theorem returned (shaped : Shaped rules g reference shape) {other : Reference ω ρ}
    (returns : Returns rules other reference) : Shaped rules g other shape := by
  induction returns using Relation.ReflTransGen.head_induction_on with
  | refl => exact shaped
  | head opens _ induction => exact .opened opens induction

/-- The shape of what is built from its children. -/
theorem of_builds (shaped : Shaped rules g reference shape) {blueprint : Blueprint ω ρ}
    {children : Fin blueprint.arity → Reference ω ρ}
    (builds : Builds g.kind reference blueprint children) :
    blueprint.cacheable = true ∧
      ((blueprint.arity = 0 ∧ shape = .leaf blueprint.name blueprint.leafText) ∨
        (blueprint.arity ≠ 0 ∧ ∃ shapes : Fin blueprint.arity → Shape,
          shape = .branch blueprint.name blueprint.arity shapes ∧
          ∀ index, Shaped rules g (children index) (shapes index))) := by
  cases shaped with
  | leaf otherBuilds cacheable childless =>
      cases builds.unique otherBuilds
      exact ⟨cacheable, .inl ⟨childless, rfl⟩⟩
  | branch otherBuilds cacheable notLeaf each =>
      cases builds.unique otherBuilds
      exact ⟨cacheable, .inr ⟨notLeaf, _, rfl, each⟩⟩
  | opened opens => exact absurd opens (builds.not_opens _)
  | handle => cases builds

theorem of_handle {number : Nat} {id : NodeId}
    (shaped : Shaped rules g (.handle number id) shape) :
    number = g.number ∧ id.number < g.size ∧ Shows g id shape := by
  cases shaped with
  | leaf builds | branch builds => cases builds
  | opened opens => cases opens
  | handle small shows => exact ⟨rfl, small, shows⟩

/-- A parser has one shape. -/
theorem unique (shaped : Shaped rules g reference shape) {other : Shape}
    (otherShaped : Shaped rules g reference other) : shape = other := by
  induction shaped generalizing other with
  | leaf builds _ childless =>
      rcases (otherShaped.of_builds builds).2 with ⟨_, same⟩ | ⟨notLeaf, _⟩
      · exact same.symm
      · exact absurd childless notLeaf
  | branch builds _ notLeaf _ induction =>
      rcases (otherShaped.of_builds builds).2 with ⟨childless, _⟩ | ⟨_, shapes, same, each⟩
      · exact absurd childless notLeaf
      · rw [same, funext fun index => induction index (each index)]
  | opened opens _ induction => exact induction (otherShaped.of_opens opens)
  | handle _ shows => exact shows.unique otherShaped.of_handle.2.2

/-- What a parser leads to has a shape too, which is no larger. -/
theorem of_meets (shaped : Shaped rules g reference shape) {other : Reference ω ρ}
    (meets : Meets rules reference other) :
    ∃ smaller, Shaped rules g other smaller ∧ smaller.size ≤ shape.size := by
  induction meets with
  | refl => exact ⟨shape, shaped, Nat.le_refl _⟩
  | tail _ isPart induction =>
      obtain ⟨smaller, there, atMost⟩ := induction
      cases there with
      | leaf builds _ childless =>
          obtain ⟨index, _⟩ := builds.exists_of_part isPart
          exact absurd index.isLt (by omega)
      | @branch reference blueprint children shapes builds _ _ each =>
          obtain ⟨index, rfl⟩ := builds.exists_of_part isPart
          have := Shape.size_child_lt blueprint.name shapes index
          exact ⟨_, each index, by omega⟩
      | opened opens inner =>
          rw [opens.part_eq isPart]
          exact ⟨_, inner, atMost⟩
      | handle =>
          rcases isPart with ⟨index, found⟩ | opens
          · cases found
          · cases opens

end Shaped

end Grammar

end Packrat
