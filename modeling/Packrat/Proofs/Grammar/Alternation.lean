import Packrat.Proofs.Grammar.Stock

/-!
# Grammars of alternatives

Rules that are alternatives of each other and of a line feed are enough to go round in
circles in every way there is.  What such a grammar holds is seen from a sketch of its
slots, since the name of a node says how it matches.
-/

namespace Packrat

variable {ω ρ : Type}

/-- Kinds of nodes that match a line feed or one of some alternatives. -/
inductive Kind.Alternates : Kind ω ρ → Prop where
  | feed (language : PatternLanguage) : Alternates (.literal (.ofText language) (.text "\n"))
  | choice (count : Nat) : Alternates (.choice count)

theorem Kind.Alternates.stock [BEq ω] [Printable ω] {kind : Kind ω ρ}
    (alternates : kind.Alternates) : kind.Stock := by
  cases alternates <;> trivial

namespace Reference.MadeOf

variable {kinds more : Kind ω ρ → Prop} {named : String → Prop} {held : Nat → NodeId → Prop}
  {reference : Reference ω ρ}

theorem mono (made : reference.MadeOf kinds named held)
    (weaker : ∀ kind, kinds kind → more kind) : reference.MadeOf more named held := by
  induction made with
  | node native isKind _ induction => exact .node native (weaker _ isKind) induction
  | literal isKind => exact .literal fun language => weaker _ (isKind language)
  | sequence isKind _ induction => exact .sequence (weaker _ isKind) induction
  | rule isNamed => exact .rule isNamed
  | delayed label _ induction => exact .delayed label induction
  | handle isHeld => exact .handle isHeld
  | parser identity _ induction => exact .parser identity induction

theorem feed : (Reference.text "\n" : Reference ω ρ).MadeOf Kind.Alternates named held :=
  .literal .feed

theorem choice {alternatives : List (Reference ω ρ)}
    (each : ∀ alternative ∈ alternatives, alternative.MadeOf Kind.Alternates named held) :
    (Reference.choice alternatives).MadeOf Kind.Alternates named held := by
  rw [Own.choice_eq]
  exact .node (fun _ => trivial) (.choice _) fun index => each _ (List.get_mem alternatives index)

end Reference.MadeOf

/-- What a slot of a grammar of alternatives holds, but for how its node matches. -/
inductive Sketch where
  | forward (target : Nat)
  | feed
  | choice (children : List Nat) (description : String) (key : Option String)
deriving DecidableEq

/-- The node that matches a line feed, under its key. -/
def Resolved.feed (key : String) : Resolved ω ρ :=
  ⟨"literal", [], quote "\n", some key, .ofMatch (Literal.attemptText "\n")⟩

def feedKey : String := "literal" ++ ":" ++ quote (quote "\n")

/-- The slot that is sketched, if the node for line feeds has this key. -/
def Sketch.slot (key : String) : Sketch → Slot ω ρ
  | forward target => .forward (.ofNat target)
  | feed => .ready (.feed key)
  | choice children description key =>
    .ready ⟨"alt", children.map .ofNat, description, key, .choice (children.map .ofNat)⟩

/-- What is to be seen of a slot of a grammar of alternatives. -/
def Slot.sketch? : Slot ω ρ → Option Sketch
  | .reserved => none
  | .forward target => some (.forward target.number)
  | .ready node =>
    if node.name = "alt" then
      some (.choice (node.children.map Index.number) node.description node.key)
    else some .feed

namespace Grammar

def Alternates (node : Resolved ω ρ) : Prop :=
  node = .feed feedKey ∨ ∃ count children, node.IsOf (.choice count) children

theorem alternates_assembled {kind : Kind ω ρ} (isKind : kind.Alternates) (g : Grammar ω ρ)
    (given : Vector NodeId kind.blueprint.arity) :
    Alternates (g.assembled kind.blueprint given) := by
  cases isKind with
  | feed =>
      obtain rfl : given = #v[] := Vector.eq_empty
      left
      rfl
  | choice count => exact .inr ⟨count, _, isOf_assembled _ g given⟩

theorem sketch?_eq_some {slot : Slot ω ρ} {sketch : Sketch}
    (alternates : ∀ node, slot = .ready node → Alternates node)
    (seen : slot.sketch? = some sketch) : slot = sketch.slot feedKey := by
  cases slot with
  | reserved => cases seen
  | forward target =>
      cases seen
      rw [Sketch.slot, Index.ofNat_number]
  | ready node =>
      rcases alternates node rfl with rfl | ⟨count, children, name, isChildren, isMatcher⟩
      · rw [Slot.sketch?, if_neg (by simp [Resolved.feed])] at seen
        cases seen
        rfl
      · obtain ⟨_, _, description, key, _⟩ := node
        simp only at name isChildren isMatcher
        subst name isChildren isMatcher
        rw [Slot.sketch?, if_pos (by rfl)] at seen
        cases seen
        simp only [Sketch.slot, Kind.name, Kind.plan, Plan.map, Plan.matcher, List.map_ofFn]
        congr 2 <;> simp [Function.comp_def]

/-- A grammar of alternatives holds what its sketches show. -/
theorem slots_eq_of_sketches {rules : Rules ω ρ} {reference : Reference ω ρ} {place : Place}
    {number : Nat} {kind : InputKind} {sketches : List Sketch}
    (closed : ∀ name, (rules name).MadeOf Kind.Alternates (fun _ => True) fun _ _ => False)
    (made : reference.MadeOf Kind.Alternates (fun _ => True) fun _ _ => False)
    (small : sketches.length ≤ capacity)
    (seen : ((empty number kind).resolve rules place reference).2.slots.toList.map Slot.sketch? =
      sketches.map some) :
    ((empty number kind).resolve rules place reference).2.slots =
      (sketches.map (Sketch.slot feedKey)).toArray := by
  have each : ((empty number kind).resolve rules place reference).2.EachNode Alternates :=
    (EachNode.empty number kind).resolve (.empty number kind) (fun name _ => closed name) made
      (fun _ isKind => alternates_assembled isKind) place
  apply Array.ext'
  apply List.ext_getElem?
  intro index
  have here := congrArg (·[index]?) seen
  simp only [List.getElem?_map] at here ⊢
  cases sketched : sketches[index]? with
  | none =>
      rw [sketched] at here
      exact Option.map_eq_none_iff.mp here
  | some sketch =>
      rw [sketched] at here
      obtain ⟨slot, there, isSketch⟩ := Option.map_eq_some_iff.mp here
      have inRange : index < capacity :=
        Nat.lt_of_lt_of_le (List.getElem?_eq_some_iff.mp sketched).choose small
      have isSlot : slot = sketch.slot feedKey := by
        apply sketch?_eq_some _ isSketch
        rintro node rfl
        rw [Array.getElem?_toList] at there
        exact each ⟨index, inRange⟩ node there
      rw [there, isSlot]
      rfl

end Grammar

end Packrat
