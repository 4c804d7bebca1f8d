import Packrat.Proofs.Grammar.Calls

/-!
# Which parsers share a node

Two parsers that have been resolved are one node exactly if their structure is the same,
however long ago the first of them was resolved and whatever has been resolved, or has
failed to be, in between.
-/

namespace Packrat

namespace Grammar

variable {ω ρ : Type}

/-- Of two parsers that are made of nodes which may be shared, and that do not lead to
themselves, one is resolved to the same node as the other exactly if they have the same
shape, and a handle for the node has that shape.  No call that failed may have had handles
for slots that it made itself. -/
theorem same_node_iff_same_shape {program : Program ω ρ} {number : Nat} {kind : InputKind}
    {first second : Grammar ω ρ} (history : program.Calls True (.empty number kind) first)
    {place : Place} {reference : Reference ω ρ} (admits : program.Admits True first place reference)
    {id : NodeId} (resolved : (first.resolve program.rules place reference).1 = .ok id)
    (between : program.Calls True (first.resolve program.rules place reference).2 second)
    {otherPlace : Place} {other : Reference ω ρ}
    (otherAdmits : program.Admits True second otherPlace other) {otherId : NodeId}
    (otherResolved : (second.resolve program.rules otherPlace other).1 = .ok otherId)
    {shape otherShape : Shape}
    (shaped : Shaped program.rules (second.resolve program.rules otherPlace other).2 reference
      shape)
    (otherShaped : Shaped program.rules (second.resolve program.rules otherPlace other).2 other
      otherShape) :
    (id = otherId ↔ shape = otherShape) ∧
      Shaped program.rules (second.resolve program.rules otherPlace other).2
        ((second.resolve program.rules otherPlace other).2.handle id) shape := by
  obtain ⟨_, orderly, _⟩ := (Orderly.empty program True number kind).calls history
  obtain ⟨_, _, orderly, answer, stays⟩ := orderly.succeed admits.written resolved
  obtain ⟨_, orderlyHere, grows, made⟩ := orderly.calls between
  have remains := Remains.of_grows grows orderly.tidy orderlyHere.tidy
  have answerHere := orderly.answer_transfer answer remains made
  obtain ⟨_, more, orderlyThen, otherAnswer, otherStays⟩ :=
    orderlyHere.succeed otherAdmits.written otherResolved
  have remainsThen := Remains.of_grows
    (orderlyHere.tidy.grows_resolve program.rules otherPlace other) orderlyHere.tidy
    orderlyThen.tidy
  have answerThen := orderlyHere.answer_transfer answerHere remainsThen more.made
  have staysThen : (second.resolve program.rules otherPlace other).2.follow id = id :=
    (orderly.follow_eq answer (remains.trans remainsThen)).trans stays
  have found := orderlyThen.shared_of_shaped trivial answerThen shaped
  have otherFound := orderlyThen.shared_of_shaped trivial otherAnswer otherShaped
  rw [staysThen] at found
  rw [otherStays] at otherFound
  refine ⟨⟨?_, ?_⟩, orderlyThen.shaped_handle trivial answerThen shaped⟩
  · rintro rfl
    obtain ⟨node, ready, hasKey⟩ := (orderlyThen.tidy.shared _ _).mp found
    obtain ⟨otherNode, otherReady, otherHasKey⟩ := (orderlyThen.tidy.shared _ _).mp otherFound
    rw [ready] at otherReady
    cases otherReady
    rw [hasKey] at otherHasKey
    exact Shape.key_injective (Option.some.inj otherHasKey)
  · rintro rfl
    rw [found] at otherFound
    exact Option.some.inj otherFound

/-- A leaf that is made by hand and does what an empty literal does. -/
def emptyLeaf : Reference Empty Empty := .leaf "literal" (quote "") true (Literal.attemptText "")

/-- An empty literal, the leaf that does the same, delayed, and a handle of another
grammar. -/
def twins : Program Empty Empty where
  rules _ := .text ""
  texts
    | .parser 0 => some (.text "")
    | .parser 1 => some (.delayed none emptyLeaf)
    | .parser 2 => some (.handle 1 ⟨0, capacity_pos⟩)
    | _ => none
  outside _ := rfl
  rules_proper _ := .literal _
  texts_proper origin reference found := by
    split at found
    · cases found
      exact .literal _
    · cases found
      exact .delayed _ (.node nofun)
    · cases found
      exact .handle _ _
    · cases found

/-- The grammar after the literal has been resolved and the handle has been refused. -/
def literate : Grammar Empty Empty :=
  (((empty 0 .text).resolve twins.rules ⟨.parser 0, []⟩ (.text "")).2.resolve twins.rules
    ⟨.parser 2, []⟩ (.handle 1 ⟨0, capacity_pos⟩)).2

theorem twins_are_one_node :
    ∃ id otherId, ((empty 0 .text).resolve twins.rules ⟨.parser 0, []⟩ (.text "")).1 = .ok id ∧
      (literate.resolve twins.rules ⟨.parser 1, []⟩ (.delayed none emptyLeaf)).1 = .ok otherId ∧
      id = otherId := by
  have first : ((empty 0 .text).resolve twins.rules ⟨.parser 0, []⟩ (.text "")).1 =
      .ok ⟨0, by decide⟩ := by decide +kernel
  have again : (literate.resolve twins.rules ⟨.parser 1, []⟩ (.delayed none emptyLeaf)).1 =
      .ok ⟨0, by decide⟩ := by decide +kernel
  have admits : twins.Admits True (empty 0 .text) ⟨.parser 0, []⟩ (.text "") := .of_ok rfl first
  have admitsAgain : twins.Admits True literate ⟨.parser 1, []⟩ (.delayed none emptyLeaf) :=
    .of_ok rfl again
  have between : twins.Calls True
      ((empty 0 .text).resolve twins.rules ⟨.parser 0, []⟩ (.text "")).2 literate := by
    refine .single (.resolve ⟨rfl, fun _ _ _ id meets => ?_⟩)
    rcases Relation.ReflTransGen.cases_head meets with same | ⟨_, ⟨_, found⟩ | opens, _⟩
    · exact absurd (Reference.handle.inj same).1 (by decide +kernel)
    · cases found
    · cases opens
  have shaped : ∀ g : Grammar Empty Empty, g.kind = .text →
      Shaped twins.rules g (.text "") (.leaf "literal" (quote "")) := by
    intro g isText
    have isLiteral : (.text "" : Literal).blueprint? g.kind =
        .ok (Kind.literal g.kind (.text "") : Kind Empty Empty).blueprint := by
      rw [isText]
      rfl
    exact .leaf (.literal isLiteral fun index => index.elim0) rfl rfl
  have shapedAgain : ∀ g : Grammar Empty Empty,
      Shaped twins.rules g (.delayed none emptyLeaf) (.leaf "literal" (quote "")) := by
    intro g
    exact .opened (.delayed _ _) (.leaf (.node _ _) rfl rfl)
  have tidy := (Tidy.empty 0 .text : (empty 0 .text : Grammar Empty Empty).Tidy).resolve
    (.empty 0 .text) twins.rules ⟨.parser 0, []⟩ (.text "")
  have tidyThen := tidy.1.resolve tidy.2 twins.rules ⟨.parser 2, []⟩ (.handle 1 ⟨0, capacity_pos⟩)
  have isText : (literate.resolve twins.rules ⟨.parser 1, []⟩ (.delayed none emptyLeaf)).2.kind =
      .text :=
    (tidyThen.1.grows_resolve ..).kind.trans
      ((tidy.1.grows_resolve ..).kind.trans ((Tidy.empty 0 .text).grows_resolve ..).kind)
  exact ⟨_, _, first, again, (same_node_iff_same_shape .refl admits first between admitsAgain again
    (shaped _ isText) (shapedAgain _)).1.mpr rfl⟩

/-! ## A handle for a slot of a failed call -/

/-- A sequence of what is in the sixth slot. -/
def guess : Reference Empty Empty := .ofList [.handle 0 ⟨5, by decide⟩]

/-- A sequence of a sequence of `y`. -/
def nested : Reference Empty Empty := .ofList [.ofList [.text "y"]]

/-- What is asked for, each with its identity.  The second of them fails, when the sixth slot
has been taken for a copy of a sequence of `a`; the third one takes it for a sequence of
`y`. -/
def asked : List (Nat × Reference Empty Empty) :=
  [(0, .ofList [.ofList [.text "a"]]),
    (2, .choice [.ofList [.ofList [.text "a"]], .parser 1 guess, .ofList [.ofList [.pattern "("]]]),
    (3, .keepSecond (.text "x") (.ofList [.text "y"])), (4, nested), (1, guess)]

/-- A grammar after it has been asked for some parsers. -/
def after (g : Grammar Empty Empty) (asked : List (Nat × Reference Empty Empty)) :
    Grammar Empty Empty :=
  asked.foldl (fun g (identity, body) => (g.resolve twins.rules ⟨.parser identity, []⟩ body).2) g

theorem kind_after {g : Grammar Empty Empty} (tidy : g.Tidy) (complete : g.Complete)
    (asked : List (Nat × Reference Empty Empty)) : (g.after asked).kind = g.kind := by
  induction asked generalizing g with
  | nil => rfl
  | cons request asked induction =>
      obtain ⟨tidyThen, completeThen⟩ :=
        tidy.resolve complete twins.rules ⟨.parser request.1, []⟩ request.2
      exact (induction tidyThen completeThen).trans (tidy.grows_resolve ..).kind

def misled : Grammar Empty Empty := (empty 0 .text).after asked

/-- What a node shows of itself: its name, its description, whether it has a key, and its
children. -/
def outline (node : Resolved Empty Empty) : String × String × Bool × List NodeId :=
  (node.name, node.description, node.key.isSome, node.children)

section

variable {g : Grammar Empty Empty} {id child : NodeId} {name description : String}

theorem exists_of_outline {children : List NodeId}
    (found : (g.node? id).map outline = some (name, description, true, children)) :
    ∃ node, g.node? id = some node ∧ node.name = name ∧ node.description = description ∧
      node.key ≠ none ∧ node.children = children := by
  obtain ⟨node, isNode, same⟩ := Option.map_eq_some_iff.mp found
  simp only [outline, Prod.mk.injEq] at same
  obtain ⟨isName, isDescription, hasKey, isChildren⟩ := same
  exact ⟨node, isNode, isName, isDescription, Option.ne_none_iff_isSome.mpr hasKey, isChildren⟩

theorem shows_leaf (found : (g.node? id).map outline = some (name, description, true, [])) :
    Shows g id (.leaf name description) := by
  obtain ⟨node, isNode, rfl, rfl, hasKey, childless⟩ := exists_of_outline found
  exact .leaf isNode hasKey childless

theorem shows_only {shape : Shape} (shows : Shows g child shape)
    (found : (g.node? id).map outline = some (name, description, true, [child])) :
    Shows g id (.branch name 1 fun _ => shape) := by
  obtain ⟨node, isNode, rfl, _, hasKey, isChild⟩ := exists_of_outline found
  have isChildren : node.children = List.ofFn fun _ : Fin 1 => child := isChild.trans (by simp)
  exact .branch isNode hasKey Nat.one_ne_zero isChildren fun _ => shows

end

/-- A failed call had a handle for a slot of its own.  What it has left of that makes the
sequence with the handle the node of the first sequence, although by now it has the same
structure as another one. -/
theorem guess_is_not_what_it_shows :
    ∃ shape, Shaped twins.rules misled guess shape ∧ Shaped twins.rules misled nested shape ∧
      (misled.resolve twins.rules ⟨.parser 1, []⟩ guess).1.toOption = some ⟨0, by decide⟩ ∧
      (misled.resolve twins.rules ⟨.parser 4, []⟩ nested).1.toOption = some ⟨7, by decide⟩ := by
  have isText : misled.kind = .text := kind_after (.empty 0 .text) (.empty 0 .text) asked
  have isLeaf : (misled.node? ⟨6, by decide⟩).map outline =
      some ("literal", quote "y", true, []) := by decide +kernel
  have isSequence : (misled.node? ⟨5, by decide⟩).map outline =
      some ("sequence", quote "y", true, [⟨6, by decide⟩]) := by decide +kernel
  have small : 5 < misled.size := by decide +kernel
  have number : misled.number = 0 := by decide +kernel
  have handle : Shaped twins.rules misled (.handle misled.number ⟨5, by decide⟩)
      (.branch "sequence" 1 fun _ => .leaf "literal" (quote "y")) :=
    .handle small (shows_only (shows_leaf isLeaf) isSequence)
  have isLiteral : (.text "y" : Literal).blueprint? misled.kind =
      .ok (Kind.literal misled.kind (.text "y") : Kind Empty Empty).blueprint := by
    rw [isText]
    rfl
  have literal : Shaped twins.rules misled (.text "y") (.leaf "literal" (quote "y")) :=
    .leaf (.literal isLiteral fun index => index.elim0) rfl rfl
  refine ⟨.branch "sequence" 1 fun _ => .branch "sequence" 1 fun _ => .leaf "literal" (quote "y"),
    ?_, ?_, by decide +kernel, by decide +kernel⟩
  · rw [number] at handle
    exact .branch (.sequence 1 _) rfl Nat.one_ne_zero (Fin.forall_fin_one.mpr handle)
  · exact .branch (.sequence 1 _) rfl Nat.one_ne_zero (Fin.forall_fin_one.mpr
      (.branch (.sequence 1 _) rfl Nat.one_ne_zero (Fin.forall_fin_one.mpr literal)))

end Grammar

end Packrat
