import Packrat.Proofs.Grammar.Sites
import Mathlib.Algebra.BigOperators.Intervals

/-!
# How many slots a resolution takes

Every node and every thunk that is written takes one slot, and a rule takes its slots once,
when it is met for the first time.  So as long as finitely many rules refer to each other,
a resolution takes no more slots than there are nodes and thunks written in them.
-/

namespace Packrat

variable {ω ρ : Type}

namespace Reference

/-- How many slots a reference takes, apart from what rules take. -/
def weight : Reference ω ρ → Nat
  | node _ children => 1 + ∑ index, (children index).weight
  | literal _ => 1
  | sequence _ parts => 1 + ∑ index, (parts index).weight
  | rule _ => 0
  | delayed _ body => 1 + body.weight
  | handle _ _ => 0
  | parser _ body => body.weight

section

variable (name : String) (cacheable : Bool) (describe : Describe)
  {first second child : Reference ω ρ}

theorem weight_unary (generate : Child → Matcher ω ρ) :
    (unary name cacheable describe generate child).weight = 1 + child.weight := by
  rw [unary, weight, Fin.sum_univ_one]

theorem weight_binary (generate : Child → Child → Matcher ω ρ) :
    (binary name cacheable describe generate first second).weight =
      1 + (first.weight + second.weight) := by
  rw [binary, weight, Fin.sum_univ_two]
  rfl

theorem weight_pair (generate : List Child → Matcher ω ρ) :
    (nary name cacheable describe generate [first, second]).weight =
      1 + (first.weight + second.weight) := by
  rw [nary, weight]
  exact congrArg (1 + ·) (Fin.sum_univ_two _)

end

/-- The rules that a reference mentions are among these. -/
def RulesIn (names : Finset String) : Reference ω ρ → Prop
  | node _ children => ∀ index, (children index).RulesIn names
  | literal _ => True
  | sequence _ parts => ∀ index, (parts index).RulesIn names
  | rule name => name ∈ names
  | delayed _ body => body.RulesIn names
  | handle _ _ => True
  | parser _ body => body.RulesIn names

end Reference

namespace Grammar

/-- How many slots the rules take that have not been met yet. -/
def unmet (rules : Rules ω ρ) (names : Finset String) (g : Grammar ω ρ) : Nat :=
  ∑ name ∈ names with g.thunks.find? (.rule name) = none, (1 + (rules name).weight)

/-- How many slots an errand takes, apart from what rules take. -/
def Errand.weight : Errand ω ρ → Nat
  | .written reference _ => reference.weight
  | .node _ _ children _ => 1 + ∑ index, (children index).weight
  | .unfolding (.rule _) _ _ => 0
  | .unfolding (.delayed _) _ body => 1 + body.weight

def Errand.RulesIn (rules : Rules ω ρ) (names : Finset String) : Errand ω ρ → Prop
  | .written reference _ => reference.RulesIn names
  | .node _ _ children _ => ∀ index, (children index).RulesIn names
  | .unfolding (.rule name) _ body => name ∈ names ∧ body = rules name
  | .unfolding (.delayed _) _ body => body.RulesIn names

section

variable (rules : Rules ω ρ) (names : Finset String) {g g' : Grammar ω ρ}

theorem unmet_congr (same : ∀ thunk, g'.thunks.find? thunk = g.thunks.find? thunk) :
    unmet rules names g' = unmet rules names g := by
  simp only [unmet, same]

theorem unmet_noteNode (own : Option Place) (slot : NodeId) :
    unmet rules names (g.widened.noteNode own slot) = unmet rules names g := by
  apply unmet_congr
  intro thunk
  cases own <;> rfl

theorem unmet_finish (slot : NodeId) (blueprint : Blueprint ω ρ)
    (given : Vector NodeId blueprint.arity) :
    unmet rules names (g.finish slot blueprint given).2 = unmet rules names g :=
  unmet_congr rules names fun thunk => at?_finish g slot blueprint given (.thunk thunk)

theorem unmet_le (known : ∀ thunk id, g.thunks.find? thunk = some id →
    ∃ there, g'.thunks.find? thunk = some there) : unmet rules names g' ≤ unmet rules names g := by
  apply Finset.sum_le_sum_of_subset
  intro name member
  obtain ⟨isNamed, unknown⟩ := Finset.mem_filter.mp member
  refine Finset.mem_filter.mpr ⟨isNamed, Option.eq_none_iff_forall_ne_some.mpr fun id found => ?_⟩
  obtain ⟨there, found⟩ := known _ id found
  rw [unknown] at found
  cases found

/-- A rule that is met takes its slots from those that were left for it. -/
theorem unmet_noteRule {name : String} (label : Option String) (slot : NodeId)
    (isNamed : name ∈ names) (unknown : g.thunks.find? (.rule name) = none) :
    unmet rules names (g.widened.noteThunk (.rule name) label slot) + (1 + (rules name).weight) =
      unmet rules names g := by
  have rest : (names.filter fun other =>
      (g.widened.noteThunk (.rule name) label slot).thunks.find? (.rule other) = none) =
        (names.filter fun other => g.thunks.find? (.rule other) = none).erase name := by
    ext other
    have found : (g.widened.noteThunk (.rule name) label slot).thunks.find? (.rule other) =
        if Thunk.rule other = .rule name then some slot else g.thunks.find? (.rule other) :=
      Table.find?_insert ..
    rw [Finset.mem_filter, Finset.mem_erase, Finset.mem_filter, found]
    by_cases same : other = name
    · simp [same]
    · simp [same]
  unfold unmet
  rw [rest]
  exact Finset.sum_erase_add _ _ (Finset.mem_filter.mpr ⟨isNamed, unknown⟩)

theorem unmet_noteDelayed (place : Place) (label : Option String) (slot : NodeId) :
    unmet rules names (g.widened.noteThunk (.delayed place) label slot) ≤
      unmet rules names g := by
  apply unmet_le
  intro thunk id found
  have there := at?_noteThunk g (.delayed place) label slot (.thunk thunk)
  split at there
  next => exact ⟨slot, there⟩
  next => exact ⟨id, there.trans found⟩

/-- What an unfolding takes is a slot and what its body takes. -/
theorem weight_of_unfolding {thunk : Thunk} {label : Option String} {body : Reference ω ρ}
    (slot : NodeId) (unknown : g.thunks.find? thunk = none)
    (inside : (Errand.unfolding thunk label body).RulesIn rules names) :
    1 + unmet rules names (g.widened.noteThunk thunk label slot) + body.weight ≤
      unmet rules names g + (Errand.unfolding thunk label body).weight := by
  cases thunk with
  | rule name =>
      obtain ⟨isNamed, rfl⟩ := inside
      have := unmet_noteRule rules names label slot isNamed unknown
      rw [Errand.weight]
      omega
  | delayed place =>
      have := unmet_noteDelayed rules names (g := g) place label slot
      rw [Errand.weight]
      omega

end

/-- The weights of the children below an index. -/
theorem sum_below_succ {arity : Nat} (weights : Fin arity → Nat) (index : Fin arity) :
    ∑ each with each.val < index.val + 1, weights each =
      ∑ each with each.val < index.val, weights each + weights index := by
  have rest : Finset.univ.filter (fun each : Fin arity => each.val < index.val) =
      (Finset.univ.filter fun each : Fin arity => each.val < index.val + 1).erase index := by
    ext each
    simp only [Finset.mem_filter, Finset.mem_erase, Finset.mem_univ, true_and, ne_eq, Fin.ext_iff]
    omega
  rw [rest]
  exact (Finset.sum_erase_add _ _ (by simp)).symm

theorem sum_below_le {arity : Nat} (weights : Fin arity → Nat) (count : Nat) :
    ∑ each with each.val < count, weights each ≤ ∑ index, weights index :=
  Finset.sum_le_sum_of_subset (Finset.filter_subset _ _)

/-- A resolution takes at most so many slots, and there were not as many if it was given up
for want of slots. -/
structure Spends (rules : Rules ω ρ) (names : Finset String) (g : Grammar ω ρ) (allowance : Nat)
    (result : Except ResolveError NodeId) (g' : Grammar ω ρ) : Prop where
  within : g'.size + unmet rules names g' ≤ g.size + unmet rules names g + allowance
  short : ∀ error, result = .error error → error.innermost = .tooManyNodes →
    capacity < g.size + unmet rules names g + allowance

theorem Spends.refl {rules : Rules ω ρ} {names : Finset String}
    {result : Except ResolveError NodeId} (g : Grammar ω ρ) (allowance : Nat)
    (other : ∀ error, result = .error error → error.innermost ≠ .tooManyNodes) :
    Spends rules names g allowance result g :=
  ⟨by omega, fun error isError innermost => absurd innermost (other error isError)⟩

/-- What the children of a node take together. -/
theorem spends_of_children {rules : Rules ω ρ} {names : Finset String}
    {states : Nat → Grammar ω ρ} {arity : Nat} {children : Fin arity → Reference ω ρ}
    {ids : Fin arity → NodeId} {place : Place} (tidy : (states 0).Tidy) {count : Nat}
    (within : count ≤ arity)
    (resolved : ∀ index : Fin arity, index < count →
      Resolves rules (.written (children index) (place.child index)) (states index)
        (.ok (ids index)) (states (index + 1)))
    (steps : ∀ index : Fin arity, index < count → (states index).Tidy →
      Spends rules names (states index) (children index).weight (.ok (ids index))
        (states (index + 1))) :
    (states count).size + unmet rules names (states count) ≤
      (states 0).size + unmet rules names (states 0) +
        ∑ each with each.val < count, (children each).weight := by
  apply kept_of_children (fun count => (states count).size + unmet rules names (states count) ≤
    (states 0).size + unmet rules names (states 0) +
      ∑ each with each.val < count, (children each).weight) tidy _ within resolved
  · intro index before _ _ tidyHere spent
    have further := (steps index before tidyHere).within
    have := sum_below_succ (fun each => (children each).weight) index
    omega
  · omega

theorem Errand.RulesIn.body {rules : Rules ω ρ} {names : Finset String} {thunk : Thunk}
    {label : Option String} {body : Reference ω ρ}
    (inside : (Errand.unfolding thunk label body).RulesIn rules names)
    (closed : ∀ name ∈ names, (rules name).RulesIn names) : body.RulesIn names := by
  cases thunk with
  | rule name =>
      obtain ⟨isNamed, rfl⟩ := inside
      exact closed name isNamed
  | delayed => exact inside

theorem Resolves.spends {rules : Rules ω ρ} {names : Finset String} {errand : Errand ω ρ}
    {g g' : Grammar ω ρ} {result : Except ResolveError NodeId}
    (resolves : Resolves rules errand g result g') (tidy : g.Tidy)
    (closed : ∀ name ∈ names, (rules name).RulesIn names) (inside : errand.RulesIn rules names) :
    Spends rules names g errand.weight result g' := by
  induction resolves with
  | known_node | known_literal | known_sequence | own_handle | known_thunk =>
      exact .refl _ _ (by simp)
  | refused_literal | foreign_handle | unknown_handle =>
      exact .refl _ _ (by simp [ResolveError.innermost])
  | new_node _ _ induction | failed_sequence _ _ induction => exact induction tidy inside
  | new_sequence _ _ induction =>
      obtain ⟨within, _⟩ := induction tidy inside
      exact ⟨within, by simp⟩
  | @new_literal g g' l blueprint children place id _ shape _ induction =>
      have isKind := Kind.blueprint_literal shape
      subst isKind
      obtain ⟨within, _⟩ := induction tidy fun index => index.elim0
      exact ⟨within, by simp⟩
  | @failed_literal g g' l blueprint children place error _ shape _ induction =>
      have isKind := Kind.blueprint_literal shape
      subst isKind
      exact induction tidy fun index => index.elim0
  | rule _ induction => exact induction tidy ⟨inside, rfl⟩
  | delayed _ induction | parser _ induction => exact induction tidy inside
  | no_slot_for_node full =>
      refine ⟨by omega, fun _ _ _ => ?_⟩
      rw [Errand.weight]
      omega
  | @failed_child g g' own blueprint children place slot states ids failed error unknown last
      begins resolved _ steps fails =>
      have tidyStart : (states 0).Tidy := begins ▸ tidy.noteNode last
      have within := Nat.le_of_lt failed.isLt
      obtain ⟨_, tidyHere, _⟩ :=
        settled_of_children tidyStart within resolved (Nat.zero_le _) (Nat.le_refl _)
      have spent := spends_of_children tidyStart within resolved fun index before tidyHere =>
        steps index before tidyHere (inside index)
      obtain ⟨further, short⟩ := fails tidyHere (inside failed)
      rw [Errand.weight] at further short
      rw [begins, unmet_noteNode, size_noteNode, size_widened] at spent
      have := sum_below_succ (fun each => (children each).weight) failed
      have := sum_below_le (fun each => (children each).weight) (failed + 1)
      rw [Errand.weight]
      refine ⟨by omega, fun other isError innermost => ?_⟩
      cases isError
      have := short error rfl innermost
      omega
  | @made g own blueprint children place slot states ids given unknown last begins resolved _
      steps =>
      have spent := spends_of_children (begins ▸ tidy.noteNode last) (Nat.le_refl _)
        (fun index _ => resolved index) fun index _ tidyHere => steps index tidyHere (inside index)
      rw [begins, unmet_noteNode, size_noteNode, size_widened] at spent
      have := sum_below_le (fun each => (children each).weight) blueprint.arity
      refine ⟨?_, by simp⟩
      rw [size_finish, unmet_finish, Errand.weight]
      omega
  | @no_slot_for_thunk g thunk label body unknown full =>
      have := weight_of_unfolding rules names ⟨0, capacity_pos⟩ unknown inside
      exact ⟨by omega, fun _ _ _ => by omega⟩
  | @failed_body g g' thunk label body slot error unknown last _ induction =>
      obtain ⟨within, short⟩ := induction (tidy.noteThunk last) (inside.body closed)
      have := weight_of_unfolding rules names slot unknown inside
      rw [size_noteThunk, size_widened, Errand.weight] at within short
      refine ⟨by omega, fun other isError innermost => ?_⟩
      have := short other isError innermost
      omega
  | @circular g g' thunk label body slot target unknown last _ _ induction =>
      obtain ⟨within, _⟩ := induction (tidy.noteThunk last) (inside.body closed)
      have := weight_of_unfolding rules names slot unknown inside
      rw [size_noteThunk, size_widened, Errand.weight] at within
      exact ⟨by omega, by simp [ResolveError.innermost]⟩
  | @unfolded g g' thunk label body slot target unknown last _ _ induction =>
      obtain ⟨within, _⟩ := induction (tidy.noteThunk last) (inside.body closed)
      have := weight_of_unfolding rules names slot unknown inside
      rw [size_noteThunk, size_widened, Errand.weight] at within
      refine ⟨?_, by simp⟩
      rw [size_fill, show unmet rules names (g'.fill slot (.forward target)) =
        unmet rules names g' from rfl]
      omega

/-- A call takes no more slots than there are nodes and thunks written in what it mentions. -/
theorem Tidy.size_resolve_le {rules : Rules ω ρ} {names : Finset String} {g : Grammar ω ρ}
    (tidy : g.Tidy) (closed : ∀ name ∈ names, (rules name).RulesIn names) (place : Place)
    {reference : Reference ω ρ} (inside : reference.RulesIn names) :
    (g.resolve rules place reference).2.size ≤
      g.size + unmet rules names g + reference.weight := by
  rcases resolve_resolves rules g place reference with
    ⟨id, g', resolved, resolves⟩ | ⟨error, g', resolved, resolves⟩
  all_goals rw [resolved]
  · obtain ⟨within, _⟩ := resolves.spends tidy closed inside
    rw [Errand.weight] at within
    dsimp only
    omega
  · dsimp only
    rw [(resolves.keeps tidy).1.size_rollback]
    omega

/-- A node for another one and then the end of the input takes two slots. -/
theorem Tidy.size_consume_le {g : Grammar ω ρ} (tidy : g.Tidy) (rules : Rules ω ρ) (place : Place)
    (root : NodeId) : (g.resolve rules place (.consume (g.handle root))).2.size ≤ g.size + 2 := by
  have inside : (Reference.consume (g.handle root)).RulesIn ∅ := by
    intro index
    dsimp only
    split
    next => trivial
    next => exact fun none => none.elim0
  have closed : ∀ name ∈ (∅ : Finset String), (rules name).RulesIn ∅ := by simp
  have within := tidy.size_resolve_le closed place inside
  have none : unmet rules ∅ g = 0 := by simp [unmet]
  have two : (Reference.consume (g.handle root)).weight = 2 := by
    simp only [Reference.consume, handle, Reference.endOfInput, Reference.leaf,
      Reference.weight_binary, Reference.weight, Finset.univ_eq_empty, Finset.sum_empty,
      Nat.reduceAdd]
  omega

end Grammar

end Packrat
