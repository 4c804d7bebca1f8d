import Packrat.Proofs.Grammar.Tidy

/-!
# Forcing thunks

A rule or a delayed parser is forced when it is met for the first time: it is listed, and
what is to be noted of it is put on the list of unfoldings.  `Forces` says which thunks
have been forced between two states.
-/

namespace Packrat

namespace Grammar

variable {ω ρ : Type}

/-- The thunks that were forced on the way from one state to another, the last one first,
with what was noted of each. -/
structure Forces (g g' : Grammar ω ρ) (forced : List (Thunk × Option String)) : Prop where
  unfoldings : g'.unfoldings = forced.map Prod.snd ++ g.unfoldings
  thunks : g'.thunks.entries.map Prod.fst =
    forced.map Prod.fst ++ g.thunks.entries.map Prod.fst
  names : ∀ name label, (.rule name, label) ∈ forced → label = some name

/-- A rule is noted by its name. -/
def Errand.Labelled : Errand ω ρ → Prop
  | .unfolding thunk label _ => ∀ name, thunk = .rule name → label = some name
  | _ => True

namespace Forces

variable {g middle g' : Grammar ω ρ} {forced more : List (Thunk × Option String)}

theorem of_tables (thunks : g'.thunks = g.thunks) (unfoldings : g'.unfoldings = g.unfoldings) :
    g.Forces g' [] := by
  constructor
  · exact unfoldings
  · rw [thunks]
    rfl
  · simp

theorem refl (g : Grammar ω ρ) : g.Forces g [] := of_tables rfl rfl

theorem trans (first : g.Forces middle forced) (second : middle.Forces g' more) :
    g.Forces g' (more ++ forced) := by
  constructor
  · rw [second.unfoldings, first.unfoldings, List.map_append, List.append_assoc]
  · rw [second.thunks, first.thunks, List.map_append, List.append_assoc]
  · intro name label member
    rcases List.mem_append.mp member with later | earlier
    · exact second.names name label later
    · exact first.names name label earlier

theorem noteThunk {thunk : Thunk} {label : Option String} (slot : NodeId)
    (unknown : g.thunks.find? thunk = none)
    (labelled : ∀ name, thunk = .rule name → label = some name) :
    g.Forces (g.widened.noteThunk thunk label slot) [(thunk, label)] := by
  constructor
  · rfl
  · exact Table.keys_insert unknown slot
  · intro name other member
    obtain ⟨rfl, rfl⟩ := Prod.mk.inj (List.mem_singleton.mp member)
    exact labelled name rfl

theorem finish (slot : NodeId) (blueprint : Blueprint ω ρ)
    (children : Vector NodeId blueprint.arity) :
    g.Forces (g.finish slot blueprint children).2 [] := by
  rcases finish_cases g slot blueprint children with ⟨_, _, _, _, whole⟩ | ⟨_, whole⟩
  all_goals rw [whole]
  · exact of_tables rfl rfl
  · cases g.keyOf blueprint children <;> exact of_tables rfl rfl

/-- No thunk is forced twice, and none that was known before. -/
theorem once (forces : g.Forces g' forced) (unique : g'.thunks.Unique) :
    (forced.map Prod.fst).Nodup ∧
      ∀ thunk ∈ forced.map Prod.fst,
        g.thunks.find? thunk = none ∧ g'.thunks.find? thunk ≠ none := by
  rw [Table.Unique, forces.thunks] at unique
  obtain ⟨nodup, _, disjoint⟩ := List.nodup_append.mp unique
  refine ⟨nodup, fun thunk member => ⟨?_, ?_⟩⟩
  · apply Table.lookup_eq_none_of_not_mem
    intro old
    exact disjoint thunk member thunk old rfl
  · apply Table.find?_ne_none_of_mem
    rw [forces.thunks]
    exact List.mem_append_left _ member

end Forces

theorem Resolves.forces {rules : Rules ω ρ} {errand : Errand ω ρ} {g g' : Grammar ω ρ}
    {result : Except ResolveError NodeId} (resolves : Resolves rules errand g result g')
    (tidy : g.Tidy) (labelled : errand.Labelled) : ∃ forced, g.Forces g' forced := by
  have noted : ∀ {g : Grammar ω ρ} (own : Option Place) (slot : NodeId),
      g.Forces (g.widened.noteNode own slot) [] := by
    intro g own slot
    cases own <;> exact .of_tables rfl rfl
  induction resolves with
  | new_node _ _ induction | failed_literal _ _ _ induction | failed_sequence _ _ induction =>
      exact induction tidy trivial
  | parser _ induction => exact induction tidy trivial
  | new_literal _ _ _ induction =>
      obtain ⟨forced, unfoldings, thunks, names⟩ := induction tidy trivial
      exact ⟨forced, unfoldings, thunks, names⟩
  | new_sequence _ _ induction =>
      obtain ⟨forced, unfoldings, thunks, names⟩ := induction tidy trivial
      exact ⟨forced, unfoldings, thunks, names⟩
  | rule _ induction => exact induction tidy fun _ same => congrArg some (Thunk.rule.inj same)
  | delayed _ induction => exact induction tidy fun _ impossible => by cases impossible
  | @failed_child g g' own blueprint children place slot states ids failed error unknown last
      begins resolved failing steps fails =>
      have tidyStart : (states 0).Tidy := begins ▸ tidy.noteNode last
      have within := Nat.le_of_lt failed.isLt
      obtain ⟨_, tidyHere, _⟩ :=
        settled_of_children tidyStart within resolved (Nat.zero_le _) (Nat.le_refl _)
      obtain ⟨forced, forces⟩ := kept_of_children
        (fun count => ∃ forced, (states 0).Forces (states count) forced) tidyStart
        ⟨[], .refl _⟩ within resolved fun index before _ _ tidyHere ⟨forced, forces⟩ => by
          obtain ⟨more, further⟩ := steps index before tidyHere trivial
          exact ⟨_, forces.trans further⟩
      obtain ⟨more, last⟩ := fails tidyHere trivial
      have start : g.Forces (states 0) [] := begins ▸ noted own slot
      exact ⟨_, (start.trans forces).trans last⟩
  | @made g own blueprint children place slot states ids given unknown last begins resolved _
      steps =>
      obtain ⟨forced, forces⟩ := kept_of_children
        (fun count => ∃ forced, (states 0).Forces (states count) forced)
        (begins ▸ tidy.noteNode last) ⟨[], .refl _⟩ (Nat.le_refl _) (fun index _ => resolved index)
        fun index _ _ _ tidyHere ⟨forced, forces⟩ => by
          obtain ⟨more, further⟩ := steps index tidyHere trivial
          exact ⟨_, forces.trans further⟩
      have start : g.Forces (states 0) [] := begins ▸ noted own slot
      exact ⟨_, (start.trans forces).trans (.finish slot blueprint given)⟩
  | @failed_body g g' thunk label _ slot _ unknown last _ induction
  | @circular g g' thunk label _ slot _ unknown last _ _ induction
  | @unfolded g g' thunk label _ slot _ unknown last _ _ induction =>
      obtain ⟨forced, forces⟩ := induction (tidy.noteThunk last) trivial
      obtain ⟨unfoldings, thunks, names⟩ := (Forces.noteThunk slot unknown labelled).trans forces
      exact ⟨_, unfoldings, thunks, names⟩
  | _ => exact ⟨[], .refl _⟩

end Grammar

end Packrat
