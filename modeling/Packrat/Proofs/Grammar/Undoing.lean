import Packrat.Proofs.Grammar.Books
import Packrat.Proofs.Grammar.Echo

/-!
# What a failed resolution leaves behind

A resolution that fails is undone: its slots are dropped, and so is everything that was
resolved to one of them.  A literal or a sequence that was resolved to an older node, which
it shares, is not, and so the tables of literals and sequences may know more than they
did.  Where they do not, nothing that is resolved later can tell that anything failed.
-/

namespace Packrat

/-- The place is in no body that has yet to be unfolded. -/
def Place.Before (count : Nat) (place : Place) : Prop :=
  ∀ serial, place.origin = .unfolding serial → serial < count

theorem Place.Before.mono {count more : Nat} {place : Place} (before : place.Before count)
    (grows : count ≤ more) : place.Before more :=
  fun serial unfolds => Nat.lt_of_lt_of_le (before serial unfolds) grows

theorem Place.Before.postpone {mark : Nat} {place : Place} (before : place.Before mark)
    (delay : Nat) : place.postpone mark delay = place := by
  obtain ⟨origin, path⟩ := place
  cases origin with
  | unfolding serial =>
      have earlier := before serial rfl
      simp [Place.postpone, Origin.postpone, earlier]
  | parser => rfl
  | consumer => rfl

theorem Place.Before.of_postpone {mark delay : Nat} {place : Place}
    (before : (place.postpone mark delay).Before mark) : place.Before mark := by
  intro serial unfolds
  by_contra late
  have := before (serial + delay) (by rw [Place.postpone, unfolds, Origin.postpone, if_neg late])
  omega

namespace Grammar

variable {ω ρ : Type}

/-! ## Places that are listed -/

/-- Bodies that have yet to be unfolded are not listed. -/
structure Dated (g : Grammar ω ρ) : Prop where
  nodes : ∀ place id, g.nodes.find? place = some id → place.Before g.unfoldings.length
  thunks : ∀ place id, g.thunks.find? (.delayed place) = some id →
    place.Before g.unfoldings.length
  sequences : ∀ place id, g.sequences.find? place = some id → place.Before g.unfoldings.length

/-- The errand is for what is written where bodies have been unfolded. -/
def Errand.Dated (count : Nat) : Errand ω ρ → Prop
  | .written _ place => place.Before count
  | .node own _ _ place => place.Before count ∧ ∀ here, own = some here → here.Before count
  | .unfolding thunk _ _ => ∀ place, thunk = .delayed place → place.Before count

namespace Dated

variable {g : Grammar ω ρ} (dated : g.Dated)

include dated

theorem noteNode {own : Option Place} (slot : NodeId)
    (before : ∀ here, own = some here → here.Before g.unfoldings.length) :
    (g.widened.noteNode own slot).Dated := by
  cases own with
  | none => exact ⟨dated.nodes, dated.thunks, dated.sequences⟩
  | some place =>
      refine ⟨fun other id found => ?_, dated.thunks, dated.sequences⟩
      rw [show (g.widened.noteNode (some place) slot).nodes = g.nodes.insert place slot from rfl,
        Table.find?_insert] at found
      split at found
      next same => exact same ▸ before place rfl
      next => exact dated.nodes other id found

theorem noteThunk {thunk : Thunk} (label : Option String) (slot : NodeId)
    (before : ∀ place, thunk = .delayed place → place.Before g.unfoldings.length) :
    (g.widened.noteThunk thunk label slot).Dated := by
  have later : ∀ {place : Place}, place.Before g.unfoldings.length →
      place.Before (g.widened.noteThunk thunk label slot).unfoldings.length :=
    fun early => early.mono (Nat.le_succ _)
  refine ⟨fun place id found => later (dated.nodes place id found), fun place id found => ?_,
    fun place id found => later (dated.sequences place id found)⟩
  rw [show (g.widened.noteThunk thunk label slot).thunks = g.thunks.insert thunk slot from rfl,
    Table.find?_insert] at found
  split at found
  next same => exact later (before place same.symm)
  next => exact later (dated.thunks place id found)

theorem noteSequence {place : Place} (id : NodeId)
    (before : place.Before g.unfoldings.length) : (g.noteSequence place id).Dated := by
  refine ⟨dated.nodes, dated.thunks, fun other found there => ?_⟩
  rw [show (g.noteSequence place id).sequences = g.sequences.insert place id from rfl,
    Table.find?_insert] at there
  split at there
  next same => exact same ▸ before
  next => exact dated.sequences other found there

theorem finish (slot : NodeId) (blueprint : Blueprint ω ρ)
    (children : Vector NodeId blueprint.arity) : (g.finish slot blueprint children).2.Dated := by
  rcases finish_cases g slot blueprint children with ⟨_, _, _, _, whole⟩ | ⟨_, whole⟩
  all_goals rw [whole]
  · exact ⟨dated.nodes, dated.thunks, dated.sequences⟩
  · cases g.keyOf blueprint children <;> exact ⟨dated.nodes, dated.thunks, dated.sequences⟩

end Dated

theorem Resolves.dated {rules : Rules ω ρ} {errand : Errand ω ρ} {g g' : Grammar ω ρ}
    {result : Except ResolveError NodeId} (resolves : Resolves rules errand g result g')
    (tidy : g.Tidy) (dated : g.Dated) (before : errand.Dated g.unfoldings.length) :
    g'.Dated := by
  induction resolves with
  | new_node _ _ induction =>
      exact induction tidy dated ⟨before, fun here own => Option.some.inj own ▸ before⟩
  | new_literal _ _ _ induction =>
      obtain ⟨nodes, thunks, sequences⟩ := induction tidy dated ⟨before, nofun⟩
      exact ⟨nodes, thunks, sequences⟩
  | failed_literal _ _ _ induction => exact induction tidy dated ⟨before, nofun⟩
  | new_sequence _ resolves induction =>
      have later := before.mono (resolves.keeps tidy).1.unfoldings
      exact (induction tidy dated ⟨before, nofun⟩).noteSequence _ later
  | failed_sequence _ _ induction => exact induction tidy dated ⟨before, nofun⟩
  | rule _ induction => exact induction tidy dated nofun
  | delayed _ induction =>
      exact induction tidy dated fun place same => Thunk.delayed.inj same ▸ before
  | parser _ induction => exact induction tidy dated nofun
  | @failed_child g g' own blueprint children place slot states ids failed error unknown last
      begins resolved _ steps fails =>
      obtain ⟨placeBefore, ownBefore⟩ := before
      have tidyStart : (states 0).Tidy := begins ▸ tidy.noteNode last
      have noted : g.Grows (states 0) := begins ▸ .noteNode last unknown
      have within := Nat.le_of_lt failed.isLt
      have datedHere := kept_of_children (fun count => (states count).Dated) tidyStart
        (begins ▸ dated.noteNode slot ownBefore) within resolved
        fun index earlier grows _ tidyHere datedHere =>
          steps index earlier tidyHere datedHere
            (placeBefore.mono (noted.trans grows).unfoldings)
      obtain ⟨grows, tidyHere, _⟩ :=
        settled_of_children tidyStart within resolved (Nat.zero_le _) (Nat.le_refl _)
      exact fails tidyHere datedHere (placeBefore.mono (noted.trans grows).unfoldings)
  | @made g own blueprint children place slot states ids given unknown last begins resolved _
      steps =>
      obtain ⟨placeBefore, ownBefore⟩ := before
      have noted : g.Grows (states 0) := begins ▸ .noteNode last unknown
      apply Dated.finish
      exact kept_of_children (fun count => (states count).Dated) (begins ▸ tidy.noteNode last)
        (begins ▸ dated.noteNode slot ownBefore) (Nat.le_refl _) (fun index _ => resolved index)
        fun index earlier grows _ tidyHere datedHere =>
          steps index tidyHere datedHere (placeBefore.mono (noted.trans grows).unfoldings)
  | failed_body _ last _ induction | circular _ last _ _ induction =>
      apply induction (tidy.noteThunk last) (dated.noteThunk _ _ before)
      exact fun serial same => Origin.unfolding.inj same ▸ Nat.lt_succ_self _
  | unfolded _ last _ _ induction =>
      obtain ⟨nodes, thunks, sequences⟩ :=
        induction (tidy.noteThunk last) (dated.noteThunk _ _ before)
          fun serial same => Origin.unfolding.inj same ▸ Nat.lt_succ_self _
      exact ⟨nodes, thunks, sequences⟩
  | _ => exact dated

theorem Dated.resolve {g : Grammar ω ρ} (dated : g.Dated) (tidy : g.Tidy) (rules : Rules ω ρ)
    {place : Place} (reference : Reference ω ρ) (before : place.Before g.unfoldings.length) :
    (g.resolve rules place reference).2.Dated := by
  rcases resolve_resolves rules g place reference with
    ⟨id, g', resolved, resolves⟩ | ⟨error, g', resolved, resolves⟩
  all_goals
    rw [resolved]
    have datedThen := resolves.dated tidy dated before
  · exact datedThen
  · obtain ⟨_, nodes, thunks, _, sequences⟩ := (resolves.keeps tidy).2.1.unique
    exact ⟨fun place id found =>
        datedThen.nodes place id ((Table.find?_keep_eq_some nodes).mp found).1,
      fun place id found =>
        datedThen.thunks place id ((Table.find?_keep_eq_some thunks).mp found).1,
      fun place id found =>
        datedThen.sequences place id ((Table.find?_keep_eq_some sequences).mp found).1⟩

section

variable {g : Grammar ω ρ} (dated : g.Dated) (delay : Nat)

include dated

/-- What is listed is listed at places that are not put off. -/
theorem Dated.nodes_postpone (place : Place) :
    g.nodes.find? (place.postpone g.unfoldings.length delay) = g.nodes.find? place := by
  by_cases before : place.Before g.unfoldings.length
  · rw [before.postpone]
  · rw [Option.eq_none_iff_forall_ne_some.mpr fun id found =>
        before (dated.nodes _ id found).of_postpone,
      Option.eq_none_iff_forall_ne_some.mpr fun id found => before (dated.nodes _ id found)]

theorem Dated.sequences_postpone (place : Place) :
    g.sequences.find? (place.postpone g.unfoldings.length delay) = g.sequences.find? place := by
  by_cases before : place.Before g.unfoldings.length
  · rw [before.postpone]
  · rw [Option.eq_none_iff_forall_ne_some.mpr fun id found =>
        before (dated.sequences _ id found).of_postpone,
      Option.eq_none_iff_forall_ne_some.mpr fun id found => before (dated.sequences _ id found)]

theorem Dated.thunks_postpone (thunk : Thunk) :
    g.thunks.find? (thunk.postpone g.unfoldings.length delay) = g.thunks.find? thunk := by
  cases thunk with
  | rule name => rfl
  | delayed place =>
      rw [Thunk.postpone]
      by_cases before : place.Before g.unfoldings.length
      · rw [before.postpone]
      · rw [Option.eq_none_iff_forall_ne_some.mpr fun id found =>
            before (dated.thunks _ id found).of_postpone,
          Option.eq_none_iff_forall_ne_some.mpr fun id found => before (dated.thunks _ id found)]

end

/-! ## Literals and sequences that share an older node -/

/-- A slot with a node that may be shared. -/
def Shares (g : Grammar ω ρ) (id : NodeId) : Prop := ∃ key, g.shared.find? key = some id

/-- The literals and sequences that a grammar has come to know have new slots or share a
node. -/
structure Gains (g g' : Grammar ω ρ) : Prop where
  literals : ∀ l id, g'.literals.find? l = some id →
    g.literals.find? l = some id ∨ g.size ≤ id.number ∨ g'.Shares id
  sequences : ∀ place id, g'.sequences.find? place = some id →
    g.sequences.find? place = some id ∨ g.size ≤ id.number ∨ g'.Shares id

theorem Gains.refl (g : Grammar ω ρ) : g.Gains g :=
  ⟨fun _ _ found => .inl found, fun _ _ found => .inl found⟩

theorem Gains.trans {g middle g' : Grammar ω ρ} (first : g.Gains middle)
    (second : middle.Gains g') (size : g.size ≤ middle.size)
    (kept : ∀ key id, middle.shared.find? key = some id → g'.shared.find? key = some id) :
    g.Gains g' := by
  have shares : ∀ {id}, middle.Shares id → g'.Shares id := fun ⟨key, found⟩ =>
    ⟨key, kept key _ found⟩
  constructor
  · intro l id found
    rcases second.literals l id found with before | new | shared
    · exact (first.literals l id before).imp_right (Or.imp_right shares)
    · exact .inr (.inl (Nat.le_trans size new))
    · exact .inr (.inr shared)
  · intro place id found
    rcases second.sequences place id found with before | new | shared
    · exact (first.sequences place id before).imp_right (Or.imp_right shares)
    · exact .inr (.inl (Nat.le_trans size new))
    · exact .inr (.inr shared)

theorem Gains.of_tables {g g' : Grammar ω ρ} (literals : g'.literals = g.literals)
    (sequences : g'.sequences = g.sequences) : g.Gains g' := by
  refine ⟨fun l id found => .inl ?_, fun place id found => .inl ?_⟩
  · rw [← literals]
    exact found
  · rw [← sequences]
    exact found

theorem Gains.noteNode (g : Grammar ω ρ) (own : Option Place) (slot : NodeId) :
    g.Gains (g.widened.noteNode own slot) := by
  cases own <;> exact .of_tables rfl rfl

theorem Gains.finish (g : Grammar ω ρ) (slot : NodeId) (blueprint : Blueprint ω ρ)
    (children : Vector NodeId blueprint.arity) :
    g.Gains (g.finish slot blueprint children).2 := by
  rcases finish_cases g slot blueprint children with ⟨_, _, _, _, whole⟩ | ⟨_, whole⟩
  all_goals rw [whole]
  · exact .of_tables rfl rfl
  · cases g.keyOf blueprint children <;> exact .of_tables rfl rfl

theorem finish_keeps_shared (g : Grammar ω ρ) (slot : NodeId) (blueprint : Blueprint ω ρ)
    (children : Vector NodeId blueprint.arity) (key : String) (id : NodeId)
    (listed : g.shared.find? key = some id) :
    (g.finish slot blueprint children).2.shared.find? key = some id := by
  rcases finish_cases g slot blueprint children with ⟨_, _, _, _, whole⟩ | ⟨unlisted, whole⟩
  all_goals rw [whole]
  · exact listed
  · cases isKey : g.keyOf blueprint children with
    | none => exact listed
    | some own =>
        show (g.shared.insert own slot).find? key = some id
        rw [Table.find?_insert, if_neg]
        · exact listed
        · rintro rfl
          rw [unlisted key isKey] at listed
          cases listed

/-- A new node takes a new slot, or leads to a node that it shares. -/
theorem Tidy.finish_shares {g : Grammar ω ρ} (tidy : g.Tidy) {slot : NodeId}
    (reserved : g.slot? slot = some .reserved) (blueprint : Blueprint ω ρ)
    (children : Vector NodeId blueprint.arity) :
    (g.finish slot blueprint children).2.follow (g.finish slot blueprint children).1 =
        (g.finish slot blueprint children).1 ∧
      ((g.finish slot blueprint children).1 = slot ∨
        (g.finish slot blueprint children).2.Shares (g.finish slot blueprint children).1) := by
  rcases finish_cases g slot blueprint children with
    ⟨key, existing, _, listed, whole⟩ | ⟨_, whole⟩
  all_goals rw [whole]
  · obtain ⟨node, ready, _⟩ := (tidy.shared key existing).mp listed
    have elsewhere := follow_ne_reserved_of_ready reserved ready
    refine ⟨?_, .inr ⟨key, listed⟩⟩
    rw [tidy.acyclic.follow_fill_forward_target reserved elsewhere, follow_of_ready ready]
  · refine ⟨?_, .inl rfl⟩
    apply follow_of_ready
    rw [slot?_fill (by rw [size_share]; exact slot?_lt reserved), if_pos rfl]

/-- A new node has a slot from a mark on, or that of a node which it shares. -/
def Errand.Settles (mark : Nat) (g : Grammar ω ρ) (id : NodeId) : Errand ω ρ → Prop
  | .node _ _ _ _ => g.follow id = id ∧ (mark ≤ id.number ∨ g.Shares id)
  | _ => True

theorem Resolves.gains {rules : Rules ω ρ} {errand : Errand ω ρ} {g g' : Grammar ω ρ}
    {result : Except ResolveError NodeId} (resolves : Resolves rules errand g result g')
    (tidy : g.Tidy) :
    g.Gains g' ∧ ∀ id, result = .ok id → errand.Settles g.size g' id := by
  induction resolves with
  | new_node _ _ induction | failed_literal _ _ _ induction | failed_sequence _ _ induction
  | rule _ induction | delayed _ induction | parser _ induction =>
      exact ⟨(induction tidy).1, fun _ _ => trivial⟩
  | @new_literal g g' l blueprint children place id unknown _ resolves induction =>
      obtain ⟨gains, ends⟩ := induction tidy
      obtain ⟨stays, new⟩ := ends id rfl
      rw [stays]
      refine ⟨⟨fun other found there => ?_, gains.sequences⟩, fun _ _ => trivial⟩
      rw [show (g'.noteLiteral l id).literals = g'.literals.insert l id from rfl,
        Table.find?_insert] at there
      split at there
      next =>
        cases there
        exact .inr new
      next => exact gains.literals other found there
  | @new_sequence g g' count parts place id unknown resolves induction =>
      obtain ⟨gains, ends⟩ := induction tidy
      obtain ⟨_, new⟩ := ends id rfl
      refine ⟨⟨gains.literals, fun other found there => ?_⟩, fun _ _ => trivial⟩
      rw [show (g'.noteSequence place id).sequences = g'.sequences.insert place id from rfl,
        Table.find?_insert] at there
      split at there
      next =>
        cases there
        exact .inr new
      next => exact gains.sequences other found there
  | @failed_child g g' own blueprint children place slot states ids failed error unknown last
      begins resolved failing steps fails =>
      have tidyStart : (states 0).Tidy := begins ▸ tidy.noteNode last
      have noted : g.Grows (states 0) := begins ▸ .noteNode last unknown
      have within := Nat.le_of_lt failed.isLt
      obtain ⟨grows, tidyHere, _⟩ :=
        settled_of_children tidyStart within resolved (Nat.zero_le _) (Nat.le_refl _)
      have gains := kept_of_children (fun count => (states 0).Gains (states count)) tidyStart
        (.refl _) within resolved fun index earlier grows _ tidyHere gains =>
          gains.trans (steps index earlier tidyHere).1 grows.size
            ((resolved index earlier).keeps tidyHere).1.shared.kept
      have start : g.Gains (states 0) := begins ▸ .noteNode g own slot
      have more := (failing.keeps tidyHere).1
      exact ⟨start.trans (gains.trans (fails tidyHere).1 grows.size more.shared.kept)
        noted.size (grows.trans more).shared.kept, by simp⟩
  | @made g own blueprint children place slot states ids given unknown last begins resolved _
      steps =>
      have tidyStart : (states 0).Tidy := begins ▸ tidy.noteNode last
      have noted : g.Grows (states 0) := begins ▸ .noteNode last unknown
      have resolvedAll : ∀ index : Fin blueprint.arity, index < blueprint.arity → _ :=
        fun index _ => resolved index
      obtain ⟨grows, tidyHere, reserved⟩ := reserved_after_children tidy last begins resolved
      have gains := kept_of_children (fun count => (states 0).Gains (states count)) tidyStart
        (.refl _) (Nat.le_refl _) resolvedAll fun index earlier grows _ tidyHere gains =>
          gains.trans (steps index tidyHere).1 grows.size
            ((resolved index).keeps tidyHere).1.shared.kept
      have start : g.Gains (states 0) := begins ▸ .noteNode g own slot
      refine ⟨(start.trans gains noted.size grows.shared.kept).trans
        (.finish _ slot blueprint given)
        (noted.trans grows).size (finish_keeps_shared _ slot blueprint given), ?_⟩
      intro id succeeds
      cases succeeds
      obtain ⟨stays, new⟩ := tidyHere.finish_shares reserved blueprint given
      refine ⟨stays, new.imp_left fun same => ?_⟩
      rw [same, last]
  | @failed_body g g' thunk label _ slot _ unknown last resolves induction
  | @circular g g' thunk label _ slot _ unknown last resolves _ induction =>
      have noted : g.Gains (g.widened.noteThunk thunk label slot) := .of_tables rfl rfl
      exact ⟨noted.trans (induction (tidy.noteThunk last)).1 (Grows.noteThunk last unknown).size
        (resolves.keeps (tidy.noteThunk last)).1.shared.kept, fun _ _ => trivial⟩
  | @unfolded g g' thunk label _ slot _ unknown last resolves elsewhere induction =>
      have noted : g.Gains (g.widened.noteThunk thunk label slot) := .of_tables rfl rfl
      obtain ⟨literals, sequences⟩ := noted.trans (induction (tidy.noteThunk last)).1
        (Grows.noteThunk last unknown).size (resolves.keeps (tidy.noteThunk last)).1.shared.kept
      exact ⟨⟨literals, sequences⟩, fun _ _ => trivial⟩
  | no_slot_for_node => exact ⟨.refl _, by simp⟩
  | _ => exact ⟨.refl _, fun _ _ => trivial⟩

end Grammar

end Packrat
