import Packrat.Proofs.Grammar.Lettering
import Packrat.Proofs.Grammar.Recall

/-!
# Nodes for whole inputs

A node for the whole input is a pair of another node and the end of the input, and the
other node never comes back to it.  Such a node is what the whole-input form of a node is
resolved to, whether the pair is new or is there already.
-/

namespace Packrat

theorem Place.child_ne (place : Place) (index : Nat) : place.child index ≠ place := by
  intro same
  exact List.cons_ne_self _ _ (congrArg Place.path same)

namespace Grammar

variable {ω ρ : Type}

/-- A slot leads to a node of a kind with these children. -/
def Has (g : Grammar ω ρ) (id : NodeId) (kind : Kind ω ρ) (children : Fin kind.arity → Child) :
    Prop :=
  ∃ node, g.slot? (g.follow id) = some (.ready node) ∧ node.IsOf kind children

/-- Slots that lead to nodes, whose children are among them. -/
def Family (g : Grammar ω ρ) (among : NodeId → Prop) : Prop :=
  ∀ id, among id → ∃ node, g.slot? (g.follow id) = some (.ready node) ∧
    ∀ child ∈ node.children, among child

/-- A node for what another one matches and then the end of the input. -/
structure Whole (g : Grammar ω ρ) (root node : NodeId) : Prop where
  parts : ∃ children, g.Has node .consume children ∧
    g.follow (children ⟨0, Nat.two_pos⟩).id = g.follow root ∧
    ∃ nothing, g.Has (children ⟨1, Nat.one_lt_two⟩).id .endOfInput nothing
  apart : ∃ among, g.Family among ∧ among root ∧
    ∀ id, among id → id.number < g.size ∧ g.follow node ≠ g.follow id

theorem Whole.congr {g : Grammar ω ρ} {root node other : NodeId} (whole : g.Whole root node)
    (same : g.follow node = g.follow other) : g.Whole root other := by
  obtain ⟨⟨children, ⟨content, ready, isOf⟩, parts⟩, among, family, isAmong, apart⟩ := whole
  rw [same] at ready
  exact ⟨⟨children, ⟨content, ready, isOf⟩, parts⟩, among, family, isAmong,
    fun id there => ⟨(apart id there).1, same ▸ (apart id there).2⟩⟩

/-! ## Later grammars -/

section

variable {g g' : Grammar ω ρ} (more : g.Grows g') (tidy : g.Tidy) (tidyThen : g'.Tidy)

include more tidy tidyThen

theorem Has.grows {id : NodeId} {kind : Kind ω ρ} {children : Fin kind.arity → Child}
    (has : g.Has id kind children) : g'.Has id kind children := by
  obtain ⟨node, ready, isOf⟩ := has
  refine ⟨node, ?_, isOf⟩
  rw [more.follow_eq_of_ready tidy tidyThen ready]
  exact more.kept ready

theorem Family.grows {among : NodeId → Prop} (family : g.Family among) : g'.Family among := by
  intro id isAmong
  obtain ⟨node, ready, each⟩ := family id isAmong
  refine ⟨node, ?_, each⟩
  rw [more.follow_eq_of_ready tidy tidyThen ready]
  exact more.kept ready

theorem Whole.grows (complete : g.Complete) {root node : NodeId} (whole : g.Whole root node) :
    g'.Whole root node := by
  obtain ⟨⟨children, has, same, nothing, ends⟩, among, family, isAmong, apart⟩ := whole
  have stays : ∀ {id : NodeId}, id.number < g.size → g'.follow id = g.follow id :=
    fun small => more.follow_eq tidy complete tidyThen small
  have ⟨content, ready, isOf⟩ := has
  have parts : ∀ index, (children index).id.number < g.size := by
    intro index
    apply tidy.children _ _ ready
    rw [isOf.children]
    exact List.mem_ofFn.mpr ⟨index, rfl⟩
  refine ⟨⟨children, has.grows more tidy tidyThen, ?_, nothing, ends.grows more tidy tidyThen⟩,
    among, family.grows more tidy tidyThen,
    isAmong, fun id there => ⟨Nat.lt_of_lt_of_le (apart id there).1 more.size, ?_⟩⟩
  · rw [stays (parts _), same, stays (apart root isAmong).1]
  · rw [more.follow_eq_of_ready tidy tidyThen ready, stays (apart id there).1]
    exact (apart id there).2

end

/-- A node for a whole input is in stock if the other node is. -/
theorem Whole.inStock [BEq ω] [Printable ω] {g : Grammar ω ρ} {root node : NodeId}
    (whole : g.Whole root node) (inStock : g.InStock root) : g.InStock node := by
  obtain ⟨children, ⟨content, ready, isOf⟩, leads, nothing, ⟨leaf, leafReady, isEnd⟩⟩ := whole.parts
  refine .of_node ready isOf trivial fun child isChild => ?_
  rw [isOf.children] at isChild
  obtain ⟨⟨_ | _ | _, bound⟩, rfl⟩ := List.mem_ofFn.mp isChild
  · exact inStock.congr leads.symm
  · refine .of_node leafReady isEnd trivial fun child isChild => ?_
    rw [isEnd.children] at isChild
    cases isChild
  · exact absurd bound (Nat.not_lt.mpr (Nat.le_add_left 2 _))

/-! ## Nodes that are made -/

/-- Keys that are listed end as keys do. -/
theorem Lettered.getLast?_ne {g : Grammar ω ρ} (lettered : g.Lettered) (tidy : g.Tidy)
    (key : String) (id : NodeId) (listed : g.shared.find? key = some id) :
    key.toList.getLast? ≠ some '(' := by
  obtain ⟨node, ready, hasKey⟩ := (tidy.shared key id).mp listed
  obtain ⟨_, _, _, _, _, spells⟩ := lettered id node key ready hasKey
  exact spells.getLast?_ne

/-- The node that is listed under the key of a kind and some children is of this kind and
has such children. -/
theorem Letters.isOf {g : Grammar ω ρ} {node : Resolved ω ρ} {key : String}
    (letters : g.Letters node key)
    (closed : ∀ key id, g.shared.find? key = some id → key.toList.getLast? ≠ some '(')
    {kind : Kind ω ρ} (native : kind.Native g.kind) (cacheable : kind.cacheable = true)
    {given : Fin kind.arity → NodeId}
    (spells : g.Spells kind.blueprint given key) :
    ∃ children, node.IsOf kind children ∧
      ∀ index, g.follow (children index).id = g.follow (given index) := by
  obtain ⟨blueprint, children, genuine, mayShare, madeAs, spelled⟩ := letters
  obtain ⟨name, arity, text, follow⟩ := spells.inj closed spelled
  have matcher := genuine mayShare kind native cacheable name arity text fun index =>
    children (index.cast arity.symm)
  refine ⟨fun index => children (index.cast arity.symm), ⟨madeAs.name.trans name, ?_,
    madeAs.matcher.trans matcher⟩, fun index => follow (index.cast arity.symm)⟩
  rw [madeAs.children]
  exact List.ofFn_congr arity fun index => (children index).id

section Finish

variable {g : Grammar ω ρ} (tidy : g.Tidy) (lettered : g.Lettered) {slot : NodeId}
  (reserved : g.slot? slot = some .reserved) (kind : Kind ω ρ) (native : kind.Native g.kind)
  (given : Vector NodeId kind.blueprint.arity)

include tidy lettered reserved native

/-- A node ends as one of its kind, and if that is an old one, it has a key. -/
theorem Tidy.finish_isOf :
    ∃ node children,
      (g.finish slot kind.blueprint given).2.slot? (g.finish slot kind.blueprint given).1 =
        some (.ready node) ∧ node.IsOf kind children ∧
      (∀ index, (g.finish slot kind.blueprint given).2.follow (children index).id =
        (g.finish slot kind.blueprint given).2.follow (given.get index)) ∧
      ((g.finish slot kind.blueprint given).1 = slot ∨ node.key ≠ none) := by
  have small := slot?_lt reserved
  rcases finish_cases g slot kind.blueprint given with
    ⟨key, existing, isKey, listed, whole⟩ | ⟨_, whole⟩
  all_goals rw [whole]
  · obtain ⟨node, ready, hasKey⟩ := (tidy.shared key existing).mp listed
    obtain ⟨cacheable, spells⟩ := spells_of_keyOf tidy isKey
    obtain ⟨children, isOf, same⟩ := (lettered existing node key ready hasKey).isOf
      (lettered.getLast?_ne tidy) native cacheable spells
    have elsewhere := ne_reserved_of_ready reserved ready
    have follow := tidy.acyclic.follow_fill_forward reserved
      (follow_ne_reserved_of_ready reserved ready)
    refine ⟨node, children, ?_, isOf, fun index => ?_, .inr (by simp [hasKey])⟩
    · rw [slot?_fill small, if_neg elsewhere]
      exact ready
    · rw [follow, follow, same]
  · refine ⟨g.assembled kind.blueprint given, _, ?_, isOf_assembled kind g given, fun _ => rfl,
      .inl rfl⟩
    rw [slot?_fill (by rw [size_share]; exact small), if_pos rfl]

end Finish

/-! ## Nodes that come back to themselves have no key -/

/-- The children of a node that has a key have shorter keys. -/
theorem Letters.child {g : Grammar ω ρ} {node : Resolved ω ρ} {key : String}
    (letters : g.Letters node key) (tidy : g.Tidy) {child : NodeId}
    (isChild : child ∈ node.children) :
    ∃ content shorter, g.slot? (g.follow child) = some (.ready content) ∧
      content.key = some shorter ∧ shorter.length < key.length := by
  obtain ⟨_, children, _, _, madeAs, leaf | ⟨_, keys, isKey, each⟩⟩ := letters
  all_goals
    rw [madeAs.children] at isChild
    obtain ⟨index, rfl⟩ := List.mem_ofFn.mp isChild
  · have inside := index.isLt
    have none := leaf.1
    omega
  · obtain ⟨content, ready, hasKey⟩ := (tidy.shared _ _).mp (each index)
    refine ⟨content, _, ready, hasKey, ?_⟩
    rw [isKey]
    exact length_lt_branchKey (List.mem_ofFn.mpr ⟨index, rfl⟩)

/-- A slot leads to a node whose key is of some length at most. -/
def HasKeyWithin (g : Grammar ω ρ) (bound : Nat) (id : NodeId) : Prop :=
  id.number < g.size ∧ ∃ node key, g.slot? (g.follow id) = some (.ready node) ∧
    node.key = some key ∧ key.length ≤ bound

theorem Lettered.family {g : Grammar ω ρ} (lettered : g.Lettered) (tidy : g.Tidy)
    (bound : Nat) : g.Family (g.HasKeyWithin bound) := by
  rintro id ⟨_, node, key, ready, hasKey, short⟩
  refine ⟨node, ready, fun child isChild => ?_⟩
  obtain ⟨content, shorter, childReady, childKey, less⟩ :=
    (lettered _ node key ready hasKey).child tidy isChild
  exact ⟨tidy.children _ _ ready child isChild, content, shorter, childReady, childKey,
    Nat.le_of_lt (Nat.lt_of_lt_of_le less short)⟩

/-- A node that has a key does not come back from its children. -/
theorem Lettered.apart {g : Grammar ω ρ} (lettered : g.Lettered) (tidy : g.Tidy)
    {id root child : NodeId} {node : Resolved ω ρ}
    (ready : g.slot? (g.follow id) = some (.ready node)) (hasKey : node.key ≠ none)
    (isChild : child ∈ node.children) (leads : g.follow child = g.follow root)
    (small : root.number < g.size) :
    ∃ among, g.Family among ∧ among root ∧
      ∀ other, among other → other.number < g.size ∧ g.follow id ≠ g.follow other := by
  obtain ⟨key, isKey⟩ := Option.ne_none_iff_exists'.mp hasKey
  obtain ⟨content, shorter, childReady, childKey, less⟩ :=
    (lettered _ node key ready isKey).child tidy isChild
  rw [leads] at childReady
  refine ⟨_, lettered.family tidy shorter.length,
    ⟨small, content, shorter, childReady, childKey, Nat.le_refl _⟩, ?_⟩
  rintro other ⟨otherSmall, otherNode, otherKey, otherReady, isOther, short⟩
  refine ⟨otherSmall, fun same => ?_⟩
  rw [← same, ready] at otherReady
  cases otherReady
  rw [isKey] at isOther
  cases isOther
  omega

theorem Complete.family {g : Grammar ω ρ} (complete : g.Complete) (tidy : g.Tidy) :
    g.Family fun id => id.number < g.size := by
  intro id small
  obtain ⟨node, ready⟩ := complete.ready tidy small
  exact ⟨node, ready, tidy.children _ _ ready⟩

/-- A slot that is new is apart from all the older ones. -/
theorem Grows.apart {g g' : Grammar ω ρ} (grows : g.Grows g') (tidy : g.Tidy)
    (complete : g.Complete) (tidyThen : g'.Tidy) {id root : NodeId}
    (new : g.size ≤ (g'.follow id).number) (small : root.number < g.size) :
    ∃ among, g'.Family among ∧ among root ∧
      ∀ other, among other → other.number < g'.size ∧ g'.follow id ≠ g'.follow other := by
  refine ⟨_, (complete.family tidy).grows grows tidy tidyThen, small, fun other there =>
    ⟨Nat.lt_of_lt_of_le there grows.size, ?_⟩⟩
  intro same
  have old := tidy.acyclic.follow_lt tidy.forwards there
  rw [same, grows.follow_eq tidy complete tidyThen there] at new
  omega

/-! ## Making the pair -/

/-- A pair of an older node and the end of the input is made, or is there already. -/
theorem Grows.whole_finish {g h : Grammar ω ρ} {slot root : NodeId}
    {given : Vector NodeId (Kind.consume : Kind ω ρ).blueprint.arity} {leaf : Resolved ω ρ}
    {nothing : Fin 0 → Child}
    (grows : g.Grows (h.finish slot Kind.consume.blueprint given).2) (tidy : g.Tidy)
    (complete : g.Complete)
    (tidyHere : h.Tidy) (lettered : h.Lettered) (reserved : h.slot? slot = some .reserved)
    (new : g.size ≤ slot.number) (small : root.number < g.size)
    (isRoot : given.get ⟨0, Nat.two_pos⟩ = root)
    (ready : h.slot? (given.get ⟨1, Nat.one_lt_two⟩) = some (.ready leaf))
    (isEnd : leaf.IsOf .endOfInput nothing) :
    (h.finish slot Kind.consume.blueprint given).2.Whole root
      (h.finish slot Kind.consume.blueprint given).1 := by
  obtain ⟨node, children, isReady, isOf, alike, which⟩ :=
    tidyHere.finish_isOf lettered reserved .consume trivial given
  have within : ∀ index : Fin (Kind.consume : Kind ω ρ).blueprint.arity,
      (given.get index).number < h.size := by
    have inside := slot?_lt reserved
    rintro ⟨_ | _ | _, bound⟩
    · change (given.get ⟨0, Nat.two_pos⟩).number < h.size
      rw [isRoot]
      omega
    · exact slot?_lt ready
    · exact absurd bound (Nat.not_lt.mpr (Nat.le_add_left 2 _))
  obtain ⟨tidyThen, _, others, _⟩ := tidyHere.finish reserved within
  have elsewhere := ne_reserved_of_ready reserved ready
  have leafStays := (others _ elsewhere).trans ready
  have leafLeads := (alike ⟨1, Nat.one_lt_two⟩).trans (follow_of_ready leafStays)
  have rootLeads := (alike ⟨0, Nat.two_pos⟩).trans (congrArg _ isRoot)
  have stays := follow_of_ready isReady
  refine ⟨⟨children, ⟨node, stays.symm ▸ isReady, isOf⟩, rootLeads, nothing,
    ⟨leaf, ?_, isEnd⟩⟩, ?_⟩
  · exact (congrArg (Grammar.slot? _) leafLeads).trans leafStays
  rcases which with isNew | hasKey
  · apply grows.apart tidy complete tidyThen _ small
    rw [stays, isNew]
    exact new
  · have letteredThen := lettered.finish tidyHere reserved
      (Kind.blueprint_genuine .consume trivial) given
    refine letteredThen.apart tidyThen (stays.symm ▸ isReady) hasKey ?_ rootLeads
      (Nat.lt_of_lt_of_le small grows.size)
    rw [isOf.children]
    exact List.mem_ofFn.mpr ⟨_, rfl⟩

/-! ## Resolving the pair -/

/-- To resolve what is known changes nothing. -/
theorem Resolves.of_known {rules : Rules ω ρ} {reference : Reference ω ρ} {place : Place}
    {g g' : Grammar ω ρ} {result : Except ResolveError NodeId}
    (resolves : Resolves rules (.written reference place) g result g') {id : NodeId}
    (known : g.known? reference place = some id) : result = .ok id ∧ g' = g := by
  induction reference generalizing place with
  | node blueprint children =>
      cases resolves with
      | known_node found => exact ⟨congrArg _ (Option.some.inj (found.symm.trans known)), rfl⟩
      | new_node unknown => cases unknown.symm.trans known
  | literal data =>
      cases resolves with
      | known_literal found => exact ⟨congrArg _ (Option.some.inj (found.symm.trans known)), rfl⟩
      | refused_literal unknown | new_literal unknown | failed_literal unknown =>
          cases unknown.symm.trans known
  | sequence count parts =>
      cases resolves with
      | known_sequence found => exact ⟨congrArg _ (Option.some.inj (found.symm.trans known)), rfl⟩
      | new_sequence unknown | failed_sequence unknown => cases unknown.symm.trans known
  | rule name =>
      cases resolves with
      | rule unfolding =>
          cases unfolding with
          | known_thunk found =>
              exact ⟨congrArg _ (Option.some.inj (found.symm.trans known)), rfl⟩
          | no_slot_for_thunk unknown | failed_body unknown | circular unknown
          | unfolded unknown => cases unknown.symm.trans known
  | delayed label body =>
      cases resolves with
      | delayed unfolding =>
          cases unfolding with
          | known_thunk found =>
              exact ⟨congrArg _ (Option.some.inj (found.symm.trans known)), rfl⟩
          | no_slot_for_thunk unknown | failed_body unknown | circular unknown
          | unfolded unknown => cases unknown.symm.trans known
  | handle number node =>
      rw [known?] at known
      split at known
      next own =>
        cases known
        cases resolves with
        | foreign_handle different => exact absurd own.1 different
        | own_handle => exact ⟨rfl, rfl⟩
        | unknown_handle large => exact absurd own.2 (Nat.not_lt.mpr large)
      next => cases known
  | parser identity body induction =>
      cases resolves with
      | parser inner => exact induction inner known

/-- A leaf is resolved unless there is no slot left. -/
theorem Resolves.leaf {rules : Rules ω ρ} (kind : Kind ω ρ)
    (native : ∀ input, kind.Native input) (arity : kind.arity = 0)
    {children : Fin kind.blueprint.arity → Reference ω ρ} {place : Place} {g g' : Grammar ω ρ}
    {result : Except ResolveError NodeId}
    (resolves : Resolves rules (.written (.node kind.blueprint children) place) g result g')
    (unknown : g.nodes.find? place = none) (tidy : g.Tidy) (lettered : g.Lettered) :
    (capacity ≤ g.size ∧ ∃ error, result = .error error) ∨ ∃ id node nothing,
      result = .ok id ∧ g'.slot? id = some (.ready node) ∧ node.IsOf kind nothing ∧
        g'.Lettered := by
  cases resolves with
  | known_node found => cases unknown.symm.trans found
  | new_node _ made =>
      cases made with
      | no_slot_for_node full => exact .inl ⟨full, _, rfl⟩
      | @failed_child _ _ _ _ _ _ _ _ _ failed => exact (failed.cast arity).elim0
      | @made _ _ _ _ _ slot states ids given noted last begins resolved isGiven =>
          have here : states kind.blueprint.arity = g.widened.noteNode (some place) slot :=
            (congrArg states arity).trans begins
          have tidyHere : (g.widened.noteNode (some place) slot).Tidy := tidy.noteNode last
          have letteredHere := lettered.noteNode tidy last noted
          have reserved := slot?_noteNode (g := g) last (some place)
          rw [← here] at tidyHere letteredHere reserved
          obtain ⟨node, nothing, ready, isOf, _⟩ :=
            tidyHere.finish_isOf letteredHere reserved kind (native _) given
          exact .inr ⟨_, node, nothing, rfl, ready, isOf,
            letteredHere.finish tidyHere reserved (kind.blueprint_genuine (native _)) given⟩

section

variable {rules : Rules ω ρ} {place : Place} {g g' : Grammar ω ρ}
  {result : Except ResolveError NodeId} (tidy : g.Tidy) (lettered : g.Lettered)
  (unknown : g.nodes.find? place = none) (unknownEnd : g.nodes.find? (place.child 1) = none)

include tidy lettered unknown unknownEnd

/-- The end of the input is resolved as the second part of a pair. -/
theorem Resolves.secondPart {slot : NodeId} (last : slot.number = g.size)
    (resolves : Resolves rules (.written .endOfInput (place.child 1))
      (g.widened.noteNode (some place) slot) result g') :
    (capacity < g.size + 2 ∧ ∃ error, result = .error error) ∨ ∃ id node nothing,
      result = .ok id ∧ g'.slot? id = some (.ready node) ∧ node.IsOf .endOfInput nothing ∧
        g'.Lettered := by
  have unknownHere :
      (g.widened.noteNode (some place) slot).nodes.find? (place.child 1) = none := by
    show (g.nodes.insert place slot).find? _ = _
    rw [Table.find?_insert, if_neg (place.child_ne 1)]
    exact unknownEnd
  rcases resolves.leaf .endOfInput (fun _ => trivial) rfl unknownHere (tidy.noteNode last)
    (lettered.noteNode tidy last unknown) with ⟨full, fails⟩ | found
  · rw [size_noteNode, size_widened] at full
    exact .inl ⟨by omega, fails⟩
  · exact .inr found

/-- What is written for a known node and then the end of the input is resolved to a node
for the whole input, unless there are no slots left. -/
theorem Resolves.whole {part : Reference ω ρ}
    (resolves : Resolves rules (.written (.consume part) place) g result g')
    (complete : g.Complete) {root : NodeId}
    (small : root.number < g.size) (knows : g.Knows part (place.child 0) root) :
    (capacity < g.size + 2 ∧ ∃ error, result = .error error) ∨
      ∃ id, result = .ok id ∧ g'.Whole root id := by
  obtain ⟨grows, _⟩ := resolves.keeps tidy
  change Resolves rules (.written (.node (Kind.consume : Kind ω ρ).blueprint _) place) g result
    g' at resolves
  cases resolves with
  | known_node found => cases unknown.symm.trans found
  | new_node _ made =>
      have noted {slot : NodeId} (last : slot.number = g.size) :
          (g.widened.noteNode (some place) slot).Knows part (place.child 0) root :=
        (show g.Grows (g.widened.noteNode (some place) slot) from
          .noteNode last unknown).knows tidy complete (tidy.noteNode last) knows
      cases made with
      | no_slot_for_node full => exact .inl ⟨by omega, _, rfl⟩
      | @failed_child _ _ _ _ _ _ slot states ids failed error _ last begins resolved fails =>
          obtain ⟨there, known, _⟩ := begins ▸ noted last
          obtain ⟨_ | _ | _, bound⟩ := failed
          · cases (fails.of_known known).1
          · obtain ⟨_, same⟩ := (resolved ⟨0, Nat.two_pos⟩ Nat.one_pos).of_known known
            change Resolves rules _ (states (0 + 1)) _ _ at fails
            rw [same, begins] at fails
            rcases fails.secondPart tidy lettered unknown unknownEnd last with
              ⟨full, _⟩ | ⟨_, _, _, impossible, _⟩
            · exact .inl ⟨full, _, rfl⟩
            · cases impossible
          · exact absurd bound (Nat.not_lt.mpr (Nat.le_add_left 2 _))
      | @made _ _ _ _ _ slot states ids given _ last begins resolved isGiven =>
          obtain ⟨there, known, leads⟩ := begins ▸ noted last
          obtain ⟨isThere, same⟩ := (resolved ⟨0, Nat.two_pos⟩).of_known known
          have second := resolved ⟨1, Nat.one_lt_two⟩
          change Resolves rules _ (states (0 + 1)) _ _ at second
          rw [same, begins] at second
          rcases second.secondPart tidy lettered unknown unknownEnd last with
            ⟨_, _, impossible⟩ | ⟨ending, leaf, nothing, isEnding, ready, isEnd, letteredHere⟩
          · cases impossible
          · obtain ⟨_, tidyHere, reserved⟩ := reserved_after_children tidy last begins resolved
            refine .inr ⟨_, rfl, grows.whole_finish tidy complete tidyHere letteredHere reserved
              (Nat.le_of_eq last.symm) small ?_ ?_ isEnd⟩
            · rw [isGiven, Except.ok.inj isThere]
              exact (congrArg (follow · there) same).trans leads
            · rw [isGiven, Except.ok.inj isEnding]
              exact (congrArg (slot? _) (follow_of_ready ready)).trans ready

end

/-! ## Places of whole-input forms -/

/-- Nothing is written at the whole-input form of a node. -/
def Errand.Elsewhere (root : NodeId) : Errand ω ρ → Prop
  | .written _ place => place.origin ≠ .consumer root
  | .node own _ _ place =>
    place.origin ≠ .consumer root ∧ ∀ here, own = some here → here.origin ≠ .consumer root
  | .unfolding _ _ _ => True

theorem find?_noteNode_of_ne {g : Grammar ω ρ} {own : Option Place} {slot : NodeId}
    {place : Place} (different : ∀ here, own = some here → here ≠ place) :
    (g.widened.noteNode own slot).nodes.find? place = g.nodes.find? place := by
  cases own with
  | none => rfl
  | some here =>
      show (g.nodes.insert here slot).find? place = _
      rw [Table.find?_insert, if_neg (different here rfl).symm]

/-- Only what is written at the whole-input form of a node is noted there. -/
theorem Resolves.nodes_elsewhere {rules : Rules ω ρ} {errand : Errand ω ρ} {g g' : Grammar ω ρ}
    {result : Except ResolveError NodeId} (resolves : Resolves rules errand g result g')
    {root : NodeId} (elsewhere : errand.Elsewhere root) {place : Place}
    (isConsumer : place.origin = .consumer root) :
    g'.nodes.find? place = g.nodes.find? place := by
  have chain : ∀ {states : Nat → Grammar ω ρ} {count : Nat},
      (∀ index : Fin count,
        (states (index + 1)).nodes.find? place = (states index).nodes.find? place) →
      (states count).nodes.find? place = (states 0).nodes.find? place := by
    intro states count steps
    apply holds_after_steps fun g : Grammar ω ρ =>
        g.nodes.find? place = (states 0).nodes.find? place
    · rfl
    · exact fun index before => (steps index).trans before
  have notHere : ∀ {here : Place}, here.origin ≠ .consumer root → here ≠ place := by
    rintro here different rfl
    exact different isConsumer
  induction resolves with
  | known_node | known_literal | refused_literal | known_sequence | foreign_handle | own_handle
  | unknown_handle | no_slot_for_node | known_thunk | no_slot_for_thunk => rfl
  | new_node _ _ induction =>
      exact induction ⟨elsewhere, fun here same => Option.some.inj same ▸ elsewhere⟩
  | new_literal _ _ _ induction | failed_literal _ _ _ induction
  | new_sequence _ _ induction | failed_sequence _ _ induction =>
      exact induction ⟨elsewhere, nofun⟩
  | rule _ induction | delayed _ induction => exact induction trivial
  | parser _ induction => exact induction nofun
  | @failed_child g g' own blueprint children place slot states ids failed error _ _ begins _ _
      steps fails =>
      refine (fails elsewhere.1).trans ((chain fun index => ?_).trans ?_)
      · exact steps ⟨index, Nat.lt_trans index.isLt failed.isLt⟩ index.isLt elsewhere.1
      · rw [begins]
        exact find?_noteNode_of_ne fun here same => notHere (elsewhere.2 here same)
  | @made g own blueprint children place slot states ids given _ _ begins _ _ steps =>
      rw [nodes_finish]
      refine (chain fun index => steps index elsewhere.1).trans ?_
      rw [begins]
      exact find?_noteNode_of_ne fun here same => notHere (elsewhere.2 here same)
  | failed_body _ _ _ induction | circular _ _ _ _ induction | unfolded _ _ _ _ induction =>
      exact induction nofun

theorem Tidy.nodes_resolve {g : Grammar ω ρ} (tidy : g.Tidy) (rules : Rules ω ρ)
    {place : Place} (reference : Reference ω ρ) {root : NodeId}
    (elsewhere : place.origin ≠ .consumer root) {other : Place}
    (isConsumer : other.origin = .consumer root) :
    (g.resolve rules place reference).2.nodes.find? other = g.nodes.find? other := by
  rcases resolve_resolves rules g place reference with
    ⟨id, g', resolved, resolves⟩ | ⟨error, g', resolved, resolves⟩
  all_goals rw [resolved]
  · exact resolves.nodes_elsewhere elsewhere isConsumer
  · obtain ⟨grows, tidyThen, _⟩ := resolves.keeps tidy
    exact grows.nodes_rollback tidy tidyThen other

/-- A call that fails leaves the table of nodes alone. -/
theorem Tidy.nodes_of_failed {g : Grammar ω ρ} (tidy : g.Tidy) {rules : Rules ω ρ}
    {place : Place} {reference : Reference ω ρ} {error : ResolveError}
    (fails : (g.resolve rules place reference).1 = .error error) (other : Place) :
    (g.resolve rules place reference).2.nodes.find? other = g.nodes.find? other := by
  rcases resolve_resolves rules g place reference with
    ⟨id, g', resolved, _⟩ | ⟨_, g', resolved, resolves⟩
  · rw [resolved] at fails
    cases fails
  · rw [resolved]
    obtain ⟨grows, tidyThen, _⟩ := resolves.keeps tidy
    exact grows.nodes_rollback tidy tidyThen other

/-! ## Grammars of genuine parsers -/

/-- A known node and then the end of the input are resolved to a node for the whole
input, unless there are no slots left. -/
theorem Grown.resolve_whole {g : Grammar ω ρ} (grown : Grown GenuineOnly g) {rules : Rules ω ρ}
    {place : Place} {part : Reference ω ρ} (unknown : g.nodes.find? place = none)
    (unknownEnd : g.nodes.find? (place.child 1) = none) {root : NodeId}
    (small : root.number < g.size) (knows : g.Knows part (place.child 0) root) :
    (capacity < g.size + 2 ∧ ∃ error, (g.resolve rules place (.consume part)).1 = .error error) ∨
      ∃ id, (g.resolve rules place (.consume part)).1 = .ok id ∧
        (g.resolve rules place (.consume part)).2.Whole root id := by
  obtain ⟨tidy, complete⟩ := grown.tidy
  rcases resolve_resolves rules g place (.consume part) with
    ⟨id, g', resolved, resolves⟩ | ⟨error, g', resolved, resolves⟩
  · rcases resolves.whole tidy grown.lettered unknown unknownEnd complete small knows with
      ⟨_, _, impossible⟩ | ⟨found, isFound, whole⟩
    · cases impossible
    · cases isFound
      rw [resolved]
      exact .inr ⟨_, rfl,
        whole.congr ((resolves.keeps tidy).2.1.acyclic.follow_follow id).symm⟩
  · rcases resolves.whole tidy grown.lettered unknown unknownEnd complete small knows with
      ⟨full, _⟩ | ⟨_, impossible, _⟩
    · exact .inl ⟨full, error, by rw [resolved]⟩
    · cases impossible

end Grammar

end Packrat
