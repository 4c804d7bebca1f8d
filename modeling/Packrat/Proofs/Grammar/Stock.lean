import Packrat.Proofs.Combinator.Pace
import Packrat.Proofs.Grammar.WellFormed

/-!
# Nodes that only the library has a part in

A node is the library's in full if its kind is: then nobody else's leaf decides what it
matches.  Nodes of this sort that call only each other are `Stocked`.  Whatever else is in
the grammar, a run among them stays inside the input, and there is a number of calls that
none of them ever needs more than.
-/

namespace Packrat

variable {ω ρ : Type}

/-- A node of the library's kinds calls only its children. -/
theorem Resolved.IsOf.mem_children {node : Resolved ω ρ} {kind : Kind ω ρ}
    {given : Fin kind.arity → Child} (isOf : node.IsOf kind given) {input : Input ω}
    {position : Nat} {called : NodeId}
    (calls : node.matcher.Calls input position called (node.matcher.start input position)) :
    called ∈ node.children := by
  have within : (kind.plan.map given).matcher.Within (· ∈ node.children) := by
    refine Plan.within_matcher (fun index => ?_) kind.plan
    rw [isOf.children]
    exact List.mem_ofFn.mpr ⟨index, rfl⟩
  rw [isOf.matcher] at calls
  exact within.calls (within.start input position) calls

/-- No caller has data of the empty type, so nothing has to be written. -/
instance : Printable Empty := ⟨Empty.elim⟩

namespace Grammar

/-- A slot that leads to a node is one. -/
theorem lt_size_of_ready {g : Grammar ω ρ} {id : NodeId} {node : Resolved ω ρ}
    (ready : g.slot? (g.follow id) = some (.ready node)) : id.number < g.size := by
  by_contra large
  rw [follow_of_size_le (Nat.le_of_not_lt large)] at ready
  exact large (slot?_lt ready)

theorem Tidy.resolved_lt {g : Grammar ω ρ} (tidy : g.Tidy) {rules : Rules ω ρ} {place : Place}
    {reference : Reference ω ρ} {id : NodeId}
    (found : (g.resolve rules place reference).1 = .ok id) :
    id.number < (g.resolve rules place reference).2.size := by
  rcases resolve_resolves rules g place reference with
    ⟨root, g', resolved, resolves⟩ | ⟨error, g', resolved, _⟩
  · rw [resolved] at found ⊢
    cases found
    obtain ⟨_, tidyThen, settles⟩ := resolves.keeps tidy
    exact tidyThen.acyclic.follow_lt tidyThen.forwards (settles root rfl).1
  · rw [resolved] at found
    cases found

variable [BEq ω] [Printable ω]

/-- Slots that lead to nodes of the library's kinds, whose children are among them. -/
def Stocked (g : Grammar ω ρ) (allowed : NodeId → Prop) : Prop :=
  ∀ id, allowed id → ∃ node kind children, g.slot? (g.follow id) = some (.ready node) ∧
    kind.Stock ∧ node.IsOf kind children ∧ ∀ child ∈ node.children, allowed child

/-- Parsers and rules that are made of the library's kinds of nodes, with any nodes that
are resolved already. -/
def StockOnly (rules : Rules ω ρ) (reference : Reference ω ρ) : Prop :=
  ∃ named : String → Prop,
    (∀ name, named name → (rules name).MadeOf Kind.Stock named fun _ _ => True) ∧
    reference.MadeOf Kind.Stock named fun _ _ => True

theorem Grown.eachNode {g : Grammar ω ρ} (grown : Grown StockOnly g) :
    g.EachNode fun node => ∃ kind children, kind.Stock ∧ node.IsOf kind children := by
  induction grown with
  | empty number kind => exact .empty number kind
  | resolve place admitted earlier induction =>
      obtain ⟨named, closed, made⟩ := admitted
      exact induction.resolve earlier.tidy.1 closed made
        (fun kind stock g given => ⟨kind, _, stock, isOf_assembled kind g given⟩) place

/-- Where nothing but parsers of the library's kinds was resolved, all slots are stocked. -/
theorem Grown.stocked {g : Grammar ω ρ} (grown : Grown StockOnly g) :
    g.Stocked fun id => id.number < g.size := by
  intro id small
  obtain ⟨tidy, complete⟩ := grown.tidy
  obtain ⟨node, ready⟩ := complete.ready tidy small
  obtain ⟨kind, children, stock, isOf⟩ := grown.eachNode _ _ ready
  exact ⟨node, kind, children, ready, stock, isOf, tidy.children _ _ ready⟩

theorem StockOnly.consume {rules : Rules ω ρ} {part : Reference ω ρ}
    (stockOnly : StockOnly rules part) : StockOnly rules (.consume part) := by
  obtain ⟨named, closed, made⟩ := stockOnly
  refine ⟨named, closed, ?_⟩
  apply @Reference.MadeOf.node _ _ _ _ _ .consume _ (fun _ => trivial) trivial
  intro index
  dsimp only
  split
  next => exact made
  next => exact @Reference.MadeOf.node _ _ _ _ _ .endOfInput _ (fun _ => trivial) trivial nofun

/-- A slot leads to a node of the library's kinds, and so do all the slots below it. -/
def InStock (g : Grammar ω ρ) (id : NodeId) : Prop :=
  ∃ allowed, g.Stocked allowed ∧ allowed id

theorem Grown.inStock {g : Grammar ω ρ} (grown : Grown StockOnly g) {id : NodeId}
    (small : id.number < g.size) : g.InStock id :=
  ⟨_, grown.stocked, small⟩

namespace InStock

variable {g g' : Grammar ω ρ} {id other : NodeId} {node : Resolved ω ρ}

theorem exists_node (inStock : g.InStock id) :
    ∃ node kind children, g.slot? (g.follow id) = some (.ready node) ∧
      kind.Stock ∧ node.IsOf kind children ∧ ∀ child ∈ node.children, g.InStock child := by
  obtain ⟨allowed, stocked, isAllowed⟩ := inStock
  obtain ⟨node, kind, children, ready, stock, isOf, each⟩ := stocked id isAllowed
  exact ⟨node, kind, children, ready, stock, isOf,
    fun child isChild => ⟨allowed, stocked, each child isChild⟩⟩

theorem of_node (ready : g.slot? (g.follow id) = some (.ready node)) {kind : Kind ω ρ}
    {children : Fin kind.arity → Child} (isOf : node.IsOf kind children) (stock : kind.Stock)
    (each : ∀ child ∈ node.children, g.InStock child) : g.InStock id := by
  refine ⟨fun other => g.InStock other ∨ other = id, ?_, .inr rfl⟩
  rintro other (inStock | rfl)
  · obtain ⟨node, kind, children, ready, stock, isOf, each⟩ := inStock.exists_node
    exact ⟨node, kind, children, ready, stock, isOf, fun child isChild => .inl (each child isChild)⟩
  · exact ⟨node, kind, children, ready, stock, isOf, fun child isChild => .inl (each child isChild)⟩

theorem lt_size (inStock : g.InStock id) : id.number < g.size :=
  have ⟨_, _, _, ready, _⟩ := inStock.exists_node
  lt_size_of_ready ready

theorem congr (inStock : g.InStock id) (same : g.follow id = g.follow other) :
    g.InStock other := by
  obtain ⟨node, kind, children, ready, stock, isOf, each⟩ := inStock.exists_node
  exact of_node (same ▸ ready) isOf stock each

theorem grows (inStock : g.InStock id) (more : g.Grows g') (tidy : g.Tidy)
    (tidyThen : g'.Tidy) : g'.InStock id := by
  refine ⟨g.InStock, fun other otherInStock => ?_, inStock⟩
  obtain ⟨node, kind, children, ready, stock, isOf, each⟩ := otherInStock.exists_node
  refine ⟨node, kind, children, ?_, stock, isOf, each⟩
  rw [more.follow_eq_of_ready tidy tidyThen ready]
  exact more.kept ready

end InStock

namespace Stocked

variable {g : Grammar ω ρ} {allowed : NodeId → Prop}

theorem runs (stocked : g.Stocked allowed) (acyclic : g.Acyclic) {id : NodeId}
    (isAllowed : allowed id) (input : Input ω) :
    ∃ calls, ∀ position, position ≤ input.length →
      (g.matcherAt (g.spot id position)).Runs allowed input position calls
        ((g.matcherAt (g.spot id position)).start input position) := by
  obtain ⟨node, kind, children, ready, stock, isOf, each⟩ := stocked id isAllowed
  refine ⟨kind.plan.calls input.length, fun position inside => ?_⟩
  rw [matcherAt_spot acyclic ready, isOf.matcher]
  refine Plan.runs_matcher (fun index => each _ ?_) stock.keeps inside
  rw [isOf.children]
  exact List.mem_ofFn.mpr ⟨index, rfl⟩

/-- There is a number of calls that no stocked node needs more than. -/
theorem exists_runs (stocked : g.Stocked allowed) (acyclic : g.Acyclic) (input : Input ω) :
    ∃ calls, ∀ id, allowed id → ∀ position, position ≤ input.length →
      (g.matcherAt (g.spot id position)).Runs allowed input position calls
        ((g.matcherAt (g.spot id position)).start input position) := by
  suffices below : ∀ count, ∃ calls, ∀ id : NodeId, id.number < count → allowed id →
      ∀ position, position ≤ input.length →
        (g.matcherAt (g.spot id position)).Runs allowed input position calls
          ((g.matcherAt (g.spot id position)).start input position) by
    obtain ⟨calls, each⟩ := below g.size
    exact ⟨calls, fun id isAllowed => each id (InStock.lt_size ⟨_, stocked, isAllowed⟩) isAllowed⟩
  intro count
  induction count with
  | zero => exact ⟨0, nofun⟩
  | succ count induction =>
      obtain ⟨calls, each⟩ := induction
      by_cases last : ∃ id : NodeId, id.number = count ∧ allowed id
      · obtain ⟨id, number, isAllowed⟩ := last
        obtain ⟨more, runs⟩ := stocked.runs acyclic isAllowed input
        refine ⟨max calls more, fun other small otherAllowed position inside => ?_⟩
        rcases Nat.lt_succ_iff_lt_or_eq.mp small with earlier | same
        · exact (each other earlier otherAllowed position inside).mono (Nat.le_max_left ..)
        · obtain rfl : other = id := Index.ext (same.trans number.symm)
          exact (runs position inside).mono (Nat.le_max_right ..)
      · refine ⟨calls, fun other small otherAllowed => each other ?_ otherAllowed⟩
        have different : other.number ≠ count := fun same => last ⟨other, same, otherAllowed⟩
        omega

end Stocked

end Grammar

end Packrat
