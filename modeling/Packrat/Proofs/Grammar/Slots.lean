import Packrat.Grammar.Resolve
import Mathlib.Data.List.Perm.Subperm

/-!
# Slots and forwards

What a slot stands for is found by following forwards.  `Ends` says where they lead and
how many there are; since no slot is met twice, there are never more of them than slots,
and `follow` gets to the end.  The updates of a grammar's slots are described by what
they do to `follow`.
-/

namespace Packrat

namespace Grammar

variable {ω ρ : Type}

/-- The slot of an index. -/
def slot? (g : Grammar ω ρ) (id : NodeId) : Option (Slot ω ρ) := g.slots[id.number]?

/-- From a slot, so many forwards lead to a slot that is not forwarded. -/
inductive Ends (g : Grammar ω ρ) : Nat → NodeId → NodeId → Prop where
  | here {id : NodeId} : (∀ target, g.slot? id ≠ some (.forward target)) → Ends g 0 id id
  | forward {id target last : NodeId} {count : Nat} :
      g.slot? id = some (.forward target) → Ends g count target last →
      Ends g (count + 1) id last

/-- Every slot's forwards come to an end. -/
def Acyclic (g : Grammar ω ρ) : Prop := ∀ id, ∃ count last, g.Ends count id last

theorem slot?_lt {g : Grammar ω ρ} {id : NodeId} {slot : Slot ω ρ}
    (found : g.slot? id = some slot) : id.number < g.size :=
  (Array.getElem?_eq_some_iff.mp found).choose

theorem exists_slot? {g : Grammar ω ρ} {id : NodeId} (small : id.number < g.size) :
    ∃ slot, g.slot? id = some slot :=
  ⟨g.slots[id.number], Array.getElem?_eq_getElem small⟩

namespace Ends

variable {g : Grammar ω ρ} {id last : NodeId} {count : Nat}

theorem unique (ends : g.Ends count id last) {other : NodeId} {otherCount : Nat}
    (otherEnds : g.Ends otherCount id other) : count = otherCount ∧ last = other := by
  induction ends generalizing other otherCount with
  | here notForward =>
      cases otherEnds with
      | here => exact ⟨rfl, rfl⟩
      | forward forwards => exact absurd forwards (notForward _)
  | forward forwards _ induction =>
      cases otherEnds with
      | here notForward => exact absurd forwards (notForward _)
      | forward otherForwards rest =>
          rw [forwards] at otherForwards
          cases otherForwards
          obtain ⟨sameCount, sameLast⟩ := induction rest
          exact ⟨congrArg (· + 1) sameCount, sameLast⟩

theorem last_not_forward (ends : g.Ends count id last) (target : NodeId) :
    g.slot? last ≠ some (.forward target) := by
  induction ends with
  | here notForward => exact notForward target
  | forward _ _ induction => exact induction

/-- The slots on the way are different ones of the grammar. -/
theorem exists_path (ends : g.Ends count id last) :
    ∃ path : List Nat, path.length = count ∧ path.Nodup ∧
      ∀ number ∈ path, number < g.size ∧
        ∃ slot : NodeId, slot.number = number ∧
          ∃ left, left ≤ count ∧ g.Ends left slot last := by
  induction ends with
  | here => exact ⟨[], rfl, List.nodup_nil, by simp⟩
  | @forward id target last count forwards rest induction =>
      obtain ⟨path, length, different, within⟩ := induction
      refine ⟨id.number :: path, by simp [length], ?_, ?_⟩
      · refine List.nodup_cons.mpr ⟨fun member => ?_, different⟩
        obtain ⟨_, slot, number, left, atMost, slotEnds⟩ := within id.number member
        rw [Index.ext number] at slotEnds
        have := ((Ends.forward forwards rest).unique slotEnds).1
        omega
      · intro number member
        rcases List.mem_cons.mp member with rfl | later
        · exact ⟨slot?_lt forwards, id, rfl, count + 1, Nat.le_refl _,
            .forward forwards rest⟩
        · obtain ⟨small, slot, same, left, atMost, slotEnds⟩ := within number later
          exact ⟨small, slot, same, left, Nat.le_succ_of_le atMost, slotEnds⟩

theorem count_le_size (ends : g.Ends count id last) : count ≤ g.size := by
  obtain ⟨path, length, different, within⟩ := ends.exists_path
  have sub : path ⊆ List.range g.size :=
    fun number member => List.mem_range.mpr (within number member).1
  have := (different.subperm sub).length_le
  rw [List.length_range] at this
  omega

theorem followFrom_eq (ends : g.Ends count id last) {fuel : Nat} (enough : count ≤ fuel) :
    g.followFrom fuel id = last := by
  induction ends generalizing fuel with
  | @here id notForward =>
      cases fuel with
      | zero => rfl
      | succ fuel =>
          rw [followFrom]
          split
          next target forwards => exact absurd forwards (notForward target)
          next => rfl
  | forward forwards _ induction =>
      cases fuel with
      | zero => omega
      | succ fuel =>
          rw [followFrom, show g.slots[_]? = _ from forwards]
          exact induction (Nat.le_of_succ_le_succ enough)

/-- Following finds the end. -/
theorem follow_eq (ends : g.Ends count id last) : g.follow id = last :=
  ends.followFrom_eq ends.count_le_size

theorem trans {middle : NodeId} {more : Nat} (ends : g.Ends count id last) :
    ∀ {g' : Grammar ω ρ}, (∀ slot target, g.slot? slot = some (.forward target) →
        g'.slot? slot = some (.forward target)) →
      g'.Ends more last middle → g'.Ends (count + more) id middle := by
  induction ends with
  | here =>
      intro g' _ rest
      rw [Nat.zero_add]
      exact rest
  | forward forwards _ induction =>
      intro g' kept rest
      rw [Nat.add_right_comm]
      exact .forward (kept _ _ forwards) (induction kept rest)

end Ends

namespace Acyclic

variable {g : Grammar ω ρ} (acyclic : g.Acyclic)

include acyclic

theorem ends (id : NodeId) : ∃ count, g.Ends count id (g.follow id) := by
  obtain ⟨count, last, ends⟩ := acyclic id
  exact ⟨count, ends.follow_eq ▸ ends⟩

theorem slot?_follow (id target : NodeId) :
    g.slot? (g.follow id) ≠ some (.forward target) := by
  obtain ⟨_, ends⟩ := acyclic.ends id
  exact ends.last_not_forward target

end Acyclic

theorem follow_of_not_forward {g : Grammar ω ρ} {id : NodeId}
    (notForward : ∀ target, g.slot? id ≠ some (.forward target)) : g.follow id = id :=
  (Ends.here notForward).follow_eq

theorem Acyclic.follow_follow {g : Grammar ω ρ} (acyclic : g.Acyclic) (id : NodeId) :
    g.follow (g.follow id) = g.follow id :=
  follow_of_not_forward (acyclic.slot?_follow id)

theorem follow_of_ready {g : Grammar ω ρ} {id : NodeId} {node : Resolved ω ρ}
    (ready : g.slot? id = some (.ready node)) : g.follow id = id := by
  apply follow_of_not_forward
  intro target forwards
  rw [ready] at forwards
  cases forwards

theorem follow_of_reserved {g : Grammar ω ρ} {id : NodeId}
    (reserved : g.slot? id = some .reserved) : g.follow id = id := by
  apply follow_of_not_forward
  intro target forwards
  rw [reserved] at forwards
  cases forwards

/-- A slot outside the grammar stands for itself. -/
theorem follow_of_size_le {g : Grammar ω ρ} {id : NodeId} (large : g.size ≤ id.number) :
    g.follow id = id := by
  refine follow_of_not_forward fun target forwards => ?_
  have := slot?_lt forwards
  omega

theorem node?_of_ready {g : Grammar ω ρ} {id : NodeId} {node : Resolved ω ρ}
    (ready : g.slot? (g.follow id) = some (.ready node)) : g.node? id = some node := by
  unfold slot? at ready
  rw [node?, ready]

theorem slot?_of_node? {g : Grammar ω ρ} {id : NodeId} {node : Resolved ω ρ}
    (found : g.node? id = some node) : g.slot? (g.follow id) = some (.ready node) := by
  unfold node? at found
  split at found
  next ready =>
    cases found
    exact ready
  next => cases found

theorem Acyclic.node?_follow {g : Grammar ω ρ} (acyclic : g.Acyclic) (id : NodeId) :
    g.node? (g.follow id) = g.node? id := by
  rw [node?, node?, acyclic.follow_follow]

/-- Forwards lead to slots of the grammar. -/
def ForwardsWithin (g : Grammar ω ρ) : Prop :=
  ∀ id target, g.slot? id = some (.forward target) → target.number < g.size

theorem Ends.last_lt {g : Grammar ω ρ} {count : Nat} {id last : NodeId}
    (ends : g.Ends count id last) (within : g.ForwardsWithin) (small : id.number < g.size) :
    last.number < g.size := by
  induction ends with
  | here => exact small
  | forward forwards _ induction => exact induction (within _ _ forwards)

theorem Acyclic.follow_lt {g : Grammar ω ρ} (acyclic : g.Acyclic) (within : g.ForwardsWithin)
    {id : NodeId} (small : id.number < g.size) : (g.follow id).number < g.size := by
  obtain ⟨_, ends⟩ := acyclic.ends id
  exact ends.last_lt within small

/-! ## Grammars with the same slots -/

theorem followFrom_congr {g g' : Grammar ω ρ} (same : g'.slots = g.slots) (fuel : Nat)
    (id : NodeId) : g'.followFrom fuel id = g.followFrom fuel id := by
  induction fuel generalizing id with
  | zero => rfl
  | succ fuel induction =>
      rw [followFrom, followFrom, same]
      split
      next target _ => exact induction target
      next => rfl

theorem follow_congr {g g' : Grammar ω ρ} (same : g'.slots = g.slots) (id : NodeId) :
    g'.follow id = g.follow id := by
  rw [follow, follow, size, size, same, followFrom_congr same]

theorem node?_congr {g g' : Grammar ω ρ} (same : g'.slots = g.slots) (id : NodeId) :
    g'.node? id = g.node? id := by
  rw [node?, node?, same, follow_congr same]

theorem Ends.congr {g g' : Grammar ω ρ} (same : g'.slots = g.slots) {count : Nat}
    {id last : NodeId} (ends : g.Ends count id last) : g'.Ends count id last := by
  have slots : ∀ id, g'.slot? id = g.slot? id := fun id => by rw [slot?, slot?, same]
  induction ends with
  | here notForward => exact .here fun target => slots _ ▸ notForward target
  | forward forwards _ induction => exact .forward ((slots _).trans forwards) induction

theorem Acyclic.congr {g g' : Grammar ω ρ} (acyclic : g.Acyclic)
    (same : g'.slots = g.slots) : g'.Acyclic := by
  intro id
  obtain ⟨count, last, ends⟩ := acyclic id
  exact ⟨count, last, ends.congr same⟩

/-! ## A new slot -/

/-- The grammar with one more slot, which is reserved. -/
def widened (g : Grammar ω ρ) : Grammar ω ρ := { g with slots := g.slots.push .reserved }

@[simp] theorem size_widened (g : Grammar ω ρ) : g.widened.size = g.size + 1 := by
  simp [size, widened]

theorem slot?_widened (g : Grammar ω ρ) (id : NodeId) :
    g.widened.slot? id = if id.number = g.size then some .reserved else g.slot? id := by
  simp only [slot?, widened, Array.getElem?_push]
  rfl

theorem slot?_widened_forward {g : Grammar ω ρ} {id target : NodeId} :
    g.widened.slot? id = some (.forward target) ↔ g.slot? id = some (.forward target) := by
  rw [slot?_widened]
  split
  next last =>
    constructor
    · intro impossible
      cases impossible
    · intro forwards
      have := slot?_lt forwards
      omega
  next => exact Iff.rfl

theorem Ends.widened {g : Grammar ω ρ} {count : Nat} {id last : NodeId}
    (ends : g.Ends count id last) : g.widened.Ends count id last := by
  induction ends with
  | here notForward =>
      exact .here fun target forwards => notForward target (slot?_widened_forward.mp forwards)
  | forward forwards _ induction =>
      exact .forward (slot?_widened_forward.mpr forwards) induction

theorem Acyclic.widened {g : Grammar ω ρ} (acyclic : g.Acyclic) : g.widened.Acyclic := by
  intro id
  obtain ⟨count, last, ends⟩ := acyclic id
  exact ⟨count, last, ends.widened⟩

/-! ## Filling a slot -/

@[simp] theorem size_fill (g : Grammar ω ρ) (id : NodeId) (slot : Slot ω ρ) :
    (g.fill id slot).size = g.size := by
  simp [size, fill]

theorem slot?_fill {g : Grammar ω ρ} {id : NodeId} (small : id.number < g.size)
    (slot : Slot ω ρ) (other : NodeId) :
    (g.fill id slot).slot? other = if other = id then some slot else g.slot? other := by
  by_cases same : other = id
  · subst same
    rw [if_pos rfl]
    exact Array.getElem?_setIfInBounds_self_of_lt small
  · have different : id.number ≠ other.number := fun equal => same (Index.ext equal.symm)
    rw [if_neg same]
    exact Array.getElem?_setIfInBounds_ne different

section Reserved

variable {g : Grammar ω ρ} {slot : NodeId} (reserved : g.slot? slot = some .reserved)

include reserved

theorem ne_reserved_of_ready {id : NodeId} {node : Resolved ω ρ}
    (ready : g.slot? id = some (.ready node)) : id ≠ slot := by
  rintro rfl
  rw [reserved] at ready
  cases ready

theorem follow_ne_reserved_of_ready {id : NodeId} {node : Resolved ω ρ}
    (ready : g.slot? id = some (.ready node)) : g.follow id ≠ slot := by
  rw [follow_of_ready ready]
  exact ne_reserved_of_ready reserved ready

theorem slot?_fill_of_forward (content : Slot ω ρ) {id target : NodeId}
    (forwards : g.slot? id = some (.forward target)) :
    (g.fill slot content).slot? id = some (.forward target) := by
  rw [slot?_fill (slot?_lt reserved), if_neg]
  · exact forwards
  · rintro rfl
    rw [reserved] at forwards
    cases forwards

theorem Ends.fill_ready {count : Nat} {id last : NodeId} (ends : g.Ends count id last)
    (node : Resolved ω ρ) : (g.fill slot (.ready node)).Ends count id last := by
  induction ends with
  | here notForward =>
      refine .here fun target forwards => ?_
      rw [slot?_fill (slot?_lt reserved)] at forwards
      split at forwards
      next => cases forwards
      next => exact notForward target forwards
  | forward forwards _ induction =>
      exact .forward (slot?_fill_of_forward reserved _ forwards) induction

theorem Acyclic.fill_ready (acyclic : g.Acyclic) (node : Resolved ω ρ) :
    (g.fill slot (.ready node)).Acyclic := by
  intro id
  obtain ⟨count, last, ends⟩ := acyclic id
  exact ⟨count, last, ends.fill_ready reserved node⟩

theorem Acyclic.follow_fill_ready (acyclic : g.Acyclic) (node : Resolved ω ρ) (id : NodeId) :
    (g.fill slot (.ready node)).follow id = g.follow id := by
  obtain ⟨_, ends⟩ := acyclic.ends id
  exact (ends.fill_ready reserved node).follow_eq

/-- What did not lead to the slot that is forwarded leads where it did. -/
theorem Ends.fill_forward {count : Nat} {id last target : NodeId}
    (ends : g.Ends count id last) (elsewhere : last ≠ slot) :
    (g.fill slot (.forward target)).Ends count id last := by
  have stops := ends.last_not_forward
  refine Nat.add_zero count ▸ ends.trans (fun _ _ => slot?_fill_of_forward reserved _) (.here ?_)
  intro target forwards
  rw [slot?_fill (slot?_lt reserved), if_neg elsewhere] at forwards
  exact stops target forwards

theorem Ends.fill_forward_self {count more : Nat} {id target last : NodeId}
    (ends : g.Ends count id slot) (rest : g.Ends more target last) (elsewhere : last ≠ slot) :
    (g.fill slot (.forward target)).Ends (count + (more + 1)) id last := by
  refine ends.trans (fun _ _ => slot?_fill_of_forward reserved _)
    (.forward ?_ (rest.fill_forward reserved elsewhere))
  rw [slot?_fill (slot?_lt reserved), if_pos rfl]

theorem Acyclic.fill_forward (acyclic : g.Acyclic) {target : NodeId}
    (elsewhere : g.follow target ≠ slot) : (g.fill slot (.forward target)).Acyclic := by
  intro id
  obtain ⟨count, last, ends⟩ := acyclic id
  obtain ⟨_, rest⟩ := acyclic.ends target
  by_cases here : last = slot
  · subst here
    exact ⟨_, _, ends.fill_forward_self reserved rest elsewhere⟩
  · exact ⟨_, _, ends.fill_forward reserved here⟩

theorem Acyclic.follow_fill_forward (acyclic : g.Acyclic) {target : NodeId}
    (elsewhere : g.follow target ≠ slot) (id : NodeId) :
    (g.fill slot (.forward target)).follow id =
      if g.follow id = slot then g.follow target else g.follow id := by
  obtain ⟨_, ends⟩ := acyclic.ends id
  obtain ⟨_, rest⟩ := acyclic.ends target
  by_cases here : g.follow id = slot
  · rw [if_pos here]
    rw [here] at ends
    exact (ends.fill_forward_self reserved rest elsewhere).follow_eq
  · rw [if_neg here]
    exact (ends.fill_forward reserved here).follow_eq

/-- The forwarded slot leads where its target leads. -/
theorem Acyclic.follow_fill_forward_self (acyclic : g.Acyclic) {target : NodeId}
    (elsewhere : g.follow target ≠ slot) :
    (g.fill slot (.forward target)).follow slot = g.follow target := by
  rw [acyclic.follow_fill_forward reserved elsewhere, follow_of_reserved reserved, if_pos rfl]

/-- Forwarding a slot does not change where the target leads. -/
theorem Acyclic.follow_fill_forward_target (acyclic : g.Acyclic) {target : NodeId}
    (elsewhere : g.follow target ≠ slot) :
    (g.fill slot (.forward target)).follow target = g.follow target := by
  rw [acyclic.follow_fill_forward reserved elsewhere, if_neg elsewhere]

end Reserved

end Grammar

end Packrat
