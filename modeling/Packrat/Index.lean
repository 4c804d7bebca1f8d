/-!
# Indices into arenas

An arena hands out an `Index` for each thing it stores.  The arena is part of the
type, so a node is never mistaken for a frame, and the bound is part of the value, so
an arena that is full has no further index to give.
-/

namespace Packrat

/-- The two arenas: the nodes of a grammar and the frames of a run. -/
inductive Arena where
  | node
  | frame

/-- How many things one arena can hold. -/
def capacity : Nat := 4294967296

theorem capacity_pos : 0 < capacity := by decide

/-- The place of one thing in an arena. -/
structure Index (arena : Arena) where
  number : Nat
  inRange : number < capacity
deriving DecidableEq

namespace Index

variable {arena : Arena}

theorem ext {i j : Index arena} (h : i.number = j.number) : i = j := by
  cases i
  cases j
  cases h
  rfl

/-- The index of the next thing in an arena that holds `count` things. -/
def next? (count : Nat) : Option (Index arena) :=
  if h : count < capacity then some ⟨count, h⟩ else none

theorem next?_eq_some_iff {count : Nat} {i : Index arena} :
    next? count = some i ↔ i.number = count := by
  unfold next?
  split
  · constructor
    · intro h
      cases h
      rfl
    · intro h
      cases h
      rfl
  · rename_i full
    constructor
    · intro h
      cases h
    · intro h
      exact absurd (h ▸ i.inRange) full

/-- The index as it is written in reports: `#4`. -/
def tag (i : Index arena) : String := "#" ++ i.number.repr

/-- The index as a bare number. -/
def display (i : Index arena) : String := i.number.repr

instance : LT (Index arena) := ⟨fun i j => i.number < j.number⟩

instance : LE (Index arena) := ⟨fun i j => i.number ≤ j.number⟩

instance (i j : Index arena) : Decidable (i < j) :=
  inferInstanceAs (Decidable (i.number < j.number))

instance (i j : Index arena) : Decidable (i ≤ j) :=
  inferInstanceAs (Decidable (i.number ≤ j.number))

instance : Hashable (Index arena) := ⟨fun i => hash i.number⟩

end Index

/-- The identity of a node of a grammar. -/
abbrev NodeId := Index .node

/-- The identity of a frame of a run. -/
abbrev FrameId := Index .frame

end Packrat
