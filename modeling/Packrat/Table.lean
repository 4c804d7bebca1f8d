/-!
# Tables

A small map from keys to values, as a list of pairs in which every key stands once.
-/

namespace Packrat

/-- A map from keys to values. -/
structure Table (κ α : Type) where
  entries : List (κ × α)

namespace Table

variable {κ α : Type} [DecidableEq κ]

def empty : Table κ α := ⟨[]⟩

/-- The value of a key. -/
def find? (table : Table κ α) (key : κ) : Option α := table.entries.lookup key

/-- Gives a key a value, in place of the one it had. -/
def insert (table : Table κ α) (key : κ) (value : α) : Table κ α :=
  ⟨(key, value) :: table.entries.filter fun entry => entry.1 != key⟩

/-- Keeps the keys whose value passes a test. -/
def keep (table : Table κ α) (test : α → Bool) : Table κ α :=
  ⟨table.entries.filter fun entry => test entry.2⟩

@[simp] theorem find?_empty (key : κ) : (empty : Table κ α).find? key = none := rfl

theorem lookup_filter_ne (entries : List (κ × α)) {key other : κ} (different : other ≠ key) :
    (entries.filter fun entry => entry.1 != key).lookup other = entries.lookup other := by
  induction entries with
  | nil => rfl
  | cons entry rest ih =>
    obtain ⟨name, value⟩ := entry
    by_cases same : name = key
    · subst same
      have : (other == name) = false := beq_eq_false_iff_ne.mpr different
      simp [List.lookup_cons, ih, this]
    · simp [List.lookup_cons, same, ih]

theorem find?_insert (table : Table κ α) (key other : κ) (value : α) :
    (table.insert key value).find? other =
      if other = key then some value else table.find? other := by
  by_cases same : other = key
  · subst same
    simp [insert, find?]
  · have : (other == key) = false := beq_eq_false_iff_ne.mpr same
    simp [insert, find?, List.lookup_cons, same, this, lookup_filter_ne table.entries same]

end Table

end Packrat
