import Packrat.Index
import Packrat.Table
import Mathlib.Data.List.Nodup

/-!
# Tables

What is found in a table after entries are added or dropped.  A table built by adding and
dropping entries has every key once, so that an entry that is dropped uncovers no other.
-/

namespace Packrat

namespace Table

variable {κ α : Type}

/-- Every key stands once. -/
def Unique (table : Table κ α) : Prop := (table.entries.map Prod.fst).Nodup

theorem Unique.keep {table : Table κ α} (unique : table.Unique) (test : α → Bool) :
    (table.keep test).Unique :=
  List.Nodup.sublist (List.Sublist.map _ List.filter_sublist) unique

theorem Unique.empty : (⟨[]⟩ : Table κ α).Unique := List.nodup_nil

variable [DecidableEq κ]

theorem Unique.insert {table : Table κ α} (unique : table.Unique) (key : κ) (value : α) :
    (table.insert key value).Unique := by
  refine List.nodup_cons.mpr ⟨?_, ?_⟩
  · intro member
    obtain ⟨entry, kept, same⟩ := List.mem_map.mp member
    have different := (List.mem_filter.mp kept).2
    simp [same] at different
  · exact List.Nodup.sublist (List.Sublist.map _ List.filter_sublist) unique

theorem lookup_eq_none_of_not_mem {entries : List (κ × α)} {key : κ}
    (absent : key ∉ entries.map Prod.fst) : entries.lookup key = none := by
  induction entries with
  | nil => rfl
  | cons entry rest induction =>
      obtain ⟨name, value⟩ := entry
      simp only [List.map_cons, List.mem_cons, not_or] at absent
      rw [List.lookup_cons, beq_eq_false_iff_ne.mpr absent.1]
      exact induction absent.2

theorem find?_ne_none_of_mem {table : Table κ α} {key : κ}
    (member : key ∈ table.entries.map Prod.fst) : table.find? key ≠ none := by
  obtain ⟨entry, inside, rfl⟩ := List.mem_map.mp member
  intro absent
  have different := List.lookup_eq_none_iff.mp absent entry inside
  simp at different

/-- A new key goes in front of the others. -/
theorem keys_insert {table : Table κ α} {key : κ} (unknown : table.find? key = none) (value : α) :
    (table.insert key value).entries.map Prod.fst = key :: table.entries.map Prod.fst := by
  have all : table.entries.filter (fun entry => entry.1 != key) = table.entries := by
    apply List.filter_eq_self.mpr
    intro entry inside
    have different : key ≠ entry.1 := by
      simpa using List.lookup_eq_none_iff.mp unknown entry inside
    exact bne_iff_ne.mpr different.symm
  rw [insert, all, List.map_cons]

/-- What is found after dropping entries is what was found before, if it was kept. -/
theorem find?_keep {table : Table κ α} (unique : table.Unique) (test : α → Bool) (key : κ) :
    (table.keep test).find? key = (table.find? key).filter test := by
  obtain ⟨entries⟩ := table
  show (entries.filter fun entry => test entry.2).lookup key =
    (entries.lookup key).filter test
  induction entries with
  | nil => rfl
  | cons entry rest induction =>
      obtain ⟨name, value⟩ := entry
      obtain ⟨absent, uniqueRest⟩ := List.nodup_cons.mp unique
      by_cases same : key = name
      · subst same
        have dropped : (rest.filter fun entry => test entry.2).lookup key = none := by
          refine lookup_eq_none_of_not_mem fun member => absent ?_
          exact (List.Sublist.map _ List.filter_sublist).subset member
        cases kept : test value <;> simp [kept, dropped, Option.filter]
      · have different : (key == name) = false := beq_eq_false_iff_ne.mpr same
        have := induction uniqueRest
        cases kept : test value <;> simp [kept, List.lookup_cons, different, this]

theorem find?_keep_eq_some {table : Table κ α} (unique : table.Unique) {test : α → Bool}
    {key : κ} {value : α} :
    (table.keep test).find? key = some value ↔
      table.find? key = some value ∧ test value = true := by
  rw [find?_keep unique, Option.filter_eq_some_iff]

/-- A table of slots that has got more entries, all of them for slots from `mark` on. -/
structure Adds (mark : Nat) (table later : Table κ NodeId) : Prop where
  kept : ∀ key id, table.find? key = some id → later.find? key = some id
  fresh : ∀ key id, later.find? key = some id → id.number < mark → table.find? key = some id

namespace Adds

variable {mark more : Nat} {table middle later : Table κ NodeId}

theorem refl (mark : Nat) (table : Table κ NodeId) : table.Adds mark table :=
  ⟨fun _ _ found => found, fun _ _ found _ => found⟩

theorem of_same (same : ∀ key, later.find? key = table.find? key) : table.Adds mark later :=
  ⟨fun key _ found => (same key).trans found, fun key _ found _ => (same key).symm.trans found⟩

theorem trans (first : table.Adds mark middle) (second : middle.Adds more later)
    (grows : mark ≤ more) : table.Adds mark later :=
  ⟨fun key id found => second.kept key id (first.kept key id found),
    fun key id found old =>
      first.fresh key id (second.fresh key id found (Nat.lt_of_lt_of_le old grows)) old⟩

theorem insert {key : κ} {id : NodeId} (unknown : table.find? key = none)
    (new : mark ≤ id.number) : table.Adds mark (table.insert key id) := by
  constructor
  · intro other found there
    rw [Table.find?_insert, if_neg]
    · exact there
    · rintro rfl
      rw [unknown] at there
      cases there
  · intro other found there old
    rw [Table.find?_insert] at there
    split at there
    next =>
      cases there
      omega
    next => exact there

end Adds

/-- An entry of a table that got one more. -/
theorem find?_insert_lt {table : Table κ NodeId} {bound : Nat}
    (within : ∀ key id, table.find? key = some id → id.number < bound) {key : κ} {id : NodeId}
    (small : id.number < bound) (other : κ) (found : NodeId)
    (there : (table.insert key id).find? other = some found) : found.number < bound := by
  rw [Table.find?_insert] at there
  split at there
  next =>
    cases there
    exact small
  next => exact within other found there

/-- Dropping the new entries of a table brings back the older one. -/
theorem Adds.find?_keep {mark : Nat} {table later : Table κ NodeId}
    (adds : table.Adds mark later) (unique : later.Unique)
    (within : ∀ key id, table.find? key = some id → id.number < mark) (key : κ) :
    (later.keep fun id => id.number < mark).find? key = table.find? key := by
  apply Option.ext
  intro id
  rw [find?_keep_eq_some unique, decide_eq_true_iff]
  constructor
  · rintro ⟨found, old⟩
    exact adds.fresh key id found old
  · intro found
    exact ⟨adds.kept key id found, within key id found⟩

/-- Where a table has only got more entries, a key has the value that it had, or had none. -/
theorem find?_same_or_gained {table later : Table κ α} {gained : α → Prop}
    (kept : ∀ key value, table.find? key = some value → later.find? key = some value)
    (fresh : ∀ key value, later.find? key = some value →
      table.find? key = some value ∨ gained value) (key : κ) :
    later.find? key = table.find? key ∨
      table.find? key = none ∧ ∃ value, later.find? key = some value ∧ gained value := by
  cases before : table.find? key with
  | some value => exact .inl (kept key value before)
  | none =>
      cases found : later.find? key with
      | none => exact .inl rfl
      | some value =>
          refine .inr ⟨rfl, value, rfl, (fresh key value found).resolve_left ?_⟩
          rw [before]
          nofun

end Table

end Packrat
