/-!
# Carets

A caret is a line and a column of a text, both counted from zero.  Columns count
characters, and only a line feed ends a line.  Lines and columns are machine words, which
begin again at zero when they have run out.
-/

namespace Packrat

-- Numbers of lines and columns come from callers and go back to them as numbers.
scoped instance coeToNat : Coe UInt32 Nat := ⟨UInt32.toNat⟩

scoped instance coeOfNat : Coe Nat UInt32 := ⟨UInt32.ofNat⟩

/-- A place in a text, as a person finds it. -/
structure Caret where
  line : UInt32
  column : UInt32
deriving DecidableEq

namespace Caret

/-- The place of the first character. -/
def origin : Caret := ⟨0, 0⟩

instance : Inhabited Caret := ⟨origin⟩

/-- Carets are ordered by line and then by column. -/
instance : LE Caret :=
  ⟨fun a b => a.line < b.line ∨ (a.line = b.line ∧ a.column ≤ b.column)⟩

instance : LT Caret :=
  ⟨fun a b => a.line < b.line ∨ (a.line = b.line ∧ a.column < b.column)⟩

instance (a b : Caret) : Decidable (a ≤ b) :=
  inferInstanceAs (Decidable (a.line < b.line ∨ (a.line = b.line ∧ a.column ≤ b.column)))

instance (a b : Caret) : Decidable (a < b) :=
  inferInstanceAs (Decidable (a.line < b.line ∨ (a.line = b.line ∧ a.column < b.column)))

theorem le_def {a b : Caret} :
    a ≤ b ↔ a.line.toNat < b.line.toNat ∨
      (a.line.toNat = b.line.toNat ∧ a.column.toNat ≤ b.column.toNat) := by
  rw [UInt32.toNat_inj]
  exact Iff.rfl

theorem lt_def {a b : Caret} :
    a < b ↔ a.line.toNat < b.line.toNat ∨
      (a.line.toNat = b.line.toNat ∧ a.column.toNat < b.column.toNat) := by
  rw [UInt32.toNat_inj]
  exact Iff.rfl

theorem eq_iff {a b : Caret} :
    a = b ↔ a.line.toNat = b.line.toNat ∧ a.column.toNat = b.column.toNat := by
  rw [UInt32.toNat_inj, UInt32.toNat_inj]
  exact ⟨fun same => same ▸ ⟨rfl, rfl⟩, fun same => by cases a; cases b; simp_all⟩

theorem le_total (a b : Caret) : a ≤ b ∨ b ≤ a := by
  simp only [le_def]
  omega

theorem le_trans {a b c : Caret} (hab : a ≤ b) (hbc : b ≤ c) : a ≤ c := by
  simp only [le_def] at *
  omega

theorem le_antisymm {a b : Caret} (hab : a ≤ b) (hba : b ≤ a) : a = b := by
  simp only [le_def, eq_iff] at *
  omega

def earlier (a b : Caret) : Caret := if a ≤ b then a else b

def later (a b : Caret) : Caret := if a ≤ b then b else a

/-- The caret after a character that stands at this one. -/
def advance (c : Caret) (char : Char) : Caret :=
  if char = '\n' then ⟨c.line + 1, 0⟩ else ⟨c.line, c.column + 1⟩

/-- The caret after a run of characters. -/
def advanceAll (c : Caret) (chars : List Char) : Caret := chars.foldl advance c

/-- The caret of a position in a text; positions past the end are at the end. -/
def locate (chars : List Char) (position : Nat) : Caret :=
  origin.advanceAll (chars.take position)

/-- The caret as people write it, counted from one: `1:4`. -/
def display (c : Caret) : String :=
  (c.line + 1).toNat.repr ++ ":" ++ (c.column + 1).toNat.repr

@[simp] theorem advanceAll_nil (c : Caret) : c.advanceAll [] = c := rfl

@[simp] theorem advanceAll_cons (c : Caret) (char : Char) (chars : List Char) :
    c.advanceAll (char :: chars) = (c.advance char).advanceAll chars := rfl

end Caret

end Packrat
