import Packrat.Diagnostic.Window
import Mathlib.Data.UInt

/-!
# Columns of a line

Where widths add up, the characters of a line lie one beside the other: each occupies as many
columns as it takes alone, after those of the characters before it.  So the characters between
two places of the line occupy the columns between the widths up to the places.
-/

namespace Packrat

namespace Typesetter

/-- Characters take as many columns together as one beside the other. -/
def Additive (typesetter : Typesetter) : Prop :=
  ∀ front back,
    typesetter.columns (front ++ back) = typesetter.columns front + typesetter.columns back

/-- A character of a line occupies a column. -/
def Occupies (typesetter : Typesetter) (chars : List Char) (index column : Nat) : Prop :=
  ∃ c, chars[index]? = some c ∧ typesetter.columns (chars.take index) ≤ column ∧
    column < typesetter.columns (chars.take index) + typesetter.columns [c]

variable {typesetter : Typesetter} (additive : typesetter.Additive) {chars : List Char}
  {start stop index column : Nat}

include additive

theorem Additive.columns_nil : typesetter.columns [] = 0 := by
  have twice := additive [] []
  rw [List.append_nil] at twice
  omega

theorem Additive.columns_take_le (ordered : start ≤ stop) :
    typesetter.columns (chars.take start) ≤ typesetter.columns (chars.take stop) := by
  obtain ⟨more, rfl⟩ := Nat.exists_eq_add_of_le ordered
  rw [List.take_add, additive]
  exact Nat.le_add_right _ _

/-- Characters that take one column each take as many columns as there are. -/
theorem Additive.columns_eq_length (narrow : ∀ c ∈ chars, typesetter.columns [c] = 1) :
    typesetter.columns chars = chars.length := by
  induction chars with
  | nil => exact additive.columns_nil
  | cons c chars induction =>
      rw [← List.singleton_append, additive, narrow c List.mem_cons_self,
        induction fun d member => narrow d (List.mem_cons_of_mem _ member), List.length_append]
      rfl

/-- Characters that take one column each occupy the columns that they are counted by. -/
theorem Additive.occupies_iff_eq (inside : index < chars.length)
    (narrow : ∀ c ∈ chars.take (index + 1), typesetter.columns [c] = 1) :
    typesetter.Occupies chars index column ↔ column = index := by
  have isChar := List.getElem?_eq_getElem inside
  have here : chars[index] ∈ chars.take (index + 1) := by
    rw [List.take_succ_eq_append_getElem inside]
    exact List.mem_append_right _ List.mem_cons_self
  have before : ∀ c ∈ chars.take index, typesetter.columns [c] = 1 := by
    intro c member
    exact narrow c (List.take_subset_take_left _ (Nat.le_succ _) member)
  rw [Occupies, additive.columns_eq_length before, List.length_take,
    Nat.min_eq_left (Nat.le_of_lt inside)]
  constructor
  · rintro ⟨c, isHere, above, below⟩
    obtain rfl := Option.some.inj (isChar.symm.trans isHere)
    rw [narrow _ here] at below
    omega
  · rintro rfl
    exact ⟨_, isChar, Nat.le_refl _, by rw [narrow _ here]; omega⟩

theorem occupies_iff :
    typesetter.Occupies chars index column ↔
      typesetter.columns (chars.take index) ≤ column ∧
        column < typesetter.columns (chars.take (index + 1)) := by
  rw [List.take_add_one, additive, Occupies]
  cases chars[index]? with
  | none => simp [additive.columns_nil]
  | some c => simp

/-- The characters between two places of a line occupy the columns between the widths up to the
places. -/
theorem exists_occupies_iff :
    (∃ index, start ≤ index ∧ index < stop ∧ typesetter.Occupies chars index column) ↔
      typesetter.columns (chars.take start) ≤ column ∧
        column < typesetter.columns (chars.take stop) := by
  constructor
  · rintro ⟨index, after, before, occupies⟩
    obtain ⟨above, below⟩ := (occupies_iff additive).mp occupies
    exact ⟨Nat.le_trans (additive.columns_take_le after) above,
      Nat.lt_of_lt_of_le below (additive.columns_take_le before)⟩
  · rintro ⟨above, below⟩
    -- The last place up to which the width does not exceed the column is that of the character.
    induction stop with
    | zero => simp [additive.columns_nil] at below
    | succ stop induction =>
        rcases Nat.lt_or_ge column (typesetter.columns (chars.take stop)) with earlier | reached
        · obtain ⟨index, after, before, occupies⟩ := induction earlier
          exact ⟨index, after, Nat.lt_succ_of_lt before, occupies⟩
        · refine ⟨stop, Nat.le_of_not_lt fun late => ?_, Nat.lt_succ_self _,
            (occupies_iff additive).mpr ⟨reached, below⟩⟩
          exact Nat.lt_irrefl _
            (Nat.lt_of_lt_of_le (Nat.lt_of_lt_of_le below (additive.columns_take_le late)) above)

/-- What stands behind other characters occupies columns behind theirs. -/
theorem occupies_append_iff {front : List Char} :
    typesetter.Occupies (front ++ chars) (front.length + index) column ↔
      ∃ within, column = typesetter.columns front + within ∧
        typesetter.Occupies chars index within := by
  simp only [Occupies, List.getElem?_append_right (Nat.le_add_right _ _), Nat.add_sub_cancel_left,
    List.take_length_add_append, additive _ (chars.take index)]
  constructor
  · rintro ⟨c, isChar, above, below⟩
    exact ⟨column - typesetter.columns front, by omega, c, isChar, by omega, by omega⟩
  · rintro ⟨within, rfl, c, isChar, above, below⟩
    exact ⟨c, isChar, by omega, by omega⟩

omit additive in
/-- What stands before the end of a row does not depend on what comes after it. -/
theorem occupies_append_left_iff {back : List Char} (inside : index < chars.length) :
    typesetter.Occupies (chars ++ back) index column ↔ typesetter.Occupies chars index column := by
  rw [Occupies, Occupies, List.getElem?_append_left inside,
    List.take_append_of_le_length (Nat.le_of_lt inside)]

omit additive

/-- Characters that are measured alone, one after another. -/
def sideBySide (width : Char → Nat) : Typesetter :=
  ⟨fun chars => (chars.map width).sum, Wrap.wrap, Wrap.wrap_ne_nil⟩

theorem sideBySide_additive (width : Char → Nat) : (sideBySide width).Additive :=
  fun front back => by simp [sideBySide]

@[simp] theorem columns_sideBySide (width : Char → Nat) (chars : List Char) :
    (sideBySide width).columns chars = (chars.map width).sum := rfl

end Typesetter

/-- The columns between two places of a line that are not past its end. -/
theorem Window.columnsBetween_eq {typesetter : Typesetter} (additive : typesetter.Additive)
    {chars : List Char} {start stop : UInt32} (ordered : start.toNat ≤ stop.toNat)
    (inside : stop.toNat ≤ chars.length) (countable : chars.length < UInt32.size) :
    typesetter.columns (chars.take start.toNat) + columnsBetween typesetter chars start stop =
      typesetter.columns (chars.take stop.toNat) := by
  have first : min start stop = start := if_pos (UInt32.le_iff_toNat_le.mpr ordered)
  have noBlanks : stop.toNat - (max (UInt32.ofNat chars.length) start).toNat = 0 := by
    rw [UInt32.toNat_max, UInt32.toNat_ofNat_of_lt' countable]
    omega
  have whole : chars.take stop.toNat =
      chars.take start.toNat ++ (chars.drop start.toNat).take (stop.toNat - start.toNat) := by
    rw [← List.take_add, Nat.add_sub_cancel' ordered]
  simp only [columnsBetween, first, noBlanks, Nat.add_zero]
  rw [whole, additive]

end Packrat
