import Packrat.Text

/-!
# Byte offsets

The table of a text lists the byte offsets of its positions, each larger than the one
before it.  So the place that is found in it by halving is that of the first offset that is
large enough, and at the offsets that it lists the text can be cut.
-/

namespace Packrat.Text

variable {t : Text} {position later : Nat}

theorem byteLength_append (first second : List Char) :
    byteLength (first ++ second) = byteLength first + byteLength second := by
  induction first with
  | nil => exact (Nat.zero_add _).symm
  | cons c first induction =>
      simp only [byteLength, List.cons_append, List.foldr_cons] at induction ⊢
      omega

theorem byteLength_pos {chars : List Char} (some : chars ≠ []) : 0 < byteLength chars := by
  obtain ⟨c, rest, rfl⟩ := List.exists_cons_of_ne_nil some
  exact Nat.add_pos_left c.utf8Size_pos _

/-! ## The table -/

theorem getElem?_offsetsFrom {chars : List Char} {index : Nat} (inside : index ≤ chars.length)
    (offset : Nat) :
    (offsetsFrom offset chars)[index]? = some (offset + byteLength (chars.take index)) := by
  induction chars generalizing offset index with
  | nil =>
      obtain rfl : index = 0 := Nat.le_zero.mp inside
      rfl
  | cons char chars induction =>
      cases index with
      | zero => rfl
      | succ index =>
          rw [offsetsFrom, List.getElem?_cons_succ, induction (Nat.le_of_succ_le_succ inside),
            List.take_succ_cons, Nat.add_assoc]
          rfl

/-- The byte offset of a position is how many bytes stand before it. -/
theorem byteOffset_eq (t : Text) (position : Nat) :
    t.byteOffset position = byteLength (t.chars.toList.take position) := by
  have short : min position t.length ≤ t.chars.toList.length := Nat.min_le_right _ _
  have entry := getElem?_offsetsFrom short 0
  have whole : t.chars.toList.take (min position t.length) = t.chars.toList.take position :=
    List.take_eq_take_min.symm
  rw [Nat.zero_add, whole, ← List.getElem?_toArray] at entry
  exact (Array.getElem?_eq_some_iff.mp entry).choose_spec

theorem getElem_offsets {index : Nat} (listed : index < t.offsets.size) :
    t.offsets[index] = t.byteOffset index := by
  have inside : index ≤ t.length := by
    rw [size_offsets] at listed
    omega
  simp only [byteOffset, Nat.min_eq_left inside]

theorem byteOffset_of_length_le (past : t.length ≤ position) :
    t.byteOffset position = t.byteOffset t.length := by
  simp only [byteOffset, Nat.min_eq_right past, Nat.min_self]

/-- What stands between two positions makes the difference of their offsets. -/
theorem byteOffset_lt (before : position < later) (inside : position < t.length) :
    t.byteOffset position < t.byteOffset later := by
  obtain ⟨more, rfl⟩ := Nat.exists_eq_add_of_lt before
  have inChars : position < t.chars.toList.length := inside
  have notEmpty : (t.chars.toList.drop position).take (more + 1) ≠ [] := by
    refine List.ne_nil_of_length_pos ?_
    rw [List.length_take, List.length_drop]
    omega
  rw [byteOffset_eq, byteOffset_eq, Nat.add_assoc, List.take_add, byteLength_append]
  exact Nat.lt_add_of_pos_right (byteLength_pos notEmpty)

theorem byteOffset_le (notAfter : position ≤ later) :
    t.byteOffset position ≤ t.byteOffset later := by
  rcases Nat.lt_or_eq_of_le notAfter with before | rfl
  · rcases Nat.lt_or_ge position t.length with inside | past
    · exact Nat.le_of_lt (byteOffset_lt before inside)
    · exact Nat.le_of_eq ((byteOffset_of_length_le past).trans
        (byteOffset_of_length_le (Nat.le_trans past notAfter)).symm)
  · exact Nat.le_refl _

theorem byteOffset_min (t : Text) (position later : Nat) :
    t.byteOffset (min position later) = min (t.byteOffset position) (t.byteOffset later) := by
  rcases Nat.le_total position later with ordered | ordered
  · rw [Nat.min_eq_left ordered, Nat.min_eq_left (byteOffset_le ordered)]
  · rw [Nat.min_eq_right ordered, Nat.min_eq_right (byteOffset_le ordered)]

/-! ## Halving -/

/-- A place in a table that parts the entries below a value from the others. -/
structure Parts (table : Array Nat) (value place : Nat) : Prop where
  below : ∀ index (_ : index < table.size), index < place → table[index] < value
  above : ∀ index (_ : index < table.size), place ≤ index → value ≤ table[index]

/-- Halving a part of an increasing table comes to the place that parts it, if all before the
part is below the value and all after it is not. -/
theorem search_parts {table : Array Nat} {value low high : Nat} (inTable : high ≤ table.size)
    (increasing : ∀ index other (_ : other < table.size) (_ : index < other),
      table[index] < table[other])
    (ordered : low ≤ high)
    (below : ∀ index (_ : index < table.size), index < low → table[index] < value)
    (above : ∀ index (_ : index < table.size), high ≤ index → value ≤ table[index]) :
    search table value low high inTable ≤ high ∧
      Parts table value (search table value low high inTable) := by
  fun_induction search table value low high inTable with
  | case1 low high inTable notEmpty middle listed found =>
      refine ⟨by omega, fun index inside before => ?_, fun index inside after => ?_⟩
      · exact found ▸ increasing index middle listed before
      · rcases Nat.lt_or_eq_of_le after with later | rfl
        · exact found ▸ Nat.le_of_lt (increasing middle index inside later)
        · exact Nat.le_of_eq found.symm
  | case2 low high inTable notEmpty middle listed missed small induction =>
      refine induction increasing (by omega) (fun index inside before => ?_) above
      rcases Nat.lt_or_eq_of_le (Nat.le_of_lt_succ before) with earlier | rfl
      · exact Nat.lt_trans (increasing index middle listed earlier) small
      · exact small
  | case3 low high inTable notEmpty middle listed missed large induction =>
      obtain ⟨bound, parts⟩ := induction increasing (by omega) below fun index inside after => by
        rcases Nat.lt_or_eq_of_le after with later | rfl
        · exact Nat.le_trans (Nat.le_of_not_lt large)
            (Nat.le_of_lt (increasing middle index inside later))
        · exact Nat.le_of_not_lt large
      exact ⟨by omega, parts⟩
  | case4 low high inTable isEmpty =>
      obtain rfl : low = high := by omega
      exact ⟨Nat.le_refl _, below, above⟩

theorem positionOf_parts (t : Text) (byte : Nat) :
    t.positionOf byte ≤ t.length + 1 ∧ Parts t.offsets byte (t.positionOf byte) := by
  rw [← size_offsets]
  refine search_parts _ (fun index other listed before => ?_) (Nat.zero_le _)
    (fun index _ impossible => absurd impossible (Nat.not_lt_zero _))
    (fun index listed past => absurd listed (Nat.not_lt.mpr past))
  have inside : index < t.length := by
    rw [size_offsets] at listed
    omega
  rw [getElem_offsets, getElem_offsets]
  exact byteOffset_lt before inside

/-- Positions before that of an offset have smaller offsets. -/
theorem byteOffset_lt_of_lt_positionOf {byte : Nat} (inside : position ≤ t.length)
    (before : position < t.positionOf byte) : t.byteOffset position < byte := by
  have listed : position < t.offsets.size := by
    rw [size_offsets]
    omega
  exact getElem_offsets listed ▸ (t.positionOf_parts byte).2.below position listed before

/-- Positions from that of an offset on have offsets that are no smaller. -/
theorem le_byteOffset_of_positionOf_le {byte : Nat} (inside : position ≤ t.length)
    (after : t.positionOf byte ≤ position) : byte ≤ t.byteOffset position := by
  have listed : position < t.offsets.size := by
    rw [size_offsets]
    omega
  exact getElem_offsets listed ▸ (t.positionOf_parts byte).2.above position listed after

theorem positionOf_le {byte : Nat} (inside : position ≤ t.length)
    (reached : byte ≤ t.byteOffset position) : t.positionOf byte ≤ position := by
  refine Nat.le_of_not_lt fun before => ?_
  exact Nat.not_lt.mpr reached (byteOffset_lt_of_lt_positionOf inside before)

theorem positionOf_byteOffset (inside : position ≤ t.length) :
    t.positionOf (t.byteOffset position) = position := by
  refine Nat.le_antisymm (positionOf_le inside (Nat.le_refl _)) (Nat.le_of_not_lt fun before => ?_)
  have reached := le_byteOffset_of_positionOf_le
    (Nat.le_trans (Nat.le_of_lt before) inside) (Nat.le_refl (t.positionOf (t.byteOffset position)))
  exact Nat.not_lt.mpr reached (byteOffset_lt before (Nat.lt_of_lt_of_le before inside))

/-- Positions past the end are taken back to it. -/
theorem positionOf_byteOffset_eq_min (t : Text) (position : Nat) :
    t.positionOf (t.byteOffset position) = min position t.length := by
  rcases Nat.le_total position t.length with inside | past
  · rw [positionOf_byteOffset inside, Nat.min_eq_left inside]
  · rw [byteOffset_of_length_le past, positionOf_byteOffset (Nat.le_refl _), Nat.min_eq_right past]

/-! ## Cutting -/

theorem cutAt?_append (before after : List Char) :
    cutAt? (before ++ after) (byteLength before) = some (before, after) := by
  induction before with
  | nil => cases after <;> rfl
  | cons char before induction =>
      have size := char.utf8Size_pos
      obtain ⟨offset, isLength⟩ : ∃ offset, byteLength (char :: before) = offset + 1 :=
        Nat.exists_eq_succ_of_ne_zero (Nat.ne_of_gt (byteLength_pos (List.cons_ne_nil _ _)))
      have rest : offset + 1 - char.utf8Size = byteLength before := by
        rw [← isLength]
        exact Nat.add_sub_cancel_left _ _
      have fits : char.utf8Size ≤ offset + 1 := by
        rw [← isLength]
        exact Nat.le_add_right _ _
      rw [isLength, List.cons_append, cutAt?, if_pos fits, rest, induction]
      rfl

theorem cutAt?_byteLength_take (chars : List Char) (position : Nat) :
    cutAt? chars (byteLength (chars.take position)) =
      some (chars.take position, chars.drop position) := by
  have cut := cutAt?_append (chars.take position) (chars.drop position)
  rwa [List.take_append_drop] at cut

/-- Between the offsets of two positions stand the characters between the positions. -/
theorem bytesBetween?_byteOffset (t : Text) (start stop : Nat) :
    t.bytesBetween? (min (t.byteOffset start) (t.byteOffset stop)) (t.byteOffset stop) =
      some ((t.chars.toList.take stop).drop (min start stop)) := by
  have first : t.chars.toList.take (min start stop) =
      (t.chars.toList.take stop).take (min start stop) := by
    rw [List.take_take, Nat.min_eq_left (Nat.min_le_right start stop)]
  rw [← byteOffset_min, bytesBetween?, byteOffset_eq, byteOffset_eq, cutAt?_byteLength_take, first]
  simp only [Option.bind_eq_bind, Option.bind_some, cutAt?_byteLength_take]
  rfl

/-- A slice is made of the characters between its positions. -/
theorem slice_eq_drop (t : Text) (start stop : Nat) :
    t.slice start stop = (t.chars.toList.take stop).drop (min start stop) := by
  simp only [slice, bytesBetween?_byteOffset, Option.getD_some]

/-- From the offset of a position on stand the characters from the position on. -/
theorem restFrom_byteOffset (t : Text) (position : Nat) :
    t.restFrom (t.byteOffset position) = t.chars.toList.drop position := by
  rw [restFrom, byteOffset_eq, cutAt?_byteLength_take]
  rfl

/-! ## Offsets into the rest of a text -/

section

variable {before found after : List Char}

theorem byteOffset_append (isRest : t.chars.toList.drop position = before ++ after) :
    t.byteOffset (position + before.length) = t.byteOffset position + byteLength before := by
  rw [byteOffset_eq, List.take_add, byteLength_append, byteOffset_eq, isRest, List.take_left]

theorem length_append_le (inside : position ≤ t.length)
    (isRest : t.chars.toList.drop position = before ++ after) :
    position + before.length ≤ t.length := by
  have lengths := congrArg List.length isRest
  rw [List.length_drop, List.length_append, Array.length_toList] at lengths
  rw [length] at inside ⊢
  omega

/-- An end that is found in the bytes of the rest of a text comes back as a position of the
text. -/
theorem positionOf_append (isRest : t.chars.toList.drop position = before ++ after) :
    t.positionOf (t.byteOffset position + byteLength before) =
      min (position + before.length) t.length := by
  rw [← byteOffset_append isRest, positionOf_byteOffset_eq_min]

/-- What is found between two offsets into the rest of a text is cut out of the text. -/
theorem bytesBetween?_append (isRest : t.chars.toList.drop position = before ++ found ++ after) :
    t.bytesBetween? (t.byteOffset position + byteLength before)
      (t.byteOffset position + byteLength (before ++ found)) = some found := by
  have first := byteOffset_append (isRest.trans (List.append_assoc ..))
  have last := byteOffset_append isRest
  have ordered : position + before.length ≤ position + (before ++ found).length := by
    rw [List.length_append]
    omega
  have cut := bytesBetween?_byteOffset t (position + before.length)
    (position + (before ++ found).length)
  rw [Nat.min_eq_left (byteOffset_le ordered), Nat.min_eq_left ordered, first, last] at cut
  rw [cut, List.drop_take, ← List.drop_drop, isRest, List.append_assoc, List.drop_left,
    List.length_append, ← Nat.add_assoc, Nat.add_sub_cancel_left, List.take_left]

end

end Packrat.Text
