import Packrat.Proofs.Text.Offsets
import Mathlib.Data.String.Basic
import Mathlib.Order.Bounds.Basic

/-!
# Positions and byte offsets

Offsets grow with positions, however many bytes each character takes, so a position is found
again from its offset, and what stands between two positions is cut out of the bytes of a
string without cutting a character.
-/

namespace Packrat.Text

variable {t : Text} {position later : Nat}

/-! ## Bytes of a string -/

theorem byteLength_eq_utf8Len (chars : List Char) : byteLength chars = String.utf8Len chars := by
  induction chars with
  | nil => rfl
  | cons char chars induction =>
      rw [String.utf8Len_cons, ← induction, Nat.add_comm]
      rfl

variable (s : String)

@[simp] theorem toList_chars_ofString : (ofString s).chars.toList = s.toList := rfl

theorem byteOffset_ofString (position : Nat) :
    (ofString s).byteOffset position = String.utf8Len (s.toList.take position) := by
  rw [byteOffset_eq, byteLength_eq_utf8Len, toList_chars_ofString]

/-- No offset of a position is inside a character. -/
theorem valid_byteOffset (position : Nat) :
    String.Pos.Raw.Valid s ⟨(ofString s).byteOffset position⟩ :=
  .intro ⟨s.toList.take position, s.toList.drop position, List.take_append_drop _ _,
    byteOffset_ofString s position⟩

theorem byteOffset_end {position : Nat} (past : s.toList.length ≤ position) :
    (ofString s).byteOffset position = s.utf8ByteSize := by
  rw [byteOffset_ofString, List.take_of_length_le past, String.utf8Len_toList]

/-- The position of an offset is the first with an offset that is large enough. -/
theorem positionOf_isLeast {byte : Nat} (inside : byte ≤ t.byteOffset t.length) :
    IsLeast {position | position ≤ t.length ∧ byte ≤ t.byteOffset position}
      (t.positionOf byte) := by
  have bound := positionOf_le (Nat.le_refl _) inside
  refine ⟨⟨bound, le_byteOffset_of_positionOf_le bound (Nat.le_refl _)⟩, ?_⟩
  rintro position ⟨within, reached⟩
  exact positionOf_le within reached

/-- A slice has the bytes between the offsets of its positions. -/
theorem ofList_slice (start stop : Nat) :
    String.ofList ((ofString s).slice start stop) =
      String.Pos.Raw.extract s ⟨(ofString s).byteOffset (min start stop)⟩
        ⟨(ofString s).byteOffset stop⟩ := by
  let front := s.toList.take (min start stop)
  let between := (s.toList.take stop).drop (min start stop)
  let rest := s.toList.drop stop
  have untilStop : front ++ between = s.toList.take stop := by
    have parts := List.take_append_drop (min start stop) (s.toList.take stop)
    rwa [List.take_take, Nat.min_eq_left (Nat.min_le_right start stop)] at parts
  have whole : String.ofList (front ++ between ++ rest) = s := by
    rw [untilStop, List.take_append_drop, String.ofList_toList]
  have first : (ofString s).byteOffset (min start stop) = String.utf8Len front :=
    byteOffset_ofString s _
  have last : (ofString s).byteOffset stop = String.utf8Len front + String.utf8Len between := by
    rw [byteOffset_ofString, ← untilStop, String.utf8Len_append]
  have cut := String.extract_of_valid front between rest
  rw [whole] at cut
  rw [slice_eq_drop, first, last, cut]
  rfl

/-- A slice is of the positions that are left when those past the end are taken back to it. -/
theorem slice_eq_drop_min (t : Text) (start stop : Nat) :
    t.slice start stop =
      (t.chars.toList.take (min stop t.length)).drop (min start (min stop t.length)) := by
  have all : t.chars.toList.take t.length = t.chars.toList := List.take_length
  have none {count : Nat} (past : t.length ≤ count) : t.chars.toList.drop count = [] :=
    List.drop_of_length_le past
  rw [slice_eq_drop]
  rcases Nat.le_total stop t.length with inside | past
  · rw [Nat.min_eq_left inside]
  · rw [Nat.min_eq_right past, List.take_of_length_le past, all]
    rcases Nat.le_total start t.length with starts | nothing
    · rw [Nat.min_eq_left starts, Nat.min_eq_left (Nat.le_trans starts past)]
    · rw [Nat.min_eq_right nothing, none (Nat.le_refl _), none (Nat.le_min.mpr ⟨nothing, past⟩)]

/-- Positions of a string and offsets into its bytes can be turned into each other. -/
theorem positions_and_offsets_agree (s : String) :
    let t : Text := ofString s
    (∀ position later, position < later → later ≤ t.length →
      t.byteOffset position < t.byteOffset later) ∧
    (∀ position, t.length ≤ position → t.byteOffset position = s.utf8ByteSize) ∧
    (∀ position, t.positionOf (t.byteOffset position) = min position t.length) ∧
    (∀ byte ≤ s.utf8ByteSize,
      IsLeast {position | position ≤ t.length ∧ byte ≤ t.byteOffset position}
        (t.positionOf byte)) ∧
    ∀ start stop,
      let last := t.byteOffset stop
      let first := min (t.byteOffset start) last
      (String.Pos.Raw.Valid s ⟨first⟩ ∧ String.Pos.Raw.Valid s ⟨last⟩) ∧
        t.bytesBetween? first last = some (t.slice start stop) ∧
        String.ofList (t.slice start stop) = String.Pos.Raw.extract s ⟨first⟩ ⟨last⟩ ∧
        t.slice start stop =
          (s.toList.take (min stop t.length)).drop (min start (min stop t.length)) := by
  intro t
  have atEnd (position : Nat) (past : t.length ≤ position) := byteOffset_end s past
  refine ⟨fun position later before inside => ?_, atEnd, positionOf_byteOffset_eq_min t,
    fun byte inside => ?_, fun start stop => ?_⟩
  · exact byteOffset_lt before (Nat.lt_of_lt_of_le before inside)
  · exact positionOf_isLeast (atEnd _ (Nat.le_refl _) ▸ inside)
  · intro last first
    have isFirst : t.byteOffset (min start stop) = first := byteOffset_min t start stop
    have cut : t.bytesBetween? first last = some (t.slice start stop) := by
      rw [slice_eq_drop]
      exact bytesBetween?_byteOffset t start stop
    exact ⟨⟨isFirst ▸ valid_byteOffset s _, valid_byteOffset s stop⟩, cut,
      isFirst ▸ ofList_slice s start stop, slice_eq_drop_min t start stop⟩

/-- The second character of `añb` takes two bytes. -/
example : (Text.ofString "añb").slice 1 3 = ['ñ', 'b'] ∧
    (Text.ofString "añb").byteOffset 2 = 3 := by
  decide

end Packrat.Text
