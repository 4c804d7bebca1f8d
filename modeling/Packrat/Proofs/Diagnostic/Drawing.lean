import Packrat.Diagnostic.Fancy
import Packrat.Proofs.Text.Columns

/-!
# What a terminal shows

A terminal is told texts and how they are to look.  Here is what is seen in the end: a row of
characters, each with the style that it has.  Where widths add up and the characters of frames
are one column wide, what is drawn after the gutter of a row stands as many columns further to
the right as the gutter is wide.
-/

namespace Packrat

namespace Style

@[simp] theorem frame_ne_mark : frame ≠ mark := by decide

@[simp] theorem mark_ne_frame : mark ≠ frame := by decide

@[simp] theorem note_ne_mark : note ≠ mark := by decide

@[simp] theorem mark_ne_note : mark ≠ note := by decide

end Style

namespace Signal

variable {front back : List Signal} {style : Style}

/-- The texts that are shown, each with the style that it has, where text looks like `look` to
begin with. -/
def shown (look : Option Style) : List Signal → List (Option Style × String)
  | [] => []
  | .style style :: rest => shown (some style) rest
  | .plain :: rest => shown none rest
  | .text content :: rest => (look, content) :: shown look rest

/-- How text looks in the end. -/
def lookAfter (look : Option Style) : List Signal → Option Style
  | [] => look
  | .style style :: rest => lookAfter (some style) rest
  | .plain :: rest => lookAfter none rest
  | .text _ :: rest => lookAfter look rest

theorem shown_append (look : Option Style) (front back : List Signal) :
    shown look (front ++ back) = shown look front ++ shown (lookAfter look front) back := by
  fun_induction shown look front with
  | case1 => rfl
  | case2 _ _ _ induction => exact induction
  | case3 _ _ induction => exact induction
  | case4 _ _ _ induction => exact congrArg (_ :: ·) induction

theorem lookAfter_append (look : Option Style) (front back : List Signal) :
    lookAfter look (front ++ back) = lookAfter (lookAfter look front) back := by
  fun_induction lookAfter look front with
  | case1 => rfl
  | case2 _ _ _ induction => exact induction
  | case3 _ _ induction => exact induction
  | case4 _ _ _ induction => exact induction

/-- Signals after which text looks as usual, if it did before. -/
def Neutral (signals : List Signal) : Prop := lookAfter none signals = none

theorem shown_texts {α : Type} (look : Option Style) (items : List α) (content : α → String) :
    shown look (items.map fun item => .text (content item)) =
      items.map fun item => (look, content item) := by
  induction items with
  | nil => rfl
  | cons item items induction => exact congrArg (_ :: ·) induction

theorem lookAfter_texts {α : Type} (look : Option Style) (items : List α) (content : α → String) :
    lookAfter look (items.map fun item => .text (content item)) = look := by
  induction items with
  | nil => rfl
  | cons item items induction => exact induction

theorem neutral_paint (style : Style) (content : String) : Neutral (style.paint content) := rfl

theorem Neutral.append (first : Neutral front) (second : Neutral back) :
    Neutral (front ++ back) := by
  rw [Neutral, lookAfter_append, first]
  exact second

theorem Neutral.flatMap {α : Type} {items : List α} {signals : α → List Signal}
    (each : ∀ item ∈ items, Neutral (signals item)) : Neutral (items.flatMap signals) := by
  induction items with
  | nil => rfl
  | cons item items induction =>
      rw [List.flatMap_cons]
      exact (each item List.mem_cons_self).append
        (induction fun other member => each other (List.mem_cons_of_mem _ member))

/-- The characters that are seen, each with the style that it has. -/
def painted (signals : List Signal) : List (Char × Option Style) :=
  (shown none signals).flatMap fun (look, content) => content.toList.map (·, look)

/-- The texts that are shown in a style. -/
def textsIn (style : Style) (signals : List Signal) : List String :=
  ((shown none signals).filter (·.1 = some style)).map Prod.snd

theorem painted_append (neutral : Neutral front) :
    painted (front ++ back) = painted front ++ painted back := by
  rw [painted, shown_append, neutral, List.flatMap_append]
  rfl

theorem textsIn_append (neutral : Neutral front) :
    textsIn style (front ++ back) = textsIn style front ++ textsIn style back := by
  rw [textsIn, shown_append, neutral, List.filter_append, List.map_append]
  rfl

theorem painted_flatMap {α : Type} {items : List α} {signals : α → List Signal}
    (neutral : ∀ item, Neutral (signals item)) :
    painted (items.flatMap signals) = items.flatMap fun item => painted (signals item) := by
  induction items with
  | nil => rfl
  | cons item items induction =>
      rw [List.flatMap_cons, painted_append (neutral item), induction, List.flatMap_cons]

theorem textsIn_flatMap {α : Type} {items : List α} {signals : α → List Signal}
    (neutral : ∀ item, Neutral (signals item)) :
    textsIn style (items.flatMap signals) =
      items.flatMap fun item => textsIn style (signals item) := by
  induction items with
  | nil => rfl
  | cons item items induction =>
      rw [List.flatMap_cons, textsIn_append (neutral item), induction, List.flatMap_cons]

@[simp] theorem painted_paint (style : Style) (content : String) :
    painted (style.paint content) = content.toList.map (·, some style) :=
  List.append_nil _

@[simp] theorem painted_text (content : String) (rest : List Signal) :
    painted (.text content :: rest) = content.toList.map (·, none) ++ painted rest := rfl

@[simp] theorem painted_nil : painted [] = [] := rfl

/-- Without colours, what is seen is what is sent. -/
theorem toList_join_spell (signals : List Signal) :
    (String.join (signals.map (spell false))).toList = (painted signals).map Prod.fst := by
  have seen (look : Option Style) : (String.join (signals.map (spell false))).toList =
      ((shown look signals).flatMap fun (look, content) => content.toList.map (·, look)).map
        Prod.fst := by
    fun_induction shown look signals with
    | case1 => rfl
    | case2 _ _ _ induction => simpa [spell] using induction
    | case3 _ _ induction => simpa [spell] using induction
    | case4 _ _ _ induction => simpa [spell, Function.comp_def] using induction
  exact seen none

end Signal

open Signal

namespace Terminal

/-- The characters that frames and marks are drawn with, and the numbers of lines, take one
column each, and widths add up. -/
structure OnGrid (t : Terminal) : Prop where
  additive : t.typesetter.Additive
  blank : t.typesetter.columns [' '] = 1
  digit : ∀ c : Char, c.isDigit = true → t.typesetter.columns [c] = 1
  vertical : t.typesetter.columns [t.art.vertical] = 1
  horizontal : t.typesetter.columns [t.art.horizontal] = 1
  tee : t.typesetter.columns [t.art.tee] = 1
  up : t.typesetter.columns [t.art.up] = 1

/-- At a place of a row there is a character, and it occupies a column. -/
def DrawsAt (t : Terminal) (drawn : List Signal) (index : Nat) (c : Char) (look : Option Style)
    (column : Nat) : Prop :=
  (painted drawn)[index]? = some (c, look) ∧
    t.typesetter.Occupies ((painted drawn).map Prod.fst) index column

/-- There is a mark in a column of a row. -/
def Marks (t : Terminal) (drawn : List Signal) (column : Nat) : Prop :=
  ∃ index, t.DrawsAt drawn index t.art.up (some .mark) column

/-- The frame has its bar in a column of a row. -/
def Barred (t : Terminal) (drawn : List Signal) (column : Nat) : Prop :=
  ∃ index bar, (bar = t.art.vertical ∨ bar = t.art.tee) ∧
    t.DrawsAt drawn index bar (some .frame) column

/-! ## Rows as they are drawn -/

variable (t : Terminal) {width : Nat}

@[simp] theorem toList_run (c : Char) (count : Nat) : (run c count).toList = .replicate count c :=
  String.toList_ofList

/-- The characters left of the source in a row. -/
def margin (t : Terminal) (width : Nat) (content : String) : List Char :=
  List.replicate (width - content.length) ' ' ++ content.toList ++ [t.art.vertical, ' ']

@[simp] theorem painted_gutter (width : Nat) (content : String) :
    painted (t.gutter width content) = (t.margin width content).map (·, some .frame) := by
  simp [gutter, margin]

theorem neutral_gutter (width : Nat) (content : String) : Neutral (t.gutter width content) := rfl

theorem painted_edge (length : Nat) (label : String) :
    ∃ rest : List Char, painted (t.row width (.edge length label)) =
      (.replicate width t.art.horizontal ++ t.art.tee :: .replicate length t.art.horizontal).map
        (·, some .frame) ++ rest.map (·, none) := by
  refine ⟨((if label.isEmpty then "" else " " ++ label) ++ "\n").toList, ?_⟩
  rw [row, painted_append (neutral_paint ..), painted_paint, painted_text, painted_nil,
    List.append_nil]
  simp

theorem painted_line (number : UInt32) (text : List Char) :
    painted (t.row width (.line number text)) =
      (t.margin width (number + 1).toNat.repr).map (·, some .frame) ++
        (text.map (·, none) ++ [('\n', none)]) := by
  rw [row, painted_append (neutral_gutter ..)]
  simp

/-- What stands beside marks in their row. -/
def beside : Option String → List (Char × Option Style)
  | some note => (' ', none) :: note.toList.map (·, some .note)
  | none => []

theorem painted_marks (left length : Nat) (note : Option String) :
    painted (t.row width (.marks left length note)) =
      (t.margin width "").map (·, some .frame) ++
        (.replicate left (' ', none) ++
          (.replicate length (t.art.up, some .mark) ++ (beside note ++ [('\n', none)]))) := by
  have neutral : Neutral (t.gutter width "" ++
      .text (run ' ' left) :: Style.mark.paint (run t.art.up length)) := rfl
  cases note with
  | none =>
      rw [row, List.append_nil, painted_append neutral, painted_append (neutral_gutter ..)]
      simp [beside, List.append_assoc]
  | some note =>
      have more : Neutral (.text " " :: Style.note.paint note) := rfl
      rw [row, painted_append (neutral.append more), painted_append neutral,
        painted_append (neutral_gutter ..)]
      simp [beside, List.append_assoc]

theorem painted_note (indent : Nat) (text : String) :
    painted (t.row width (.note indent text)) =
      (t.margin width "").map (·, some .frame) ++
        (.replicate indent (' ', none) ++
          (text.toList.map (·, some .note) ++ [('\n', none)])) := by
  have neutral : Neutral (t.gutter width "" ++ .text (run ' ' indent) :: Style.note.paint text) :=
    rfl
  rw [row, painted_append neutral, painted_append (neutral_gutter ..)]
  simp [List.append_assoc]

theorem neutral_row (width : Nat) (row : Row) : Neutral (t.row width row) := by
  cases row with
  | edge => rfl
  | line => rfl
  | marks left length note => cases note <;> rfl
  | note => rfl

theorem neutral_message (d : Diagnostic) (sources : Sources) : Neutral (t.message d sources) :=
  (neutral_paint ..).append (lookAfter_texts none ..)

/-- A message is in no style but for the level before it. -/
theorem exists_shown_message (d : Diagnostic) (sources : Sources) :
    ∃ lines : List String, shown none (t.message d sources) =
      (some (.level d.level), d.level.name ++ ": ") :: lines.map fun line => (none, line) :=
  ⟨_ :: _, congrArg (_ :: _ :: ·) ((shown_texts ..).trans List.map_map.symm)⟩

theorem level_ne_mark_and_note (level : Level) :
    Style.level level ≠ .mark ∧ Style.level level ≠ .note := by
  cases level <;> decide

theorem textsIn_note_message (d : Diagnostic) (sources : Sources) :
    textsIn .note (t.message d sources) = [] := by
  obtain ⟨lines, isShown⟩ := t.exists_shown_message d sources
  have notNote := (level_ne_mark_and_note d.level).2
  simp [textsIn, isShown, notNote, List.filter_map, Function.comp_def]

theorem mark_notMem_message (d : Diagnostic) (sources : Sources) (c : Char) :
    (c, some .mark) ∉ painted (t.message d sources) := by
  obtain ⟨lines, isShown⟩ := t.exists_shown_message d sources
  have notMark := (level_ne_mark_and_note d.level).1
  simp [painted, isShown, notMark, notMark.symm]

/-! ## The columns of drawn rows -/

/-- Where something runs in a list, if it is nowhere else. -/
theorem getElem?_run_iff {α : Type} {front back : List α} {item : α} (noFront : item ∉ front)
    (noBack : item ∉ back) {length index : Nat} :
    (front ++ (.replicate length item ++ back))[index]? = some item ↔
      front.length ≤ index ∧ index < front.length + length := by
  rcases Nat.lt_or_ge index front.length with before | after
  · rw [List.getElem?_append_left before]
    refine iff_of_false (fun found => noFront (List.mem_of_getElem? found)) (by omega)
  rw [List.getElem?_append_right after, List.getElem?_append]
  split
  next inside =>
    rw [List.length_replicate] at inside
    rw [List.getElem?_replicate_of_lt inside]
    exact iff_of_true rfl (by omega)
  next outside =>
    rw [List.length_replicate] at outside
    refine iff_of_false (fun found => noBack (List.mem_of_getElem? found)) (by omega)

section

variable {t} (grid : t.OnGrid) {content : String}
  (digits : ∀ c ∈ content.toList, c.isDigit = true) (fits : content.length ≤ width)

include fits in
theorem length_margin : (t.margin width content).length = width + 2 := by
  have whole : content.toList.length = content.length := String.length_toList
  simp only [margin, List.length_append, List.length_replicate, whole, List.length_cons,
    List.length_nil]
  omega

include grid digits

/-- The characters left of the source take one column each. -/
theorem narrow_margin {c : Char} (member : c ∈ t.margin width content) :
    t.typesetter.columns [c] = 1 := by
  simp only [margin, List.mem_append, List.mem_replicate, List.mem_cons, List.not_mem_nil,
    or_false] at member
  rcases member with (⟨_, rfl⟩ | digit) | rfl | rfl
  · exact grid.blank
  · exact grid.digit c (digits c digit)
  · exact grid.vertical
  · exact grid.blank

include fits

theorem columns_margin : t.typesetter.columns (t.margin width content) = width + 2 := by
  rw [grid.additive.columns_eq_length fun c member => narrow_margin grid digits member,
    length_margin fits]

theorem barred_margin {drawn : List Signal} {rest : List (Char × Option Style)}
    (isPainted : painted drawn = (t.margin width content).map (·, some .frame) ++ rest) :
    t.Barred drawn width := by
  have length : (t.margin width content).length = width + 2 := length_margin fits
  have bar : (t.margin width content)[width]? = some t.art.vertical := by
    have front :
        (List.replicate (width - content.length) ' ' ++ content.toList).length = width := by
      have whole : content.toList.length = content.length := String.length_toList
      rw [List.length_append, List.length_replicate, whole]
      omega
    rw [margin, List.getElem?_append_right (Nat.le_of_eq front), front, Nat.sub_self]
    rfl
  refine ⟨width, _, .inl rfl, ?_, ?_⟩
  · rw [isPainted, List.getElem?_append_left (by simp [length]), List.getElem?_map, bar]
    rfl
  · rw [isPainted, List.map_append, List.map_map, Function.comp_def, List.map_id',
      Typesetter.occupies_append_left_iff (by omega)]
    refine (grid.additive.occupies_iff_eq (by omega) fun c member => ?_).mpr rfl
    exact narrow_margin grid digits (List.take_subset _ _ member)

end

theorem isDigit_of_mem_repr {number : Nat} {c : Char} (member : c ∈ number.repr.toList) :
    c.isDigit = true := by
  rw [Nat.toList_repr] at member
  exact Nat.isDigit_of_mem_toDigits (by decide) (by decide) member

variable {t} (grid : t.OnGrid)

include grid

/-- The bars of all rows are in one column, where the numbers of the lines fit in. -/
theorem barred_row {row : Row}
    (fits : ∀ number text, row = .line number text → (number + 1).toNat.repr.length ≤ width) :
    t.Barred (t.row width row) width := by
  have noNumber : "".length ≤ width := Nat.zero_le _
  cases row with
  | edge length label =>
      obtain ⟨rest, isPainted⟩ := @painted_edge t width length label
      have front : (List.replicate width t.art.horizontal).length = width := List.length_replicate
      have isTee : (List.replicate width t.art.horizontal ++
          t.art.tee :: List.replicate length t.art.horizontal)[width]? = some t.art.tee := by
        rw [List.getElem?_append_right (Nat.le_of_eq front), front, Nat.sub_self]
        rfl
      refine ⟨width, _, .inr rfl, ?_, ?_⟩
      · rw [isPainted, List.getElem?_append_left (by simp), List.getElem?_map, isTee]
        rfl
      · rw [isPainted, List.map_append, List.map_map, Function.comp_def, List.map_id',
          Typesetter.occupies_append_left_iff (by simp)]
        refine (grid.additive.occupies_iff_eq (by simp) fun c member => ?_).mpr rfl
        have among := List.take_subset _ _ member
        simp only [List.mem_append, List.mem_cons, List.mem_replicate] at among
        rcases among with ⟨_, rfl⟩ | rfl | ⟨_, rfl⟩
        · exact grid.horizontal
        · exact grid.tee
        · exact grid.horizontal
  | line number text =>
      exact barred_margin grid (fun _ => isDigit_of_mem_repr) (fits number text rfl)
        (t.painted_line number text)
  | marks left length note =>
      exact barred_margin grid (by simp) noNumber (t.painted_marks left length note)
  | note indent text =>
      exact barred_margin grid (by simp) noNumber (t.painted_note indent text)

/-- Marks are in the columns that they are meant for, behind the gutter. -/
theorem marks_row_iff {left length column : Nat} {note : Option String} :
    t.Marks (t.row width (.marks left length note)) column ↔
      ∃ within, column = width + 2 + within ∧ left ≤ within ∧ within < left + length := by
  have noNumber : "".length ≤ width := Nat.zero_le _
  have gutter : (t.margin width "").length = width + 2 := length_margin noNumber
  have there (index : Nat) :
      (painted (t.row width (.marks left length note)))[index]? = some (t.art.up, some .mark) ↔
        width + 2 + left ≤ index ∧ index < width + 2 + left + length := by
    have noFront : (t.art.up, some Style.mark) ∉
        (t.margin width "").map (·, some Style.frame) ++ .replicate left (' ', none) := by
      simp
    have noBack : (t.art.up, some Style.mark) ∉ beside note ++ [('\n', none)] := by
      cases note <;> simp [beside]
    rw [painted_marks, ← List.append_assoc, getElem?_run_iff noFront noBack]
    simp [gutter]
  have occupies {index : Nat} (inside : index < width + 2 + left + length) :
      t.typesetter.Occupies ((painted (t.row width (.marks left length note))).map Prod.fst) index
        column ↔ column = index := by
    have chars : (painted (t.row width (.marks left length note))).map Prod.fst =
        (t.margin width "" ++ .replicate left ' ' ++ .replicate length t.art.up) ++
          (beside note ++ [('\n', none)]).map Prod.fst := by
      simp [painted_marks, Function.comp_def]
    have whole : (t.margin width "" ++ List.replicate left ' ' ++
        List.replicate length t.art.up).length = width + 2 + left + length := by
      simp only [List.length_append, List.length_replicate, gutter]
    rw [chars, Typesetter.occupies_append_left_iff (whole ▸ inside)]
    refine grid.additive.occupies_iff_eq (whole ▸ inside) fun c member => ?_
    have among := List.take_subset _ _ member
    simp only [List.mem_append, List.mem_replicate] at among
    rcases among with (isMargin | ⟨_, rfl⟩) | ⟨_, rfl⟩
    · exact narrow_margin grid (by simp) isMargin
    · exact grid.blank
    · exact grid.up
  constructor
  · rintro ⟨index, isMark, isColumn⟩
    obtain ⟨after, before⟩ := (there index).mp isMark
    obtain rfl := (occupies before).mp isColumn
    exact ⟨column - (width + 2), by omega, by omega, by omega⟩
  · rintro ⟨within, rfl, after, before⟩
    exact ⟨width + 2 + within, (there _).mpr (by omega), (occupies (by omega)).mpr rfl⟩

/-- The characters of a line are in the columns that they occupy, behind the gutter. -/
theorem drawsAt_line_iff {number : UInt32} {text : List Char} {index column : Nat} {c : Char}
    (fits : (number + 1).toNat.repr.length ≤ width) (isChar : text[index]? = some c) :
    t.DrawsAt (t.row width (.line number text)) (width + 2 + index) c none column ↔
      ∃ within, column = width + 2 + within ∧ t.typesetter.Occupies text index within := by
  have gutter : (t.margin width (number + 1).toNat.repr).length = width + 2 := length_margin fits
  have inside := (List.getElem?_eq_some_iff.mp isChar).choose
  have chars : (painted (t.row width (.line number text))).map Prod.fst =
      t.margin width (number + 1).toNat.repr ++ (text ++ ['\n']) := by
    simp [painted_line, Function.comp_def]
  have isPainted :
      (painted (t.row width (.line number text)))[width + 2 + index]? = some (c, none) := by
    rw [painted_line, List.getElem?_append_right (by rw [List.length_map]; omega),
      List.length_map, gutter,
      Nat.add_sub_cancel_left, List.getElem?_append_left (by simpa using inside),
      List.getElem?_map, isChar]
    rfl
  have columns := columns_margin grid (fun _ => isDigit_of_mem_repr) fits
  rw [DrawsAt, and_iff_right isPainted, chars, ← gutter,
    Typesetter.occupies_append_iff grid.additive, gutter, columns]
  simp only [Typesetter.occupies_append_left_iff inside]

end Terminal

end Packrat
