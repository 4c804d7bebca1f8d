import Packrat.Proofs.Diagnostic

/-!
# Where a window marks a highlight

A window shows lines without their line breaks, so the characters of a shown line stand in the
text from where the line begins on.  Of a highlight between two positions a line has the
characters at the positions between them, and the marks under the line are at the columns of
these characters.  All rows of the window have their bars in one column.
-/

namespace Packrat

namespace Window

variable {typesetter : Typesetter} {text line : List Char} {number : UInt32} {index : Nat}
  {highlights : List Highlight}

/-! ## The lines that are shown -/

/-- The greater of two words is one of them, and no less than either. -/
instance lawfulOrderMax : Std.LawfulOrderMax UInt32 where
  max_le_iff _ _ _ := by
    simp only [UInt32.le_iff_toNat_le, UInt32.toNat_max]
    omega
  max_eq_or _ _ := by
    simp only [← UInt32.toNat_inj, UInt32.toNat_max]
    omega

theorem firstLine_le {h : Highlight} (among : h ∈ highlights) :
    firstLine highlights ≤ h.region.start.line := by
  have member : h.region.start.line ∈ highlights.map fun h => h.region.start.line :=
    List.mem_map_of_mem among
  obtain ⟨first, isFirst⟩ := Option.isSome_iff_exists.mp (List.isSome_min?_of_mem member)
  rw [firstLine, isFirst]
  exact (List.min?_eq_some_iff.mp isFirst).2 _ member

/-- The last line is that of a highlight, and every highlight stops on it or before it. -/
theorem exists_lastLine_eq {h : Highlight} (among : h ∈ highlights) :
    (∃ last ∈ highlights, lastLine highlights = last.region.stop.line) ∧
      h.region.stop.line ≤ lastLine highlights := by
  have member : h.region.stop.line ∈ highlights.map fun h => h.region.stop.line :=
    List.mem_map_of_mem among
  obtain ⟨last, isLast⟩ := Option.isSome_iff_exists.mp (List.isSome_max?_of_mem member)
  obtain ⟨isLine, notBefore⟩ := List.max?_eq_some_iff.mp isLast
  obtain ⟨last, amongThem, rfl⟩ := List.mem_map.mp isLine
  rw [lastLine, isLast]
  exact ⟨⟨last, amongThem, rfl⟩, notBefore _ member⟩

theorem firstLine_le_lastLine {h : Highlight} (among : h ∈ highlights) :
    (firstLine highlights).toNat ≤ (lastLine highlights).toNat := by
  have starts := UInt32.le_iff_toNat_le.mp (firstLine_le among)
  have stops := UInt32.le_iff_toNat_le.mp (exists_lastLine_eq among).2
  have ordered := line_start_le_stop h
  omega

theorem mem_shownLines {h : Highlight} (among : h ∈ highlights)
    (next : (lastLine highlights).toNat + 1 < UInt32.size)
    (shown : (number, line) ∈ shownLines highlights text) :
    line = lineAt text number.toNat ∧ number.toNat ≤ (lastLine highlights).toNat := by
  have ordered := firstLine_le_lastLine among
  rw [shownLines_eq ordered next] at shown
  obtain ⟨offset, inRange, same⟩ := List.mem_map.mp shown
  obtain ⟨rfl, rfl⟩ := Prod.mk.inj same
  have below := List.mem_range.mp inRange
  refine ⟨rfl, ?_⟩
  rw [@toNat_ofNat_add _ (lastLine highlights) _ (by omega)]
  omega

/-! ## The part of a highlight on a line -/

section

variable {region part : Region}
  (common : region.intersection (lineRegion number line) = some part)

include common

theorem part_start : part.start = region.start.later ⟨number, 0⟩ := by
  rw [(Region.intersection_eq_some common).1, (lineRegion_eq number line).1]

theorem part_stop : part.stop = region.stop.earlier ⟨number, .ofNat line.length⟩ := by
  rw [(Region.intersection_eq_some common).2, (lineRegion_eq number line).2]

variable (few : line.length < UInt32.size)

include few

/-- Both ends of the part are on the line. -/
theorem part_within : part.start.line = number ∧ part.stop.line = number ∧
    part.start.column.toNat ≤ part.stop.column.toNat ∧
    part.stop.column.toNat ≤ line.length := by
  have ordered := Caret.le_def.mp part.ordered
  have starts : (⟨number, 0⟩ : Caret) ≤ part.start :=
    part_start common ▸ Caret.le_later_right _ _
  have stops : part.stop ≤ ⟨number, .ofNat line.length⟩ :=
    part_stop common ▸ Caret.earlier_le_right _ _
  simp only [Caret.le_def, UInt32.toNat_ofNat_of_lt' few] at starts stops
  simp only [← UInt32.toNat_inj]
  omega

theorem region_start_le_iff {caret : Caret} (onLine : caret.line = number) :
    region.start ≤ caret ↔ part.start.column.toNat ≤ caret.column.toNat := by
  subst onLine
  obtain ⟨startsOn, _, _, _⟩ := part_within common few
  have notBefore : (⟨caret.line, 0⟩ : Caret) ≤ caret :=
    Caret.le_def.mpr (.inr ⟨rfl, Nat.zero_le _⟩)
  have starts : part.start ≤ caret ↔ region.start ≤ caret := by
    rw [part_start common, Caret.later_le_iff, and_iff_left notBefore]
  rw [← starts, Caret.le_def, startsOn]
  simp

theorem lt_region_stop_iff {caret : Caret} (onLine : caret.line = number)
    (inLine : caret.column.toNat < line.length) :
    caret < region.stop ↔ caret.column.toNat < part.stop.column.toNat := by
  subst onLine
  obtain ⟨_, stopsOn, _, _⟩ := part_within common few
  have before : caret < ⟨caret.line, .ofNat line.length⟩ :=
    Caret.lt_def.mpr (.inr ⟨rfl, by rwa [UInt32.toNat_ofNat_of_lt' few]⟩)
  have stops : caret < part.stop ↔ caret < region.stop := by
    rw [part_stop common, Caret.lt_earlier_iff, and_iff_left before]
  rw [← stops, Caret.lt_def, stopsOn]
  simp

/-- A highlight of something has a part with nothing in it only on an empty line. -/
theorem eq_nil_of_part_isEmpty (notEmpty : region.start < region.stop)
    (isEmpty : part.start.column.toNat = part.stop.column.toNat) : line = [] := by
  obtain ⟨startsOn, stopsOn, _, _⟩ := part_within common few
  have samePlace : part.start = part.stop :=
    Caret.eq_iff.mpr ⟨by rw [startsOn, stopsOn], isEmpty⟩
  have meets := Region.exists_intersection_iff.mp ⟨part, common⟩
  rw [← (Region.intersection_eq_some common).1, ← (Region.intersection_eq_some common).2,
    samePlace, (lineRegion_eq number line).1, (lineRegion_eq number line).2] at meets
  rcases meets with before | ⟨_, same | lineEmpty⟩
  · exact absurd before (Caret.lt_irrefl _)
  · rw [same] at notEmpty
    exact absurd notEmpty (Caret.lt_irrefl _)
  · have length := congrArg (fun caret => caret.column.toNat) lineEmpty
    rw [UInt32.toNat_ofNat_of_lt' few] at length
    exact List.length_eq_zero_iff.mp length.symm

end

/-! ## The marks of a highlight between two positions -/

/-- A place of a line is that of a position in a stretch of the text. -/
def Highlighted (text : List Char) (start stop number index : Nat) : Prop :=
  start ≤ lineStart text number + index ∧ lineStart text number + index < stop

section

variable {start stop column : Nat} {region part : Region}

/-- Of a highlight between two positions a line has the characters at the positions between
them. -/
theorem highlighted_iff (countable : Countable text)
    (between : region = .between (Caret.locate text start) (Caret.locate text stop))
    (before : start < stop) (inside : stop ≤ text.length)
    (common : region.intersection (lineRegion number (lineAt text number.toNat)) = some part)
    (onLine : index < (lineAt text number.toNat).length) :
    Highlighted text start stop number.toNat index ↔
      part.start.column.toNat ≤ index ∧ index < part.stop.column.toNat := by
  obtain ⟨inText, isLine, isColumn⟩ := locate_onLine countable onLine
  have few := length_lineAt_lt countable number.toNat
  have ordered := Caret.le_of_lt (Caret.locate_lt countable before inside)
  rw [Region.between_of_le ordered] at between
  subst between
  rw [UInt32.toNat_inj] at isLine
  have starts := region_start_le_iff common few isLine
  have stops := lt_region_stop_iff common few isLine (by rwa [isColumn])
  rw [isColumn] at starts stops
  rw [← starts, ← stops,
    Caret.locate_le_iff countable (Nat.le_trans (Nat.le_of_lt before) inside) (Nat.le_of_lt inText),
    Caret.locate_lt_iff countable (Nat.le_of_lt inText) inside]
  rfl

/-- The columns that are marked for a part with some width are those of the characters of the
part. -/
theorem marksFor_iff (additive : typesetter.Additive) (few : line.length < UInt32.size)
    (common : region.intersection (lineRegion number line) = some part)
    (wide : 0 < columnsBetween typesetter line part.start.column part.stop.column) :
    (marksFor typesetter line part).1 ≤ column ∧
        column < (marksFor typesetter line part).1 + (marksFor typesetter line part).2 ↔
      ∃ index, part.start.column.toNat ≤ index ∧ index < part.stop.column.toNat ∧
        typesetter.Occupies line index column := by
  obtain ⟨_, _, ordered, inLine⟩ := part_within common few
  have left : columnsBetween typesetter line 0 part.start.column =
      typesetter.columns (line.take part.start.column.toNat) := by
    rw [← @columnsBetween_eq _ additive line 0 part.start.column (Nat.zero_le _)
      (Nat.le_trans ordered inLine) few]
    simp [additive.columns_nil]
  rw [Typesetter.exists_occupies_iff additive, marksFor, Nat.max_eq_left wide, left,
    columnsBetween_eq additive ordered inLine few]

end

section

variable {width : Nat} {h : Highlight} {part : Region}

theorem exists_highlightRows (typesetter : Typesetter) (width : Nat)
    (common : h.region.intersection (lineRegion number line) = some part) :
    ∃ (beside : Option String) (indent : Nat) (lines : List String),
      highlightRows typesetter width number line h =
        .marks (marksFor typesetter line part).1 (marksFor typesetter line part).2 beside ::
          lines.map (.note indent) := by
  unfold highlightRows
  simp only [common]
  exact exists_markRows _ _ _ _ _

theorem highlightRows_of_none
    (apart : h.region.intersection (lineRegion number line) = none) :
    highlightRows typesetter width number line h = [] := by
  unfold highlightRows
  simp only [apart]

/-- The rows for a highlight are no lines of the source. -/
theorem line_notMem_highlightRows (other : UInt32) (text : List Char) :
    Row.line other text ∉ highlightRows typesetter width number line h := by
  cases common : h.region.intersection (lineRegion number line) with
  | none =>
      rw [highlightRows_of_none common]
      exact List.not_mem_nil
  | some part =>
      obtain ⟨beside, indent, lines, rows⟩ := exists_highlightRows typesetter width common
      rw [rows]
      simp

/-- A line with nothing of a highlight on it has marks for it only if it is empty. -/
theorem eq_nil_of_marks (countable : Countable text) {start stop left length : Nat}
    {beside : Option String}
    (between : h.region = .between (Caret.locate text start) (Caret.locate text stop))
    (before : start < stop) (inside : stop ≤ text.length)
    (nothing : ∀ index < (lineAt text number.toNat).length,
      ¬Highlighted text start stop number.toNat index)
    (marked : .marks left length beside ∈
      highlightRows typesetter width number (lineAt text number.toNat) h) :
    lineAt text number.toNat = [] := by
  have few := length_lineAt_lt countable number.toNat
  cases common : h.region.intersection (lineRegion number (lineAt text number.toNat)) with
  | none =>
      rw [highlightRows_of_none common] at marked
      exact absurd marked List.not_mem_nil
  | some part =>
      obtain ⟨_, _, ordered, inLine⟩ := part_within common few
      rcases Nat.lt_or_eq_of_le ordered with notEmpty | isEmpty
      · have onLine := Nat.lt_of_lt_of_le notEmpty inLine
        exact absurd ((highlighted_iff countable between before inside common onLine).mpr
          ⟨Nat.le_refl _, notEmpty⟩) (nothing _ onLine)
      · have later := Caret.locate_lt countable before inside
        refine eq_nil_of_part_isEmpty common few ?_ isEmpty
        rw [between, Region.between_of_le (Caret.le_of_lt later)]
        exact later

/-- The rows for a line have those for a highlight below the line. -/
theorem lineRows_eq_append (among : h ∈ highlights) :
    ∃ between below, lineRows typesetter highlights width number line =
        .line number line ::
          (between ++ highlightRows typesetter width number line h ++ below) ∧
      ∀ other chars, Row.line other chars ∉ between := by
  obtain ⟨above, below, rfl⟩ := List.append_of_mem among
  refine ⟨above.flatMap (highlightRows typesetter width number line),
    below.flatMap (highlightRows typesetter width number line), ?_, ?_⟩
  · rw [lineRows, List.flatMap_append, List.flatMap_cons, List.append_assoc]
  · intro other chars member
    obtain ⟨earlier, _, isRow⟩ := List.mem_flatMap.mp member
    exact line_notMem_highlightRows other chars isRow

theorem mem_shownLines_of_mem_rows {label : String}
    (member : .line number line ∈ rows typesetter highlights text label width) :
    (number, line) ∈ shownLines highlights text := by
  rcases List.mem_cons.mp member with isEdge | below
  · cases isEdge
  obtain ⟨shown, isShown, onLine⟩ := List.mem_flatMap.mp below
  rcases List.mem_cons.mp onLine with isLine | underLine
  · cases isLine
    exact isShown
  · obtain ⟨h, _, isRow⟩ := List.mem_flatMap.mp underLine
    exact absurd isRow (line_notMem_highlightRows number line)

theorem toNat_add_one {word : UInt32} (few : word.toNat + 1 < UInt32.size) :
    (word + 1).toNat = word.toNat + 1 := by
  rw [UInt32.toNat_add]
  exact Nat.mod_eq_of_lt few

theorem length_repr_le_gutterWidth (next : (lastLine highlights).toNat + 1 < UInt32.size)
    (notAfter : number.toNat ≤ (lastLine highlights).toNat) :
    (number + 1).toNat.repr.length ≤ gutterWidth highlights := by
  have positive : 0 < gutterWidth highlights := Nat.length_repr_pos
  have digits := (Nat.length_repr_le_iff positive).mp (Nat.le_refl (gutterWidth highlights))
  rw [Nat.length_repr_le_iff positive, toNat_add_one (by omega)]
  rw [toNat_add_one next] at digits
  exact Nat.lt_of_le_of_lt (Nat.succ_le_succ notAfter) digits

theorem rows_eq_append {label : String} (shown : (number, line) ∈ shownLines highlights text) :
    ∃ above below, rows typesetter highlights text label width =
      above ++ lineRows typesetter highlights (codeWidth highlights width) number line ++
        below := by
  obtain ⟨above, below, lines⟩ := List.append_of_mem shown
  rw [rows, lines, List.flatMap_append, List.flatMap_cons, ← List.cons_append,
    ← List.append_assoc]
  exact ⟨_, _, rfl⟩

end

end Window

/-! ## How a highlight is drawn -/

open Signal

namespace Terminal

variable (t : Terminal) {width : Nat} {number : UInt32} {line : List Char}

/-- The rows under a line mark the characters of the line that are highlighted, and no others,
where a highlight and the line have a part in common or none. -/
structure Underlines (t : Terminal) (width : Nat) (number : UInt32) (shown : List Char)
    (highlighted : Nat → Prop) (common : Option Region) (under : List Row) : Prop where
  /-- The marks for a part of some width are in the first row, in the columns where characters
  are highlighted; the other rows have none. -/
  marked : ∀ part, common = some part →
    0 < Window.columnsBetween t.typesetter shown part.start.column part.stop.column →
    ∃ marks notes, under = marks :: notes ∧
      (∀ column, t.Marks (t.row width marks) column ↔
        ∃ index c, highlighted index ∧ shown[index]? = some c ∧
          t.DrawsAt (t.row width (.line number shown)) (width + 2 + index) c none column) ∧
      ∀ note ∈ notes, ∀ column, ¬t.Marks (t.row width note) column
  /-- Where no character is highlighted there are no marks under any. -/
  unmarked : (∀ index < shown.length, ¬highlighted index) →
    ∀ row ∈ under, ∀ column, t.Marks (t.row width row) column → ∀ index c, shown[index]? = some c →
      ¬t.DrawsAt (t.row width (.line number shown)) (width + 2 + index) c none column

theorem exists_marks_of_marks {row : Row} {column : Nat}
    (marks : t.Marks (t.row width row) column) :
    ∃ left length beside, row = .marks left length beside := by
  obtain ⟨index, isMark, _⟩ := marks
  obtain ⟨_, left, length, beside, isRow, _⟩ := t.mark_mem_row_iff.mp (List.mem_of_getElem? isMark)
  exact ⟨left, length, beside, isRow⟩

theorem underlines_highlightRows (grid : t.OnGrid) {text : List Char} (countable : Countable text)
    {h : Highlight} {start stop code : Nat}
    (between : h.region = .between (Caret.locate text start) (Caret.locate text stop))
    (before : start < stop) (inside : stop ≤ text.length)
    (fits : (number + 1).toNat.repr.length ≤ width) :
    let line := Window.lineAt text number.toNat
    t.Underlines width number line (Window.Highlighted text start stop number.toNat)
      (h.region.intersection (Window.lineRegion number line))
      (Window.highlightRows t.typesetter code number line h) where
  marked part common wide := by
    have few := Window.length_lineAt_lt countable number.toNat
    obtain ⟨beside, indent, lines, rows⟩ :=
      Window.exists_highlightRows t.typesetter code common
    refine ⟨_, lines.map (.note indent), rows, fun column => ?_, fun note member column marks => ?_⟩
    · simp only [marks_row_iff grid, Window.marksFor_iff grid.additive few common wide]
      constructor
      · rintro ⟨within, rfl, index, after, early, c, isChar, above, below⟩
        have onLine := (List.getElem?_eq_some_iff.mp isChar).choose
        refine ⟨index, c, ?_, isChar,
          (drawsAt_line_iff grid fits isChar).mpr ⟨within, rfl, c, isChar, above, below⟩⟩
        exact (Window.highlighted_iff countable between before inside common onLine).mpr
          ⟨after, early⟩
      · rintro ⟨index, c, highlighted, isChar, draws⟩
        have onLine := (List.getElem?_eq_some_iff.mp isChar).choose
        obtain ⟨within, rfl, occupies⟩ := (drawsAt_line_iff grid fits isChar).mp draws
        obtain ⟨after, early⟩ :=
          (Window.highlighted_iff countable between before inside common onLine).mp highlighted
        exact ⟨within, rfl, index, after, early, occupies⟩
    · obtain ⟨note, _, rfl⟩ := List.mem_map.mp member
      obtain ⟨_, _, _, isMarks⟩ := t.exists_marks_of_marks marks
      cases isMarks
  unmarked nothing row member column marks index c isChar := by
    obtain ⟨left, length, beside, rfl⟩ := t.exists_marks_of_marks marks
    rw [Window.eq_nil_of_marks countable between before inside nothing member] at isChar
    cases isChar

/-- The columns that a character takes where no other one changes it, roughly: letters of Latin
take one, marks that go with them none, and what comes later two. -/
def roughWidth (c : Char) : Nat := if c.toNat < 768 then 1 else if c.toNat < 880 then 0 else 2

/-- A terminal on which characters lie one beside the other. -/
def sideBySide : Terminal := ⟨.ascii, 80, false, .sideBySide roughWidth⟩

theorem sideBySide_onGrid : sideBySide.OnGrid where
  additive := Typesetter.sideBySide_additive roughWidth
  blank := rfl
  digit c isDigit := by
    have early : c.toNat < 768 := by
      simp only [Char.isDigit, Bool.and_eq_true, decide_eq_true_eq] at isDigit
      exact Nat.lt_of_le_of_lt (UInt32.le_iff_toNat_le.mp isDigit.2) (by decide)
    exact if_pos early
  vertical := rfl
  horizontal := rfl
  tee := rfl
  up := rfl

/-- A highlight that is put at the first character of the only line is marked under it, whatever
comes after the character. -/
theorem marks_first_character {letters : List Char} {h : Highlight} (noFeed : '\n' ∉ letters)
    (first : letters[0]? = some 'a') (width : UInt32.ofNat letters.length = 1)
    (region : h.region = .between ⟨0, 0⟩ ⟨0, 1⟩) :
    let t := sideBySide
    let width := Window.gutterWidth [h]
    (0, letters) ∈ Window.shownLines [h] letters ∧
    ∃ marks notes, Window.highlightRows t.typesetter (Window.codeWidth [h] t.width) 0 letters h =
        marks :: notes ∧
      t.DrawsAt (t.row width (.line 0 letters)) (width + 2) 'a' none (width + 2) ∧
      t.Marks (t.row width marks) (width + 2) := by
  intro t gutter
  have lineRegion : Window.lineRegion 0 letters = .between ⟨0, 0⟩ ⟨0, 1⟩ := by
    rw [Window.lineRegion, width]
  have isLine : Window.lineAt letters 0 = letters := Window.lineAt_last (Cut.of_no_feed noFeed)
  have stop : h.region.stop.line = 0 := by
    rw [region]
    decide
  have fits : (0 + 1 : UInt32).toNat.repr.length ≤ gutter := by
    show _ ≤ (h.region.stop.line + 1).toNat.repr.length
    rw [stop]
  have common :
      h.region.intersection (Window.lineRegion 0 letters) = some (.between ⟨0, 0⟩ ⟨0, 1⟩) := by
    rw [region, lineRegion]
    decide
  obtain ⟨beside, indent, notes, rows⟩ :=
    Window.exists_highlightRows t.typesetter (Window.codeWidth [h] t.width) common
  obtain ⟨before, _, lines⟩ := Window.shownLines_singleton (by rw [stop]; decide) letters
  refine ⟨?_, _, _, rows, ?_, ?_⟩
  · rw [lines, stop]
    exact List.mem_map.mpr ⟨0, List.mem_append_right _ List.mem_cons_self, congrArg _ isLine⟩
  · exact (drawsAt_line_iff sideBySide_onGrid fits first).mpr
      ⟨0, rfl, 'a', first, by simp [sideBySide], by simp [sideBySide, roughWidth]⟩
  · refine (marks_row_iff sideBySide_onGrid).mpr ⟨0, rfl, ?_, ?_⟩
    · have start : (Region.between ⟨0, 0⟩ ⟨0, 1⟩).start.column = 0 := by decide
      simp [Window.marksFor, Window.columnsBetween, start, t, sideBySide]
    · exact Nat.lt_of_lt_of_le Nat.zero_lt_one
        (Nat.le_trans (Nat.le_max_right _ _) (Nat.le_add_left _ _))

end Terminal

end Packrat
