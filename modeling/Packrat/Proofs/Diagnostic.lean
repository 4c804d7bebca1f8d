import Packrat.Calculator
import Packrat.Proofs.Diagnostic.Drawing
import Packrat.Proofs.Text.Carets

/-!
# What a window shows of a highlight

A highlight is marked on every line that has a part of it, and its note stands at the
part that it ends with.  Whether there is such a part is a question of how the carets of
the highlight, which count all characters but line feeds, and the lines, which are shown
without their line breaks, agree at the highlight's end.
-/

namespace Packrat

/-- The part of a note that is written in a row. -/
def Row.note? : Row → Option String
  | .marks _ _ beside => beside
  | .note _ text => some text
  | .edge .. | .line .. => none

namespace Region

/-- A part that two regions have in common starts where the later one does and stops where
the earlier one does. -/
theorem intersection_eq_some {r s part : Region} (common : r.intersection s = some part) :
    part.start = r.start.later s.start ∧ part.stop = r.stop.earlier s.stop := by
  unfold intersection at common
  simp only at common
  split at common
  next meets =>
    cases common
    have ordered : r.start.later s.start ≤ r.stop.earlier s.stop := by
      rcases meets with before | ⟨same, _⟩
      · exact Caret.le_of_lt before
      · rw [same]
        exact Caret.le_refl _
    rw [between_of_le ordered]
    exact ⟨rfl, rfl⟩
  next => cases common

/-- Regions have a part in common where one starts before the other stops, or where one of
them is empty and they touch. -/
theorem exists_intersection_iff {r s : Region} :
    (∃ part, r.intersection s = some part) ↔
      r.start.later s.start < r.stop.earlier s.stop ∨
        (r.start.later s.start = r.stop.earlier s.stop ∧
          (r.start = r.stop ∨ s.start = s.stop)) := by
  unfold intersection
  simp only [isEmpty, beq_iff_eq]
  split
  next meets => exact ⟨fun _ => meets, fun _ => ⟨_, rfl⟩⟩
  next apart => exact ⟨nofun, fun meets => absurd meets apart⟩

end Region

namespace Window

variable {typesetter : Typesetter} {width left length : Nat} {number : UInt32} {line : List Char}
  {h : Highlight} {note : String}

/-- The parts of notes that are written in some rows, from top to bottom. -/
def written (rows : List Row) : List String := rows.filterMap Row.note?

theorem written_cons {row : Row} (bare : row.note? = none) (rows : List Row) :
    written (row :: rows) = written rows := List.filterMap_cons_none bare

theorem written_append (above below : List Row) :
    written (above ++ below) = written above ++ written below := List.filterMap_append

/-! ## The rows of one line -/

/-- Marks for a line come in one row, before the rows of a note. -/
theorem exists_markRows (typesetter : Typesetter) (width left length : Nat)
    (note : Option String) :
    ∃ (beside : Option String) (indent : Nat) (lines : List String),
      markRows typesetter width left length note =
        .marks left length beside :: lines.map (.note indent) := by
  unfold markRows
  cases note with
  | none => exact ⟨none, 0, [], rfl⟩
  | some note =>
      simp only
      split
      · exact ⟨some _, _, _, rfl⟩
      · exact ⟨none, 0, _, rfl⟩

/-- A note is written once, beside the marks or below them. -/
theorem written_markRows (typesetter : Typesetter) (width left length : Nat) (note : String) :
    ∃ columns, written (markRows typesetter width left length (some note)) =
      typesetter.wrap columns note := by
  have written_notes (indent : Nat) (lines : List String) :
      written (lines.map (.note indent)) = lines := by
    simp [written, List.filterMap_map, Function.comp_def, Row.note?]
  unfold markRows
  simp only
  split
  next =>
    refine ⟨width - (left + length + 1), ?_⟩
    exact (congrArg (_ :: ·) (written_notes _ _)).trans
      (List.cons_head_tail (typesetter.wrap_ne_nil _ note))
  next => exact ⟨width, written_notes 0 _⟩

/-- Whether a highlight has a part on a line that it ends with. -/
def EndsOn (h : Highlight) (number : UInt32) (line : List Char) : Prop :=
  ∃ part, h.region.intersection (lineRegion number line) = some part ∧
    part.stop = h.region.stop

/-- Nothing is written under a line that a highlight does not end on. -/
theorem written_highlightRows_of_not (goesOn : ¬EndsOn h number line) :
    written (highlightRows typesetter width number line h) = [] := by
  unfold highlightRows
  split
  next => rfl
  next part common =>
    have notLast : part.stop ≠ h.region.stop := fun isLast => goesOn ⟨part, common, isLast⟩
    simp only [if_neg notLast]
    rfl

/-- Under the line that a highlight ends on some columns are marked, and the note is written. -/
theorem shown_highlightRows (typesetter : Typesetter) (width : Nat) (ends : EndsOn h number line) :
    (∃ left length beside,
      .marks left length beside ∈ highlightRows typesetter width number line h ∧ 0 < length) ∧
    ∃ columns, written (highlightRows typesetter width number line h) =
      typesetter.wrap columns h.note := by
  obtain ⟨part, common, isLast⟩ := ends
  unfold highlightRows
  simp only [common, isLast, if_true]
  obtain ⟨beside, indent, lines, rows⟩ := exists_markRows typesetter width
    (marksFor typesetter line part).1 (marksFor typesetter line part).2 (some h.note)
  exact ⟨⟨_, _, beside, rows ▸ List.mem_cons_self,
    Nat.lt_of_lt_of_le Nat.zero_lt_one (Nat.le_max_right _ _)⟩, written_markRows _ _ _ _ _⟩

theorem lineRegion_eq (number : UInt32) (line : List Char) :
    (lineRegion number line).start = ⟨number, 0⟩ ∧
      (lineRegion number line).stop = ⟨number, .ofNat line.length⟩ := by
  have ordered : (⟨number, 0⟩ : Caret) ≤ ⟨number, .ofNat line.length⟩ :=
    Caret.le_def.mpr (.inr ⟨rfl, Nat.zero_le _⟩)
  rw [lineRegion, Region.between_of_le ordered]
  exact ⟨rfl, rfl⟩

/-- A highlight ends on no line before that of its stop. -/
theorem EndsOn.stop_le (ends : EndsOn h number line) :
    h.region.stop.line.toNat ≤ number.toNat := by
  obtain ⟨part, common, isLast⟩ := ends
  have stops := (Region.intersection_eq_some common).2
  rw [isLast, (lineRegion_eq number line).2, Caret.earlier] at stops
  split at stops
  next early =>
    rcases Caret.le_def.mp early with earlier | ⟨same, _⟩
    · exact Nat.le_of_lt earlier
    · exact Nat.le_of_eq same
  next => exact Nat.le_of_eq (congrArg (fun caret => caret.line.toNat) stops)

/-- A highlight ends on its last line if the line goes as far as the highlight does, and
something of it is there: the highlight is empty, or it has a character of the line, or
there is no character on the line. -/
theorem endsOn_iff (few : line.length < UInt32.size) (onLine : h.region.stop.line = number) :
    EndsOn h number line ↔ h.region.stop.column.toNat ≤ line.length ∧
      (h.region.start = h.region.stop ∨ 0 < h.region.stop.column.toNat ∨ line = []) := by
  subst onLine
  have ordered := h.region.ordered
  have exactly : (UInt32.ofNat line.length).toNat = line.length := UInt32.toNat_ofNat_of_lt' few
  have within : h.region.stop.earlier ⟨h.region.stop.line, .ofNat line.length⟩ = h.region.stop ↔
      h.region.stop.column.toNat ≤ line.length := by
    rw [Caret.earlier_eq_left_iff, Caret.le_def, exactly]
    simp
  have ends : EndsOn h h.region.stop.line line ↔
      h.region.stop.earlier ⟨h.region.stop.line, .ofNat line.length⟩ = h.region.stop ∧
        ∃ part, h.region.intersection (lineRegion h.region.stop.line line) = some part := by
    constructor
    · rintro ⟨part, common, isLast⟩
      have stops := (Region.intersection_eq_some common).2
      rw [(lineRegion_eq _ line).2] at stops
      exact ⟨stops.symm.trans isLast, part, common⟩
    · rintro ⟨stops, part, common⟩
      refine ⟨part, common, ?_⟩
      rw [(Region.intersection_eq_some common).2, (lineRegion_eq _ line).2]
      exact stops
  rw [ends, Region.exists_intersection_iff, (lineRegion_eq _ line).1, (lineRegion_eq _ line).2,
    within]
  refine and_congr_right fun isWithin => ?_
  rw [within.mpr isWithin, ← List.length_eq_zero_iff]
  have zero : (0 : UInt32).toNat = 0 := rfl
  simp only [Caret.le_def] at ordered
  simp only [Caret.later, Caret.lt_def, Caret.eq_iff, Caret.le_def, zero]
  split <;> simp only [exactly, zero, true_and, Nat.lt_irrefl, false_or] <;> omega

/-! ## The whole window -/

theorem written_flatMap {α : Type} {items : List α} {rows : α → List Row}
    (none : ∀ item ∈ items, written (rows item) = []) : written (items.flatMap rows) = [] := by
  induction items with
  | nil => rfl
  | cons item items induction =>
      rw [List.flatMap_cons, written_append, none item List.mem_cons_self]
      exact induction fun other member => none other (List.mem_cons_of_mem _ member)

theorem toNat_ofNat_add {first last : UInt32} {index : Nat}
    (inside : first.toNat + index ≤ last.toNat) :
    (UInt32.ofNat index + first).toNat = first.toNat + index := by
  have few := last.toNat_lt_size
  rw [UInt32.toNat_add, UInt32.toNat_ofNat_of_lt' (by omega), Nat.add_comm index]
  exact Nat.mod_eq_of_lt (Nat.lt_of_le_of_lt inside few)

/-- The lines that are shown are those from the first one to the last one, where there is a
word for the line after it. -/
theorem shownLines_eq {highlights : List Highlight}
    (ordered : (firstLine highlights).toNat ≤ (lastLine highlights).toNat)
    (next : (lastLine highlights).toNat + 1 < UInt32.size) (text : List Char) :
    shownLines highlights text =
      (List.range ((lastLine highlights).toNat - (firstLine highlights).toNat + 1)).map
        fun index => (.ofNat index + firstLine highlights,
          lineAt text (UInt32.ofNat index + firstLine highlights).toNat) := by
  have count : (lastLine highlights - firstLine highlights + 1).toNat =
      (lastLine highlights).toNat - (firstLine highlights).toNat + 1 := by
    rw [UInt32.toNat_add, UInt32.toNat_sub_of_le _ _ (UInt32.le_iff_toNat_le.mpr ordered)]
    exact Nat.mod_eq_of_lt (Nat.lt_of_le_of_lt (Nat.succ_le_succ (Nat.sub_le _ _)) next)
  rw [shownLines, count]
  refine List.map_congr_left fun index member => ?_
  have inside := List.mem_range.mp member
  rw [List.getElem?_drop, @toNat_ofNat_add _ (lastLine highlights) _ (by omega)]
  rfl

theorem line_start_le_stop (h : Highlight) :
    h.region.start.line.toNat ≤ h.region.stop.line.toNat := by
  have := Caret.le_def.mp h.region.ordered
  omega

/-- The lines that are shown for one highlight: those from its first line on, and its last
line after them. -/
theorem shownLines_singleton (next : h.region.stop.line.toNat + 1 < UInt32.size)
    (text : List Char) :
    ∃ before : List UInt32, (∀ number ∈ before, number.toNat < h.region.stop.line.toNat) ∧
      shownLines [h] text =
        (before ++ [h.region.stop.line]).map fun number => (number, lineAt text number.toNat) := by
  have first : firstLine [h] = h.region.start.line := rfl
  have last : lastLine [h] = h.region.stop.line := rfl
  have ordered := line_start_le_stop h
  refine ⟨(List.range (h.region.stop.line.toNat - h.region.start.line.toNat)).map
    (UInt32.ofNat · + h.region.start.line), fun number member => ?_, ?_⟩
  · obtain ⟨index, inRange, rfl⟩ := List.mem_map.mp member
    have := List.mem_range.mp inRange
    rw [@toNat_ofNat_add _ h.region.stop.line _ (by omega)]
    omega
  · have end_ : UInt32.ofNat (h.region.stop.line.toNat - h.region.start.line.toNat) +
        h.region.start.line = h.region.stop.line := by
      rw [← UInt32.toNat_inj, @toNat_ofNat_add _ h.region.stop.line _ (by omega)]
      omega
    rw [shownLines_eq (by rwa [first, last]) (by rwa [last]), first, last, List.range_succ,
      List.map_append, List.map_append, List.map_map, List.map_singleton, List.map_singleton, end_]
    rfl

/-- Of the note of a window's only highlight, what is written is written under the last
line. -/
theorem written_rows (next : h.region.stop.line.toNat + 1 < UInt32.size) (text : List Char)
    (label : String) (width : Nat) :
    written (rows typesetter [h] text label width) =
      written (highlightRows typesetter (codeWidth [h] width) h.region.stop.line
        (lineAt text h.region.stop.line.toNat) h) := by
  have written_lineRows (number : UInt32) (line : List Char) :
      written (lineRows typesetter [h] (codeWidth [h] width) number line) =
        written (highlightRows typesetter (codeWidth [h] width) number line h) := by
    rw [lineRows, written_cons rfl, List.flatMap_cons, List.flatMap_nil, List.append_nil]
  obtain ⟨before, earlier, lines⟩ := shownLines_singleton next text
  have earlier_lines : written (before.flatMap fun number =>
      lineRows typesetter [h] (codeWidth [h] width) number (lineAt text number.toNat)) = [] := by
    apply written_flatMap
    intro number member
    rw [written_lineRows]
    apply written_highlightRows_of_not
    intro ends
    exact absurd ends.stop_le (Nat.not_le_of_lt (earlier number member))
  rw [rows, written_cons rfl, lines, List.flatMap_map, List.flatMap_append, written_append,
    earlier_lines, List.nil_append, List.flatMap_cons, List.flatMap_nil, List.append_nil,
    written_lineRows]

/-- Columns are marked for a part of the highlight on one of the lines that are shown. -/
theorem exists_part_of_marks {text : List Char} {label : String} {beside : Option String}
    (member : .marks left length beside ∈ rows typesetter [h] text label width) :
    ∃ shown ∈ shownLines [h] text, ∃ part,
      h.region.intersection (lineRegion shown.1 shown.2) = some part := by
  rcases List.mem_cons.mp member with isEdge | below
  · cases isEdge
  obtain ⟨shown, isShown, onLine⟩ := List.mem_flatMap.mp below
  rcases List.mem_cons.mp onLine with isLine | underLine
  · cases isLine
  obtain ⟨own, isOwn, marks⟩ := List.mem_flatMap.mp underLine
  obtain rfl := List.mem_singleton.mp isOwn
  refine ⟨shown, isShown, ?_⟩
  unfold highlightRows at marks
  split at marks
  next => cases marks
  next part common => exact ⟨part, common⟩

/-- The rows under the last line are rows of the window. -/
theorem mem_rows_of_mem_highlightRows (next : h.region.stop.line.toNat + 1 < UInt32.size)
    {text : List Char} {label : String} {row : Row}
    (member : row ∈ highlightRows typesetter (codeWidth [h] width) h.region.stop.line
      (lineAt text h.region.stop.line.toNat) h) :
    row ∈ rows typesetter [h] text label width := by
  obtain ⟨before, _, lines⟩ := shownLines_singleton next text
  apply List.mem_cons_of_mem
  rw [lines, List.flatMap_map]
  refine List.mem_flatMap.mpr ⟨h.region.stop.line, List.mem_append_right _ List.mem_cons_self, ?_⟩
  exact List.mem_cons_of_mem _ (List.mem_flatMap.mpr ⟨h, List.mem_cons_self, member⟩)

end Window

/-! ## The highlight of a parse error -/

/-- A span of a text stops where no shown line has a place for it: between the two
characters of a line break, or, unless the span is empty, at the beginning of a line that
is not empty. -/
def Span.Stranded (span : Span) (text : List Char) : Prop :=
  ((text.take span.stop).getLast? = some '\r' ∧ (text.drop span.stop).head? = some '\n') ∨
    (span.start < span.stop ∧ (text.take span.stop).getLast? = some '\n' ∧
      Window.endsLine (text.drop span.stop) = false)

instance (span : Span) (text : List Char) : Decidable (span.Stranded text) :=
  inferInstanceAs (Decidable (_ ∨ _))

/-- The region of a span ends on its last line unless the span is stranded there. -/
theorem endsOn_locate_iff {text : List Char} (countable : Countable text) {span : Span}
    (inside : span.stop ≤ text.length) {h : Highlight}
    (region : h.region = .between (Caret.locate text span.start) (Caret.locate text span.stop)) :
    Window.EndsOn h h.region.stop.line (Window.lineAt text h.region.stop.line.toNat) ↔
      ¬span.Stranded text := by
  have strictly : span.start < span.stop →
      Caret.locate text span.start < Caret.locate text span.stop :=
    fun before => Caret.locate_lt countable before inside
  have ordered : Caret.locate text span.start ≤ Caret.locate text span.stop :=
    Caret.locate_le countable span.ordered inside
  rw [Region.between_of_le ordered] at region
  have starts : h.region.start = Caret.locate text span.start := congrArg Region.start region
  have stops : h.region.stop = Caret.locate text span.stop := congrArg Region.stop region
  have isPoint : h.region.start = h.region.stop ↔ ¬span.start < span.stop := by
    rw [starts, stops]
    constructor
    · intro same before
      exact Caret.lt_irrefl _ (same ▸ strictly before)
    · intro notBefore
      exact congrArg (Caret.locate text) (Nat.le_antisymm span.ordered (Nat.le_of_not_lt notBefore))
  obtain ⟨done, piece, cut⟩ := Cut.exists_pieces (text.take span.stop)
  obtain ⟨isLine, isColumn⟩ := cut.toNat_locate countable
  rw [← stops] at isLine isColumn
  rw [Window.endsOn_iff (Window.length_lineAt_lt countable _) rfl, isPoint, isLine, isColumn,
    Window.length_le_lineAt_iff cut, Span.Stranded, cut.getLast?_eq_return_iff,
    cut.getLast?_eq_feed_iff, not_or]
  refine and_congr_right fun _ => ?_
  cases piece with
  | nil =>
      rw [Window.lineAt_eq_nil_iff cut]
      have notEmpty : span.start < span.stop → text.take span.stop ≠ [] := by
        intro before
        refine List.ne_nil_of_length_pos ?_
        rw [List.length_take]
        omega
      by_cases before : span.start < span.stop
      · simp [before, notEmpty before]
      · simp [before]
  | cons char piece => simp

/-! ## The rows of a window as they are drawn -/

open Signal

namespace Terminal

variable (t : Terminal) {width : Nat}

/-- What is shown in the style of notes is one note, broken into lines, and something is
marked. -/
structure ShowsOnce (t : Terminal) (drawn : List Signal) (note : String) : Prop where
  marked : (t.art.up, some .mark) ∈ painted drawn
  written : ∃ columns, textsIn .note drawn = t.typesetter.wrap columns note

theorem textsIn_note_row (width : Nat) (row : Row) :
    textsIn .note (t.row width row) = row.note?.toList := by
  cases row with
  | edge => rfl
  | line => rfl
  | marks left length note => cases note <;> rfl
  | note => rfl

/-- What is written in rows is what is shown in the style of notes. -/
theorem textsIn_note_rows (width : Nat) (rows : List Row) :
    textsIn .note (rows.flatMap (t.row width)) = Window.written rows := by
  rw [textsIn_flatMap (t.neutral_row width)]
  simp only [textsIn_note_row]
  exact (List.filterMap_eq_flatMap_toList ..).symm

/-- Marks are drawn for rows of marks and for no others. -/
theorem mark_mem_row_iff {row : Row} {c : Char} :
    (c, some .mark) ∈ painted (t.row width row) ↔
      c = t.art.up ∧ ∃ left length beside, row = .marks left length beside ∧ 0 < length := by
  cases row with
  | edge length label =>
      obtain ⟨rest, isPainted⟩ := @painted_edge t width length label
      simp [isPainted]
  | line number text => simp [painted_line]
  | marks left length note =>
      cases note <;> simp [painted_marks, beside, Nat.pos_iff_ne_zero, and_comm]
  | note indent text => simp [painted_note]

/-- What is shown of a diagnostic about one highlight of a source. -/
theorem signals_eq {d : Diagnostic} {sources : Sources} {source : Source} {h : Highlight}
    (found : d.source.bind sources.find? = some source) (only : d.highlights = [h]) :
    t.signals d sources = t.message d sources ++
      (Window.rows t.typesetter [h] source.text.toList source.name t.width).flatMap
        (t.row (Window.gutterWidth [h])) := by
  rw [signals, window, found, only]
  rfl

/-- What is written of the note of a source's only highlight is written under its last line. -/
theorem textsIn_note_signals {d : Diagnostic} {sources : Sources} {source : Source}
    {h : Highlight} (found : d.source.bind sources.find? = some source)
    (only : d.highlights = [h]) (next : h.region.stop.line.toNat + 1 < UInt32.size) :
    textsIn .note (t.signals d sources) =
      Window.written (Window.highlightRows t.typesetter (Window.codeWidth [h] t.width)
        h.region.stop.line (Window.lineAt source.text.toList h.region.stop.line.toNat) h) := by
  rw [t.signals_eq found only, textsIn_append (t.neutral_message d sources),
    t.textsIn_note_message, List.nil_append, t.textsIn_note_rows, Window.written_rows next]

end Terminal

/-- A parse error is shown with a window on its text.  Something of its highlight is marked
there and the note is written once, unless the span of the error stops inside a line break or,
not being empty, at the beginning of a line that is not empty; then nothing of the note is
written. -/
theorem parse_error_is_shown_iff {ω : Type} [Printable ω] {sources : Sources} {id : SourceId}
    {name message text : String} {span : Span} (t : Terminal)
    (registered : sources.find? id = some ⟨name, text⟩) (inside : span.stop ≤ text.toList.length)
    (countable : Countable text.toList)
    (next : (text.toList.splitOn '\n').length < UInt32.size) :
    let e := ParseError.ofFailure message span (.text (.ofString text) : Input ω)
    let d := e.diagnostic (some id)
    (t.ShowsOnce (t.signals d sources) e.found ↔ ¬span.Stranded text.toList) ∧
      (span.Stranded text.toList → textsIn .note (t.signals d sources) = []) ∧
      (t.coloured = false →
        (t.present d sources).toList = (painted (t.signals d sources)).map Prod.fst) := by
  intro e d
  have region : e.region =
      .between (Caret.locate text.toList span.start) (Caret.locate text.toList span.stop) := rfl
  have ends := @endsOn_locate_iff _ countable _ inside ⟨e.region, e.found⟩ region
  have nextLine : e.region.stop.line.toNat + 1 < UInt32.size := by
    rw [region, Region.between_of_le (Caret.locate_le countable span.ordered inside)]
    obtain ⟨_, there, _⟩ := Caret.locate_inside countable inside rfl
    have isLine := (List.getElem?_eq_some_iff.mp there).choose
    exact Nat.lt_of_le_of_lt isLine next
  have noted := @t.textsIn_note_signals d sources ⟨name, text⟩ ⟨e.region, e.found⟩ registered rfl
    nextLine
  have unwritten (stranded : span.Stranded text.toList) :
      textsIn .note (t.signals d sources) = [] :=
    noted.trans (Window.written_highlightRows_of_not fun there => ends.mp there stranded)
  refine ⟨⟨fun shows stranded => ?_, fun notStranded => ?_⟩, unwritten, fun colourless => ?_⟩
  · obtain ⟨columns, isWritten⟩ := shows.written
    exact t.typesetter.wrap_ne_nil _ _ (isWritten.symm.trans (unwritten stranded))
  · obtain ⟨⟨left, length, beside, member, positive⟩, isWritten⟩ :=
      Window.shown_highlightRows t.typesetter
        (Window.codeWidth [⟨e.region, e.found⟩] t.width) (ends.mpr notStranded)
    refine ⟨?_, noted ▸ isWritten⟩
    rw [@t.signals_eq d sources ⟨name, text⟩ ⟨e.region, e.found⟩ registered rfl,
      painted_append (t.neutral_message d sources), painted_flatMap (t.neutral_row _)]
    apply List.mem_append_right
    exact List.mem_flatMap.mpr ⟨_, Window.mem_rows_of_mem_highlightRows nextLine member,
      t.mark_mem_row_iff.mpr ⟨rfl, left, length, beside, rfl, positive⟩⟩
  · rw [Terminal.present, colourless, toList_join_spell]

/-- An error at the start of the second line is shown there. -/
theorem error_on_second_line_is_shown :
    let e := ParseError.ofFailure "expected end of input" (.point 3)
      (.text (.ofString "ab\ncd") : Input (Term Nat))
    let t : Terminal := .new .ascii 80 false
    t.ShowsOnce (t.signals (e.diagnostic (some ⟨0⟩)) ⟨#[⟨"input", "ab\ncd"⟩]⟩) e.found :=
  (@parse_error_is_shown_iff (Term Nat) _ ⟨#[⟨"input", "ab\ncd"⟩]⟩ ⟨0⟩ "input" _ "ab\ncd" (.point 3)
    (.new .ascii 80 false) rfl (by decide) (.of_length_lt (by decide)) (by decide)).1.mpr
      (by decide)

/-- A highlight that takes in the line break before a line with something on it is marked
without its note, and one that takes in nothing else is lost altogether. -/
theorem highlight_of_line_break_is_lost :
    let t : Terminal := .new .unicode 80 false
    (let e := ParseError.ofFailure "rejected" ⟨0, 4, by decide⟩
      (.text (.ofString "1/0\n2") : Input (Term Nat))
    textsIn .note (t.signals (e.diagnostic (some ⟨0⟩)) ⟨#[⟨"calc", "1/0\n2"⟩]⟩) = []) ∧
    (let e := ParseError.ofFailure "rejected" ⟨1, 2, by decide⟩
      (.text (.ofString "a\nb") : Input (Term Nat))
    ∀ c, (c, some .mark) ∉
      painted (t.signals (e.diagnostic (some ⟨0⟩)) ⟨#[⟨"input", "a\nb"⟩]⟩)) := by
  intro t
  constructor
  · intro e
    rw [@t.textsIn_note_signals (e.diagnostic (some ⟨0⟩)) _ _ ⟨e.region, e.found⟩ rfl rfl
      (by decide)]
    refine Window.written_highlightRows_of_not fun ends => ?_
    exact (@endsOn_locate_iff "1/0\n2".toList (.of_length_lt (by decide)) ⟨0, 4, by decide⟩
      (by decide) _ rfl).mp ends (by decide)
  · intro e c member
    have drawn := @t.signals_eq (e.diagnostic (some ⟨0⟩)) ⟨#[⟨"input", "a\nb"⟩]⟩ _
      ⟨e.region, e.found⟩ rfl rfl
    rw [drawn, painted_append (t.neutral_message _ _), painted_flatMap (t.neutral_row _)] at member
    rcases List.mem_append.mp member with inMessage | inWindow
    · exact t.mark_notMem_message _ _ _ inMessage
    obtain ⟨row, isRow, marked⟩ := List.mem_flatMap.mp inWindow
    obtain ⟨_, left, length, beside, rfl, _⟩ := t.mark_mem_row_iff.mp marked
    obtain ⟨shown, isShown, part, common⟩ := Window.exists_part_of_marks isRow
    have apart : ∀ shown ∈ Window.shownLines [⟨e.region, e.found⟩] "a\nb".toList,
        e.region.intersection (Window.lineRegion shown.1 shown.2) = none := by decide
    rw [apart shown isShown] at common
    cases common

end Packrat
