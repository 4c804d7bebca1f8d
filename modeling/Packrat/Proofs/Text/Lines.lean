import Packrat.Diagnostic.Window

/-!
# Lines of a text

The line feeds of a text cut it into pieces.  The caret of a position is the number of
the last piece of what stands before it, and the length of that piece.  A line as it is
shown is a piece, without the carriage return that belongs to the line break after it.
-/

namespace Packrat

namespace Caret

theorem lt_of_lt_of_le {a b c : Caret} (before : a < b) (after : b ≤ c) : a < c := by
  simp only [lt_def, le_def] at *
  omega

theorem le_refl (c : Caret) : c ≤ c := le_def.mpr (.inr ⟨rfl, Nat.le_refl _⟩)

theorem lt_irrefl (c : Caret) : ¬c < c := by
  simp [lt_def]

theorem le_of_lt {a b : Caret} (before : a < b) : a ≤ b := by
  simp only [lt_def, le_def] at *
  omega

theorem later_le_iff {a b c : Caret} : a.later b ≤ c ↔ a ≤ c ∧ b ≤ c := by
  simp only [later, le_def]
  split <;> omega

theorem lt_earlier_iff {a b c : Caret} : c < a.earlier b ↔ c < a ∧ c < b := by
  simp only [earlier, le_def, lt_def]
  split <;> omega

theorem earlier_eq_left_iff {a b : Caret} : a.earlier b = a ↔ a ≤ b := by
  rw [earlier, ite_eq_left_iff]
  refine ⟨fun same => Classical.byContradiction fun notBefore => ?_, fun before notBefore => ?_⟩
  · exact notBefore (same notBefore ▸ le_refl _)
  · exact absurd before notBefore

theorem le_later_right (a b : Caret) : b ≤ a.later b := (later_le_iff.mp (le_refl _)).2

theorem earlier_le_right (a b : Caret) : a.earlier b ≤ b := by
  simp only [earlier, le_def]
  split <;> omega

end Caret

/-- The pieces of a text that line feeds cut it into: those that a line feed ends, and the
last one. -/
inductive Cut : List Char → List (List Char) → List Char → Prop where
  | nil : Cut [] [] []
  /-- A line feed ends an empty piece. -/
  | feed {text : List Char} {done : List (List Char)} {last : List Char} :
      Cut text done last → Cut ('\n' :: text) ([] :: done) last
  /-- Another character goes to the first piece, which is the last one. -/
  | only {char : Char} {text last : List Char} :
      char ≠ '\n' → Cut text [] last → Cut (char :: text) [] (char :: last)
  /-- Another character goes to the first piece of several. -/
  | first {char : Char} {text piece last : List Char} {done : List (List Char)} :
      char ≠ '\n' → Cut text (piece :: done) last →
      Cut (char :: text) ((char :: piece) :: done) last

namespace Cut

variable {text before after piece last : List Char} {done rest : List (List Char)}

theorem exists_pieces (text : List Char) : ∃ done last, Cut text done last := by
  induction text with
  | nil => exact ⟨_, _, .nil⟩
  | cons char text induction =>
      obtain ⟨done, last, cut⟩ := induction
      by_cases isFeed : char = '\n'
      · subst isFeed
        exact ⟨_, _, .feed cut⟩
      · cases done with
        | nil => exact ⟨_, _, .only isFeed cut⟩
        | cons piece done => exact ⟨_, _, .first isFeed cut⟩

theorem splitList_eq (cut : Cut text done last) : splitList '\n' text = done ++ [last] := by
  induction cut with
  | nil => rfl
  | @feed text done last _ induction =>
      rw [splitList, induction]
      cases done <;> simp
  | only notFeed _ induction =>
      rw [splitList, induction]
      simp [notFeed]
  | first notFeed _ induction =>
      rw [splitList, induction]
      simp [notFeed]

/-- A line feed puts an end to the last piece. -/
theorem append_feed (cut : Cut before done piece) (later : Cut after rest last) :
    Cut (before ++ '\n' :: after) (done ++ piece :: rest) last := by
  induction cut with
  | nil => exact .feed later
  | feed _ induction => exact .feed induction
  | only notFeed _ induction => exact .first notFeed induction
  | first notFeed _ induction => exact .first notFeed induction

/-- The caret after a text is at the end of its last piece. -/
theorem advanceAll_eq (cut : Cut text done last) (c : Caret) :
    c.advanceAll text =
      ⟨c.line + .ofNat done.length,
        if done = [] then c.column + .ofNat last.length else .ofNat last.length⟩ := by
  have next (n m : UInt32) : n + 1 + m = n + (m + 1) := by
    rw [UInt32.add_assoc, UInt32.add_comm 1]
  induction cut generalizing c with
  | nil => simp
  | @feed text done last _ induction =>
      rw [Caret.advanceAll_cons, induction]
      by_cases isOnly : done = [] <;> simp [Caret.advance, isOnly, UInt32.ofNat_add, next]
  | only notFeed _ induction =>
      rw [Caret.advanceAll_cons, induction]
      simp [Caret.advance, notFeed, UInt32.ofNat_add, next]
  | first notFeed _ induction =>
      rw [Caret.advanceAll_cons, induction]
      simp [Caret.advance, notFeed]

theorem locate_eq {position : Nat} (cut : Cut (text.take position) done last) :
    Caret.locate text position = ⟨.ofNat done.length, .ofNat last.length⟩ := by
  rw [Caret.locate, cut.advanceAll_eq]
  simp [Caret.origin]

/-- A text ends as its last piece does, or it ends with a line feed. -/
theorem getLast?_eq (cut : Cut text done last) (notEmpty : text ≠ []) :
    text.getLast? = if last = [] then some '\n' else last.getLast? := by
  induction cut with
  | nil => exact absurd rfl notEmpty
  | @feed text done last cut induction =>
      cases cut with
      | nil => rfl
      | _ => rw [List.getLast?_cons_cons]; exact induction (List.cons_ne_nil _ _)
  | @only char text last _ cut induction =>
      cases cut with
      | nil => rfl
      | only notFeed cut =>
        rw [List.getLast?_cons_cons, induction (List.cons_ne_nil _ _)]
        simp
  | @first char text piece last done _ cut induction =>
      cases cut with
      | feed =>
        rw [List.getLast?_cons_cons]
        exact induction (List.cons_ne_nil _ _)
      | first =>
        rw [List.getLast?_cons_cons]
        exact induction (List.cons_ne_nil _ _)

theorem of_no_feed {line : List Char} (noFeed : '\n' ∉ line) : Cut line [] line := by
  induction line with
  | nil => exact .nil
  | cons char line induction =>
      exact .only (fun isFeed => noFeed (isFeed ▸ List.mem_cons_self))
        (induction fun member => noFeed (List.mem_cons_of_mem _ member))

/-- What comes without a line feed goes to the last piece. -/
theorem append_line {line : List Char} (cut : Cut before done piece) (noFeed : '\n' ∉ line) :
    Cut (before ++ line) done (piece ++ line) := by
  induction cut with
  | nil => exact of_no_feed noFeed
  | feed _ induction => exact .feed induction
  | only notFeed _ induction => exact .only notFeed induction
  | first notFeed _ induction => exact .first notFeed induction

theorem feed_not_mem (cut : Cut text done last) : '\n' ∉ last := by
  induction cut with
  | nil => exact List.not_mem_nil
  | feed _ induction => exact induction
  | only notFeed _ induction =>
      intro member
      rcases List.mem_cons.mp member with isFeed | later
      · exact notFeed isFeed.symm
      · exact induction later
  | first _ _ induction => exact induction

theorem getLast?_eq_feed_iff (cut : Cut text done last) :
    text.getLast? = some '\n' ↔ text ≠ [] ∧ last = [] := by
  by_cases isEmpty : text = []
  · simp [isEmpty]
  · rw [cut.getLast?_eq isEmpty]
    split
    next noLast => simp [isEmpty, noLast]
    next notEmpty =>
      refine ⟨fun ends => absurd (List.mem_of_getLast? ends) cut.feed_not_mem, ?_⟩
      exact fun noLast => absurd noLast.2 notEmpty

theorem getLast?_eq_return_iff (cut : Cut text done last) :
    text.getLast? = some '\r' ↔ last.getLast? = some '\r' := by
  by_cases isEmpty : text = []
  · subst isEmpty
    cases cut
    rfl
  · rw [cut.getLast?_eq isEmpty]
    split
    next noLast => simp [noLast]
    next => rfl

end Cut

namespace Window

variable {text piece last : List Char} {done rest : List (List Char)}

/-- The line with a number as it is shown; past the end it is empty. -/
def lineAt (text : List Char) (number : Nat) : List Char := (linesOf text)[number]?.getD []

theorem lineAt_last (cut : Cut text done last) : lineAt text done.length = last := by
  unfold lineAt linesOf
  simp only [cut.splitList_eq, List.dropLast_concat, List.getLast?_concat]
  cases last <;> simp

theorem lineAt_done (cut : Cut text (done ++ piece :: rest) last) :
    lineAt text done.length = withoutReturn piece := by
  unfold lineAt linesOf
  simp only [cut.splitList_eq, List.dropLast_concat]
  simp

/-- The line that a place of a text is on, where a line feed ends it: what comes before the
place and after it, without the carriage return of the line break. -/
theorem lineAt_before_feed {before line later : List Char} (cut : Cut before done piece)
    (noFeed : '\n' ∉ line) :
    lineAt (before ++ (line ++ '\n' :: later)) done.length = withoutReturn (piece ++ line) := by
  obtain ⟨_, last, laterCut⟩ := Cut.exists_pieces later
  rw [← List.append_assoc]
  exact lineAt_done ((cut.append_line noFeed).append_feed laterCut)

/-- The line that a place of a text is on, where the text ends it. -/
theorem lineAt_before_end {before line : List Char} (cut : Cut before done piece)
    (noFeed : '\n' ∉ line) : lineAt (before ++ line) done.length = piece ++ line :=
  lineAt_last (cut.append_line noFeed)

theorem length_withoutReturn (line : List Char) :
    (withoutReturn line).length =
      if line.getLast? = some '\r' then line.length - 1 else line.length := by
  unfold withoutReturn
  simp only [beq_iff_eq]
  split <;> simp

/-- The shown line goes as far as a place that is on it, unless the place is between the
two characters of a line break. -/
theorem length_le_lineAt_iff {position : Nat} (cut : Cut (text.take position) done piece) :
    piece.length ≤ (lineAt text done.length).length ↔
      ¬(piece.getLast? = some '\r' ∧ (text.drop position).head? = some '\n') := by
  have whole : text = text.take position ++ text.drop position :=
    (List.take_append_drop position text).symm
  generalize text.take position = before at cut whole
  generalize text.drop position = after at whole ⊢
  subst whole
  by_cases hasFeed : '\n' ∈ after
  · obtain ⟨line, later, rfl, noFeed⟩ := List.eq_append_cons_of_mem hasFeed
    rw [lineAt_before_feed cut noFeed, length_withoutReturn]
    cases line with
    | nil =>
        rw [List.append_nil]
        cases piece with
        | nil => simp
        | cons char piece => split <;> simp_all
    | cons char line =>
        have notFeed : char ≠ '\n' := fun isFeed => noFeed (isFeed ▸ List.mem_cons_self)
        rw [List.length_append, List.length_cons]
        simp only [List.cons_append, List.head?_cons, Option.some.injEq, notFeed, and_false,
          not_false_eq_true, iff_true]
        split <;> omega
  · rw [lineAt_before_end cut hasFeed, List.length_append]
    have notFeed : after.head? ≠ some '\n' := fun isFeed => hasFeed (List.mem_of_mem_head? isFeed)
    simp [notFeed]

/-- Whether a line ends here, with the text or with a line break. -/
def endsLine : List Char → Bool
  | [] | '\n' :: _ | '\r' :: '\n' :: _ => true
  | _ => false

theorem endsLine_iff {after : List Char} :
    endsLine after = true ↔
      after = [] ∨ (∃ later, after = '\n' :: later) ∨ ∃ later, after = '\r' :: '\n' :: later := by
  unfold endsLine
  split <;> simp_all

/-- A line that begins at a place is shown as empty if it ends there. -/
theorem lineAt_eq_nil_iff {position : Nat} (cut : Cut (text.take position) done []) :
    lineAt text done.length = [] ↔ endsLine (text.drop position) = true := by
  have whole : text = text.take position ++ text.drop position :=
    (List.take_append_drop position text).symm
  generalize text.take position = before at cut whole
  generalize text.drop position = after at whole ⊢
  subst whole
  rw [endsLine_iff]
  by_cases hasFeed : '\n' ∈ after
  · obtain ⟨line, later, rfl, noFeed⟩ := List.eq_append_cons_of_mem hasFeed
    rw [lineAt_before_feed cut noFeed, ← List.length_eq_zero_iff, length_withoutReturn,
      List.nil_append]
    match line, noFeed with
    | [], _ => simp
    | [char], noFeed =>
        have notFeed : char ≠ '\n' := fun isFeed => noFeed (isFeed ▸ List.mem_cons_self)
        simp [notFeed]
    | char :: other :: line, noFeed =>
        have notFeed : char ≠ '\n' ∧ other ≠ '\n' :=
          ⟨fun isFeed => noFeed (isFeed ▸ List.mem_cons_self),
            fun isFeed => noFeed (isFeed ▸ List.mem_cons_of_mem _ List.mem_cons_self)⟩
        split <;> simp [notFeed]
  · rw [lineAt_before_end cut hasFeed, List.nil_append]
    refine ⟨.inl, ?_⟩
    rintro (isEnd | ⟨later, rfl⟩ | ⟨later, rfl⟩)
    · exact isEnd
    · exact absurd List.mem_cons_self hasFeed
    · exact absurd (List.mem_cons_of_mem _ List.mem_cons_self) hasFeed

end Window

end Packrat
