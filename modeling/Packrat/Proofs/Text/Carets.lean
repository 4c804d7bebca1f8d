import Packrat.Proofs.Text.Lines
import Mathlib.Algebra.BigOperators.Group.List.Basic
import Mathlib.Algebra.GroupWithZero.Nat

/-!
# Carets and positions

The line of a caret is the number of a piece that the line feeds of a text cut it into, and
its column counts from where the piece begins.  So each position of a text has a caret of its
own, and in each piece every column up to its end is that of a position, as long as the words
that count lines and columns do not run out.
-/

namespace Packrat

theorem splitList_eq_splitOn (separator : Char) (text : List Char) :
    splitList separator text = text.splitOn separator := by
  induction text with
  | nil => rfl
  | cons char text induction =>
      obtain ⟨piece, pieces, split⟩ :=
        List.exists_cons_of_ne_nil (List.splitOn_ne_nil separator text)
      rw [splitList, induction, List.splitOn_cons_eq_if_modifyHead, split]
      rfl

/-! ## Where lines begin -/

/-- The position where a line begins: after the pieces before it and a line feed after each
of them. -/
def lineStart (text : List Char) (line : Nat) : Nat :=
  (((text.splitOn '\n').take line).map fun piece => piece.length + 1).sum

section

variable {text piece : List Char} {line other column : Nat}

theorem lineStart_succ (there : (text.splitOn '\n')[line]? = some piece) :
    lineStart text (line + 1) = lineStart text line + (piece.length + 1) := by
  simp only [lineStart, List.take_add_one, there, Option.toList_some, List.map_append,
    List.map_cons, List.map_nil, List.sum_append, List.sum_singleton]

theorem lineStart_le (notAfter : line ≤ other) : lineStart text line ≤ lineStart text other := by
  obtain ⟨more, rfl⟩ := Nat.exists_eq_add_of_le notAfter
  simp only [lineStart, List.take_add, List.map_append, List.sum_append]
  exact Nat.le_add_right _ _

/-- The places of a line, its end included, come before the next lines. -/
theorem lineStart_add_lt (there : (text.splitOn '\n')[line]? = some piece)
    (inPiece : column ≤ piece.length) (before : line < other) :
    lineStart text line + column < lineStart text other := by
  have next := @lineStart_le text _ _ before
  rw [Nat.succ_eq_add_one, lineStart_succ there] at next
  omega

end

namespace Cut

variable {text before after piece last : List Char} {done rest : List (List Char)}

theorem splitOn_eq (cut : Cut text done last) : text.splitOn '\n' = done ++ [last] := by
  rw [← splitList_eq_splitOn, cut.splitList_eq]

/-- A text is made up of its pieces, with a line feed after each but the last. -/
theorem eq_append (cut : Cut text done last) :
    text = done.flatMap (· ++ ['\n']) ++ last := by
  induction cut with
  | nil => rfl
  | feed _ induction => exact congrArg ('\n' :: ·) induction
  | only _ _ induction => exact congrArg (_ :: ·) induction
  | first _ _ induction => exact congrArg (_ :: ·) induction

theorem length_flatMap (done : List (List Char)) :
    (done.flatMap (· ++ ['\n'])).length = (done.map fun piece => piece.length + 1).sum := by
  simp [List.length_flatMap]

/-- The last piece before a place of a text goes on after it, up to the next line feed. -/
theorem exists_piece (cut : Cut before done piece) (after : List Char) :
    ∃ line rest more, (before ++ after).splitOn '\n' = done ++ (piece ++ line) :: rest ∧
      after = line ++ more := by
  by_cases hasFeed : '\n' ∈ after
  · obtain ⟨line, later, rfl, noFeed⟩ := List.eq_append_cons_of_mem hasFeed
    obtain ⟨rest, last, laterCut⟩ := Cut.exists_pieces later
    refine ⟨line, rest ++ [last], '\n' :: later, ?_, rfl⟩
    rw [← List.append_assoc, ((cut.append_line noFeed).append_feed laterCut).splitOn_eq]
    simp
  · refine ⟨after, [], [], ?_, (List.append_nil after).symm⟩
    rw [(cut.append_line hasFeed).splitOn_eq]

end Cut

/-- After the last line there would be one more position. -/
theorem lineStart_length (text : List Char) :
    lineStart text (text.splitOn '\n').length = text.length + 1 := by
  obtain ⟨done, last, cut⟩ := Cut.exists_pieces text
  have length := congrArg List.length cut.eq_append
  rw [List.length_append, Cut.length_flatMap] at length
  rw [lineStart, List.take_length, cut.splitOn_eq, length]
  simp only [List.map_append, List.map_cons, List.map_nil, List.sum_append, List.sum_singleton]
  omega

theorem lineStart_add_le {text piece : List Char} {line column : Nat}
    (there : (text.splitOn '\n')[line]? = some piece) (inPiece : column ≤ piece.length) :
    lineStart text line + column ≤ text.length := by
  have isLine : line < (text.splitOn '\n').length := (List.getElem?_eq_some_iff.mp there).choose
  have before := lineStart_add_lt there inPiece isLine
  rw [lineStart_length] at before
  omega

/-! ## The carets of a text -/

/-- Machine words are enough to count the lines of a text and the characters of each line. -/
structure Countable (text : List Char) : Prop where
  lines : (text.splitOn '\n').length ≤ UInt32.size
  columns : ∀ piece ∈ text.splitOn '\n', piece.length < UInt32.size

/-- A text is countable if a word can count all of its characters. -/
theorem Countable.of_length_lt {text : List Char} (few : text.length < UInt32.size) :
    Countable text where
  lines := by
    have positions := lineStart_length text
    rw [lineStart, List.take_length] at positions
    have atLeast := List.length_le_sum_of_one_le
      ((text.splitOn '\n').map fun piece => piece.length + 1) (by simp)
    rw [List.length_map, positions] at atLeast
    omega
  columns piece member := by
    obtain ⟨line, isLine, rfl⟩ := List.getElem_of_mem member
    have inside := lineStart_add_le (List.getElem?_eq_getElem isLine) (Nat.le_refl _)
    omega

/-- Where words can count lines and columns, a caret is at the end of the last piece before
its position. -/
theorem Cut.toNat_locate {text last : List Char} {done : List (List Char)} {position : Nat}
    (cut : Cut (text.take position) done last) (countable : Countable text) :
    (Caret.locate text position).line.toNat = done.length ∧
      (Caret.locate text position).column.toNat = last.length := by
  obtain ⟨back, rest, _, pieces, _⟩ := cut.exists_piece (text.drop position)
  rw [List.take_append_drop] at pieces
  have fewLines : done.length < UInt32.size := by
    have lines := countable.lines
    rw [pieces, List.length_append, List.length_cons] at lines
    omega
  have fewColumns : last.length < UInt32.size := by
    have columns := countable.columns (last ++ back) (pieces ▸ by simp)
    rw [List.length_append] at columns
    omega
  rw [cut.locate_eq]
  exact ⟨UInt32.toNat_ofNat_of_lt' fewLines, UInt32.toNat_ofNat_of_lt' fewColumns⟩

namespace Caret

variable {text piece : List Char} {position other line column : Nat}

/-- The caret of a position is in a piece of the text, as far from where the piece begins as
the position is. -/
theorem locate_inside (countable : Countable text) (inside : position ≤ text.length) {caret : Caret}
    (isCaret : locate text position = caret) :
    ∃ piece, (text.splitOn '\n')[caret.line.toNat]? = some piece ∧
      caret.column.toNat ≤ piece.length ∧
      lineStart text caret.line.toNat + caret.column.toNat = position ∧
      piece <+: text.drop (position - caret.column.toNat) := by
  obtain ⟨done, front, cut⟩ := Cut.exists_pieces (text.take position)
  obtain ⟨back, rest, more, pieces, onward⟩ := cut.exists_piece (text.drop position)
  rw [List.take_append_drop] at pieces
  obtain ⟨isLine, isColumn⟩ := cut.toNat_locate countable
  subst isCaret
  rw [isLine, isColumn]
  have length := congrArg List.length cut.eq_append
  rw [List.length_take, Nat.min_eq_left inside, List.length_append] at length
  refine ⟨front ++ back, ?_, ?_, ?_, ?_⟩
  · rw [pieces, List.getElem?_append_right (Nat.le_refl _), Nat.sub_self]
    rfl
  · rw [List.length_append]
    exact Nat.le_add_right _ _
  · rw [length, lineStart, pieces, List.take_left, Cut.length_flatMap]
  · have whole : text = done.flatMap (· ++ ['\n']) ++ (front ++ back ++ more) := by
      rw [List.append_assoc front, ← onward, ← List.append_assoc, ← cut.eq_append,
        List.take_append_drop]
    have onFrom : text.drop (done.flatMap (· ++ ['\n'])).length = front ++ back ++ more := by
      rw [whole, List.drop_left]
    rw [length, Nat.add_sub_cancel, onFrom]
    exact List.prefix_append _ _

/-- A line that is a piece of the text has a position for every column up to the end of the
piece. -/
theorem locate_lineStart (countable : Countable text)
    (there : (text.splitOn '\n')[line]? = some piece) (inPiece : column ≤ piece.length) :
    (locate text (lineStart text line + column)).line.toNat = line ∧
      (locate text (lineStart text line + column)).column.toNat = column := by
  have inside := lineStart_add_le there inPiece
  obtain ⟨otherPiece, otherThere, inOther, same, _⟩ := locate_inside countable inside rfl
  generalize (locate text (lineStart text line + column)).line.toNat = other at *
  rcases Nat.lt_trichotomy line other with before | rfl | after
  · have := lineStart_add_lt there inPiece before
    omega
  · exact ⟨rfl, by omega⟩
  · have := lineStart_add_lt otherThere inOther after
    omega

/-- A piece stands where its line begins. -/
theorem prefix_drop_lineStart (countable : Countable text)
    (there : (text.splitOn '\n')[line]? = some piece) :
    piece <+: text.drop (lineStart text line) := by
  obtain ⟨isLine, isColumn⟩ := locate_lineStart countable there (Nat.zero_le _)
  obtain ⟨same, sameThere, _, _, begins⟩ :=
    locate_inside countable (lineStart_add_le there (Nat.zero_le _)) rfl
  rw [isLine] at sameThere
  rw [isColumn] at begins
  obtain rfl := Option.some.inj (there.symm.trans sameThere)
  exact begins

/-- Later positions of a text have later carets. -/
theorem locate_lt (countable : Countable text) (before : position < other)
    (inside : other ≤ text.length) : locate text position < locate text other := by
  obtain ⟨_, _, _, isPosition, _⟩ :=
    locate_inside countable (Nat.le_trans (Nat.le_of_lt before) inside) rfl
  obtain ⟨_, there, inPiece, isOther, _⟩ := locate_inside countable inside rfl
  rw [lt_def]
  rcases Nat.lt_trichotomy (locate text position).line.toNat (locate text other).line.toNat with
    earlier | same | after
  · exact .inl earlier
  · rw [same] at isPosition
    exact .inr ⟨same, by omega⟩
  · have := lineStart_add_lt there inPiece after
    omega

theorem locate_le (countable : Countable text) (notAfter : position ≤ other)
    (inside : other ≤ text.length) : locate text position ≤ locate text other := by
  rcases Nat.lt_or_eq_of_le notAfter with before | rfl
  · exact le_of_lt (locate_lt countable before inside)
  · exact le_refl _

theorem locate_le_iff (countable : Countable text) (inside : position ≤ text.length)
    (otherInside : other ≤ text.length) :
    locate text position ≤ locate text other ↔ position ≤ other := by
  refine ⟨fun notAfter => Nat.le_of_not_lt fun after => ?_, fun ordered => ?_⟩
  · exact lt_irrefl _ (lt_of_lt_of_le (locate_lt countable after inside) notAfter)
  · exact locate_le countable ordered otherInside

theorem locate_lt_iff (countable : Countable text) (inside : position ≤ text.length)
    (otherInside : other ≤ text.length) :
    locate text position < locate text other ↔ position < other := by
  refine ⟨fun before => Nat.lt_of_not_le fun notBefore => ?_, fun before => ?_⟩
  · exact lt_irrefl _ (lt_of_lt_of_le before (locate_le countable notBefore inside))
  · exact locate_lt countable before otherInside

/-- Positions that have the same caret are the same. -/
theorem locate_inj (countable : Countable text) (inside : position ≤ text.length)
    (otherInside : other ≤ text.length) (same : locate text position = locate text other) :
    position = other := by
  obtain ⟨_, _, _, isPosition, _⟩ := locate_inside countable inside same
  obtain ⟨_, _, _, isOther, _⟩ := locate_inside countable otherInside rfl
  exact isPosition.symm.trans isOther

/-- The caret of a place in a single line, where the word for its column may run out. -/
theorem locate_replicate {count : Nat} (inside : position ≤ count) :
    locate (.replicate count 'a') position = ⟨0, .ofNat position⟩ := by
  have cut := @Cut.of_no_feed (List.replicate position 'a') (by simp [List.mem_replicate])
  rw [← Nat.min_eq_left inside, ← List.take_replicate] at cut
  rw [cut.locate_eq, List.take_replicate, List.length_replicate, Nat.min_eq_left inside]
  rfl

end Caret

/-! ## The lines that are shown -/

namespace Window

variable {text : List Char} {number index : Nat}

theorem withoutReturn_prefix (line : List Char) : withoutReturn line <+: line := by
  unfold withoutReturn
  split
  · exact List.dropLast_prefix line
  · exact List.prefix_refl line

theorem length_linesOf_le {done : List (List Char)} {last : List Char} (cut : Cut text done last) :
    (linesOf text).length ≤ done.length + 1 := by
  unfold linesOf
  simp only [cut.splitList_eq, List.dropLast_concat, List.getLast?_concat, List.length_append,
    List.length_map]
  exact Nat.add_le_add_left (List.length_filter_le _ _) _

/-- A line that is not empty is the beginning of a piece of the text. -/
theorem exists_piece_of_ne_nil (notEmpty : lineAt text number ≠ []) :
    ∃ piece, (text.splitOn '\n')[number]? = some piece ∧ lineAt text number <+: piece := by
  obtain ⟨done, last, cut⟩ := Cut.exists_pieces text
  rcases Nat.lt_trichotomy number done.length with before | rfl | after
  · obtain ⟨front, piece, rest, rfl, rfl⟩ :
        ∃ front piece rest, done = front ++ piece :: rest ∧ number = front.length :=
      ⟨done.take number, done[number], done.drop (number + 1), by simp, by simp; omega⟩
    refine ⟨piece, ?_, lineAt_done cut ▸ withoutReturn_prefix piece⟩
    rw [cut.splitOn_eq, List.append_assoc, List.getElem?_append_right (Nat.le_refl _), Nat.sub_self]
    rfl
  · refine ⟨last, ?_, lineAt_last cut ▸ List.prefix_refl last⟩
    rw [cut.splitOn_eq, List.getElem?_concat_length]
  · have past := List.getElem?_eq_none (Nat.le_trans (length_linesOf_le cut) after)
    rw [lineAt, past] at notEmpty
    exact absurd rfl notEmpty

section

variable (countable : Countable text)

include countable

theorem length_lineAt_lt (number : Nat) : (lineAt text number).length < UInt32.size := by
  by_cases isEmpty : lineAt text number = []
  · rw [isEmpty]
    decide
  · obtain ⟨piece, there, begins⟩ := exists_piece_of_ne_nil isEmpty
    exact Nat.lt_of_le_of_lt begins.length_le
      (countable.columns piece (List.mem_of_getElem? there))

/-- The characters of a shown line stand in the text from where the line begins on. -/
theorem lineAt_prefix_drop (number : Nat) :
    lineAt text number <+: text.drop (lineStart text number) := by
  by_cases isEmpty : lineAt text number = []
  · rw [isEmpty]
    exact List.nil_prefix
  · obtain ⟨piece, there, begins⟩ := exists_piece_of_ne_nil isEmpty
    exact begins.trans (Caret.prefix_drop_lineStart countable there)

/-- The columns of the characters of a shown line count from where the line begins. -/
theorem locate_onLine (onLine : index < (lineAt text number).length) :
    lineStart text number + index < text.length ∧
      (Caret.locate text (lineStart text number + index)).line.toNat = number ∧
      (Caret.locate text (lineStart text number + index)).column.toNat = index := by
  have notEmpty := List.ne_nil_of_length_pos (Nat.lt_of_le_of_lt (Nat.zero_le _) onLine)
  obtain ⟨piece, there, begins⟩ := exists_piece_of_ne_nil notEmpty
  have inPiece := Nat.lt_of_lt_of_le onLine begins.length_le
  have untilEnd := lineStart_add_le there (Nat.le_refl _)
  exact ⟨by omega, Caret.locate_lineStart countable there (Nat.le_of_lt inPiece)⟩

end

end Window

end Packrat
