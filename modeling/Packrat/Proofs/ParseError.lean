import Packrat.Calculator
import Packrat.Proofs.Text.Carets
import Packrat.Proofs.Text.Offsets
import Packrat.Proofs.Text.Quoted

/-!
# What a parse error says of its span

The place of a parse error, its region and its excerpt are those of its span, whatever line
breaks and quotes the input has, and its note speaks of the end of the input only there.
-/

namespace Packrat

variable {ω α : Type}

/-! ## How inputs are shown -/

/-- Whether an excerpt has nothing in it. -/
def isBlank (excerpt : String) : Bool := excerpt == "" || excerpt == quote "" || excerpt == "[]"

theorem isBlank_iff {excerpt : String} :
    isBlank excerpt = true ↔ excerpt = "" ∨ excerpt = quote "" ∨ excerpt = "[]" := by
  simp [isBlank, or_assoc]

/-- An input is shown as a list of items, which are written in some way when they stand in a
row, and each position has its caret. -/
structure Input.Shows [Printable ω] (input : Input ω) (items : List α) (write : List α → String)
    (caret : Nat → Caret) : Prop where
  length : input.length = items.length
  excerpt : ∀ start stop, start ≤ stop → stop ≤ items.length →
    input.excerpt start stop = write ((items.drop start).take (stop - start))
  located : ∀ position ≤ items.length, input.caret position = caret position
  later : ∀ position later, position < later → later ≤ items.length →
    caret position < caret later
  /-- Only where there is no item an excerpt has nothing in it. -/
  blank : isBlank (write []) = true
  notBlank : ∀ item ∈ items, isBlank (write [item]) = false
  notEnd : ∀ items, write items ≠ "the end of the input"

/-! ### Texts -/

/-- Quoted characters begin with a quote. -/
theorem quoteChars_ne {chars : List Char} {other : String}
    (noQuote : other.toList.head? ≠ some '"') : quoteChars chars ≠ other := by
  rintro rfl
  exact noQuote (by simp [quoteChars])

theorem quoteChars_eq_quote_iff {chars : List Char} {text : String} :
    quoteChars chars = quote text ↔ chars = text.toList := by
  have spelled : quote (String.ofList chars) = quoteChars chars := by
    rw [quote, String.toList_ofList]
  rw [← spelled]
  constructor
  · intro same
    rw [← quote_inj same, String.toList_ofList]
  · rintro rfl
    rw [String.ofList_toList]

theorem isBlank_quoteChars_iff {chars : List Char} :
    isBlank (quoteChars chars) = true ↔ chars = [] := by
  have notEmpty : quoteChars chars ≠ "" := quoteChars_ne (by decide)
  have notList : quoteChars chars ≠ "[]" := quoteChars_ne (by decide)
  simp [isBlank_iff, notEmpty, notList, quoteChars_eq_quote_iff]

theorem Input.text_shows [Printable ω] {t : Text} (countable : Countable t.chars.toList) :
    (.text t : Input ω).Shows t.chars.toList quoteChars (Caret.locate t.chars.toList) where
  length := rfl
  excerpt start stop ordered _ := by
    rw [Input.excerpt, Text.slice_eq_drop, Nat.min_eq_left ordered, List.drop_take]
  located _ _ := rfl
  later _ _ := Caret.locate_lt countable
  blank := isBlank_quoteChars_iff.mpr rfl
  notBlank c _ := Bool.eq_false_iff.mpr fun blank =>
    List.cons_ne_nil c [] (isBlank_quoteChars_iff.mp blank)
  notEnd _ := quoteChars_ne (by decide)

/-! ### Tokens -/

theorem Value.printList_eq_map [Printable ω] (values : List (Value ω)) :
    printList values = values.map print := by
  induction values with
  | nil => rfl
  | cons value values induction => rw [printList, induction, List.map_cons]

theorem Value.toList_print_list [Printable ω] (values : List (Value ω)) :
    (list values).print.toList =
      '[' :: ((", ".intercalate (values.map print)).toList ++ [']']) := by
  rw [print, printList_eq_map]
  simp

/-- Lists begin with a bracket. -/
theorem Value.print_list_ne [Printable ω] {values : List (Value ω)} {other : String}
    (noBracket : other.toList.head? ≠ some '[') : (list values).print ≠ other := by
  rintro rfl
  exact noBracket (by rw [toList_print_list]; rfl)

/-- A list of one item is shown with nothing between its brackets only if the item is. -/
theorem Value.isBlank_print_singleton [Printable ω] {value : Value ω} :
    isBlank (list [value]).print = true ↔ value.print = "" := by
  have notEmpty : (list [value]).print ≠ "" := print_list_ne (by decide)
  have notQuote : (list [value]).print ≠ quote "" := print_list_ne (by simp [quote, quoteChars])
  simp only [isBlank_iff, notEmpty, notQuote, false_or]
  rw [← String.toList_inj, toList_print_list]
  simp

theorem Input.tokens_shows [Printable ω] {items : Array (Value ω)}
    (few : items.size < UInt32.size) (visible : ∀ item ∈ items, item.print ≠ "") :
    (.tokens items : Input ω).Shows items.toList (fun items => (Value.list items).print)
      (fun position => ⟨0, .ofNat position⟩) where
  length := rfl
  excerpt start stop ordered inside := by
    have last : min stop items.size = stop := Nat.min_eq_left inside
    simp only [Input.excerpt, last, Nat.min_eq_left ordered, Array.toList_extract,
      List.extract_eq_take_drop]
  located position inside := by
    have last : min position items.size = position := Nat.min_eq_left inside
    rw [Input.caret, last]
  later position later before inside := by
    have small : later < UInt32.size := Nat.lt_of_le_of_lt inside few
    refine Caret.lt_def.mpr (.inr ⟨rfl, ?_⟩)
    rwa [UInt32.toNat_ofNat_of_lt' small, UInt32.toNat_ofNat_of_lt' (Nat.lt_trans before small)]
  blank := by
    simp [isBlank_iff, Value.print, Value.printList]
  notBlank item member := Bool.eq_false_iff.mpr fun blank =>
    visible item (Array.mem_toList_iff.mp member) (Value.isBlank_print_singleton.mp blank)
  notEnd items := Value.print_list_ne (by decide)

/-! ## The parts of a parse error -/

namespace ParseError

/-- What a parse error is to say about a span of some items: where it is, which region it has,
and the items that it covers, or the next one if it is empty, or that there is none. -/
structure Describes (e : ParseError) (span : Span) (items : List α) (write : List α → String)
    (caret : Nat → Caret) : Prop where
  location : e.location = caret span.start
  starts : e.region.start = e.location
  stops : e.region.stop = caret span.stop
  isEmpty_iff : e.region.isEmpty = true ↔ span.start = span.stop
  covered : span.start < span.stop →
    e.excerpt = write ((items.drop span.start).take (span.stop - span.start))
  next : ∀ inside : span.stop < items.length, span.start = span.stop →
    e.excerpt = write [items[span.stop]]
  nothing : span.start = span.stop → span.stop = items.length → e.excerpt = write []
  note : ∀ source, ∃ note, (e.diagnostic source).highlights = [⟨e.region, note⟩] ∧
    (note = "found the end of the input" ↔ span.start = span.stop ∧ span.stop = items.length) ∧
    (¬(span.start = span.stop ∧ span.stop = items.length) → note = "found " ++ e.excerpt)

theorem excerptStop_of_lt {input : Input ω} {span : Span} (notEmpty : span.start < span.stop) :
    excerptStop input span = span.stop := by
  rw [excerptStop, if_neg]
  rw [Span.isEmpty_iff]
  omega

theorem excerptStop_of_eq {input : Input ω} {span : Span} (isEmpty : span.start = span.stop) :
    excerptStop input span = min (span.stop + 1) input.length :=
  if_pos (Span.isEmpty_iff.mpr isEmpty)

section

variable [Printable ω] {input : Input ω} {items : List α} {write : List α → String}
  {caret : Nat → Caret} {span : Span} (shows : input.Shows items write caret) (message : String)

include shows

theorem excerpt_covered (inside : span.stop ≤ items.length) (notEmpty : span.start < span.stop) :
    (ofFailure message span input).excerpt =
      write ((items.drop span.start).take (span.stop - span.start)) := by
  rw [ofFailure, excerptStop_of_lt notEmpty, shows.excerpt _ _ span.ordered inside]

theorem excerpt_next (inside : span.stop < items.length) (isEmpty : span.start = span.stop) :
    (ofFailure message span input).excerpt = write [items[span.stop]] := by
  have stop : min (span.stop + 1) items.length = span.stop + 1 := Nat.min_eq_left inside
  have next : (items.drop span.stop).take (span.stop + 1 - span.stop) = [items[span.stop]] := by
    rw [Nat.add_sub_cancel_left, List.drop_eq_getElem_cons inside]
    rfl
  rw [ofFailure, excerptStop_of_eq isEmpty, shows.length, stop, isEmpty,
    shows.excerpt _ _ (Nat.le_succ _) inside]
  exact congrArg write next

theorem excerpt_nothing (isEmpty : span.start = span.stop) (atEnd : span.stop = items.length) :
    (ofFailure message span input).excerpt = write [] := by
  have stop : min (items.length + 1) items.length = items.length :=
    Nat.min_eq_right (Nat.le_succ _)
  rw [ofFailure, excerptStop_of_eq isEmpty, shows.length, isEmpty, atEnd, stop,
    shows.excerpt _ _ (Nat.le_refl _) (Nat.le_refl _), Nat.sub_self, List.take_zero]

/-- An error is at the end if its span is empty and there is nothing after it. -/
theorem atEnd_iff (inside : span.stop ≤ items.length) :
    (ofFailure message span input).atEnd = true ↔
      span.start = span.stop ∧ span.stop = items.length := by
  have unfolded : (ofFailure message span input).atEnd =
      (span.isEmpty && isBlank (ofFailure message span input).excerpt) := rfl
  rw [unfolded, Bool.and_eq_true, Span.isEmpty_iff]
  refine and_congr_right fun isEmpty => ?_
  rcases Nat.lt_or_eq_of_le inside with before | atEnd
  · rw [excerpt_next shows message before isEmpty, shows.notBlank _ (List.getElem_mem before)]
    exact iff_of_false Bool.false_ne_true (Nat.ne_of_lt before)
  · rw [excerpt_nothing shows message isEmpty atEnd]
    exact iff_of_true shows.blank atEnd

theorem exists_excerpt (inside : span.stop ≤ items.length) :
    ∃ part, (ofFailure message span input).excerpt = write part := by
  rcases Nat.lt_or_eq_of_le span.ordered with notEmpty | isEmpty
  · exact ⟨_, excerpt_covered shows message inside notEmpty⟩
  · rcases Nat.lt_or_eq_of_le inside with before | atEnd
    · exact ⟨_, excerpt_next shows message before isEmpty⟩
    · exact ⟨_, excerpt_nothing shows message isEmpty atEnd⟩

/-- No excerpt reads like the end of the input. -/
theorem found_eq_iff (inside : span.stop ≤ items.length) :
    (ofFailure message span input).found = "found the end of the input" ↔
      span.start = span.stop ∧ span.stop = items.length := by
  rw [← atEnd_iff shows message inside, found]
  split
  next atEnd => exact iff_of_true rfl atEnd
  next notAtEnd =>
    refine iff_of_false (fun same => ?_) notAtEnd
    obtain ⟨part, written⟩ := exists_excerpt shows message inside
    have whole : "found " ++ (ofFailure message span input).excerpt =
        "found " ++ "the end of the input" := same
    exact shows.notEnd part (written.symm.trans (String.append_right_inj _ |>.mp whole))

theorem describes_span (inside : span.stop ≤ items.length) :
    (ofFailure message span input).Describes span items write caret := by
  have start : input.caret span.start = caret span.start :=
    shows.located _ (Nat.le_trans span.ordered inside)
  have stop : input.caret span.stop = caret span.stop := shows.located _ inside
  have later (notEmpty : span.start < span.stop) : caret span.start < caret span.stop :=
    shows.later _ _ notEmpty inside
  have ordered : caret span.start ≤ caret span.stop := by
    rcases Nat.lt_or_eq_of_le span.ordered with notEmpty | isEmpty
    · exact Caret.le_of_lt (later notEmpty)
    · exact isEmpty ▸ Caret.le_refl _
  have sameCaret : caret span.start = caret span.stop ↔ span.start = span.stop := by
    refine ⟨fun same => ?_, fun isEmpty => congrArg caret isEmpty⟩
    refine Nat.le_antisymm span.ordered (Nat.le_of_not_lt fun notEmpty => ?_)
    have before := later notEmpty
    rw [same] at before
    exact Caret.lt_irrefl _ before
  have region : (ofFailure message span input).region =
      ⟨caret span.start, caret span.stop, ordered⟩ := by
    rw [ofFailure, start, stop, Region.between_of_le ordered]
  exact
    { location := start
      starts := by
        rw [region]
        exact start.symm
      stops := by rw [region]
      isEmpty_iff := by
        rw [region, Region.isEmpty, beq_iff_eq]
        exact sameCaret
      covered := excerpt_covered shows message inside
      next := excerpt_next shows message
      nothing := excerpt_nothing shows message
      note := fun source => by
        refine ⟨_, rfl, found_eq_iff shows message inside, fun notAtEnd => ?_⟩
        exact if_neg fun atEnd => notAtEnd ((atEnd_iff shows message inside).mp atEnd) }

end

/-- Where the caret of a later position comes first, a region does not start where its error is
said to be. -/
theorem location_ne_start [Printable ω] {input : Input ω} {span : Span} (message : String)
    (turned : ¬input.caret span.start ≤ input.caret span.stop) :
    (ofFailure message span input).location ≠ (ofFailure message span input).region.start := by
  have region : (ofFailure message span input).region.start = input.caret span.stop := by
    rw [ofFailure, Region.between, dif_neg turned]
  rw [region]
  exact fun same => turned (Caret.le_def.mpr (same ▸ Caret.le_def.mp (Caret.le_refl _)))

end ParseError

end Packrat
