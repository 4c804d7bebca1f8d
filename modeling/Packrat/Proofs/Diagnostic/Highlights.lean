import Packrat.Proofs.Text.Lines

/-!
# The order of highlights

Highlights come to a diagnostic one at a time, and each is put into its place among those that
are there.  Finding the place by halving is right because they are in order, and they stay in
order because each is put into its place.  So the highlights of a diagnostic are always those
that were added, sorted by where they start; of those that start together the one that was
added first is the first.
-/

namespace Packrat

variable {added sorted other highlights : List Highlight} {caret : Caret}

/-- Whether highlights come in the order in which they start. -/
def InOrder (highlights : List Highlight) : Prop :=
  highlights.Pairwise fun h later => h.region.start ≤ later.region.start

/-- Whether a highlight starts at a caret. -/
def Highlight.startsAt (caret : Caret) (h : Highlight) : Bool := h.region.start = caret

theorem Highlight.startsAt_iff {h : Highlight} :
    h.startsAt caret = true ↔ h.region.start = caret := decide_eq_true_iff

/-- At each caret the same highlights start in two lists, in the same order. -/
def SameByStart (highlights other : List Highlight) : Prop :=
  ∀ caret, highlights.filter (Highlight.startsAt caret) = other.filter (Highlight.startsAt caret)

/-- Some highlights are others sorted by where they start: they are the same ones, in the order
in which they start, and those that start at one caret are in the order that they had. -/
structure StablySorted (added sorted : List Highlight) : Prop where
  perm : sorted.Perm added
  inOrder : InOrder sorted
  sameByStart : SameByStart sorted added

/-! ## There is one stable sort -/

theorem InOrder.first_le {first h : Highlight} {rest : List Highlight}
    (inOrder : InOrder (first :: rest)) (among : h ∈ first :: rest) :
    first.region.start ≤ h.region.start := by
  rcases List.mem_cons.mp among with rfl | later
  · exact Caret.le_refl _
  · exact List.rel_of_pairwise_cons inOrder later

namespace SameByStart

theorem refl (highlights : List Highlight) : SameByStart highlights highlights := fun _ => rfl

theorem symm (same : SameByStart highlights other) : SameByStart other highlights :=
  fun caret => (same caret).symm

theorem trans (same : SameByStart highlights other) (sameThere : SameByStart other added) :
    SameByStart highlights added :=
  fun caret => (same caret).trans (sameThere caret)

theorem append {more otherMore : List Highlight} (same : SameByStart highlights other)
    (sameMore : SameByStart more otherMore) :
    SameByStart (highlights ++ more) (other ++ otherMore) := by
  intro caret
  rw [List.filter_append, List.filter_append, same caret, sameMore caret]

/-- A highlight may be put behind those that start later. -/
theorem behind_later {h : Highlight} {behind : List Highlight}
    (late : ∀ later ∈ behind, ¬later.region.start ≤ h.region.start) :
    SameByStart (h :: behind) (behind ++ [h]) := by
  intro caret
  by_cases starts : h.startsAt caret = true
  · have noneBehind : behind.filter (Highlight.startsAt caret) = [] := by
      apply List.filter_eq_nil_iff.mpr
      intro later member alsoStarts
      apply late later member
      rw [Highlight.startsAt_iff.mp starts, Highlight.startsAt_iff.mp alsoStarts]
      exact Caret.le_refl _
    simp [starts, noneBehind]
  · simp [starts]

theorem mem (same : SameByStart highlights other) {h : Highlight} (among : h ∈ highlights) :
    h ∈ other := by
  have atStart : h ∈ highlights.filter (Highlight.startsAt h.region.start) :=
    List.mem_filter.mpr ⟨among, Highlight.startsAt_iff.mpr rfl⟩
  rw [same] at atStart
  exact (List.mem_filter.mp atStart).1

theorem of_cons {first : Highlight} {rest otherRest : List Highlight}
    (same : SameByStart (first :: rest) (first :: otherRest)) : SameByStart rest otherRest := by
  intro caret
  have whole := same caret
  rw [List.filter_cons, List.filter_cons] at whole
  split at whole
  · exact List.tail_eq_of_cons_eq whole
  · exact whole

/-- The first highlight that starts at a caret is the same in both lists. -/
theorem first_eq {first otherFirst : Highlight} {rest otherRest : List Highlight}
    (same : SameByStart (first :: rest) (otherFirst :: otherRest))
    (sameStart : first.region.start = otherFirst.region.start) : first = otherFirst := by
  have starts : first.startsAt first.region.start = true := Highlight.startsAt_iff.mpr rfl
  have otherStarts : otherFirst.startsAt first.region.start = true :=
    Highlight.startsAt_iff.mpr sameStart.symm
  have atStart := same first.region.start
  rw [List.filter_cons_of_pos starts, List.filter_cons_of_pos otherStarts] at atStart
  exact List.head_eq_of_cons_eq atStart

/-- Highlights in order are settled by those that start at each caret. -/
theorem eq_of_inOrder (same : SameByStart highlights other) (inOrder : InOrder highlights)
    (otherInOrder : InOrder other) : highlights = other := by
  induction highlights generalizing other with
  | nil =>
      refine (List.eq_nil_iff_forall_not_mem.mpr fun h among => ?_).symm
      exact List.not_mem_nil (same.symm.mem among)
  | cons first rest induction =>
      cases other with
      | nil => exact absurd (same.mem List.mem_cons_self) List.not_mem_nil
      | cons otherFirst otherRest =>
          -- Each of the two is in both lists, and in its own list it is the first.
          have sameStart : first.region.start = otherFirst.region.start :=
            Caret.le_antisymm (inOrder.first_le (same.symm.mem List.mem_cons_self))
              (otherInOrder.first_le (same.mem List.mem_cons_self))
          obtain rfl := same.first_eq sameStart
          have sameRest := induction same.of_cons (List.Pairwise.of_cons inOrder)
            (List.Pairwise.of_cons otherInOrder)
          rw [sameRest]

end SameByStart

theorem StablySorted.unique (isSorted : StablySorted added sorted)
    (otherSorted : StablySorted added other) : sorted = other :=
  (isSorted.sameByStart.trans otherSorted.sameByStart.symm).eq_of_inOrder isSorted.inOrder
    otherSorted.inOrder

/-- Whether a highlight starts no later than another. -/
def Highlight.notAfter (h later : Highlight) : Bool := h.region.start ≤ later.region.start

theorem Highlight.notAfter_iff {h later : Highlight} :
    h.notAfter later = true ↔ h.region.start ≤ later.region.start := decide_eq_true_iff

theorem Highlight.notAfter_trans (a b c : Highlight) (first : a.notAfter b = true)
    (second : b.notAfter c = true) : a.notAfter c = true := by
  rw [notAfter_iff] at first second ⊢
  exact Caret.le_trans first second

theorem Highlight.notAfter_total (a b : Highlight) : (a.notAfter b || b.notAfter a) = true := by
  rw [Bool.or_eq_true, notAfter_iff, notAfter_iff]
  exact Caret.le_total _ _

/-- Highlights that start together are in order, so sorting leaves them as they are. -/
theorem sameByStart_mergeSort (added : List Highlight) :
    SameByStart (added.mergeSort Highlight.notAfter) added := by
  intro caret
  have inOrder : (added.filter (Highlight.startsAt caret)).Pairwise (Highlight.notAfter · ·) := by
    apply List.pairwise_of_forall_mem_list
    intro h among later alsoAmong
    have starts := Highlight.startsAt_iff.mp (List.mem_filter.mp among).2
    have alsoStarts := Highlight.startsAt_iff.mp (List.mem_filter.mp alsoAmong).2
    rw [Highlight.notAfter_iff, starts, alsoStarts]
    exact Caret.le_refl _
  have sublist := (List.sublist_mergeSort Highlight.notAfter_trans Highlight.notAfter_total inOrder
    List.filter_sublist).filter (Highlight.startsAt caret)
  simp only [List.filter_filter, Bool.and_self] at sublist
  have sameLength := ((List.mergeSort_perm added Highlight.notAfter).filter
    (Highlight.startsAt caret)).length_eq
  exact (sublist.eq_of_length sameLength.symm).symm

theorem stablySorted_mergeSort (added : List Highlight) :
    StablySorted added (added.mergeSort Highlight.notAfter) where
  perm := List.mergeSort_perm added _
  inOrder :=
    (List.pairwise_mergeSort Highlight.notAfter_trans Highlight.notAfter_total added).imp
      Highlight.notAfter_iff.mp
  sameByStart := sameByStart_mergeSort added

/-! ## Finding the place -/

namespace Diagnostic

variable {low high : Nat}

theorem startsBy_iff {h : Highlight} : startsBy caret h = true ↔ h.region.start ≤ caret :=
  decide_eq_true_iff

theorem startsBy_of_le (inOrder : InOrder highlights) {index later : Nat}
    (listed : later < highlights.length) (notAfter : index ≤ later)
    (starts : startsBy caret highlights[later] = true) :
    startsBy caret highlights[index] = true := by
  rcases Nat.lt_or_eq_of_le notAfter with before | rfl
  · rw [startsBy_iff] at starts ⊢
    have ordered := List.pairwise_iff_getElem.mp inOrder index later
      (Nat.lt_trans before listed) listed before
    exact Caret.le_trans ordered starts
  · exact starts

/-- Halving a part of a list in order comes to the place before which the highlights start by a
caret, if those before the part do and those behind it do not. -/
theorem placeAfter_parts (inList : high ≤ highlights.length) (inOrder : InOrder highlights)
    (ordered : low ≤ high)
    (before : ∀ index (_ : index < highlights.length), index < low →
      startsBy caret highlights[index] = true)
    (behind : ∀ index (_ : index < highlights.length), high ≤ index →
      startsBy caret highlights[index] = false) :
    placeAfter caret highlights low high inList ≤ high ∧
      ∀ index (_ : index < highlights.length), startsBy caret highlights[index] = true ↔
        index < placeAfter caret highlights low high inList := by
  fun_induction placeAfter caret highlights low high inList with
  | case1 low high inList notEmpty middle listed starts induction =>
      refine induction (by omega) (fun index _ early => ?_) behind
      exact startsBy_of_le inOrder listed (Nat.le_of_lt_succ early) starts
  | case2 low high inList notEmpty middle listed startsLater induction =>
      obtain ⟨bound, parts⟩ := induction (by omega) before fun index inside late => by
        refine Bool.eq_false_iff.mpr fun starts => startsLater ?_
        exact startsBy_of_le inOrder inside late starts
      exact ⟨by omega, parts⟩
  | case3 low high inList isEmpty =>
      obtain rfl : low = high := by omega
      refine ⟨Nat.le_refl _, fun index inside => ⟨fun starts => ?_, before index inside⟩⟩
      refine Nat.lt_of_not_le fun late => ?_
      rw [behind index inside late] at starts
      cases starts

/-- Among highlights in order one is put between those that start no later and those that start
later. -/
theorem exists_insertHighlight (inOrder : InOrder highlights) (h : Highlight) :
    ∃ before behind, highlights = before ++ behind ∧
      insertHighlight h highlights = before ++ h :: behind ∧
      (∀ early ∈ before, early.region.start ≤ h.region.start) ∧
      ∀ late ∈ behind, ¬late.region.start ≤ h.region.start := by
  obtain ⟨inList, parts⟩ := @placeAfter_parts highlights h.region.start 0 _ (Nat.le_refl _)
    inOrder (Nat.zero_le _)
    (fun _ _ impossible => absurd impossible (Nat.not_lt_zero _))
    (fun _ listed past => absurd listed (Nat.not_lt.mpr past))
  obtain ⟨before, behind, rfl, place, inserted⟩ := List.exists_of_modifyTailIdx (h :: ·) inList
  rw [← place] at parts
  refine ⟨before, behind, rfl, inserted, fun early member => ?_, fun late member starts => ?_⟩
  · obtain ⟨index, isBefore, rfl⟩ := List.getElem_of_mem member
    have listed : index < (before ++ behind).length := by
      rw [List.length_append]
      omega
    have starts := (parts index listed).mpr isBefore
    rwa [List.getElem_append_left isBefore, startsBy_iff] at starts
  · obtain ⟨index, isBehind, rfl⟩ := List.getElem_of_mem member
    have listed : before.length + index < (before ++ behind).length := by
      rw [List.length_append]
      omega
    have isBefore := (parts (before.length + index) listed).mp <| by
      rw [List.getElem_append_right (Nat.le_add_right _ _), startsBy_iff]
      simpa using starts
    omega

end Diagnostic

/-! ## Adding highlights -/

theorem InOrder.insert {before behind : List Highlight} {h : Highlight}
    (inOrder : InOrder (before ++ behind))
    (early : ∀ other ∈ before, other.region.start ≤ h.region.start)
    (late : ∀ other ∈ behind, ¬other.region.start ≤ h.region.start) :
    InOrder (before ++ h :: behind) := by
  obtain ⟨beforeInOrder, behindInOrder, across⟩ := List.pairwise_append.mp inOrder
  apply List.pairwise_append.mpr
  refine ⟨beforeInOrder, List.pairwise_cons.mpr ⟨?_, behindInOrder⟩, ?_⟩
  · intro other member
    exact (Caret.le_total _ _).resolve_right (late other member)
  · intro other member later among
    rcases List.mem_cons.mp among with rfl | isBehind
    · exact early other member
    · exact across other member later isBehind

/-- What is put into its place comes after all that start with it. -/
theorem StablySorted.insert (isSorted : StablySorted added sorted) (h : Highlight) :
    StablySorted (added ++ [h]) (Diagnostic.insertHighlight h sorted) := by
  obtain ⟨before, behind, rfl, inserted, early, late⟩ :=
    Diagnostic.exists_insertHighlight isSorted.inOrder h
  rw [inserted]
  refine ⟨?perm, isSorted.inOrder.insert early late, ?sameByStart⟩
  case perm =>
    calc
      List.Perm (before ++ h :: behind) (h :: (before ++ behind)) := List.perm_middle
      List.Perm _ (h :: added) := isSorted.perm.cons h
      List.Perm _ (added ++ [h]) := (List.perm_append_singleton h added).symm
  case sameByStart =>
    have moved := (SameByStart.refl before).append (.behind_later late)
    rw [← List.append_assoc] at moved
    exact moved.trans (isSorted.sameByStart.append (.refl [h]))

/-- What can be told of a problem besides the message. -/
inductive Detail where
  | source (id : SourceId)
  | location (caret : Caret)
  | highlight (region : Region) (note : String)

/-- The highlight that a detail is, if it is one. -/
def Detail.highlight? : Detail → Option Highlight
  | .highlight region note => some ⟨region, note⟩
  | .source _ | .location _ => none

namespace Diagnostic

/-- A diagnostic with one more detail. -/
def adding (d : Diagnostic) : Detail → Diagnostic
  | .source id => { d with source := some id }
  | .location caret => { d with location := some caret }
  | .highlight region note => d.highlight region note

/-- A diagnostic with a message, to which details are added one after the other. -/
def ofDetails (text : String) (details : List Detail) : Diagnostic :=
  details.foldl adding (ofText text)

theorem stablySorted_adding {d : Diagnostic} (isSorted : StablySorted added d.highlights)
    (detail : Detail) :
    StablySorted (added ++ detail.highlight?.toList) (d.adding detail).highlights := by
  cases detail with
  | source => simpa [Detail.highlight?, adding] using isSorted
  | location => simpa [Detail.highlight?, adding] using isSorted
  | highlight region note => exact isSorted.insert ⟨region, note⟩

theorem stablySorted_foldl_adding {d : Diagnostic} (isSorted : StablySorted added d.highlights)
    (details : List Detail) :
    StablySorted (added ++ details.filterMap Detail.highlight?)
      (details.foldl adding d).highlights := by
  induction details generalizing d added with
  | nil => simpa using isSorted
  | cons detail details induction =>
      have further := induction (stablySorted_adding isSorted detail)
      cases same : detail.highlight? <;> simpa [same] using further

/-- Whatever is told of a problem and in whichever order, the highlights of its diagnostic are
those that were added, stably sorted by where they start. -/
theorem highlights_are_stable_sort (text : String) (details : List Detail) :
    let added := details.filterMap Detail.highlight?
    let shown := (ofDetails text details).highlights
    StablySorted added shown ∧ shown = added.mergeSort Highlight.notAfter := by
  intro added shown
  have noneYet : StablySorted [] (ofText text).highlights :=
    ⟨.nil, .nil, fun _ => rfl⟩
  have isSorted : StablySorted added shown := stablySorted_foldl_adding noneYet details
  exact ⟨isSorted, isSorted.unique (stablySorted_mergeSort added)⟩

example : (ofDetails "oops"
    [.highlight (.between ⟨0, 5⟩ ⟨0, 6⟩) "second", .location ⟨0, 1⟩,
      .highlight (.between ⟨0, 1⟩ ⟨0, 2⟩) "first",
      .highlight (.between ⟨0, 5⟩ ⟨0, 5⟩) "third"]).highlights.map Highlight.note =
      ["first", "second", "third"] := by decide

end Diagnostic

end Packrat
