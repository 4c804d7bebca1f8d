import Packrat.Proofs.Combinator.Extent
import Packrat.Proofs.Combinator.TooFew

/-!
# Loops that agree

A repetition of exactly so many is a row of as many parts, unless a match before the last
one is empty; there the repetition stops and the row goes on.  A separated list of one or
more is an item followed by a repetition, each round of which is a separator and an item.
Both are read off from what the loops mean, constructor by constructor.
-/

namespace Packrat

variable {κ χ ω ρ : Type}

/-! ## Exactly so many -/

/-- Matches in a row, each where the one before it stopped. -/
inductive InRow (answers : Nat → Match (Value ω) → Prop) : Nat → List Span → Prop where
  | nil (place : Nat) : InRow answers place []
  | cons {place : Nat} {span : Span} {value : Value ω} {rest : List Span} :
      answers place (.success span value) → InRow answers span.stop rest →
      InRow answers place (span :: rest)

/-- So many matches in a row, of which only the last one may be empty. -/
def Strides (answers : Nat → Match (Value ω) → Prop) (place count : Nat) : Prop :=
  ∃ spans, InRow answers place spans ∧ spans.length = count ∧
    ∀ span ∈ spans.dropLast, span.isEmpty = false

section Exactly

variable {answers : κ → Nat → Match (Value ω) → Prop} {child : κ} {length : Nat}

theorem Strides.zero (answers : Nat → Match (Value ω) → Prop) (place : Nat) :
    Strides answers place 0 :=
  ⟨[], .nil place, rfl, nofun⟩

theorem Strides.one {answers : Nat → Match (Value ω) → Prop} {place : Nat} {span : Span}
    {value : Value ω} (answered : answers place (.success span value)) :
    Strides answers place 1 :=
  ⟨[span], .cons answered (.nil _), rfl, nofun⟩

theorem Strides.succ {answers : Nat → Match (Value ω) → Prop} {place count : Nat} {span : Span}
    {value : Value ω} (answered : answers place (.success span value))
    (nonempty : span.isEmpty = false) (strides : Strides answers span.stop count) :
    Strides answers place (count + 1) := by
  obtain ⟨spans, inRow, isCount, each⟩ := strides
  refine ⟨span :: spans, .cons answered inRow, congrArg Nat.succ isCount, ?_⟩
  intro other member
  cases spans with
  | nil => cases member
  | cons next rest =>
      rw [List.dropLast_cons_cons] at member
      rcases List.mem_cons.mp member with rfl | member
      · exact nonempty
      · exact each other member

/-- Of two or more strides the first is not empty, and the others follow it. -/
theorem Strides.cases_succ {answers : Nat → Match (Value ω) → Prop} {place count : Nat}
    (strides : Strides answers place (count + 1)) :
    ∃ span value, answers place (.success span value) ∧
      (span.isEmpty = true → count = 0) ∧ Strides answers span.stop count := by
  obtain ⟨spans, inRow, isCount, each⟩ := strides
  cases inRow with
  | nil => cases isCount
  | @cons _ span value rest answered inRow =>
      refine ⟨span, value, answered, fun isEmpty => ?_, rest, inRow, Nat.succ.inj isCount, ?_⟩
      · cases rest with
        | nil => exact (Nat.succ.inj isCount).symm
        | cons next rest =>
            have nonempty := each span (by simp)
            cases isEmpty.symm.trans nonempty
      · intro other member
        cases rest with
        | nil => cases member
        | cons next rest =>
            refine each other ?_
            rw [List.dropLast_cons_cons]
            exact List.mem_cons_of_mem _ member

/-- Just so many times. -/
def Bounds.exactly (count : Nat) : Bounds := .ofRange (.included count) (.included count)

theorem Bounds.full_exactly {count many : Nat} :
    (exactly many).full count = true ↔ many ≤ count := by
  simp [full, exactly, ofRange]

theorem Bounds.allows_exactly {count many : Nat} :
    (exactly many).allows count = true ↔ count = many := by
  rw [allows_iff]
  simp only [exactly, ofRange, Option.some.injEq, forall_eq']
  omega

/-- Where matches start where they are looked for, what is matched after a span goes on
where the span stops. -/
theorem stop_join_of_inside {answers : Nat → Match (Value ω) → Prop}
    (inside : ∀ place answer, place ≤ length → answers place answer → answer.Inside place length)
    {span next : Span} {value : Value ω} (stops : span.stop ≤ length)
    (answered : answers span.stop (.success next value)) :
    (span.join next).stop = next.stop ∧ next.stop ≤ length := by
  have within := inside _ _ stops answered
  exact ⟨(Span.join_of_meet within.start_eq.symm).2, within.stops⟩

section

variable (answers child)
  (inside : ∀ place answer, place ≤ length → answers child place answer →
    answer.Inside place length)
  {many : Nat} {description : String}

include inside

/-- A repetition that succeeds with exactly so many is a row of as many parts. -/
theorem follows_of_repeats {count : Nat} {values : List (Value ω)} {span : Span}
    {result : Match (Value ω)}
    (repeats : Repeats answers (.exactly many) description child count values span result)
    {covered : Span} {value : Value ω} (succeeded : result = .success covered value)
    (upTo : count ≤ many) (stops : span.stop ≤ length) :
    Follows answers span values (List.replicate (many - count) child) (.success covered value) ∧
      Strides (answers child) span.stop (many - count) := by
  induction repeats with
  | @full count values span full =>
      obtain ⟨allows, rfl, rfl⟩ := Bounds.finish_eq_success_iff.mp succeeded
      rw [Bounds.allows_exactly.mp allows, Nat.sub_self]
      exact ⟨.finished _ values, .zero _ _⟩
  | failed room =>
      obtain ⟨allows, -, -⟩ := Bounds.finish_eq_success_iff.mp succeeded
      have full := Bounds.full_exactly.mpr (Nat.le_of_eq (Bounds.allows_exactly.mp allows).symm)
      cases room.symm.trans full
  | @empty count values span next value room answered =>
      obtain ⟨allows, rfl, rfl⟩ := Bounds.finish_eq_success_iff.mp succeeded
      have one : many - count = 1 := by
        have := Bounds.allows_exactly.mp allows
        omega
      rw [one]
      exact ⟨.next answered (.finished _ _), .one answered⟩
  | @again count values span next value result room answered nonempty _ induction =>
      have less : count < many := by
        by_contra reached
        cases room.symm.trans (Bounds.full_exactly.mpr (Nat.le_of_not_lt reached))
      obtain ⟨joined, before⟩ := stop_join_of_inside inside stops answered
      obtain ⟨follows, strides⟩ := induction succeeded less (joined ▸ before)
      have oneMore : many - count = many - (count + 1) + 1 := by omega
      rw [oneMore]
      rw [joined] at strides
      exact ⟨.next answered follows, .succ answered nonempty strides⟩

/-- A row of parts, only the last of which may be empty, is as many repetitions. -/
theorem repeats_of_follows
    (unique : ∀ place span value answer, place ≤ length →
      answers child place (.success span value) → answers child place answer →
      answer = .success span value)
    {left count : Nat} {values : List (Value ω)} {span covered : Span} {value : Value ω}
    (follows : Follows answers span values (List.replicate left child) (.success covered value))
    (strides : Strides (answers child) span.stop left) (isMany : count + left = many)
    (stops : span.stop ≤ length) :
    Repeats answers (.exactly many) description child count values span
      (.success covered value) := by
  induction left generalizing count values span with
  | zero =>
      cases follows with
      | finished =>
          have all : count = many := isMany
          rw [← Bounds.finish_of_allows (Bounds.allows_exactly.mpr all) description values _ none]
          exact .full (Bounds.full_exactly.mpr (Nat.le_of_eq all.symm))
  | succ left induction =>
      have room : (Bounds.exactly many).full count = false := by
        rw [Bool.eq_false_iff, Ne, Bounds.full_exactly]
        omega
      obtain ⟨next, found, answered, onlyLast, strides⟩ := strides.cases_succ
      cases follows with
      | next there rest =>
          cases unique _ _ _ _ stops answered there
          obtain ⟨joined, before⟩ := stop_join_of_inside inside stops answered
          cases isEmpty : next.isEmpty with
          | false =>
              exact .again room answered isEmpty
                (induction rest (joined ▸ strides) (by omega) (joined ▸ before))
          | true =>
              obtain rfl := onlyLast isEmpty
              cases rest with
              | finished =>
                  have all : count + 1 = many := isMany
                  rw [← Bounds.finish_of_allows (Bounds.allows_exactly.mpr all) description
                    (found :: values) (span.join next) none]
                  exact .empty room answered isEmpty

/-- Where a row of parts matches, a repetition of as many fails only because a match before
the last one is empty, and has found too few. -/
theorem exists_tooFew_of_follows
    (unique : ∀ place span value answer, place ≤ length →
      answers child place (.success span value) → answers child place answer →
      answer = .success span value)
    {count : Nat} {values : List (Value ω)} {span covered : Span} {value : Value ω}
    {result : Match (Value ω)}
    (repeats : Repeats answers (.exactly many) description child count values span result)
    (follows : Follows answers span values (List.replicate (many - count) child)
      (.success covered value))
    (fails : result.isSuccess = false) (upTo : count ≤ many) (stops : span.stop ≤ length) :
    ∃ found reached, found < many ∧
      result = (Bounds.exactly many).tooFew description found reached := by
  have notAll {found : Nat} {values : List (Value ω)} {span : Span} {failed : Option Span}
      (fails : ((Bounds.exactly many).finish description found values span failed).isSuccess =
        false) : found ≠ many := by
    intro all
    rw [Bounds.finish_of_allows (Bounds.allows_exactly.mpr all)] at fails
    cases fails
  have oneMore {count : Nat} (room : (Bounds.exactly many).full count = false) :
      many - count = many - (count + 1) + 1 := by
    rw [Bool.eq_false_iff, Ne, Bounds.full_exactly] at room
    omega
  induction repeats with
  | full full => exact absurd (Nat.le_antisymm upTo (Bounds.full_exactly.mp full)) (notAll fails)
  | failed room failed =>
      rw [oneMore room] at follows
      cases follows with
      | next answered rest => cases unique _ _ _ _ stops answered failed
  | @empty count values span next value room answered isEmpty =>
      have few := notAll fails
      have forbids : (Bounds.exactly many).allows (count + 1) = false :=
        Bool.eq_false_iff.mpr fun allows => few (Bounds.allows_exactly.mp allows)
      have less := oneMore room
      exact ⟨count + 1, _, by omega, (Bounds.finish_eq_tooFew forbids _ _ _ span).1⟩
  | @again count values span next value result room answered nonempty _ induction =>
      have less := oneMore room
      rw [less] at follows
      cases follows with
      | next there rest =>
          cases unique _ _ _ _ stops answered there
          obtain ⟨joined, before⟩ := stop_join_of_inside inside stops answered
          exact induction rest fails (by omega) (joined ▸ before)

end

end Exactly

/-! ## Items with separators between them -/

/-- Two in a row succeed where the first one does and the second one does behind it. -/
theorem gives_pair_iff {input : Input ω} {reply : ρ → Answer ω} {describe : κ → String}
    {answers : κ → Nat → Match (Value ω) → Prop} {first second : κ} {position : Nat}
    {combine : Value ω → Value ω → Value ω} {span : Span} {value : Value ω} :
    (Plan.pair first second fun a b => .result (some (combine a b))).Gives input reply describe
        answers position (.success span value) ↔
      ∃ left a right b, answers first position (.success left a) ∧
        answers second left.stop (.success right b) ∧ span = left.join right ∧
        value = combine a b := by
  constructor
  · intro gives
    generalize isResult : Match.success span value = result at gives
    cases gives with
    | noFirst | noSecond => cases isResult
    | pair answered then_ =>
        cases isResult
        exact ⟨_, _, _, _, answered, then_, rfl, rfl⟩
  · rintro ⟨left, a, right, b, answered, then_, rfl, rfl⟩
    exact .pair answered then_

theorem gives_repeated_iff {input : Input ω} {reply : ρ → Answer ω} {describe : κ → String}
    {answers : κ → Nat → Match (Value ω) → Prop} {bounds : Bounds} {child : κ} {position : Nat}
    {result : Match (Value ω)} :
    (Plan.repeated bounds child).Gives input reply describe answers position result ↔
      Repeats answers bounds (describe child) child 0 [] (.point position) result := by
  constructor
  · intro gives
    cases gives with
    | repeated repeats => exact repeats
  · exact .repeated

/-- An item, or an item and a separator and more of the same: the values of the items,
from one place to another. -/
inductive Lists (item separator : Nat → Match (Value ω) → Prop) :
    Nat → List (Value ω) → Nat → Prop where
  | last {place : Nat} {span : Span} {value : Value ω} :
      item place (.success span value) → Lists item separator place [value] span.stop
  | more {place stop : Nat} {span between : Span} {value skipped : Value ω}
      {values : List (Value ω)} :
      item place (.success span value) →
      separator span.stop (.success between skipped) →
      Lists item separator between.stop values stop →
      Lists item separator place (value :: values) stop

/-- A separator and an item can follow a list. -/
theorem Lists.concat {item separator : Nat → Match (Value ω) → Prop} {place stop : Nat}
    {values : List (Value ω)} {between next : Span} {skipped value : Value ω}
    (lists : Lists item separator place values stop)
    (separated : separator stop (.success between skipped))
    (answered : item between.stop (.success next value)) :
    Lists item separator place (values ++ [value]) next.stop := by
  induction lists with
  | last first => exact .more first separated (.last answered)
  | more first then_ _ induction => exact .more first then_ (induction separated)

/-- In each round a separator is matched and an item after it. -/
structure Rounds (rounds separator item : Nat → Match (Value ω) → Prop) : Prop where
  success : ∀ place span value, rounds place (.success span value) ↔
    ∃ between skipped next, separator place (.success between skipped) ∧
      item between.stop (.success next value) ∧ span = between.join next
  failure : ∀ place, (∃ message span, rounds place (.failure message span)) ↔
    (∃ message span, separator place (.failure message span)) ∨
    ∃ between skipped message span, separator place (.success between skipped) ∧
      item between.stop (.failure message span)

/-- The bounds of what follows the first. -/
def Bounds.rest (bounds : Bounds) : Bounds := ⟨bounds.least - 1, bounds.most.map (· - 1)⟩

/-- Bounds that allow for a first one. -/
structure Bounds.Starts (bounds : Bounds) : Prop where
  least : 1 ≤ bounds.least
  most : ∀ most, bounds.most = some most → bounds.least ≤ most

namespace Bounds

variable {bounds : Bounds} (starts : bounds.Starts)

include starts

theorem Starts.full_rest (count : Nat) : bounds.rest.full count = bounds.full (count + 1) := by
  obtain ⟨least, most⟩ := bounds
  cases most with
  | none => rfl
  | some most =>
      have atLeast := starts.least
      have atMost := starts.most most rfl
      simp only [rest, full, Option.map_some, Option.any_some, decide_eq_decide] at atLeast atMost ⊢
      omega

theorem Starts.allows_rest (count : Nat) :
    bounds.rest.allows count = bounds.allows (count + 1) := by
  obtain ⟨least, most⟩ := bounds
  have atLeast := starts.least
  rw [Bool.eq_iff_iff, allows_iff, allows_iff]
  cases most with
  | none =>
      simp only [rest, Option.map_none, reduceCtorEq, false_imp_iff, implies_true, and_true]
        at atLeast ⊢
      omega
  | some most =>
      have atMost := starts.most most rfl
      simp only [rest, Option.map_some, Option.some.injEq, forall_eq'] at atLeast atMost ⊢
      omega

theorem Starts.full_zero : bounds.full 0 = false := by
  rw [Bool.eq_false_iff, Ne, full_iff]
  rintro ⟨most, isMost, none⟩
  have atLeast := starts.least
  have atMost := starts.most most isMost
  omega

theorem Starts.forbids_zero : bounds.allows 0 = false := by
  rw [Bool.eq_false_iff, Ne, allows_iff]
  rintro ⟨none, -⟩
  have atLeast := starts.least
  omega

end Bounds

section Separated

variable {answers : κ → Nat → Match (Value ω) → Prop} {others : χ → Nat → Match (Value ω) → Prop}
  {item separator : κ} {round : χ} {length : Nat} {bounds : Bounds}

/-- A list with a first item succeeds with it and what follows it. -/
theorem gives_separated_iff (starts : bounds.Starts) {input : Input ω} {reply : ρ → Answer ω}
    {describe : κ → String} {position : Nat} {span : Span} {value : Value ω} :
    (Plan.separated bounds item separator).Gives input reply describe answers position
        (.success span value) ↔
      ∃ left first, answers item position (.success left first) ∧
        Separates answers bounds (describe item) item separator 1 [first] left
          (.success span value) := by
  constructor
  · intro gives
    generalize isResult : Match.success span value = result at gives
    cases gives with
    | noItems full => cases full.symm.trans starts.full_zero
    | noFirstItem =>
        obtain ⟨allows, -⟩ := Bounds.finish_eq_success_iff.mp isResult.symm
        cases allows.symm.trans starts.forbids_zero
    | separated _ answered separates => exact ⟨_, _, answered, isResult ▸ separates⟩
  · rintro ⟨left, first, answered, separates⟩
    exact .separated starts.full_zero answered separates

/-- What was matched after a first match, and all that was matched. -/
structure Behind (left later span : Span) (length : Nat) : Prop where
  meets : later.start = left.stop
  whole : span = left.join later
  stops : later.stop ≤ length

theorem Behind.stop_eq {left later span : Span} (behind : Behind left later span length) :
    span.stop = later.stop := by
  rw [behind.whole]
  exact (Span.join_of_meet behind.meets.symm).2

/-- One more round behind what was matched. -/
theorem Behind.join {left later span between next : Span}
    (behind : Behind left later span length) (meets : between.start = span.stop)
    (follows : next.start = between.stop) (stops : next.stop ≤ length) :
    Behind left (later.join (between.join next)) (span.join next) length := by
  have isStop := behind.stop_eq
  have isStart := (Span.join_of_meet behind.meets.symm).1
  have atMeet := behind.meets
  have joined := behind.whole
  have ordered := left.ordered
  have laterOrdered := later.ordered
  have betweenOrdered := between.ordered
  have nextOrdered := next.ordered
  constructor
  · simp only [Span.join, Span.start_between, Span.stop_between]
    omega
  · subst joined
    apply Span.ext <;> simp only [Span.join, Span.start_between, Span.stop_between] at * <;> omega
  · simp only [Span.join, Span.stop_between]
    omega

/-- Before anything follows, all that was matched is the first match. -/
theorem Behind.first {left : Span} (stops : left.stop ≤ length) :
    Behind left (.point left.stop) left length := by
  have ordered := left.ordered
  refine ⟨rfl, ?_, stops⟩
  apply Span.ext <;>
    simp only [Span.join, Span.start_between, Span.stop_between, Span.stop_point] <;> omega

/-- Two matches in a row are empty together if both are. -/
theorem isEmpty_join {between next : Span} (follows : next.start = between.stop) :
    (between.join next).isEmpty = (between.isEmpty && next.isEmpty) := by
  obtain ⟨starts, stops⟩ := Span.join_of_meet follows.symm
  have ordered := between.ordered
  have nextOrdered := next.ordered
  rw [Bool.eq_iff_iff, Bool.and_eq_true, Span.isEmpty_iff, Span.isEmpty_iff, Span.isEmpty_iff,
    starts, stops]
  omega

variable (isRounds : Rounds (others round) (answers separator) (answers item))
  (inside : ∀ place answer, place ≤ length → answers item place answer →
    answer.Inside place length)
  (separatorInside : ∀ place answer, place ≤ length → answers separator place answer →
    answer.Inside place length)
  (starts : bounds.Starts) {description : String} {left covered : Span} {first value : Value ω}

include starts in
/-- What follows the first item ends as the whole list does. -/
theorem Behind.finish {before : Nat} {earlier : List (Value ω)} {span later : Span}
    (behind : Behind left later span length) (allows : bounds.rest.allows before = true)
    (failed : Option Span) :
    bounds.finish description (before + 1) (earlier ++ [first]) span failed =
      .success (left.join later) (.list (first :: earlier.reverse)) := by
  rw [starts.allows_rest] at allows
  rw [Bounds.finish_of_allows allows, behind.whole, List.reverse_append]
  rfl

include starts in
theorem Behind.finish_rest {before : Nat} {earlier : List (Value ω)} {span later : Span}
    {failed : Option Span} (behind : Behind left later span length)
    (finishes : bounds.finish description (before + 1) (earlier ++ [first]) span failed =
      .success covered value) (otherDescription : String) :
    (∀ noRound, bounds.rest.finish otherDescription before earlier later noRound =
        .success later (.list earlier.reverse)) ∧
      covered = left.join later ∧ value = .list (first :: earlier.reverse) := by
  have allows := (Bounds.finish_eq_success_iff.mp finishes).1
  rw [← starts.allows_rest] at allows
  rw [behind.finish starts allows] at finishes
  cases finishes
  exact ⟨fun noRound => Bounds.finish_of_allows allows .., rfl, rfl⟩

include isRounds inside separatorInside in
/-- A separator and an item behind what was matched are a round. -/
theorem Behind.oneMore {span later between next : Span} {skipped value : Value ω}
    (behind : Behind left later span length)
    (separated : answers separator span.stop (.success between skipped))
    (answered : answers item between.stop (.success next value)) :
    others round later.stop (.success (between.join next) value) ∧
      (between.join next).isEmpty = (between.isEmpty && next.isEmpty) ∧
      Behind left (later.join (between.join next)) (span.join next) length := by
  have before : span.stop ≤ length := behind.stop_eq.trans_le behind.stops
  have isBetween := separatorInside _ _ before separated
  have isNext := inside _ _ isBetween.stops answered
  refine ⟨?_, isEmpty_join isNext.start_eq,
    behind.join isBetween.start_eq isNext.start_eq isNext.stops⟩
  rw [behind.stop_eq] at separated
  exact (isRounds.success ..).mpr ⟨_, _, _, separated, answered, rfl⟩

include inside separatorInside in
/-- A separator and an item behind a list make it longer. -/
theorem Lists.longer {place : Nat} {values : List (Value ω)} {span between next : Span}
    {skipped value : Value ω} (stops : span.stop ≤ length)
    (lists : Lists (answers item) (answers separator) place values.reverse span.stop)
    (separated : answers separator span.stop (.success between skipped))
    (answered : answers item between.stop (.success next value)) :
    (span.join next).stop ≤ length ∧
      Lists (answers item) (answers separator) place (value :: values).reverse
        (span.join next).stop := by
  have isBetween := separatorInside _ _ stops separated
  have isNext := inside _ _ isBetween.stops answered
  have meets : between.start = span.stop := isBetween.start_eq
  have follows : next.start = between.stop := isNext.start_eq
  have reached : (span.join next).stop = next.stop := by
    have ordered := span.ordered
    have betweenOrdered := between.ordered
    have nextOrdered := next.ordered
    simp only [Span.join, Span.stop_between]
    omega
  rw [reached, List.reverse_cons]
  exact ⟨isNext.stops, lists.concat separated answered⟩

variable (answers others item separator round)

include isRounds inside separatorInside starts

/-- What follows the first item of a separated list is a repetition of rounds. -/
theorem repeats_of_separates (otherDescription : String) {count before : Nat}
    {values earlier : List (Value ω)} {span later : Span} {result : Match (Value ω)}
    (separates : Separates answers bounds description item separator count values span result)
    (succeeded : result = .success covered value) (isCount : count = before + 1)
    (isValues : values = earlier ++ [first]) (behind : Behind left later span length) :
    ∃ last rest, Repeats others bounds.rest otherDescription round before earlier later
        (.success last (.list rest)) ∧
      covered = left.join last ∧ value = .list (first :: rest) := by
  induction separates generalizing before earlier later with
  | full full =>
      subst isCount isValues
      obtain ⟨ends, whole, isValue⟩ := behind.finish_rest starts succeeded otherDescription
      refine ⟨later, earlier.reverse, ?_, whole, isValue⟩
      rw [← starts.full_rest] at full
      rw [← ends none]
      exact .full full
  | noSeparator room failed =>
      subst isCount isValues
      obtain ⟨ends, whole, isValue⟩ := behind.finish_rest starts succeeded otherDescription
      refine ⟨later, earlier.reverse, ?_, whole, isValue⟩
      rw [← starts.full_rest] at room
      rw [behind.stop_eq] at failed
      obtain ⟨_, place, noRound⟩ := (isRounds.failure _).mpr (.inl ⟨_, _, failed⟩)
      rw [← ends (some place)]
      exact .failed room noRound
  | noItem room separated failed =>
      subst isCount isValues
      obtain ⟨ends, whole, isValue⟩ := behind.finish_rest starts succeeded otherDescription
      refine ⟨later, earlier.reverse, ?_, whole, isValue⟩
      rw [← starts.full_rest] at room
      rw [behind.stop_eq] at separated
      obtain ⟨_, place, noRound⟩ := (isRounds.failure _).mpr (.inr ⟨_, _, _, _, separated, failed⟩)
      rw [← ends (some place)]
      exact .failed room noRound
  | @empty _ _ _ between next _ value room separated answered isEmpty =>
      subst isCount isValues
      obtain ⟨round, sameEmpty, further⟩ :=
        behind.oneMore isRounds inside separatorInside separated answered
      rw [← List.cons_append] at succeeded
      obtain ⟨ends, whole, isValue⟩ := further.finish_rest starts succeeded otherDescription
      refine ⟨_, (value :: earlier).reverse, ?_, whole, isValue⟩
      rw [← starts.full_rest] at room
      rw [← ends none]
      exact .empty room round (sameEmpty.trans isEmpty)
  | again room separated answered nonempty _ induction =>
      subst isCount isValues
      obtain ⟨round, sameEmpty, further⟩ :=
        behind.oneMore isRounds inside separatorInside separated answered
      obtain ⟨last, rest, repeats, whole, isValue⟩ :=
        induction succeeded rfl List.cons_append.symm further
      rw [← starts.full_rest] at room
      exact ⟨last, rest, .again room round (sameEmpty.trans nonempty) repeats, whole, isValue⟩

/-- A repetition of rounds behind an item makes up a separated list. -/
theorem separates_of_repeats {otherDescription : String} {before : Nat}
    {earlier : List (Value ω)} {span later : Span} {result : Match (Value ω)}
    (repeats : Repeats others bounds.rest otherDescription round before earlier later result)
    {last : Span} (succeeded : result = .success last value)
    (behind : Behind left later span length) :
    ∃ rest, value = .list rest ∧
      Separates answers bounds description item separator (before + 1) (earlier ++ [first]) span
        (.success (left.join last) (.list (first :: rest))) := by
  induction repeats generalizing span with
  | full full =>
      obtain ⟨allows, rfl, rfl⟩ := Bounds.finish_eq_success_iff.mp succeeded
      rw [starts.full_rest] at full
      refine ⟨_, rfl, ?_⟩
      rw [← behind.finish starts allows none]
      exact .full full
  | failed room failed =>
      obtain ⟨allows, rfl, rfl⟩ := Bounds.finish_eq_success_iff.mp succeeded
      rw [starts.full_rest] at room
      rw [← behind.stop_eq] at failed
      refine ⟨_, rfl, ?_⟩
      rcases (isRounds.failure _).mp ⟨_, _, failed⟩ with
        ⟨_, _, noSeparator⟩ | ⟨_, _, _, place, separated, noItem⟩
      · rw [← behind.finish starts allows none]
        exact .noSeparator room noSeparator
      · rw [← behind.finish starts allows (some place)]
        exact .noItem room separated noItem
  | empty room answered isEmpty =>
      obtain ⟨allows, rfl, rfl⟩ := Bounds.finish_eq_success_iff.mp succeeded
      rw [starts.full_rest] at room
      rw [← behind.stop_eq] at answered
      obtain ⟨between, skipped, next, separated, found, rfl⟩ := (isRounds.success ..).mp answered
      obtain ⟨_, sameEmpty, further⟩ :=
        behind.oneMore isRounds inside separatorInside separated found
      refine ⟨_, rfl, ?_⟩
      rw [← further.finish starts allows none]
      exact .empty room separated found (sameEmpty.symm.trans isEmpty)
  | again room answered nonempty _ induction =>
      rw [starts.full_rest] at room
      rw [← behind.stop_eq] at answered
      obtain ⟨between, skipped, next, separated, found, rfl⟩ := (isRounds.success ..).mp answered
      obtain ⟨_, sameEmpty, further⟩ :=
        behind.oneMore isRounds inside separatorInside separated found
      obtain ⟨rest, isRest, separates⟩ := induction succeeded further
      exact ⟨rest, isRest, .again room separated found (sameEmpty.symm.trans nonempty) separates⟩

omit others round isRounds starts in
/-- A separated list takes in nothing behind its last item. -/
theorem lists_of_separates {count place : Nat} {values : List (Value ω)} {span : Span}
    {result : Match (Value ω)}
    (separates : Separates answers bounds description item separator count values span result)
    (succeeded : result = .success covered value) (stops : span.stop ≤ length)
    (lists : Lists (answers item) (answers separator) place values.reverse span.stop) :
    ∃ all, value = .list all ∧ Lists (answers item) (answers separator) place all covered.stop := by
  induction separates with
  | full | noSeparator | noItem =>
      obtain ⟨-, rfl, rfl⟩ := Bounds.finish_eq_success_iff.mp succeeded
      exact ⟨_, rfl, lists⟩
  | empty room separated answered isEmpty =>
      obtain ⟨-, rfl, rfl⟩ := Bounds.finish_eq_success_iff.mp succeeded
      exact ⟨_, rfl, (lists.longer inside separatorInside stops separated answered).2⟩
  | again room separated answered nonempty _ induction =>
      obtain ⟨before, more⟩ := lists.longer inside separatorInside stops separated answered
      exact induction succeeded before more

end Separated

end Packrat
