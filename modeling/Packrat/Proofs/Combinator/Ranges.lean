import Mathlib.Order.Bounds.Basic
import Packrat.Engine
import Packrat.Proofs.Combinator.OrderedChoice

/-!
# Repetition within a range

The bounds of a range allow the counts in the range, and full bounds are at its largest
count; the range that ends before zero is the one that has bounds as if it were another.
A repetition and a separated list, whatever their calls are answered with, go by the
bounds of what they have matched, and so they respect the range.
-/

namespace Packrat

variable {ω ρ : Type}

/-! ## Ranges -/

namespace CountLimit

/-- A count is not below the lower end of a range. -/
def Reached : CountLimit → Nat → Prop
  | unbounded, _ => True
  | included least, count => least ≤ count
  | excluded below, count => below < count

/-- A count is not above the upper end of a range. -/
def Kept : CountLimit → Nat → Prop
  | unbounded, _ => True
  | included most, count => count ≤ most
  | excluded above, count => count < above

theorem Reached.mono {lower : CountLimit} {count more : Nat} (reached : lower.Reached count)
    (further : count ≤ more) : lower.Reached more := by
  cases lower with
  | unbounded => trivial
  | included least => exact Nat.le_trans reached further
  | excluded below => exact Nat.lt_of_lt_of_le reached further

end CountLimit

/-- A count is in a range. -/
def InRange (lower upper : CountLimit) (count : Nat) : Prop :=
  lower.Reached count ∧ upper.Kept count

namespace Bounds

variable {lower upper : CountLimit} {count : Nat}

theorem least_le_iff (countable : count < largestCount) :
    (ofRange lower upper).least ≤ count ↔ lower.Reached count := by
  cases lower with
  | unbounded => exact iff_of_true (Nat.zero_le count) trivial
  | included least => exact Iff.rfl
  | excluded below =>
      show min (below + 1) largestCount ≤ count ↔ below < count
      omega

theorem least_le_of_reached (reached : lower.Reached count) :
    (ofRange lower upper).least ≤ count := by
  cases lower with
  | unbounded => exact Nat.zero_le count
  | included least => exact reached
  | excluded below => exact Nat.le_trans (Nat.min_le_left ..) reached

/-- What the upper end keeps is at most the most; the other way round this fails for no
count but zero, and for no range but one that ends before it. -/
theorem le_most_iff :
    (∀ most, (ofRange lower upper).most = some most → count ≤ most) ↔
      upper.Kept count ∨ upper = .excluded 0 ∧ count = 0 := by
  cases upper with
  | unbounded => simp [ofRange, CountLimit.Kept]
  | included most => simp [ofRange, CountLimit.Kept]
  | excluded above =>
      have most : (∀ most, (ofRange lower (.excluded above)).most = some most → count ≤ most) ↔
          count ≤ above - 1 := by simp [ofRange]
      rw [most, CountLimit.excluded.injEq]
      show count ≤ above - 1 ↔ count < above ∨ above = 0 ∧ count = 0
      omega

theorem allows_of_inRange (inRange : InRange lower upper count) :
    (ofRange lower upper).allows count = true :=
  allows_iff.mpr ⟨least_le_of_reached inRange.1, le_most_iff.mpr (.inl inRange.2)⟩

theorem inRange_of_allows (countable : count < largestCount)
    (allows : (ofRange lower upper).allows count = true) :
    InRange lower upper count ∨ upper = .excluded 0 ∧ count = 0 := by
  obtain ⟨enough, notTooMany⟩ := allows_iff.mp allows
  rcases le_most_iff.mp notTooMany with kept | none
  · exact .inl ⟨(least_le_iff countable).mp enough, kept⟩
  · exact .inr none

/-- The largest count of a range is the most that its bounds allow. -/
theorem most_of_isGreatest {most : Nat}
    (greatest : IsGreatest {count | InRange lower upper count} most) :
    (ofRange lower upper).most = some most := by
  obtain ⟨⟨reached, kept⟩, upTo⟩ := greatest
  have isLast : ∀ more, most ≤ more → upper.Kept more → more ≤ most := fun more further keeps =>
    upTo ⟨reached.mono further, keeps⟩
  cases upper with
  | unbounded =>
      exact absurd (isLast (most + 1) (Nat.le_succ most) trivial) (Nat.not_succ_le_self most)
  | included last =>
      exact congrArg some (Nat.le_antisymm (isLast last kept (Nat.le_refl last)) kept)
  | excluded above =>
      have kept : most < above := kept
      have := isLast (above - 1) (by omega) (show above - 1 < above by omega)
      exact congrArg some (show above - 1 = most by omega)

end Bounds

/-! ## Exchanges -/

/-- The values of the matches that succeeded. -/
def valuesOf (answers : List (Match (Value ω))) : List (Value ω) := answers.filterMap Match.value?

/-- The first, the third, and so on: of the answers that a separated list gets, those for
items. -/
def everySecond {α : Type} : List α → List α
  | [] => []
  | [last] => [last]
  | first :: _ :: rest => first :: everySecond rest

/-- An exchange goes by a range, if so many calls were made that were answered by the
first of some matches, of which so many values are `made`.  It succeeds with what it has
made, which is as many as the range contains; it goes on only having made less than the
largest count of the range; and it does not fail having made as many as the range
contains.  Only where the range ends before zero it may succeed with nothing. -/
structure RespectsRange (lower upper : CountLimit)
    (made : List (Match (Value ω)) → List (Value ω)) (answers : List (Match (Value ω)))
    (calls : Nat) (outcome : Option (Match (Value ω))) : Prop where
  success : ∀ span value, outcome = some (.success span value) →
    ∃ values, values = made (answers.take calls) ∧ value = .list values ∧
      (values.length < largestCount →
        InRange lower upper values.length ∨ upper = .excluded 0 ∧ values = [])
  noMore : ∀ most, IsGreatest {count | InRange lower upper count} most →
    ∀ earlier < calls, (made (answers.take earlier)).length < most
  failure : ∀ message span, outcome = some (.failure message span) →
    ¬ InRange lower upper (made (answers.take calls)).length

/-- A step after some answers that ends with what was made of them, or makes a call as
there may be more. -/
inductive Step.GoesBy (bounds : Bounds) (made : List (Match (Value ω)) → List (Value ω))
    (waits : List (Match (Value ω)) → Memory ω → Prop) (past : List (Match (Value ω))) :
    Step ω ρ → Prop where
  | done (description : String) (span : Span) (failed : Option Span) :
      GoesBy bounds made waits past (.done
        (bounds.finish description (made past).length (made past).reverse span failed))
  | call {node : NodeId} {place : Nat} {memory : Memory ω} :
      bounds.full (made past).length = false → waits past memory →
      GoesBy bounds made waits past (.call node place memory)

section

variable {matcher : Matcher ω ρ} {input : Input ω} {reply : ρ → Answer ω} {position : Nat}
  {bounds : Bounds} {made : List (Match (Value ω)) → List (Value ω)}
  {waits : List (Match (Value ω)) → Memory ω → Prop}
  (resumes : ∀ past memory answer, waits past memory →
    (matcher.resume input position memory answer).GoesBy bounds made waits (past ++ [answer]))

include resumes

/-- What each step keeps to, a whole exchange keeps to. -/
theorem exchange_goesBy {answers past : List (Match (Value ω))} {step : Step ω ρ}
    (goesBy : step.GoesBy bounds made waits past) :
    let exchanged := matcher.exchange input reply position answers (step.move reply)
    (∀ result, exchanged.2 = some result → ∃ values description span failed,
      values = made (past ++ answers.take exchanged.1.length) ∧
      result = bounds.finish description values.length values.reverse span failed) ∧
    ∀ earlier < exchanged.1.length,
      bounds.full (made (past ++ answers.take earlier)).length = false := by
  induction answers generalizing past step with
  | nil =>
      cases goesBy with
      | done description span failed =>
          refine ⟨?_, nofun⟩
          rintro result ⟨⟩
          exact ⟨_, description, span, failed, congrArg made (List.append_nil past).symm, rfl⟩
      | call room _ =>
          refine ⟨nofun, fun earlier isEarlier => ?_⟩
          rw [List.take_nil, List.append_nil]
          exact room
  | cons answer answers induction =>
      cases goesBy with
      | done description span failed =>
          refine ⟨?_, nofun⟩
          rintro result ⟨⟩
          exact ⟨_, description, span, failed, congrArg made (List.append_nil past).symm, rfl⟩
      | call room waiting =>
          obtain ⟨ends, goesOn⟩ := induction (resumes _ _ answer waiting)
          simp only [List.append_assoc, List.singleton_append] at ends goesOn
          refine ⟨ends, fun earlier isEarlier => ?_⟩
          cases earlier with
          | zero =>
              rw [List.take_zero, List.append_nil]
              exact room
          | succ earlier => exact goesOn earlier (Nat.lt_of_succ_lt_succ isEarlier)

/-- An exchange that goes by the bounds of a range respects the range. -/
theorem respectsRange_of_goesBy {lower upper : CountLimit}
    (isRange : bounds = .ofRange lower upper) (answers : List (Match (Value ω)))
    {step : Step ω ρ} (goesBy : step.GoesBy bounds made waits []) :
    let exchanged := matcher.exchange input reply position answers (step.move reply)
    RespectsRange lower upper made answers exchanged.1.length exchanged.2 := by
  subst isRange
  obtain ⟨ends, goesOn⟩ := @exchange_goesBy _ _ _ _ reply _ _ _ _ resumes answers _ _ goesBy
  simp only [List.nil_append] at ends goesOn
  constructor
  case success =>
    intro span value succeeded
    obtain ⟨values, description, covered, failed, isMade, isResult⟩ := ends _ succeeded
    obtain ⟨allows, -, isValue⟩ := Bounds.finish_eq_success_iff.mp isResult.symm
    rw [List.reverse_reverse] at isValue
    refine ⟨values, isMade, isValue, fun countable => ?_⟩
    rw [← List.length_eq_zero_iff]
    exact Bounds.inRange_of_allows countable allows
  case noMore =>
    intro most greatest earlier isEarlier
    have room := goesOn earlier isEarlier
    by_contra reached
    have full := Bounds.full_iff.mpr ⟨most, Bounds.most_of_isGreatest greatest, not_lt.mp reached⟩
    cases room.symm.trans full
  case failure =>
    intro message span failure inRange
    obtain ⟨values, description, covered, failed, isMade, isResult⟩ := ends _ failure
    rw [← isMade] at inRange
    rw [Bounds.finish_of_allows (Bounds.allows_of_inRange inRange)] at isResult
    cases isResult

end

/-! ## Repetitions -/

section Repeated

variable {bounds : Bounds} {child : Child}

/-- A repetition remembers the values of its answers and how many they are. -/
def RepeatedWaits (answers : List (Match (Value ω))) (memory : Memory ω) : Prop :=
  memory.values = (valuesOf answers).reverse ∧ memory.turn = (valuesOf answers).length

theorem valuesOf_append_success (past : List (Match (Value ω))) (span : Span) (value : Value ω) :
    valuesOf (past ++ [.success span value]) = valuesOf past ++ [value] := by
  simp [valuesOf, Match.value?]

theorem valuesOf_append_failure (past : List (Match (Value ω))) (message : String) (span : Span) :
    valuesOf (past ++ [.failure message span]) = valuesOf past := by
  simp [valuesOf, Match.value?]

theorem RepeatedWaits.succ {past : List (Match (Value ω))} {memory : Memory ω}
    (waits : RepeatedWaits past memory) (span : Span) (value : Value ω) (covered : Span) :
    RepeatedWaits (past ++ [.success span value])
      ⟨memory.turn + 1, covered, value :: memory.values, none⟩ := by
  constructor
  · rw [valuesOf_append_success, List.reverse_append, ← waits.1]
    rfl
  · rw [valuesOf_append_success, List.length_append, ← waits.2]
    rfl

theorem finish_goesBy {made : List (Match (Value ω)) → List (Value ω)}
    {waits : List (Match (Value ω)) → Memory ω → Prop} {past : List (Match (Value ω))}
    {count : Nat} {values : List (Value ω)} (isMade : values = (made past).reverse)
    (isCount : count = (made past).length) (description : String) (span : Span)
    (failed : Option Span) :
    (.done (bounds.finish description count values span failed) : Step ω ρ).GoesBy bounds made
      waits past := by
  subst isMade isCount
  exact .done description span failed

theorem nextRound_goesBy {past : List (Match (Value ω))} {memory : Memory ω}
    (waits : RepeatedWaits past memory) :
    (Matcher.nextRound bounds child memory : Step ω ρ).GoesBy bounds valuesOf RepeatedWaits
      past := by
  unfold Matcher.nextRound
  split
  next => exact finish_goesBy waits.1 waits.2 ..
  next room =>
    rw [waits.2] at room
    exact .call (Bool.eq_false_iff.mpr room) waits

theorem resume_repeated_goesBy (input : Input ω) (position : Nat)
    {past : List (Match (Value ω))} {memory : Memory ω} (waits : RepeatedWaits past memory)
    (answer : Match (Value ω)) :
    ((Matcher.repeated bounds child).resume input position memory answer : Step ω ρ).GoesBy bounds
      valuesOf RepeatedWaits (past ++ [answer]) := by
  cases answer with
  | success span value =>
      have later := waits.succ span value (memory.span.join span)
      rw [Matcher.resume_repeated_success]
      split
      next => exact finish_goesBy later.1 later.2 ..
      next => exact nextRound_goesBy later
  | failure message span =>
      refine finish_goesBy ?_ ?_ ..
      · rw [valuesOf_append_failure]
        exact waits.1
      · rw [valuesOf_append_failure]
        exact waits.2

end Repeated

/-! ## Separated lists -/

section Separated

variable {bounds : Bounds} {item separator : Child}

/-- The values of the items. -/
def itemsOf (answers : List (Match (Value ω))) : List (Value ω) := valuesOf (everySecond answers)

theorem everySecond_append_singleton {α : Type} (items : List α) (last : α) :
    everySecond (items ++ [last]) =
      if items.length % 2 = 0 then everySecond items ++ [last] else everySecond items := by
  induction items using everySecond.induct with
  | case1 => rfl
  | case2 first => rfl
  | case3 first second rest induction =>
      have parity : (first :: second :: rest).length % 2 = rest.length % 2 :=
        Nat.add_mod_right rest.length 2
      simp only [List.cons_append, everySecond, induction, parity]
      split <;> rfl

theorem itemsOf_append_of_odd {past : List (Match (Value ω))} (odd : past.length % 2 = 1)
    (answer : Match (Value ω)) : itemsOf (past ++ [answer]) = itemsOf past := by
  rw [itemsOf, everySecond_append_singleton, if_neg (by omega), itemsOf]

theorem itemsOf_append_success {past : List (Match (Value ω))} (even : past.length % 2 = 0)
    (span : Span) (value : Value ω) :
    itemsOf (past ++ [.success span value]) = itemsOf past ++ [value] := by
  rw [itemsOf, everySecond_append_singleton, if_pos even, valuesOf_append_success, itemsOf]

theorem itemsOf_append_failure (past : List (Match (Value ω))) (message : String) (span : Span) :
    itemsOf (past ++ [.failure message span]) = itemsOf past := by
  rw [itemsOf, everySecond_append_singleton]
  split
  next => rw [valuesOf_append_failure, itemsOf]
  next => rfl

/-- What a separated list remembers of its answers: the items' values, and how many
answers there were, all successes. -/
structure Collects (past : List (Match (Value ω))) (memory : Memory ω) : Prop where
  values : memory.values = (itemsOf past).reverse
  turn : memory.turn = past.length
  count : valuesAfter past.length = (itemsOf past).length

/-- A separated list waits for its first item, for a separator or for another item. -/
inductive SeparatedWaits (bounds : Bounds) (past : List (Match (Value ω))) (memory : Memory ω) :
    Prop where
  | first : Collects past memory → past = [] → memory.aside = none →
      SeparatedWaits bounds past memory
  | separator : Collects past memory → past.length % 2 = 1 →
      bounds.full (itemsOf past).length = false → SeparatedWaits bounds past memory
  | item {between : Span} {skipped : Value ω} : Collects past memory → past.length % 2 = 0 →
      memory.aside = some (.success between skipped) →
      bounds.full (itemsOf past).length = false → SeparatedWaits bounds past memory

section

variable {past : List (Match (Value ω))} {memory : Memory ω}

/-- A separated list that stops goes by the items that it has. -/
theorem Collects.stop (collects : Collects past memory) {all : List (Match (Value ω))}
    (noMore : itemsOf all = itemsOf past) (description : String) (failed : Option Span) :
    (.done (bounds.finish description (valuesAfter memory.turn) memory.values memory.span failed) :
      Step ω ρ).GoesBy bounds itemsOf (SeparatedWaits bounds) all := by
  refine finish_goesBy ?_ ?_ ..
  · rw [noMore, collects.values]
  · rw [noMore, collects.turn, collects.count]

theorem Collects.nextSeparator_goesBy (collects : Collects past memory)
    (odd : past.length % 2 = 1) :
    (Matcher.nextSeparator bounds item separator memory : Step ω ρ).GoesBy bounds itemsOf
      (SeparatedWaits bounds) past := by
  unfold Matcher.nextSeparator
  dsimp only
  split
  next => exact collects.stop rfl ..
  next room =>
    rw [collects.turn, collects.count] at room
    have room := Bool.eq_false_iff.mpr room
    exact .call room (.separator collects odd room)

/-- An item is one value more. -/
theorem Collects.succ (collects : Collects past memory) (even : past.length % 2 = 0)
    (span : Span) (value : Value ω) (covered : Span) :
    Collects (past ++ [.success span value])
      ⟨memory.turn + 1, covered, value :: memory.values, none⟩ := by
  have turn := collects.turn
  have count := collects.count
  constructor
  case values =>
    rw [itemsOf_append_success even, List.reverse_append, ← collects.values]
    rfl
  case turn => rw [List.length_append, ← turn, List.length_singleton]
  case count =>
    rw [itemsOf_append_success even, List.length_append, List.length_append, ← count]
    simp only [valuesAfter, List.length_singleton]
    omega

/-- A separator is no value. -/
theorem Collects.skip (collects : Collects past memory) (odd : past.length % 2 = 1)
    (answer : Match (Value ω)) :
    Collects (past ++ [answer]) { memory with turn := memory.turn + 1, aside := some answer } := by
  have count := collects.count
  have noMore := itemsOf_append_of_odd odd answer
  constructor
  case values => rw [noMore, ← collects.values]
  case turn => rw [List.length_append, ← collects.turn, List.length_singleton]
  case count =>
    rw [noMore, ← count, List.length_append, List.length_singleton]
    simp only [valuesAfter]
    omega

theorem resume_separated_goesBy (input : Input ω) (position : Nat)
    (waits : SeparatedWaits bounds past memory) (answer : Match (Value ω)) :
    ((Matcher.separated bounds item separator).resume input position memory answer :
      Step ω ρ).GoesBy bounds itemsOf (SeparatedWaits bounds) (past ++ [answer]) := by
  cases waits with
  | first collects isFirst noSeparator =>
      subst isFirst
      have even : memory.turn % 2 = 0 := by rw [collects.turn]; rfl
      have noValues : memory.values = [] := collects.values
      rw [Matcher.resume_first_item even noSeparator]
      cases answer with
      | success span value =>
          have later := collects.succ rfl span value span
          rw [noValues] at later
          exact later.nextSeparator_goesBy rfl
      | failure message span => exact collects.stop (itemsOf_append_failure ..) ..
  | separator collects odd room =>
      have isOdd : memory.turn % 2 = 1 := by rw [collects.turn]; exact odd
      have same := itemsOf_append_of_odd odd answer
      rw [Matcher.resume_separator isOdd]
      cases answer with
      | success between skipped =>
          have even : (past ++ [Match.success between skipped]).length % 2 = 0 := by
            rw [List.length_append, List.length_singleton]
            omega
          rw [← same] at room
          exact .call room (.item (collects.skip odd _) even rfl room)
      | failure message span => exact collects.stop same ..
  | item collects even between room =>
      have isEven : memory.turn % 2 = 0 := by rw [collects.turn]; exact even
      rw [Matcher.resume_item isEven between]
      cases answer with
      | success span value =>
          have later := collects.succ even span value (memory.span.join span)
          dsimp only
          split
          next =>
            refine finish_goesBy later.values ?_ ..
            rw [itemsOf_append_success even, collects.turn, collects.count, List.length_append,
              List.length_singleton]
          next =>
            refine later.nextSeparator_goesBy ?_
            rw [List.length_append, List.length_singleton]
            omega
      | failure message span => exact collects.stop (itemsOf_append_failure ..) ..

end

theorem start_separated_goesBy (input : Input ω) (position : Nat) :
    ((Matcher.separated bounds item separator).start input position : Step ω ρ).GoesBy bounds
      itemsOf (SeparatedWaits bounds) [] := by
  have nothing : valuesAfter 0 = (itemsOf ([] : List (Match (Value ω)))).length := by
    simp [valuesAfter, itemsOf, valuesOf, everySecond]
  rw [Matcher.start_separated]
  split
  next => exact .done ..
  next room => exact .call (Bool.eq_false_iff.mpr room) (.first ⟨rfl, rfl, nothing⟩ rfl rfl)

end Separated

namespace Reference

/-- A repetition and a separated list go by the range that they are given, whatever it is,
whatever their parsers match and whatever the input is. -/
theorem repetitions_respect_range (lower upper : CountLimit) :
    (∀ body : Reference ω ρ, ∃ blueprint : Blueprint ω ρ, blueprint.arity = 1 ∧
      repeated (.ofRange lower upper) body = .node blueprint (fun _ => body) ∧
      ∀ (children : Fin blueprint.arity → Child) (input : Input ω) (reply : ρ → Answer ω)
        (position : Nat) (answers : List (Match (Value ω))),
        let exchanged := (blueprint.generate children).exchange input reply position answers
          (((blueprint.generate children).start input position).move reply)
        RespectsRange lower upper valuesOf answers exchanged.1.length exchanged.2) ∧
    ∀ item separator : Reference ω ρ, ∃ (blueprint : Blueprint ω ρ) (two : blueprint.arity = 2),
      separated (.ofRange lower upper) item separator =
        .node blueprint (fun index => if index.cast two = 0 then item else separator) ∧
      ∀ (children : Fin blueprint.arity → Child) (input : Input ω) (reply : ρ → Answer ω)
        (position : Nat) (answers : List (Match (Value ω))),
        let exchanged := (blueprint.generate children).exchange input reply position answers
          (((blueprint.generate children).start input position).move reply)
        RespectsRange lower upper itemsOf answers exchanged.1.length exchanged.2 := by
  constructor
  · refine fun body => ⟨_, rfl, rfl, fun children input reply position answers => ?_⟩
    exact respectsRange_of_goesBy
      (fun past memory answer waits => resume_repeated_goesBy input position waits answer) rfl
      answers
      (nextRound_goesBy ⟨rfl, rfl⟩)
  · refine fun item separator => ⟨_, rfl, rfl, fun children input reply position answers => ?_⟩
    exact respectsRange_of_goesBy
      (fun past memory answer waits => resume_separated_goesBy input position waits answer) rfl
      answers
      (start_separated_goesBy input position)

/-- How many values a successful match of a list has. -/
def listed? : Match (Value ω) → Option Nat
  | .success _ (.list values) => some values.length
  | _ => none

/-- No count is below zero, but a letter is found fewer than zero times: not at all. -/
theorem fewer_than_zero_letters :
    (¬ ∃ count, InRange .unbounded (.excluded 0) count) ∧
    (((Engine.new 0 .text .standard : Engine Empty Empty).execute (fun _ => .any)
      (⟨nofun, fun _ world => world⟩ : Host Empty Empty Unit) 4
      ⟨0, repeated (.ofRange .unbounded (.excluded 0)) (.text "a")⟩ (.text ⟨#[]⟩) .standard
      ()).1.map fun ran => ran.toOption.map fun outcome => listed? outcome.result) =
      some (some (some 0)) := by
  refine ⟨?_, by decide +kernel⟩
  rintro ⟨count, -, below⟩
  exact Nat.not_lt_zero count below

end Reference

end Packrat
