import Mathlib.Order.Bounds.Basic
import Packrat.Proofs.Combinator.OrderedChoice

/-!
# Greedy repetition

What a repetition should do, when its parser matches at each place as `answer` says:
match at one place after the other until there is a reason to stop, and then go by how
often it has matched.  `StopsAt` gives the reasons, `Concludes` the match.
-/

namespace Packrat

variable {ω ρ : Type}

/-- Where so many matches in a row have got to, each where the one before it stopped. -/
def placeAfter (answer : Nat → Match (Value ω)) (position : Nat) : Nat → Nat
  | 0 => position
  | count + 1 => (answer (placeAfter answer position count)).span.stop

/-- The calls for so many attempts to match a node, from the one after `count` matches on. -/
def attemptsFrom (answer : Nat → Match (Value ω)) (position : Nat) (node : NodeId)
    (count many : Nat) : List (NodeId × Nat) :=
  (List.range' count many).map fun index => (node, placeAfter answer position index)

/-- The values of so many matches in a row. -/
def valuesOver (answer : Nat → Match (Value ω)) (position count : Nat) : List (Value ω) :=
  (List.range count).filterMap fun index => (answer (placeAfter answer position index)).value?

namespace Bounds

variable {bounds : Bounds} {answer : Nat → Match (Value ω)} {position count : Nat}

/-- The reasons to stop after so many matches in a row. -/
inductive StopsAt (bounds : Bounds) (answer : Nat → Match (Value ω)) (position : Nat) :
    Nat → Prop where
  /-- There may not be more. -/
  | full {count : Nat} : bounds.most = some count → StopsAt bounds answer position count
  /-- There is not one more. -/
  | failed {count : Nat} :
      (answer (placeAfter answer position count)).isSuccess = false →
      StopsAt bounds answer position count
  /-- The last one matched nothing. -/
  | empty {before : Nat} {span : Span} {value : Value ω} :
      answer (placeAfter answer position before) = .success span value →
      span.isEmpty = true → StopsAt bounds answer position (before + 1)

/-- Where the attempt after so many matches failed, if there was one. -/
def failedAfter (bounds : Bounds) (answer : Nat → Match (Value ω)) (position count : Nat) :
    Option Span :=
  if bounds.most = some count then none
  else match answer (placeAfter answer position count) with
    | .success .. => none
    | .failure _ failed => some failed

/-- What a repetition comes to that has stopped after so many matches from a position up
to a place, having failed there or not. -/
inductive Concludes (bounds : Bounds) (description : String) (position stop count : Nat)
    (values : List (Value ω)) (failed : Option Span) : Match (Value ω) → Prop where
  | enough :
      (bounds.least ≤ count ∧ ∀ most, bounds.most = some most → count ≤ most) →
      Concludes bounds description position stop count values failed
        (.success (.between position stop) (.list values))
  | otherwise :
      ¬ (bounds.least ≤ count ∧ ∀ most, bounds.most = some most → count ≤ most) →
      Concludes bounds description position stop count values failed
        (.failure
          ("expected " ++ bounds.inWords ++ " of " ++ description ++ ", found " ++ count.repr)
          (.point (failed.elim stop fun span => max span.stop stop)))

theorem concludes_finish {bounds : Bounds} {description : String} {position stop count : Nat}
    {values : List (Value ω)} {failed : Option Span} (ordered : position ≤ stop) :
    bounds.Concludes description position stop count values failed
      (bounds.finish description count values.reverse (.between position stop) failed) := by
  have reached : (Span.between position stop).stop = stop := Nat.max_eq_right ordered
  unfold finish
  split
  next allows =>
    rw [List.reverse_reverse]
    exact .enough (allows_iff.mp allows)
  next forbids =>
    have short : bounds.Concludes description position stop count values failed _ :=
      .otherwise (mt allows_iff.mpr forbids)
    cases failed <;> rwa [reached]

/-- A match that is no reason to stop is a success. -/
theorem exists_success_of_goesOn (goesOn : ¬ bounds.StopsAt answer position count) :
    ∃ span value, answer (placeAfter answer position count) = .success span value := by
  cases answered : answer (placeAfter answer position count) with
  | failure message span => exact absurd (.failed (congrArg Match.isSuccess answered)) goesOn
  | success span value => exact ⟨span, value, rfl⟩

theorem placeAfter_succ {span : Span} {value : Value ω}
    (answered : answer (placeAfter answer position count) = .success span value) :
    placeAfter answer position (count + 1) = span.stop := by
  rw [placeAfter, answered]
  rfl

theorem valuesOver_succ {span : Span} {value : Value ω}
    (answered : answer (placeAfter answer position count) = .success span value) :
    valuesOver answer position (count + 1) = valuesOver answer position count ++ [value] := by
  simp only [valuesOver, List.range_succ, List.filterMap_append, List.filterMap_cons, answered,
    Match.value?, List.filterMap_nil]

/-- Until there is a reason to stop, every match has a value. -/
theorem length_valuesOver
    (goesOn : ∀ earlier < count, ¬ bounds.StopsAt answer position earlier) :
    (valuesOver answer position count).length = count := by
  induction count with
  | zero => rfl
  | succ count induction =>
      obtain ⟨span, value, answered⟩ := exists_success_of_goesOn (goesOn count (Nat.lt_succ_self _))
      rw [valuesOver_succ answered, List.length_append, List.length_singleton,
        induction fun earlier isEarlier => goesOn earlier (Nat.lt_succ_of_lt isEarlier)]

section Stopping

variable {length : Nat}
  (inside : ∀ place span value, answer place = .success span value →
    span.start = place ∧ span.stop ≤ length)

include inside

/-- Matches that go on each match something. -/
theorem le_placeAfter (goesOn : ∀ earlier ≤ count, ¬ bounds.StopsAt answer position earlier) :
    position + count ≤ placeAfter answer position count := by
  induction count with
  | zero => exact Nat.le_refl position
  | succ count induction =>
      have before := induction fun earlier isEarlier =>
        goesOn earlier (Nat.le_succ_of_le isEarlier)
      obtain ⟨span, value, answered⟩ := exists_success_of_goesOn (goesOn count (Nat.le_succ count))
      have nonempty : span.start ≠ span.stop := fun same =>
        goesOn _ (Nat.le_refl _) (.empty answered (Span.isEmpty_iff.mpr same))
      have starts := (inside _ _ _ answered).1
      have ordered := span.ordered
      rw [placeAfter_succ answered]
      omega

/-- The match after such matches may be empty but does not go back. -/
theorem placeAfter_succ_between
    (goesOn : ∀ earlier ≤ count, ¬ bounds.StopsAt answer position earlier) :
    position + count ≤ placeAfter answer position (count + 1) ∧
      placeAfter answer position (count + 1) ≤ length := by
  have before := le_placeAfter inside goesOn
  obtain ⟨span, value, answered⟩ := exists_success_of_goesOn (goesOn count (Nat.le_refl count))
  obtain ⟨starts, stops⟩ := inside _ _ _ answered
  have ordered := span.ordered
  rw [placeAfter_succ answered]
  omega

theorem position_le_placeAfter
    (goesOn : ∀ earlier < count, ¬ bounds.StopsAt answer position earlier) :
    position ≤ placeAfter answer position count := by
  cases count with
  | zero => exact Nat.le_refl position
  | succ count =>
      have between := placeAfter_succ_between inside fun earlier isEarlier =>
        goesOn earlier (Nat.lt_succ_of_le isEarlier)
      omega

/-- So many matches do not go on that each but the last takes one item of the input. -/
theorem le_of_goesOn (goesOn : ∀ earlier < count, ¬ bounds.StopsAt answer position earlier) :
    count ≤ length - position + 1 := by
  cases count with
  | zero => exact Nat.zero_le _
  | succ count =>
      have between := placeAfter_succ_between inside fun earlier isEarlier =>
        goesOn earlier (Nat.lt_succ_of_le isEarlier)
      omega

variable (bounds position) in
/-- There is a first reason to stop. -/
theorem exists_isLeast_stopsAt :
    ∃ count, IsLeast {count | bounds.StopsAt answer position count} count := by
  classical
  have sometime : ∃ count, bounds.StopsAt answer position count := by
    by_contra never
    push Not at never
    have tooFar : length - position + 2 ≤ length - position + 1 :=
      le_of_goesOn inside fun earlier _ => never earlier
    omega
  exact ⟨Nat.find sometime, Nat.find_spec sometime, fun _ => Nat.find_min' sometime⟩

end Stopping

end Bounds

/-! ## The calls -/

section Rounds

variable {bounds : Bounds} {child : Child} {answer : Nat → Match (Value ω)} {input : Input ω}
  {reply : ρ → Answer ω} {position count : Nat}

open Bounds

/-- What a repetition remembers after so many matches. -/
def memoryAfter (answer : Nat → Match (Value ω)) (position count : Nat) : Memory ω :=
  ⟨count, .between position (placeAfter answer position count),
    (valuesOver answer position count).reverse, none⟩

theorem memoryAfter_zero : memoryAfter answer position 0 = .start position := by
  have alone : Span.between position position = .point position :=
    Span.ext (Nat.min_self _) (Nat.max_self _)
  simp only [memoryAfter, placeAfter, alone]
  rfl

theorem memoryAfter_succ {span : Span} {value : Value ω}
    (ordered : position ≤ placeAfter answer position count)
    (answered : answer (placeAfter answer position count) = .success span value) :
    (⟨count + 1, (memoryAfter answer position count).span.join span,
      value :: (memoryAfter answer position count).values, none⟩ : Memory ω) =
      memoryAfter answer position (count + 1) := by
  have joined : (Span.between position (placeAfter answer position count)).join span =
      .between position span.stop := by
    rw [Span.join, Span.start_between, Nat.min_eq_left ordered]
  simp only [memoryAfter, joined, placeAfter_succ answered, valuesOver_succ answered,
    List.reverse_append, List.reverse_singleton, List.singleton_append]

/-- If it has gone on so far, a repetition is full only by having reached the most. -/
theorem full_iff_of_goesOn
    (goesOn : ∀ earlier < count, ¬ bounds.StopsAt answer position earlier) :
    bounds.full count = true ↔ bounds.most = some count := by
  rw [Bounds.full_iff]
  constructor
  · rintro ⟨most, isMost, reached⟩
    rcases Nat.eq_or_lt_of_le reached with rfl | earlier
    · exact isMost
    · exact absurd (.full isMost) (goesOn most earlier)
  · intro isMost
    exact ⟨count, isMost, Nat.le_refl count⟩

/-- A repetition that is not full calls its parser where it has got to, and goes by the
answer. -/
theorem exchange_attempt (goesOn : ∀ earlier < count, ¬ bounds.StopsAt answer position earlier)
    (ordered : position ≤ placeAfter answer position count)
    (notFull : bounds.most ≠ some count) (answers : List (Match (Value ω))) :
    (Matcher.repeated bounds child).exchange input reply position
        (answer (placeAfter answer position count) :: answers)
        ((Matcher.nextRound bounds child (memoryAfter answer position count) : Step ω ρ).move
          reply) =
      let rest := (Matcher.repeated bounds child).exchange input reply position answers
        (((Matcher.repeated bounds child).resume input position
          (memoryAfter answer position count)
          (answer (placeAfter answer position count)) : Step ω ρ).move reply)
      ((child.id, placeAfter answer position count) :: rest.1, rest.2) := by
  have reached : (memoryAfter answer position count).span.stop =
      placeAfter answer position count := Nat.max_eq_right ordered
  have hasRoom : ¬ bounds.full (memoryAfter answer position count).turn = true :=
    mt (full_iff_of_goesOn goesOn).mp notFull
  rw [Matcher.nextRound, if_neg hasRoom, reached]
  rfl

/-- What a repetition gives when it stops after so many matches. -/
def finishAfter (bounds : Bounds) (description : String) (answer : Nat → Match (Value ω))
    (position count : Nat) : Match (Value ω) :=
  bounds.finish description count (valuesOver answer position count).reverse
    (.between position (placeAfter answer position count))
    (bounds.failedAfter answer position count)

/-- The calls that a repetition has left after `count` matches, if it stops after `last`. -/
def callsLeft (bounds : Bounds) (child : NodeId) (answer : Nat → Match (Value ω))
    (position count last : Nat) : List (NodeId × Nat) :=
  attemptsFrom answer position child count
    (last - count + (bounds.failedAfter answer position last).toList.length)

theorem callsLeft_of_lt {last : Nat} (earlier : count < last) (node : NodeId) :
    callsLeft bounds node answer position count last =
      (node, placeAfter answer position count) ::
        callsLeft bounds node answer position (count + 1) last := by
  obtain ⟨left, rfl⟩ := Nat.exists_eq_add_of_lt earlier
  have before : count + left + 1 - count = left + 1 := by omega
  have after : count + left + 1 - (count + 1) = left := by omega
  rw [callsLeft, callsLeft, before, after, Nat.add_right_comm]
  rfl

/-- An empty match would be made again where the repetition has stopped. -/
theorem failedAfter_of_empty {span : Span} {value : Value ω} (starts : span.start =
      placeAfter answer position count) (isEmpty : span.isEmpty = true)
    (answered : answer (placeAfter answer position count) = .success span value) :
    bounds.failedAfter answer position (count + 1) = none := by
  have stays : placeAfter answer position (count + 1) = placeAfter answer position count := by
    rw [placeAfter_succ answered, ← Span.isEmpty_iff.mp isEmpty, starts]
  rw [Bounds.failedAfter, stays, answered, ite_self]

/-- A repetition that has a reason to stop other than an empty match. -/
theorem exchange_stopped (goesOn : ∀ earlier < count, ¬ bounds.StopsAt answer position earlier)
    (ordered : position ≤ placeAfter answer position count)
    (reason : bounds.most = some count ∨
      (answer (placeAfter answer position count)).isSuccess = false) :
    let calls := callsLeft bounds child.id answer position count count
    (Matcher.repeated bounds child).exchange input reply position
        (calls.map fun call => answer call.2)
        ((Matcher.nextRound bounds child (memoryAfter answer position count) : Step ω ρ).move
          reply) =
      (calls, some (finishAfter bounds child.description answer position count)) := by
  by_cases isFull : bounds.most = some count
  · have noFailure : bounds.failedAfter answer position count = none := if_pos isFull
    have noCalls : callsLeft bounds child.id answer position count count = [] := by
      rw [callsLeft, noFailure, Nat.sub_self]
      rfl
    have full : bounds.full (memoryAfter answer position count).turn = true :=
      (full_iff_of_goesOn goesOn).mpr isFull
    rw [noCalls, Matcher.nextRound, if_pos full, finishAfter, noFailure]
    rfl
  · cases answered : answer (placeAfter answer position count) with
    | success span value =>
        rw [answered] at reason
        cases reason.resolve_left isFull
    | failure message failed =>
        have isFailure : bounds.failedAfter answer position count = some failed := by
          rw [Bounds.failedAfter, if_neg isFull, answered]
        have oneCall : callsLeft bounds child.id answer position count count =
            [(child.id, placeAfter answer position count)] := by
          rw [callsLeft, isFailure, Nat.sub_self]
          rfl
        dsimp only
        rw [oneCall, List.map_singleton, exchange_attempt goesOn ordered isFull, answered,
          finishAfter, isFailure]
        rfl

variable (inside : ∀ place span value, answer place = .success span value →
  span.start = place ∧ span.stop ≤ input.length)

include inside

/-- From one attempt on, a repetition goes on up to the first reason to stop, and gives
what it has then.  That it is at this attempt says that the last match was not empty. -/
theorem exchange_nextRound {remaining : Nat}
    (least : IsLeast {count | bounds.StopsAt answer position count} (count + remaining))
    (reason : bounds.StopsAt answer position count →
      bounds.most = some count ∨ (answer (placeAfter answer position count)).isSuccess = false) :
    let calls := callsLeft bounds child.id answer position count (count + remaining)
    (Matcher.repeated bounds child).exchange input reply position
        (calls.map fun call => answer call.2)
        ((Matcher.nextRound bounds child (memoryAfter answer position count) : Step ω ρ).move
          reply) =
      (calls, some (finishAfter bounds child.description answer position (count + remaining))) := by
  have goesOn : ∀ earlier < count + remaining, ¬ bounds.StopsAt answer position earlier :=
    fun earlier isEarlier stops => Nat.not_le_of_lt isEarlier (least.2 stops)
  have ordered : position ≤ placeAfter answer position count :=
    position_le_placeAfter inside fun earlier isEarlier =>
      goesOn earlier (Nat.lt_add_right remaining isEarlier)
  induction remaining generalizing count with
  | zero => exact exchange_stopped goesOn ordered (reason least.1)
  | succ remaining induction =>
      have here := goesOn count (by omega)
      obtain ⟨span, value, answered⟩ := exists_success_of_goesOn here
      have notFull : bounds.most ≠ some count := fun isFull => here (.full isFull)
      have before : ∀ earlier < count, ¬ bounds.StopsAt answer position earlier :=
        fun earlier isEarlier => goesOn earlier (by omega)
      have resumed : (Matcher.repeated bounds child).resume input position
          (memoryAfter answer position count) (.success span value) =
          (if span.isEmpty then
            .done (bounds.finish child.description (memoryAfter answer position (count + 1)).turn
              (memoryAfter answer position (count + 1)).values
              (memoryAfter answer position (count + 1)).span none)
          else Matcher.nextRound bounds child (memoryAfter answer position (count + 1)) :
            Step ω ρ) := by
        rw [← memoryAfter_succ ordered answered]
        rfl
      dsimp only
      rw [callsLeft_of_lt (by omega), List.map_cons, exchange_attempt before ordered notFull,
        answered, resumed]
      cases isEmpty : span.isEmpty with
      | true =>
          have noFailure : bounds.failedAfter answer position (count + 1) = none :=
            failedAfter_of_empty (inside _ _ _ answered).1 isEmpty answered
          have last : remaining = 0 := by
            have := least.2 (StopsAt.empty answered isEmpty)
            omega
          subst last
          have noCalls : callsLeft bounds child.id answer position (count + 1) (count + 1) =
              [] := by
            rw [callsLeft, noFailure, Nat.sub_self]
            rfl
          rw [Nat.zero_add, noCalls, finishAfter, noFailure]
          rfl
      | false =>
          have onward : count + (remaining + 1) = count + 1 + remaining := by omega
          rw [onward] at least goesOn ⊢
          have rest := induction least ?_ goesOn ?_
          · rw [if_neg Bool.false_ne_true, rest]
          · intro stops
            cases stops with
            | full isFull => exact .inl isFull
            | failed failed => exact .inr failed
            | empty again wasEmpty =>
                rw [answered] at again
                cases again
                cases isEmpty.symm.trans wasEmpty
          · exact position_le_placeAfter inside fun earlier isEarlier =>
              goesOn earlier (Nat.lt_add_right remaining isEarlier)

end Rounds

namespace Reference

/-- A repetition, whatever its bounds are and whatever its parser matches at each place,
as long as a success starts there and stops inside the input.  It makes the matches in a
row up to the first reason to stop, which comes soon, and calls its parser nowhere else;
its match goes by how many there were. -/
theorem repeated_is_greedy (bounds : Bounds) (body : Reference ω ρ) :
    ∃ blueprint : Blueprint ω ρ, blueprint.arity = 1 ∧
      repeated bounds body = .node blueprint (fun _ => body) ∧
      ∀ (child : Child) (answer : Nat → Match (Value ω)) (input : Input ω)
        (reply : ρ → Answer ω) (position : Nat),
        (∀ place span value, answer place = .success span value →
          span.start = place ∧ span.stop ≤ input.length) →
        ∃ count failed calls result,
          IsLeast {count | bounds.StopsAt answer position count} count ∧
          count ≤ input.length - position + 1 ∧
          failed = bounds.failedAfter answer position count ∧
          calls = attemptsFrom answer position child.id 0 (count + failed.toList.length) ∧
          (valuesOver answer position count).length = count ∧
          bounds.Concludes child.description position (placeAfter answer position count) count
            (valuesOver answer position count) failed result ∧
          (blueprint.generate fun _ => child).exchange input reply position
              (calls.map fun call => answer call.2)
              (((blueprint.generate fun _ => child).start input position).move reply) =
            (calls, some result) := by
  refine ⟨_, rfl, rfl, fun child answer input reply position inside => ?_⟩
  obtain ⟨count, least⟩ := Bounds.exists_isLeast_stopsAt bounds position inside
  have goesOn : ∀ earlier < count, ¬ bounds.StopsAt answer position earlier :=
    fun earlier isEarlier stops => Nat.not_le_of_lt isEarlier (least.2 stops)
  refine ⟨count, _, _, _, least, Bounds.le_of_goesOn inside goesOn, rfl, rfl,
    Bounds.length_valuesOver goesOn,
    Bounds.concludes_finish (Bounds.position_le_placeAfter inside goesOn), ?_⟩
  have isFirst : bounds.StopsAt answer position 0 →
      bounds.most = some 0 ∨ (answer (placeAfter answer position 0)).isSuccess = false := by
    intro stops
    cases stops with
    | full isFull => exact .inl isFull
    | failed failed => exact .inr failed
  rw [← Nat.zero_add count] at least
  have exchanged := @exchange_nextRound _ _ _ child _ _ reply _ _ inside _ least isFirst
  rw [memoryAfter_zero, Nat.zero_add] at exchanged
  exact exchanged

/-- Two letters and then something else. -/
def twoLetters (place : Nat) : Match (Value Empty) :=
  if place < 2 then .success (.between place (place + 1)) (.char 'a')
  else .failure "unexpected 'b'" (.point place)

/-- The node of a letter, in a grammar of its own. -/
def letter : Child := ⟨⟨0, by decide⟩, "\"a\""⟩

theorem two_letters_are_too_few :
    ∃ blueprint : Blueprint Empty Empty,
      repeated ⟨3, none⟩ (.text "a") = .node blueprint (fun _ => .text "a") ∧
      (blueprint.generate fun _ => letter).exchange (.text ⟨#['a', 'a', 'b']⟩) nofun 0
          ([0, 1, 2].map twoLetters)
          (((blueprint.generate fun _ => letter).start (.text ⟨#['a', 'a', 'b']⟩) 0).move nofun) =
        ([(letter.id, 0), (letter.id, 1), (letter.id, 2)],
          some (.failure "expected at least 3 of \"a\", found 2" (.point 2))) := by
  have inside : ∀ place span value, twoLetters place = .success span value →
      span.start = place ∧ span.stop ≤ (Input.text ⟨#['a', 'a', 'b']⟩ : Input Empty).length := by
    intro place span value answered
    unfold twoLetters at answered
    split at answered <;> cases answered
    have last : place + 1 ≤ 3 := by omega
    exact ⟨Nat.min_eq_left (Nat.le_succ place),
      (Nat.max_eq_right (Nat.le_succ place)).trans_le last⟩
  obtain ⟨blueprint, _, built, greedy⟩ := repeated_is_greedy (ρ := Empty) ⟨3, none⟩ (.text "a")
  obtain ⟨count, failed, calls, result, least, _, rfl, rfl, _, concludes, exchanged⟩ :=
    greedy letter twoLetters (.text ⟨#['a', 'a', 'b']⟩) nofun 0 inside
  have two : count = 2 := by
    have upTo : count ≤ 2 := least.2 (.failed rfl)
    match count, least.1, upTo with
    | 0, .failed failed, _ => cases failed
    | 1, .failed failed, _ => cases failed
    | 1, .empty answered isEmpty, _ =>
        cases answered
        cases isEmpty
    | 2, _, _ => rfl
  subst two
  cases concludes with
  | enough enough => exact absurd enough.1 (by decide)
  | otherwise short => exact ⟨blueprint, built, exchanged⟩

end Reference

end Packrat
