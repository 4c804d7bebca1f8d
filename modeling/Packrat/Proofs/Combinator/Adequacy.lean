import Packrat.Proofs.Combinator.Plan
import Packrat.Proofs.Evaluation

/-!
# The matchers carry out their plans

Whatever the matcher of a plan comes to, going from memory to memory, is what the plan
gives when it is read directly, and the other way around.
-/

namespace Packrat

variable {κ ω ρ : Type}

theorem Act.move_toStep {α : Type} (reply : ρ → Answer ω) (act : Act ω ρ α)
    (next : α → Step ω ρ) :
    (act.toStep next).move reply = (next (act.outcome reply)).move reply := by
  induction act with
  | result value => rfl
  | ask request wait induction => exact induction (reply request)

namespace Matcher

variable {matcher : Matcher ω ρ} {input : Input ω} {reply : ρ → Answer ω} {position : Nat}
  {answers : NodeId → Nat → Match (Value ω) → Prop}

theorem yields_done_iff {done result : Match (Value ω)} :
    matcher.Yields input reply position answers (.done done) result ↔ result = done := by
  constructor
  · intro yields
    cases yields
    rfl
  · rintro rfl
    exact .done result

theorem yields_call_iff {node : NodeId} {place : Nat} {memory : Memory ω}
    {result : Match (Value ω)} :
    matcher.Yields input reply position answers (.call node place memory) result ↔
      ∃ answer, answers node place answer ∧
        matcher.Yields input reply position answers
          ((matcher.resume input position memory answer).move reply) result := by
  constructor
  · intro yields
    cases yields with
    | call answered rest => exact ⟨_, answered, rest⟩
  · rintro ⟨answer, answered, rest⟩
    exact .call answered rest

theorem yields_ofAnswer_iff {node : NodeId} {next : Nat → Match (Value ω) → Step ω ρ}
    {result : Match (Value ω)} :
    (ofAnswer node next).Yields input reply position answers
        (((ofAnswer node next).start input position).move reply) result ↔
      ∃ answer, answers node position answer ∧
        (ofAnswer node next).Yields input reply position answers
          ((next position answer).move reply) result :=
  yields_call_iff

end Matcher

section Loops

variable {answers : κ → Nat → Match (Value ω) → Prop}

theorem chooses_cons_iff {position : Nat} {best : Option (Match (Value ω))}
    {alternative : κ} {rest : List κ} {result : Match (Value ω)} :
    Chooses answers position best (alternative :: rest) result ↔
      ∃ answer, answers alternative position answer ∧
        if answer.isSuccess then result = answer
        else Chooses answers position (some (Match.better best answer)) rest result := by
  constructor
  · intro chooses
    cases chooses with
    | taken answered succeeded => exact ⟨_, answered, by rw [if_pos succeeded]⟩
    | passed answered failed rest => exact ⟨_, answered, by simpa [failed] using rest⟩
  · rintro ⟨answer, answered, rest⟩
    cases succeeded : answer.isSuccess with
    | true =>
        rw [succeeded, if_pos rfl] at rest
        rw [rest]
        exact .taken answered succeeded
    | false =>
        rw [succeeded] at rest
        exact .passed answered succeeded rest

theorem follows_cons_iff {span : Span} {values : List (Value ω)} {part : κ} {rest : List κ}
    {result : Match (Value ω)} :
    Follows answers span values (part :: rest) result ↔
      ∃ answer, answers part span.stop answer ∧
        match answer with
        | .success next value => Follows answers (span.join next) (value :: values) rest result
        | .failure message place => result = .failure message place := by
  constructor
  · intro follows
    cases follows with
    | failed answered => exact ⟨_, answered, rfl⟩
    | next answered rest => exact ⟨_, answered, rest⟩
  · rintro ⟨answer, answered, rest⟩
    cases answer with
    | success next value => exact .next answered rest
    | failure message place =>
        rw [show result = _ from rest]
        exact .failed answered

end Loops

namespace Plan

variable {input : Input ω} {reply : ρ → Answer ω} {position : Nat} {child : κ → Child}
  {answers : NodeId → Nat → Match (Value ω) → Prop}

theorem yields_choice_iff {alternatives rest : List κ} {memory : Memory ω}
    {result : Match (Value ω)} (left : alternatives.drop memory.turn = rest) :
    (Matcher.choice ((alternatives.map child).map Child.id)).Yields input reply position answers
        ((Matcher.tryFrom ((alternatives.map child).map Child.id) position memory :
          Step ω ρ).move reply) result ↔
      Chooses (fun each => answers (child each).id) position memory.aside rest result := by
  induction rest generalizing memory with
  | nil =>
      have past : alternatives[memory.turn]? = none :=
        List.getElem?_eq_none (List.drop_eq_nil_iff.mp left)
      simp only [Matcher.tryFrom, List.getElem?_map, past, Option.map_none, Step.move,
        Matcher.yields_done_iff]
      constructor
      · rintro rfl
        exact .exhausted memory.aside
      · intro chooses
        cases chooses
        rfl
  | cons alternative rest induction =>
      have here : alternatives[memory.turn]? = some alternative := by
        rw [← List.head?_drop, left, List.head?_cons]
      have next : alternatives.drop (memory.turn + 1) = rest := by
        rw [← List.tail_drop, left, List.tail_cons]
      simp only [Matcher.tryFrom, List.getElem?_map, here, Option.map_some, Step.move,
        Matcher.yields_call_iff, chooses_cons_iff]
      refine exists_congr fun answer => and_congr_right fun _ => ?_
      simp only [Matcher.choice]
      cases succeeded : answer.isSuccess with
      | true => simp [Step.move, Matcher.yields_done_iff]
      | false =>
          have further := @induction
            { memory with
              turn := memory.turn + 1
              aside := some (Match.better memory.aside answer) } next
          simp only [Bool.false_eq_true, if_false]
          rw [← further]
          cases memory.aside <;> rfl

theorem yields_sequence_iff {parts rest : List κ} {memory : Memory ω}
    {result : Match (Value ω)} (left : parts.drop memory.turn = rest) :
    (Matcher.sequence ((parts.map child).map Child.id)).Yields input reply position answers
        ((Matcher.nextPart ((parts.map child).map Child.id) memory :
          Step ω ρ).move reply) result ↔
      Follows (fun each => answers (child each).id) memory.span memory.values rest result := by
  induction rest generalizing memory with
  | nil =>
      have past : parts[memory.turn]? = none :=
        List.getElem?_eq_none (List.drop_eq_nil_iff.mp left)
      simp only [Matcher.nextPart, List.getElem?_map, past, Option.map_none, Step.move,
        Matcher.yields_done_iff]
      constructor
      · rintro rfl
        exact .finished memory.span memory.values
      · intro follows
        cases follows
        rfl
  | cons part rest induction =>
      have here : parts[memory.turn]? = some part := by
        rw [← List.head?_drop, left, List.head?_cons]
      have next : parts.drop (memory.turn + 1) = rest := by
        rw [← List.tail_drop, left, List.tail_cons]
      simp only [Matcher.nextPart, List.getElem?_map, here, Option.map_some, Step.move,
        Matcher.yields_call_iff, follows_cons_iff]
      refine exists_congr fun answer => and_congr_right fun _ => ?_
      cases answer with
      | success span value => exact induction next
      | failure message span => exact Matcher.yields_done_iff

section Repetition

variable {bounds : Bounds} {item separator : κ} {result : Match (Value ω)}

theorem repeats_of_yields {memory : Memory ω}
    (yields : (Matcher.repeated bounds (child item)).Yields input reply position answers
      ((Matcher.nextRound bounds (child item) memory : Step ω ρ).move reply) result) :
    Repeats (fun each => answers (child each).id) bounds (child item).description item
      memory.turn memory.values memory.span result := by
  generalize isMove : (Matcher.nextRound bounds (child item) memory : Step ω ρ).move reply =
    move at yields
  induction yields generalizing memory with
  | done result =>
      simp only [Matcher.nextRound] at isMove
      split at isMove
      next full =>
        cases isMove
        exact .full full
      next => cases isMove
  | @call node place paused answer result answered rest induction =>
      simp only [Matcher.nextRound] at isMove
      split at isMove
      next => cases isMove
      next notFull =>
        cases isMove
        have room := Bool.eq_false_iff.mpr notFull
        cases answer with
        | failure message failed =>
            rw [Matcher.yields_done_iff.mp rest]
            exact .failed room answered
        | success next value =>
            by_cases empty : next.isEmpty = true
            · simp only [Matcher.repeated, if_pos empty] at rest
              rw [Matcher.yields_done_iff.mp rest]
              exact .empty room answered empty
            · refine .again room answered (Bool.eq_false_iff.mpr empty) ?_
              refine @induction ⟨_, paused.span.join next, _, none⟩ ?_
              simp only [Matcher.repeated, if_neg empty]

theorem yields_of_repeats {count : Nat} {values : List (Value ω)} {span : Span}
    (repeats : Repeats (fun each => answers (child each).id) bounds (child item).description
      item count values span result) (aside : Option (Match (Value ω))) :
    (Matcher.repeated bounds (child item)).Yields input reply position answers
      ((Matcher.nextRound bounds (child item) ⟨count, span, values, aside⟩ :
        Step ω ρ).move reply) result := by
  induction repeats generalizing aside with
  | full full =>
      simp only [Matcher.nextRound, if_pos full]
      exact .done _
  | failed room answered =>
      simp only [Matcher.nextRound, room]
      exact .call answered (.done _)
  | empty room answered empty =>
      simp only [Matcher.nextRound, room]
      refine .call answered ?_
      simp only [Matcher.repeated, if_pos empty]
      exact .done _
  | again room answered nonempty _ induction =>
      simp only [Matcher.nextRound, room]
      refine .call answered ?_
      simp only [Matcher.repeated, nonempty]
      exact induction none

theorem valuesAfter_separator (count : Nat) : valuesAfter (2 * count + 1) = count + 1 := by
  unfold valuesAfter
  omega

theorem valuesAfter_item (count : Nat) : valuesAfter (2 * count + 2) = count + 1 := by
  unfold valuesAfter
  omega

/-- The move of a separated list that has just got its last item. -/
theorem move_nextSeparator (bounds : Bounds) (first second : Child) (count : Nat) (span : Span)
    (values : List (Value ω)) :
    (Matcher.nextSeparator bounds first second ⟨2 * count + 1, span, values, none⟩ :
        Step ω ρ).move reply =
      if bounds.full (count + 1) then
        .done (bounds.finish first.description (count + 1) values span none)
      else .call second.id span.stop ⟨2 * count + 1, span, values, none⟩ := by
  simp only [Matcher.nextSeparator, valuesAfter_separator]
  split <;> rfl

theorem move_resume_separator (count : Nat) (span : Span) (values : List (Value ω))
    (answer : Match (Value ω)) :
    ((Matcher.separated bounds (child item) (child separator) : Matcher ω ρ).resume input
        position ⟨2 * count + 1, span, values, none⟩ answer).move reply =
      match answer with
      | .success between _ =>
        .call (child item).id between.stop ⟨2 * count + 2, span, values, some answer⟩
      | .failure .. =>
        .done (bounds.finish (child item).description (count + 1) values span none) := by
  have odd : (2 * count + 1) % 2 = 1 := by omega
  simp only [Matcher.separated, valuesAfter_separator, if_pos odd]
  cases answer <;> rfl

theorem move_resume_item (count : Nat) (span between : Span) (skipped : Value ω)
    (values : List (Value ω)) (answer : Match (Value ω)) :
    ((Matcher.separated bounds (child item) (child separator) : Matcher ω ρ).resume input
        position ⟨2 * count + 2, span, values, some (.success between skipped)⟩ answer).move
          reply =
      match answer with
      | .success next value =>
        if between.isEmpty && next.isEmpty then
          .done (bounds.finish (child item).description (count + 1 + 1) (value :: values)
            (span.join next) none)
        else
          (Matcher.nextSeparator bounds (child item) (child separator)
            ⟨2 * (count + 1) + 1, span.join next, value :: values, none⟩ : Step ω ρ).move reply
      | .failure _ failed =>
        .done (bounds.finish (child item).description (count + 1) values span (some failed)) := by
  have even : ¬(2 * count + 2) % 2 = 1 := by omega
  simp only [Matcher.separated, valuesAfter_item, if_neg even]
  cases answer with
  | failure message failed => rfl
  | success next value =>
      cases empty : between.isEmpty && next.isEmpty with
      | true => simp only [Match.span, empty, if_true, Step.move]
      | false =>
          simp only [Match.span, empty, Bool.false_eq_true, if_false]
          rfl

theorem separates_of_yields {move : Move ω}
    (yields : (Matcher.separated bounds (child item) (child separator)).Yields input reply
      position answers move result) :
    (∀ count values span,
      move = (Matcher.nextSeparator bounds (child item) (child separator)
        ⟨2 * count + 1, span, values, none⟩ : Step ω ρ).move reply →
      Separates (fun each => answers (child each).id) bounds (child item).description item
        separator (count + 1) values span result) ∧
    (∀ count values span between skipped, bounds.full (count + 1) = false →
      answers (child separator).id span.stop (.success between skipped) →
      move = .call (child item).id between.stop
        ⟨2 * count + 2, span, values, some (.success between skipped)⟩ →
      Separates (fun each => answers (child each).id) bounds (child item).description item
        separator (count + 1) values span result) := by
  induction yields with
  | done result =>
      refine ⟨fun count values span isMove => ?_, nofun⟩
      rw [move_nextSeparator] at isMove
      split at isMove
      next full =>
        cases isMove
        exact .full full
      next => cases isMove
  | @call node place memory answer result answered rest induction =>
      obtain ⟨afterItem, afterSeparator⟩ := induction
      constructor
      · intro count values span isMove
        rw [move_nextSeparator] at isMove
        split at isMove
        next => cases isMove
        next notFull =>
          cases isMove
          have room := Bool.eq_false_iff.mpr notFull
          have resumed := @move_resume_separator κ ω ρ input reply position child bounds item
            separator count span values answer
          cases answer with
          | failure message failed =>
              rw [resumed] at rest
              rw [Matcher.yields_done_iff.mp rest]
              exact .noSeparator room answered
          | success between skipped =>
              exact afterSeparator count values span between skipped room answered resumed
      · intro count values span between skipped room separated isMove
        cases isMove
        have resumed := @move_resume_item κ ω ρ input reply position child bounds item
          separator count span between skipped values answer
        cases answer with
        | failure message failed =>
            rw [resumed] at rest
            rw [Matcher.yields_done_iff.mp rest]
            exact .noItem room separated answered
        | success next value =>
            simp only at resumed
            by_cases empty : (between.isEmpty && next.isEmpty) = true
            · rw [if_pos empty] at resumed
              rw [resumed] at rest
              rw [Matcher.yields_done_iff.mp rest]
              exact .empty room separated answered empty
            · rw [if_neg empty] at resumed
              exact .again room separated answered (Bool.eq_false_iff.mpr empty)
                (afterItem (count + 1) (value :: values) (span.join next) resumed)

theorem yields_of_separates {values : List (Value ω)} {span : Span} {next : Nat}
    (separates : Separates (fun each => answers (child each).id) bounds (child item).description
      item separator next values span result) (count : Nat) (isNext : next = count + 1) :
    (Matcher.separated bounds (child item) (child separator)).Yields input reply position answers
      ((Matcher.nextSeparator bounds (child item) (child separator)
        ⟨2 * count + 1, span, values, none⟩ : Step ω ρ).move reply) result := by
  induction separates generalizing count with
  | full full =>
      subst isNext
      rw [move_nextSeparator, if_pos full]
      exact .done _
  | noSeparator room failed =>
      subst isNext
      rw [move_nextSeparator, room]
      refine .call failed ?_
      rw [move_resume_separator]
      exact .done _
  | noItem room separated failed =>
      subst isNext
      rw [move_nextSeparator, room]
      refine .call separated ?_
      rw [move_resume_separator]
      refine .call failed ?_
      rw [move_resume_item]
      exact .done _
  | empty room separated answered empty =>
      subst isNext
      rw [move_nextSeparator, room]
      refine .call separated ?_
      rw [move_resume_separator]
      refine .call answered ?_
      rw [move_resume_item]
      simp only [empty]
      exact .done _
  | again room separated answered nonempty _ induction =>
      subst isNext
      rw [move_nextSeparator, room]
      refine .call separated ?_
      rw [move_resume_separator]
      refine .call answered ?_
      rw [move_resume_item]
      simp only [nonempty]
      exact induction (count + 1) rfl

theorem yields_separated_iff {result : Match (Value ω)} :
    (Matcher.separated bounds (child item) (child separator)).Yields input reply position answers
        (((Matcher.separated bounds (child item) (child separator)).start input position).move
          reply) result ↔
      (Plan.separated bounds item separator : Plan κ ω ρ).Gives input reply
        (fun each => (child each).description) (fun each => answers (child each).id) position
        result := by
  have starts : ((Matcher.separated bounds (child item) (child separator) :
      Matcher ω ρ).start input position).move reply =
        if bounds.full 0 then
          .done (bounds.finish (child item).description 0 [] (.point position) none)
        else .call (child item).id position (.start position) := by
    simp only [Matcher.separated]
    split <;> rfl
  have resumes : ∀ answer, ((Matcher.separated bounds (child item) (child separator) :
      Matcher ω ρ).resume input position (.start position) answer).move reply =
        match answer with
        | .success span value =>
          (Matcher.nextSeparator bounds (child item) (child separator)
            ⟨2 * 0 + 1, span, [value], none⟩ : Step ω ρ).move reply
        | .failure _ failed =>
          .done (bounds.finish (child item).description 0 [] (.point position) (some failed)) := by
    intro answer
    cases answer with
    | success span value => rfl
    | failure message failed =>
        simp [Matcher.separated, Memory.start, valuesAfter, Step.move]
  rw [starts]
  by_cases full : bounds.full 0 = true
  · rw [if_pos full, Matcher.yields_done_iff]
    constructor
    · rintro rfl
      exact .noItems full
    · intro gives
      cases gives with
      | noItems => rfl
      | noFirstItem room => rw [full] at room; cases room
      | separated room => rw [full] at room; cases room
  · rw [if_neg full, Matcher.yields_call_iff]
    have room := Bool.eq_false_iff.mpr full
    constructor
    · rintro ⟨answer, answered, rest⟩
      rw [resumes] at rest
      cases answer with
      | failure message failed =>
          rw [Matcher.yields_done_iff.mp rest]
          exact .noFirstItem room answered
      | success span value =>
          exact .separated room answered ((separates_of_yields rest).1 0 [value] span rfl)
    · intro gives
      cases gives with
      | noItems full => exact absurd full (Bool.eq_false_iff.mp room)
      | noFirstItem _ answered =>
          refine ⟨_, answered, ?_⟩
          rw [resumes]
          exact .done _
      | separated _ answered separates =>
          refine ⟨_, answered, ?_⟩
          rw [resumes]
          exact yields_of_separates separates 0 rfl

end Repetition

theorem yields_pair_iff {first second : κ} {combine : Combine ω ρ} {result : Match (Value ω)} :
    (Matcher.pair (child first).id (child second).id combine).Yields input reply position answers
        (((Matcher.pair (child first).id (child second).id combine).start input position).move
          reply) result ↔
      (Plan.pair first second combine : Plan κ ω ρ).Gives input reply
        (fun each => (child each).description) (fun each => answers (child each).id) position
        result := by
  have finishes : ∀ left a right b,
      ((Matcher.pair (child first).id (child second).id combine : Matcher ω ρ).resume input
        position ⟨1, left, [a], none⟩ (.success right b)).move reply =
      .done (.ofVerdict rejected (left.join right) ((combine a b).outcome reply)) := by
    intro left a right b
    simp only [Matcher.pair, Act.move_toStep]
    cases (combine a b).outcome reply <;> rfl
  refine Matcher.yields_call_iff.trans ?_
  constructor
  · rintro ⟨answer, answered, rest⟩
    cases answer with
    | failure message span =>
        rw [Matcher.yields_done_iff.mp rest]
        exact .noFirst answered
    | success left a =>
        obtain ⟨other, otherAnswered, final⟩ := Matcher.yields_call_iff.mp rest
        cases other with
        | failure message span =>
            rw [Matcher.yields_done_iff.mp final]
            exact .noSecond answered otherAnswered
        | success right b =>
            rw [finishes] at final
            rw [Matcher.yields_done_iff.mp final]
            exact .pair answered otherAnswered
  · intro gives
    cases gives with
    | noFirst answered => exact ⟨_, answered, .done _⟩
    | noSecond answered otherAnswered =>
        exact ⟨_, answered, .call otherAnswered (.done _)⟩
    | pair answered otherAnswered =>
        refine ⟨_, answered, .call otherAnswered ?_⟩
        rw [finishes]
        exact .done _

theorem yields_transform_iff {body : κ} {message : String} {f : Transform ω ρ}
    {result : Match (Value ω)} :
    (Matcher.transform (child body).id message f).Yields input reply position answers
        (((Matcher.transform (child body).id message f).start input position).move reply)
        result ↔
      (Plan.transform body message f : Plan κ ω ρ).Gives input reply
        (fun each => (child each).description) (fun each => answers (child each).id) position
        result := by
  have finishes : ∀ memory span value,
      ((Matcher.transform (child body).id message f : Matcher ω ρ).resume input position memory
        (.success span value)).move reply =
      .done (.ofVerdict message span ((f value span).outcome reply)) := by
    intro memory span value
    simp only [Matcher.transform, Matcher.ofAnswer, Act.move_toStep]
    cases (f value span).outcome reply <;> rfl
  refine Matcher.yields_call_iff.trans ?_
  constructor
  · rintro ⟨answer, answered, rest⟩
    cases answer with
    | success span value =>
        rw [finishes] at rest
        rw [Matcher.yields_done_iff.mp rest]
        exact .transform answered
    | failure message span =>
        rw [Matcher.yields_done_iff.mp rest]
        exact .nothing answered
  · intro gives
    cases gives with
    | transform answered =>
        refine ⟨_, answered, ?_⟩
        rw [finishes]
        exact .done _
    | nothing answered => exact ⟨_, answered, .done _⟩

/-- What the matcher of a plan comes to is what the plan gives. -/
theorem yields_iff {plan : Plan κ ω ρ} {result : Match (Value ω)} :
    (plan.map child).matcher.Yields input reply position answers
        (((plan.map child).matcher.start input position).move reply) result ↔
      plan.Gives input reply (fun each => (child each).description)
        (fun each => answers (child each).id) position result := by
  cases plan with
  | leaf attempt =>
      refine Matcher.yields_done_iff.trans ⟨?_, ?_⟩
      · rintro rfl
        exact .leaf attempt
      · intro gives
        cases gives
        rfl
  | choice alternatives =>
      refine (@yields_choice_iff _ _ _ _ _ _ _ _ _ _ (.start position) _ rfl).trans ⟨.choice, ?_⟩
      intro gives
      cases gives with
      | choice chooses => exact chooses
  | optional body wrap default =>
      refine Matcher.yields_ofAnswer_iff.trans ⟨?_, ?_⟩
      · rintro ⟨answer, answered, rest⟩
        cases answer with
        | success span value =>
            rw [Matcher.yields_done_iff.mp rest]
            exact .present answered
        | failure message span =>
            rw [Matcher.yields_done_iff.mp rest]
            exact .absent answered
      · intro gives
        cases gives with
        | present answered => exact ⟨_, answered, .done _⟩
        | absent answered => exact ⟨_, answered, .done _⟩
  | ahead body =>
      refine Matcher.yields_ofAnswer_iff.trans ⟨?_, ?_⟩
      · rintro ⟨answer, answered, rest⟩
        rw [Matcher.yields_done_iff.mp rest]
        exact .ahead answered
      · intro gives
        cases gives with
        | ahead answered => exact ⟨_, answered, .done _⟩
  | notAhead body =>
      refine Matcher.yields_ofAnswer_iff.trans ⟨?_, ?_⟩
      · rintro ⟨answer, answered, rest⟩
        by_cases succeeded : answer.isSuccess = true
        · simp only [if_pos succeeded] at rest
          rw [Matcher.yields_done_iff.mp rest]
          exact .unexpected answered succeeded
        · simp only [if_neg succeeded] at rest
          rw [Matcher.yields_done_iff.mp rest]
          exact .notAhead answered (Bool.eq_false_iff.mpr succeeded)
      · intro gives
        cases gives with
        | unexpected answered succeeded =>
            refine ⟨_, answered, ?_⟩
            simp only [if_pos succeeded]
            exact .done _
        | notAhead answered failed =>
            refine ⟨_, answered, ?_⟩
            simp only [failed]
            exact .done _
  | repeated bounds body =>
      constructor
      · intro yields
        exact .repeated (repeats_of_yields yields)
      · intro gives
        cases gives with
        | repeated repeats => exact yields_of_repeats repeats none
  | separated bounds item separator => exact yields_separated_iff
  | pair first second combine => exact yields_pair_iff
  | sequence parts =>
      refine (@yields_sequence_iff _ _ _ _ _ _ _ _ _ _ (.start position) _ rfl).trans
        ⟨.sequence, ?_⟩
      intro gives
      cases gives with
      | sequence follows => exact follows
  | transform body message f => exact yields_transform_iff
  | onFail body message =>
      refine Matcher.yields_ofAnswer_iff.trans ⟨?_, ?_⟩
      · rintro ⟨answer, answered, rest⟩
        cases answer with
        | success span value =>
            rw [Matcher.yields_done_iff.mp rest]
            exact .matched answered
        | failure reason span =>
            rw [Matcher.yields_done_iff.mp rest]
            exact .onFail answered
      · intro gives
        cases gives with
        | matched answered => exact ⟨_, answered, .done _⟩
        | onFail answered => exact ⟨_, answered, .done _⟩

end Plan

end Packrat
