import Packrat.Proofs.Combinator.Adequacy
import Packrat.Proofs.Combinator.Extent

/-!
# How often matchers call

A matcher of the library's own calls only so often before it has a match, as long as the
matches that its calls are answered with lie inside the input.  A choice or a row calls
each part once.  A repetition goes on only where something was consumed, so the rest of
the input bounds it; a separated list makes two calls for each item.
-/

namespace Packrat

variable {κ ω ρ : Type}

namespace Matcher

/-- From a step on, a matcher comes to a match inside the input after so many calls at
most, whatever calls are answered with inside the input and whatever requests are.  It
calls allowed nodes only, at positions from its own on. -/
inductive Runs (matcher : Matcher ω ρ) (allowed : NodeId → Prop) (input : Input ω)
    (position : Nat) : Nat → Step ω ρ → Prop where
  | done {calls : Nat} {result : Match (Value ω)} :
      result.Inside position input.length →
      Runs matcher allowed input position calls (.done result)
  | call {calls : Nat} {node : NodeId} {place : Nat} {memory : Memory ω} :
      allowed node → position ≤ place → place ≤ input.length →
      (∀ answer, answer.Inside place input.length →
        Runs matcher allowed input position calls
          (matcher.resume input position memory answer)) →
      Runs matcher allowed input position (calls + 1) (.call node place memory)
  | ask {calls : Nat} {request : ρ} {next : Answer ω → Step ω ρ} :
      (∀ answer, Runs matcher allowed input position calls (next answer)) →
      Runs matcher allowed input position calls (.ask request next)

variable {matcher : Matcher ω ρ} {allowed : NodeId → Prop} {input : Input ω} {position : Nat}

theorem Runs.mono {calls more : Nat} {step : Step ω ρ} (enough : calls ≤ more)
    (runs : matcher.Runs allowed input position calls step) :
    matcher.Runs allowed input position more step := by
  induction runs generalizing more with
  | done inside => exact .done inside
  | call isAllowed after before _ induction =>
      obtain ⟨rest, rfl⟩ := Nat.exists_eq_add_of_le enough
      rw [Nat.add_right_comm]
      exact .call isAllowed after before fun answer answered =>
        induction answer answered (Nat.le_add_right ..)
  | ask _ induction => exact .ask fun answer => induction answer enough

/-- A caller's function only puts requests before its result. -/
theorem runs_toStep {α : Type} {calls : Nat} {act : Act ω ρ α} {next : α → Step ω ρ}
    (runs : ∀ value, matcher.Runs allowed input position calls (next value)) :
    matcher.Runs allowed input position calls (act.toStep next) := by
  induction act with
  | result value => exact runs value
  | ask request wait induction => exact .ask induction

theorem runs_verdict {calls : Nat} {span : Span} (starts : span.start = position)
    (stops : span.stop ≤ input.length) (message : String) (act : Act ω ρ (Option (Value ω))) :
    matcher.Runs allowed input position calls
      (act.toStep fun verdict =>
        match verdict with
        | some value => .done (.success span value)
        | none => .done (.failure message span)) := by
  refine runs_toStep fun verdict => ?_
  cases verdict with
  | some value => exact .done (Match.inside_success starts stops)
  | none => exact .done (Match.inside_failure (Nat.le_of_eq starts.symm) stops)

/-- A matcher that goes by one answer makes one call. -/
theorem runs_ofAnswer {node : NodeId} {next : Nat → Match (Value ω) → Step ω ρ}
    (isAllowed : allowed node) (inside : position ≤ input.length)
    (runs : ∀ answer, answer.Inside position input.length →
      (ofAnswer node next).Runs allowed input position 0 (next position answer)) :
    (ofAnswer node next).Runs allowed input position 1
      ((ofAnswer node next).start input position) :=
  .call isAllowed (Nat.le_refl position) inside runs

theorem resume_choice (alternatives : List NodeId) (input : Input ω) (position : Nat)
    (memory : Memory ω) (answer : Match (Value ω)) :
    (choice alternatives : Matcher ω ρ).resume input position memory answer =
      if answer.isSuccess then .done answer
      else tryFrom alternatives position
        { memory with
          turn := memory.turn + 1
          aside := some (Match.better memory.aside answer) } := by
  cases aside : memory.aside <;> simp [choice, aside, Match.better]

theorem runs_choice {alternatives : List NodeId} (isAllowed : ∀ node ∈ alternatives, allowed node)
    (inside : position ≤ input.length) {calls : Nat} {memory : Memory ω}
    (enough : alternatives.length ≤ memory.turn + calls)
    (best : ∀ m, memory.aside = some m → m.Inside position input.length) :
    (choice alternatives : Matcher ω ρ).Runs allowed input position calls
      (tryFrom alternatives position memory) := by
  have gaveUp : (memory.aside.getD (.failure "no alternatives" (.point position))).Inside
      position input.length := by
    cases aside : memory.aside with
    | none => exact Match.inside_failure_point (Nat.le_refl position) inside
    | some m => exact best m aside
  induction calls generalizing memory with
  | zero =>
      have past : alternatives[memory.turn]? = none := List.getElem?_eq_none enough
      unfold tryFrom
      rw [past]
      exact .done gaveUp
  | succ calls induction =>
      unfold tryFrom
      split
      next alternative there =>
        refine .call (isAllowed _ (List.mem_of_getElem? there)) (Nat.le_refl position) inside
          fun answer answered => ?_
        rw [resume_choice]
        split
        next => exact .done answered
        next =>
          have better : (Match.better memory.aside answer).Inside position input.length := by
            cases aside : memory.aside with
            | none => exact answered
            | some m => exact (best m aside).farther answered
          apply induction
          · simp only
            omega
          · rintro m ⟨⟩
            exact better
          · exact better
      next => exact .done gaveUp

theorem runs_sequence {parts : List NodeId} (isAllowed : ∀ node ∈ parts, allowed node)
    {calls : Nat} {memory : Memory ω} (enough : parts.length ≤ memory.turn + calls)
    (starts : memory.span.start = position) (stops : memory.span.stop ≤ input.length) :
    (sequence parts : Matcher ω ρ).Runs allowed input position calls (nextPart parts memory) := by
  induction calls generalizing memory with
  | zero =>
      have past : parts[memory.turn]? = none := List.getElem?_eq_none enough
      unfold nextPart
      rw [past]
      exact .done (Match.inside_success starts stops)
  | succ calls induction =>
      have ordered := memory.span.ordered
      unfold nextPart
      split
      next part there =>
        refine .call (isAllowed _ (List.mem_of_getElem? there)) (starts ▸ ordered) stops
          fun answer answered => ?_
        cases answer with
        | success span value =>
            obtain ⟨joinStarts, joinStops⟩ := Span.join_of_meet answered.start_eq.symm
            apply induction
            · simp only
              omega
            · exact joinStarts.trans starts
            · exact joinStops ▸ answered.stops
        | failure message span => exact .done (answered.earlier (starts ▸ ordered))
      next => exact .done (Match.inside_success starts stops)

theorem runs_pair {first second : NodeId} {combine : Combine ω ρ} (isAllowed : allowed first)
    (otherAllowed : allowed second) (inside : position ≤ input.length) :
    (pair first second combine).Runs allowed input position 2
      ((pair first second combine).start input position) := by
  refine .call isAllowed (Nat.le_refl position) inside fun answer answered => ?_
  cases answer with
  | failure message span => exact .done answered
  | success left a =>
      have starts := answered.start_eq
      have ordered := left.ordered
      refine .call otherAllowed (starts ▸ ordered) answered.stops fun other otherAnswered => ?_
      cases other with
      | failure message span => exact .done (otherAnswered.earlier (starts ▸ ordered))
      | success right b =>
          obtain ⟨joinStarts, joinStops⟩ := Span.join_of_meet otherAnswered.start_eq.symm
          exact runs_verdict (joinStarts.trans starts) (joinStops ▸ otherAnswered.stops) _ _

theorem resume_repeated_success (bounds : Bounds) (child : Child) (input : Input ω)
    (position : Nat) (memory : Memory ω) (next : Span) (value : Value ω) :
    (repeated bounds child : Matcher ω ρ).resume input position memory (.success next value) =
      if next.isEmpty then
        .done (bounds.finish child.description (memory.turn + 1) (value :: memory.values)
          (memory.span.join next) none)
      else nextRound bounds child
        ⟨memory.turn + 1, memory.span.join next, value :: memory.values, none⟩ := rfl

theorem runs_repeated {bounds : Bounds} {child : Child} (isAllowed : allowed child.id)
    {calls : Nat} {memory : Memory ω} (enough : input.length < memory.span.stop + calls)
    (starts : memory.span.start = position) (stops : memory.span.stop ≤ input.length) :
    (repeated bounds child : Matcher ω ρ).Runs allowed input position calls
      (nextRound bounds child memory) := by
  induction calls generalizing memory with
  | zero => omega
  | succ calls induction =>
      have ordered := memory.span.ordered
      unfold nextRound
      split
      next => exact .done (bounds.inside_finish _ _ _ starts stops nofun)
      next =>
        refine .call isAllowed (starts ▸ ordered) stops fun answer answered => ?_
        cases answer with
        | failure message failed =>
            refine .done (bounds.inside_finish _ _ _ starts stops ?_)
            rintro place ⟨⟩
            exact answered.stops
        | success next value =>
            obtain ⟨joinStarts, joinStops⟩ := Span.join_of_meet answered.start_eq.symm
            have consumed := answered.start_eq
            have nextStops : next.stop ≤ input.length := answered.stops
            have nextOrdered := next.ordered
            rw [resume_repeated_success]
            split
            next =>
              exact .done (bounds.inside_finish _ _ _ (joinStarts.trans starts)
                (joinStops ▸ nextStops) nofun)
            next notEmpty =>
              have := mt Span.isEmpty_iff.mpr notEmpty
              apply induction
              · simp only [joinStops]
                omega
              · exact joinStarts.trans starts
              · exact joinStops ▸ nextStops

section Separated

variable {bounds : Bounds} {item separator : Child}

theorem start_separated (input : Input ω) (position : Nat) :
    (separated bounds item separator : Matcher ω ρ).start input position =
      if bounds.full 0 then .done (bounds.finish item.description 0 [] (.point position) none)
      else .call item.id position (.start position) := rfl

theorem resume_separator {memory : Memory ω} (odd : memory.turn % 2 = 1) (input : Input ω)
    (position : Nat) (answer : Match (Value ω)) :
    (separated bounds item separator : Matcher ω ρ).resume input position memory answer =
      match answer with
      | .success between _ =>
        .call item.id between.stop { memory with turn := memory.turn + 1, aside := some answer }
      | .failure .. =>
        .done (bounds.finish item.description (valuesAfter memory.turn) memory.values memory.span
          none) := by
  cases answer <;> simp [separated, odd]

theorem resume_first_item {memory : Memory ω} (even : memory.turn % 2 = 0)
    (first : memory.aside = none) (input : Input ω) (position : Nat)
    (answer : Match (Value ω)) :
    (separated bounds item separator : Matcher ω ρ).resume input position memory answer =
      match answer with
      | .success span value =>
        nextSeparator bounds item separator ⟨memory.turn + 1, span, [value], none⟩
      | .failure _ failed =>
        .done (bounds.finish item.description (valuesAfter memory.turn) memory.values memory.span
          (some failed)) := by
  cases answer <;> simp [separated, even, first]

theorem resume_item {memory : Memory ω} (even : memory.turn % 2 = 0) {between : Span}
    {skipped : Value ω} (before : memory.aside = some (.success between skipped))
    (input : Input ω) (position : Nat) (answer : Match (Value ω)) :
    (separated bounds item separator : Matcher ω ρ).resume input position memory answer =
      match answer with
      | .success next value =>
        if between.isEmpty && next.isEmpty then
          .done (bounds.finish item.description (valuesAfter memory.turn + 1)
            (value :: memory.values) (memory.span.join next) none)
        else nextSeparator bounds item separator
          ⟨memory.turn + 1, memory.span.join next, value :: memory.values, none⟩
      | .failure _ failed =>
        .done (bounds.finish item.description (valuesAfter memory.turn) memory.values memory.span
          (some failed)) := by
  cases answer <;> simp [separated, even, before, Match.span]

/-- A list of items makes two calls for each item, which do not both consume nothing if the
list goes on. -/
theorem runs_round (itemAllowed : allowed item.id) (separatorAllowed : allowed separator.id)
    {calls : Nat} {memory : Memory ω} (odd : memory.turn % 2 = 1)
    (starts : memory.span.start = position) (stops : memory.span.stop ≤ input.length)
    (onward : ∀ later : Memory ω, memory.span.stop < later.span.stop →
      later.span.stop ≤ input.length → later.turn % 2 = 1 → later.span.start = position →
      (separated bounds item separator : Matcher ω ρ).Runs allowed input position calls
        (nextSeparator bounds item separator later)) :
    (separated bounds item separator : Matcher ω ρ).Runs allowed input position (calls + 2)
      (nextSeparator bounds item separator memory) := by
  have ordered := memory.span.ordered
  unfold nextSeparator
  dsimp only
  split
  next => exact .done (bounds.inside_finish _ _ _ starts stops nofun)
  next =>
    refine .call separatorAllowed (starts ▸ ordered) stops fun answer answered => ?_
    rw [resume_separator odd]
    cases answer with
    | failure message failed => exact .done (bounds.inside_finish _ _ _ starts stops nofun)
    | success between skipped =>
        have meets := answered.start_eq
        have betweenOrdered := between.ordered
        refine .call itemAllowed (by omega) answered.stops fun answer itemAnswered => ?_
        rw [resume_item (by simp only; omega) rfl]
        cases answer with
        | failure message failed =>
            refine .done (bounds.inside_finish _ _ _ starts stops ?_)
            rintro place ⟨⟩
            exact itemAnswered.stops
        | success next value =>
            have nextMeets := itemAnswered.start_eq
            have nextOrdered := next.ordered
            have nextStops : next.stop ≤ input.length := itemAnswered.stops
            have joinStarts : (memory.span.join next).start = position := by
              simp only [Span.join, Span.start_between]
              omega
            have joinStops : (memory.span.join next).stop = next.stop := by
              simp only [Span.join, Span.stop_between]
              omega
            dsimp only
            split
            next =>
              exact .done (bounds.inside_finish _ _ _ joinStarts (joinStops ▸ nextStops) nofun)
            next consumed =>
              rw [Bool.and_eq_true, Span.isEmpty_iff, Span.isEmpty_iff] at consumed
              apply onward
              · simp only [joinStops]
                omega
              · exact joinStops ▸ nextStops
              · simp only
                omega
              · exact joinStarts

theorem runs_nextSeparator (itemAllowed : allowed item.id)
    (separatorAllowed : allowed separator.id) {rest : Nat} {memory : Memory ω}
    (enough : input.length ≤ memory.span.stop + rest) (odd : memory.turn % 2 = 1)
    (starts : memory.span.start = position) (stops : memory.span.stop ≤ input.length) :
    (separated bounds item separator : Matcher ω ρ).Runs allowed input position (2 * rest + 2)
      (nextSeparator bounds item separator memory) := by
  induction rest generalizing memory with
  | zero =>
      refine runs_round itemAllowed separatorAllowed odd starts stops ?_
      intro later further inside
      omega
  | succ rest induction =>
      refine runs_round itemAllowed separatorAllowed odd starts stops ?_
      intro later further inside laterOdd laterStarts
      exact induction (by omega) laterOdd laterStarts inside

theorem runs_separated (itemAllowed : allowed item.id) (separatorAllowed : allowed separator.id)
    (inside : position ≤ input.length) :
    (separated bounds item separator : Matcher ω ρ).Runs allowed input position
      (2 * input.length + 3)
      ((separated bounds item separator : Matcher ω ρ).start input position) := by
  rw [start_separated]
  split
  next => exact .done (bounds.inside_finish _ _ _ rfl inside nofun)
  next =>
    refine .call itemAllowed (Nat.le_refl position) inside fun answer answered => ?_
    rw [resume_first_item rfl rfl]
    cases answer with
    | failure message failed =>
        refine .done (bounds.inside_finish _ _ _ rfl inside ?_)
        rintro place ⟨⟩
        exact answered.stops
    | success span value =>
        exact runs_nextSeparator itemAllowed separatorAllowed (Nat.le_add_left ..) rfl
          answered.start_eq answered.stops

end Separated

end Matcher

namespace Plan

/-- How many calls a plan makes at most on an input of some length. -/
def calls (length : Nat) : Plan κ ω ρ → Nat
  | leaf _ => 0
  | choice alternatives => alternatives.length
  | repeated _ _ => length + 1
  | separated _ _ _ => 2 * length + 3
  | pair _ _ _ => 2
  | sequence parts => parts.length
  | _ => 1

/-- A plan is carried out with so many calls of its children, and gives a match inside the
input. -/
theorem runs_matcher {allowed : NodeId → Prop} {child : κ → Child}
    (isAllowed : ∀ each, allowed (child each).id) {plan : Plan κ ω ρ} (keeps : plan.Keeps)
    {input : Input ω} {position : Nat} (inside : position ≤ input.length) :
    (plan.map child).matcher.Runs allowed input position (plan.calls input.length)
      ((plan.map child).matcher.start input position) := by
  have members : ∀ list : List κ, ∀ node ∈ (list.map child).map Child.id, allowed node := by
    intro list node member
    rw [List.map_map] at member
    obtain ⟨each, _, rfl⟩ := List.mem_map.mp member
    exact isAllowed each
  cases plan with
  | leaf attempt => exact .done (keeps input position inside)
  | choice alternatives =>
      refine Matcher.runs_choice (members _) inside ?_ nofun
      simp [Memory.start, calls]
  | sequence parts =>
      refine Matcher.runs_sequence (members _) ?_ rfl inside
      simp [Memory.start, calls]
  | repeated bounds body =>
      refine Matcher.runs_repeated (isAllowed _) ?_ rfl inside
      simp only [Memory.start, Span.stop_point, calls]
      omega
  | separated bounds item separator =>
      exact Matcher.runs_separated (isAllowed _) (isAllowed _) inside
  | pair first second combine => exact Matcher.runs_pair (isAllowed _) (isAllowed _) inside
  | optional body wrap default =>
      refine Matcher.runs_ofAnswer (isAllowed _) inside fun answer answered => ?_
      cases answer with
      | success span value => exact .done (Match.inside_success answered.start_eq answered.stops)
      | failure message span => exact .done (Match.inside_success_point inside)
  | ahead body =>
      refine Matcher.runs_ofAnswer (isAllowed _) inside fun answer answered => ?_
      cases answer with
      | success span value => exact .done (Match.inside_success_point inside)
      | failure message span => exact .done (answered.earlier (Nat.le_refl position))
  | notAhead body =>
      refine Matcher.runs_ofAnswer (isAllowed _) inside fun answer answered => ?_
      split
      next => exact .done (Match.inside_failure_point (Nat.le_refl position) inside)
      next => exact .done (Match.inside_success_point inside)
  | transform body message f =>
      refine Matcher.runs_ofAnswer (isAllowed _) inside fun answer answered => ?_
      cases answer with
      | success span value => exact Matcher.runs_verdict answered.start_eq answered.stops _ _
      | failure reason span => exact .done (answered.earlier (Nat.le_refl position))
  | onFail body message =>
      refine Matcher.runs_ofAnswer (isAllowed _) inside fun answer answered => ?_
      cases answer with
      | success span value => exact .done (Match.inside_success answered.start_eq answered.stops)
      | failure reason span => exact .done (Match.inside_failure answered.starts answered.stops)

end Plan

end Packrat
