import Packrat.Proofs.Combinator.Ranges

/-!
# Too few matches

When an attempt to match once more fails and there are too few matches, the failure of a
repetition is anchored as far as the parser got: where the matches end, or where the failed
attempt does, if that is further.  A separated list looks that far only when an item has
failed; a separator that fails leaves it where the items end.
-/

namespace Packrat

variable {ω ρ : Type}

/-- What a match covers that goes on from a span with some matches in a row. -/
def Span.joinAll (span : Span) (found : List (Match (Value ω))) : Span :=
  found.foldl (fun covered m => covered.join m.span) span

/-- What a separated list covers whose items matched so. -/
def spanOfItems (position : Nat) : List (Match (Value ω)) → Span
  | [] => .point position
  | first :: rest => first.span.joinAll rest

/-- What a repetition fails with that has found too few of something and reached a place. -/
def Bounds.tooFew (bounds : Bounds) (description : String) (count reached : Nat) :
    Match (Value ω) :=
  .failure ("expected " ++ bounds.inWords ++ " of " ++ description ++ ", found " ++ count.repr)
    (.point reached)

theorem Bounds.finish_eq_tooFew {bounds : Bounds} {count : Nat}
    (forbids : bounds.allows count = false) (description : String) (values : List (Value ω))
    (span failed : Span) :
    bounds.finish description count values span none =
        bounds.tooFew description count span.stop ∧
      bounds.finish description count values span (some failed) =
        bounds.tooFew description count (max span.stop failed.stop) := by
  simp [finish, tooFew, forbids, Nat.max_comm]

theorem Span.joinAll_append_singleton (span : Span) (found : List (Match (Value ω)))
    (last : Match (Value ω)) :
    span.joinAll (found ++ [last]) = (span.joinAll found).join last.span := by
  rw [joinAll, List.foldl_append]
  rfl

theorem eq_nil_of_everySecond {α : Type} {items : List α} (none : everySecond items = []) :
    items = [] := by
  match items with
  | [] => rfl
  | [_] => cases none
  | _ :: _ :: _ => cases none

theorem spanOfItems_append_singleton (position : Nat) {found : List (Match (Value ω))}
    (notFirst : found ≠ []) (last : Match (Value ω)) :
    spanOfItems position (found ++ [last]) = (spanOfItems position found).join last.span := by
  cases found with
  | nil => exact absurd rfl notFirst
  | cons first rest => exact first.span.joinAll_append_singleton rest last

/-! ## The last call of an exchange -/

/-- A step that ends, or makes a call and remembers what it should. -/
inductive Step.Remembers (waits : Memory ω → Prop) : Step ω ρ → Prop where
  | done (result : Match (Value ω)) : Remembers waits (.done result)
  | call (node : NodeId) (place : Nat) {memory : Memory ω} :
      waits memory → Remembers waits (.call node place memory)

/-- An exchange in which every answer is asked for comes to what the matcher does with the
last one, given what it remembers of the others. -/
theorem exists_last_of_exchange {matcher : Matcher ω ρ} {input : Input ω}
    {reply : ρ → Answer ω} {position : Nat}
    (waits : List (Match (Value ω)) → Memory ω → Prop)
    (resumes : ∀ past memory answer, waits past memory →
      (matcher.resume input position memory answer).Remembers (waits (past ++ [answer])))
    {past answers : List (Match (Value ω))} {last : Match (Value ω)} {step : Step ω ρ}
    (remembers : step.Remembers (waits past))
    (all : (matcher.exchange input reply position (answers ++ [last])
      (step.move reply)).1.length = answers.length + 1) :
    ∃ memory, waits (past ++ answers) memory ∧
      (matcher.exchange input reply position (answers ++ [last]) (step.move reply)).2 =
        (matcher.exchange input reply position []
          ((matcher.resume input position memory last).move reply)).2 := by
  induction answers generalizing past step with
  | nil =>
      cases remembers with
      | done result => cases all
      | call node place waiting => exact ⟨_, (List.append_nil past).symm ▸ waiting, rfl⟩
  | cons answer answers induction =>
      cases remembers with
      | done result => cases all
      | call node place waiting =>
          obtain ⟨memory, later, ends⟩ :=
            induction (resumes past _ answer waiting) (Nat.succ.inj all)
          rw [List.append_assoc] at later
          exact ⟨memory, later, ends⟩

theorem Step.GoesBy.remembers {bounds : Bounds}
    {made : List (Match (Value ω)) → List (Value ω)}
    {waits : List (Match (Value ω)) → Memory ω → Prop} {past : List (Match (Value ω))}
    {step : Step ω ρ} (goesBy : step.GoesBy bounds made waits past)
    {covers holds : Memory ω → Prop} (covering : step.Remembers covers)
    (both : ∀ memory, waits past memory → covers memory → holds memory) :
    step.Remembers holds := by
  cases goesBy with
  | done => exact .done _
  | call _ waiting =>
      cases covering with
      | call _ _ there => exact .call _ _ (both _ waiting there)

/-! ## Repetitions -/

section Repeated

variable {bounds : Bounds} {child : Child} {input : Input ω} {position : Nat}
  {past : List (Match (Value ω))} {memory : Memory ω}

/-- A repetition remembers its values, and the span of its matches. -/
structure RepeatedHolds (position : Nat) (past : List (Match (Value ω))) (memory : Memory ω) :
    Prop where
  waits : RepeatedWaits past memory
  covers : memory.span = (Span.point position).joinAll past

theorem nextRound_remembers {covered : Span} (covers : memory.span = covered) :
    (Matcher.nextRound bounds child memory : Step ω ρ).Remembers (·.span = covered) := by
  unfold Matcher.nextRound
  split
  next => exact .done _
  next => exact .call _ _ covers

theorem start_repeated_holds (input : Input ω) (position : Nat) :
    ((Matcher.repeated bounds child).start input position : Step ω ρ).Remembers
      (RepeatedHolds position []) := by
  have goesBy : (Matcher.nextRound bounds child (.start position) : Step ω ρ).GoesBy bounds
      valuesOf RepeatedWaits [] := nextRound_goesBy ⟨rfl, rfl⟩
  exact goesBy.remembers (nextRound_remembers rfl) fun _ waits covers => ⟨waits, covers⟩

theorem resume_repeated_holds (holds : RepeatedHolds position past memory)
    (answer : Match (Value ω)) :
    ((Matcher.repeated bounds child).resume input position memory answer : Step ω ρ).Remembers
      (RepeatedHolds position (past ++ [answer])) := by
  have covers : ((Matcher.repeated bounds child).resume input position memory answer :
      Step ω ρ).Remembers (·.span = (Span.point position).joinAll (past ++ [answer])) := by
    cases answer with
    | failure message failed => exact .done _
    | success span value =>
        rw [Matcher.resume_repeated_success, Span.joinAll_append_singleton, ← holds.covers]
        split
        next => exact .done _
        next => exact nextRound_remembers rfl
  exact (resume_repeated_goesBy input position holds.waits answer).remembers covers
    fun _ waits covers => ⟨waits, covers⟩

/-- A repetition whose last attempt failed looks at the failure. -/
theorem exchange_repeated_of_failure {reply : ρ → Answer ω} {message : String} {failed : Span}
    {step : Step ω ρ} (begins : (Matcher.repeated bounds child).start input position = step)
    (all : ((Matcher.repeated bounds child).exchange input reply position
      (past ++ [.failure message failed]) (step.move reply)).1.length = past.length + 1)
    (forbids : bounds.allows (valuesOf past).length = false) :
    ((Matcher.repeated bounds child).exchange input reply position
      (past ++ [.failure message failed]) (step.move reply)).2 =
        some (bounds.tooFew child.description (valuesOf past).length
          (max ((Span.point position).joinAll past).stop failed.stop)) := by
  obtain ⟨memory, holds, ends⟩ := exists_last_of_exchange (RepeatedHolds position)
    (fun _ _ answer holds => resume_repeated_holds holds answer)
    (begins ▸ start_repeated_holds input position) all
  rw [List.nil_append] at holds
  rw [ends, ← holds.waits.2, ← holds.covers]
  rw [← holds.waits.2] at forbids
  exact congrArg some (Bounds.finish_eq_tooFew forbids ..).2

end Repeated

/-! ## Separated lists -/

section Separated

variable {bounds : Bounds} {item separator : Child} {input : Input ω} {position : Nat}
  {past : List (Match (Value ω))} {memory : Memory ω}

/-- A separated list remembers what it waits for, and the span of its items. -/
structure SeparatedHolds (bounds : Bounds) (position : Nat) (past : List (Match (Value ω)))
    (memory : Memory ω) : Prop where
  waits : SeparatedWaits bounds past memory
  begun : past = [] → memory.aside = none
  covers : memory.span = spanOfItems position (everySecond past)

theorem nextSeparator_remembers {covered : Span} (covers : memory.span = covered) :
    (Matcher.nextSeparator bounds item separator memory : Step ω ρ).Remembers
      (·.span = covered) := by
  unfold Matcher.nextSeparator
  dsimp only
  split
  next => exact .done _
  next => exact .call _ _ covers

theorem start_separated_holds (input : Input ω) (position : Nat) :
    ((Matcher.separated bounds item separator).start input position : Step ω ρ).Remembers
      (SeparatedHolds bounds position []) := by
  have covers : ((Matcher.separated bounds item separator).start input position :
      Step ω ρ).Remembers (fun memory => memory.aside = none ∧ memory.span = .point position) := by
    rw [Matcher.start_separated]
    split
    next => exact .done _
    next => exact .call _ _ ⟨rfl, rfl⟩
  exact (start_separated_goesBy input position).remembers covers
    fun _ waits ⟨begun, covers⟩ => ⟨waits, fun _ => begun, covers⟩

theorem resume_separated_holds (holds : SeparatedHolds bounds position past memory)
    (answer : Match (Value ω)) :
    ((Matcher.separated bounds item separator).resume input position memory answer :
      Step ω ρ).Remembers (SeparatedHolds bounds position (past ++ [answer])) := by
  have covers : ((Matcher.separated bounds item separator).resume input position memory answer :
      Step ω ρ).Remembers (·.span = spanOfItems position (everySecond (past ++ [answer]))) := by
    have covered := holds.covers
    rw [everySecond_append_singleton]
    cases holds.waits with
    | first collects isFirst noSeparator =>
        subst isFirst
        have even : memory.turn % 2 = 0 := by rw [collects.turn]; rfl
        rw [Matcher.resume_first_item even noSeparator]
        cases answer with
        | success span value => exact nextSeparator_remembers rfl
        | failure => exact .done _
    | separator collects odd room =>
        have isOdd : memory.turn % 2 = 1 := by rw [collects.turn]; exact odd
        rw [Matcher.resume_separator isOdd, if_neg (by omega)]
        cases answer with
        | success => exact .call _ _ covered
        | failure => exact .done _
    | item collects even between room =>
        have isEven : memory.turn % 2 = 0 := by rw [collects.turn]; exact even
        have notFirst : everySecond past ≠ [] := by
          intro none
          have begun := holds.begun (eq_nil_of_everySecond none)
          rw [between] at begun
          cases begun
        rw [Matcher.resume_item isEven between, if_pos even,
          spanOfItems_append_singleton position notFirst, ← covered]
        cases answer with
        | success span value =>
            dsimp only
            split
            next => exact .done _
            next => exact nextSeparator_remembers rfl
        | failure => exact .done _
  exact (resume_separated_goesBy input position holds.waits answer).remembers covers
    fun _ waits covers => ⟨waits, fun none => by simp at none, covers⟩

/-- A separated list whose last item failed looks at the failure, and one whose last
separator failed does not. -/
theorem exchange_separated_of_failure {reply : ρ → Answer ω} {message : String} {failed : Span}
    {step : Step ω ρ}
    (begins : (Matcher.separated bounds item separator).start input position = step)
    (all : ((Matcher.separated bounds item separator).exchange input reply position
      (past ++ [.failure message failed]) (step.move reply)).1.length = past.length + 1)
    (forbids : bounds.allows (itemsOf past).length = false) :
    ((Matcher.separated bounds item separator).exchange input reply position
      (past ++ [.failure message failed]) (step.move reply)).2 =
        some (bounds.tooFew item.description (itemsOf past).length
          (if past.length % 2 = 0 then
            max (spanOfItems position (everySecond past)).stop failed.stop
          else (spanOfItems position (everySecond past)).stop)) := by
  obtain ⟨memory, holds, ends⟩ := exists_last_of_exchange (SeparatedHolds bounds position)
    (fun _ _ answer holds => resume_separated_holds holds answer)
    (begins ▸ start_separated_holds input position) all
  rw [List.nil_append] at holds
  rw [ends, ← holds.covers]
  cases holds.waits with
  | first collects isFirst noSeparator =>
      subst isFirst
      rw [Matcher.resume_first_item (by rw [collects.turn]; rfl) noSeparator, collects.turn,
        collects.count]
      exact congrArg some (Bounds.finish_eq_tooFew forbids ..).2
  | separator collects odd room =>
      rw [Matcher.resume_separator (by rw [collects.turn]; exact odd), if_neg (by omega),
        collects.turn, collects.count]
      exact congrArg some (Bounds.finish_eq_tooFew forbids _ _ _ failed).1
  | item collects even between room =>
      rw [Matcher.resume_item (by rw [collects.turn]; exact even) between, if_pos even,
        collects.turn, collects.count]
      exact congrArg some (Bounds.finish_eq_tooFew forbids ..).2

end Separated

namespace Reference

/-- What a repetition fails with that an attempt has stopped with too few matches is
anchored as far as it got, whatever its parsers match and whatever the input is; but a
separated list that a separator has stopped has got no further than its items. -/
theorem repetitions_fail_where_they_got (bounds : Bounds) :
    (∀ body : Reference ω ρ, ∃ (blueprint : Blueprint ω ρ) (one : blueprint.arity = 1),
      repeated bounds body = .node blueprint (fun _ => body) ∧
      ∀ (children : Fin blueprint.arity → Child) (input : Input ω) (reply : ρ → Answer ω)
        (position : Nat) (past : List (Match (Value ω))) (message : String) (failed : Span),
        let exchanged := (blueprint.generate children).exchange input reply position
          (past ++ [.failure message failed])
          (((blueprint.generate children).start input position).move reply)
        exchanged.1.length = past.length + 1 → bounds.allows (valuesOf past).length = false →
        exchanged.2 = some (bounds.tooFew (children (Fin.cast one.symm 0)).description
          (valuesOf past).length (max ((Span.point position).joinAll past).stop failed.stop))) ∧
    ∀ item separator : Reference ω ρ, ∃ (blueprint : Blueprint ω ρ) (two : blueprint.arity = 2),
      separated bounds item separator =
        .node blueprint (fun index => if index.cast two = 0 then item else separator) ∧
      ∀ (children : Fin blueprint.arity → Child) (input : Input ω) (reply : ρ → Answer ω)
        (position : Nat) (past : List (Match (Value ω))) (message : String) (failed : Span),
        let exchanged := (blueprint.generate children).exchange input reply position
          (past ++ [.failure message failed])
          (((blueprint.generate children).start input position).move reply)
        exchanged.1.length = past.length + 1 → bounds.allows (itemsOf past).length = false →
        exchanged.2 = some (bounds.tooFew (children (Fin.cast two.symm 0)).description
          (itemsOf past).length
          (if past.length % 2 = 0 then
            max (spanOfItems position (everySecond past)).stop failed.stop
          else (spanOfItems position (everySecond past)).stop)) := by
  constructor
  · refine fun body => ⟨_, rfl, rfl, fun children input reply position past message failed => ?_⟩
    exact fun all forbids => exchange_repeated_of_failure rfl all forbids
  · refine fun item separator => ⟨_, rfl, rfl,
      fun children input reply position past message failed => ?_⟩
    exact fun all forbids => exchange_separated_of_failure rfl all forbids

/-- How a list of two letters or more with two others between each two goes on. -/
def exchangeLetters (answers : List (Match (Value Empty))) : Option (Match (Value Empty)) :=
  let matcher : Matcher Empty Empty := .separated ⟨2, none⟩ ⟨⟨0, capacity_pos⟩, "\"a\""⟩
    ⟨⟨0, capacity_pos⟩, "\"x\" \"y\""⟩
  let input : Input Empty := .text ⟨#['a', 'x', 'y', 'z']⟩
  (matcher.exchange input nofun 0 answers ((matcher.start input 0).move nofun)).2

/-- A letter that is missing after a separator is missed where the separator ends. -/
theorem letter_is_missed_after_separator :
    exchangeLetters [.success (.between 0 1) (.text "a"), .success (.between 1 3) .unit,
      .failure "expected \"a\"" (.point 3)] = some (.failure
        "expected at least 2 of \"a\", found 1" (.point 3)) := by
  obtain ⟨blueprint, two, isNode, fails⟩ :=
    (@repetitions_fail_where_they_got Empty Empty ⟨2, none⟩).2 (.text "a") (.text "xy")
  cases isNode
  exact fails (fun index => if index.val = 0 then ⟨⟨0, capacity_pos⟩, "\"a\""⟩
      else ⟨⟨0, capacity_pos⟩, "\"x\" \"y\""⟩)
    (.text ⟨#['a', 'x', 'y', 'z']⟩) nofun 0
    [.success (.between 0 1) (.text "a"), .success (.between 1 3) .unit]
    "expected \"a\"" (.point 3) (by decide) (by decide)

/-- Where a failure ends. -/
def failedAt? : Match (Value ω) → Option Nat
  | .failure _ span => some span.stop
  | .success .. => none

/-- A separator that fails after its first letter leaves the failure of the list where the
item before it ends. -/
theorem separator_is_missed_before_its_letters :
    let input : Input Empty := .text ⟨#['a', 'x', 'z']⟩
    let separator : Matcher Empty Empty := .sequence [⟨0, capacity_pos⟩, ⟨0, capacity_pos⟩]
    let missing : Match (Value Empty) := .failure "expected \"y\"" (.point 2)
    (separator.exchange input nofun 1 [.success (.between 1 2) (.text "x"), missing]
      ((separator.start input 1).move nofun)).2.bind failedAt? = some 2 ∧
    (exchangeLetters [.success (.between 0 1) (.text "a"), missing]).bind failedAt? = some 1 := by
  decide

end Reference

end Packrat
