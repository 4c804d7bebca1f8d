import Packrat.Proofs.Combinator.Plan

/-!
# Matches up to descriptions

Some failures quote how a node is described.  Two matches agree if they are the same but
for what is quoted so.  Plans carry agreement over from the children to the whole: no
other part of a match depends on a description.
-/

namespace Packrat

variable {κ ω ρ : Type}

/-- Two messages that are the same but for a description that they quote. -/
inductive SameButQuoted : String → String → Prop where
  | same (message : String) : SameButQuoted message message
  | unexpected (first second : String) :
      SameButQuoted ("unexpected " ++ first) ("unexpected " ++ second)
  | expected (bounds : Bounds) (first second : String) (count : Nat) :
      SameButQuoted
        ("expected " ++ bounds.inWords ++ " of " ++ first ++ ", found " ++ count.repr)
        ("expected " ++ bounds.inWords ++ " of " ++ second ++ ", found " ++ count.repr)

namespace Match

/-- Two matches that are the same but for a description that the message quotes. -/
inductive Agrees : Match (Value ω) → Match (Value ω) → Prop where
  | success (span : Span) (value : Value ω) : Agrees (.success span value) (.success span value)
  | failure {message other : String} (same : SameButQuoted message other) (span : Span) :
      Agrees (.failure message span) (.failure other span)

namespace Agrees

variable {m m' : Match (Value ω)}

theorem refl (m : Match (Value ω)) : m.Agrees m := by
  cases m with
  | success span value => exact .success span value
  | failure message span => exact .failure (.same message) span

theorem span_eq (agrees : m.Agrees m') : m.span = m'.span := by
  cases agrees <;> rfl

theorem isSuccess_eq (agrees : m.Agrees m') : m.isSuccess = m'.isSuccess := by
  cases agrees <;> rfl

theorem farther {later later' : Match (Value ω)} (agrees : m.Agrees m')
    (laterAgrees : later.Agrees later') : (m.farther later).Agrees (m'.farther later') := by
  unfold Match.farther
  rw [agrees.span_eq, laterAgrees.span_eq]
  split
  next => exact laterAgrees
  next => exact agrees

end Agrees

/-- Two failures that may be missing. -/
inductive BothAgree : Option (Match (Value ω)) → Option (Match (Value ω)) → Prop where
  | none : BothAgree none none
  | some {m m' : Match (Value ω)} : m.Agrees m' → BothAgree (some m) (some m')

theorem BothAgree.better {best best' : Option (Match (Value ω))} {m m' : Match (Value ω)}
    (both : BothAgree best best') (agrees : m.Agrees m') :
    (Match.better best m).Agrees (Match.better best' m') := by
  cases both with
  | none => exact agrees
  | some bestAgrees => exact bestAgrees.farther agrees

end Match

theorem Bounds.finish_agrees (bounds : Bounds) (first second : String) (count : Nat)
    (values : List (Value ω)) (span : Span) (failed : Option Span) :
    (bounds.finish first count values span failed).Agrees
      (bounds.finish second count values span failed) := by
  unfold Bounds.finish
  split
  next => exact .refl _
  next => exact .failure (.expected bounds first second count) _

/-! ## Plans -/

section

variable {answers others : κ → Nat → Match (Value ω) → Prop}
  (related : ∀ child position answer, answers child position answer →
    ∃ other, others child position other ∧ answer.Agrees other)

include related

theorem exists_success {child : κ} {position : Nat} {span : Span} {value : Value ω}
    (answered : answers child position (.success span value)) :
    others child position (.success span value) := by
  obtain ⟨other, there, agrees⟩ := related _ _ _ answered
  cases agrees
  exact there

theorem exists_failure {child : κ} {position : Nat} {message : String} {span : Span}
    (answered : answers child position (.failure message span)) :
    ∃ reason, others child position (.failure reason span) ∧
      SameButQuoted message reason := by
  obtain ⟨other, there, agrees⟩ := related _ _ _ answered
  cases agrees with
  | failure same => exact ⟨_, there, same⟩

theorem Chooses.agrees {position : Nat} {best best' : Option (Match (Value ω))}
    {alternatives : List κ} {result : Match (Value ω)}
    (chooses : Chooses answers position best alternatives result)
    (both : Match.BothAgree best best') :
    ∃ other, Chooses others position best' alternatives other ∧ result.Agrees other := by
  induction chooses generalizing best' with
  | exhausted best =>
      refine ⟨_, .exhausted best', ?_⟩
      cases both with
      | none => exact .refl _
      | some agrees => exact agrees
  | taken answered succeeded =>
      obtain ⟨other, there, agrees⟩ := related _ _ _ answered
      exact ⟨other, .taken there (agrees.isSuccess_eq ▸ succeeded), agrees⟩
  | passed answered failed _ induction =>
      obtain ⟨other, there, agrees⟩ := related _ _ _ answered
      obtain ⟨last, rest, lastAgrees⟩ := induction (.some (both.better agrees))
      exact ⟨last, .passed there (agrees.isSuccess_eq ▸ failed) rest, lastAgrees⟩

theorem Follows.agrees {span : Span} {values : List (Value ω)} {parts : List κ}
    {result : Match (Value ω)} (follows : Follows answers span values parts result) :
    ∃ other, Follows others span values parts other ∧ result.Agrees other := by
  induction follows with
  | finished span values => exact ⟨_, .finished span values, .refl _⟩
  | failed answered =>
      obtain ⟨reason, there, same⟩ := exists_failure related answered
      exact ⟨_, .failed there, .failure same _⟩
  | next answered _ induction =>
      obtain ⟨other, rest, agrees⟩ := induction
      exact ⟨other, .next (exists_success related answered) rest, agrees⟩

theorem Repeats.agrees {bounds : Bounds} {description : String} (otherDescription : String)
    {child : κ} {count : Nat} {values : List (Value ω)} {span : Span}
    {result : Match (Value ω)}
    (repeats : Repeats answers bounds description child count values span result) :
    ∃ other, Repeats others bounds otherDescription child count values span other ∧
      result.Agrees other := by
  induction repeats with
  | full full => exact ⟨_, .full full, bounds.finish_agrees ..⟩
  | failed room answered =>
      obtain ⟨reason, there, _⟩ := exists_failure related answered
      exact ⟨_, .failed room there, bounds.finish_agrees ..⟩
  | empty room answered empty =>
      exact ⟨_, .empty room (exists_success related answered) empty, bounds.finish_agrees ..⟩
  | again room answered nonempty _ induction =>
      obtain ⟨other, rest, agrees⟩ := induction
      exact ⟨other, .again room (exists_success related answered) nonempty rest, agrees⟩

theorem Separates.agrees {bounds : Bounds} {description : String} (otherDescription : String)
    {item separator : κ} {count : Nat} {values : List (Value ω)} {span : Span}
    {result : Match (Value ω)}
    (separates : Separates answers bounds description item separator count values span result) :
    ∃ other, Separates others bounds otherDescription item separator count values span other ∧
      result.Agrees other := by
  induction separates with
  | full full => exact ⟨_, .full full, bounds.finish_agrees ..⟩
  | noSeparator room failed =>
      obtain ⟨reason, there, _⟩ := exists_failure related failed
      exact ⟨_, .noSeparator room there, bounds.finish_agrees ..⟩
  | noItem room separated failed =>
      obtain ⟨reason, there, _⟩ := exists_failure related failed
      exact ⟨_, .noItem room (exists_success related separated) there, bounds.finish_agrees ..⟩
  | empty room separated answered empty =>
      exact ⟨_, .empty room (exists_success related separated)
        (exists_success related answered) empty, bounds.finish_agrees ..⟩
  | again room separated answered nonempty _ induction =>
      obtain ⟨other, rest, agrees⟩ := induction
      exact ⟨other, .again room (exists_success related separated)
        (exists_success related answered) nonempty rest, agrees⟩

/-- Children that agree make plans that agree. -/
theorem Plan.Gives.agrees {input : Input ω} {reply : ρ → Answer ω} {describe : κ → String}
    (redescribe : κ → String) {position : Nat} {plan : Plan κ ω ρ} {result : Match (Value ω)}
    (gives : plan.Gives input reply describe answers position result) :
    ∃ other, plan.Gives input reply redescribe others position other ∧
      result.Agrees other := by
  cases gives with
  | leaf attempt => exact ⟨_, .leaf attempt, .refl _⟩
  | choice chooses =>
      obtain ⟨other, there, agrees⟩ := chooses.agrees related .none
      exact ⟨other, .choice there, agrees⟩
  | present answered => exact ⟨_, .present (exists_success related answered), .refl _⟩
  | absent answered =>
      obtain ⟨reason, there, _⟩ := exists_failure related answered
      exact ⟨_, .absent there, .refl _⟩
  | ahead answered =>
      obtain ⟨other, there, agrees⟩ := related _ _ _ answered
      refine ⟨_, .ahead there, ?_⟩
      cases agrees with
      | success span value => exact .refl _
      | failure same span => exact .failure same span
  | unexpected answered succeeded =>
      obtain ⟨other, there, agrees⟩ := related _ _ _ answered
      exact ⟨_, .unexpected there (agrees.isSuccess_eq ▸ succeeded),
        .failure (.unexpected _ _) _⟩
  | notAhead answered failed =>
      obtain ⟨other, there, agrees⟩ := related _ _ _ answered
      exact ⟨_, .notAhead there (agrees.isSuccess_eq ▸ failed), .refl _⟩
  | @repeated bounds child _ repeats =>
      obtain ⟨other, there, agrees⟩ := repeats.agrees related (redescribe child)
      exact ⟨other, .repeated there, agrees⟩
  | @noItems bounds item separator full => exact ⟨_, .noItems full, bounds.finish_agrees ..⟩
  | @noFirstItem bounds item separator _ _ room answered =>
      obtain ⟨reason, there, _⟩ := exists_failure related answered
      exact ⟨_, .noFirstItem room there, bounds.finish_agrees ..⟩
  | @separated bounds item separator _ _ _ room answered separates =>
      obtain ⟨other, there, agrees⟩ := separates.agrees related (redescribe item)
      exact ⟨other, .separated room (exists_success related answered) there, agrees⟩
  | noFirst answered =>
      obtain ⟨reason, there, same⟩ := exists_failure related answered
      exact ⟨_, .noFirst there, .failure same _⟩
  | noSecond answered failed =>
      obtain ⟨reason, there, same⟩ := exists_failure related failed
      exact ⟨_, .noSecond (exists_success related answered) there, .failure same _⟩
  | pair answered otherAnswered =>
      exact ⟨_, .pair (exists_success related answered) (exists_success related otherAnswered),
        .refl _⟩
  | sequence follows =>
      obtain ⟨other, there, agrees⟩ := follows.agrees related
      exact ⟨other, .sequence there, agrees⟩
  | transform answered => exact ⟨_, .transform (exists_success related answered), .refl _⟩
  | nothing answered =>
      obtain ⟨reason, there, same⟩ := exists_failure related answered
      exact ⟨_, .nothing there, .failure same _⟩
  | matched answered => exact ⟨_, .matched (exists_success related answered), .refl _⟩
  | onFail answered =>
      obtain ⟨reason, there, _⟩ := exists_failure related answered
      exact ⟨_, .onFail there, .refl _⟩

end

end Packrat
