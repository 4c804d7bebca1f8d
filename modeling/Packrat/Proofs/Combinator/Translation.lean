import Packrat.Proofs.Combinator.Extent
import Packrat.Proofs.Evaluation

/-!
# Moving along the input

A match, what a frame remembers and a step can be moved along the input by a number of
positions.  The library's matchers only compare and add positions, so they take the same
step at a position of a text and at the position further on in a longer text that ends
with it; what a function of the caller gives is the same if it does not look at spans.
-/

namespace Packrat

variable {κ ω ρ α : Type}

/-! ## Spans and matches -/

/-- The span `k` positions further on. -/
def Span.shift (k : Nat) (s : Span) : Span :=
  ⟨s.start + k, s.stop + k, Nat.add_le_add_right s.ordered k⟩

namespace Span

variable (k : Nat)

@[simp] theorem start_shift (s : Span) : (s.shift k).start = s.start + k := rfl

@[simp] theorem stop_shift (s : Span) : (s.shift k).stop = s.stop + k := rfl

theorem shift_point (p : Nat) : (point p).shift k = point (p + k) := rfl

theorem shift_between (p q : Nat) : (between p q).shift k = between (p + k) (q + k) := by
  apply ext
  · simp only [start_shift, start_between]
    omega
  · simp only [stop_shift, stop_between]
    omega

theorem shift_join (s next : Span) : (s.shift k).join (next.shift k) = (s.join next).shift k :=
  (shift_between k s.start next.stop).symm

@[simp] theorem isEmpty_shift (s : Span) : (s.shift k).isEmpty = s.isEmpty := by
  simp [isEmpty]

end Span

/-- The match `k` positions further on. -/
def Match.shift (k : Nat) : Match α → Match α
  | success span value => success (span.shift k) value
  | failure message span => failure message (span.shift k)

namespace Match

variable (k : Nat)

@[simp] theorem shift_success (span : Span) (value : α) :
    (success span value).shift k = success (span.shift k) value := rfl

@[simp] theorem shift_failure (message : String) (span : Span) :
    (failure message span : Match α).shift k = failure message (span.shift k) := rfl

@[simp] theorem isSuccess_shift (m : Match α) : (m.shift k).isSuccess = m.isSuccess := by
  cases m <;> rfl

@[simp] theorem span_shift (m : Match α) : (m.shift k).span = m.span.shift k := by
  cases m <;> rfl

theorem shift_farther (m later : Match α) :
    (m.shift k).farther (later.shift k) = (m.farther later).shift k := by
  by_cases further : m.span.stop < later.span.stop
  · simp [farther, further]
  · simp [farther, further]

end Match

theorem Bounds.shift_finish (bounds : Bounds) (description : String) (count : Nat)
    (values : List (Value ω)) (k : Nat) (span : Span) (failed : Option Span) :
    bounds.finish description count values (span.shift k) (failed.map (Span.shift k)) =
      (bounds.finish description count values span failed).shift k := by
  unfold Bounds.finish
  split
  next => rfl
  next =>
    cases failed with
    | none => rfl
    | some failed => simp [Span.shift_point, Nat.add_max_add_right]

/-! ## Steps -/

/-- The memory `k` positions further on. -/
def Memory.shift (k : Nat) (memory : Memory ω) : Memory ω :=
  ⟨memory.turn, memory.span.shift k, memory.values, memory.aside.map (Match.shift k)⟩

/-- The step `k` positions further on. -/
def Step.shift (k : Nat) : Step ω ρ → Step ω ρ
  | done result => done (result.shift k)
  | call node position memory => call node (position + k) (memory.shift k)
  | ask request next => ask request fun answer => (next answer).shift k

/-- The move `k` positions further on. -/
def Move.shift (k : Nat) : Move ω → Move ω
  | done result => done (result.shift k)
  | call node position memory => call node (position + k) (memory.shift k)

theorem Step.move_shift (reply : ρ → Answer ω) (k : Nat) (step : Step ω ρ) :
    (step.shift k).move reply = (step.move reply).shift k := by
  induction step with
  | done result => rfl
  | call node position memory => rfl
  | ask request next induction => exact induction (reply request)

theorem Act.shift_toStep (k : Nat) (act : Act ω ρ α) (next : α → Step ω ρ) :
    (act.toStep next).shift k = act.toStep fun value => (next value).shift k := by
  induction act with
  | result value => rfl
  | ask request wait induction => exact congrArg (Step.ask request) (funext induction)

/-! ## Matchers -/

/-- A matcher takes the same steps on one input as on another, where it is `k` positions
further on. -/
structure Matcher.Travels (matcher : Matcher ω ρ) (k : Nat) (input whole : Input ω) : Prop where
  start : ∀ position, matcher.start whole (position + k) = (matcher.start input position).shift k
  resume : ∀ position memory answer,
    matcher.resume whole (position + k) (memory.shift k) (answer.shift k) =
      (matcher.resume input position memory answer).shift k

/-- A leaf matches the same on one input as on another, where it is `k` positions further
on. -/
def AttemptTravels (attempt : Input ω → Nat → Match (Value ω)) (k : Nat) (input whole : Input ω) :
    Prop :=
  ∀ position, attempt whole (position + k) = (attempt input position).shift k

namespace Matcher

variable {k : Nat} {input whole : Input ω}

theorem travels_ofMatch {attempt : Input ω → Nat → Match (Value ω)}
    (travels : AttemptTravels attempt k input whole) :
    (ofMatch attempt : Matcher ω ρ).Travels k input whole where
  start position := congrArg Step.done (travels position)
  resume _ _ _ := rfl

theorem travels_ofAnswer {node : NodeId} {next : Nat → Match (Value ω) → Step ω ρ}
    (goesOn : ∀ position answer,
      next (position + k) (answer.shift k) = (next position answer).shift k) :
    (ofAnswer node next).Travels k input whole where
  start _ := rfl
  resume position _ answer := goesOn position answer

theorem shift_tryFrom (alternatives : List NodeId) (position : Nat) (memory : Memory ω) :
    (tryFrom alternatives (position + k) (memory.shift k) : Step ω ρ) =
      (tryFrom alternatives position memory).shift k := by
  obtain ⟨turn, span, values, aside⟩ := memory
  simp only [tryFrom, Memory.shift]
  cases alternatives[turn]? with
  | some alternative => rfl
  | none => cases aside <;> rfl

theorem travels_choice (alternatives : List NodeId) :
    (choice alternatives : Matcher ω ρ).Travels k input whole where
  start position := shift_tryFrom alternatives position (.start position)
  resume position memory answer := by
    obtain ⟨turn, span, values, aside⟩ := memory
    simp only [choice, Memory.shift, Match.isSuccess_shift]
    split
    next => rfl
    next =>
      cases aside with
      | none => exact shift_tryFrom alternatives position ⟨turn + 1, span, values, some answer⟩
      | some best =>
          simp only [Option.map_some, Match.shift_farther]
          exact shift_tryFrom alternatives position
            ⟨turn + 1, span, values, some (best.farther answer)⟩

theorem travels_optional (node : NodeId) (wrap : Value ω → Value ω) (default : Value ω) :
    (optional node wrap default : Matcher ω ρ).Travels k input whole := by
  apply travels_ofAnswer
  intro position answer
  cases answer <;> rfl

theorem travels_ahead (node : NodeId) : (ahead node : Matcher ω ρ).Travels k input whole := by
  apply travels_ofAnswer
  intro position answer
  cases answer <;> rfl

theorem travels_notAhead (child : Child) :
    (notAhead child : Matcher ω ρ).Travels k input whole := by
  apply travels_ofAnswer
  intro position answer
  cases answer <;> rfl

theorem travels_onFail (node : NodeId) (message : String) :
    (onFail node message : Matcher ω ρ).Travels k input whole := by
  apply travels_ofAnswer
  intro position answer
  cases answer <;> rfl

theorem travels_transform (node : NodeId) (message : String) {f : Transform ω ρ}
    (blind : ∀ value span other, f value span = f value other) :
    (transform node message f : Matcher ω ρ).Travels k input whole := by
  apply travels_ofAnswer
  intro position answer
  cases answer with
  | failure reason span => rfl
  | success span value =>
      simp only [Match.shift_success, Act.shift_toStep, blind value (span.shift k) span]
      congr 1
      funext verdict
      cases verdict <;> rfl

theorem shift_nextPart (parts : List NodeId) (memory : Memory ω) :
    (nextPart parts (memory.shift k) : Step ω ρ) = (nextPart parts memory).shift k := by
  obtain ⟨turn, span, values, aside⟩ := memory
  simp only [nextPart, Memory.shift]
  cases parts[turn]? <;> rfl

theorem travels_sequence (parts : List NodeId) :
    (sequence parts : Matcher ω ρ).Travels k input whole where
  start position := shift_nextPart parts (.start position)
  resume position memory answer := by
    cases answer with
    | failure message span => rfl
    | success span value =>
        simp only [sequence, Match.shift_success]
        rw [← shift_nextPart]
        congr 1
        exact (Memory.mk.injEq ..).mpr ⟨rfl, Span.shift_join k .., rfl, rfl⟩

theorem travels_pair (first second : NodeId) (combine : Combine ω ρ) :
    (pair first second combine).Travels k input whole where
  start _ := rfl
  resume position memory answer := by
    obtain ⟨turn, span, values, aside⟩ := memory
    cases values with
    | nil => cases answer <;> rfl
    | cons a rest =>
        cases answer with
        | failure message place => rfl
        | success right b =>
            simp only [pair, Memory.shift, Match.shift_success, Act.shift_toStep, Span.shift_join]
            congr 1
            funext verdict
            cases verdict <;> rfl

theorem shift_nextRound (bounds : Bounds) (child : Child) (memory : Memory ω) :
    (nextRound bounds child (memory.shift k) : Step ω ρ) =
      (nextRound bounds child memory).shift k := by
  have sameTurn : (memory.shift k).turn = memory.turn := rfl
  unfold nextRound
  rw [sameTurn]
  split
  next => exact congrArg Step.done (bounds.shift_finish _ _ _ k memory.span none)
  next => rfl

theorem travels_repeated (bounds : Bounds) (child : Child) :
    (repeated bounds child : Matcher ω ρ).Travels k input whole where
  start position := shift_nextRound bounds child (.start position)
  resume position memory answer := by
    obtain ⟨turn, span, values, aside⟩ := memory
    cases answer with
    | failure message failed =>
        exact congrArg Step.done (bounds.shift_finish _ _ _ k span (some failed))
    | success next value =>
        simp only [repeated, Memory.shift, Match.shift_success, Span.shift_join,
          Span.isEmpty_shift]
        by_cases empty : next.isEmpty = true
        · simp only [if_pos empty]
          exact congrArg Step.done (bounds.shift_finish _ _ _ k (span.join next) none)
        · simp only [if_neg empty]
          exact shift_nextRound bounds child ⟨turn + 1, span.join next, value :: values, none⟩

theorem shift_nextSeparator (bounds : Bounds) (item separator : Child) (memory : Memory ω) :
    (nextSeparator bounds item separator (memory.shift k) : Step ω ρ) =
      (nextSeparator bounds item separator memory).shift k := by
  have sameTurn : (memory.shift k).turn = memory.turn := rfl
  unfold nextSeparator
  rw [sameTurn]
  dsimp only
  split
  next => exact congrArg Step.done (bounds.shift_finish _ _ _ k memory.span none)
  next => rfl

theorem travels_separated (bounds : Bounds) (item separator : Child) :
    (separated bounds item separator : Matcher ω ρ).Travels k input whole where
  start position := by
    by_cases full : bounds.full 0 = true
    · simp only [separated, if_pos full]
      exact congrArg Step.done (bounds.shift_finish _ _ _ k (.point position) none)
    · simp only [separated, if_neg full]
      rfl
  resume position memory answer := by
    obtain ⟨turn, span, values, aside⟩ := memory
    have finish := fun count values span (failed : Option Span) =>
      congrArg (Step.done (ρ := ρ))
        (bounds.shift_finish (ω := ω) item.description count values k span failed)
    by_cases odd : turn % 2 = 1
    · simp only [separated, Memory.shift, if_pos odd]
      cases answer with
      | failure message failed => exact finish _ _ span none
      | success between skipped => rfl
    · simp only [separated, Memory.shift, if_neg odd]
      cases answer with
      | failure message failed => cases aside <;> exact finish _ _ span (some failed)
      | success next value =>
          cases aside with
          | none => exact shift_nextSeparator bounds item separator ⟨turn + 1, next, [value], none⟩
          | some between =>
              simp only [Option.map_some, Match.shift_success, Match.span_shift,
                Span.isEmpty_shift, Span.shift_join]
              by_cases empty : (between.span.isEmpty && next.isEmpty) = true
              · simp only [if_pos empty]
                exact finish _ _ (span.join next) none
              · simp only [if_neg empty]
                exact shift_nextSeparator bounds item separator
                  ⟨turn + 1, span.join next, value :: values, none⟩

end Matcher

/-! ## Plans -/

/-- A function of the caller's in a plan does not look at spans. -/
def Plan.Blind : Plan κ ω ρ → Prop
  | transform _ _ f => ∀ value span other, f value span = f value other
  | _ => True

/-- The leaf of a plan, if it is one, matches the same further on. -/
def Plan.LeafTravels (k : Nat) (input whole : Input ω) : Plan κ ω ρ → Prop
  | leaf attempt => AttemptTravels attempt k input whole
  | _ => True

theorem Plan.travels_matcher {k : Nat} {input whole : Input ω} {plan : Plan κ ω ρ}
    (given : κ → Child) (blind : plan.Blind) (travels : plan.LeafTravels k input whole) :
    (plan.map given).matcher.Travels k input whole := by
  cases plan with
  | leaf attempt => exact Matcher.travels_ofMatch travels
  | choice alternatives => exact Matcher.travels_choice _
  | optional child wrap default => exact Matcher.travels_optional _ _ _
  | ahead child => exact Matcher.travels_ahead _
  | notAhead child => exact Matcher.travels_notAhead _
  | repeated bounds child => exact Matcher.travels_repeated _ _
  | separated bounds item separator => exact Matcher.travels_separated _ _ _
  | pair first second combine => exact Matcher.travels_pair _ _ _
  | sequence parts => exact Matcher.travels_sequence _
  | transform child message f => exact Matcher.travels_transform _ _ blind
  | onFail child message => exact Matcher.travels_onFail _ _

end Packrat
