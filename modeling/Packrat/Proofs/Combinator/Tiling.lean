import Packrat.Proofs.Combinator.Extent

/-!
# Matches without gaps

Nodes that match others in a row do so without gap or overlap: what they match is tiled
by what their parts matched.  The steps that a matcher comes to when its calls are
answered are followed forward, so that this can be said of the very answers that the
calls of a run were given.
-/

namespace Packrat

variable {ω ρ : Type}

/-- Parts were matched one after the other from one position to another, each where the
one before it stopped. -/
inductive Tiles (answers : NodeId → Nat → Match (Value ω) → Prop) :
    Nat → List NodeId → Nat → Prop where
  | nil (position : Nat) : Tiles answers position [] position
  | cons {position stop : Nat} {part : NodeId} {rest : List NodeId} {span : Span}
      {value : Value ω} :
      answers part position (.success span value) → span.start = position →
      Tiles answers span.stop rest stop → Tiles answers position (part :: rest) stop

namespace Tiles

variable {answers : NodeId → Nat → Match (Value ω) → Prop} {position stop : Nat}
  {parts : List NodeId}

theorem concat {part : NodeId} {span : Span} {value : Value ω}
    (tiles : Tiles answers position parts stop)
    (answered : answers part stop (.success span value)) (meets : span.start = stop) :
    Tiles answers position (parts ++ [part]) span.stop := by
  induction tiles with
  | nil position => exact .cons answered meets (.nil _)
  | cons first starts _ induction => exact .cons first starts (induction answered meets)

end Tiles

namespace Matcher

/-- The steps that a matcher comes to from its first one on, when its calls are answered
with such matches and its requests with anything. -/
inductive Reaches (matcher : Matcher ω ρ) (input : Input ω) (position : Nat)
    (answers : NodeId → Nat → Match (Value ω) → Prop) : Step ω ρ → Prop where
  | start : Reaches matcher input position answers (matcher.start input position)
  | answered {node : NodeId} {place : Nat} {memory : Memory ω} {answer : Match (Value ω)} :
      Reaches matcher input position answers (.call node place memory) →
      answers node place answer →
      Reaches matcher input position answers (matcher.resume input position memory answer)
  | asked {request : ρ} {next : Answer ω → Step ω ρ} (answer : Answer ω) :
      Reaches matcher input position answers (.ask request next) →
      Reaches matcher input position answers (next answer)

/-- A matcher that matches some parts in a row. -/
inductive Row : Matcher ω ρ → List NodeId → Prop where
  | sequence (parts : List NodeId) : Row (.sequence parts) parts
  | pair (first second : NodeId) (combine : Combine ω ρ) :
      Row (.pair first second combine) [first, second]

variable {input : Input ω} {position : Nat} {answers : NodeId → Nat → Match (Value ω) → Prop}

/-- While a sequence is matched, what was matched so far is tiled by the parts so far. -/
theorem Reaches.sequence {parts : List NodeId} {step : Step ω ρ}
    (meets : ∀ node place span value, answers node place (.success span value) →
      span.start = place)
    (reaches : (Matcher.sequence parts : Matcher ω ρ).Reaches input position answers step) :
    (∃ memory, step = nextPart parts memory ∧ memory.span.start = position ∧
      Tiles answers position (parts.take memory.turn) memory.span.stop) ∨
    ∃ message span, step = .done (.failure message span) := by
  have calls : ∀ {memory later : Memory ω} {node : NodeId} {place : Nat},
      (.call node place later : Step ω ρ) = nextPart parts memory →
      later = memory ∧ place = memory.span.stop ∧ parts[memory.turn]? = some node := by
    intro memory later node place isPart
    unfold nextPart at isPart
    split at isPart
    next part there =>
      cases isPart
      exact ⟨rfl, rfl, there⟩
    next => cases isPart
  induction reaches with
  | start => exact .inl ⟨.start position, rfl, rfl, .nil position⟩
  | @answered node place memory answer _ answered induction =>
      rcases induction with ⟨before, isPart, starts, tiles⟩ | ⟨_, _, impossible⟩
      · obtain ⟨rfl, rfl, there⟩ := calls isPart
        cases answer with
        | failure message span => exact .inr ⟨message, span, rfl⟩
        | success span value =>
            have follows := meets _ _ _ _ answered
            obtain ⟨joinStarts, joinStops⟩ := Span.join_of_meet follows.symm
            refine .inl ⟨_, rfl, joinStarts.trans starts, ?_⟩
            simp only
            rw [List.take_add_one, there, joinStops]
            exact tiles.concat answered follows
      · cases impossible
  | asked answer _ induction =>
      rcases induction with ⟨memory, isPart, _⟩ | ⟨_, _, impossible⟩
      · unfold nextPart at isPart
        split at isPart <;> cases isPart
      · cases impossible

/-- The last step of a pair: the caller's function is given what the two parts matched. -/
def verdict (span : Span) : Option (Value ω) → Step ω ρ
  | some value => .done (.success span value)
  | none => .done (.failure rejected span)

/-- Where a pair may be: a part is called, or both have been matched and the caller's
function is at work, or a part has failed. -/
inductive PairAt (answers : NodeId → Nat → Match (Value ω) → Prop) (position : Nat)
    (first second : NodeId) : Step ω ρ → Prop where
  | first : PairAt answers position first second (.call first position (.start position))
  | second {left : Span} {a : Value ω} :
      answers first position (.success left a) →
      PairAt answers position first second (.call second left.stop ⟨1, left, [a], none⟩)
  | combining {left right : Span} {a b : Value ω} {step : Step ω ρ}
      (act : Act ω ρ (Option (Value ω))) :
      answers first position (.success left a) → answers second left.stop (.success right b) →
      step = act.toStep (verdict (left.join right)) → PairAt answers position first second step
  | failed (message : String) (span : Span) :
      PairAt answers position first second (.done (.failure message span))

theorem toStep_verdict_ne_call (act : Act ω ρ (Option (Value ω))) (span : Span) {node : NodeId}
    {place : Nat} {memory : Memory ω} :
    act.toStep (verdict span) ≠ (.call node place memory : Step ω ρ) := by
  cases act with
  | result value => cases value <;> nofun
  | ask request next => nofun

theorem Reaches.pair {first second : NodeId} {combine : Combine ω ρ} {step : Step ω ρ}
    (reaches : (Matcher.pair first second combine).Reaches input position answers step) :
    PairAt answers position first second step := by
  induction reaches with
  | start => exact .first
  | @answered node place memory answer _ answered induction =>
      cases induction with
      | first =>
          cases answer with
          | failure message span => exact .failed message span
          | success left a => exact .second answered
      | @second left a firstAnswered =>
          cases answer with
          | failure message span => exact .failed message span
          | success right b =>
              exact .combining (combine a b) firstAnswered answered rfl
      | combining act _ _ impossible => exact (toStep_verdict_ne_call act _ impossible.symm).elim
  | asked answer _ induction =>
      cases induction with
      | combining act firstAnswered secondAnswered isVerdict =>
          cases act with
          | result value => cases value <;> cases isVerdict
          | ask request next =>
              cases isVerdict
              exact .combining (next answer) firstAnswered secondAnswered rfl

/-- Where parts are matched in a row, what they matched makes up the match. -/
theorem Row.tiles {matcher : Matcher ω ρ} {parts : List NodeId} {span : Span} {value : Value ω}
    (row : matcher.Row parts)
    (meets : ∀ node place span value, answers node place (.success span value) →
      span.start = place)
    (reaches : matcher.Reaches input position answers (.done (.success span value))) :
    span.start = position ∧ Tiles answers position parts span.stop := by
  cases row with
  | sequence =>
      rcases reaches.sequence meets with ⟨memory, isPart, starts, tiles⟩ | ⟨_, _, impossible⟩
      · unfold nextPart at isPart
        split at isPart
        next => cases isPart
        next past =>
          cases isPart
          rw [List.take_of_length_le (List.getElem?_eq_none_iff.mp past)] at tiles
          exact ⟨starts, tiles⟩
      · cases impossible
  | pair first second combine =>
      cases reaches.pair with
      | @combining left right _ _ _ act firstAnswered secondAnswered isVerdict =>
          have starts := meets _ _ _ _ firstAnswered
          have follows := meets _ _ _ _ secondAnswered
          obtain ⟨joinStarts, joinStops⟩ := Span.join_of_meet follows.symm
          have whole : span = left.join right := by
            cases act with
            | ask request next => cases isVerdict
            | result outcome =>
                cases outcome with
                | none => cases isVerdict
                | some value =>
                    cases isVerdict
                    rfl
          rw [whole, joinStarts, joinStops]
          exact ⟨starts, .cons firstAnswered starts (.cons secondAnswered follows (.nil _))⟩

end Matcher

end Packrat
