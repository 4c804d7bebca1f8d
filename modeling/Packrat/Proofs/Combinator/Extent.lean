import Packrat.Proofs.Combinator.Kind
import Packrat.Proofs.Text.Offsets

/-!
# Matches inside the input

A match at a position lies inside the input if a success covers the input from that
position on, and a failure is anchored between that position and the end.  The library's
leaves give no other matches.  `Kind.Stock` says that a node has no leaf of the caller's
making, which might do anything.
-/

namespace Packrat

variable {ω ρ α : Type}

/-! ## Matches -/

/-- The match at a position lies inside an input of some length. -/
structure Match.Inside (m : Match α) (position length : Nat) : Prop where
  starts : position ≤ m.span.start
  stops : m.span.stop ≤ length
  exact : m.isSuccess = true → m.span.start = position

namespace Match

variable {position place length : Nat} {span : Span} {value : α} {message : String}
  {m other : Match α}

theorem inside_success (starts : span.start = position) (stops : span.stop ≤ length) :
    (success span value).Inside position length :=
  ⟨Nat.le_of_eq starts.symm, stops, fun _ => starts⟩

theorem inside_failure (starts : position ≤ span.start) (stops : span.stop ≤ length) :
    (failure message span : Match α).Inside position length :=
  ⟨starts, stops, fun impossible => Bool.noConfusion impossible⟩

theorem inside_success_between {stop : Nat} (ordered : position ≤ stop) (stops : stop ≤ length) :
    (success (.between position stop) value).Inside position length :=
  inside_success (Nat.min_eq_left ordered) (Nat.max_le.mpr ⟨ordered.trans stops, stops⟩)

theorem inside_success_point (inside : position ≤ length) :
    (success (.point position) value).Inside position length :=
  inside_success rfl inside

theorem inside_failure_point (starts : position ≤ place) (stops : place ≤ length) :
    (failure message (.point place) : Match α).Inside position length :=
  inside_failure starts stops

namespace Inside

theorem start_eq (inside : (success span value).Inside position length) :
    span.start = position := inside.exact rfl

/-- A failure that lies inside from some place on does so from any earlier one. -/
theorem earlier (inside : (failure message span : Match α).Inside place length)
    (before : position ≤ place) : (failure message span : Match α).Inside position length :=
  inside_failure (before.trans inside.starts) inside.stops

theorem farther (inside : m.Inside position length) (otherInside : other.Inside position length) :
    (m.farther other).Inside position length := by
  unfold Match.farther
  split
  next => exact otherInside
  next => exact inside

end Inside

end Match

/-- A repetition succeeds with what it has if it has enough and not too much. -/
theorem Bounds.finish_of_allows {bounds : Bounds} {count : Nat}
    (allows : bounds.allows count = true)
    (description : String) (values : List (Value ω)) (span : Span) (failed : Option Span) :
    bounds.finish description count values span failed = .success span (.list values.reverse) :=
  if_pos allows

theorem Bounds.finish_eq_success_iff {bounds : Bounds} {description : String} {count : Nat}
    {values : List (Value ω)} {span covered : Span} {failed : Option Span} {value : Value ω} :
    bounds.finish description count values span failed = .success covered value ↔
      bounds.allows count = true ∧ covered = span ∧ value = .list values.reverse := by
  unfold finish
  split
  next allows => simp [allows, eq_comm]
  next forbids => simp [forbids]

/-- However a repetition ends, it does so inside the input. -/
theorem Bounds.inside_finish (bounds : Bounds) (description : String) (count : Nat)
    (values : List (Value ω)) {position length : Nat} {span : Span} {failed : Option Span}
    (starts : span.start = position) (stops : span.stop ≤ length)
    (reaches : ∀ place, failed = some place → place.stop ≤ length) :
    (bounds.finish description count values span failed).Inside position length := by
  have ordered := span.ordered
  unfold Bounds.finish
  split
  next => exact Match.inside_success starts stops
  next =>
    cases failed with
    | none => exact Match.inside_failure_point (starts ▸ ordered) stops
    | some place =>
        refine Match.inside_failure_point ?_ (Nat.max_le.mpr ⟨reaches place rfl, stops⟩)
        exact starts ▸ ordered.trans (Nat.le_max_right ..)

/-! ## Leaves -/

/-- An attempt gives matches inside the input only. -/
def Attempts (attempt : Input ω → Nat → Match (Value ω)) : Prop :=
  ∀ input position, position ≤ input.length → (attempt input position).Inside position input.length

theorem Input.lt_of_item? {input : Input ω} {position : Nat} {found : Value ω}
    (there : input.item? position = some found) : position < input.length := by
  cases input with
  | text t =>
      obtain ⟨char, isThere, _⟩ := Option.map_eq_some_iff.mp there
      exact (Array.getElem?_eq_some_iff.mp isThere).choose
  | tokens items => exact (Array.getElem?_eq_some_iff.mp there).choose

theorem attempts_item (accepts : Value ω → Bool) (value : Value ω → Value ω)
    (message otherwise : String) :
    Attempts fun (input : Input ω) position =>
      match input.item? position with
      | some found =>
        if accepts found then .success (.between position (position + 1)) (value found)
        else .failure message (.point position)
      | none => .failure otherwise (.point position) := by
  intro input position inside
  dsimp only
  split
  next found there =>
    split
    next =>
      exact Match.inside_success_between (Nat.le_succ position) (Input.lt_of_item? there)
    next => exact Match.inside_failure_point (Nat.le_refl position) inside
  next => exact Match.inside_failure_point (Nat.le_refl position) inside

theorem Lettering.identifierStop_bounds (letters : Lettering) {chars : Array Char}
    {remaining position : Nat} (room : position + remaining ≤ chars.size) :
    position ≤ letters.identifierStop chars remaining position ∧
      letters.identifierStop chars remaining position ≤ chars.size := by
  induction remaining generalizing position with
  | zero => exact ⟨Nat.le_refl position, room⟩
  | succ remaining induction =>
      rw [identifierStop]
      split
      next =>
        split
        next =>
          have roomThen : position + 1 + remaining ≤ chars.size := by omega
          have := induction roomThen
          omega
        next => omega
      next => omega

/-- An identifier ends behind its first letter, and in the text. -/
theorem Lettering.attempt_cases (letters : Lettering) (t : Text) (position : Nat) :
    (∃ stop, position < stop ∧ stop ≤ t.length ∧
      (letters.attempt (.text t) position : Match (Value ω)) =
        .success (.between position stop) (.text (String.ofList (t.slice position stop)))) ∨
    (letters.attempt (.text t) position : Match (Value ω)) =
      .failure "expected an identifier" (.point position) := by
  rw [attempt]
  split
  next starts =>
    obtain ⟨char, there, _⟩ := (Option.any_eq_true _ _).mp starts
    have small := (Array.getElem?_eq_some_iff.mp there).choose
    have whole : position + 1 + (t.length - (position + 1)) ≤ t.chars.size :=
      Nat.le_of_eq (Nat.add_sub_of_le small)
    obtain ⟨later, stops⟩ := letters.identifierStop_bounds whole
    exact .inl ⟨_, later, stops, rfl⟩
  next => exact .inr rfl

theorem Lettering.attempts (letters : Lettering) : Attempts (letters.attempt : Input ω → _) := by
  intro input position inside
  cases input with
  | tokens items => exact Match.inside_failure_point (Nat.le_refl position) inside
  | text t =>
      rcases letters.attempt_cases t position with ⟨stop, after, stops, matched⟩ | failed
      · rw [matched]
        exact Match.inside_success_between (Nat.le_of_lt after) stops
      · rw [failed]
        exact Match.inside_failure_point (Nat.le_refl position) inside

theorem attempts_text (content : String) :
    Attempts (Literal.attemptText content : Input ω → _) := by
  intro input position inside
  cases input with
  | tokens items =>
      simp only [Literal.attemptText]
      split
      next impossible => cases impossible
      next => exact Match.inside_failure_point (Nat.le_refl position) inside
  | text t =>
      simp only [Literal.attemptText]
      split
      next found =>
        simp only [Text.between?] at found
        split at found
        next whole => exact Match.inside_success_between (Nat.le_add_right ..) whole.2
        next => cases found
      next => exact Match.inside_failure_point (Nat.le_refl position) inside

/-- What is found in the rest of a text is what a pattern matches at a position. -/
theorem Literal.attemptPattern_of_find? {expression : String} {finder : Finder} {t : Text}
    {position : Nat} {before found after : List Char}
    (isRest : t.chars.toList.drop position = before ++ found ++ after)
    (isFound : finder.find? (t.chars.toList.drop position) =
      some (Text.byteLength before, Text.byteLength (before ++ found))) :
    (attemptPattern expression finder (.text t) position : Match (Value ω)) =
      .success (.between position (min (position + (before ++ found).length) t.length))
        (.text (String.ofList found)) := by
  simp only [attemptPattern, Text.restFrom_byteOffset, isFound,
    Text.positionOf_append isRest, Text.bytesBetween?_append isRest, Option.getD_some]

theorem Literal.attemptPattern_of_find?_eq_none {expression : String} {finder : Finder} {t : Text}
    {position : Nat} (missed : finder.find? (t.chars.toList.drop position) = none) :
    (attemptPattern expression finder (.text t) position : Match (Value ω)) =
      .failure ("expected /" ++ expression ++ "/") (.point position) := by
  simp only [attemptPattern, Text.restFrom_byteOffset, missed]

theorem attempts_pattern (expression : String) (finder : Finder) :
    Attempts (Literal.attemptPattern expression finder : Input ω → _) := by
  intro input position inside
  cases input with
  | tokens items => exact Match.inside_failure_point (Nat.le_refl position) inside
  | text t =>
      cases searched : finder.find? (t.chars.toList.drop position) with
      | none =>
          rw [Literal.attemptPattern_of_find?_eq_none searched]
          exact Match.inside_failure_point (Nat.le_refl position) inside
      | some ends =>
          obtain ⟨before, found, after, isRest, isFirst, isLast⟩ := finder.whole searched
          obtain ⟨first, last⟩ := ends
          cases isFirst
          cases isLast
          rw [Literal.attemptPattern_of_find? isRest searched]
          refine Match.inside_success_between ?_ (Nat.min_le_right ..)
          exact Nat.le_min.mpr ⟨Nat.le_add_right .., inside⟩

theorem attempts_literal (kind : InputKind) (data : Literal) :
    Attempts (Kind.attemptLiteral kind data : Input ω → _) := by
  intro input position inside
  rw [Kind.attemptLiteral]
  cases attempted : (Literal.attempt? kind data :
      Except String (String × (Input ω → Nat → Match (Value ω)))) with
  | error message => exact Match.inside_failure_point (Nat.le_refl position) inside
  | ok leaf =>
      obtain ⟨name, attempt⟩ := leaf
      rcases Literal.attempt?_cases attempted with ⟨content, _, _, rfl⟩ |
        ⟨expression, finder, _, _, rfl⟩
      · exact attempts_text content input position inside
      · exact attempts_pattern expression finder input position inside

/-! ## Kinds -/

namespace Reference

theorem leaf_inj {name label otherName otherLabel : String} {cacheable other : Bool}
    {attempt otherAttempt : Input ω → Nat → Match (Value ω)}
    (same : (leaf name label cacheable attempt : Reference ω ρ) =
      leaf otherName otherLabel other otherAttempt) : attempt = otherAttempt := by
  injection same with blueprints
  injection blueprints with _ _ _ _ generators
  have matchers := congrFun generators fun index => index.elim0
  injection matchers with starts
  funext input position
  injection congrFun (congrFun starts input) position

end Reference

/-- A kind of node that the library makes: where a leaf has something of the caller's in
it, that is an item, a test, a value or a message. -/
def Kind.Stock [BEq ω] [Printable ω] : Kind ω ρ → Prop
  | leaf name label attempt =>
    (∃ expected, Reference.leaf name label false attempt =
      (Reference.item expected : Reference ω ρ)) ∨
    (∃ wanted accepts, Reference.leaf name label false attempt =
      (Reference.satisfy wanted accepts : Reference ω ρ)) ∨
    (∃ value, Reference.leaf name label false attempt =
      (Reference.succeed value : Reference ω ρ)) ∨
    ∃ message, Reference.leaf name label false attempt =
      (Reference.fail message : Reference ω ρ)
  | _ => True

/-- A plan whose leaf, if it is one, gives matches inside the input only. -/
def Plan.Keeps {κ : Type} : Plan κ ω ρ → Prop
  | leaf attempt => Attempts attempt
  | _ => True

theorem Kind.Stock.keeps [BEq ω] [Printable ω] {kind : Kind ω ρ} (stock : kind.Stock) :
    kind.plan.Keeps := by
  cases kind with
  | any => exact attempts_item (fun _ => true) id "" _
  | endOfInput =>
      intro input position inside
      dsimp only
      split
      next => exact Match.inside_success_point inside
      next => exact Match.inside_failure_point (Nat.le_refl position) inside
  | identifier => exact Lettering.attempts _
  | literal input data => exact attempts_literal input data
  | leaf name label attempt =>
      rcases stock with ⟨expected, same⟩ | ⟨wanted, accepts, same⟩ | ⟨value, same⟩ |
        ⟨message, same⟩ <;> obtain rfl := Reference.leaf_inj same
      · exact attempts_item _ id _ _
      · exact attempts_item _ id _ _
      · exact fun input position => Match.inside_success_point
      · exact fun input position => Match.inside_failure_point (Nat.le_refl position)
  | _ => trivial

end Packrat
