import Packrat.Proofs.Combinator.Translation
import Packrat.Proofs.Text.Offsets

/-!
# Leaves on the rest of a text

What a leaf matches in a text depends on the characters from its position on, and a
pattern is searched for as if the text began there.  So on the rest of a text, from some
position on, each leaf matches what it matches in the whole text that many positions
further on.
-/

namespace Packrat

variable {ω ρ : Type}

/-- The text made of the characters from a position on. -/
def Text.drop (t : Text) (k : Nat) : Text := ⟨t.chars.extract k⟩

namespace Text

variable (t : Text) (k : Nat)

@[simp] theorem length_drop : (t.drop k).length = t.length - k := by
  simp [drop, length]

theorem getElem?_drop (position : Nat) : (t.drop k).chars[position]? = t.chars[position + k]? := by
  simp only [drop, Array.getElem?_extract, Nat.add_comm k position]
  split
  next => rfl
  next outside =>
    have past : t.chars.size ≤ position + k := by omega
    exact (Array.getElem?_eq_none past).symm

theorem extract_drop (start stop : Nat) :
    (t.drop k).chars.extract start stop = t.chars.extract (start + k) (stop + k) := by
  apply Array.ext_getElem?
  intro index
  have there := getElem?_drop t k (start + index)
  rw [Nat.add_right_comm] at there
  have size := t.length_drop k
  simp only [length] at size
  simp only [Array.getElem?_extract, there, size]
  have same : index < min stop (t.chars.size - k) - start ↔
      index < min (stop + k) t.chars.size - (start + k) := by omega
  simp only [same]

theorem toList_drop : (t.drop k).chars.toList = t.chars.toList.drop k := by
  simp [drop, List.take_of_length_le]

theorem slice_drop (start stop : Nat) :
    (t.drop k).slice start stop = t.slice (start + k) (stop + k) := by
  have first : min (start + k) (stop + k) = min start stop + k := by omega
  have length : stop + k - (min start stop + k) = stop - min start stop := by omega
  rw [slice_eq_drop, slice_eq_drop, toList_drop, List.drop_take, List.drop_take, List.drop_drop,
    first, length, Nat.add_comm k]

variable {t k} (inside : k ≤ t.length)

include inside

theorem between?_drop (start stop : Nat) :
    (t.drop k).between? start stop = t.between? (start + k) (stop + k) := by
  have same : (start ≤ stop ∧ stop ≤ (t.drop k).length) ↔
      (start + k ≤ stop + k ∧ stop + k ≤ t.length) := by
    rw [length_drop]
    omega
  simp only [between?, same, extract_drop]

end Text

/-! ## What leaves look at -/

namespace Input

variable (t : Text) (k : Nat)

theorem item?_drop (position : Nat) :
    (text (t.drop k) : Input ω).item? position = (text t).item? (position + k) := by
  simp only [item?, Text.getElem?_drop]

theorem isEnd_drop (position : Nat) :
    (text (t.drop k) : Input ω).isEnd position = (text t : Input ω).isEnd (position + k) := by
  apply decide_eq_decide.mpr
  show (t.drop k).length ≤ position ↔ t.length ≤ position + k
  rw [Text.length_drop]
  omega

end Input

theorem Lettering.identifierStop_drop (letters : Lettering) (t : Text) (k : Nat)
    (remaining position : Nat) :
    letters.identifierStop t.chars remaining (position + k) =
      letters.identifierStop (t.drop k).chars remaining position + k := by
  induction remaining generalizing position with
  | zero => rfl
  | succ remaining induction =>
      rw [identifierStop, identifierStop, Text.getElem?_drop, Nat.add_right_comm]
      split
      next =>
        split
        next => exact induction (position + 1)
        next => rfl
      next => rfl

/-! ## Leaves -/

section Leaves

variable {t : Text} {k : Nat}

/-- The library's leaves for one item match the same further on. -/
theorem travels_item (accepts : Value ω → Bool) (missed none : String) :
    AttemptTravels (fun (input : Input ω) position =>
      match input.item? position with
      | some found =>
        if accepts found then .success (.between position (position + 1)) found
        else .failure missed (.point position)
      | Option.none => .failure none (.point position)) k (.text (t.drop k)) (.text t) := by
  intro position
  simp only [Input.item?_drop]
  cases (Input.text t).item? (position + k) with
  | none => rfl
  | some found =>
      dsimp only
      split
      next => simp [Span.shift_between, Nat.add_right_comm]
      next => rfl

theorem travels_identifier (letters : Lettering) :
    AttemptTravels (letters.attempt : Input ω → _) k (.text (t.drop k)) (.text t) := by
  intro position
  have left : (t.drop k).length - (position + 1) = t.length - (position + 1 + k) := by
    rw [Text.length_drop]
    omega
  simp only [Lettering.attempt, Text.getElem?_drop, left, Nat.add_right_comm position k 1,
    letters.identifierStop_drop, Text.slice_drop]
  split
  next => rw [Match.shift_success, Span.shift_between]
  next => rfl

variable (inside : k ≤ t.length)

include inside

theorem travels_text (content : String) :
    AttemptTravels (Literal.attemptText content : Input ω → _) k (.text (t.drop k)) (.text t) := by
  intro position
  simp only [Literal.attemptText, Text.between?_drop inside, Nat.add_right_comm position k]
  split
  next => rw [Match.shift_success, Span.shift_between]
  next => rfl

/-- A pattern is searched for in the rest of the text alone. -/
theorem travels_pattern (expression : String) (finder : Finder) :
    AttemptTravels (Literal.attemptPattern expression finder : Input ω → _) k
      (.text (t.drop k)) (.text t) := by
  intro position
  have sameRest : (t.drop k).chars.toList.drop position = t.chars.toList.drop (position + k) := by
    rw [Text.toList_drop, List.drop_drop, Nat.add_comm]
  cases searched : finder.find? (t.chars.toList.drop (position + k)) with
  | none =>
      rw [Literal.attemptPattern_of_find?_eq_none searched,
        Literal.attemptPattern_of_find?_eq_none (sameRest ▸ searched)]
      rfl
  | some ends =>
      obtain ⟨before, found, after, isRest, isFirst, isLast⟩ := finder.whole searched
      obtain ⟨first, last⟩ := ends
      cases isFirst
      cases isLast
      have stop : min (position + k + (before ++ found).length) t.length =
          min (position + (before ++ found).length) (t.drop k).length + k := by
        rw [Text.length_drop]
        omega
      rw [Literal.attemptPattern_of_find? isRest searched,
        Literal.attemptPattern_of_find? (sameRest.trans isRest) (sameRest ▸ searched), stop,
        Match.shift_success, Span.shift_between]

theorem travels_literal (kind : InputKind) (data : Literal) :
    AttemptTravels (Kind.attemptLiteral kind data : Input ω → _) k (.text (t.drop k))
      (.text t) := by
  intro position
  rw [Kind.attemptLiteral, Kind.attemptLiteral]
  cases attempted : (Literal.attempt? kind data :
      Except String (String × (Input ω → Nat → Match (Value ω)))) with
  | error message => rfl
  | ok leaf =>
      obtain ⟨name, attempt⟩ := leaf
      rcases Literal.attempt?_cases attempted with ⟨content, _, _, rfl⟩ |
        ⟨expression, finder, _, _, rfl⟩
      · exact travels_text inside content position
      · exact travels_pattern inside expression finder position

/-- The library's leaves match the same further on. -/
theorem Kind.Stock.travels [BEq ω] [Printable ω] {kind : Kind ω ρ} (stock : kind.Stock) :
    kind.plan.LeafTravels k (.text (t.drop k)) (.text t) := by
  cases kind with
  | any => exact travels_item (fun _ => true) "" _
  | endOfInput =>
      intro position
      simp only [Input.isEnd_drop]
      split
      next => rfl
      next => rfl
  | identifier => exact travels_identifier _
  | literal input data => exact travels_literal inside input data
  | leaf name label attempt =>
      rcases stock with ⟨expected, same⟩ | ⟨wanted, accepts, same⟩ | ⟨value, same⟩ |
        ⟨message, same⟩ <;> obtain rfl := Reference.leaf_inj same
      · exact travels_item _ _ _
      · exact travels_item _ _ _
      · exact fun _ => rfl
      · exact fun _ => rfl
  | _ => trivial

end Leaves

end Packrat
