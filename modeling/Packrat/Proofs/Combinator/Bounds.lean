import Packrat.Combinator.Bounds
import Packrat.Proofs.Text.Quoted

/-!
# Reading bounds back

Bounds that are written alike, as regular expressions write them, are the same bounds.
-/

namespace Packrat

namespace Bounds

/-- What stands after the least count of bounds in braces. -/
def tail (least : Nat) : Option Nat → List Char
  | none => [',']
  | some most => if least = most then [] else ',' :: Nat.toDigits 10 most

theorem tail_inj {least : Nat} {most other : Option Nat}
    (same : tail least most = tail least other) : most = other := by
  have notAlone : ∀ count, tail least (some count) ≠ [','] := by
    intro count alone
    simp only [tail] at alone
    split at alone
    next => cases alone
    next => exact Nat.toDigits_ne_nil (List.cons.inj alone).2
  cases most with
  | none =>
      cases other with
      | none => rfl
      | some count => exact absurd same.symm (notAlone count)
  | some count =>
      cases other with
      | none => exact absurd same (notAlone count)
      | some otherCount =>
          simp only [tail] at same
          split at same <;> split at same
          next first second => rw [← first, ← second]
          next => cases same
          next => cases same
          next =>
            rw [toDigits_inj (by decide) (by decide) (List.cons.inj same).2]

theorem tail_cases (least : Nat) (most : Option Nat) :
    tail least most = [] ∨ ∃ rest, tail least most = ',' :: rest := by
  cases most with
  | none => exact .inr ⟨[], rfl⟩
  | some count =>
      simp only [tail]
      split
      next => exact .inl rfl
      next => exact .inr ⟨_, rfl⟩

theorem comma_notMem_toDigits (n : Nat) : ',' ∉ Nat.toDigits 10 n := by
  intro member
  obtain ⟨digit, isDigit⟩ := mem_toDigits (by decide) member
  exact absurd isDigit.symm (Nat.digitChar_ne _ (by decide))

/-- A count and what stands after it. -/
theorem digits_tail_inj {least otherLeast : Nat} {most otherMost : Option Nat}
    (same : Nat.toDigits 10 least ++ tail least most =
      Nat.toDigits 10 otherLeast ++ tail otherLeast otherMost) :
    least = otherLeast ∧ most = otherMost := by
  have counts : Nat.toDigits 10 least = Nat.toDigits 10 otherLeast →
      least = otherLeast ∧ most = otherMost := by
    intro digits
    cases toDigits_inj (by decide) (by decide) digits
    exact ⟨rfl, tail_inj (List.append_cancel_left same)⟩
  rcases tail_cases least most with none | ⟨rest, some⟩
  · rcases tail_cases otherLeast otherMost with otherNone | ⟨otherRest, otherSome⟩
    · rw [none, otherNone, List.append_nil, List.append_nil] at same
      exact counts same
    · rw [none, otherSome, List.append_nil] at same
      exact absurd (same ▸ by simp) (comma_notMem_toDigits least)
  · rcases tail_cases otherLeast otherMost with otherNone | ⟨otherRest, otherSome⟩
    · rw [some, otherNone, List.append_nil] at same
      exact absurd (same ▸ by simp) (comma_notMem_toDigits otherLeast)
    · rw [some, otherSome] at same
      exact counts
        (append_cons_inj (comma_notMem_toDigits _) (comma_notMem_toDigits _) same).1

theorem toList_suffix (bounds : Bounds) :
    (bounds = anyNumber ∧ bounds.suffix.toList = ['*']) ∨
    (bounds = atLeastOnce ∧ bounds.suffix.toList = ['+']) ∨
    bounds.suffix.toList = '\x7b' ::
      (Nat.toDigits 10 bounds.least ++ tail bounds.least bounds.most ++ ['\x7d']) := by
  obtain ⟨least, most⟩ := bounds
  cases most with
  | none =>
      match least with
      | 0 => exact .inl ⟨rfl, rfl⟩
      | 1 => exact .inr (.inl ⟨rfl, rfl⟩)
      | more + 2 => exact .inr (.inr (by simp [suffix, tail]))
  | some count =>
      refine .inr (.inr ?_)
      by_cases same : least = count
      · simp [suffix, tail, same]
      · simp [suffix, tail, same]

theorem suffix_inj {first second : Bounds} (same : first.suffix = second.suffix) :
    first = second := by
  have lists := congrArg String.toList same
  rcases toList_suffix first with ⟨isFirst, spelled⟩ | ⟨isFirst, spelled⟩ | spelled <;>
    rcases toList_suffix second with ⟨isSecond, other⟩ | ⟨isSecond, other⟩ | other <;>
    rw [spelled, other] at lists
  · rw [isFirst, isSecond]
  · cases lists
  · cases lists
  · cases lists
  · rw [isFirst, isSecond]
  · cases lists
  · cases lists
  · cases lists
  · obtain ⟨inner, _⟩ := List.append_inj' (List.cons.inj lists).2 rfl
    obtain ⟨least, most⟩ := digits_tail_inj inner
    obtain ⟨_, _⟩ := first
    obtain ⟨_, _⟩ := second
    cases least
    cases most
    rfl

end Bounds

end Packrat
