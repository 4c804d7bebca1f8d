/-!
# Bounds

How many times something is repeated.  A range of counts is turned into a least count
and, if there is one, a largest; excluding a count moves the end by one, as far as
counts go.
-/

namespace Packrat

/-- One end of a range of counts. -/
inductive CountLimit where
  | unbounded
  | included (count : Nat)
  | excluded (count : Nat)

/-- The largest count there is. -/
def largestCount : Nat := 18446744073709551615

/-- How many times something is repeated. -/
structure Bounds where
  least : Nat
  most : Option Nat
deriving DecidableEq

namespace Bounds

/-- The bounds of a range of counts. -/
def ofRange (lower upper : CountLimit) : Bounds :=
  { least := match lower with
      | .unbounded => 0
      | .included count => count
      | .excluded count => min (count + 1) largestCount
    most := match upper with
      | .unbounded => none
      | .included count => some count
      | .excluded count => some (count - 1) }

/-- Any number of times. -/
def anyNumber : Bounds := ⟨0, none⟩

/-- Once or more. -/
def atLeastOnce : Bounds := ⟨1, none⟩

/-- Whether nothing may be matched after `count` times. -/
def full (bounds : Bounds) (count : Nat) : Bool := bounds.most.any (· ≤ count)

/-- Whether `count` times is enough and not too often. -/
def allows (bounds : Bounds) (count : Nat) : Bool :=
  bounds.least ≤ count && bounds.most.all (count ≤ ·)

/-- The bounds as they are written in regular expressions. -/
def suffix (bounds : Bounds) : String :=
  match bounds.least, bounds.most with
  | 0, none => "*"
  | 1, none => "+"
  | least, none => "\x7b" ++ least.repr ++ ",\x7d"
  | least, some most =>
    if least = most then "\x7b" ++ least.repr ++ "\x7d"
    else "\x7b" ++ least.repr ++ "," ++ most.repr ++ "\x7d"

/-- The bounds in words. -/
def inWords (bounds : Bounds) : String :=
  match bounds.most with
  | none => "at least " ++ bounds.least.repr
  | some most =>
    if bounds.least = most then "exactly " ++ bounds.least.repr
    else "between " ++ bounds.least.repr ++ " and " ++ most.repr

theorem full_iff {bounds : Bounds} {count : Nat} :
    bounds.full count = true ↔ ∃ most, bounds.most = some most ∧ most ≤ count := by
  cases h : bounds.most <;> simp [full, h]

theorem allows_iff {bounds : Bounds} {count : Nat} :
    bounds.allows count = true ↔
      bounds.least ≤ count ∧ ∀ most, bounds.most = some most → count ≤ most := by
  cases h : bounds.most <;> simp [allows, h]

end Bounds

end Packrat
