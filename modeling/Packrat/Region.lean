import Packrat.Caret

/-!
# Regions

A region is the stretch of a text between two carets.  Regions meet in a region when
they share characters, and an empty region meets whatever it touches.
-/

namespace Packrat

/-- The stretch of a text from one caret to another, in order. -/
structure Region where
  start : Caret
  stop : Caret
  ordered : start ≤ stop
deriving DecidableEq

namespace Region

/-- The region between two carets, which may come in either order. -/
def between (a b : Caret) : Region :=
  if h : a ≤ b then ⟨a, b, h⟩ else ⟨b, a, (Caret.le_total a b).resolve_left h⟩

def isEmpty (r : Region) : Bool := r.start == r.stop

/-- The part that two regions have in common.  Regions that only touch have none,
unless one of them is empty. -/
def intersection (r s : Region) : Option Region :=
  let stop := r.stop.earlier s.stop
  let start := r.start.later s.start
  if start < stop ∨ (start = stop ∧ (r.isEmpty ∨ s.isEmpty)) then
    some (between start stop)
  else
    none

/-- The least region that covers both. -/
def cover (r s : Region) : Region :=
  between (r.start.earlier s.start) (r.stop.later s.stop)

/-- The region as people write it: `1:1-1:4`. -/
def display (r : Region) : String := r.start.display ++ "-" ++ r.stop.display

theorem between_of_le {a b : Caret} (h : a ≤ b) : between a b = ⟨a, b, h⟩ := by
  simp [between, h]

end Region

end Packrat
