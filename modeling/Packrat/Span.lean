/-!
# Spans

A span is the part of an input that a match covers: the positions from `start` up to,
and not including, `stop`.  The two ends are in order by construction.
-/

namespace Packrat

/-- A half-open range of positions. -/
structure Span where
  start : Nat
  stop : Nat
  ordered : start ≤ stop
deriving DecidableEq

namespace Span

theorem ext {a b : Span} (hstart : a.start = b.start) (hstop : a.stop = b.stop) :
    a = b := by
  cases a
  cases b
  cases hstart
  cases hstop
  rfl

/-- The span between two positions, which may come in either order. -/
def between (p q : Nat) : Span := ⟨min p q, max p q, by omega⟩

/-- The empty span at a position. -/
def point (position : Nat) : Span := ⟨position, position, Nat.le_refl _⟩

instance : Inhabited Span := ⟨point 0⟩

/-- How many items the span covers. -/
def length (s : Span) : Nat := s.stop - s.start

/-- A span with nothing in it. -/
def isEmpty (s : Span) : Bool := s.start == s.stop

/-- What two matches in a row cover together: from the start of the first to the end
of the second. -/
def join (s next : Span) : Span := between s.start next.stop

/-- The least span that covers both spans and whatever lies between them. -/
def cover (s t : Span) : Span := between (min s.start t.start) (max s.stop t.stop)

/-- The span as it is written in reports: `[0, 2)`. -/
def display (s : Span) : String := "[" ++ s.start.repr ++ ", " ++ s.stop.repr ++ ")"

@[simp] theorem start_point (p : Nat) : (point p).start = p := rfl

@[simp] theorem stop_point (p : Nat) : (point p).stop = p := rfl

@[simp] theorem start_between (p q : Nat) : (between p q).start = min p q := rfl

@[simp] theorem stop_between (p q : Nat) : (between p q).stop = max p q := rfl

theorem isEmpty_iff {s : Span} : s.isEmpty = true ↔ s.start = s.stop := by
  simp [isEmpty]

/-- Two spans that meet are joined without gap or overlap. -/
theorem join_of_meet {s t : Span} (h : s.stop = t.start) :
    (s.join t).start = s.start ∧ (s.join t).stop = t.stop := by
  have hs := s.ordered
  have ht := t.ordered
  simp only [join, start_between, stop_between]
  omega

end Span

end Packrat
