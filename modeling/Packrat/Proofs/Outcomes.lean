import Packrat.Combinator.Choice
import Packrat.Combinator.Transform
import Packrat.Proofs.Meaning

/-!
# Matching and failing

What a parser means where it matches and where it fails, one combinator at a time.  A
`Reading` is all that the meaning of a parser depends on.  The messages of failures are left
out, as no combinator looks at them.
-/

namespace Packrat

variable {ω ρ : Type}

namespace Span

variable {p q r : Nat}

theorem stop_between_of_le (ordered : p ≤ q) : (between p q).stop = q :=
  Nat.max_eq_right ordered

theorem join_between (ordered : p ≤ q) (more : q ≤ r) :
    (between p q).join (between q r) = between p r := by
  rw [join, start_between, stop_between, Nat.min_eq_left ordered, Nat.max_eq_right more]

theorem between_self (p : Nat) : between p p = point p :=
  ext (Nat.min_self p) (Nat.max_self p)

theorem isEmpty_between (less : p < q) : (between p q).isEmpty = false := by
  rw [Bool.eq_false_iff, Ne, isEmpty_iff, start_between, stop_between]
  omega

end Span

theorem Match.farther_failure {α : Type} (message other : String) (span otherSpan : Span) :
    ∃ reason place, (failure message span).farther (failure other otherSpan) =
      (failure reason place : Match α) := by
  unfold farther
  split
  next => exact ⟨_, _, rfl⟩
  next => exact ⟨_, _, rfl⟩

/-- What kind of inputs the grammar is for, what the rules are, how parsers are described in
messages, what the input is, and what requests are answered with. -/
structure Reading (ω ρ : Type) where
  inputs : InputKind
  rules : Rules ω ρ
  describe : Reference ω ρ → String
  input : Input ω
  reply : ρ → Answer ω

namespace Reading

open Reference

variable (reading : Reading ω ρ)

abbrev Means (reference : Reference ω ρ) (position : Nat) (result : Match (Value ω)) : Prop :=
  reference.Means reading.inputs reading.rules reading.describe reading.input reading.reply
    position result

/-- A parser matches from one position up to another one, and gives a value. -/
structure Matches (reference : Reference ω ρ) (start stop : Nat) (value : Value ω) : Prop where
  ordered : start ≤ stop
  means : reading.Means reference start (.success (.between start stop) value)

/-- A parser fails at a position. -/
def Fails (reference : Reference ω ρ) (position : Nat) : Prop :=
  ∃ message span, reading.Means reference position (.failure message span)

/-- A parser is matched as often as can be, each time with a character or more. -/
inductive Collects (reference : Reference ω ρ) : Nat → Nat → List (Value ω) → Prop where
  | nil {position : Nat} :
      reading.Fails reference position → Collects reference position position []
  | cons {start middle stop : Nat} {value : Value ω} {values : List (Value ω)} :
      start < middle → reading.Matches reference start middle value →
      Collects reference middle stop values → Collects reference start stop (value :: values)

variable {reading} {first second body : Reference ω ρ} {p q r : Nat} {v w : Value ω}

theorem means_of_gives {reference : Reference ω ρ} {kind : Kind ω ρ}
    {parts : Fin kind.arity → Reference ω ρ} {result : Match (Value ω)}
    (reads : Reads reading.inputs reading.rules reference kind parts)
    (gives : kind.plan.Gives reading.input reading.reply
      (fun index => reading.describe (parts index)) (fun index => reading.Means (parts index)) p
      result) : reading.Means reference p result :=
  means_iff.mpr ⟨kind, parts, reads, gives⟩

/-! ## Rules -/

theorem Means.of_rule {name : String} {result : Match (Value ω)}
    (means : reading.Means (reading.rules name) p result) :
    reading.Means (.rule name) p result := by
  obtain ⟨kind, parts, reads, gives⟩ := means_iff.mp means
  exact means_of_gives (.opened (.rule name) reads) gives

theorem Matches.rule {name : String} (there : reading.Matches (reading.rules name) p q v) :
    reading.Matches (.rule name) p q v :=
  ⟨there.ordered, .of_rule there.means⟩

theorem Fails.rule {name : String} (fails : reading.Fails (reading.rules name) p) :
    reading.Fails (.rule name) p := by
  obtain ⟨message, span, means⟩ := fails
  exact ⟨message, span, .of_rule means⟩

/-! ## Pairs -/

section

variable {reference : Reference ω ρ} {kind : Kind ω ρ} {parts : Fin kind.arity → Reference ω ρ}
  {left right : Fin kind.arity} {combine : Combine ω ρ}

/-- What a pair means where both of its parts match. -/
theorem Matches.pair (reads : Reads reading.inputs reading.rules reference kind parts)
    (isPair : kind.plan = .pair left right combine)
    (here : reading.Matches (parts left) p q v) (there : reading.Matches (parts right) q r w) :
    reading.Means reference p
      (.ofVerdict rejected (.between p r) ((combine v w).outcome reading.reply)) := by
  apply means_of_gives reads
  rw [isPair, ← Span.join_between here.ordered there.ordered]
  refine .pair here.means ?_
  rw [Span.stop_between_of_le here.ordered]
  exact there.means

variable (reading) in
/-- The first of two parsers fails, or the second one fails where the first one stops. -/
def FailsInRow (first second : Reference ω ρ) (position : Nat) : Prop :=
  reading.Fails first position ∨
    ∃ middle value, reading.Matches first position middle value ∧ reading.Fails second middle

theorem FailsInRow.pair (fails : reading.FailsInRow (parts left) (parts right) p)
    (reads : Reads reading.inputs reading.rules reference kind parts)
    (isPair : kind.plan = .pair left right combine) : reading.Fails reference p := by
  rcases fails with ⟨message, span, fails⟩ | ⟨q, v, here, message, span, fails⟩
  · refine ⟨message, span, means_of_gives reads ?_⟩
    rw [isPair]
    exact .noFirst fails
  · refine ⟨message, span, means_of_gives reads ?_⟩
    rw [isPair]
    refine .noSecond here.means ?_
    rw [Span.stop_between_of_le here.ordered]
    exact fails

end

section

variable (here : reading.Matches first p q v) (there : reading.Matches second q r w)

include here there

theorem Matches.keepFirst : reading.Matches (.keepFirst first second) p r v :=
  ⟨here.ordered.trans there.ordered, Matches.pair (.node .keepFirst _ trivial) rfl here there⟩

theorem Matches.keepSecond : reading.Matches (.keepSecond first second) p r w :=
  ⟨here.ordered.trans there.ordered, Matches.pair (.node .keepSecond _ trivial) rfl here there⟩

theorem Matches.tryChain {combine : Combine ω ρ} {u : Value ω}
    (accepts : (combine v w).outcome reading.reply = some u) :
    reading.Matches (.tryChain combine first second) p r u := by
  have means : reading.Means (.tryChain combine first second) p _ :=
    Matches.pair (.node (.tryChain combine) _ trivial) rfl here there
  rw [accepts] at means
  exact ⟨here.ordered.trans there.ordered, means⟩

theorem Matches.fails_tryChain {combine : Combine ω ρ}
    (rejects : (combine v w).outcome reading.reply = none) :
    reading.Fails (.tryChain combine first second) p := by
  have means : reading.Means (.tryChain combine first second) p _ :=
    Matches.pair (.node (.tryChain combine) _ trivial) rfl here there
  rw [rejects] at means
  exact ⟨_, _, means⟩

theorem Matches.chain (combine : Value ω → Value ω → Value ω) :
    reading.Matches (.chain combine first second) p r (combine v w) :=
  here.tryChain there rfl

end

section

variable (fails : reading.FailsInRow first second p)

include fails

theorem Fails.keepFirst : reading.Fails (.keepFirst first second) p :=
  fails.pair (.node .keepFirst _ trivial) rfl

theorem Fails.keepSecond : reading.Fails (.keepSecond first second) p :=
  fails.pair (.node .keepSecond _ trivial) rfl

theorem Fails.tryChain (combine : Combine ω ρ) :
    reading.Fails (.tryChain combine first second) p :=
  fails.pair (.node (.tryChain combine) _ trivial) rfl

theorem Fails.chain (combine : Value ω → Value ω → Value ω) :
    reading.Fails (.chain combine first second) p :=
  Fails.tryChain fails _

end

/-! ## Choices and repetitions -/

theorem Matches.orElse_left (here : reading.Matches first p q v) :
    reading.Matches (.choice [first, second]) p q v :=
  ⟨here.ordered, means_of_gives (.node (.choice 2) _ trivial) (.choice (.taken here.means rfl))⟩

theorem Matches.orElse_right (fails : reading.Fails first p)
    (there : reading.Matches second p q v) : reading.Matches (.choice [first, second]) p q v := by
  obtain ⟨message, span, fails⟩ := fails
  exact ⟨there.ordered, means_of_gives (.node (.choice 2) _ trivial)
    (.choice (.passed fails rfl (.taken there.means rfl)))⟩

theorem Fails.orElse (fails : reading.Fails first p) (failsToo : reading.Fails second p) :
    reading.Fails (.choice [first, second]) p := by
  obtain ⟨message, span, fails⟩ := fails
  obtain ⟨other, otherSpan, failsToo⟩ := failsToo
  have means : reading.Means (.choice [first, second]) p
      ((Match.failure message span).farther (.failure other otherSpan)) :=
    means_of_gives (.node (.choice 2) _ trivial)
      (.choice (.passed fails rfl (.passed failsToo rfl (.exhausted _))))
  obtain ⟨_, _, isFailure⟩ := Match.farther_failure message other span otherSpan
  exact ⟨_, _, isFailure ▸ means⟩

theorem Matches.optional (here : reading.Matches body p q v) :
    reading.Matches (.optional body) p q (.present v) :=
  ⟨here.ordered, means_of_gives (.node .optional _ trivial) (.present here.means)⟩

theorem Fails.optional (fails : reading.Fails body p) :
    reading.Matches (.optional body) p p .absent := by
  obtain ⟨message, span, fails⟩ := fails
  refine ⟨Nat.le_refl p, ?_⟩
  rw [Span.between_self]
  exact means_of_gives (.node .optional _ trivial) (.absent fails)

theorem Collects.ordered {values : List (Value ω)} (collects : reading.Collects body p q values) :
    p ≤ q := by
  induction collects with
  | nil => exact Nat.le_refl _
  | cons less _ _ induction => omega

theorem Collects.repeats {values : List (Value ω)}
    (collects : reading.Collects body p q values) {start count : Nat} (before : start ≤ p)
    {earlier : List (Value ω)} {description : String} :
    Repeats (fun _ : Fin 1 => reading.Means body) .anyNumber description 0 count earlier
      (.between start p) (.success (.between start q) (.list (earlier.reverse ++ values))) := by
  induction collects generalizing count earlier with
  | @nil p fails =>
      obtain ⟨message, span, fails⟩ := fails
      rw [List.append_nil]
      have there : reading.Means body (Span.between start p).stop (.failure message span) := by
        rw [Span.stop_between_of_le before]
        exact fails
      exact .failed rfl there
  | @cons p middle q value values less here rest induction =>
      have there : reading.Means body (Span.between start p).stop
          (.success (.between p middle) value) := by
        rw [Span.stop_between_of_le before]
        exact here.means
      refine .again rfl there (Span.isEmpty_between less) ?_
      rw [Span.join_between before here.ordered, show earlier.reverse ++ value :: values =
        (value :: earlier).reverse ++ values by simp]
      exact induction (before.trans here.ordered)

/-- A repetition gives all that is collected. -/
theorem Collects.many {values : List (Value ω)} (collects : reading.Collects body p q values) :
    reading.Matches (.many body) p q (.list values) := by
  refine ⟨collects.ordered, means_of_gives (.node (.repeated .anyNumber) _ trivial) (.repeated ?_)⟩
  rw [← Span.between_self]
  exact collects.repeats (Nat.le_refl p)

/-! ## Functions of the caller -/

theorem Matches.transform {name message : String} {f : Transform ω ρ}
    (here : reading.Matches body p q v) :
    reading.Means (.transform name false message f body) p
      (.ofVerdict message (.between p q) ((f v (.between p q)).outcome reading.reply)) :=
  means_of_gives (.node (.transform name message f) _ trivial) (.transform here.means)

theorem Fails.transform (fails : reading.Fails body p) (name message : String)
    (f : Transform ω ρ) : reading.Fails (.transform name false message f body) p := by
  obtain ⟨reason, span, fails⟩ := fails
  exact ⟨reason, span,
    means_of_gives (.node (.transform name message f) _ trivial) (.nothing fails)⟩

theorem Matches.map (here : reading.Matches body p q v) (f : Value ω → Value ω) :
    reading.Matches (.map f body) p q (f v) :=
  ⟨here.ordered, here.transform⟩

theorem Matches.tryMap (here : reading.Matches body p q v)
    {f : Value ω → Span → Option (Value ω)} (accepts : f v (.between p q) = some w) :
    reading.Matches (.tryMap f body) p q w := by
  have means : reading.Means (.tryMap f body) p _ := here.transform
  rw [Act.outcome, accepts] at means
  exact ⟨here.ordered, means⟩

theorem Matches.fails_tryMap (here : reading.Matches body p q v)
    {f : Value ω → Span → Option (Value ω)} (rejects : f v (.between p q) = none) :
    reading.Fails (.tryMap f body) p := by
  have means : reading.Means (.tryMap f body) p _ := here.transform
  rw [Act.outcome, rejects] at means
  exact ⟨_, _, means⟩

theorem Matches.replace (here : reading.Matches body p q v) (value : Value ω) :
    reading.Matches (.replace value body) p q value :=
  ⟨here.ordered, here.transform⟩

theorem Matches.discard (here : reading.Matches body p q v) :
    reading.Matches (.discard body) p q .unit :=
  ⟨here.ordered, means_of_gives (.node .discard _ trivial) (.transform here.means)⟩

theorem Matches.onFail (here : reading.Matches body p q v) (message : String) :
    reading.Matches (.onFail message body) p q v :=
  ⟨here.ordered, means_of_gives (.node (.onFail message) _ trivial) (.matched here.means)⟩

theorem Fails.onFail (fails : reading.Fails body p) (message : String) :
    reading.Fails (.onFail message body) p := by
  obtain ⟨reason, span, fails⟩ := fails
  exact ⟨message, span, means_of_gives (.node (.onFail message) _ trivial) (.onFail fails)⟩

end Reading

end Packrat
