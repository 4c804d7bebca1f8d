import Packrat.Proofs.Calculator.Expressions
import Packrat.Proofs.Combinator.Extent
import Packrat.Proofs.Outcomes
import Packrat.Proofs.Pattern.Greedy

/-!
# Tokens

What the parsers of single tokens match, in terms of the characters that are left of the
text where they are tried.
-/

namespace Packrat

namespace Text

variable {t : Text} {p : Nat} {taken rest : List Char}

/-- What is left of a text at a position. -/
structure Left (t : Text) (position : Nat) (chars : List Char) : Prop where
  inside : position ≤ t.length
  eq : t.chars.toList.drop position = chars

namespace Left

theorem start (t : Text) : t.Left 0 t.chars.toList := ⟨Nat.zero_le _, rfl⟩

theorem length_eq {chars : List Char} (left : t.Left p chars) :
    p + chars.length = t.length := by
  have inside := left.inside
  rw [← left.eq, List.length_drop, Array.length_toList, ← Text.length]
  omega

theorem advance (left : t.Left p (taken ++ rest)) : t.Left (p + taken.length) rest := by
  have whole := left.length_eq
  rw [List.length_append] at whole
  refine ⟨by omega, ?_⟩
  rw [← List.drop_drop, left.eq, List.drop_left]

theorem next {c : Char} (left : t.Left p (c :: rest)) : t.Left (p + 1) rest :=
  @advance t p [c] rest left

theorem extract {chars : List Char} (left : t.Left p chars) (count : Nat) :
    (t.chars.extract p (p + count)).toList = chars.take count := by
  rw [Array.toList_extract, List.extract_eq_take_drop, left.eq, Nat.add_sub_cancel_left]

theorem slice (left : t.Left p (taken ++ rest)) : t.slice p (p + taken.length) = taken := by
  rw [slice_eq_drop, Nat.min_eq_left (Nat.le_add_right ..), List.drop_take, left.eq,
    Nat.add_sub_cancel_left, List.take_left]

theorem between? {chars : List Char} (left : t.Left p chars) (count : Nat) :
    t.between? p (p + count) = if count ≤ chars.length then some (chars.take count) else none := by
  have whole := left.length_eq
  rw [Text.between?, left.extract]
  exact if_congr (by omega) rfl rfl

end Left

end Text

/-! ## Literals of a text -/

namespace Reading

open Reference

variable {ω ρ : Type} {reading : Reading ω ρ} {t : Text} {p : Nat} {taken rest chars : List Char}

/-- A text is read, in a language of patterns. -/
structure OfText (reading : Reading ω ρ) (language : PatternLanguage) (t : Text) : Prop where
  inputs : reading.inputs = .ofText language
  input : reading.input = .text t

/-- A parser matches at a position and gives a value, and leaves so much of the text. -/
def Leaves (reading : Reading ω ρ) (t : Text) (reference : Reference ω ρ) (position : Nat)
    (rest : List Char) (value : Value ω) : Prop :=
  ∃ stop, t.Left stop rest ∧ reading.Matches reference position stop value

theorem means_literal (reading : Reading ω ρ) (data : Literal) (position : Nat) :
    reading.Means (.literal data) position
      (Kind.attemptLiteral reading.inputs data reading.input position) :=
  means_of_gives (.literal data) (.leaf _)

variable {language : PatternLanguage} (isText : reading.OfText language t)

include isText

section

variable (content : String)

theorem Leaves.text (left : t.Left p (content.toList ++ rest)) :
    reading.Leaves t (.text content) p rest (.text content) := by
  refine ⟨_, left.advance, Nat.le_add_right .., ?_⟩
  have means := reading.means_literal (.text content) p
  have found := left.between? content.toList.length
  rw [List.length_append, if_pos (Nat.le_add_right ..), List.take_left] at found
  have succeeds : Kind.attemptLiteral reading.inputs (.text content) reading.input p =
      .success (.between p (p + content.toList.length)) (.text content) := by
    rw [isText.inputs, isText.input, Kind.attemptLiteral]
    exact if_pos found
  exact succeeds ▸ means

theorem Fails.text (left : t.Left p chars) (differs : ¬content.toList <+: chars) :
    reading.Fails (.text content) p := by
  have means := reading.means_literal (.text content) p
  have notFound : t.between? p (p + content.toList.length) ≠ some content.toList := by
    rw [left.between?]
    intro found
    obtain ⟨_, same⟩ := Option.ite_none_right_eq_some.mp found
    exact differs (Option.some.inj same ▸ List.take_prefix ..)
  have fails : Kind.attemptLiteral reading.inputs (.text content) reading.input p =
      .failure ("expected " ++ quote content) (.point p) := by
    rw [isText.inputs, isText.input, Kind.attemptLiteral]
    exact if_neg notFound
  exact ⟨_, _, fails ▸ means⟩

end

section

variable {expression : String} {finder : Finder}
  (compiled : language.compile? (Literal.anchored expression) = some finder)

include compiled

theorem attemptLiteral_pattern :
    Kind.attemptLiteral reading.inputs (.pattern expression) reading.input p =
      Literal.attemptPattern expression finder (.text t) p := by
  rw [isText.inputs, isText.input]
  simp [Kind.attemptLiteral, Literal.attempt?, compiled]

theorem Leaves.pattern (left : t.Left p (taken ++ rest))
    (found : finder.find? (taken ++ rest) = some (0, Text.byteLength taken)) :
    reading.Leaves t (.pattern expression) p rest (.text (String.ofList taken)) := by
  refine ⟨_, left.advance, Nat.le_add_right .., ?_⟩
  have means := reading.means_literal (.pattern expression) p
  have isRest : t.chars.toList.drop p = [] ++ taken ++ rest := left.eq
  rw [attemptLiteral_pattern isText compiled,
    Literal.attemptPattern_of_find? isRest (left.eq.symm ▸ found),
    Nat.min_eq_left (Text.length_append_le left.inside isRest)] at means
  exact means

theorem Fails.pattern (left : t.Left p chars) (missing : finder.find? chars = none) :
    reading.Fails (.pattern expression) p := by
  have means := reading.means_literal (.pattern expression) p
  rw [attemptLiteral_pattern isText compiled,
    Literal.attemptPattern_of_find?_eq_none (left.eq.symm ▸ missing)] at means
  exact ⟨_, _, means⟩

end

end Reading

/-! ## Decimal numbers -/

namespace Calculator

open Pattern.Program

/-- Characters end where something of a sort does not go on. -/
def Stops (sort : Char → Bool) (rest : List Char) : Prop := ∀ c ∈ rest.head?, sort c = false

theorem takeWhile_append {sort : Char → Bool} {taken rest : List Char}
    (each : ∀ c ∈ taken, sort c = true) (stops : Stops sort rest) :
    (taken ++ rest).takeWhile sort = taken ∧ (taken ++ rest).dropWhile sort = rest := by
  rw [List.takeWhile_append_of_pos each, List.dropWhile_append_of_pos each]
  cases rest with
  | nil => simp
  | cons c rest =>
      have stop : sort c = false := stops c rfl
      simp [stop]

theorem stops_dropWhile (sort : Char → Bool) (chars : List Char) :
    Stops sort (chars.dropWhile sort) := by
  intro c isFirst
  have stop := List.head?_dropWhile_not sort chars
  rw [Option.mem_def.mp isFirst] at stop
  exact stop

theorem Digits.takeWhile_append {digits rest : List Char} (isDigits : Digits digits)
    (stops : Stops Char.isDigit rest) :
    (digits ++ rest).takeWhile Char.isDigit = digits ∧
      (digits ++ rest).dropWhile Char.isDigit = rest :=
  Calculator.takeWhile_append isDigits.2 stops

theorem digits_takeWhile {chars : List Char} (first : chars.head?.any Char.isDigit = true) :
    Digits (chars.takeWhile Char.isDigit) := by
  refine ⟨?_, fun _ => List.mem_takeWhile_imp⟩
  cases chars with
  | nil => cases first
  | cons c rest => simp [show c.isDigit = true from first]

theorem pointLength_eq_zero {rest : List Char} (noPoint : rest.head? ≠ some '.') :
    pointLength rest = 0 := by
  unfold pointLength
  split
  next => exact absurd rfl noPoint
  next => rfl

theorem pointLength_point {rest : List Char} (first : rest.head?.any Char.isDigit = true) :
    pointLength ('.' :: rest) = 1 + (rest.takeWhile Char.isDigit).length := if_pos first

theorem decimalLength_append {digits rest : List Char} (isDigits : Digits digits)
    (stops : Stops Char.isDigit rest) :
    decimalLength (digits ++ rest) = digits.length + pointLength rest := by
  obtain ⟨taken, left⟩ := isDigits.takeWhile_append stops
  rw [decimalLength, taken, left]

/-- The search takes the number that there is, if it does not go on after it. -/
theorem Decimal.length_eq {digits rest : List Char} (decimal : Decimal digits)
    (stops : Stops (fun c => c.isDigit || c == '.') rest) :
    decimalLength (digits ++ rest) = digits.length := by
  have noDigit : Stops Char.isDigit rest :=
    fun c isFirst => (Bool.or_eq_false_iff.mp (stops c isFirst)).1
  cases decimal with
  | whole isDigits =>
      have noPoint : rest.head? ≠ some '.' := fun isPoint => absurd (stops _ isPoint) (by decide)
      rw [decimalLength_append isDigits noDigit, pointLength_eq_zero noPoint, Nat.add_zero]
  | @fraction whole more isWhole isMore =>
      have stopsHere : Stops Char.isDigit ('.' :: (more ++ rest)) := by
        rintro _ ⟨⟩
        rfl
      have first : (more ++ rest).head?.any Char.isDigit = true := by
        obtain ⟨c, _, rfl, isDigit⟩ := isMore.exists_cons
        exact isDigit
      obtain ⟨taken, _⟩ := isMore.takeWhile_append noDigit
      rw [List.append_assoc, List.cons_append, decimalLength_append isWhole stopsHere,
        pointLength_point first, taken, List.length_append, List.length_cons, Nat.add_comm 1]

/-- Where there is a digit, the search takes a number. -/
theorem exists_decimal {chars : List Char} (first : chars.head?.any Char.isDigit = true) :
    ∃ digits rest, chars = digits ++ rest ∧ Decimal digits ∧
      decimalLength chars = digits.length := by
  have isWhole := digits_takeWhile first
  have parts : chars.takeWhile Char.isDigit ++ chars.dropWhile Char.isDigit = chars :=
    List.takeWhile_append_dropWhile
  by_cases point : ∃ more, chars.dropWhile Char.isDigit = '.' :: more ∧
      more.head?.any Char.isDigit = true
  · obtain ⟨more, isRest, firstThen⟩ := point
    refine ⟨_, more.dropWhile Char.isDigit, ?_, .fraction isWhole (digits_takeWhile firstThen), ?_⟩
    · rw [List.append_assoc, List.cons_append, List.takeWhile_append_dropWhile, ← isRest, parts]
    · rw [decimalLength, isRest, pointLength_point firstThen, List.length_append,
        List.length_cons, Nat.add_comm 1]
  · refine ⟨_, _, parts.symm, .whole isWhole, ?_⟩
    have nothing : pointLength (chars.dropWhile Char.isDigit) = 0 := by
      unfold pointLength
      split
      next more isRest => exact if_neg fun firstThen => point ⟨more, isRest, firstThen⟩
      next => rfl
    rw [decimalLength, nothing, Nat.add_zero]

theorem exists_blanks (chars : List Char) :
    ∃ blanks rest, chars = blanks ++ rest ∧ Blank blanks ∧ Stops whiteSpace.contains rest :=
  ⟨chars.takeWhile whiteSpace.contains, chars.dropWhile whiteSpace.contains,
    List.takeWhile_append_dropWhile.symm, fun _ => List.mem_takeWhile_imp,
    stops_dropWhile whiteSpace.contains chars⟩

/-! ## Tokens -/

section

variable {F : Type} {reading : Reading (Term F) Empty} {t : Text}
  (isText : reading.OfText Pattern.language t) {p : Nat} {blanks rest chars : List Char}

include isText

/-- Blanks are taken until there are no more. -/
theorem leaves_whitespace (left : t.Left p (blanks ++ rest)) (isBlank : Blank blanks)
    (stops : Stops whiteSpace.contains rest) :
    reading.Leaves t whitespace p rest .unit := by
  have found : Pattern.blanksProgram.finder.find? (blanks ++ rest) =
      some (0, Text.byteLength blanks) := by
    rw [find?_finder (find?_blanks _ 0), List.drop_zero, (takeWhile_append isBlank stops).1,
      List.take_left]
  obtain ⟨q, there, matched⟩ := Reading.Leaves.pattern isText Pattern.compile?_blanks left found
  exact ⟨q, there, matched.discard⟩

section

variable {content : String} {c : Char} (isContent : content.toList = [c])

include isContent

theorem leaves_token (left : t.Left p (c :: (blanks ++ rest))) (isBlank : Blank blanks)
    (stops : Stops whiteSpace.contains rest) :
    reading.Leaves t (token content) p rest (.text content) := by
  rw [← List.singleton_append, ← isContent] at left
  obtain ⟨q, there, matched⟩ := Reading.Leaves.text isText content left
  obtain ⟨r, thereThen, blank⟩ := leaves_whitespace isText there isBlank stops
  exact ⟨r, thereThen, matched.keepFirst blank⟩

theorem fails_token (left : t.Left p chars) (other : chars.head? ≠ some c) :
    reading.Fails (token content) p := by
  refine Reading.Fails.keepFirst (.inl (.text isText content left ?_))
  rintro ⟨more, rfl⟩
  rw [isContent] at other
  exact other rfl

/-- A token and all blanks after it are taken, or the token is not there. -/
theorem token_cases (left : t.Left p chars) :
    (∃ blanks rest, chars = c :: (blanks ++ rest) ∧ Blank blanks ∧
      reading.Leaves t (token content) p rest (.text content)) ∨
    chars.head? ≠ some c ∧ reading.Fails (token content) p := by
  by_cases first : chars.head? = some c
  · obtain ⟨more, rfl⟩ := List.head?_eq_some_iff.mp first
    obtain ⟨blanks, rest, rfl, isBlank, stops⟩ := exists_blanks more
    exact .inl ⟨blanks, rest, rfl, isBlank, leaves_token isText isContent left isBlank stops⟩
  · exact .inr ⟨first, fails_token isText isContent left first⟩

end

/-! ## Numbers -/

/-- A number is taken as long as it goes on, and all blanks after it. -/
theorem leaves_digits {digits : List Char} (left : t.Left p (digits ++ (blanks ++ rest)))
    (decimal : Decimal digits)
    (taken : decimalLength (digits ++ (blanks ++ rest)) = digits.length) (isBlank : Blank blanks)
    (stops : Stops whiteSpace.contains rest) :
    reading.Leaves t (.keepFirst (.pattern "[0-9]+(\\.[0-9]+)?") whitespace) p rest
      (.text (String.ofList digits)) := by
  have first : (digits ++ (blanks ++ rest)).head?.any Char.isDigit = true := by
    obtain ⟨c, _, rfl, isDigit⟩ := decimal.exists_cons
    exact isDigit
  have search : Pattern.decimalProgram.find? (digits ++ (blanks ++ rest)).toArray 0 =
      some (0, digits.length) := by
    rw [find?_decimal, List.drop_zero, if_pos first, taken]
  have found : Pattern.decimalProgram.finder.find? (digits ++ (blanks ++ rest)) =
      some (0, Text.byteLength digits) := by
    rw [find?_finder search, List.take_left]
  obtain ⟨q, there, matched⟩ := Reading.Leaves.pattern isText Pattern.compile?_decimal left found
  obtain ⟨r, thereThen, blank⟩ := leaves_whitespace isText there isBlank stops
  exact ⟨r, thereThen, matched.keepFirst blank⟩

variable (a : Arithmetic F)

theorem leaves_number {digits : List Char} {x : F}
    (left : t.Left p (digits ++ (blanks ++ rest))) (decimal : Decimal digits)
    (taken : decimalLength (digits ++ (blanks ++ rest)) = digits.length) (isBlank : Blank blanks)
    (stops : Stops whiteSpace.contains rest) (isRead : a.read (String.ofList digits) = some x) :
    reading.Leaves t (number a) p rest (.datum (.number x)) := by
  obtain ⟨q, there, matched⟩ := leaves_digits isText left decimal taken isBlank stops
  exact ⟨q, there, (matched.tryMap (by simp only [isRead, Option.map_some])).onFail _⟩

theorem fails_number (left : t.Left p chars) (noDigit : ¬chars.head?.any Char.isDigit = true) :
    reading.Fails (number a) p := by
  have missing : Pattern.decimalProgram.find? chars.toArray 0 = none := by
    rw [find?_decimal, List.drop_zero, if_neg noDigit]
  have fails : reading.Fails (.pattern "[0-9]+(\\.[0-9]+)?") p :=
    .pattern isText Pattern.compile?_decimal left (find?_finder_eq_none missing)
  have row : reading.FailsInRow (.pattern "[0-9]+(\\.[0-9]+)?") whitespace p := .inl fails
  exact ((Reading.Fails.keepFirst row).transform _ _ _).onFail _

/-- A number and all blanks after it are taken, or there is none that can be read. -/
theorem number_cases (left : t.Left p chars) :
    (∃ digits blanks rest x, chars = digits ++ (blanks ++ rest) ∧ Decimal digits ∧
      Blank blanks ∧ a.read (String.ofList digits) = some x ∧
      reading.Leaves t (number a) p rest (.datum (.number x))) ∨
    reading.Fails (number a) p := by
  by_cases first : chars.head?.any Char.isDigit = true
  · obtain ⟨digits, after, rfl, decimal, taken⟩ := exists_decimal first
    obtain ⟨blanks, rest, rfl, isBlank, stops⟩ := exists_blanks after
    cases isRead : a.read (String.ofList digits) with
    | some x =>
        exact .inl ⟨digits, blanks, rest, x, rfl, decimal, isBlank, isRead,
          leaves_number isText a left decimal taken isBlank stops isRead⟩
    | none =>
        obtain ⟨q, _, matched⟩ := leaves_digits isText left decimal taken isBlank stops
        refine .inr (Reading.Fails.onFail (matched.fails_tryMap ?_) _)
        simp only [isRead, Option.map_none]
  · exact .inr (fails_number isText a left first)

end

end Calculator

end Packrat
