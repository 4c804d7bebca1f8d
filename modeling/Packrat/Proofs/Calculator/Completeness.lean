import Packrat.Proofs.Calculator.Parsing

/-!
# Every expression is parsed

A phrase of the grammar that has a value is taken as a whole, if what follows it is the end
of the text or a character that can follow it.  So neither a choice nor a repetition cuts
off a derivation.
-/

namespace Packrat.Calculator

/-- The characters that can follow a phrase. -/
def Phrase.follow : Phrase → List Char
  | .row .sum => [')']
  | .row .product => [')', '+', '-']
  | .unary | .power => [')', '+', '-', '*', '/']
  | .atom => [')', '+', '-', '*', '/', '^']

/-- What follows a phrase lets it end. -/
def Closes (phrase : Phrase) (rest : List Char) : Prop := ∀ c ∈ rest.head?, c ∈ phrase.follow

/-- Whatever can follow a phrase can follow an atom. -/
theorem follow_atom (phrase : Phrase) : phrase.follow ⊆ Phrase.atom.follow := by
  rcases phrase with (_ | _) | _ | _ | _ <;> simp [Phrase.follow]

theorem follow_operand (row : Level) : (Phrase.row row).follow ⊆ row.operand.follow := by
  cases row <;> simp [Phrase.follow, Level.operand]

theorem symbol_follow {op : Operator} {row : Level} (isLevel : level op = row) :
    symbol op ∈ row.operand.follow ∧ symbol op ∉ (Phrase.row row).follow := by
  subst isLevel
  cases op <;> decide

theorem Closes.nil (phrase : Phrase) : Closes phrase [] := nofun

theorem Closes.cons {phrase : Phrase} {c : Char} (member : c ∈ phrase.follow) (rest : List Char) :
    Closes phrase (c :: rest) := by
  rintro _ ⟨⟩
  exact member

theorem Closes.mono {phrase other : Phrase} {rest : List Char} (closes : Closes phrase rest)
    (more : phrase.follow ⊆ other.follow) : Closes other rest :=
  fun c first => more (closes c first)

theorem Closes.operand {row : Level} {rest : List Char} (closes : Closes (.row row) rest)
    {items : List Item} (isItems : ∀ item ∈ items, level item.op = row ∧ Blank item.blanks) :
    Closes row.operand (items.flatMap Item.chars ++ rest) := by
  cases items with
  | nil => exact closes.mono (follow_operand row)
  | cons item items => exact .cons (symbol_follow (isItems item List.mem_cons_self).1).1 _

/-! ## Where tokens end -/

/-- Digits are no blanks. -/
theorem contains_of_isDigit {c : Char} (isDigit : c.isDigit = true) :
    whiteSpace.contains c = false := by
  have each : ∀ n, n < 58 → 48 ≤ n → (countUpTo whiteSpace.changes n % 2 == 1) = false := by
    decide +kernel
  simp only [Char.isDigit, Bool.and_eq_true, decide_eq_true_eq, ge_iff_le,
    UInt32.le_iff_toNat_le] at isDigit
  exact each c.toNat (Nat.lt_succ_of_le isDigit.2) isDigit.1

theorem contains_of_mem (c : Char) (member : c ∈ Phrase.atom.follow) :
    whiteSpace.contains c = false := by
  have each : (Phrase.atom.follow.all fun c => !whiteSpace.contains c) = true := by
    decide +kernel
  exact Bool.not_eq_true' _ ▸ List.all_eq_true.mp each c member

theorem isDigit_of_mem (c : Char) (member : c ∈ Phrase.atom.follow) :
    (c.isDigit || c == '.') = false := by
  have each : (Phrase.atom.follow.all fun c => !(c.isDigit || c == '.')) = true := by decide
  exact Bool.not_eq_true' _ ▸ List.all_eq_true.mp each c member

theorem Starts.contains {c : Char} (start : Starts c) : whiteSpace.contains c = false := by
  rcases start with isDigit | rfl | rfl
  · exact contains_of_isDigit isDigit
  · decide +kernel
  · decide +kernel

theorem Derives.stops {phrase : Phrase} {chars : List Char} {e : Expression}
    (derives : Derives phrase chars e) (rest : List Char) :
    Stops whiteSpace.contains (chars ++ rest) := by
  obtain ⟨c, more, rfl, start⟩ := derives.exists_cons
  rintro _ ⟨⟩
  exact start.contains

theorem Closes.stops {phrase : Phrase} {rest : List Char} (closes : Closes phrase rest) :
    Stops whiteSpace.contains rest :=
  fun c first => contains_of_mem c (follow_atom phrase (closes c first))

/-- A number does not go on with blanks, nor with what can follow it. -/
theorem Closes.stops_number {phrase : Phrase} {blanks rest : List Char}
    (closes : Closes phrase rest) (isBlank : Blank blanks) :
    Stops (fun c => c.isDigit || c == '.') (blanks ++ rest) := by
  cases blanks with
  | nil => exact fun c first => isDigit_of_mem c (follow_atom phrase (closes c first))
  | cons c blanks =>
      rintro _ ⟨⟩
      have blank := isBlank c List.mem_cons_self
      refine Bool.or_eq_false_iff.mpr ⟨?_, ?_⟩
      · refine Bool.eq_false_iff.mpr fun isDigit => ?_
        rw [contains_of_isDigit isDigit] at blank
        cases blank
      · refine Bool.eq_false_iff.mpr fun isPoint => ?_
        rw [beq_iff_eq.mp isPoint] at blank
        exact absurd blank (by decide +kernel)

/-! ## Phrases are taken -/

variable {F : Type} {a : Arithmetic F} {reading : Reading (Term F) Empty} {t : Text}

section

variable (isText : reading.OfText Pattern.language t) {row : Level} {p : Nat} {rest : List Char}
  {items : List Item}

include isText

/-- All items of a row are taken. -/
theorem exists_collects_of_derives {each : List (Operator × F)} (valued : Valued a items each)
    (isItems : ∀ item ∈ items, level item.op = row ∧ Blank item.blanks)
    (derive : ∀ item ∈ items, Derives row.operand item.text item.operand)
    (taken : ∀ item ∈ items, ∀ {x}, item.operand.value a = some x →
      ∀ {p rest}, Closes row.operand rest → t.Left p (item.text ++ rest) →
      reading.Leaves t (parser a row.operand) p rest (.datum (.number x)))
    (closes : Closes (.row row) rest) (left : t.Left p (items.flatMap Item.chars ++ rest)) :
    ∃ q, t.Left q rest ∧ reading.Collects (item a row) p q (each.map step) := by
  induction valued generalizing p with
  | nil =>
      refine ⟨p, left, .nil (.chain (.inl (fails_operators isText row left ?_)) _)⟩
      intro op isLevel first
      exact (symbol_follow isLevel).2 (closes _ first)
  | @cons one each items others head _ induction =>
      obtain ⟨isOp, isValue⟩ := head
      obtain ⟨⟨isLevel, isBlank⟩, isItems⟩ := List.forall_mem_cons.mp isItems
      obtain ⟨derives, derive⟩ := List.forall_mem_cons.mp derive
      rw [List.flatMap_cons, Item.chars] at left
      simp only [List.cons_append, List.append_assoc] at left
      obtain ⟨q, leftOperand, operation⟩ :=
        leaves_operators isText left isBlank (derives.stops _) isLevel
      obtain ⟨r, leftItems, operand⟩ :=
        taken one List.mem_cons_self isValue (closes.operand isItems) leftOperand
      obtain ⟨stop, leftRest, collects⟩ := induction isItems derive
        (fun item member => taken item (List.mem_cons_of_mem _ member)) leftItems
      refine ⟨stop, leftRest, .cons ?_ ?_ collects⟩
      · have whole := left.length_eq
        have part := leftItems.length_eq
        simp only [List.length_cons, List.length_append] at whole part
        omega
      · rw [step, ← isOp]
        exact operation.chain operand _

theorem fails_power (left : t.Left p ('-' :: rest)) : reading.Fails (power a) p := by
  have noNumber := fails_number isText a left Bool.false_ne_true
  have isOpening : "(".toList = ['('] := rfl
  have different : ('-' :: rest).head? ≠ some '(' := by simp
  have noParentheses := fails_token isText isOpening left different
  exact .chain (.inl (.orElse noNumber (.keepFirst (.inl (.keepSecond (.inl noParentheses)))))) _

end

theorem matches_rule (isRules : reading.rules = rules a) {name : String} {p q : Nat}
    {v : Value (Term F)} (there : reading.Matches (rules a name) p q v) :
    reading.Matches (.rule name) p q v :=
  .rule (isRules ▸ there)

/-- A phrase that has a value is taken as a whole, and gives its value. -/
theorem leaves_of_derives (isText : reading.OfText Pattern.language t)
    (isRules : reading.rules = rules a)
    {phrase : Phrase} {chars : List Char} {e : Expression} (derives : Derives phrase chars e)
    {x : F} (isValue : e.value a = some x) {p : Nat} {rest : List Char}
    (closes : Closes phrase rest) (left : t.Left p (chars ++ rest)) :
    reading.Leaves t (parser a phrase) p rest (.datum (.number x)) := by
  have isOpening : "(".toList = ['('] := rfl
  have isClosing : ")".toList = [')'] := rfl
  have isRaising : "^".toList = ['^'] := rfl
  have isMinus : "-".toList = ['-'] := rfl
  induction derives generalizing x p rest with
  | @number digits blanks decimal isBlank =>
      rw [List.append_assoc] at left
      obtain ⟨q, there, matched⟩ := leaves_number isText a left decimal
        (decimal.length_eq (closes.stops_number isBlank)) isBlank closes.stops isValue
      exact ⟨q, there, matched.orElse_left⟩
  | @parentheses before chars after e isBefore derives isAfter induction =>
      simp only [List.cons_append, List.append_assoc] at left
      obtain ⟨q, leftInner, opened⟩ :=
        leaves_token isText isOpening left isBefore (derives.stops _)
      obtain ⟨r, leftRest, matched⟩ := induction isValue (.cons List.mem_cons_self _) leftInner
      obtain ⟨stop, leftLast, closed⟩ :=
        leaves_token isText isClosing leftRest isAfter closes.stops
      have isSum : reading.Matches (.rule "sum") q r _ := matches_rule isRules matched
      have noNumber := fails_number isText a left Bool.false_ne_true
      exact ⟨stop, leftLast, .orElse_right noNumber ((opened.keepSecond isSum).keepFirst closed)⟩
  | @base chars e _ induction =>
      obtain ⟨q, leftRest, matched⟩ := induction isValue (closes.mono (follow_atom _)) left
      have isPower : rest.head? ≠ some '^' := fun first => absurd (closes _ first) (by decide)
      have fails : reading.Fails (.keepSecond (token "^") (.rule "unary")) q :=
        .keepSecond (.inl (fails_token isText isRaising leftRest isPower))
      exact ⟨q, leftRest, matched.chain fails.optional _⟩
  | @power chars blanks more base exponent _ isBlank derives induction inductionMore =>
      obtain ⟨y, isBase, rest'⟩ := Option.bind_eq_some_iff.mp isValue
      obtain ⟨z, isExponent, rfl⟩ := Option.map_eq_some_iff.mp rest'
      simp only [List.cons_append, List.append_assoc] at left
      obtain ⟨q, leftPower, matched⟩ := induction isBase (.cons (by decide) _) left
      obtain ⟨r, leftMore, raised⟩ :=
        leaves_token isText isRaising leftPower isBlank (derives.stops _)
      obtain ⟨stop, leftRest, exponent⟩ := inductionMore isExponent closes leftMore
      have isUnary : reading.Matches (.rule "unary") r stop _ := matches_rule isRules exponent
      exact ⟨stop, leftRest, matched.chain (raised.keepSecond isUnary).optional _⟩
  | @unary chars e _ induction =>
      obtain ⟨q, leftRest, matched⟩ := induction isValue closes left
      exact ⟨q, leftRest, matched.orElse_left⟩
  | @negation blanks chars e isBlank derives induction =>
      obtain ⟨y, isOperand, rfl⟩ := Option.map_eq_some_iff.mp isValue
      simp only [List.cons_append, List.append_assoc] at left
      obtain ⟨q, leftOperand, minus⟩ := leaves_token isText isMinus left isBlank (derives.stops _)
      obtain ⟨r, leftRest, matched⟩ := induction isOperand closes leftOperand
      have isUnary : reading.Matches (.rule "unary") q r _ := matches_rule isRules matched
      exact ⟨r, leftRest,
        .orElse_right (fails_power isText left) ((minus.keepSecond isUnary).map _)⟩
  | @row row chars first items derives isItems derive induction inductionItems =>
      obtain ⟨⟨y, isFirst⟩, each, valued⟩ := value_of_foldl isValue
      rw [List.append_assoc] at left
      obtain ⟨q, leftItems, matched⟩ := induction isFirst (closes.operand isItems) left
      obtain ⟨r, leftRest, collects⟩ := exists_collects_of_derives isText valued isItems derive
        inductionItems closes leftItems
      have whole := value_foldl valued first
      rw [isValue, isFirst, Option.bind_some] at whole
      rw [parser_row]
      refine ⟨r, leftRest, matched.tryChain collects.many ?_⟩
      simp only [Act.outcome, fold, ← whole, Option.map_some]

/-! ## Whole expressions -/

section

variable (isText : reading.OfText Pattern.language t) (isRules : reading.rules = rules a)

include isText isRules

/-- Of a text, an expression that has a value is taken, or there is none at its start. -/
theorem expression_cases :
    (∃ blanks taken rest e x, t.chars.toList = blanks ++ (taken ++ rest) ∧ Blank blanks ∧
      Derives (.row .sum) taken e ∧ e.value a = some x ∧
      reading.Leaves t (expression a).body 0 rest (.datum (.number x))) ∨
    reading.Fails (expression a).body 0 := by
  obtain ⟨blanks, chars, whole, isBlank, stops⟩ := exists_blanks t.chars.toList
  have left := Text.Left.start t
  rw [whole] at left
  obtain ⟨q, leftChars, blank⟩ := leaves_whitespace isText left isBlank stops
  obtain ⟨_, _, sums⟩ := settled isText isRules (chars.length + 1)
  rcases sums q chars leftChars (Nat.lt_succ_self _) with
    ⟨taken, rest, e, x, rfl, derives, isValue, r, leftRest, matched⟩ | fails
  · exact .inl ⟨blanks, taken, rest, e, x, whole, isBlank, derives, isValue, r, leftRest,
      blank.keepSecond matched⟩
  · exact .inr (.keepSecond (.inr ⟨_, _, blank, fails⟩))

/-- If a text is an expression that has a value, all of it is taken. -/
theorem leaves_expression {blanks chars : List Char} (whole : t.chars.toList = blanks ++ chars)
    (isBlank : Blank blanks) {e : Expression} (derives : Derives (.row .sum) chars e) {x : F}
    (isValue : e.value a = some x) :
    reading.Leaves t (expression a).body 0 [] (.datum (.number x)) := by
  have left := Text.Left.start t
  rw [whole, ← List.append_nil chars] at left
  obtain ⟨q, leftChars, blank⟩ := leaves_whitespace isText left isBlank (derives.stops _)
  obtain ⟨r, leftRest, matched⟩ :=
    leaves_of_derives isText isRules derives isValue (.nil _) leftChars
  exact ⟨r, leftRest, blank.keepSecond matched⟩

end

end Packrat.Calculator
