import Packrat.Proofs.Calculator.Tokens
import Mathlib.Data.List.Forall2

/-!
# Parsing expressions

Each parser of the calculator either takes a phrase of the grammar that has a value, and
gives that value, or fails.  And it takes every such phrase, if what follows the phrase is
the end of the text or a character that can follow there.
-/

namespace Packrat.Calculator

variable {F : Type} (a : Arithmetic F)

/-- The operations of a row, in the order in which they are tried. -/
def Level.operations : Level → Operator × Operator
  | sum => (.add, .subtract)
  | product => (.multiply, .divide)

/-- The parser of a row's operations. -/
def operators (row : Level) : Rule F :=
  let parser op := operator (String.singleton (symbol op)) op
  .choice [parser row.operations.1, parser row.operations.2]

/-- The parser of a phrase. -/
def parser : Phrase → Rule F
  | .row .sum => sum a
  | .row .product => product a
  | .unary => unary a
  | .power => power a
  | .atom => atom a

/-- An operation and a number, as one value. -/
def step (each : Operator × F) : Value (Term F) :=
  .list [.datum (.operator each.1), .datum (.number each.2)]

/-- The parser of an operation and its second operand. -/
def item (row : Level) : Rule F :=
  .chain (fun op x => .list [op, x]) (operators row) (parser a row.operand)

theorem parser_row (row : Level) :
    parser a (.row row) =
      .tryChain (fun first rest => .result (fold a first rest)) (parser a row.operand)
        (.many (item a row)) := by
  cases row <;> rfl

theorem level_eq_iff {op : Operator} {row : Level} :
    level op = row ↔ op = row.operations.1 ∨ op = row.operations.2 := by
  cases op <;> cases row <;> simp [level, Level.operations]

/-! ## Values of rows -/

section

variable {a}

/-- Items have these operations and values. -/
abbrev Valued (a : Arithmetic F) : List Item → List (Operator × F) → Prop :=
  List.Forall₂ fun item each => item.op = each.1 ∧ item.operand.value a = some each.2

/-- A row is worth what folding its items comes to. -/
theorem value_foldl {items : List Item} {each : List (Operator × F)} (valued : Valued a items each)
    (first : Expression) :
    (items.foldl Item.after first).value a =
      (first.value a).bind fun x => foldOperations a x (each.map step) := by
  induction valued generalizing first with
  | nil => simp [foldOperations]
  | cons head _ induction =>
      obtain ⟨isOp, isValue⟩ := head
      rw [List.foldl_cons, induction, Item.after, Expression.value, isValue, isOp,
        Option.bind_assoc]
      rfl

/-- If a row has a value then so have its first operand and its items. -/
theorem value_of_foldl {items : List Item} {first : Expression} {x : F}
    (isValue : (items.foldl Item.after first).value a = some x) :
    (∃ y, first.value a = some y) ∧ ∃ each, Valued a items each := by
  induction items generalizing first with
  | nil => exact ⟨⟨x, isValue⟩, [], .nil⟩
  | cons item items induction =>
      obtain ⟨⟨z, isStep⟩, each, valued⟩ := induction isValue
      obtain ⟨y, isFirst, rest⟩ := Option.bind_eq_some_iff.mp isStep
      obtain ⟨w, isOperand, _⟩ := Option.bind_eq_some_iff.mp rest
      exact ⟨⟨y, isFirst⟩, (item.op, w) :: each, .cons ⟨rfl, isOperand⟩ valued⟩

end

/-! ## Operations -/

section

variable {reading : Reading (Term F) Empty} {t : Text}
  (isText : reading.OfText Pattern.language t) {p : Nat}
  {blanks rest chars : List Char}

include isText

theorem leaves_operator {op : Operator} (left : t.Left p (symbol op :: (blanks ++ rest)))
    (isBlank : Blank blanks) (stops : Stops whiteSpace.contains rest) :
    reading.Leaves t (operator (String.singleton (symbol op)) op) p rest
      (.datum (.operator op)) := by
  obtain ⟨q, there, matched⟩ := leaves_token isText (String.toList_singleton ..) left isBlank stops
  exact ⟨q, there, matched.replace _⟩

theorem fails_operator {op : Operator} (left : t.Left p chars)
    (other : chars.head? ≠ some (symbol op)) :
    reading.Fails (operator (String.singleton (symbol op)) op) p :=
  (fails_token isText (String.toList_singleton ..) left other).transform _ _ _

/-- The operations of a row are taken, each by its symbol. -/
theorem leaves_operators {op : Operator} (left : t.Left p (symbol op :: (blanks ++ rest)))
    (isBlank : Blank blanks) (stops : Stops whiteSpace.contains rest) {row : Level}
    (isLevel : level op = row) :
    reading.Leaves t (operators row) p rest (.datum (.operator op)) := by
  obtain ⟨q, there, matched⟩ := leaves_operator isText left isBlank stops
  rcases level_eq_iff.mp isLevel with rfl | rfl
  · exact ⟨q, there, matched.orElse_left⟩
  · have different : symbol row.operations.2 ≠ symbol row.operations.1 := by
      cases row <;> decide
    have other : (symbol row.operations.2 :: (blanks ++ rest)).head? ≠
        some (symbol row.operations.1) := fun same => different (Option.some.inj same)
    exact ⟨q, there, .orElse_right (fails_operator isText left other) matched⟩

theorem fails_operators (row : Level) (left : t.Left p chars)
    (others : ∀ op, level op = row → chars.head? ≠ some (symbol op)) :
    reading.Fails (operators row) p :=
  .orElse (fails_operator isText left (others _ (level_eq_iff.mpr (.inl rfl))))
    (fails_operator isText left (others _ (level_eq_iff.mpr (.inr rfl))))

/-- An operation of a row and all blanks after it are taken, or there is none. -/
theorem operators_cases (row : Level) (left : t.Left p chars) :
    (∃ op blanks rest, chars = symbol op :: (blanks ++ rest) ∧ level op = row ∧ Blank blanks ∧
      reading.Leaves t (operators row) p rest (.datum (.operator op))) ∨
    reading.Fails (operators row) p := by
  by_cases first : ∃ op, level op = row ∧ chars.head? = some (symbol op)
  · obtain ⟨op, isLevel, isFirst⟩ := first
    obtain ⟨more, rfl⟩ := List.head?_eq_some_iff.mp isFirst
    obtain ⟨blanks, rest, rfl, isBlank, stops⟩ := exists_blanks more
    exact .inl ⟨op, blanks, rest, rfl, isLevel, isBlank,
      leaves_operators isText left isBlank stops isLevel⟩
  · exact .inr (fails_operators isText row left fun op isLevel isFirst =>
      first ⟨op, isLevel, isFirst⟩)

end

/-! ## What parsers take -/

variable {a} {reading : Reading (Term F) Empty} {t : Text} {phrase : Phrase}
  {reference first second : Rule F} {p : Nat} {chars : List Char}

variable (a reading t) in
/-- A parser takes a phrase that has a value, and gives that, or it fails. -/
def Settles (reference : Rule F) (phrase : Phrase) (position : Nat) (chars : List Char) : Prop :=
  (∃ taken rest e x, chars = taken ++ rest ∧ Derives phrase taken e ∧ e.value a = some x ∧
    reading.Leaves t reference position rest (.datum (.number x))) ∨
  reading.Fails reference position

variable (a reading t) in
/-- Wherever less than some number of characters are left, a parser takes a phrase or fails. -/
def Settled (reference : Rule F) (phrase : Phrase) (bound : Nat) : Prop :=
  ∀ p chars, t.Left p chars → chars.length < bound → Settles a reading t reference phrase p chars

theorem Settles.orElse (settles : Settles a reading t first phrase p chars)
    (otherwise : Settles a reading t second phrase p chars) :
    Settles a reading t (.choice [first, second]) phrase p chars := by
  rcases settles with ⟨taken, rest, e, x, parts, derives, isValue, q, there, matched⟩ | fails
  · exact .inl ⟨taken, rest, e, x, parts, derives, isValue, q, there, matched.orElse_left⟩
  · rcases otherwise with ⟨taken, rest, e, x, parts, derives, isValue, q, there, matched⟩ | failsToo
    · exact .inl ⟨taken, rest, e, x, parts, derives, isValue, q, there,
        .orElse_right fails matched⟩
    · exact .inr (.orElse fails failsToo)

theorem Settles.rule {name : String}
    (settles : Settles a reading t (reading.rules name) phrase p chars) :
    Settles a reading t (.rule name) phrase p chars := by
  rcases settles with ⟨taken, rest, e, x, parts, derives, isValue, q, there, matched⟩ | fails
  · exact .inl ⟨taken, rest, e, x, parts, derives, isValue, q, there, matched.rule⟩
  · exact .inr fails.rule

theorem Settles.lift {other : Phrase} (settles : Settles a reading t reference phrase p chars)
    (derives : ∀ {taken e}, Derives phrase taken e → Derives other taken e) :
    Settles a reading t reference other p chars := by
  rcases settles with ⟨taken, rest, e, x, parts, inner, isValue, leaves⟩ | fails
  · exact .inl ⟨taken, rest, e, x, parts, derives inner, isValue, leaves⟩
  · exact .inr fails

section

variable (isText : reading.OfText Pattern.language t) (left : t.Left p chars)

include isText left

theorem settles_number : Settles a reading t (number a) .atom p chars := by
  rcases number_cases isText a left with
    ⟨digits, blanks, rest, x, rfl, decimal, isBlank, isRead, leaves⟩ | fails
  · exact .inl ⟨digits ++ blanks, rest, _, x, (List.append_assoc ..).symm,
      .number decimal isBlank, isRead, leaves⟩
  · exact .inr fails

theorem settles_parentheses
    (sums : Settled a reading t (.rule "sum") (.row .sum) chars.length) :
    Settles a reading t (.keepFirst (.keepSecond (token "(") (.rule "sum")) (token ")")) .atom p
      chars := by
  have isOpening : "(".toList = ['('] := rfl
  have isClosing : ")".toList = [')'] := rfl
  rcases token_cases isText isOpening left with
    ⟨before, inner, rfl, isBefore, q, leftInner, opened⟩ | ⟨_, fails⟩
  · have fewer : inner.length < ('(' :: (before ++ inner)).length := by
      rw [List.length_cons, List.length_append]
      omega
    rcases sums q inner leftInner fewer with
      ⟨taken, rest, e, x, rfl, derives, isValue, r, leftRest, matched⟩ | fails
    · rcases token_cases isText isClosing leftRest with
        ⟨after, last, rfl, isAfter, stop, leftLast, closed⟩ | ⟨_, fails⟩
      · refine .inl ⟨_, last, e, x, ?_, .parentheses isBefore derives isAfter, isValue, stop,
          leftLast, (opened.keepSecond matched).keepFirst closed⟩
        simp only [List.cons_append, List.append_assoc]
      · exact .inr (.keepFirst (.inr ⟨_, _, opened.keepSecond matched, fails⟩))
    · exact .inr (.keepFirst (.inl (.keepSecond (.inr ⟨_, _, opened, fails⟩))))
  · exact .inr (.keepFirst (.inl (.keepSecond (.inl fails))))

/-- A minus and a phrase after it. -/
theorem settles_negation
    (unaries : Settled a reading t (.rule "unary") .unary chars.length) :
    Settles a reading t (.map (negate a) (.keepSecond (token "-") (.rule "unary"))) .unary p
      chars := by
  have isMinus : "-".toList = ['-'] := rfl
  rcases token_cases isText isMinus left with
    ⟨blanks, inner, rfl, isBlank, q, leftInner, minus⟩ | ⟨_, fails⟩
  · have fewer : inner.length < ('-' :: (blanks ++ inner)).length := by
      rw [List.length_cons, List.length_append]
      omega
    rcases unaries q inner leftInner fewer with
      ⟨taken, rest, e, x, rfl, derives, isValue, r, leftRest, matched⟩ | fails
    · refine .inl ⟨_, rest, _, a.negate x, ?_, .negation isBlank derives, ?_, r, leftRest,
        (minus.keepSecond matched).map _⟩
      · rw [List.cons_append, List.append_assoc]
      · rw [Expression.value, isValue, Option.map_some]
    · exact .inr (Reading.Fails.transform (.keepSecond (.inr ⟨_, _, minus, fails⟩)) _ _ _)
  · exact .inr (Reading.Fails.transform (.keepSecond (.inl fails)) _ _ _)

theorem settles_atom (sums : Settled a reading t (.rule "sum") (.row .sum) chars.length) :
    Settles a reading t (atom a) .atom p chars :=
  (settles_number isText left).orElse (settles_parentheses isText left sums)

theorem settles_power (atoms : Settles a reading t (atom a) .atom p chars)
    (unaries : Settled a reading t (.rule "unary") .unary chars.length) :
    Settles a reading t (power a) .power p chars := by
  rcases atoms with ⟨taken, rest, e, x, rfl, derives, isValue, q, leftRest, matched⟩ | fails
  · have isPower : "^".toList = ['^'] := rfl
    have alone (fails : reading.Fails (.keepSecond (token "^") (.rule "unary")) q) :
        Settles a reading t (power a) .power p (taken ++ rest) :=
      .inl ⟨taken, rest, e, x, rfl, .base derives, isValue, q, leftRest,
        matched.chain fails.optional _⟩
    rcases token_cases isText isPower leftRest with
      ⟨blanks, inner, rfl, isBlank, r, leftInner, raised⟩ | ⟨_, fails⟩
    · have fewer : inner.length < (taken ++ '^' :: (blanks ++ inner)).length := by
        simp only [List.length_append, List.length_cons]
        omega
      rcases unaries r inner leftInner fewer with
        ⟨more, last, exponent, y, rfl, derivesMore, isExponent, stop, leftLast, matchedMore⟩ | fails
      · refine .inl ⟨_, last, _, a.power x y, ?_, .power derives isBlank derivesMore, ?_, stop,
          leftLast, matched.chain (raised.keepSecond matchedMore).optional _⟩
        · simp only [List.append_assoc, List.cons_append]
        · rw [Expression.value, isValue, isExponent]
          rfl
      · exact alone (.keepSecond (.inr ⟨_, _, raised, fails⟩))
    · exact alone (.keepSecond (.inl fails))
  · exact .inr (.chain (.inl fails) _)

theorem settles_unary (powers : Settles a reading t (power a) .power p chars)
    (unaries : Settled a reading t (.rule "unary") .unary chars.length) :
    Settles a reading t (unary a) .unary p chars :=
  (powers.lift .unary).orElse (settles_negation isText left unaries)

/-! ## Rows -/

variable {row : Level} {bound : Nat}
  (operands : Settled a reading t (parser a row.operand) row.operand bound)
  (within : chars.length ≤ bound)

include operands within

/-- An operation of a row and an operand that has a value are taken, or they are not there. -/
theorem item_cases :
    (∃ (one : Item) (x : F) (rest : List Char), chars = one.chars ++ rest ∧
      (level one.op = row ∧ Blank one.blanks) ∧ Derives row.operand one.text one.operand ∧
      one.operand.value a = some x ∧
      reading.Leaves t (item a row) p rest (step (one.op, x))) ∨
    reading.Fails (item a row) p := by
  rcases operators_cases isText row left with
    ⟨op, blanks, inner, rfl, isLevel, isBlank, q, leftInner, operation⟩ | fails
  · have fewer : inner.length < bound := by
      rw [List.length_cons, List.length_append] at within
      omega
    rcases operands q inner leftInner fewer with
      ⟨taken, rest, e, x, rfl, derives, isValue, r, leftRest, matched⟩ | fails
    · refine .inl ⟨⟨op, blanks, taken, e⟩, x, rest, ?_, ⟨isLevel, isBlank⟩, derives, isValue, r,
        leftRest, operation.chain matched _⟩
      simp only [Item.chars, List.cons_append, List.append_assoc]
    · exact .inr (.chain (.inr ⟨_, _, operation, fails⟩) _)
  · exact .inr (.chain (.inl fails) _)

/-- Items are taken as long as there are such that have a value. -/
theorem exists_collects :
    ∃ items each rest q, chars = items.flatMap Item.chars ++ rest ∧
      (∀ item ∈ items, level item.op = row ∧ Blank item.blanks) ∧
      (∀ item ∈ items, Derives row.operand item.text item.operand) ∧ Valued a items each ∧
      t.Left q rest ∧ reading.Collects (item a row) p q (each.map step) := by
  induction count : chars.length using Nat.strong_induction_on generalizing p chars with
  | _ count induction =>
      subst count
      rcases item_cases isText left operands within with
        ⟨one, x, inner, rfl, isItem, derives, isValue, q, leftInner, matched⟩ | fails
      · have fewer : inner.length < (one.chars ++ inner).length := by
          rw [List.length_append, Item.chars, List.length_cons]
          omega
        obtain ⟨items, each, rest, r, rfl, isItems, allDerive, valued, leftRest, collects⟩ :=
          induction _ fewer leftInner (by omega) rfl
        have less : p < q := by
          have whole := left.length_eq
          have part := leftInner.length_eq
          omega
        refine ⟨one :: items, (one.op, x) :: each, rest, r, ?_, ?_, ?_,
          .cons ⟨rfl, isValue⟩ valued, leftRest, .cons less matched collects⟩
        · rw [List.flatMap_cons, List.append_assoc]
        · exact List.forall_mem_cons.mpr ⟨isItem, isItems⟩
        · exact List.forall_mem_cons.mpr ⟨derives, allDerive⟩
      · exact ⟨[], [], chars, p, rfl, nofun, nofun, .nil, left, .nil fails⟩

theorem settles_row (operand : Settles a reading t (parser a row.operand) row.operand p chars) :
    Settles a reading t (parser a (.row row)) (.row row) p chars := by
  rw [parser_row]
  rcases operand with ⟨taken, after, first, x, rfl, derives, isValue, q, leftAfter, matched⟩ | fails
  · have here : after.length ≤ bound := by
      rw [List.length_append] at within
      omega
    obtain ⟨items, each, rest, r, rfl, isItems, allDerive, valued, leftRest, collects⟩ :=
      exists_collects isText leftAfter operands here
    have whole := value_foldl valued first
    rw [isValue, Option.bind_some] at whole
    cases folded : foldOperations a x (each.map step) with
    | some y =>
        refine .inl ⟨_, rest, _, y, (List.append_assoc ..).symm, .row derives isItems allDerive,
          whole.trans folded, r, leftRest, matched.tryChain collects.many ?_⟩
        simp only [Act.outcome, fold, folded, Option.map_some]
    | none =>
        refine .inr (matched.fails_tryChain collects.many ?_)
        simp only [Act.outcome, fold, folded, Option.map_none]
  · exact .inr (.tryChain (.inl fails) _)

end

theorem Settled.mono {bound less : Nat} (settled : Settled a reading t reference phrase bound)
    (fewer : less ≤ bound) : Settled a reading t reference phrase less :=
  fun p chars left within => settled p chars left (within.trans_le fewer)

/-- The rules and the rows that they are made of settle, however much is left: a rule is
come to again only behind a token. -/
theorem settled (isText : reading.OfText Pattern.language t) (isRules : reading.rules = rules a)
    (bound : Nat) :
    Settled a reading t (.rule "unary") .unary bound ∧
      Settled a reading t (.rule "sum") (.row .sum) bound ∧
      Settled a reading t (sum a) (.row .sum) bound := by
  induction bound with
  | zero => exact ⟨nofun, nofun, nofun⟩
  | succ bound induction =>
      obtain ⟨unaryRule, sumRule, _⟩ := induction
      have unaries : Settled a reading t (unary a) .unary (bound + 1) := by
        intro p chars left within
        have shorter := Nat.le_of_lt_succ within
        have atoms := settles_atom isText left (sumRule.mono shorter)
        have powers := settles_power isText left atoms (unaryRule.mono shorter)
        exact settles_unary isText left powers (unaryRule.mono shorter)
      have products :
          Settled a reading t (parser a (.row .product)) (.row .product) (bound + 1) := by
        intro p chars left within
        exact settles_row isText left unaries within.le (unaries p chars left within)
      have sums : Settled a reading t (parser a (.row .sum)) (.row .sum) (bound + 1) := by
        intro p chars left within
        exact settles_row isText left products within.le (products p chars left within)
      refine ⟨fun p chars left within => .rule ?_, fun p chars left within => .rule ?_, sums⟩
      · rw [isRules]
        exact unaries p chars left within
      · rw [isRules]
        exact sums p chars left within

end Packrat.Calculator
