import Packrat.Calculator
import Mathlib.Data.List.Basic

/-!
# Arithmetic expressions

The grammar of expressions as it is documented, and what an expression means.  `Derives`
has one constructor for each way to form a phrase; an alternative is chosen freely, and a
row has as many operands as one likes.  Every token has the blanks after it.
-/

namespace Packrat.Calculator

/-- An expression.  Parentheses and blanks are gone. -/
inductive Expression where
  | number (digits : String)
  | negation (operand : Expression)
  | power (base exponent : Expression)
  | operation (op : Operator) (left right : Expression)

/-- The value of an expression, unless it divides by zero or has digits that are not read
as a number. -/
def Expression.value {F : Type} (a : Arithmetic F) : Expression → Option F
  | number digits => a.read digits
  | negation operand => (operand.value a).map a.negate
  | power base exponent => (base.value a).bind fun x => (exponent.value a).map (a.power x)
  | operation op left right =>
    (left.value a).bind fun x => (right.value a).bind fun y => a.apply op x y

/-- What an expression is put together from. -/
def Expression.parts : Expression → List Expression
  | number _ => []
  | negation operand => [operand]
  | power base exponent => [base, exponent]
  | operation _ left right => [left, right]

/-- Somewhere in an expression there are digits that are not read as a number, or a division
whose right operand is zero. -/
inductive Expression.Undefined {F : Type} (a : Arithmetic F) : Expression → Prop where
  | unread {digits : String} : a.read digits = none → Undefined a (.number digits)
  | divided {left right : Expression} {x y : F} :
      left.value a = some x → right.value a = some y → a.divide x y = none →
      Undefined a (.operation .divide left right)
  | part {whole part : Expression} : part ∈ whole.parts → Undefined a part → Undefined a whole

/-- An expression has a value unless it is undefined somewhere. -/
theorem Expression.value_eq_none_iff {F : Type} {a : Arithmetic F} {e : Expression} :
    e.value a = none ↔ e.Undefined a := by
  constructor
  · intro noValue
    induction e with
    | number digits => exact .unread noValue
    | negation operand induction =>
        exact .part List.mem_cons_self (induction (Option.map_eq_none_iff.mp noValue))
    | power base exponent induction inductionThen =>
        rw [value, Option.bind_eq_none_iff] at noValue
        cases isBase : base.value a with
        | none => exact .part List.mem_cons_self (induction isBase)
        | some x =>
            have noExponent := Option.map_eq_none_iff.mp (noValue x isBase)
            exact .part (List.mem_cons_of_mem _ List.mem_cons_self) (inductionThen noExponent)
    | operation op left right induction inductionThen =>
        rw [value, Option.bind_eq_none_iff] at noValue
        cases isLeft : left.value a with
        | none => exact .part List.mem_cons_self (induction isLeft)
        | some x =>
            have noResult := Option.bind_eq_none_iff.mp (noValue x isLeft)
            cases isRight : right.value a with
            | none =>
                exact .part (List.mem_cons_of_mem _ List.mem_cons_self) (inductionThen isRight)
            | some y =>
                -- Of the operations only a division can come to nothing.
                cases op with
                | divide => exact .divided isLeft isRight (noResult y isRight)
                | add | subtract | multiply => cases noResult y isRight
  · intro undefined
    induction undefined with
    | unread unread => exact unread
    | divided isLeft isRight noQuotient =>
        rw [value, isLeft, Option.bind_some, isRight, Option.bind_some]
        exact noQuotient
    | @part whole part member _ noValue =>
        cases whole with
        | number => cases member
        | negation operand =>
            obtain rfl := List.mem_singleton.mp member
            rw [value, noValue, Option.map_none]
        | power base exponent =>
            rcases List.mem_pair.mp member with rfl | rfl
            · rw [value, noValue, Option.bind_none]
            · rw [value, noValue, Option.bind_eq_none_iff]
              exact fun _ _ => rfl
        | operation op left right =>
            rcases List.mem_pair.mp member with rfl | rfl
            · rw [value, noValue, Option.bind_none]
            · rw [value, noValue, Option.bind_eq_none_iff]
              exact fun _ _ => rfl

/-- The rows that there are. -/
inductive Level where
  | sum
  | product

/-- The parts of the grammar. -/
inductive Phrase where
  | row (level : Level)
  | unary
  | power
  | atom

/-- What the operands of a row are. -/
def Level.operand : Level → Phrase
  | sum => .row .product
  | product => .unary

/-- The row that an operation belongs to. -/
def level : Operator → Level
  | .add | .subtract => .sum
  | .multiply | .divide => .product

/-- How an operation is written. -/
def symbol : Operator → Char
  | .add => '+'
  | .subtract => '-'
  | .multiply => '*'
  | .divide => '/'

/-- Nothing but blanks. -/
def Blank (chars : List Char) : Prop := ∀ c ∈ chars, whiteSpace.contains c = true

/-- One digit or more. -/
def Digits (chars : List Char) : Prop := chars ≠ [] ∧ ∀ c ∈ chars, c.isDigit = true

/-- A decimal number: digits, and maybe a point and digits after it. -/
inductive Decimal : List Char → Prop where
  | whole {digits : List Char} : Digits digits → Decimal digits
  | fraction {digits more : List Char} :
      Digits digits → Digits more → Decimal (digits ++ '.' :: more)

/-- An operation and its second operand, as they are written. -/
structure Item where
  op : Operator
  blanks : List Char
  text : List Char
  operand : Expression

namespace Item

def chars (item : Item) : List Char := symbol item.op :: (item.blanks ++ item.text)

/-- What an expression becomes when the item follows it. -/
def after (left : Expression) (item : Item) : Expression := .operation item.op left item.operand

end Item

/-- Some characters are a phrase of the grammar that stands for an expression. -/
inductive Derives : Phrase → List Char → Expression → Prop where
  | number {digits blanks : List Char} :
      Decimal digits → Blank blanks →
      Derives .atom (digits ++ blanks) (.number (String.ofList digits))
  | parentheses {before chars after : List Char} {e : Expression} :
      Blank before → Derives (.row .sum) chars e → Blank after →
      Derives .atom ('(' :: (before ++ (chars ++ ')' :: after))) e
  | base {chars : List Char} {e : Expression} : Derives .atom chars e → Derives .power chars e
  | power {chars blanks more : List Char} {base exponent : Expression} :
      Derives .atom chars base → Blank blanks → Derives .unary more exponent →
      Derives .power (chars ++ '^' :: (blanks ++ more)) (.power base exponent)
  | unary {chars : List Char} {e : Expression} : Derives .power chars e → Derives .unary chars e
  | negation {blanks chars : List Char} {e : Expression} :
      Blank blanks → Derives .unary chars e →
      Derives .unary ('-' :: (blanks ++ chars)) (.negation e)
  | row {row : Level} {chars : List Char} {first : Expression} {items : List Item} :
      Derives row.operand chars first →
      (∀ item ∈ items, level item.op = row ∧ Blank item.blanks) →
      (∀ item ∈ items, Derives row.operand item.text item.operand) →
      Derives (.row row) (chars ++ items.flatMap Item.chars) (items.foldl Item.after first)

/-- A text is an expression, with any blanks before it. -/
def Written (text : String) (e : Expression) : Prop :=
  ∃ blanks chars, Blank blanks ∧ text.toList = blanks ++ chars ∧ Derives (.row .sum) chars e

/-- What every expression starts with. -/
def Starts (c : Char) : Prop := c.isDigit = true ∨ c = '(' ∨ c = '-'

theorem Digits.exists_cons {chars : List Char} (digits : Digits chars) :
    ∃ c rest, chars = c :: rest ∧ c.isDigit = true := by
  obtain ⟨notEmpty, each⟩ := digits
  obtain ⟨c, rest, rfl⟩ := List.exists_cons_of_ne_nil notEmpty
  exact ⟨c, rest, rfl, each c List.mem_cons_self⟩

theorem Decimal.exists_cons {chars : List Char} (decimal : Decimal chars) :
    ∃ c rest, chars = c :: rest ∧ c.isDigit = true := by
  cases decimal with
  | whole digits => exact digits.exists_cons
  | fraction digits =>
      obtain ⟨c, rest, rfl, isDigit⟩ := digits.exists_cons
      exact ⟨c, _, rfl, isDigit⟩

theorem Derives.exists_cons {phrase : Phrase} {chars : List Char} {e : Expression}
    (derives : Derives phrase chars e) : ∃ c rest, chars = c :: rest ∧ Starts c := by
  induction derives with
  | number decimal =>
      obtain ⟨c, rest, rfl, isDigit⟩ := decimal.exists_cons
      exact ⟨c, _, rfl, .inl isDigit⟩
  | parentheses => exact ⟨_, _, rfl, .inr (.inl rfl)⟩
  | negation => exact ⟨_, _, rfl, .inr (.inr rfl)⟩
  | base _ induction | unary _ induction => exact induction
  | power _ _ _ induction | row _ _ _ induction =>
      obtain ⟨c, rest, rfl, start⟩ := induction
      exact ⟨c, _, rfl, start⟩

end Packrat.Calculator
