import Packrat.Combinator.Choice
import Packrat.Combinator.Repetition
import Packrat.Combinator.Transform
import Packrat.Decimal
import Packrat.Engine

/-!
# A calculator

Evaluates arithmetic on decimal numbers:

    sum     -> product (('+' | '-') product)*
    product -> unary (('*' | '/') unary)*
    unary   -> power | '-' unary
    power   -> atom ('^' unary)?
    atom    -> number | '(' sum ')'

Blanks are allowed between any two tokens.
-/

namespace Packrat

/-- The arithmetic that a calculator does. -/
structure Arithmetic (F : Type) where
  /-- The number that some digits stand for. -/
  read : String → Option F
  add : F → F → F
  subtract : F → F → F
  multiply : F → F → F
  /-- A quotient, unless the divisor is zero. -/
  divide : F → F → Option F
  power : F → F → F
  negate : F → F

/-- Arithmetic on floating point numbers. -/
def Arithmetic.float : Arithmetic Float where
  read := Decimal.toFloat?
  add x y := x + y
  subtract x y := x - y
  multiply x y := x * y
  divide x y := if y == 0 then none else some (x / y)
  power := Float.pow
  negate x := -x

/-- The operations that stand between two numbers in a row. -/
inductive Operator where
  | add
  | subtract
  | multiply
  | divide
deriving DecidableEq

/-- Applies an operation; dividing by zero gives nothing. -/
def Arithmetic.apply {F : Type} (a : Arithmetic F) (op : Operator) (x y : F) : Option F :=
  match op with
  | .add => some (a.add x y)
  | .subtract => some (a.subtract x y)
  | .multiply => some (a.multiply x y)
  | .divide => a.divide x y

/-- What the calculator's parsers produce besides texts and lists. -/
inductive Term (F : Type) where
  | number (x : F)
  | operator (op : Operator)

namespace Calculator

variable {F : Type}

instance : Printable (Term F) where
  print
    | .number _ => "number"
    | .operator _ => "operator"

abbrev Rule (F : Type) := Reference (Term F) Empty

/-- The number that a value is. -/
def number? : Value (Term F) → Option F
  | .datum (.number x) => some x
  | _ => none

/-- Applies one operation after the other, from the left. -/
def foldOperations (a : Arithmetic F) (total : F) : List (Value (Term F)) → Option F
  | [] => some total
  | .list [.datum (.operator op), .datum (.number x)] :: rest =>
    (a.apply op total x).bind fun total => foldOperations a total rest
  | _ => none

/-- A number and the operations that follow it, as one number. -/
def fold (a : Arithmetic F) (first rest : Value (Term F)) : Option (Value (Term F)) :=
  match first, rest with
  | .datum (.number x), .list operations =>
    (foldOperations a x operations).map fun total => .datum (.number total)
  | _, _ => none

def whitespace : Rule F := .discard (.pattern "\\s*")

/-- A text and the blanks after it. -/
def token (text : String) : Rule F := .keepFirst (.text text) whitespace

/-- The token of an operation. -/
def operator (symbol : String) (op : Operator) : Rule F :=
  .replace (.datum (.operator op)) (token symbol)

def number (a : Arithmetic F) : Rule F :=
  .onFail "expected a number"
    (.tryMap
      (fun value _ =>
        match value with
        | .text digits => (a.read digits).map fun x => .datum (.number x)
        | _ => none)
      (.keepFirst (.pattern "[0-9]+(\\.[0-9]+)?") whitespace))

def atom (a : Arithmetic F) : Rule F :=
  .choice [number a, .keepFirst (.keepSecond (token "(") (.rule "sum")) (token ")")]

/-- A base raised to an exponent, if there is one. -/
def raise (a : Arithmetic F) (base exponent : Value (Term F)) : Value (Term F) :=
  match base, exponent with
  | .datum (.number x), .present (.datum (.number y)) => .datum (.number (a.power x y))
  | base, _ => base

def power (a : Arithmetic F) : Rule F :=
  .chain (raise a) (atom a) (.optional (.keepSecond (token "^") (.rule "unary")))

def negate (a : Arithmetic F) : Value (Term F) → Value (Term F)
  | .datum (.number x) => .datum (.number (a.negate x))
  | value => value

def unary (a : Arithmetic F) : Rule F :=
  .choice [power a, .map (negate a) (.keepSecond (token "-") (.rule "unary"))]

/-- Operands with operations between them, as one number. -/
def row (a : Arithmetic F) (operand operators : Rule F) : Rule F :=
  .tryChain (fun first rest => .result (fold a first rest)) operand
    (.many (.chain (fun op x => .list [op, x]) operators operand))

def product (a : Arithmetic F) : Rule F :=
  row a (unary a) (.choice [operator "*" .multiply, operator "/" .divide])

def sum (a : Arithmetic F) : Rule F :=
  row a (product a) (.choice [operator "+" .add, operator "-" .subtract])

/-- The rules that refer to each other. -/
def rules (a : Arithmetic F) : Rules (Term F) Empty
  | "unary" => unary a
  | _ => sum a

/-- An expression, with any blanks before it. -/
def expression (a : Arithmetic F) : Parser (Term F) Empty :=
  ⟨0, .keepSecond whitespace (sum a)⟩

/-- The calculator's functions make no requests, and nobody watches. -/
def host : Host (Term F) Empty Unit := ⟨fun request => (nomatch request), fun _ world => world⟩

/-- How many turns an expression of some length needs at most: there are fewer than
three hundred nodes, and at each position each of them calls others no more often than there
are positions left. -/
def turns (length : Nat) : Nat := 1000 * (length + 2) * (length + 2)

end Calculator

/-- A calculator, which keeps its grammar from one expression to the next. -/
structure Calculator (F : Type) where
  arithmetic : Arithmetic F
  engine : Engine (Term F) Empty

namespace Calculator

variable {F : Type}

def new (arithmetic : Arithmetic F) : Calculator F :=
  ⟨arithmetic, .new 0 .text .standard⟩

/-- Evaluates a text that is one expression. -/
def evaluate (c : Calculator F) (text : String) :
    Option (Except RunError F) × Calculator F :=
  let input : Input (Term F) := .text (.ofString text)
  let (result, engine, _) :=
    c.engine.run (rules c.arithmetic) host (turns input.length) (expression c.arithmetic)
      input .standard ()
  let value : Option (Except RunError F) :=
    match result with
    | some (.ok value) => (number? value).map .ok
    | some (.error error) => some (.error error)
    | none => none
  (value, { c with engine })

end Calculator

end Packrat
