/-!
# Shortest decimals

A binary floating point number stands for all the real numbers that round to it.  The
decimal with the fewest digits among those is found by trying grids of powers of ten,
the coarsest first: where a grid meets the interval, one of the two grid points next to
the number itself is in it.
-/

namespace Packrat.Decimal

/-- A positive number `mantissa · 2 ^ exponent`, with how far its neighbours are: below a
power of two the numbers are twice as close. -/
structure Binary where
  mantissa : Nat
  exponent : Int
  closeBelow : Bool
deriving DecidableEq

/-- A number `digits · 10 ^ exponent`. -/
structure Expansion where
  digits : Nat
  exponent : Int
deriving DecidableEq

namespace Binary

/-- The interval of the reals that round to the number, times four, as numerators, and
their common denominator: its lower end, the number itself and its upper end. -/
def interval (b : Binary) : Nat × Nat × Nat × Nat :=
  let scale := Nat.pow 2 b.exponent.toNat
  let lower := 4 * b.mantissa - (if b.closeBelow then 1 else 2)
  (lower * scale, 4 * b.mantissa * scale, (4 * b.mantissa + 2) * scale,
    4 * Nat.pow 2 (-b.exponent).toNat)

/-- Whether a decimal rounds to the number.  A decimal half way between two numbers
rounds to the one with an even mantissa. -/
def roundsTo (b : Binary) (d : Expansion) : Bool :=
  let (lower, _, upper, denominator) := b.interval
  let value := d.digits * Nat.pow 10 d.exponent.toNat * denominator
  let unit := Nat.pow 10 (-d.exponent).toNat
  if b.mantissa % 2 = 0 then lower * unit ≤ value && value ≤ upper * unit
  else lower * unit < value && value < upper * unit

/-- The grid points next to the number: the last one up to it and the one after, and
whether the second is closer.  Of equals the even one is closer. -/
def neighbours (b : Binary) (exponent : Int) : Expansion × Expansion × Bool :=
  let (_, middle, _, denominator) := b.interval
  let numerator := middle * Nat.pow 10 (-exponent).toNat
  let step := denominator * Nat.pow 10 exponent.toNat
  let below := numerator / step
  let rest := numerator % step
  (⟨below, exponent⟩, ⟨below + 1, exponent⟩,
    2 * rest > step || (2 * rest == step && below % 2 == 1))

/-- The decimal of a grid that rounds to the number, if there is one; the closer one if
there are two. -/
def onGrid? (b : Binary) (exponent : Int) : Option Expansion :=
  let (below, above, aboveCloser) := b.neighbours exponent
  match b.roundsTo below, b.roundsTo above with
  | true, true => some (if aboveCloser then above else below)
  | true, false => some below
  | false, true => some above
  | false, false => none

/-- The first of `fuel` grids, each finer than the one before, that has a decimal which
rounds to the number. -/
def shortestFrom (b : Binary) : Nat → Int → Option Expansion
  | 0, _ => none
  | fuel + 1, exponent =>
    match b.onGrid? exponent with
    | some d => some d
    | none => shortestFrom b fuel (exponent - 1)

/-- The shortest decimal that rounds to the number.  The largest number has 309 digits,
and 340 decimal places are enough for the least. -/
def shortest (b : Binary) : Expansion := (b.shortestFrom 660 309).getD ⟨b.mantissa, 0⟩

end Binary

/-- What a floating point number is. -/
inductive Reading where
  | notANumber
  | infinite (negative : Bool)
  | zero (negative : Bool)
  | finite (negative : Bool) (magnitude : Binary)

/-- Reads the bits of a floating point number. -/
def Reading.ofBits (bits : Nat) : Reading :=
  let negative := bits / Nat.pow 2 63 % 2 == 1
  let exponent : Nat := bits / Nat.pow 2 52 % Nat.pow 2 11
  let fraction := bits % Nat.pow 2 52
  if exponent = 2047 then (if fraction = 0 then infinite negative else notANumber)
  else if exponent = 0 then
    if fraction = 0 then zero negative else finite negative ⟨fraction, -1074, false⟩
  else
    finite negative
      ⟨Nat.pow 2 52 + fraction, (exponent : Int) - 1075,
        decide (fraction = 0 ∧ 1 < exponent)⟩

end Packrat.Decimal
