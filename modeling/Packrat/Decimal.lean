import Packrat.Decimal.Shortest

/-!
# Decimal numbers as text

Numbers are written with the fewest digits that read back, never with an exponent, and
without a point if they are whole.
-/

namespace Packrat.Decimal

/-- Zeros. -/
def zeros (count : Nat) : List Char := List.replicate count '0'

/-- A decimal in positional notation. -/
def Expansion.positional (d : Expansion) : List Char :=
  let digits := d.digits.repr.toList
  let places := (-d.exponent).toNat
  if places = 0 then digits ++ zeros d.exponent.toNat
  else
    let padded := zeros (places + 1 - digits.length) ++ digits
    padded.take (padded.length - places) ++ '.' :: padded.drop (padded.length - places)

/-- The sign of a number. -/
def sign (negative : Bool) : String := if negative then "-" else ""

/-- A floating point number as text. -/
def Reading.text : Reading → String
  | notANumber => "NaN"
  | infinite negative => sign negative ++ "inf"
  | zero negative => sign negative ++ "0"
  | finite negative magnitude =>
    sign negative ++ String.ofList magnitude.shortest.positional

/-- A number as text. -/
def ofFloat (x : Float) : String := (Reading.ofBits x.toBits.toNat).text

/-- The number that decimal digits stand for, with a point among them perhaps. -/
def toFloat? (digits : String) : Option Float :=
  let whole := digits.toList.takeWhile (· ≠ '.')
  let places := (digits.toList.dropWhile (· ≠ '.')).drop 1
  if whole.all Char.isDigit && places.all Char.isDigit && !whole.isEmpty then
    let mantissa := (whole ++ places).foldl (fun n c => 10 * n + (c.toNat - '0'.toNat)) 0
    some (Float.ofScientific mantissa true places.length)
  else none

end Packrat.Decimal
