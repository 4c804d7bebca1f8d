import Packrat.Text.Category
import Packrat.Text.Property

/-!
# Quoted text

Text and characters as they are quoted in messages.  What cannot be seen on a page by
itself is written as an escape: controls, separators and marks that would attach to
what stands before them.
-/

namespace Packrat

/-- The digits of a number in a base of at most sixteen, lower case. -/
def digitsInBase (base n : Nat) : String := String.ofList (Nat.toDigits base n)

/-- A character that can be seen: not a control, a format character, unassigned, or a
separator other than the space. -/
def isPrintable (c : Char) : Bool :=
  if ' ' ≤ c ∧ c ≤ '~' then true
  else !(["Cc", "Cf", "Cs", "Co", "Cn", "Zl", "Zp", "Zs"].contains (category c))

/-- The escape that names a character by its code point. -/
def codePointEscape (c : Char) : String :=
  "\\u\x7b" ++ digitsInBase 16 c.toNat ++ "\x7d"

/-- Whether a character only adds to the one before it.  None in ASCII does. -/
def extendsGrapheme (c : Char) : Bool := '\x7f' < c && graphemeExtend.contains c

/-- A character as it stands between two quotes. -/
def escape (quote : Char) (c : Char) : String :=
  if c = '\x00' then "\\0"
  else if c = '\t' then "\\t"
  else if c = '\n' then "\\n"
  else if c = '\r' then "\\r"
  else if c = '\\' then "\\\\"
  else if c = quote then "\\" ++ c.toString
  else if extendsGrapheme c then codePointEscape c
  else if isPrintable c then c.toString
  else codePointEscape c

/-- Characters as they stand between double quotes. -/
def escapeAll (chars : List Char) : String := String.join (chars.map (escape '"'))

/-- A text in double quotes. -/
def quoteChars (chars : List Char) : String := "\"" ++ escapeAll chars ++ "\""

/-- A text in double quotes. -/
def quote (text : String) : String := quoteChars text.toList

/-- A character in single quotes. -/
def quoteChar (c : Char) : String := "'" ++ escape '\'' c ++ "'"

end Packrat
