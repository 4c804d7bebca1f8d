import Packrat.Caret

/-!
# Text

A text is read as a sequence of characters.  Positions count characters; the same
places can be given as byte offsets into the UTF-8 form of the text.
-/

namespace Packrat

/-- A text, as the characters at its positions. -/
structure Text where
  chars : Array Char
deriving DecidableEq

namespace Text

def ofString (s : String) : Text := ⟨s.toList.toArray⟩

def toString (t : Text) : String := String.ofList t.chars.toList

/-- How many characters there are; also the position of the end. -/
def length (t : Text) : Nat := t.chars.size

/-- How many bytes the characters take in UTF-8. -/
def byteLength (chars : List Char) : Nat :=
  chars.foldr (fun char bytes => char.utf8Size + bytes) 0

/-- The characters from one position up to another, if both are in the text and in
order. -/
def between? (t : Text) (start stop : Nat) : Option (List Char) :=
  if start ≤ stop ∧ stop ≤ t.length then some (t.chars.extract start stop).toList else none

/-! ## Byte offsets -/

/-- The byte offsets of characters in a row, the first of which is given, and of their
end. -/
def offsetsFrom (offset : Nat) : List Char → List Nat
  | [] => [offset]
  | char :: chars => offset :: offsetsFrom (offset + char.utf8Size) chars

@[simp] theorem length_offsetsFrom (offset : Nat) (chars : List Char) :
    (offsetsFrom offset chars).length = chars.length + 1 := by
  induction chars generalizing offset with
  | nil => rfl
  | cons char chars induction => simp [offsetsFrom, induction]

/-- The table of the byte offsets of all positions. -/
def offsets (t : Text) : Array Nat := (offsetsFrom 0 t.chars.toList).toArray

@[simp] theorem size_offsets (t : Text) : t.offsets.size = t.length + 1 := by
  simp [offsets, length]

/-- The byte offset of a position; positions past the end are at the end. -/
def byteOffset (t : Text) (position : Nat) : Nat :=
  have listed : min position t.length < t.offsets.size := by
    rw [size_offsets]
    omega
  t.offsets[min position t.length]

/-- The place of a value in the part of an increasing table from `low` to `high`, or the
place where it would have to be put, found by halving the part. -/
def search (table : Array Nat) (value low high : Nat) (inTable : high ≤ table.size) : Nat :=
  if notEmpty : low < high then
    let middle := (low + high) / 2
    have listed : middle < table.size := by omega
    if table[middle] = value then middle
    else if table[middle] < value then search table value (middle + 1) high inTable
    else search table value low middle (Nat.le_of_lt listed)
  else low
termination_by high - low

/-- The position of a byte offset.  An offset inside a character counts for the position
after it. -/
def positionOf (t : Text) (byte : Nat) : Nat :=
  search t.offsets byte 0 t.offsets.size (Nat.le_refl _)

/-- What stands before a byte offset and what after it, unless it is inside a character
or past the end. -/
def cutAt? : List Char → Nat → Option (List Char × List Char)
  | chars, 0 => some ([], chars)
  | [], _ + 1 => none
  | char :: chars, offset + 1 =>
    if char.utf8Size ≤ offset + 1 then
      (cutAt? chars (offset + 1 - char.utf8Size)).map fun (before, after) =>
        (char :: before, after)
    else none

/-- The characters between two byte offsets in order, unless one of them is inside a
character or past the end. -/
def bytesBetween? (t : Text) (first last : Nat) : Option (List Char) := do
  let (before, _) ← cutAt? t.chars.toList last
  let (_, between) ← cutAt? before first
  return between

/-- The characters from a byte offset on. -/
def restFrom (t : Text) (byte : Nat) : List Char :=
  ((cutAt? t.chars.toList byte).map Prod.snd).getD []

/-- The characters between two positions, cut out by their byte offsets.  Positions past
the end are at the end, and nothing lies between positions that are out of order. -/
def slice (t : Text) (start stop : Nat) : List Char :=
  let last := t.byteOffset stop
  (t.bytesBetween? (min (t.byteOffset start) last) last).getD []

end Text

end Packrat
