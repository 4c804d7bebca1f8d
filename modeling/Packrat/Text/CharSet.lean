/-!
# Sets of characters and maps on characters

Properties of characters are constant on long runs of code points.  A `CharSet` lists
the code points where membership changes, starting from "not a member", and a
`CharMap` lists where the value changes.  Both are looked up by binary search.
-/

namespace Packrat

/-- The value of a hexadecimal digit. -/
def hexDigit? (c : Char) : Option Nat :=
  if '0' ≤ c ∧ c ≤ '9' then some (c.toNat - '0'.toNat)
  else if 'A' ≤ c ∧ c ≤ 'F' then some (c.toNat - 'A'.toNat + 10)
  else if 'a' ≤ c ∧ c ≤ 'f' then some (c.toNat - 'a'.toNat + 10)
  else none

/-- The number that a run of hexadecimal digits denotes; other characters are passed
over. -/
def hexNumber (digits : List Char) : Nat :=
  digits.foldl (fun n c => match hexDigit? c with
    | some d => 16 * n + d
    | none => n) 0

/-- Cuts a list at every separator. -/
def splitList {α : Type} [BEq α] (separator : α) : List α → List (List α)
  | [] => [[]]
  | x :: xs =>
    match splitList separator xs with
    | [] => [[x]]
    | piece :: pieces =>
      if x == separator then [] :: piece :: pieces else (x :: piece) :: pieces

theorem splitList_ne_nil {α : Type} [BEq α] (separator : α) (xs : List α) :
    splitList separator xs ≠ [] := by
  unfold splitList
  split
  next => exact List.cons_ne_nil _ _
  next => split <;> (try split) <;> exact List.cons_ne_nil _ _

/-- The words of a text, which blanks and line feeds separate. -/
def words (text : String) : List (List Char) :=
  ((splitList ' ' (text.toList.map fun c => if c == '\n' then ' ' else c)).filter
    fun word => !word.isEmpty)

/-- How many entries of an ascending array are at most `x`, found by halving the part
from `low` to `high` at most `fuel` times. -/
def countUpToFrom (entries : Array Nat) (x : Nat) : Nat → Nat → Nat → Nat
  | 0, low, _ => low
  | fuel + 1, low, high =>
    if low < high then
      let middle := (low + high) / 2
      if entries.getD middle 0 ≤ x then countUpToFrom entries x fuel (middle + 1) high
      else countUpToFrom entries x fuel low middle
    else low

/-- How many entries of an ascending array are at most `x`. -/
def countUpTo (entries : Array Nat) (x : Nat) : Nat :=
  countUpToFrom entries x (entries.size + 1) 0 entries.size

/-- A set of characters, by the code points where membership changes. -/
structure CharSet where
  changes : Array Nat

namespace CharSet

/-- Reads the changes, written in hexadecimal and separated by blanks. -/
def ofText (text : String) : CharSet :=
  ⟨((words text).map hexNumber).toArray⟩

/-- A character belongs to the set when an odd number of changes come before it. -/
def contains (set : CharSet) (c : Char) : Bool :=
  countUpTo set.changes c.toNat % 2 == 1

end CharSet

/-- A map on characters, by the code points where its value changes. -/
structure CharMap (α : Type) where
  starts : Array Nat
  values : Array α

namespace CharMap

variable {α : Type}

/-- Reads a map written as `start:label` words separated by blanks. -/
def ofText (value : String → α) (text : String) : CharMap α :=
  let entries := (words text).map (splitList ':')
  { starts := (entries.map fun word => hexNumber (word.headD [])).toArray
    values := (entries.map fun word => value (String.ofList (word.getD 1 []))).toArray }

/-- The value of a character, or `default` for one before the first change. -/
def get (map : CharMap α) (default : α) (c : Char) : α :=
  map.values.getD (countUpTo map.starts c.toNat - 1) default

end CharMap

end Packrat
