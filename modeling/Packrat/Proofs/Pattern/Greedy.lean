import Packrat.Leaf
import Mathlib.Data.List.TakeWhile

/-!
# Greedy patterns

Two patterns as they are searched for: blanks, and decimal numbers.  A search keeps a list
of threads from one character to the next.  For these patterns there is never more than one
thread between two characters, so what is left of the text decides the match: it is the
longest that there is at the place where the search starts.
-/

namespace Packrat.Pattern

/-- The program of `\s*`. -/
def blanksProgram : Program :=
  ⟨#[.accept, .choose [2, 0], .one .blanks 1, .look .textStart 1], 3, true⟩

theorem compile?_blanks :
    language.compile? (Literal.anchored "\\s*") = some blanksProgram.finder := rfl

/-- The program of `[0-9]+(\.[0-9]+)?`. -/
def decimalProgram : Program :=
  ⟨#[.accept, .choose [2, 0], .one (.range 48 57) 1, .one (.range 46 46) 2, .choose [3, 0],
    .choose [6, 4], .one (.range 48 57) 5, .look .textStart 6], 7, true⟩

theorem compile?_decimal :
    language.compile? (Literal.anchored "[0-9]+(\\.[0-9]+)?") = some decimalProgram.finder := rfl

namespace Program

variable {program : Program} {text : Array Char} {origin : Nat}

/-- What the threads at a place do there. -/
def step (program : Program) (around : Surroundings) (position : Nat) (threads : List Thread) :
    Option (Nat × Nat) × List Thread :=
  program.advance position around.after
    (program.settle around (program.settleBound threads) threads
      (Array.replicate program.states.size false) [])

/-- A search with no threads left is over. -/
theorem searchFrom_nil (anchored : program.anchored = true) (remaining position : Nat)
    (best : Option (Nat × Nat)) :
    program.searchFrom text origin remaining (position + 1) [] best = best := by
  have later : (position + 1 == 0) = false := rfl
  rw [searchFrom.eq_def]
  simp only [anchored, later, Bool.not_true, Bool.or_false, Bool.and_false, Bool.false_eq_true,
    if_false, List.isEmpty_nil, if_true]

/-- One step of a search that has gone on past its first place. -/
theorem searchFrom_succ (anchored : program.anchored = true) (remaining position : Nat)
    (thread : Thread) (threads : List Thread) (best : Option (Nat × Nat)) :
    program.searchFrom text origin remaining (position + 1) (thread :: threads) best =
      match program.step ⟨text[origin + position]?, text[origin + (position + 1)]?⟩ (position + 1)
        (thread :: threads), remaining with
      | (found, _), 0 => found.or best
      | (found, onward), remaining + 1 =>
        program.searchFrom text origin remaining (position + 2) onward (found.or best) := by
  have later : (position + 1 == 0) = false := rfl
  have here : origin + (position + 1) - 1 = origin + position := rfl
  rw [searchFrom.eq_def]
  simp only [anchored, later, here, Bool.not_true, Bool.or_false, Bool.and_false,
    Bool.false_eq_true, if_false, List.isEmpty_cons, Nat.add_one_ne_zero]
  cases remaining <;> simp only [Option.orElse_eq_orElse, Option.orElse_eq_or] <;> rfl

/-- The first step of a search. -/
theorem find?_eq (text : Array Char) (origin : Nat) :
    program.find? text origin =
      match program.step ⟨none, text[origin]?⟩ 0 [(program.start, 0)], text.size - origin with
      | (found, _), 0 => found
      | (found, onward), remaining + 1 =>
        program.searchFrom text origin remaining 1 onward found := by
  unfold find?
  rw [searchFrom.eq_def]
  simp only [Option.isNone_none, Bool.true_and, beq_self_eq_true, Bool.true_or, if_true,
    List.nil_append, List.isEmpty_cons, Bool.false_eq_true, if_false, Nat.add_zero]
  cases text.size - origin <;>
    simp only [Option.orElse_eq_orElse, Option.orElse_eq_or, Option.or_none] <;> rfl

theorem getElem?_of_drop {place : Nat} {rest : List Char} (isRest : text.toList.drop place = rest) :
    text[place]? = rest.head? := by
  rw [← isRest, List.head?_drop, Array.getElem?_toList]

theorem drop_succ {place : Nat} {c : Char} {rest : List Char}
    (isRest : text.toList.drop place = c :: rest) : text.toList.drop (place + 1) = rest := by
  rw [← List.drop_drop, isRest]
  rfl

/-- A thread that stays where it is among characters of some sort, every place among them
being accepted. -/
theorem searchFrom_loop (anchored : program.anchored = true) {thread : Thread} {p : Char → Bool}
    (onward : Option Char → List Thread)
    (steps : ∀ around position, program.step around position [thread] =
      (some (0, position), if around.after.any p then [thread] else onward around.after))
    {rest : List Char} (position : Nat) {best : Option (Nat × Nat)}
    (isRest : text.toList.drop (origin + (position + 1)) = rest) :
    program.searchFrom text origin rest.length (position + 1) [thread] best =
      match rest.dropWhile p with
      | [] => some (0, position + 1 + (rest.takeWhile p).length)
      | c :: after =>
        program.searchFrom text origin after.length
          (position + 1 + (rest.takeWhile p).length + 1) (onward (some c))
          (some (0, position + 1 + (rest.takeWhile p).length)) := by
  induction rest generalizing position best with
  | nil =>
      rw [searchFrom_succ anchored, steps]
      rfl
  | cons c rest induction =>
      rw [searchFrom_succ anchored, steps, getElem?_of_drop isRest]
      cases holds : p c with
      | false =>
          simp only [List.head?_cons, Option.any_some, holds, List.length_cons, Option.some_or,
            Bool.false_eq_true, if_false, List.takeWhile_cons, List.dropWhile_cons,
            List.length_nil, Nat.add_zero]
      | true =>
          simp only [List.head?_cons, Option.any_some, holds, List.length_cons, Option.some_or,
            if_true, List.takeWhile_cons, List.dropWhile_cons]
          rw [induction (position + 1) (drop_succ isRest),
            show position + 1 + 1 + (rest.takeWhile p).length =
              position + 1 + ((rest.takeWhile p).length + 1) by omega]

/-- A thread that is given up after the characters of its sort. -/
theorem searchFrom_run (anchored : program.anchored = true) {thread : Thread} {p : Char → Bool}
    (steps : ∀ around position, program.step around position [thread] =
      (some (0, position), if around.after.any p then [thread] else []))
    {rest : List Char} (position : Nat) {best : Option (Nat × Nat)}
    (isRest : text.toList.drop (origin + (position + 1)) = rest) :
    program.searchFrom text origin rest.length (position + 1) [thread] best =
      some (0, position + 1 + (rest.takeWhile p).length) := by
  rw [searchFrom_loop anchored (fun _ => []) steps position isRest]
  split
  next => rfl
  next => exact searchFrom_nil anchored ..

/-! ## Blanks -/

theorem blanks_step (around : Surroundings) (position : Nat) :
    blanksProgram.step around position [(1, 0)] =
      (some (0, position), if around.after.any whiteSpace.contains then [(1, 0)] else []) := by
  rw [apply_ite (Prod.mk _)]
  rfl

/-- A search for blanks finds all that there are at the place where it starts. -/
theorem find?_blanks (text : Array Char) (origin : Nat) :
    blanksProgram.find? text origin =
      some (0, ((text.toList.drop origin).takeWhile whiteSpace.contains).length) := by
  have first : blanksProgram.step ⟨none, text[origin]?⟩ 0 [(blanksProgram.start, 0)] =
      blanksProgram.step ⟨none, text[origin]?⟩ 0 [(1, 0)] := rfl
  rw [find?_eq, first, blanks_step, ← Array.length_toList, ← List.length_drop]
  cases isRest : text.toList.drop origin with
  | nil => rfl
  | cons c rest =>
      rw [getElem?_of_drop isRest]
      cases blank : whiteSpace.contains c with
      | false =>
          simp only [List.head?_cons, Option.any_some, blank, List.length_cons,
            Bool.false_eq_true, if_false, List.takeWhile_cons, List.length_nil]
          exact searchFrom_nil rfl ..
      | true =>
          simp only [List.head?_cons, Option.any_some, blank, List.length_cons, if_true,
            List.takeWhile_cons]
          rw [searchFrom_run rfl blanks_step 0 (drop_succ isRest)]
          congr 2
          omega

/-! ## Decimal numbers -/

theorem contains_digit : (CharClass.range 48 57).contains = Char.isDigit := by
  funext c
  rw [Bool.eq_iff_iff]
  simp only [CharClass.contains, Char.isDigit, Bool.and_eq_true, decide_eq_true_eq, ge_iff_le,
    UInt32.le_iff_toNat_le]
  exact Iff.rfl

theorem contains_point : (CharClass.range 46 46).contains = (· == '.') := by
  funext c
  rw [Bool.eq_iff_iff]
  simp only [CharClass.contains, Bool.and_eq_true, decide_eq_true_eq, beq_iff_eq]
  constructor
  · rintro ⟨low, high⟩
    exact Char.toNat_inj.mp (Nat.le_antisymm high low)
  · rintro rfl
    decide

/-- Before anything has been read there has to be a digit. -/
theorem decimal_step_start (after : Option Char) :
    decimalProgram.step ⟨none, after⟩ 0 [(7, 0)] =
      (none, if after.any Char.isDigit then [(5, 0)] else []) := by
  rw [← contains_digit, apply_ite (Prod.mk none)]
  rfl

/-- Among the digits before a point, more of them may follow, or the point. -/
theorem decimal_step_whole (around : Surroundings) (position : Nat) :
    decimalProgram.step around position [(5, 0)] =
      (some (0, position), if around.after.any Char.isDigit then [(5, 0)]
        else if around.after = some '.' then [(2, 0)] else []) := by
  have settled : decimalProgram.step around position [(5, 0)] =
      decimalProgram.advance position around.after [(6, 0), (3, 0), (0, 0)] := rfl
  rw [settled]
  cases around.after with
  | none => rfl
  | some c =>
      have digit := congrFun contains_digit c
      have point := congrFun contains_point c
      by_cases isPoint : c = '.'
      · subst isPoint
        rfl
      · cases isDigit : c.isDigit <;> rw [isDigit] at digit <;>
          simp [advance, decimalProgram, digit, point, isDigit, isPoint]

/-- After the point there has to be a digit. -/
theorem decimal_step_point (around : Surroundings) (position : Nat) :
    decimalProgram.step around position [(2, 0)] =
      (none, if around.after.any Char.isDigit then [(1, 0)] else []) := by
  rw [← contains_digit, apply_ite (Prod.mk none)]
  rfl

/-- Among the digits after the point, more of them may follow. -/
theorem decimal_step_fraction (around : Surroundings) (position : Nat) :
    decimalProgram.step around position [(1, 0)] =
      (some (0, position), if around.after.any Char.isDigit then [(1, 0)] else []) := by
  rw [← contains_digit, apply_ite (Prod.mk _)]
  rfl

/-- How many characters a point and the digits after it take, if there are any. -/
def pointLength : List Char → Nat
  | '.' :: rest =>
    if rest.head?.any Char.isDigit then 1 + (rest.takeWhile Char.isDigit).length else 0
  | _ => 0

/-- A search that has come past a point ends after the digits there, or without the point. -/
theorem searchFrom_point {rest : List Char} (position : Nat) {ends : Nat × Nat}
    (isRest : text.toList.drop (origin + (position + 1)) = rest) :
    decimalProgram.searchFrom text origin rest.length (position + 1) [(2, 0)] (some ends) =
      if rest.head?.any Char.isDigit then
        some (0, position + 1 + (rest.takeWhile Char.isDigit).length)
      else some ends := by
  rw [searchFrom_succ rfl, decimal_step_point, getElem?_of_drop isRest]
  cases rest with
  | nil => rfl
  | cons c rest =>
      cases digit : c.isDigit with
      | false =>
          simp only [List.head?_cons, Option.any_some, digit, List.length_cons,
            Bool.false_eq_true, if_false]
          exact searchFrom_nil rfl ..
      | true =>
          simp only [List.head?_cons, Option.any_some, digit, List.length_cons, if_true,
            List.takeWhile_cons]
          rw [searchFrom_run rfl decimal_step_fraction (position + 1) (drop_succ isRest)]
          congr 2
          omega

/-- A search among the digits before a point ends after them and what may follow them. -/
theorem searchFrom_whole {rest : List Char} (position : Nat) {best : Option (Nat × Nat)}
    (isRest : text.toList.drop (origin + (position + 1)) = rest) :
    decimalProgram.searchFrom text origin rest.length (position + 1) [(5, 0)] best =
      some (0, position + 1 + (rest.takeWhile Char.isDigit).length +
        pointLength (rest.dropWhile Char.isDigit)) := by
  have parts : rest.takeWhile Char.isDigit ++ rest.dropWhile Char.isDigit = rest :=
    List.takeWhile_append_dropWhile
  have left : text.toList.drop (origin + (position + 1) + (rest.takeWhile Char.isDigit).length) =
      rest.dropWhile Char.isDigit := by
    rw [← List.drop_drop, isRest]
    exact (congrArg (List.drop _) parts.symm).trans List.drop_left
  rw [searchFrom_loop rfl (fun after => if after = some '.' then [(2, 0)] else [])
    decimal_step_whole position isRest]
  cases after : rest.dropWhile Char.isDigit with
  | nil => rfl
  | cons c rest =>
      rw [after, Nat.add_assoc] at left
      generalize (List.takeWhile Char.isDigit _).length = taken at left ⊢
      by_cases isPoint : c = '.'
      · subst isPoint
        have there : text.toList.drop (origin + (position + 1 + taken + 1)) = rest :=
          drop_succ left
        simp only [if_true]
        rw [searchFrom_point _ there, pointLength]
        split <;> simp only [Nat.add_assoc, Nat.add_zero]
      · dsimp only
        rw [if_neg fun same => isPoint (Option.some.inj same), searchFrom_nil rfl, pointLength]
        · rfl
        · intro rest same
          exact isPoint (List.cons.inj same).1

/-- How many characters the decimal number at the start of a text takes. -/
def decimalLength (rest : List Char) : Nat :=
  (rest.takeWhile Char.isDigit).length + pointLength (rest.dropWhile Char.isDigit)

/-- A search for a decimal number finds one where there is a digit. -/
theorem find?_decimal (text : Array Char) (origin : Nat) :
    decimalProgram.find? text origin =
      if (text.toList.drop origin).head?.any Char.isDigit then
        some (0, decimalLength (text.toList.drop origin))
      else none := by
  rw [find?_eq, show decimalProgram.start = 7 from rfl, decimal_step_start, ← Array.length_toList,
    ← List.length_drop]
  cases isRest : text.toList.drop origin with
  | nil =>
      rw [getElem?_of_drop isRest]
      rfl
  | cons c rest =>
      rw [getElem?_of_drop isRest]
      cases digit : c.isDigit with
      | false =>
          simp only [List.head?_cons, Option.any_some, digit, List.length_cons,
            Bool.false_eq_true, if_false]
          exact searchFrom_nil rfl ..
      | true =>
          simp only [List.head?_cons, Option.any_some, digit, List.length_cons, if_true,
            decimalLength, List.takeWhile_cons, List.dropWhile_cons]
          rw [searchFrom_whole 0 (drop_succ isRest)]
          congr 2
          omega

/-! ## Byte offsets -/

theorem find?_finder {text : List Char} {last : Nat}
    (found : program.find? text.toArray 0 = some (0, last)) :
    program.finder.find? text = some (0, Text.byteLength (text.take last)) := by
  simp [finder, found, Text.byteLength]

theorem find?_finder_eq_none {text : List Char} (missed : program.find? text.toArray 0 = none) :
    program.finder.find? text = none := by
  simp [finder, missed]

end Program

end Packrat.Pattern
