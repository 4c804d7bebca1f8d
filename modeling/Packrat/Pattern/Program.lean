import Packrat.Pattern.Reader

/-!
# Programs for expressions

An expression is turned into a program: states that match one character, ask about the
place or offer alternatives in order of preference.  A search runs all threads of the
program side by side, the preferred one first, so it takes time in proportion to the
text and finds the leftmost match that is preferred among those that start there.
-/

namespace Packrat.Pattern

/-- A state of a program. -/
inductive State where
  | one (members : CharClass) (next : Nat)
  | look (look : Look) (next : Nat)
  | choose (nexts : List Nat)
  | accept

/-- A program: its states, where it starts, and whether it only matches at the start of
a text. -/
structure Program where
  states : Array State
  start : Nat
  anchored : Bool

/-- The alternatives of a repetition, in order of preference. -/
def preference (greedy : Bool) (again onward : Nat) : State :=
  .choose (if greedy then [again, onward] else [onward, again])

/-- Adds one state. -/
def emit (state : State) (states : Array State) : Nat × Array State :=
  (states.size, states.push state)

/-- Runs `add` some number of times, each time in front of what came last. -/
def emitCopies (add : Nat → Array State → Nat × Array State) :
    Nat → Nat → Array State → Nat × Array State
  | 0, next, states => (next, states)
  | copies + 1, next, states =>
    let (entry, states) := add next states
    emitCopies add copies entry states

/-- Adds the states of an expression in front of the state `next`, and gives the state
to start at. -/
def emitRegex : Regex → Nat → Array State → Nat × Array State
  | .empty, next, states => (next, states)
  | .one members, next, states => emit (.one members next) states
  | .look look, next, states => emit (.look look next) states
  | .seq first second, next, states =>
    let (entry, states) := emitRegex second next states
    emitRegex first entry states
  | .alt first second, next, states =>
    let (left, states) := emitRegex first next states
    let (right, states) := emitRegex second next states
    emit (.choose [left, right]) states
  | .iterate body least (some most) greedy, next, states =>
    let optional (entry : Nat) (states : Array State) : Nat × Array State :=
      let (again, states) := emitRegex body entry states
      emit (preference greedy again next) states
    let (entry, states) := emitCopies optional (most - least) next states
    emitCopies (emitRegex body) least entry states
  | .iterate body least none greedy, next, states =>
    let (loop, states) := emit .accept states
    let (again, states) := emitRegex body loop states
    let states := states.setIfInBounds loop (preference greedy again next)
    match least with
    | 0 =>
      if 0 < body.shortest then (loop, states)
      else emit (preference greedy again next) states
    | least + 1 => emitCopies (emitRegex body) least again states

/-- How much room the program of an expression takes, roughly in bytes. -/
def Regex.weight : Regex → Nat
  | .empty => 0
  | .one _ => 32
  | .look _ => 32
  | .seq first second => weight first + weight second
  | .alt first second => weight first + weight second + 40
  | .iterate body least most _ => (weight body + 40) * max 1 (max least (most.getD 0))

/-- The most room that a program may take. -/
def weightLimit : Nat := 10485760

namespace Program

/-- The program of an expression. -/
def ofRegex (regex : Regex) : Program :=
  let (start, states) := emitRegex regex 0 #[.accept]
  ⟨states, start, regex.isAnchored⟩

/-- A thread: the state it is in and where its match started. -/
abbrev Thread := Nat × Nat

/-- Follows threads through alternatives and questions to states that match a character
or accept.  A state is entered once, by the thread that is preferred. -/
def settle (program : Program) (around : Surroundings) :
    Nat → List Thread → Array Bool → List Thread → List Thread
  | 0, _, _, settled => settled.reverse
  | _, [], _, settled => settled.reverse
  | fuel + 1, (state, start) :: waiting, entered, settled =>
    if entered.getD state true then settle program around fuel waiting entered settled
    else
      let entered := entered.setIfInBounds state true
      match program.states[state]? with
      | some (.choose nexts) =>
        settle program around fuel (nexts.map (·, start) ++ waiting) entered settled
      | some (.look look next) =>
        if look.holds around then
          settle program around fuel ((next, start) :: waiting) entered settled
        else settle program around fuel waiting entered settled
      | _ => settle program around fuel waiting entered ((state, start) :: settled)

/-- How many steps settling takes at most: each state is entered once. -/
def settleBound (program : Program) (waiting : List Thread) : Nat :=
  program.states.foldl (fun n state => match state with
    | .choose nexts => n + nexts.length
    | _ => n + 1) (waiting.length + 1)

/-- What threads do at a place: the match of the first that accepts, if one does, and
the threads that go on past the next character.  Threads after an accepting one are
given up. -/
def advance (program : Program) (position : Nat) (next : Option Char) :
    List Thread → Option (Nat × Nat) × List Thread
  | [] => (none, [])
  | (state, start) :: rest =>
    match program.states[state]? with
    | some .accept => (some (start, position), [])
    | some (.one members onward) =>
      let (found, threads) := advance program position next rest
      if next.any members.contains then (found, (onward, start) :: threads)
      else (found, threads)
    | _ => advance program position next rest

/-- Searches the part of a text from `origin` on as if it stood alone.  `remaining`
characters are left at `position`, counted from `origin`; `best` is the match found so
far. -/
def searchFrom (program : Program) (text : Array Char) (origin : Nat) :
    Nat → Nat → List Thread → Option (Nat × Nat) → Option (Nat × Nat)
  | remaining, position, threads, best =>
    let fresh := best.isNone && (position == 0 || !program.anchored)
    let threads := if fresh then threads ++ [(program.start, position)] else threads
    if threads.isEmpty then best
    else
      let before := if position = 0 then none else text[origin + position - 1]?
      let after := text[origin + position]?
      let settled := program.settle ⟨before, after⟩ (program.settleBound threads) threads
        (Array.replicate program.states.size false) []
      let (found, threads) := program.advance position after settled
      let best := found <|> best
      match remaining with
      | 0 => best
      | remaining + 1 => searchFrom program text origin remaining (position + 1) threads best

/-- The leftmost match in the part of a text from `origin` on: the numbers of characters
from there to the match's two ends. -/
def find? (program : Program) (text : Array Char) (origin : Nat) : Option (Nat × Nat) :=
  program.searchFrom text origin (text.size - origin) 0 [] none

end Program

/-- The program of an expression, if it is well formed and not too large. -/
def program? (expression : List Char) : Option Program := do
  let regex ← read? expression
  if Regex.weight regex ≤ weightLimit then some (.ofRegex regex) else none

end Packrat.Pattern
