import Packrat.Scheduler.Run

/-!
# Traces

One line for each task of a run: what kind it is, the frame and its position, what is
being matched there and, when a frame is resumed, the answer it gets.
-/

namespace Packrat

/-- A text filled up with blanks on the right. -/
def padRight (width : Nat) (text : String) : String :=
  text ++ String.ofList (List.replicate (width - text.length) ' ')

/-- A text filled up with blanks on the left. -/
def padLeft (width : Nat) (text : String) : String :=
  String.ofList (List.replicate (width - text.length) ' ') ++ text

/-- The line of a task. -/
def Event.line {ω : Type} (event : Event ω) : String :=
  let kind := if event.answer.isSome then "resume" else "start"
  let place :=
    padLeft 8 kind ++ " " ++ padRight 6 event.frame.tag ++ " @" ++
      padRight 5 event.position.repr ++ " " ++ event.description.getD "<unresolved>"
  match event.answer with
  | none => place
  | some answer => place ++ " <- " ++ answer.display fun _ => "Any \x7b .. \x7d"

end Packrat
