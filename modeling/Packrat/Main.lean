import Packrat.CommandLine

/-!
# The program

Reads the arguments, the environment, a file and the lines of standard input, and
writes what they come to.
-/

namespace Packrat.CommandLine

/-- Whether messages are coloured: on a terminal that can show colours, unless the user
does not want any. -/
def wantsColour : IO Bool := do
  let kind ← IO.getEnv "TERM"
  let refused ← IO.getEnv "NO_COLOR"
  return refused.isNone && kind.any (· ≠ "dumb")

/-- Whether lines are asked for: where they cannot be edited. -/
def asksForLines : IO Bool := do
  let kind ← IO.getEnv "TERM"
  return kind.any fun kind => ["dumb", "cons25", "emacs"].contains kind

/-- Reads a file. -/
def readFile (path : String) : IO (Except FileProblem String) := do
  try
    let bytes ← IO.FS.readBinFile path
    return match String.fromUTF8? bytes with
      | some text => .ok text
      | none => .error .notText
  catch
    | .noFileOrDirectory .. => return .error .missing
    | .inappropriateType .. => return .error .directory
    | error => return .error (.other error.toString)

/-- Writes an output. -/
def emit (output : Output) : IO Unit := do
  let out ← IO.getStdout
  out.putStr output.printed
  out.flush
  (← IO.getStderr).putStr output.reported

/-- Evaluates the lines of standard input one by one. -/
partial def interact (terminal : Terminal) (asks : Bool) (session : Interaction) :
    IO Unit := do
  emit (.print (if asks then prompt else ""))
  let text ← (← IO.getStdin).getLine
  match inputLines text with
  | line :: _ =>
    let (output, session) := session.line terminal line
    emit output
    interact terminal asks session
  | [] => return

end Packrat.CommandLine

open Packrat Packrat.CommandLine in
/-- Does what the arguments ask for. -/
def main (arguments : List String) : IO UInt32 := do
  let terminal : Terminal := .new .unicode 80 (← wantsColour)
  match Command.ofArguments arguments with
  | .interactive =>
    interact terminal (← asksForLines) .start
    return 0
  | .file path =>
    let contents ← readFile path
    let (output, status) := respond terminal false (fun _ => contents) "" arguments
    emit output
    return status.toUInt32
  | _ =>
    let (output, status) := respond terminal false (fun _ => .error .missing) "" arguments
    emit output
    return status.toUInt32
