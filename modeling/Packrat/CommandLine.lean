import Packrat.Calculator
import Packrat.Diagnostic.Fancy

/-!
# The command line

What the calculator does with its arguments: evaluate one expression, given as such or
in a file, or evaluate the lines that it reads.  Values are printed, and problems are
reported apart from them.
-/

namespace Packrat.CommandLine

/-- What has been printed, and what has been reported. -/
structure Output where
  printed : String
  reported : String

namespace Output

def silent : Output := ⟨"", ""⟩

def print (text : String) : Output := ⟨text, ""⟩

def report (text : String) : Output := ⟨"", text⟩

/-- Two outputs, one after the other. -/
def append (first second : Output) : Output :=
  ⟨first.printed ++ second.printed, first.reported ++ second.reported⟩

instance : Append Output := ⟨append⟩

end Output

/-- What the arguments ask for. -/
inductive Command where
  | version
  | expression (text : String)
  | file (path : String)
  | interactive
  /-- The arguments make no sense. -/
  | misuse
deriving DecidableEq

/-- The name and the version of the program. -/
def versionLine : String := "plait 0.1.0\n"

/-- What follows the first characters of an argument, if they are these. -/
def after? (start argument : String) : Option String :=
  if start.toList.isPrefixOf argument.toList then
    some (String.ofList (argument.toList.drop start.toList.length))
  else none

/-- Whether an argument is a name of the option for an expression, which stands in the
next argument. -/
def asksExpression (argument : String) : Bool :=
  argument == "-e" || argument == "--expression" || argument == "--eval"

/-- The expression that an argument itself gives. -/
def givenExpression? (argument : String) : Option String :=
  (after? "--expression=" argument).or
    ((after? "--eval=" argument).or ((after? "-e=" argument).or (after? "-e" argument)))

/-- Whether an argument is an option. -/
def isOption (argument : String) : Bool :=
  (after? "-" argument).isSome && argument != "-"

/-- Reads the arguments, given what those before them ask for. -/
def readArguments : Command → List String → Command
  | command, [] => command
  | .interactive, argument :: rest =>
    if argument == "-V" || argument == "--version" then .version
    else if asksExpression argument then
      match rest with
      | text :: rest =>
        if isOption text then .misuse else readArguments (.expression text) rest
      | [] => .misuse
    else
      match givenExpression? argument with
      | some text => readArguments (.expression text) rest
      | none => if isOption argument then .misuse else readArguments (.file argument) rest
  | command, argument :: rest =>
    if argument == "-V" || argument == "--version" then .version
    else match command, rest with
      | .version, _ => .version
      | _, _ => .misuse

/-- What a list of arguments asks for. -/
def Command.ofArguments (arguments : List String) : Command :=
  readArguments .interactive arguments

/-- Why a file cannot be read. -/
inductive FileProblem where
  | missing
  | directory
  | notText
  | other (message : String)

/-- The problem as it is reported. -/
def FileProblem.message : FileProblem → String
  | missing => "No such file or directory (os error 2)"
  | directory => "Is a directory (os error 21)"
  | notText => "stream did not contain valid UTF-8"
  | other message => message

/-- What is reported where evaluating a source came to no value. -/
def complaint (terminal : Terminal) (id : SourceId) (sources : Sources) : RunError → String
  | .parse error => terminal.present (error.diagnostic (some id)) sources
  | .resolve error => "Error: invalid grammar: " ++ error.message ++ "\n"

/-- Evaluates a source and prints its value after `lead`, or reports what is wrong; also
whether there was a value. -/
def evaluateSource (terminal : Terminal) (lead : String) (calculator : Calculator Float)
    (id : SourceId) (sources : Sources) (text : String) : Output × Bool × Calculator Float :=
  match calculator.evaluate text with
  | (some (.ok value), calculator) =>
    (.print (lead ++ Decimal.ofFloat value ++ "\n"), true, calculator)
  | (some (.error error), calculator) =>
    (.report (complaint terminal id sources error), false, calculator)
  | (none, calculator) => (.report "Error: the evaluation did not end\n", false, calculator)

/-- Evaluates a text under a name: what is printed and reported, and whether there was a
value. -/
def evaluateText (terminal : Terminal) (name text : String) : Output × Bool :=
  let (id, sources) := Sources.empty.add name text
  let (output, succeeded, _) := evaluateSource terminal "" (.new .float) id sources text
  (output, succeeded)

/-- Evaluates what is in a file, or reports that it cannot be read. -/
def evaluateFile (terminal : Terminal) (path : String) :
    Except FileProblem String → Output × Bool
  | .ok text => evaluateText terminal path text
  | .error problem =>
    (.report ("Error: cannot read '" ++ path ++ "': " ++ problem.message ++ "\n"), false)

/-- An interactive session: its calculator, and every line so far that was not blank. -/
structure Interaction where
  calculator : Calculator Float
  sources : Sources

/-- A session before its first line. -/
def Interaction.start : Interaction := ⟨.new .float, .empty⟩

/-- What is written to ask for a line. -/
def prompt : String := ">>> "

/-- Evaluates a line, unless it is blank. -/
def Interaction.line (terminal : Terminal) (session : Interaction) (text : String) :
    Output × Interaction :=
  if text.toList.all whiteSpace.contains then (.silent, session)
  else
    let (id, sources) := session.sources.add "<repl>" text
    let (output, _, calculator) :=
      evaluateSource terminal "//> " session.calculator id sources text
    (output, ⟨calculator, sources⟩)

/-- The lines of what is read.  A line feed ends a line, with a carriage return before
it if there is one; what follows the last line feed is a line unless it is empty. -/
def inputLines (text : String) : List String :=
  (Window.linesOf text.toList).map String.ofList

/-- Evaluates line after line. -/
def Interaction.lines (terminal : Terminal) (asks : Bool) (session : Interaction) :
    List String → Output
  | [] => .print (if asks then prompt else "")
  | text :: rest =>
    let (output, session) := session.line terminal text
    .print (if asks then prompt else "") ++ output ++ lines terminal asks session rest

/-- What a call of the program comes to: the output and the exit status, where `asks`
says whether lines are asked for. -/
def respond (terminal : Terminal) (asks : Bool)
    (readFile : String → Except FileProblem String) (lines : String)
    (arguments : List String) : Output × Nat :=
  let status (result : Output × Bool) : Output × Nat :=
    (result.1, if result.2 then 0 else 1)
  match Command.ofArguments arguments with
  | .version => (.print versionLine, 0)
  | .expression text => status (evaluateText terminal "<expression>" text)
  | .file path => status (evaluateFile terminal path (readFile path))
  | .interactive => (Interaction.start.lines terminal asks (inputLines lines), 0)
  | .misuse => (.report "error: the arguments make no sense\n", 2)

end Packrat.CommandLine
