import Packrat.Engine
import Packrat.Scheduler.Trace

/-!
# Workspaces

A workspace holds parsers under names, and the engines that they run with.  A parser, its
copies and the parser that it resolves to share one engine, which stands in a cell.  A
function of a parser may ask to run a parser of the workspace in the middle of a match;
when the engine for that is itself in the middle of a match, the parser runs with a new
engine, which is dropped afterwards.
-/

namespace Packrat

/-- What the functions of a parser may ask for. -/
inductive Request where
  /-- Count one more of something. -/
  | note (label : String)
  /-- Run the parser of a name on a whole text. -/
  | run (name : String) (text : Text)

/-- A place for an engine. -/
inductive Cell (ω : Type) where
  /-- An engine is made when it is needed. -/
  | unused
  | idle (engine : Engine ω Request)
  /-- The engine is in the middle of a call. -/
  | busy

/-- A parser and the cell of its engine. -/
structure Held (ω : Type) where
  parser : Parser ω Request
  cell : Nat

/-- Parsers under names, and engines in cells. -/
structure Workspace (ω : Type) where
  kind : InputKind
  rules : Rules ω Request
  cells : Array (Cell ω)
  held : Table String (Held ω)
  /-- How many parsers have been given an identity. -/
  identities : Nat
  /-- How many grammars have been given a number. -/
  grammars : Nat
  /-- What has been counted. -/
  counts : Table String Nat
  /-- Whether the tasks of runs are recorded. -/
  tracing : Bool
  /-- A line for each task that was recorded, the last one first. -/
  trace : List String

namespace Workspace

variable {ω : Type}

/-- A workspace with nothing in it. -/
def empty (kind : InputKind) (rules : Rules ω Request) : Workspace ω :=
  ⟨kind, rules, #[], .empty, 0, 0, .empty, false, []⟩

/-- Gives an identity to a parser that has just been written down. -/
def identify (w : Workspace ω) (body : Reference ω Request) : Parser ω Request × Workspace ω :=
  (⟨w.identities, body⟩, { w with identities := w.identities + 1 })

/-- Gives an identity and an unused cell to a parser that has just been written down. -/
def hold (w : Workspace ω) (body : Reference ω Request) : Held ω × Workspace ω :=
  let (parser, w) := w.identify body
  (⟨parser, w.cells.size⟩, { w with cells := w.cells.push .unused })

/-- Puts a parser under a name. -/
def define (w : Workspace ω) (name : String) (parser : Held ω) : Workspace ω :=
  { w with held := w.held.insert name parser }

/-- A new engine with a grammar that no other engine has. -/
def newEngine (w : Workspace ω) (options : Options) : Engine ω Request × Workspace ω :=
  (.new w.grammars w.kind options, { w with grammars := w.grammars + 1 })

/-- Puts a new engine into a cell of its own. -/
def addEngine (w : Workspace ω) (options : Options) : Nat × Workspace ω :=
  let (engine, w) := w.newEngine options
  (w.cells.size, { w with cells := w.cells.push (.idle engine) })

/-- The engine in a cell, unless it is busy or has not been made. -/
def engine? (w : Workspace ω) (cell : Nat) : Option (Engine ω Request) :=
  match w.cells[cell]? with
  | some (.idle engine) => some engine
  | _ => none

/-- Counts one more of something. -/
def note (w : Workspace ω) (label : String) : Workspace ω :=
  { w with counts := w.counts.insert label ((w.counts.find? label).getD 0 + 1) }

/-- Counts what an engine has unfolded since there were `before` unfoldings. -/
def noteUnfoldings (w : Workspace ω) (before : Nat) (engine : Engine ω Request) :
    Workspace ω :=
  let unfoldings := engine.grammar.unfoldings
  ((unfoldings.take (unfoldings.length - before)).filterMap id).foldl note w

/-- A call that an engine carries out in a workspace. -/
abbrev Call (ω α : Type) := Engine ω Request → Workspace ω → α × Engine ω Request × Workspace ω

/-- Has a given engine carry out a call. -/
def callWith {α : Type} (w : Workspace ω) (engine : Engine ω Request) (call : Call ω α) :
    α × Engine ω Request × Workspace ω :=
  let before := engine.grammar.unfoldings.length
  let (result, engine, w) := call engine w
  (result, engine, w.noteUnfoldings before engine)

/-- Has the engine in a cell carry out a call; the cell is busy meanwhile.  Where the
cell is busy already, a new engine carries out the call and is dropped. -/
def call {α : Type} (w : Workspace ω) (cell : Nat) (call : Call ω α) : α × Workspace ω :=
  let keep (w : Workspace ω) (engine : Engine ω Request) : α × Workspace ω :=
    let (result, engine, w) :=
      callWith { w with cells := w.cells.setIfInBounds cell .busy } engine call
    (result, { w with cells := w.cells.setIfInBounds cell (.idle engine) })
  match w.cells[cell]? with
  | some (.idle engine) => keep w engine
  | some .unused =>
    let (engine, w) := w.newEngine .standard
    keep w engine
  | _ =>
    let (engine, w) := w.newEngine .standard
    let (result, _, w) := callWith w engine call
    (result, w)

/-- Records a task. -/
def watch (event : Event ω) (w : Workspace ω) : Workspace ω :=
  if w.tracing then { w with trace := event.line :: w.trace } else w

/-- Answers a request of a function that runs `depth` runs above the innermost one there
may be. -/
def answer [Printable ω] (fuel : Nat) : Nat → Request → Workspace ω → Answer ω × Workspace ω
  | _, .note label, w => (.ok .unit, w.note label)
  | 0, .run _ _, w => (.error "parsers are run too deep inside each other", w)
  | depth + 1, .run name text, w =>
    match w.held.find? name with
    | none => (.error ("there is no parser " ++ name), w)
    | some ⟨parser, cell⟩ =>
      let (result, w) := w.call cell fun engine w =>
        engine.run w.rules ⟨answer fuel depth, watch⟩ fuel parser (.text text) engine.options w
      match result with
      | none => (.error "the run did not end", w)
      | some (.ok value) => (.ok value, w)
      | some (.error error) => (.error error.display, w)

/-- The host of the runs in a workspace, which may be nested as deep as there is fuel. -/
def host [Printable ω] (fuel : Nat) : Host ω Request (Workspace ω) :=
  ⟨answer fuel fuel, watch⟩

/-- Matches a parser with the engine in a cell, as far as it gets.  The engine's options
count unless others are given. -/
def execute [Printable ω] (fuel : Nat) (w : Workspace ω) (cell : Nat)
    (parser : Parser ω Request) (input : Input ω) (options : Option Options) :
    Option (Except ResolveError (Job.Outcome ω)) × Workspace ω :=
  w.call cell fun engine w =>
    engine.execute w.rules (host fuel) fuel parser input (options.getD engine.options) w

/-- Matches a parser with the engine in a cell against a whole input. -/
def run [Printable ω] (fuel : Nat) (w : Workspace ω) (cell : Nat)
    (parser : Parser ω Request) (input : Input ω) (options : Option Options) :
    Option (Except RunError (Value ω)) × Workspace ω :=
  w.call cell fun engine w =>
    engine.run w.rules (host fuel) fuel parser input (options.getD engine.options) w

/-- Resolves a parser with the engine in a cell, and gives a reference to its node. -/
def resolve (w : Workspace ω) (cell : Nat) (parser : Parser ω Request) :
    Except ResolveError (Reference ω Request) × Workspace ω :=
  w.call cell fun engine w =>
    match engine.resolve w.rules parser with
    | (.ok node, engine) => (.ok (engine.grammar.handle node), engine, w)
    | (.error error, engine) => (.error error, engine, w)

/-- How many tasks a run of a parser takes that has no limit.  What cannot be resolved
takes none, and nothing is counted. -/
def steps [Printable ω] (fuel : Nat) (w : Workspace ω) (cell : Nat)
    (parser : Parser ω Request) (input : Input ω) (options : Option Options) :
    Option Nat × Workspace ω :=
  let (outcome, after) := w.call cell fun engine w =>
    engine.execute w.rules (host fuel) fuel parser input
      { options.getD engine.options with stepLimit := none } w
  let tasks : Except ResolveError (Job.Outcome ω) → Nat
    | .ok outcome => outcome.steps
    | .error _ => 0
  (outcome.map tasks, { after with counts := w.counts })

end Workspace

end Packrat
