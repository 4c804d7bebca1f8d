import Packrat.Grammar.Resolve
import Packrat.ParseError
import Packrat.Scheduler.Run

/-!
# Engines

An engine resolves parsers in a grammar of its own and matches them against inputs.  A
parser stays resolved from one call to the next; each call gets a machine of its own.

Nothing bounds how long a run may take, so calls are given fuel, and those that would
need more give nothing.
-/

namespace Packrat

/-- A parser as callers hold it: how it is written down, and an identity that keeps its
nodes apart from those of other parsers. -/
structure Parser (ω ρ : Type) where
  identity : Nat
  body : Reference ω ρ

namespace Parser

variable {ω ρ : Type}

/-- The parser as a part of others. -/
def reference (parser : Parser ω ρ) : Reference ω ρ := .parser parser.identity parser.body

/-- The parser in a few words: `Parser(alt)`. -/
def display (parser : Parser ω ρ) : String := "Parser(" ++ parser.body.tag ++ ")"

end Parser

/-- Settings for a call. -/
structure Options where
  /-- Whether the result of every node at every position is kept. -/
  memoize : Bool
  /-- Where matching starts. -/
  start : Nat
  /-- The most tasks that a run may take. -/
  stepLimit : Option Nat
deriving DecidableEq

/-- Results are kept, and matching starts at the start and has no limit. -/
def Options.standard : Options := ⟨true, 0, none⟩

/-- Why there is no value. -/
inductive RunError where
  | resolve (error : ResolveError)
  | parse (error : ParseError)
deriving DecidableEq

/-- The error in one line. -/
def RunError.display : RunError → String
  | resolve error => error.message
  | parse error => error.display

/-- A grammar, and what its parsers are run with. -/
structure Engine (ω ρ : Type) where
  grammar : Grammar ω ρ
  options : Options
  /-- The whole-input form of each node that has been run. -/
  consuming : Table NodeId NodeId

namespace Engine

variable {ω ρ τ : Type}

/-- An engine with an empty grammar. -/
def new (number : Nat) (kind : InputKind) (options : Options) : Engine ω ρ :=
  ⟨.empty number kind, options, .empty⟩

/-- Resolves what is written at a place. -/
def resolveAt (rules : Rules ω ρ) (engine : Engine ω ρ) (place : Place)
    (reference : Reference ω ρ) : Except ResolveError NodeId × Engine ω ρ :=
  let (node, grammar) := engine.grammar.resolve rules place reference
  (node, { engine with grammar })

/-- Resolves a parser. -/
def resolve (rules : Rules ω ρ) (engine : Engine ω ρ) (parser : Parser ω ρ) :
    Except ResolveError NodeId × Engine ω ρ :=
  engine.resolveAt rules ⟨.parser parser.identity, []⟩ parser.body

/-- The node for `root` and then the end of the input. -/
def wholeInput (rules : Rules ω ρ) (engine : Engine ω ρ) (root : NodeId) :
    Except ResolveError NodeId × Engine ω ρ :=
  match engine.consuming.find? root with
  | some node => (.ok node, engine)
  | none =>
    match engine.resolveAt rules ⟨.consumer root, []⟩
        (.consume (engine.grammar.handle root)) with
    | (.ok node, engine) =>
      (.ok node, { engine with consuming := engine.consuming.insert root node })
    | (.error error, engine) => (.error error, engine)

/-- Resolves a parser and then its whole-input form. -/
def resolveWhole (rules : Rules ω ρ) (engine : Engine ω ρ) (parser : Parser ω ρ) :
    Except ResolveError NodeId × Engine ω ρ :=
  match engine.resolve rules parser with
  | (.ok root, engine) => engine.wholeInput rules root
  | (.error error, engine) => (.error error, engine)

/-- Matches a node.  To start past the end of the input is a failure, which takes no
task. -/
def matchNode (engine : Engine ω ρ) (host : Host ω ρ τ) (fuel : Nat) (input : Input ω)
    (options : Options) (root : NodeId) (world : τ) : Option (Job.Outcome ω) × τ :=
  if input.length < options.start then
    (some ⟨.failure
        ("start position " ++ options.start.repr ++ " is past the end of the input")
        (.point input.length), 0⟩, world)
  else
    Job.run ⟨engine.grammar, input, options.memoize, options.stepLimit⟩ host fuel root
      options.start world

/-- Matches a parser against an input, as far as it gets. -/
def execute (rules : Rules ω ρ) (host : Host ω ρ τ) (fuel : Nat) (engine : Engine ω ρ)
    (parser : Parser ω ρ) (input : Input ω) (options : Options) (world : τ) :
    Option (Except ResolveError (Job.Outcome ω)) × Engine ω ρ × τ :=
  match engine.resolve rules parser with
  | (.error error, engine) => (some (.error error), engine, world)
  | (.ok root, engine) =>
    let (outcome, world) := engine.matchNode host fuel input options root world
    (outcome.map .ok, engine, world)

/-- What a match of the whole input comes to. -/
def verdict [Printable ω] (input : Input ω) : Match (Value ω) → Except RunError (Value ω)
  | .success _ value => .ok value
  | .failure message span => .error (.parse (.ofFailure message span input))

/-- Matches a parser against a whole input and gives its value. -/
def run [Printable ω] (rules : Rules ω ρ) (host : Host ω ρ τ) (fuel : Nat)
    (engine : Engine ω ρ) (parser : Parser ω ρ) (input : Input ω) (options : Options)
    (world : τ) : Option (Except RunError (Value ω)) × Engine ω ρ × τ :=
  match engine.resolveWhole rules parser with
  | (.error error, engine) => (some (.error (.resolve error)), engine, world)
  | (.ok root, engine) =>
    let (outcome, world) := engine.matchNode host fuel input options root world
    (outcome.map fun outcome => verdict input outcome.result, engine, world)

end Engine

end Packrat
