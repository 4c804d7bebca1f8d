import Packrat.Index

/-!
# Problems with a grammar

What can go wrong when a reference is resolved.  An error that is met below a node is
wrapped in the node's name, so the names read from the inside out.
-/

namespace Packrat

/-- A problem with a grammar. -/
inductive ResolveError where
  /-- A literal cannot be matched; the message says why. -/
  | literal (message : String)
  /-- A rule leads back to itself before it names any node. -/
  | selfReference
  /-- A handle to a slot that the grammar does not have. -/
  | unknownNode (id : NodeId)
  /-- A handle that another grammar gave out. -/
  | foreignNode (id : NodeId)
  /-- The arena is full. -/
  | tooManyNodes
  /-- Something is wrong below a node of this name. -/
  | inside (name : String) (source : ResolveError)
deriving DecidableEq

namespace ResolveError

/-- The error without the notes on where it was met. -/
def innermost : ResolveError → ResolveError
  | inside _ source => source.innermost
  | error => error

/-- The names of the nodes that the error was met below, the outermost first. -/
def names : ResolveError → List String
  | inside name source => name :: source.names
  | _ => []

/-- The error in words. -/
def message : ResolveError → String
  | literal message => message
  | selfReference => "lazy parser is defined only in terms of itself"
  | unknownNode id => "no parser node " ++ id.display ++ " in this grammar"
  | foreignNode id => "parser node " ++ id.display ++ " was resolved by a different grammar"
  | tooManyNodes => "too many parser nodes"
  | inside name source => source.message ++ " (inside " ++ name ++ ")"

end ResolveError

end Packrat
