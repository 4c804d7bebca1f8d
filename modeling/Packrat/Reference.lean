import Packrat.Literal
import Packrat.Step

/-!
# References

A parser is written down as a `Reference`: a tree of nodes whose leaves may be data,
rules that are defined elsewhere, or nodes of a grammar.  Writing it checks nothing.
Which node of a grammar is meant is worked out when the reference is resolved.

Nodes that are written in different places are different nodes, and a parser that is
used twice is one node.  `Place` says where a node is written.
-/

namespace Packrat

/-- How a node is described in terms of its children's descriptions. -/
inductive Describe where
  /-- The name and then the children: `not "a"`. -/
  | named
  /-- The children with a separator between them: `a | b`. -/
  | between (separator : String)
  /-- The children and then a suffix: `a*`. -/
  | followedBy (suffix : String)
  /-- Fixed words. -/
  | label (label : String)
deriving DecidableEq

/-- A resolved child, as the matcher of its parent is given it.  A child that is still
being resolved, because the grammar is recursive, is described as `...`. -/
structure Child where
  id : NodeId
  description : String
deriving DecidableEq

/-- A kind of node: everything but its children. -/
structure Blueprint (ω ρ : Type) where
  name : String
  /-- How many children a node of this kind has. -/
  arity : Nat
  /-- Whether nodes of the same name and children may be shared.  Only a node that does
  nothing but what those say may be; one that holds a caller's function may not. -/
  cacheable : Bool
  describe : Describe
  /-- The matcher, given the resolved children. -/
  generate : (Fin arity → Child) → Matcher ω ρ

/-- A parser as it is written down. -/
inductive Reference (ω ρ : Type) where
  | node (blueprint : Blueprint ω ρ) (children : Fin blueprint.arity → Reference ω ρ)
  /-- A leaf written as data. -/
  | literal (data : Literal)
  /-- Parts to match one after the other. -/
  | sequence (count : Nat) (parts : Fin count → Reference ω ρ)
  /-- A rule, by its name.  All references to a rule are one parser. -/
  | rule (name : String)
  /-- A parser that is not looked at before it is needed; the label is noted then. -/
  | delayed (label : Option String) (body : Reference ω ρ)
  /-- A node that the grammar with this number resolved. -/
  | handle (grammar : Nat) (id : NodeId)
  /-- A parser with an identity of its own: wherever it is used, it is the same one. -/
  | parser (identity : Nat) (body : Reference ω ρ)

/-- Where a tree of nodes is rooted: at a parser with an identity, at the body of a rule
unfolded for the `serial`-th time, or at the whole-input form of a node. -/
inductive Origin where
  | parser (identity : Nat)
  | unfolding (serial : Nat)
  | consumer (root : NodeId)
deriving DecidableEq

/-- Where a node is written: its origin and the way down from there, the last turn
first. -/
structure Place where
  origin : Origin
  path : List Nat
deriving DecidableEq

/-- The place of a child. -/
def Place.child (place : Place) (index : Nat) : Place :=
  { place with path := index :: place.path }

/-- What makes two unresolved rules the same: their name, or for a delayed parser the
place where it is written. -/
inductive Thunk where
  | rule (name : String)
  | delayed (place : Place)
deriving DecidableEq

/-- The definitions of the rules. -/
abbrev Rules (ω ρ : Type) := String → Reference ω ρ

namespace Reference

variable {ω ρ : Type}

/-- A leaf that is matched by `attempt`. -/
def leaf (name label : String) (cacheable : Bool)
    (attempt : Input ω → Nat → Match (Value ω)) : Reference ω ρ :=
  .node ⟨name, 0, cacheable, .label label, fun _ => .ofMatch attempt⟩ nofun

/-- A node with one child. -/
def unary (name : String) (cacheable : Bool) (describe : Describe)
    (generate : Child → Matcher ω ρ) (child : Reference ω ρ) : Reference ω ρ :=
  .node ⟨name, 1, cacheable, describe, fun children => generate (children 0)⟩ fun _ => child

/-- A node with two children. -/
def binary (name : String) (cacheable : Bool) (describe : Describe)
    (generate : Child → Child → Matcher ω ρ) (first second : Reference ω ρ) : Reference ω ρ :=
  .node ⟨name, 2, cacheable, describe, fun children => generate (children 0) (children 1)⟩
    fun index => if index = 0 then first else second

/-- A node with a list of children. -/
def nary (name : String) (cacheable : Bool) (describe : Describe)
    (generate : List Child → Matcher ω ρ) (children : List (Reference ω ρ)) : Reference ω ρ :=
  .node ⟨name, children.length, cacheable, describe, fun given => generate (List.ofFn given)⟩
    children.get

/-- Exactly this text, giving the text. -/
def text (text : String) : Reference ω ρ := .literal (.text text)

/-- Text that a regular expression matches, giving the text. -/
def pattern (pattern : String) : Reference ω ρ := .literal (.pattern pattern)

/-- Each of the parts in order, giving the list of their values. -/
def ofList (parts : List (Reference ω ρ)) : Reference ω ρ := .sequence parts.length parts.get

/-- The reference in a few words: a node by its name, data as written. -/
def tag : Reference ω ρ → String
  | node blueprint _ => blueprint.name
  | literal data => data.display
  | sequence _ parts => "[" ++ ", ".intercalate (List.ofFn fun index => (parts index).tag) ++ "]"
  | rule _ => "<thunk>"
  | delayed _ _ => "<thunk>"
  | handle _ id => id.tag
  | parser _ body => body.tag

/-- The node that a reference is a handle to. -/
def handle? : Reference ω ρ → Option NodeId
  | handle _ id => some id
  | parser _ body => body.handle?
  | _ => none

end Reference

end Packrat
