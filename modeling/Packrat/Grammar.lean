import Packrat.Reference
import Packrat.ResolveError
import Packrat.Table

/-!
# Grammars

A grammar is the arena of the nodes that have been resolved.  A slot of the arena is
reserved before the children of its node are resolved, so that a node that is below
itself finds its own slot; in the end the slot holds its node or forwards to the node
that does the same.  Tables keep what each reference was resolved to.
-/

namespace Packrat

/-- A node that has been resolved. -/
structure Resolved (ω ρ : Type) where
  name : String
  children : List NodeId
  description : String
  /-- What nodes that may be shared with this one have in common, if any may. -/
  key : Option String
  matcher : Matcher ω ρ

/-- What a slot of a grammar holds. -/
inductive Slot (ω ρ : Type) where
  /-- A node that is being resolved. -/
  | reserved
  | ready (node : Resolved ω ρ)
  /-- Another slot has taken this one's place. -/
  | forward (target : NodeId)

/-- The nodes that have been resolved, and what references were resolved to. -/
structure Grammar (ω ρ : Type) where
  /-- The number that tells grammars apart. -/
  number : Nat
  /-- What kind of input the grammar is for. -/
  kind : InputKind
  slots : Array (Slot ω ρ)
  /-- The node that is shared under each key. -/
  shared : Table String NodeId
  nodes : Table Place NodeId
  thunks : Table Thunk NodeId
  literals : Table Literal NodeId
  sequences : Table Place NodeId
  /-- Every unfolding of a rule or of a delayed parser, the last one first, with what is
  noted of it.  Unfoldings that came to nothing are on the list too. -/
  unfoldings : List (Option String)

namespace Grammar

variable {ω ρ : Type}

/-- A grammar without nodes. -/
def empty (number : Nat) (kind : InputKind) : Grammar ω ρ :=
  ⟨number, kind, #[], .empty, .empty, .empty, .empty, .empty, []⟩

/-- How many slots are in use. -/
def size (g : Grammar ω ρ) : Nat := g.slots.size

/-- Follows at most `fuel` forwards from a slot. -/
def followFrom (g : Grammar ω ρ) : Nat → NodeId → NodeId
  | 0, id => id
  | fuel + 1, id =>
    match g.slots[id.number]? with
    | some (.forward target) => followFrom g fuel target
    | _ => id

/-- The slot that a slot stands for in the end.  There are no more forwards to follow
than slots. -/
def follow (g : Grammar ω ρ) (id : NodeId) : NodeId := g.followFrom g.size id

/-- The node that a slot stands for. -/
def node? (g : Grammar ω ρ) (id : NodeId) : Option (Resolved ω ρ) :=
  match g.slots[(g.follow id).number]? with
  | some (.ready node) => some node
  | _ => none

def description? (g : Grammar ω ρ) (id : NodeId) : Option String :=
  (g.node? id).map Resolved.description

def matcher? (g : Grammar ω ρ) (id : NodeId) : Option (Matcher ω ρ) :=
  (g.node? id).map Resolved.matcher

/-- A reference to a node of the grammar. -/
def handle (g : Grammar ω ρ) (id : NodeId) : Reference ω ρ := .handle g.number (g.follow id)

/-- How a child is described to its parent: `...` while it is being resolved. -/
def childDescription (g : Grammar ω ρ) (id : NodeId) : String :=
  (g.description? id).getD "..."

/-- A child's description inside its parent's: in parentheses if the child has several
children of its own. -/
def partDescription (g : Grammar ω ρ) (id : NodeId) : String :=
  match g.node? id with
  | some node =>
    if 1 < node.children.length then "(" ++ node.description ++ ")" else node.description
  | none => "..."

/-- The description of a node. -/
def describe (g : Grammar ω ρ) (name : String) (describe : Describe) (children : List NodeId) :
    String :=
  let parts := children.map g.partDescription
  match describe, children with
  | .label label, _ => label
  | _, [] => name
  | .named, _ => " ".intercalate (name :: parts)
  | .between separator, _ => separator.intercalate parts
  | .followedBy suffix, _ => " ".intercalate parts ++ suffix

/-- The key that a node is shared under: for a leaf its name and description, for other
nodes the name and the children's keys, if every child has one. -/
def sharingKey (g : Grammar ω ρ) (name description : String) (children : List NodeId) :
    Option String :=
  match children with
  | [] => some (name ++ ":" ++ quote description)
  | _ =>
    (children.mapM fun id => (g.node? id).bind Resolved.key).map fun keys =>
      name ++ "(" ++ ",".intercalate (keys.map quote) ++ ")"

/-- Drops every slot from `mark` on, and whatever was resolved to one of them. -/
def rollback (g : Grammar ω ρ) (mark : Nat) : Grammar ω ρ :=
  let old (id : NodeId) : Bool := id.number < mark
  { g with
    slots := g.slots.take mark
    shared := g.shared.keep old
    nodes := g.nodes.keep old
    thunks := g.thunks.keep old
    literals := g.literals.keep old
    sequences := g.sequences.keep old }

end Grammar

end Packrat
