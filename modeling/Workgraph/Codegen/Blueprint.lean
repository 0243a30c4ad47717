import Workgraph.Table

/-!
# Blueprints

A blueprint describes a workflow from which code is generated: the fields of its state, its nodes, the
plain edges between them, and the tables by which routers choose what follows a node.
-/

namespace Workgraph.Codegen

/-- A node and the function that it runs. -/
structure NodeSpec where
  name : String
  function : String
  signature : String
  doc : Option String := none
  source : Option String := none

structure EdgeSpec where
  source : String
  target : String

structure FieldSpec where
  name : String
  hint : String
  optional : Bool := false

/-- The router after a node and the targets of its answers. -/
structure RoutingSpec where
  function : String
  branches : Table String

structure Blueprint where
  entry : String
  fields : List FieldSpec
  nodes : List NodeSpec
  edges : List EdgeSpec
  routings : Table RoutingSpec

/-- Where control goes. -/
inductive Destination where
  | stop
  | node (name : String)
  deriving DecidableEq, Repr

namespace Destination

/-- The destination that a target names; two names mean the end. -/
def ofTarget (target : String) : Destination :=
  if target = "END" ∨ target = "__end__" then .stop else .node target

end Destination

/-- What follows a node: one destination, or one for each answer of a router. -/
inductive Action where
  | proceed (destination : Destination)
  | choose (branches : List (String × Destination))
  deriving DecidableEq, Repr

namespace Blueprint

def edgeFrom? (b : Blueprint) (name : String) : Option EdgeSpec :=
  b.edges.find? (·.source == name)

/-- What follows a node: its routing if it has one, else its first plain edge, else the end. -/
def action (b : Blueprint) (name : String) : Action :=
  match b.routings.get? name with
  | some routing =>
    .choose (routing.branches.entries.map fun entry => (entry.1, .ofTarget entry.2))
  | none =>
    match b.edgeFrom? name with
    | some edge => .proceed (.ofTarget edge.target)
    | none => .proceed .stop

def isConditional (b : Blueprint) : Bool := !b.routings.entries.isEmpty

end Blueprint

end Workgraph.Codegen
