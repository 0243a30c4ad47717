import Workgraph.Step

/-!
# Workflows

A workflow is a graph of named nodes. Each node runs a step on the state. The node that comes next is
given by a plain edge, or by a router whose answer is looked up in a table of targets.
-/

namespace Workgraph

/-- The target that ends a walk. -/
def terminal : String := "__end__"

/-- A place of a workflow, with the step that is run there. -/
structure Node where
  name : String
  handler : String
  summary : String
  run : Step Unit

/-- A decision on the state. -/
structure Router where
  name : String
  decide : Step Value

/-- The router that chooses what follows a node, and the targets of its answers. -/
structure Branching where
  source : String
  router : Router
  targets : List (String × String)

/-- A graph of steps on a state with the given fields. -/
structure Workflow where
  schema : String
  fields : List String
  entry : String
  nodes : List Node
  edges : List (String × String)
  branchings : List Branching

namespace Branching

def target? (branching : Branching) : Value → Option String
  | .text answer => branching.targets.lookup answer
  | _ => none

end Branching

namespace Workflow

def node? (w : Workflow) (name : String) : Option Node := w.nodes.find? (·.name == name)

def branching? (w : Workflow) (name : String) : Option Branching :=
  w.branchings.find? (·.source == name)

def next? (w : Workflow) (name : String) : Option String := w.edges.lookup name

/-- The step or decision with the given name of its function; a decision has an answer. -/
def operation? (w : Workflow) (name : String) : Option (Step (Option Value)) :=
  match w.nodes.find? (·.handler == name) with
  | some node => some do node.run; return none
  | none =>
    match w.branchings.find? (·.router.name == name) with
    | some branching => some do return some (← branching.router.decide)
    | none => none

end Workflow

end Workgraph
