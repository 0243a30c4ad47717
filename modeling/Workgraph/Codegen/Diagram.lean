import Workgraph.Codegen.Blueprint

/-!
# Diagrams

A blueprint as text for two tools that draw graphs. Nodes and plain edges are shown.
-/

namespace Workgraph.Codegen.Blueprint

/-- Lines, each with a newline after it. -/
def linesText (lines : List String) : String :=
  String.join (lines.map (· ++ "\n"))

def mermaid (b : Blueprint) : String :=
  linesText (["graph TD"] ++
    b.nodes.map (fun node => "    " ++ node.name ++ "[" ++ node.name ++ "]") ++
    b.edges.map fun edge => "    " ++ edge.source ++ " --> " ++ edge.target)

def dot (b : Blueprint) : String :=
  linesText (["digraph G \x7b"] ++
    b.nodes.map (fun node => "    \"" ++ node.name ++ "\";") ++
    b.edges.map (fun edge => "    \"" ++ edge.source ++ "\" -> \"" ++ edge.target ++ "\";") ++
    ["\x7d"])

end Workgraph.Codegen.Blueprint
