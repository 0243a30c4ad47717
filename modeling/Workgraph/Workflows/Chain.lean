import Workgraph.Walk

/-!
# A chain

Three nodes in a row, each of which counts and logs its turn.
-/

namespace Workgraph.Chain

open Step

def take (name : String) : Step Unit := do
  increment "counter"
  append "messages" (pure (.text ("Node " ++ name ++ " executed")))

def workflow : Workflow where
  schema := "SimpleState"
  fields := ["counter", "messages"]
  entry := "a"
  nodes := [
    ⟨"a", "node_a", "First node in the chain.", take "A"⟩,
    ⟨"b", "node_b", "Second node in the chain.", take "B"⟩,
    ⟨"c", "node_c", "Final node in the chain.", take "C"⟩]
  edges := [("a", "b"), ("b", "c"), ("c", terminal)]
  branchings := []

end Workgraph.Chain
