import Workgraph.Validation
import Workgraph.Workflows.Accumulator
import Workgraph.Workflows.Chain
import Workgraph.Workflows.Paths
import Workgraph.Workflows.Roster
import Workgraph.Workflows.Threshold

/-!
# Command line

The command validates the workflow that its first argument names.
-/

namespace Workgraph

/-- The workflows that the command knows by name. -/
def knownWorkflows : List (String × Workflow) := [
  ("chain", Chain.workflow),
  ("threshold", Threshold.workflow),
  ("accumulator", Accumulator.workflow),
  ("paths", Paths.workflow),
  ("roster", Roster.workflow)]

/-- The known workflows as files of the folder in which the validation looks. -/
def knownPlace : Validation.Place where
  root := "."
  rootSize := 1
  tree :=
    { folders := [["tests"], ["tests", "fixtures"]]
      files := knownWorkflows.map fun entry =>
        (["tests", "fixtures", entry.1 ++ ".py"], some entry.2) }

end Workgraph

def main (args : List String) : IO UInt32 := do
  match Workgraph.Validation.report? Workgraph.knownPlace args with
  | some report =>
    for line in report.lines do
      IO.println line
    return report.code.toUInt32
  | none =>
    IO.eprintln "File name too long"
    return 1
