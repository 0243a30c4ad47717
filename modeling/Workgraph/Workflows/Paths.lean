import Workgraph.Walk

/-!
# Paths

A value takes one of three paths by its size, and the results of all paths are added up.
-/

namespace Workgraph.Paths

open Step

def start : Step Unit := write "chosen_path" "unknown"

def doubled : Step Unit := do
  write "path_a_result" (← (← read "input_value").mul (.int 2))
  write "chosen_path" "A"

def shifted : Step Unit := do
  write "path_b_result" (← (← read "input_value").add (.int 100))
  write "chosen_path" "B"

def squared : Step Unit := do
  write "path_c_result" (← (← read "input_value").power 2)
  write "chosen_path" "C"

def merge : Step Unit := do
  let both ← (← read "path_a_result").add (← read "path_b_result")
  write "final_result" (← both.add (← read "path_c_result"))

def route : Step Value := do
  let value ← read "input_value"
  if ← value.less (.int 33) then return "path_a"
  else if ← value.less (.int 66) then return "path_b"
  else return "path_c"

def workflow : Workflow where
  schema := "MultiPathState"
  fields := ["input_value", "path_a_result", "path_b_result", "path_c_result", "final_result",
    "chosen_path"]
  entry := "start"
  nodes := [
    ⟨"start", "start", "Entry point - determines which path to take.", start⟩,
    ⟨"path_a", "path_a", "Processing path A.", doubled⟩,
    ⟨"path_b", "path_b", "Processing path B.", shifted⟩,
    ⟨"path_c", "path_c", "Processing path C.", squared⟩,
    ⟨"merge", "merge", "Merge results from all paths.", merge⟩]
  edges := [
    ("path_a", "merge"),
    ("path_b", "merge"),
    ("path_c", "merge"),
    ("merge", terminal)]
  branchings := [
    ⟨"start", ⟨"router", route⟩,
      [("path_a", "path_a"), ("path_b", "path_b"), ("path_c", "path_c")]⟩]

end Workgraph.Paths
