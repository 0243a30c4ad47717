import Workgraph.Walk

/-!
# An accumulator

A loop that adds up the numbers of its rounds and logs each sum. The numbers are counted up from zero, and no
run gets to one that is too long to be written.
-/

namespace Workgraph.Accumulator

open Step

def begin : Step Unit := do
  write "iteration" (.int 0)
  write "accumulated_value" (.int 0)
  append "history" (pure "Initialized")

def accumulate : Step Unit := do
  increment "iteration"
  addTo "accumulated_value" (read "iteration")
  append "history" do
    let round ← read "iteration"
    let sum ← read "accumulated_value"
    return .text ("Iteration " ++ round.display ++ ": accumulated=" ++ sum.display)

def finish : Step Unit :=
  append "history" do
    return .text ("Completed " ++ (← read "iteration").display ++ " iterations")

def routeOnward : Step Value := do
  if ← (← read "iteration").less (← read "max_iterations") then return "loop_body"
  else return "finalize"

def workflow : Workflow where
  schema := "LoopState"
  fields := ["iteration", "max_iterations", "accumulated_value", "history"]
  entry := "initialize"
  nodes := [
    ⟨"initialize", "initialize", "Set up initial state.", begin⟩,
    ⟨"loop_body", "loop_body", "Execute loop iteration.", accumulate⟩,
    ⟨"finalize", "finalize", "Cleanup and final calculations.", finish⟩]
  edges := [("initialize", "loop_body"), ("finalize", terminal)]
  branchings := [
    ⟨"loop_body", ⟨"check_continue", routeOnward⟩,
      [("loop_body", "loop_body"), ("finalize", "finalize")]⟩]

end Workgraph.Accumulator
