import Workgraph.Walk

/-!
# Thresholds

A value is raised by ten while it is low and doubled once it is high, until it reaches a hundred.
-/

namespace Workgraph.Threshold

open Step

def start : Step Unit := append "path_taken" (pure "start")

/-- Notes whether the value is still below a hundred. -/
def noteProgress : Step Unit := do
  write "should_continue" (.bool (← (← read "value").less (.int 100)))

def processHigh : Step Unit := do
  append "path_taken" (pure "high")
  write "value" (← (← read "value").mul (.int 2))
  noteProgress

def processLow : Step Unit := do
  append "path_taken" (pure "low")
  addTo "value" (pure (.int 10))
  noteProgress

def finish : Step Unit := append "path_taken" (pure "end")

def routeByValue : Step Value := do
  if ← (← read "value").atLeast (.int 50) then return "high" else return "low"

def routeOnward : Step Value := do
  if ← isSet "should_continue" then return "start" else return "end"

def workflow : Workflow where
  schema := "ConditionalState"
  fields := ["value", "path_taken", "should_continue"]
  entry := "start"
  nodes := [
    ⟨"start", "start_node", "Initialize the workflow.", start⟩,
    ⟨"high", "process_high", "Process for high values.", processHigh⟩,
    ⟨"low", "process_low", "Process for low values.", processLow⟩,
    ⟨"end", "end_node", "Finalize the workflow.", finish⟩]
  edges := [("end", terminal)]
  branchings := [
    ⟨"start", ⟨"route_based_on_value", routeByValue⟩, [("high", "high"), ("low", "low")]⟩,
    ⟨"high", ⟨"should_continue", routeOnward⟩, [("start", "start"), ("end", "end")]⟩,
    ⟨"low", ⟨"should_continue", routeOnward⟩, [("start", "start"), ("end", "end")]⟩]

end Workgraph.Threshold
