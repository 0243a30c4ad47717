import Workgraph.Walk

/-!
# The assistant

A start, a processing loop of three rounds that the state itself keeps going, and an end.
-/

namespace Workgraph.Assistant

open Step

def start : Step Unit := do
  append "messages" (pure "Starting workflow")
  write "counter" (.int 0)
  write "next_action" "process"

/-- Counts a round, logs it, and asks for the end from the third round on. -/
def process : Step Unit := do
  increment "counter"
  append "messages" do
    return .text ("Processing step " ++ (← (← read "counter").render))
  if ← (← read "counter").atLeast (.int 3) then
    write "next_action" "end"
  else
    write "next_action" "process"

def finish : Step Unit :=
  append "messages" (pure "Workflow complete")

/-- The action that the state asks for. -/
def route : Step Value := readOr "next_action" "end"

def workflow : Workflow where
  schema := "AgentState"
  fields := ["messages", "context", "next_action", "counter"]
  entry := "start"
  nodes := [
    ⟨"start", "start_node", "Initial processing node.", start⟩,
    ⟨"process", "process_node", "Main processing logic.", process⟩,
    ⟨"end", "end_node", "Cleanup and finalization.", finish⟩]
  edges := [("start", "process"), ("end", terminal)]
  branchings := [
    ⟨"process", ⟨"route_next", route⟩, [("process", "process"), ("end", "end")]⟩]

end Workgraph.Assistant
