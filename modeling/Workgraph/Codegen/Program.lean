import Workgraph.Codegen.TypeHint
import Workgraph.Codegen.Blueprint
import Workgraph.Codegen.Listing

/-!
# Generated programs

The Rust code for a blueprint: a struct for the state, a stub for each node and for each router, and an
executor. Without routers the executor runs the nodes in a row; else it runs a loop with an arm for each
node.
-/

namespace Workgraph.Codegen

namespace FieldSpec

def type (field : FieldSpec) : TargetType := TypeHint.toType field.hint.toList

/-- The line that declares a field; an optional field has an optional type. -/
def line (field : FieldSpec) : String :=
  let code := field.type.code
  "    pub " ++ field.name ++ ": " ++
    if field.optional && !field.type.isOptional then "Option<" ++ code ++ ">" else code

end FieldSpec

namespace Blueprint

/-- What the types of the fields need; as a set, in which nothing stands twice. -/
def imports (b : Blueprint) : List String := b.fields.flatMap fun field => field.type.imports

def stateStruct (b : Blueprint) : Listing := [
  "#[derive(Debug, Clone, Serialize, Deserialize)]",
  "pub struct GraphState \x7b",
  Text.join ",\n" (b.fields.map FieldSpec.line),
  "\x7d"]

end Blueprint

def nodeFunction (final : Text.FinalReturn) (node : NodeSpec) : Listing := [
  docComment (node.doc.getD "Generated node function") final,
  "/// Original function: " ++ node.function,
  "/// Signature: " ++ node.signature,
  "async fn " ++ node.name ++ "_node(mut state: GraphState) -> Result<GraphState> \x7b",
  match node.source with
  | some place => "    // Original source: " ++ place
  | none => "    // Source location not available",
  "",
  "    // TODO: Implement " ++ node.name ++ " logic here",
  "    // This is a stub - replace with actual implementation",
  "",
  "    Ok(state)",
  "\x7d"]

/-- The stub for the router after a node. -/
def routingFunction (name : String) (routing : RoutingSpec) : Listing := [
  "/// Routing function for node: " ++ name,
  "/// Original function: " ++ routing.function,
  "fn " ++ name ++ "_route(state: &GraphState) -> &'static str \x7b",
  "    // TODO: Implement routing logic",
  "    // This should return one of: " ++
    Text.join ", " (routing.branches.keys.map fun key => "\"" ++ key ++ "\""),
  "    \"END\"",
  "\x7d"]

namespace Blueprint

def functions (b : Blueprint) (final : Text.FinalReturn) : Listing :=
  Listing.blocks (b.nodes.map (nodeFunction final) ++
    b.routings.entries.map fun entry => routingFunction entry.1 entry.2)

/-- The lines that run a node of a program without routers. -/
def runNode (node : NodeSpec) : Listing := [
  "    // Execute node: " ++ node.name,
  "    state = " ++ node.name ++ "_node(state).await",
  "        .context(\"Failed to execute node '" ++ node.name ++ "')\")?;"]

/-- The nodes in a row, in the order in which they are listed. -/
def linearLogic (b : Blueprint) : Listing := Listing.blocks (b.nodes.map runNode)

end Blueprint

/-- The arm of a routing table for an answer. -/
def branchLine (branch : String × Destination) : String :=
  "                    \"" ++ branch.1 ++ "\" => " ++
    match branch.2 with
    | .stop => "break,"
    | .node name => "\"" ++ name ++ "\","

/-- The lines that pass control on after a node. -/
def actionLines (name : String) : Action → Listing
  | .proceed .stop => ["                break;"]
  | .proceed (.node target) => ["                current_node = \"" ++ target ++ "\";"]
  | .choose branches =>
    ["                // Conditional routing from " ++ name,
      "                current_node = match " ++ name ++ "_route(&state) \x7b"] ++
      branches.map branchLine ++
      ["                    _ => anyhow::bail!(\"Unknown routing condition\"),",
        "                \x7d;"]

/-- The arm of the loop for a node. -/
def armLines (name : String) (action : Action) : Listing :=
  ["            \"" ++ name ++ "\" => \x7b",
    "                tracing::debug!(\"Executing node: " ++ name ++ "\");",
    "                state = " ++ name ++ "_node(state).await",
    "                    .context(\"Failed to execute node '" ++ name ++ "')\")?;",
    ""] ++
    actionLines name action ++
    ["            \x7d"]

namespace Blueprint

/-- The loop that follows the actions of the nodes. -/
def loopLogic (b : Blueprint) : Listing :=
  ["    // Start with entry point",
    "    let mut current_node = \"" ++ b.entry ++ "\";",
    "",
    "    loop \x7b",
    "        match current_node \x7b"] ++
    (b.nodes.flatMap fun node => armLines node.name (b.action node.name)) ++
    ["            \"__end__\" | \"END\" => break,",
      "            _ => anyhow::bail!(\"Unknown node: \x7b\x7d\", current_node),",
      "        \x7d",
      "    \x7d",
      ""]

/-- The function that runs the nodes. -/
def executor (b : Blueprint) : Listing :=
  ["/// Execute the compiled graph",
    "async fn execute_graph(mut state: GraphState) -> Result<GraphState> \x7b",
    "    tracing::info!(\"Starting graph execution from entry point: " ++ b.entry ++ "\");",
    ""] ++
    (if b.isConditional then b.loopLogic else b.linearLogic) ++
    ["",
      "    tracing::info!(\"Graph execution completed successfully\");",
      "    Ok(state)",
      "\x7d"]

/-- The whole program, with the source that the blueprint was made from if there is one. -/
def program (b : Blueprint) (source : Option String) (order : NameOrder := .byName)
    (final : Text.FinalReturn := .dropped) : String :=
  formatFile b.imports b.stateStruct.text (b.functions final).text b.executor.text source order

end Blueprint

end Workgraph.Codegen
