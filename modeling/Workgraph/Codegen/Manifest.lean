import Workgraph.Codegen.Listing

/-!
# Package files

The manifest of a generated package, which is named after the file that it was generated from, and the
skeleton of its tests.
-/

namespace Workgraph.Codegen

/-- The last name of a path: slashes at its end and steps to the same folder do not count. A path that
ends with a step to the folder above has none. -/
def fileName? (path : List Char) : Option (List Char) :=
  let names := (Text.splitAt '/' path).filter fun name => !name.isEmpty && name != ['.']
  match names.getLast? with
  | some name => if name = ['.', '.'] then none else some name
  | none => none

/-- A file name up to its last dot; a dot at its start does not count. -/
def stem (name : List Char) : List Char :=
  match name.reverse.dropWhile (· != '.') with
  | [] => name
  | _ :: before => if before.isEmpty then name else before.reverse

/-- The name of the package for a path. -/
def packageName (path : String) : String :=
  match fileName? path.toList with
  | some name => String.ofList (stem name)
  | none => "generated_graph"

def manifest (path : String) : String :=
  Listing.text [
    "[package]",
    "name = \"" ++ packageName path ++ "\"",
    "version = \"0.1.0\"",
    "edition = \"2021\"",
    "",
    "[dependencies]",
    "tokio = \x7b version = \"1.40\", features = [\"full\"] \x7d",
    "serde = \x7b version = \"1.0\", features = [\"derive\"] \x7d",
    "serde_json = \"1.0\"",
    "anyhow = \"1.0\"",
    "async-trait = \"0.1\"",
    "langgraph-runtime = \"0.1\"",
    ""]

def testSkeleton : String :=
  Listing.text [
    "#[cfg(test)]",
    "mod tests \x7b",
    "    use super::*;",
    "",
    "    #[tokio::test]",
    "    async fn test_graph_execution() \x7b",
    "        let initial_state = GraphState::new();",
    "        let result = run_graph(initial_state).await.unwrap();",
    "        // TODO: Add assertions",
    "    \x7d",
    "\x7d",
    ""]

end Workgraph.Codegen
