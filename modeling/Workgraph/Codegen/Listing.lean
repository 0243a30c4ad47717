import Workgraph.Table
import Workgraph.Text.Search

/-!
# Listings

A listing is code as a list of lines. This module has the layout that all generated code shares: comments,
indentation, and the parts of a file.
-/

namespace Workgraph.Codegen

/-- The lines of some code. -/
abbrev Listing := List String

namespace Listing

/-- The text of a listing, with a newline between two lines. -/
def text (lines : Listing) : String := Text.join "\n" lines

def ofText (final : Text.FinalReturn) (s : String) : Listing :=
  (Text.lines final s.toList).map String.ofList

/-- The listings with an empty line between two of them; one empty line if there is none. -/
def blocks : List Listing → Listing
  | [] => [""]
  | [block] => block
  | block :: rest => block ++ "" :: blocks rest

end Listing

/-- A text as a documentation comment, line by line. -/
def docComment (s : String) (final : Text.FinalReturn := .dropped) : String :=
  Listing.text ((Listing.ofText final s).map fun line => "/// " ++ line)

/-- A text with each line moved in by four blanks a level; lines of white space become empty. -/
def indent (s : String) (level : Nat) (final : Text.FinalReturn := .dropped) : String :=
  let margin := String.ofList (List.replicate (4 * level) ' ')
  Listing.text ((Listing.ofText final s).map fun line =>
    if line.toList.all Text.isWhite then "" else margin ++ line)

/-- The lines that begin a generated file, with the source that it was made from if there is one. -/
def fileHeader (source : Option String) : Listing :=
  ["// Generated by langgraph-rs", "// Do not edit this file manually", ""] ++
    match source with
    | some code => ["/*", "Original Python code:", "", code, "*/", ""]
    | none => []

def importLines (order : NameOrder) (imports : List String) : Listing :=
  ["use serde::\x7bDeserialize, Serialize\x7d;",
    "use anyhow::\x7bResult, Context\x7d;",
    "use async_trait::async_trait;"] ++
    (order.list imports).map fun path => "use " ++ path ++ ";"

/-- The function through which a generated file is used. -/
def entryPoint : Listing := [
  "/// Main entry point for executing the graph",
  "pub async fn run_graph(initial_state: GraphState) -> Result<GraphState> \x7b",
  "    execute_graph(initial_state).await",
  "\x7d",
  ""]

def formatFile (imports : List String) (stateStruct functions executor : String)
    (source : Option String) (order : NameOrder := .byName) : String :=
  Listing.text (fileHeader source ++ importLines order imports ++
    ["", stateStruct, "", functions, "", executor, ""] ++ entryPoint)

end Workgraph.Codegen
