import Workgraph.FileTree
import Workgraph.Walk

/-!
# Validation of workflow files

A workflow file is named on the command line, looked up below a folder, and run on an empty state; the
result is reported.
-/

namespace Workgraph.Validation

/-- Where the commands of the validation look for files: a tree in which each file offers a workflow for a
run or none, how its root is shown, and the bytes of the path to it. -/
structure Place where
  root : String
  rootSize : Nat
  tree : FileTree (Option Workflow)

namespace Place

/-- A path below a folder as it is shown. -/
def shown (place : Place) (folder : List String) (path : String) : String :=
  let steps := FileTree.steps path.toList
  if FileTree.isAbsolute path then
    (if (path.toList.takeWhile (· == '/')).length = 2 then "//" else "/") ++ Text.join "/" steps
  else Text.join "/" (place.root :: folder ++ steps)

/-- The bytes of a path below a folder. -/
def pathSize (place : Place) (folder : List String) (path : String) : Nat :=
  let size := (place.shown folder path).utf8ByteSize
  if FileTree.isAbsolute path then size else place.rootSize + size - place.root.utf8ByteSize

/-- The file at a path below a folder. No path has a null character. -/
def find (place : Place) (folder : List String) (path : String) : Lookup (Option Workflow) :=
  if path.toList.contains '\x00' then .absent
  else if FileTree.pathLimit < place.pathSize folder path then .nameTooLong
  else
    place.tree.follow (if FileTree.isAbsolute path then none else some folder)
      (FileTree.steps path.toList)

end Place

/-- What a run of the command prints, and the code that it ends with. -/
structure Report where
  lines : List String
  code : Nat

def nodeLimit : Nat := 1000

/-- The report on a run of a workflow on an empty state. -/
def reportRun (place : Place) (name : String) (workflow : Workflow) : Report :=
  let walk := workflow.walk nodeLimit { state := .record [] }
  match walk.ending with
  | .failed fault => ⟨["❌ Error: " ++ fault.message?.getD ""], 1⟩
  | _ =>
    match walk.session.state.render with
    | .error fault => ⟨["❌ Error: " ++ fault.message?.getD ""], 1⟩
    | .ok shown =>
      ⟨["Python result: " ++ shown,
        "",
        "⚠️  Rust binary not found: " ++ place.shown ["target", "debug"] name,
        "Skipping Rust comparison"], 0⟩

def reportFile (place : Place) (name : String) (file : Option Workflow) : Report :=
  let report :=
    match file with
    | some workflow => reportRun place name workflow
    | none => ⟨["❌ Error: module 'workflow' has no attribute 'graph'"], 1⟩
  { report with
    lines :=
      ["Validating " ++ name ++ "...", String.ofList (List.replicate 60 '='),
        "Running Python workflow..."] ++ report.lines }

/-- The report on the file that the first argument names, or none if its name is too long to look for. -/
def report? (place : Place) : List String → Option Report
  | [] => some ⟨["Usage: compare_outputs.py <workflow_name>"], 1⟩
  | name :: _ =>
    let path := name ++ ".py"
    match place.find ["tests", "fixtures"] path with
    | .found file => some (reportFile place name file)
    | .absent => some ⟨["Python workflow not found: " ++ place.shown ["tests", "fixtures"] path], 1⟩
    | .nameTooLong => none

end Workgraph.Validation
