import Workgraph.Text.Search

/-!
# File trees

Folders and files below a root folder, and the file that a path leads to. A path is followed step by step, so that
each folder on the way has to exist. Names and paths have a largest size.
-/

namespace Workgraph

/-- Folders and files by the steps that lead to them from the root. -/
structure FileTree (α : Type) where
  folders : List (List String)
  files : List (List String × α)

/-- What is found at a path. -/
inductive Lookup (α : Type) where
  | found (file : α)
  | absent
  | nameTooLong
deriving DecidableEq, Repr

namespace FileTree

def nameLimit : Nat := 255

def pathLimit : Nat := 4095

/-- The steps of a path; empty ones and those to the same folder do not count. -/
def steps (path : List Char) : List String :=
  ((Text.splitAt '/' path).filter fun step => !step.isEmpty && step != ['.']).map String.ofList

/-- Whether a path begins with a slash and so stands for itself. -/
def isAbsolute (path : String) : Bool := path.toList.head? == some '/'

/-- The folder above one of the tree; there is none for the root. -/
def parent? : List String → Option (List String)
  | [] => none
  | folder => some folder.dropLast

/-- The folder that a step leads to. A folder outside the tree is `none`, and nothing is known in it. -/
def enter (tree : FileTree α) (folder : Option (List String)) (step : String) :
    Lookup (Option (List String)) :=
  if nameLimit < step.utf8ByteSize then .nameTooLong
  else if step = ".." then .found (folder.bind parent?)
  else
    match folder with
    | none => .absent
    | some place =>
      if tree.folders.contains (place ++ [step]) then .found (some (place ++ [step])) else .absent

def file (tree : FileTree α) (folder : Option (List String)) (name : String) : Lookup α :=
  if nameLimit < name.utf8ByteSize then .nameTooLong
  else
    match folder.bind fun place => tree.files.lookup (place ++ [name]) with
    | some file => .found file
    | none => .absent

/-- The file that steps from a folder lead to. -/
def follow (tree : FileTree α) (folder : Option (List String)) : List String → Lookup α
  | [] => .absent
  | [name] => tree.file folder name
  | step :: rest =>
    match tree.enter folder step with
    | .found next => tree.follow next rest
    | .absent => .absent
    | .nameTooLong => .nameTooLong

end FileTree

end Workgraph
