/-!
# Types of generated code

The Rust types that fields of a generated state can have, how they are written, and what has to be
imported for them.
-/

namespace Workgraph.Codegen

/-- A type of the generated code. -/
inductive TargetType where
  | text
  | int32
  | int64
  | float32
  | float64
  | bool
  | sequence (item : TargetType)
  | mapping (key value : TargetType)
  | optional (inner : TargetType)
  | json
  | custom (name : String)
  | unit
  deriving DecidableEq, Repr, Inhabited

namespace TargetType

def code : TargetType → String
  | .text => "String"
  | .int32 => "i32"
  | .int64 => "i64"
  | .float32 => "f32"
  | .float64 => "f64"
  | .bool => "bool"
  | .sequence item => "Vec<" ++ item.code ++ ">"
  | .mapping key value => "HashMap<" ++ key.code ++ ", " ++ value.code ++ ">"
  | .optional inner => "Option<" ++ inner.code ++ ">"
  | .json => "serde_json::Value"
  | .custom name => name
  | .unit => "()"

def imports : TargetType → List String
  | .mapping _ _ => ["std::collections::HashMap"]
  | .json => ["serde_json::Value"]
  | .sequence inner | .optional inner => inner.imports
  | _ => []

def isOptional : TargetType → Bool
  | .optional _ => true
  | _ => false

end TargetType

end Workgraph.Codegen
