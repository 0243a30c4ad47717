import Workgraph.Codegen.TypeHint

/-!
# Type mappers

A type mapper knows types for some hints as a whole, and maps the others by their shape.
-/

namespace Workgraph.Codegen

/-- Hints with a type of their own, the latest first. -/
structure TypeMapper where
  custom : List (String × TargetType) := []

namespace TypeMapper

def add (mapper : TypeMapper) (hint : String) (type : TargetType) : TypeMapper :=
  { mapper with custom := (hint, type) :: mapper.custom }

def map (mapper : TypeMapper) (hint : String) : TargetType :=
  match mapper.custom.lookup hint with
  | some type => type
  | none => TypeHint.toType hint.toList

end TypeMapper

end Workgraph.Codegen
