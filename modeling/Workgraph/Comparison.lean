import Workgraph.Value.Arithmetic
import Workgraph.Value.Equality
import Workgraph.Value.Render

/-!
# Comparison of states

Two states agree when they have the same fields and the values of each field agree. Numbers agree within a
tolerance; lists have to be equal item by item, and all else has to be equal.
-/

namespace Workgraph.Comparison

/-- The first thing in which two states differ. -/
inductive Contrast where
  | keys (left right : List String)
  | number (key : String) (left right : Value)
  | length (key : String) (left right : Nat)
  | item (key : String) (position : Nat) (left right : Value)
  | value (key : String) (left right : Value)

namespace Contrast

def shownKeys (keys : List String) : String :=
  "dict_keys(" ++ (Value.list (keys.map .text)).inspect ++ ")"

/-- The message about two values, behind what leads up to them. -/
def unequal (lead : String) (left right : Value) : Except Fault String := do
  return lead ++ (← left.render) ++ " != " ++ (← right.render)

/-- Writes the message about a contrast, with the values in it. -/
def message : Contrast → Except Fault String
  | .keys left right =>
    .ok ("Key mismatch: Python=" ++ shownKeys left ++ ", Rust=" ++ shownKeys right)
  | .number key left right => unequal ("Numeric mismatch for '" ++ key ++ "': ") left right
  | .length key left right => .ok s!"List length mismatch for '{key}': {left} != {right}"
  | .item key position left right =>
    unequal s!"List element mismatch for '{key}'[{position}]: " left right
  | .value key left right => unequal ("Value mismatch for '" ++ key ++ "': ") left right

end Contrast

/-- A difference between two states, with the message about it. -/
structure Difference where
  contrast : Contrast
  message : String

def standardTolerance : Value := .float 1e-6

def farApart (tolerance : Value) (a b : Number) : Except Fault Bool := do
  (Value.ofNumber (← a.sub b).abs).greater tolerance

/-- The first position at which two lists differ. -/
def itemContrast (key : String) (position : Nat) : List Value → List Value → Option Contrast
  | x :: xs, y :: ys =>
    if x.same y then itemContrast key (position + 1) xs ys
    else some (.item key position x y)
  | _, _ => none

/-- The contrast between two values of a field. -/
def valueContrast (tolerance : Value) (key : String) (left right : Value) :
    Except Fault (Option Contrast) :=
  match left.number?, right.number? with
  | some a, some b => do
    if ← farApart tolerance a b then return some (.number key left right) else return none
  | _, _ =>
    match left, right with
    | .list xs, .list ys =>
      if xs.length = ys.length then .ok (itemContrast key 0 xs ys)
      else .ok (some (.length key xs.length ys.length))
    | _, _ => .ok (if left.same right then none else some (.value key left right))

/-- The first contrast between fields of the same names. -/
def fieldContrast (tolerance : Value) (right : Fields) :
    Fields → Except Fault (Option Contrast)
  | [] => .ok none
  | (key, x) :: rest => do
    match ← valueContrast tolerance key x (← (Value.record right).field key) with
    | some contrast => return some contrast
    | none => fieldContrast tolerance right rest

def keys (fields : Fields) : List String := fields.map Prod.fst

def sameMembers (left right : List String) : Bool :=
  left.all (right.contains ·) && right.all (left.contains ·)

/-- The first contrast between two states. -/
def contrast (left right tolerance : Value) : Except Fault (Option Contrast) := do
  let left ← left.fields
  let right ← right.fields
  if sameMembers (keys left) (keys right) then fieldContrast tolerance right left
  else return some (.keys (keys left) (keys right))

/-- The first difference between two states. It is a fault if the message cannot be written. -/
def difference (left right tolerance : Value) : Except Fault (Option Difference) := do
  match ← contrast left right tolerance with
  | none => return none
  | some contrast => return some ⟨contrast, ← contrast.message⟩

end Workgraph.Comparison
