import Workgraph.Text.Search
import Workgraph.Value.Basic

/-!
# Equality and order of values

Numbers of all sorts are equal when their exact values are. Lists are equal item by item, records
field by field in any order of the fields. Numbers are ordered by value, texts by code points, and
lists by the first items that differ.
-/

namespace Workgraph.Value

/-- Whether two numbers have the same exact value. -/
def sameNumber (a b : Number) : Bool := a.compare? b == some .eq

/-- Whether a value is a number with the same exact value. -/
def sameAsNumber (a : Number) (w : Value) : Bool :=
  match w.number? with
  | some b => sameNumber a b
  | none => false

mutual

def same : Value → Value → Bool
  | .null, .null => true
  | .text s, .text t => s == t
  | .list xs, .list ys => sameItems xs ys
  | .record xs, .record ys => xs.length == ys.length && sameFields xs ys
  | .bool b, w => sameAsNumber (.int b.toInt) w
  | .int n, w => sameAsNumber (.int n) w
  | .float x, w => sameAsNumber (.float x) w
  | _, _ => false

def sameItems : List Value → List Value → Bool
  | [], [] => true
  | x :: xs, y :: ys => same x y && sameItems xs ys
  | _, _ => false

/-- Whether each field of the first record has an equal one in the second. -/
def sameFields : Fields → Fields → Bool
  | [], _ => true
  | (key, x) :: rest, other =>
    (match Fields.get? key other with
      | some y => same x y
      | none => false) && sameFields rest other

end

/-- Whether a value equals one of a list. -/
def isAmong (x : Value) (items : List Value) : Bool := items.any (same x)

/-- Whether `needle` is in a container: an item of a list, a field name of a record, or a part of a
text. -/
def isIn (needle container : Value) : Except Fault Bool :=
  match container with
  | .list items => .ok (isAmong needle items)
  | .record fields =>
    if needle.isAtom then
      match needle with
      | .text key => .ok (Fields.has key fields)
      | _ => .ok false
    else .error .wrongKind
  | .text s =>
    match needle with
    | .text part => .ok (Text.occurs part.toList s.toList)
    | _ => .error .wrongKind
  | _ => .error .wrongKind

/-- The number of different values in a list of atoms. -/
def distinctCount (items : List Value) : Except Fault Nat :=
  if items.all isAtom then
    .ok (items.foldl (fun seen x => if isAmong x seen then seen else seen ++ [x]) []).length
  else .error .wrongKind

/-- The order of a number and a value. -/
def orderNumber (a : Number) (w : Value) : Except Fault (Option Ordering) :=
  match w.number? with
  | some b => .ok (a.compare? b)
  | none => .error .wrongKind

mutual

/-- The order of two values; none if one of the numbers that decide it is no number. -/
def order : Value → Value → Except Fault (Option Ordering)
  | .text s, .text t => .ok (some (compare s t))
  | .list xs, .list ys => orderItems xs ys
  | .bool b, w => orderNumber (.int b.toInt) w
  | .int n, w => orderNumber (.int n) w
  | .float x, w => orderNumber (.float x) w
  | _, _ => .error .wrongKind

def orderItems : List Value → List Value → Except Fault (Option Ordering)
  | [], [] => .ok (some .eq)
  | [], _ :: _ => .ok (some .lt)
  | _ :: _, [] => .ok (some .gt)
  | x :: xs, y :: ys => if same x y then orderItems xs ys else order x y

end

def less (v w : Value) : Except Fault Bool := do return (← order v w) == some .lt

def atMost (v w : Value) : Except Fault Bool := do
  let found ← order v w
  return found == some .lt || found == some .eq

def greater (v w : Value) : Except Fault Bool := less w v

def atLeast (v w : Value) : Except Fault Bool := atMost w v

end Workgraph.Value
