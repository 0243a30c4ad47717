import Workgraph.Text.Search
import Workgraph.Value.Basic

/-!
# Values as text

A text is written as it is on its own and within quotes inside a list or a record. A value with an
integer of too many digits in it has a text as any other has, but it is a fault to write it.
-/

namespace Workgraph.Value

mutual

/-- The text of a value inside a list or a record. -/
def inspect : Value → String
  | .null => "None"
  | .bool b => if b then "True" else "False"
  | .int n => toString n
  | .float x => Decimal.text x
  | .text s => Text.quoted s
  | .list items => "[" ++ Text.join ", " (inspectItems items) ++ "]"
  | .record fields => "\x7b" ++ Text.join ", " (inspectFields fields) ++ "\x7d"

def inspectItems : List Value → List String
  | [] => []
  | v :: rest => inspect v :: inspectItems rest

def inspectFields : List (String × Value) → List String
  | [] => []
  | (key, v) :: rest => (Text.quoted key ++ ": " ++ inspect v) :: inspectFields rest

end

/-- The text of a value, however long its integers are. -/
def display : Value → String
  | .text s => s
  | v => inspect v

mutual

/-- Whether no integer in a value has too many digits to be written. -/
def isWritable : Value → Bool
  | .int n => (Nat.toDigits 10 n.natAbs).length ≤ Fault.digitLimit
  | .list items => areWritable items
  | .record fields => haveWritable fields
  | _ => true

def areWritable : List Value → Bool
  | [] => true
  | v :: rest => isWritable v && areWritable rest

def haveWritable : List (String × Value) → Bool
  | [] => true
  | (_, v) :: rest => isWritable v && haveWritable rest

end

/-- Writes the text of a value. -/
def render (v : Value) : Except Fault String :=
  if v.isWritable then .ok v.display else .error (.tooManyDigits none)

@[simp]
theorem render_text (s : String) : (Value.text s).render = .ok s := rfl

def joined (mark : String) (v : Value) : Except Fault String := do
  let parts ← (← v.members).mapM fun
    | .text s => .ok s
    | _ => .error Fault.wrongKind
  return Text.join mark parts

def fixed (places : Nat) (v : Value) : Except Fault String :=
  match v.number? with
  | some a => a.fixed places
  | none => .error .wrongKind

end Workgraph.Value
