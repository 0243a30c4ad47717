import Workgraph.Text.Numeral
import Workgraph.Value.Basic

/-!
# Arithmetic of values

Addition joins numbers, texts or lists; a product with a whole number repeats a text or a list.
Values of other kinds take no part in arithmetic.
-/

namespace Workgraph.Value

/-- The whole number that a value is. -/
def whole? : Value → Option Int
  | .bool b => some b.toInt
  | .int n => some n
  | _ => none

def number (v : Value) : Except Fault Number :=
  match v.number? with
  | some a => .ok a
  | none => .error .wrongKind

/-- The sum of two numbers, or one text or list after the other. -/
def add (v w : Value) : Except Fault Value :=
  match v, w with
  | .text s, .text t => .ok (.text (s ++ t))
  | .list xs, .list ys => .ok (.list (xs ++ ys))
  | v, w => do return ofNumber (← (← v.number).add (← w.number))

/-- The bound that a machine word sets to counts and lengths. -/
def wordBound : Nat := Nat.pow 2 63

/-- The most characters or items that fit into memory. The machine sets this bound and not the program; here it
stands for a machine with 64 GiB and one byte for each character or item. -/
def capacity : Nat := Nat.pow 2 36

/-- The count that a whole number stands for: none if it is negative. -/
def repetitions (count : Value) : Except Fault Nat :=
  match count.whole? with
  | some n => if -wordBound ≤ n ∧ n < wordBound then .ok n.toNat else .error .countTooLarge
  | none => .error .wrongKind

/-- How often a text of some length is repeated. -/
def textRepetitions (length : Nat) (count : Value) : Except Fault Nat := do
  let n ← repetitions count
  if wordBound ≤ length * n then .error .textTooLong
  else if capacity < length * n then .error .outOfMemory
  else return n

/-- How often a list of some length is repeated. -/
def listRepetitions (length : Nat) (count : Value) : Except Fault Nat := do
  let n ← repetitions count
  if capacity < length * n then .error .outOfMemory else return n

/-- The items so many times after one another. -/
def repeated (n : Nat) : List α → List α
  | [] => []
  | items => (List.replicate n items).flatten

def repeatText (s : String) (count : Value) : Except Fault Value := do
  return ofChars (repeated (← textRepetitions s.length count) s.toList)

def repeatList (items : List Value) (count : Value) : Except Fault Value := do
  return .list (repeated (← listRepetitions items.length count) items)

/-- The product of two numbers, or a text or list repeated. -/
def mul (v w : Value) : Except Fault Value :=
  match v, w with
  | .text s, w => repeatText s w
  | .list xs, w => repeatList xs w
  | v, .text s => repeatText s v
  | v, .list xs => repeatList xs v
  | v, w => do return ofNumber (← (← v.number).mul (← w.number))

/-- The product of two values that has to be a number; a text or list that could be repeated is of the
wrong kind. -/
def product (v w : Value) : Except Fault Number :=
  match v, w with
  | .text s, w => do let _ ← textRepetitions s.length w; .error .wrongKind
  | .list xs, w => do let _ ← listRepetitions xs.length w; .error .wrongKind
  | v, .text s => do let _ ← textRepetitions s.length v; .error .wrongKind
  | v, .list xs => do let _ ← listRepetitions xs.length v; .error .wrongKind
  | v, w => do (← v.number).mul (← w.number)

def divide (v w : Value) : Except Fault Value := do
  return .float (← (← v.number).divide (← w.number))

def power (v : Value) (exponent : Nat) : Except Fault Value := do
  return ofNumber (← (← v.number).power exponent)

/-- The sum of the values from the left, starting from zero. -/
def total (values : List Value) : Except Fault Value := values.foldlM add (.int 0)

/-- The integer that a number is cut to, or that a text reads as. -/
def toInt : Value → Except Fault Int
  | .text s => Numeral.readInt s
  | v => do (← v.number).truncate

/-- The double nearest to a number, or that a text reads as. -/
def toFloat : Value → Except Fault Float
  | .text s => Numeral.readFloat s
  | v => do (← v.number).toFloat

end Workgraph.Value
