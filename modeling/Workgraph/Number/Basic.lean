import Workgraph.Fault
import Workgraph.Number.Decimal

/-!
# Numbers

A number is an integer of any size or a double. Integers stay integers under addition and
multiplication; once a double takes part the result is a double. Numbers of both sorts are ordered by
their exact values.
-/

namespace Workgraph

/-- An integer or a double. -/
inductive Number where
  | int (n : Int)
  | float (x : Float)

namespace Number

/-- The exact value. -/
def reading : Number → Reading
  | .int n => .finite (n < 0) n.natAbs 0
  | .float x => Binary64.read x

/-- The order of two numbers; none if one of them is no number. -/
def compare? (a b : Number) : Option Ordering := a.reading.compare? b.reading

/-- The nearest double. -/
def toFloat : Number → Except Fault Float
  | .int n =>
    match Binary64.ofInt? n with
    | some x => .ok x
    | none => .error .integerTooLarge
  | .float x => .ok x

/-- An operation that is exact on integers and else rounds to a double. -/
def combine (onInts : Int → Int → Int) (onFloats : Float → Float → Float) :
    Number → Number → Except Fault Number
  | .int m, .int n => .ok (.int (onInts m n))
  | a, b => do return .float (onFloats (← a.toFloat) (← b.toFloat))

def add : Number → Number → Except Fault Number := combine (· + ·) (· + ·)

def sub : Number → Number → Except Fault Number := combine (· - ·) (· - ·)

def mul : Number → Number → Except Fault Number := combine (· * ·) (· * ·)

def abs : Number → Number
  | .int n => .int n.natAbs
  | .float x => .float x.abs

/-- The quotient as a double; that of two integers is rounded once. -/
def divide : Number → Number → Except Fault Float
  | .int m, .int n =>
    if n = 0 then .error .divisionByZero
    else
      match Binary64.ofRatio? (decide (m < 0) != decide (n < 0)) m.natAbs n.natAbs with
      | some x => .ok x
      | none => .error .quotientTooLarge
  | a, b => do
    let x ← a.toFloat
    let y ← b.toFloat
    if y == 0 then .error .divisionByZero else .ok (x / y)

/-- The power of a double with a double as exponent. -/
@[noinline]
def floatPower (base exponent : Float) : Except Fault Float :=
  let result := Float.pow base exponent
  if result.isInf && base.isFinite then .error .powerTooLarge else .ok result

/-- The power with a natural exponent. -/
def power (base : Number) (exponent : Nat) : Except Fault Number :=
  match base with
  | .int n => .ok (.int (Int.pow n exponent))
  | .float x => do return .float (← floatPower x (Binary64.ofNat exponent))

/-- The integer part. -/
def truncate : Number → Except Fault Int
  | .int n => .ok n
  | .float x =>
    match Binary64.read x with
    | .nan => .error .integerOfNan
    | .infinite _ => .error .integerOfInfinity
    | .finite negative m e =>
      .ok (Reading.signed negative (m * Nat.pow 2 e.toNat / Nat.pow 2 (-e).toNat))

def text : Number → String
  | .int n => toString n
  | .float x => Decimal.text x

/-- The text of a number with a fixed number of places. -/
def fixed (places : Nat) (a : Number) : Except Fault String := do
  return Decimal.fixed places (← a.toFloat)

end Number

end Workgraph
