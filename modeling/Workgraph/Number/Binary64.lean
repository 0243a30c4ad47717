/-!
# Doubles as exact numbers

A finite double is an integer times a power of two. This module reads that integer and that power off
the bits of a double, orders doubles and integers by their exact values, and finds the double nearest
to a fraction of integers.
-/

namespace Workgraph

/-- What a double stands for. -/
inductive Reading where
  | nan
  | infinite (negative : Bool)
  /-- The number `significand * 2 ^ exponent` with its sign; zero has both signs. -/
  | finite (negative : Bool) (significand : Nat) (exponent : Int)

namespace Reading

/-- A significand with its sign. -/
def signed (negative : Bool) (significand : Nat) : Int :=
  if negative then -(significand : Int) else significand

/-- The order of `a * 2 ^ p` and `b * 2 ^ q`. -/
def compareScaled (a : Int) (p : Int) (b : Int) (q : Int) : Ordering :=
  compare (a * Int.pow 2 (p - q).toNat) (b * Int.pow 2 (q - p).toNat)

/-- The order of two numbers; none if one of them is no number. -/
def compare? : Reading → Reading → Option Ordering
  | .nan, _ => none
  | _, .nan => none
  | .infinite s, .infinite t => some (compare t s)
  | .infinite s, .finite .. => some (if s then .lt else .gt)
  | .finite .., .infinite t => some (if t then .gt else .lt)
  | .finite s m p, .finite t n q => some (compareScaled (signed s m) p (signed t n) q)

end Reading

namespace Binary64

/-- Takes a double apart. -/
def read (x : Float) : Reading :=
  let bits : Nat := x.toBits.toNat
  let negative := bits / Nat.pow 2 63 == 1
  let exponent : Nat := bits / Nat.pow 2 52 % Nat.pow 2 11
  let fraction := bits % Nat.pow 2 52
  if exponent = 2047 then
    if fraction = 0 then .infinite negative else .nan
  else if exponent = 0 then
    .finite negative fraction (-1074)
  else
    .finite negative (Nat.pow 2 52 + fraction) ((exponent : Int) - 1075)

/-- The quotient rounded to the nearest integer, a half to the even one. -/
def divideRounding (num den : Nat) : Nat :=
  let floor := num / den
  let rest := num % den
  if 2 * rest < den then floor
  else if den < 2 * rest then floor + 1
  else floor + floor % 2

/-- The bits from which on a positive double is infinite. -/
def infinityBits : Nat := 2047 * Nat.pow 2 52

/-- The fraction `num / den` counted in units of `2 ^ unit`, as a fraction. -/
def inUnits (num den : Nat) (unit : Int) : Nat × Nat :=
  (num * Nat.pow 2 (-unit).toNat, den * Nat.pow 2 unit.toNat)

/-- The binary exponent of the last place of the double nearest to `num / den`. -/
def lastPlace (num den : Nat) : Int :=
  let low : Int := max ((num.log2 : Int) - den.log2 - 53) (-1074)
  let (a, b) := inUnits num den low
  if a / b < Nat.pow 2 53 then low else low + 1

/-- The bits of the positive double nearest to `num / den`, ties to even. They are at least
`infinityBits` when the fraction is out of range. -/
def nearestBits (num den : Nat) : Nat :=
  if num = 0 then 0
  else
    let unit := lastPlace num den
    let (a, b) := inUnits num den unit
    (unit + 1074).toNat * Nat.pow 2 52 + divideRounding a b

/-- The double with the given sign and magnitude bits. -/
def ofMagnitude (negative : Bool) (bits : Nat) : Float :=
  Float.ofBits (UInt64.ofNat (if negative then Nat.pow 2 63 + bits else bits))

/-- The double nearest to a fraction; none if it is out of range. -/
def ofRatio? (negative : Bool) (num den : Nat) : Option Float :=
  let bits := nearestBits num den
  if bits < infinityBits then some (ofMagnitude negative bits) else none

/-- The double nearest to an integer; none if it is out of range. -/
def ofInt? (n : Int) : Option Float := ofRatio? (n < 0) n.natAbs 1

/-- The double nearest to an integer; an infinity beyond the range. -/
def nearest (n : Int) : Float :=
  ofMagnitude (n < 0) (min (nearestBits n.natAbs 1) infinityBits)

def ofNat (n : Nat) : Float := nearest n

/-- The double nearest to `digits * 10 ^ exponent`; an infinity beyond the range. -/
def ofDecimal (negative : Bool) (digits : Nat) (exponent : Int) : Float :=
  let size : Int := (Nat.toDigits 10 digits).length + exponent
  if digits = 0 || size < -400 then ofMagnitude negative 0
  else if 400 < size then ofMagnitude negative infinityBits
  else
    let bits := nearestBits (digits * Nat.pow 10 exponent.toNat) (Nat.pow 10 (-exponent).toNat)
    ofMagnitude negative (min bits infinityBits)

end Binary64

end Workgraph
